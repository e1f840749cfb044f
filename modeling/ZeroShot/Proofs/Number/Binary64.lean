import ZeroShot.Proofs.Number.Packing

/-! The order of binary64 numbers.

The order is that of the numbers themselves: both zeros are equal, and a NaN is not even at most
itself. -/

namespace ZeroShot

open Float.Model Float.Model.UnpackedFloat

instance : LE Binary64 := ⟨fun x y => x.toFloat ≤ y.toFloat⟩

instance : DecidableLE Binary64 := fun x y => inferInstanceAs (Decidable (x.toFloat ≤ y.toFloat))

namespace Binary64

def unpacked (x : Binary64) : UnpackedFloat := UnpackedFloat.unpack .binary64 x.bits.toBitVec

theorem toNat_unpackExponent (x : Binary64) :
    (@unpackExponent .binary64 x.bits.toBitVec).toNat =
      x.bits.toNat / 2 ^ 52 % 2048 := by
  rw [unpackExponent_def, BitVec.extractLsb'_toNat, Nat.shiftRight_eq_div_pow]
  rfl

theorem toNat_unpackMantissa (x : Binary64) :
    (@unpackMantissa .binary64 x.bits.toBitVec).toNat = x.bits.toNat % 2 ^ 52 := by
  rw [unpackMantissa_def, BitVec.extractLsb'_toNat, Nat.shiftRight_zero]
  rfl

theorem toNat_magnitudeBits (x : Binary64) : x.magnitudeBits.toNat = x.bits.toNat % 2 ^ 63 := by
  unfold magnitudeBits
  rw [UInt64.toNat_and]
  exact Nat.and_two_pow_sub_one_eq_mod x.bits.toNat 63

theorem isNaN_iff (x : Binary64) :
    x.isNaN = true ↔ x.bits.toNat / 2 ^ 52 % 2048 = 2047 ∧ x.bits.toNat % 2 ^ 52 ≠ 0 := by
  unfold isNaN
  rw [decide_eq_true_iff, gt_iff_lt, UInt64.lt_iff_toNat_lt, toNat_magnitudeBits,
    show (0x7ff0000000000000 : UInt64).toNat = 2047 * 2 ^ 52 from rfl]
  omega

theorem unpacked_special {x : Binary64} (h : x.bits.toNat / 2 ^ 52 % 2048 = 2047) :
    x.unpacked = if x.bits.toNat % 2 ^ 52 = 0 then
      .infinity (Sign.ofBitVec (@unpackSign .binary64 x.bits.toBitVec))
    else .notANumber := by
  have hexponent : @unpackExponent .binary64 x.bits.toBitVec = -1#11 := by
    apply BitVec.eq_of_toNat_eq
    rw [toNat_unpackExponent, h]
    rfl
  have hmantissa : @unpackMantissa .binary64 x.bits.toBitVec = 0#52 ↔
      x.bits.toNat % 2 ^ 52 = 0 := by
    rw [← BitVec.toNat_inj, toNat_unpackMantissa]
    rfl
  unfold unpacked UnpackedFloat.unpack
  simp only [hmantissa]
  rw [if_pos hexponent]

theorem isFinite_unpacked_of_regular {x : Binary64} (h : x.bits.toNat / 2 ^ 52 % 2048 ≠ 2047) :
    x.unpacked.isFinite = true := by
  have hexponent : @unpackExponent .binary64 x.bits.toBitVec ≠ -1#11 := by
    intro hspecial
    apply h
    rw [← toNat_unpackExponent, hspecial]
    rfl
  unfold unpacked UnpackedFloat.unpack
  dsimp only
  rw [if_neg hexponent]
  split
  · split <;> rfl
  · rfl

theorem mantissa_eq_zero {x : Binary64} (h : x.isNaN = false)
    (hexponent : x.bits.toNat / 2 ^ 52 % 2048 = 2047) : x.bits.toNat % 2 ^ 52 = 0 := by
  by_contra hmantissa
  rw [x.isNaN_iff.2 ⟨hexponent, hmantissa⟩] at h
  cases h

theorem unpacked_of_isNaN {x : Binary64} (h : x.isNaN = true) : x.unpacked = .notANumber := by
  obtain ⟨hexponent, hmantissa⟩ := x.isNaN_iff.1 h
  rw [unpacked_special hexponent, if_neg hmantissa]

theorem isNaN_eq_false_of_canonical {x : Binary64} (h : Canonical x.unpacked) :
    x.isNaN = false := by
  rw [Bool.eq_false_iff]
  intro hnan
  rw [unpacked_of_isNaN hnan] at h
  exact h

theorem canonical_unpacked {x : Binary64} (h : x.isNaN = false) : Canonical x.unpacked := by
  apply canonical_unpack
  intro hnan
  change x.unpacked = .notANumber at hnan
  by_cases hexponent : x.bits.toNat / 2 ^ 52 % 2048 = 2047
  · rw [unpacked_special hexponent, if_pos (mantissa_eq_zero h hexponent)] at hnan
    cases hnan
  · have hfinite := isFinite_unpacked_of_regular hexponent
    rw [hnan] at hfinite
    cases hfinite

theorem isFinite_unpacked {x : Binary64} (h : x.isNaN = false) (hpos : x ≠ posInf)
    (hneg : x ≠ negInf) : x.unpacked.isFinite = true := by
  apply isFinite_unpacked_of_regular
  intro hexponent
  have hmantissa := mantissa_eq_zero h hexponent
  have hlt : x.bits.toNat < 2 ^ 64 := x.bits.toNat_lt
  have hbits : x.bits.toNat = 0x7ff0000000000000 ∨ x.bits.toNat = 0xfff0000000000000 := by omega
  rcases hbits with hbits | hbits
  · exact hpos (congrArg mk (UInt64.toNat.inj hbits))
  · exact hneg (congrArg mk (UInt64.toNat.inj hbits))

theorem unpack_toFloat (x : Binary64) : x.toFloat.toModel.unpack = x.unpacked := by
  show UnpackedFloat.unpack .binary64 (UnpackedFloat.pack .binary64 x.unpacked) = x.unpacked
  cases h : x.isNaN with
  | true =>
    rw [unpacked_of_isNaN h]
    rfl
  | false =>
    have hcanonical := canonical_unpacked h
    rw [unpack_pack hcanonical.rounded]
    cases hunpacked : x.unpacked with
    | finite sign m e hm =>
      rw [hunpacked] at hcanonical
      exact saturate_of_lt hcanonical.2
    | _ => rfl

def level (x : Binary64) : Int := ZeroShot.level x.unpacked

theorem toFloat_lt_iff {x y : Binary64} (hx : x.isNaN = false) (hy : y.isNaN = false) :
    x.toFloat < y.toFloat ↔ x.level < y.level := by
  show decide (x.toFloat.toModel.unpack.lt y.toFloat.toModel.unpack = true) = true ↔ _
  rw [decide_eq_true_iff, unpack_toFloat, unpack_toFloat,
    lt_iff_level_lt (canonical_unpacked hx) (canonical_unpacked hy)]
  rfl

theorem le_iff_unpacked {x y : Binary64} : x ≤ y ↔ x.unpacked.le y.unpacked = true := by
  show decide (x.toFloat.toModel.unpack.le y.toFloat.toModel.unpack = true) = true ↔ _
  rw [decide_eq_true_iff, unpack_toFloat, unpack_toFloat]

theorem le_iff {x y : Binary64} :
    x ≤ y ↔ x.isNaN = false ∧ y.isNaN = false ∧ x.level ≤ y.level := by
  rw [le_iff_unpacked]
  cases hx : x.isNaN with
  | true =>
    rw [unpacked_of_isNaN hx]
    simp [UnpackedFloat.le, UnpackedFloat.compare]
  | false =>
    cases hy : y.isNaN with
    | true =>
      rw [unpacked_of_isNaN hy]
      cases x.unpacked <;> simp [UnpackedFloat.le, UnpackedFloat.compare]
    | false =>
      rw [le_iff_level_le (canonical_unpacked hx) (canonical_unpacked hy)]
      simp [level]

theorem isNaN_eq_false_iff_le_self {x : Binary64} : x.isNaN = false ↔ x ≤ x := by
  rw [le_iff]
  simp

theorem le_trans {x y z : Binary64} (hxy : x ≤ y) (hyz : y ≤ z) : x ≤ z := by
  rw [le_iff] at hxy hyz ⊢
  exact ⟨hxy.1, hyz.2.1, hxy.2.2.trans hyz.2.2⟩

theorem max_greatest {x y : Binary64} (hx : x ≤ x) (hy : y ≤ y) :
    x ≤ x.max y ∧ y ≤ x.max y ∧ (x.max y = x ∨ x.max y = y) := by
  rw [← isNaN_eq_false_iff_le_self] at hx hy
  have hmax : x.max y = if x.toFloat < y.toFloat then y else x := by
    rw [max, hx, hy]
    rfl
  rw [hmax]
  split
  · next hlt =>
    rw [toFloat_lt_iff hx hy] at hlt
    exact ⟨le_iff.2 ⟨hx, hy, hlt.le⟩, le_iff.2 ⟨hy, hy, le_rfl⟩, .inr rfl⟩
  · next hge =>
    rw [toFloat_lt_iff hx hy] at hge
    exact ⟨le_iff.2 ⟨hx, hx, le_rfl⟩, le_iff.2 ⟨hy, hx, Int.not_lt.1 hge⟩, .inl rfl⟩

theorem eq_negInf_of_le {x : Binary64} (h : x ≤ negInf) : x = negInf := by
  by_contra hneg
  have hpos : x ≠ posInf := by
    rintro rfl
    exact absurd h (by decide)
  obtain ⟨hnan, -, hlevel⟩ := le_iff.1 h
  have hlow := neg_infiniteUnits_lt_level (canonical_unpacked hnan)
    (isFinite_unpacked hnan hpos hneg)
  exact absurd hlevel (Int.not_le.2 hlow)

theorem eq_posInf_of_le {x : Binary64} (h : posInf ≤ x) : x = posInf := by
  by_contra hpos
  have hneg : x ≠ negInf := by
    rintro rfl
    exact absurd h (by decide)
  obtain ⟨-, hnan, hlevel⟩ := le_iff.1 h
  have hhigh := level_lt_infiniteUnits (canonical_unpacked hnan)
    (isFinite_unpacked hnan hpos hneg)
  exact absurd hlevel (Int.not_le.2 hhigh)

theorem zero_le_iff {x : Binary64} : zero ≤ x ↔ x.isNaN = false ∧ 0 ≤ x.level := by
  rw [le_iff]
  exact and_iff_right rfl

theorem le_zero_iff {x : Binary64} : x ≤ zero ↔ x.isNaN = false ∧ x.level ≤ 0 := by
  rw [le_iff]
  exact and_congr_right fun _ => and_iff_right rfl

theorem level_le_infiniteUnits {x : Binary64} (h : x.isNaN = false) : x.level ≤ infiniteUnits :=
  (canonical_unpacked h).level_le

theorem negInf_le {x : Binary64} (h : x.isNaN = false) : negInf ≤ x := by
  by_cases hneg : x = negInf
  · exact hneg ▸ (by decide : negInf ≤ negInf)
  by_cases hpos : x = posInf
  · exact hpos ▸ (by decide : negInf ≤ posInf)
  · have hlow := neg_infiniteUnits_lt_level (canonical_unpacked h) (isFinite_unpacked h hpos hneg)
    exact le_iff.2 ⟨rfl, h, hlow.le⟩

theorem le_posInf {x : Binary64} (h : x.isNaN = false) : x ≤ posInf :=
  le_iff.2 ⟨h, rfl, level_le_infiniteUnits h⟩

end Binary64

end ZeroShot
