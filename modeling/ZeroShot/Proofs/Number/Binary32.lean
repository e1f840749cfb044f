import ZeroShot.Proofs.Number.TotalOrder

/-! Binary32 values as binary64 ones.

Every number of binary32 is one of binary64, so widening gives the same number and keeps the
order. -/

namespace ZeroShot

open Float.Model.UnpackedFloat

namespace Binary32

theorem toNat_magnitudeBits (x : Binary32) : x.magnitudeBits.toNat = x.bits.toNat % 2 ^ 31 := by
  unfold magnitudeBits
  rw [UInt32.toNat_and]
  exact Nat.and_two_pow_sub_one_eq_mod x.bits.toNat 31

theorem fraction_eq (x : Binary32) : x.fraction = x.bits.toNat % 2 ^ 23 := by
  unfold fraction
  rw [UInt32.toNat_and]
  exact Nat.and_two_pow_sub_one_eq_mod x.bits.toNat 23

theorem biasedExponent_eq (x : Binary32) : x.biasedExponent = x.bits.toNat / 2 ^ 23 % 2 ^ 8 := by
  unfold biasedExponent
  rw [UInt32.toNat_and, UInt32.toNat_shiftRight, Nat.shiftRight_eq_div_pow]
  exact Nat.and_two_pow_sub_one_eq_mod (x.bits.toNat / 2 ^ 23) 8

theorem isNaN_iff (x : Binary32) :
    x.isNaN = true ↔ x.biasedExponent = 0xff ∧ x.fraction ≠ 0 := by
  unfold isNaN
  rw [decide_eq_true_iff, gt_iff_lt, UInt32.lt_iff_toNat_lt, toNat_magnitudeBits, fraction_eq,
    biasedExponent_eq, show (0x7f800000 : UInt32).toNat = 255 * 2 ^ 23 from rfl]
  omega

theorem fraction_lt (x : Binary32) : x.fraction < 2 ^ 23 := by
  rw [fraction_eq]
  exact Nat.mod_lt _ (by decide)

theorem biasedExponent_lt (x : Binary32) : x.biasedExponent < 2 ^ 8 := by
  rw [biasedExponent_eq]
  exact Nat.mod_lt _ (by decide)

theorem fraction_of_special {x : Binary32} (h : x.isNaN = false)
    (hspecial : x.biasedExponent = 255) : x.fraction = 0 := by
  by_contra hne
  rw [x.isNaN_iff.2 ⟨hspecial, hne⟩] at h
  cases h

theorem shifted_fraction_between {f : Nat} (hpos : f ≠ 0) (hlt : f < 2 ^ 23) :
    2 ^ 52 ≤ f * 2 ^ (52 - f.log2) ∧ f * 2 ^ (52 - f.log2) < 2 ^ 53 := by
  have htop : f.log2 < 23 := (Nat.log2_lt hpos).2 hlt
  constructor
  · calc 2 ^ 52 = 2 ^ f.log2 * 2 ^ (52 - f.log2) := by rw [← pow_add]; congr 1; omega
      _ ≤ f * 2 ^ (52 - f.log2) := Nat.mul_le_mul_right _ (Nat.log2_self_le hpos)
  · calc f * 2 ^ (52 - f.log2) < 2 ^ (f.log2 + 1) * 2 ^ (52 - f.log2) :=
          Nat.mul_lt_mul_of_pos_right Nat.lt_log2_self (Nat.two_pow_pos _)
      _ = 2 ^ 53 := by rw [← pow_add]; congr 1; omega

theorem widenMagnitude_lt {x : Binary32} (hregular : x.biasedExponent ≠ 255) :
    x.widenMagnitude < 2047 * 2 ^ 52 := by
  have hfraction := x.fraction_lt
  have hexponent := x.biasedExponent_lt
  unfold widenMagnitude
  split
  · split
    · decide
    · next hzero =>
      have htop : x.fraction.log2 < 23 := (Nat.log2_lt hzero).2 hfraction
      have hshift := shifted_fraction_between hzero hfraction
      simp only [Nat.shiftLeft_eq]
      omega
  · simp only [Nat.shiftLeft_eq]
    omega

theorem widenMagnitude_of_special {x : Binary32} (h : x.isNaN = false)
    (hspecial : x.biasedExponent = 255) : x.widenMagnitude = 2047 * 2 ^ 52 := by
  rw [widenMagnitude, fraction_of_special h hspecial, hspecial]
  rfl

theorem widenMagnitude_le {x : Binary32} (h : x.isNaN = false) :
    x.widenMagnitude ≤ 2047 * 2 ^ 52 := by
  by_cases hspecial : x.biasedExponent = 255
  · exact (widenMagnitude_of_special h hspecial).le
  · exact (widenMagnitude_lt hspecial).le

theorem magnitude_widen {x : Binary32} (h : x.isNaN = false) :
    x.widen.bits.toNat % 2 ^ 63 = x.widenMagnitude := by
  have hlt : x.widenMagnitude < 2 ^ 63 := lt_of_le_of_lt (widenMagnitude_le h) (by decide)
  have hsign : (if x.isNegative then 0x8000000000000000 else 0 : UInt64).toNat % 2 ^ 63 = 0 := by
    split <;> rfl
  unfold widen
  rw [h]
  simp only [UInt64.toNat_or, UInt64.toNat_ofNat', Nat.or_mod_two_pow, hsign]
  rw [Nat.mod_eq_of_lt (Nat.lt_trans hlt (by decide)), Nat.mod_eq_of_lt hlt]
  exact Nat.zero_or _

theorem isNaN_widen {x : Binary32} (h : x.isNaN = false) : x.widen.isNaN = false := by
  have hle := widenMagnitude_le h
  have hmagnitude := magnitude_widen h
  rw [Bool.eq_false_iff]
  intro hnan
  obtain ⟨hexponent, hfraction⟩ := x.widen.isNaN_iff.1 hnan
  omega

def posInf : Binary32 := ⟨0x7f800000⟩
def negInf : Binary32 := ⟨0xff800000⟩

/-- The multiple of `2 ^ (-149)` that the magnitude is. An infinity counts as the first power of two
above all finite numbers. -/
def units (x : Binary32) : Nat :=
  if x.biasedExponent = 0 then x.fraction else (2 ^ 23 + x.fraction) * 2 ^ (x.biasedExponent - 1)

def level (x : Binary32) : Int := if x.isNegative then -(x.units : Int) else x.units

/-- The order of the numbers; a NaN is not even at most itself. -/
instance : LE Binary32 := ⟨fun x y => x.isNaN = false ∧ y.isNaN = false ∧ x.level ≤ y.level⟩

instance : DecidableLE Binary32 := fun x y =>
  inferInstanceAs (Decidable (x.isNaN = false ∧ y.isNaN = false ∧ x.level ≤ y.level))

theorem units_of_special {x : Binary32} (h : x.isNaN = false) (hspecial : x.biasedExponent = 255) :
    x.units = 2 ^ 23 * 2 ^ 254 := by
  rw [units, hspecial, fraction_of_special h hspecial]
  rfl

theorem units_lt {x : Binary32} (hregular : x.biasedExponent ≠ 255) :
    x.units < 2 ^ 23 * 2 ^ 254 := by
  have hfraction := x.fraction_lt
  have hexponent := x.biasedExponent_lt
  unfold units
  split
  · omega
  · calc (2 ^ 23 + x.fraction) * 2 ^ (x.biasedExponent - 1)
        ≤ (2 ^ 23 + x.fraction) * 2 ^ 253 :=
          Nat.mul_le_mul_left _ (Nat.pow_le_pow_right (by decide) (by omega))
      _ < 2 ^ 24 * 2 ^ 253 := Nat.mul_lt_mul_of_pos_right (by omega) (Nat.two_pow_pos 253)
      _ = 2 ^ 23 * 2 ^ 254 := by rw [← pow_add, ← pow_add]

theorem unitsOfBits_add {e n : Nat} (he : 0 < e) (hn : n < 2 ^ 52) :
    Binary64.unitsOfBits (e * 2 ^ 52 + n) = (2 ^ 52 + n) * 2 ^ (e - 1) := by
  unfold Binary64.unitsOfBits
  rw [show (e * 2 ^ 52 + n) / 2 ^ 52 = e by omega, show (e * 2 ^ 52 + n) % 2 ^ 52 = n by omega,
    if_neg he.ne']

theorem unitsOfBits_widenMagnitude {x : Binary32} (hregular : x.biasedExponent ≠ 255) :
    Binary64.unitsOfBits x.widenMagnitude = x.units * 2 ^ 925 := by
  have hfraction := x.fraction_lt
  unfold widenMagnitude units
  by_cases hexponent : x.biasedExponent = 0
  · rw [if_pos hexponent, if_pos hexponent]
    by_cases hzero : x.fraction = 0
    · rw [if_pos hzero, hzero, Nat.zero_mul]
      rfl
    · have htop : x.fraction.log2 < 23 := (Nat.log2_lt hzero).2 hfraction
      obtain ⟨hlow, hhigh⟩ := shifted_fraction_between hzero hfraction
      rw [if_neg hzero]
      simp only [Nat.shiftLeft_eq]
      rw [unitsOfBits_add (by omega) (by omega), show (2 ^ 52 +
        (x.fraction * 2 ^ (52 - x.fraction.log2) - 0x10000000000000)) =
        x.fraction * 2 ^ (52 - x.fraction.log2) by omega, Nat.mul_assoc, ← pow_add,
        show 52 - x.fraction.log2 + (874 + x.fraction.log2 - 1) = 925 by omega]
  · have hplaces : 29 + (x.biasedExponent + 896 - 1) = x.biasedExponent - 1 + 925 := by omega
    rw [if_neg hexponent, if_neg hregular, if_neg hexponent, Nat.shiftLeft_eq, Nat.shiftLeft_eq,
      unitsOfBits_add (by omega) (by omega),
      show 2 ^ 52 + x.fraction * 2 ^ 29 = (2 ^ 23 + x.fraction) * 2 ^ 29 by omega,
      Nat.mul_assoc, Nat.mul_assoc, ← pow_add, ← pow_add, hplaces]

theorem widenMagnitude_mono {x y : Binary32} (hx : x.isNaN = false) (hy : y.isNaN = false)
    (h : x.units ≤ y.units) : x.widenMagnitude ≤ y.widenMagnitude := by
  by_cases hyspecial : y.biasedExponent = 255
  · rw [widenMagnitude_of_special hy hyspecial]
    exact widenMagnitude_le hx
  have hxregular : x.biasedExponent ≠ 255 := by
    intro hxspecial
    have hlt := units_lt hyspecial
    rw [units_of_special hx hxspecial] at h
    omega
  rw [← Binary64.strictMono_unitsOfBits.le_iff_le, unitsOfBits_widenMagnitude hxregular,
    unitsOfBits_widenMagnitude hyspecial]
  exact Nat.mul_le_mul_right _ h

theorem toNat_widen {x : Binary32} (h : x.isNaN = false) :
    x.widen.bits.toNat = (if x.isNegative then 2 ^ 63 else 0) ||| x.widenMagnitude := by
  have hlt : x.widenMagnitude < 2 ^ 64 := lt_of_le_of_lt (widenMagnitude_le h) (by decide)
  unfold widen
  rw [h]
  simp only [UInt64.toNat_or, UInt64.toNat_ofNat']
  rw [Nat.mod_eq_of_lt hlt]
  cases x.isNegative <;> rfl

theorem isNegative_widen {x : Binary32} (h : x.isNaN = false) :
    x.widen.isNegative = x.isNegative := by
  have hlt : x.widenMagnitude < 2 ^ 63 := lt_of_le_of_lt (widenMagnitude_le h) (by decide)
  rw [Bool.eq_iff_iff, Binary64.isNegative_iff, toNat_widen h]
  cases x.isNegative with
  | false => simpa using hlt
  | true => simpa using Nat.left_le_or

theorem level_widen {x : Binary32} (h : x.isNaN = false) :
    x.widen.level = (if x.isNegative then Sign.negative else .positive).apply
      (Binary64.unitsOfBits x.widenMagnitude) := by
  rw [Binary64.level_eq (isNaN_widen h), isNegative_widen h, Binary64.toNat_magnitudeBits,
    magnitude_widen h]

theorem unitsOfBits_widenMagnitude_of_zero {x : Binary32} (h : x.isNaN = false)
    (hzero : x.units = 0) : Binary64.unitsOfBits x.widenMagnitude = 0 := by
  have hregular : x.biasedExponent ≠ 255 := by
    intro hspecial
    have hpos := units_of_special h hspecial
    omega
  rw [unitsOfBits_widenMagnitude hregular, hzero, Nat.zero_mul]

theorem widen_le_widen {x y : Binary32} (h : x ≤ y) : x.widen ≤ y.widen := by
  obtain ⟨hx, hy, hlevel⟩ := h
  refine Binary64.le_iff.2 ⟨isNaN_widen hx, isNaN_widen hy, ?_⟩
  have hmono {v w : Binary32} (hv : v.isNaN = false) (hw : w.isNaN = false)
      (h : v.units ≤ w.units) :=
    Binary64.strictMono_unitsOfBits.monotone (widenMagnitude_mono hv hw h)
  rw [level_widen hx, level_widen hy]
  unfold level at hlevel
  cases hxsign : x.isNegative <;> cases hysign : y.isNegative <;>
    simp only [hxsign, hysign, if_true, if_false, Bool.false_eq_true, Sign.apply] at hlevel ⊢
  · have := hmono hx hy (by omega)
    omega
  · -- zeros of both signs
    rw [unitsOfBits_widenMagnitude_of_zero hx (by omega),
      unitsOfBits_widenMagnitude_of_zero hy (by omega)]
    decide
  · omega
  · have := hmono hy hx (by omega)
    omega

theorem isNegative_iff (x : Binary32) : x.isNegative = true ↔ 2 ^ 31 ≤ x.bits.toNat := by
  unfold isNegative
  rw [bne_iff_ne, ne_eq, ← UInt32.toNat_inj, UInt32.toNat_and]
  exact and_two_pow_ne_zero_iff x.bits.toNat_lt

theorem widen_eq_posInf_iff {x : Binary32} (h : x.isNaN = false) :
    x.widen = .posInf ↔ x = posInf := by
  constructor
  · intro heq
    have hmagnitude := magnitude_widen h
    have hsign := isNegative_widen h
    rw [heq] at hmagnitude hsign
    have hspecial : x.biasedExponent = 255 := by
      by_contra hregular
      exact absurd hmagnitude (widenMagnitude_lt hregular).ne'
    have hfraction := fraction_of_special h hspecial
    have hpositive := mt x.isNegative_iff.2 (by rw [← hsign]; decide)
    rw [biasedExponent_eq] at hspecial
    rw [fraction_eq] at hfraction
    exact congrArg mk (UInt32.toNat.inj (show x.bits.toNat = 0x7f800000 by omega))
  · rintro rfl
    rfl

end Binary32

end ZeroShot
