import ZeroShot.Proofs.Number.Binary64

/-! The total order of all binary64 values.

It is the order of numbers, extended to the two zeros and to NaNs as IEEE 754 says (5.10). Since
the numbers of one sign are in the order of their bits, all values are in the order of an integer
that is read off their bits. -/

namespace ZeroShot

open Float.Model Float.Model.UnpackedFloat

theorem and_two_pow_ne_zero_iff {n k : Nat} (h : n < 2 ^ (k + 1)) :
    n &&& 2 ^ k ≠ 0 ↔ 2 ^ k ≤ n := by
  have hpos := Nat.two_pow_pos k
  have hdiv : n / 2 ^ k < 2 := Nat.div_lt_of_lt_mul (by rwa [← pow_succ])
  rw [Nat.and_two_pow, Nat.testBit_eq_decide_div_mod_eq, Nat.mod_eq_of_lt hdiv,
    ← Nat.one_le_div_iff hpos]
  interval_cases n / 2 ^ k <;> simp

namespace Binary64

def payload (x : Binary64) : Nat := x.bits.toNat % 2 ^ 52

/-- The value `x` comes before `y` in the total order. -/
inductive Precedes : Binary64 → Binary64 → Prop
  | number {x y : Binary64} : x.isNaN = false → y.isNaN = false → x.toFloat < y.toFloat →
      Precedes x y
  | zeros : Precedes zero.neg zero
  | negativeNaN {x y : Binary64} : x.isNaN = true → x.isNegative = true → y.isNaN = false →
      Precedes x y
  | positiveNaN {x y : Binary64} : x.isNaN = false → y.isNaN = true → y.isNegative = false →
      Precedes x y
  | signs {x y : Binary64} : x.isNaN = true → y.isNaN = true → x.isNegative = true →
      y.isNegative = false → Precedes x y
  | positivePayload {x y : Binary64} : x.isNaN = true → y.isNaN = true → x.isNegative = false →
      y.isNegative = false → x.payload < y.payload → Precedes x y
  | negativePayload {x y : Binary64} : x.isNaN = true → y.isNaN = true → x.isNegative = true →
      y.isNegative = true → y.payload < x.payload → Precedes x y

theorem isNegative_iff (x : Binary64) : x.isNegative = true ↔ 2 ^ 63 ≤ x.bits.toNat := by
  unfold isNegative
  rw [bne_iff_ne, ne_eq, ← UInt64.toNat_inj, UInt64.toNat_and]
  exact and_two_pow_ne_zero_iff x.bits.toNat_lt

/-- How many units the number has whose bits, leaving out the sign, are `n`. -/
def unitsOfBits (n : Nat) : Nat :=
  if n / 2 ^ 52 = 0 then n else (2 ^ 52 + n % 2 ^ 52) * 2 ^ (n / 2 ^ 52 - 1)

theorem strictMono_unitsOfBits : StrictMono unitsOfBits := by
  apply strictMono_nat_of_lt_succ
  intro n
  unfold unitsOfBits
  by_cases hcarry : n % 2 ^ 52 + 1 < 2 ^ 52
  · rw [show (n + 1) / 2 ^ 52 = n / 2 ^ 52 by omega,
      show (n + 1) % 2 ^ 52 = n % 2 ^ 52 + 1 by omega]
    split
    · exact n.lt_succ_self
    · exact Nat.mul_lt_mul_of_pos_right (by omega) (Nat.two_pow_pos _)
  · rw [show (n + 1) / 2 ^ 52 = n / 2 ^ 52 + 1 by omega,
      show (n + 1) % 2 ^ 52 = 0 by omega, if_neg (Nat.succ_ne_zero _), Nat.add_sub_cancel]
    split
    · next hzero =>
      rw [hzero]
      omega
    · next hpos =>
      obtain ⟨e, he⟩ := Nat.exists_eq_succ_of_ne_zero hpos
      rw [he, Nat.succ_sub_one]
      calc (2 ^ 52 + n % 2 ^ 52) * 2 ^ e < 2 ^ 53 * 2 ^ e :=
            Nat.mul_lt_mul_of_pos_right (by omega) (Nat.two_pow_pos e)
        _ = (2 ^ 52 + 0) * 2 ^ (e + 1) := by ring

theorem ofBitVec_unpackSign (x : Binary64) :
    Sign.ofBitVec (@unpackSign .binary64 x.bits.toBitVec) =
      if x.isNegative then .negative else .positive := by
  have hlt : x.bits.toNat < 2 ^ 64 := x.bits.toNat_lt
  have hsign : @unpackSign .binary64 x.bits.toBitVec = 0#1 ↔ x.bits.toNat < 2 ^ 63 := by
    rw [← BitVec.toNat_inj, unpackSign_def, BitVec.extractLsb'_toNat, Nat.shiftRight_eq_div_pow]
    show x.bits.toNat / 2 ^ 63 % 2 = 0 ↔ _
    omega
  have hnegative := x.isNegative_iff
  unfold Sign.ofBitVec
  by_cases h : x.bits.toNat < 2 ^ 63
  · rw [if_pos (hsign.2 h), if_neg (mt hnegative.1 (by omega))]
  · rw [if_neg (mt hsign.1 h), if_pos (hnegative.2 (by omega))]

theorem units_eq_unitsOfBits {m n : Nat} {e : Int} (hexponent : (n / 2 ^ 52 : Nat) = e + 1075)
    (hpos : n / 2 ^ 52 ≠ 0) (hmantissa : m = 2 ^ 52 + n % 2 ^ 52) :
    units m e = unitsOfBits n := by
  rw [units, unitsOfBits, if_neg hpos, hmantissa]
  congr 2
  omega

theorem level_eq {x : Binary64} (h : x.isNaN = false) :
    x.level = (if x.isNegative then Sign.negative else .positive).apply
      (unitsOfBits x.magnitudeBits.toNat) := by
  have hmagnitude := x.toNat_magnitudeBits
  have hexponent := x.toNat_unpackExponent
  have hmantissa := x.toNat_unpackMantissa
  rw [← ofBitVec_unpackSign, level]
  by_cases hspecial : x.bits.toNat / 2 ^ 52 % 2048 = 2047
  · -- an infinity lies where the next finite number would be
    have hzero := mantissa_eq_zero h hspecial
    rw [unpacked_special hspecial, if_pos hzero, ZeroShot.level, infiniteUnits]
    rw [units_eq_unitsOfBits (n := x.magnitudeBits.toNat) (by omega) (by omega) (by omega)]
  · have hregular : @unpackExponent .binary64 x.bits.toBitVec ≠ -1#11 := by
      intro hall
      rw [hall] at hexponent
      exact hspecial hexponent.symm
    unfold unpacked UnpackedFloat.unpack
    dsimp only
    rw [if_neg hregular, exponentBias_binary64]
    split
    · next hsubnormal =>
      rw [hsubnormal] at hexponent
      change 0 = _ at hexponent
      have hsmall : unitsOfBits x.magnitudeBits.toNat = x.magnitudeBits.toNat := by
        rw [unitsOfBits, if_pos (by omega)]
      split
      · next hzero =>
        rw [hzero] at hmantissa
        change 0 = _ at hmantissa
        rw [hsmall, show x.magnitudeBits.toNat = 0 by omega]
        cases Sign.ofBitVec (@unpackSign .binary64 x.bits.toBitVec) <;> rfl
      · rw [ZeroShot.level, hsmall, units, hsubnormal]
        congr 2
        show _ * 1 = _
        omega
    · next hnormal =>
      have hpos : (@unpackExponent .binary64 x.bits.toBitVec).toNat ≠ 0 :=
        fun hzero => hnormal (BitVec.eq_of_toNat_eq hzero)
      rw [ZeroShot.level, units_eq_unitsOfBits (n := x.magnitudeBits.toNat) (by omega) (by omega)]
      rw [toNat_one_append]
      omega

theorem level_eq_zero_iff {x : Binary64} (h : x.isNaN = false) :
    x.level = 0 ↔ x.magnitudeBits = 0 := by
  have hpos := strictMono_unitsOfBits.lt_iff_lt (a := 0) (b := x.magnitudeBits.toNat)
  have hzero : unitsOfBits 0 = 0 := rfl
  rw [level_eq h, ← UInt64.toNat_inj, UInt64.toNat_zero]
  cases x.isNegative <;> simp [Sign.apply] <;> omega

theorem isNaN_iff_lt_magnitude (x : Binary64) :
    x.isNaN = true ↔ 2047 * 2 ^ 52 < x.magnitudeBits.toNat := by
  unfold isNaN
  rw [decide_eq_true_iff, gt_iff_lt, UInt64.lt_iff_toNat_lt]
  rfl

theorem payload_eq (x : Binary64) : x.payload = x.magnitudeBits.toNat % 2 ^ 52 := by
  rw [payload, toNat_magnitudeBits]
  omega

theorem ext_iff_magnitude {x y : Binary64} :
    x = y ↔ x.isNegative = y.isNegative ∧ x.magnitudeBits.toNat = y.magnitudeBits.toNat := by
  constructor
  · rintro rfl
    exact ⟨rfl, rfl⟩
  · rintro ⟨hsign, hmagnitude⟩
    have hx := x.isNegative_iff
    have hy := y.isNegative_iff
    have hxlt : x.bits.toNat < 2 ^ 64 := x.bits.toNat_lt
    have hylt : y.bits.toNat < 2 ^ 64 := y.bits.toNat_lt
    rw [toNat_magnitudeBits, toNat_magnitudeBits] at hmagnitude
    rw [hsign, hy] at hx
    exact congrArg mk (UInt64.toNat.inj (by omega))

theorem rank_of_negative {x : Binary64} (h : x.isNegative = true) :
    x.rank = -1 - (x.magnitudeBits.toNat : Int) := if_pos h

theorem rank_of_positive {x : Binary64} (h : x.isNegative = false) :
    x.rank = x.magnitudeBits.toNat := by
  rw [rank, h]
  rfl

theorem rank_injective : Function.Injective rank := by
  intro x y h
  rw [ext_iff_magnitude]
  unfold rank at h
  cases hx : x.isNegative <;> cases hy : y.isNegative <;>
    simp only [hx, hy, if_true, if_false, Bool.false_eq_true] at h <;>
    simp <;> omega

theorem toFloat_lt_iff_magnitude {x y : Binary64} (hx : x.isNaN = false) (hy : y.isNaN = false) :
    x.toFloat < y.toFloat ↔ if x.isNegative then
        if y.isNegative then y.magnitudeBits.toNat < x.magnitudeBits.toNat
        else 0 < x.magnitudeBits.toNat ∨ 0 < y.magnitudeBits.toNat
      else y.isNegative = false ∧ x.magnitudeBits.toNat < y.magnitudeBits.toNat := by
  have hzero : unitsOfBits 0 = 0 := rfl
  have hxpos := strictMono_unitsOfBits.lt_iff_lt (a := 0) (b := x.magnitudeBits.toNat)
  have hypos := strictMono_unitsOfBits.lt_iff_lt (a := 0) (b := y.magnitudeBits.toNat)
  have hxy := strictMono_unitsOfBits.lt_iff_lt (a := x.magnitudeBits.toNat)
    (b := y.magnitudeBits.toNat)
  have hyx := strictMono_unitsOfBits.lt_iff_lt (a := y.magnitudeBits.toNat)
    (b := x.magnitudeBits.toNat)
  rw [toFloat_lt_iff hx hy, level_eq hx, level_eq hy]
  cases x.isNegative <;> cases y.isNegative <;> simp [Sign.apply] <;> omega

theorem isNaN_eq_false_iff_magnitude_le (x : Binary64) :
    x.isNaN = false ↔ x.magnitudeBits.toNat ≤ 2047 * 2 ^ 52 := by
  rw [← Bool.not_eq_true, isNaN_iff_lt_magnitude, Nat.not_lt]

theorem magnitude_lt (x : Binary64) : x.magnitudeBits.toNat < 2 ^ 63 := by
  rw [toNat_magnitudeBits]
  exact Nat.mod_lt _ (by decide)

theorem magnitude_of_isNaN {x : Binary64} (h : x.isNaN = true) :
    x.magnitudeBits.toNat = 2047 * 2 ^ 52 + x.payload := by
  have hlt := x.magnitude_lt
  rw [isNaN_iff_lt_magnitude] at h
  rw [payload_eq]
  omega

theorem Precedes.rank_lt {x y : Binary64} (h : Precedes x y) : x.rank < y.rank := by
  cases h with
  | number hx hy hlt =>
    rw [toFloat_lt_iff_magnitude hx hy] at hlt
    unfold rank
    cases hxsign : x.isNegative <;> cases hysign : y.isNegative <;>
      simp only [hxsign, hysign, if_true, if_false, Bool.false_eq_true, reduceCtorEq, true_and,
        false_and] at hlt ⊢ <;> omega
  | zeros => decide
  | negativeNaN hx hsign hy =>
    rw [isNaN_iff_lt_magnitude] at hx
    rw [isNaN_eq_false_iff_magnitude_le] at hy
    rw [rank_of_negative hsign, rank]
    split <;> omega
  | positiveNaN hx hy hsign =>
    rw [isNaN_iff_lt_magnitude] at hy
    rw [isNaN_eq_false_iff_magnitude_le] at hx
    rw [rank_of_positive hsign, rank]
    split <;> omega
  | signs hx hy hxsign hysign =>
    rw [rank_of_negative hxsign, rank_of_positive hysign]
    omega
  | positivePayload hx hy hxsign hysign hlt =>
    rw [rank_of_positive hxsign, rank_of_positive hysign, magnitude_of_isNaN hx,
      magnitude_of_isNaN hy]
    omega
  | negativePayload hx hy hxsign hysign hlt =>
    rw [rank_of_negative hxsign, rank_of_negative hysign, magnitude_of_isNaN hx,
      magnitude_of_isNaN hy]
    omega

theorem precedes_of_numbers {x y : Binary64} (hx : x.isNaN = false) (hy : y.isNaN = false)
    (h : x.rank < y.rank) : Precedes x y := by
  by_cases hlt : x.toFloat < y.toFloat
  · exact .number hx hy hlt
  · -- only the zeros are equal as numbers and yet have different bits
    rw [toFloat_lt_iff_magnitude hx hy] at hlt
    unfold rank at h
    cases hxsign : x.isNegative <;> cases hysign : y.isNegative <;>
      simp only [hxsign, hysign, if_true, if_false, Bool.false_eq_true, reduceCtorEq, true_and,
        false_and] at hlt h
    · omega
    · omega
    · have hxzero : x.magnitudeBits.toNat = 0 := by omega
      have hyzero : y.magnitudeBits.toNat = 0 := by omega
      obtain rfl : x = zero.neg := ext_iff_magnitude.2 ⟨hxsign, hxzero⟩
      obtain rfl : y = zero := ext_iff_magnitude.2 ⟨hysign, hyzero⟩
      exact .zeros
    · omega

theorem precedes_of_NaNs {x y : Binary64} (hx : x.isNaN = true) (hy : y.isNaN = true)
    (h : x.rank < y.rank) : Precedes x y := by
  have hxmagnitude := magnitude_of_isNaN hx
  have hymagnitude := magnitude_of_isNaN hy
  unfold rank at h
  cases hxsign : x.isNegative <;> cases hysign : y.isNegative <;>
    simp only [hxsign, hysign, if_true, if_false, Bool.false_eq_true] at h
  · exact .positivePayload hx hy hxsign hysign (by omega)
  · omega
  · exact .signs hx hy hxsign hysign
  · exact .negativePayload hx hy hxsign hysign (by omega)

/-- The total order is the order of ranks. -/
theorem precedes_iff_rank_lt {x y : Binary64} : Precedes x y ↔ x.rank < y.rank := by
  refine ⟨Precedes.rank_lt, ?_⟩
  intro h
  cases hx : x.isNaN <;> cases hy : y.isNaN
  · exact precedes_of_numbers hx hy h
  · have hxle := x.isNaN_eq_false_iff_magnitude_le.1 hx
    have hytop := y.isNaN_iff_lt_magnitude.1 hy
    refine .positiveNaN hx hy ?_
    by_contra hsign
    rw [Bool.not_eq_false] at hsign
    unfold rank at h
    rw [if_pos hsign] at h
    split at h <;> omega
  · have hxtop := x.isNaN_iff_lt_magnitude.1 hx
    have hyle := y.isNaN_eq_false_iff_magnitude_le.1 hy
    refine .negativeNaN hx ?_ hy
    by_contra hsign
    unfold rank at h
    rw [if_neg hsign] at h
    split at h <;> omega
  · exact precedes_of_NaNs hx hy h

end Binary64

end ZeroShot
