import Mathlib
import ZeroShot.Number.Binary

/-! Numbers of binary64 as whole multiples of the least positive one.

They are compared by exponent first and mantissa second, which agrees with the order of the
multiples, because a mantissa with a greater exponent uses all of its places. -/

namespace ZeroShot

open Float.Model Float.Model.UnpackedFloat

/-- The multiple of `2 ^ (-1074)` that `m * 2 ^ e` is. -/
def units (m : Nat) (e : Int) : Nat := m * 2 ^ (e + 1074).toNat

/-- The mantissa and the exponent have their binary64 form, up to overflow. -/
structure Fits (m : Nat) (e : Int) : Prop where
  lt : m < 2 ^ 53
  le : -1074 ≤ e
  full : 2 ^ 52 ≤ m ∨ e = -1074

theorem units_add (m : Nat) {e : Int} (n : Nat) (h : -1074 ≤ e) :
    units m (e + n) = units (m * 2 ^ n) e := by
  unfold units
  rw [show (e + n + 1074).toNat = n + (e + 1074).toNat by omega, pow_add, Nat.mul_assoc]

theorem units_pos {m : Nat} (h : 0 < m) (e : Int) : 0 < units m e :=
  Nat.mul_pos h (Nat.two_pow_pos _)

theorem units_le_units_left {m m' : Nat} (h : m ≤ m') (e : Int) : units m e ≤ units m' e :=
  Nat.mul_le_mul_right _ h

theorem units_lt_units_left {m m' : Nat} (h : m < m') (e : Int) : units m e < units m' e :=
  Nat.mul_lt_mul_of_pos_right h (Nat.two_pow_pos _)

theorem units_lt_units_of_lt {m m' : Nat} {e e' : Int} (h : Fits m e) (hfull : 2 ^ 52 ≤ m')
    (he : e < e') : units m e < units m' e' := by
  obtain ⟨n, rfl⟩ : ∃ n : Nat, e' = e + (n + 1 : Nat) := ⟨(e' - e - 1).toNat, by omega⟩
  rw [units_add m' (n + 1) h.le]
  apply units_lt_units_left
  calc m < 2 ^ 52 * 2 := h.lt
    _ ≤ m' * 2 ^ (n + 1) := Nat.mul_le_mul hfull (Nat.le_self_pow (by omega) 2)

theorem Fits.full_of_lt {m m' : Nat} {e e' : Int} (h : Fits m e) (h' : Fits m' e') (he : e < e') :
    2 ^ 52 ≤ m' := by
  have hle := h.le
  exact h'.full.resolve_right (by omega)

theorem compare_units {m m' : Nat} {e e' : Int} (h : Fits m e) (h' : Fits m' e') :
    (compare e e').then (compare m m') = compare (units m e) (units m' e') := by
  rcases lt_trichotomy e e' with he | rfl | he
  · have hlt := units_lt_units_of_lt h (h.full_of_lt h' he) he
    rw [Int.compare_eq_lt.2 he, Nat.compare_eq_lt.2 hlt]
    rfl
  · rw [Int.compare_eq_eq.2 rfl]
    rcases lt_trichotomy m m' with hm | rfl | hm
    · rw [Nat.compare_eq_lt.2 hm, Nat.compare_eq_lt.2 (units_lt_units_left hm e)]
      rfl
    · rw [Nat.compare_eq_eq.2 rfl, Nat.compare_eq_eq.2 rfl]
      rfl
    · rw [Nat.compare_eq_gt.2 hm, Nat.compare_eq_gt.2 (units_lt_units_left hm e)]
      rfl
  · have hlt := units_lt_units_of_lt h' (h'.full_of_lt h he) he
    rw [Int.compare_eq_gt.2 he, Nat.compare_eq_gt.2 hlt]
    rfl

/-- What an infinity counts as: the first power of two above all finite numbers. -/
def infiniteUnits : Nat := units (2 ^ 52) 972

def level : UnpackedFloat → Int
  | .notANumber => 0
  | .zero _ => 0
  | .infinity sign => sign.apply infiniteUnits
  | .finite sign m e _ => sign.apply (units m e)

def Rounded : UnpackedFloat → Prop
  | .notANumber => False
  | .zero _ => True
  | .infinity _ => True
  | .finite _ m e _ => Fits m e

/-- A number as binary64 holds it. -/
def Canonical : UnpackedFloat → Prop
  | .finite _ m e _ => Fits m e ∧ e < 972
  | x => Rounded x

theorem fits_infiniteUnits : Fits (2 ^ 52) 972 := ⟨by decide, by decide, .inl le_rfl⟩

theorem infiniteUnits_pos : 0 < infiniteUnits := units_pos (Nat.two_pow_pos 52) 972

theorem units_lt_infiniteUnits {m : Nat} {e : Int} (h : Fits m e) (he : e < 972) :
    units m e < infiniteUnits :=
  units_lt_units_of_lt h le_rfl he

theorem infiniteUnits_le_units {m : Nat} {e : Int} (h : Fits m e) (he : 972 ≤ e) :
    infiniteUnits ≤ units m e := by
  have hfull : 2 ^ 52 ≤ m := h.full.resolve_right (by omega)
  rcases eq_or_lt_of_le he with rfl | he
  · exact units_le_units_left hfull 972
  · exact (units_lt_units_of_lt fits_infiniteUnits hfull he).le

theorem Rounded.fits {sign : Sign} {m : Nat} {e : Int} {hm : 0 < m}
    (h : Rounded (.finite sign m e hm)) : Fits m e := h

theorem Canonical.rounded {x : UnpackedFloat} (h : Canonical x) : Rounded x := by
  cases x with
  | finite sign m e hm => exact h.1
  | _ => exact h

theorem Canonical.level_le {x : UnpackedFloat} (h : Canonical x) : level x ≤ infiniteUnits := by
  have htop := infiniteUnits_pos
  cases x with
  | notANumber => exact Int.natCast_nonneg _
  | zero sign => exact Int.natCast_nonneg _
  | infinity sign => cases sign <;> simp only [level, Sign.apply] <;> omega
  | finite sign m e hm =>
    have hlt := units_lt_infiniteUnits h.1 h.2
    cases sign <;> simp only [level, Sign.apply] <;> omega

theorem neg_infiniteUnits_lt_level {x : UnpackedFloat} (h : Canonical x)
    (hfinite : x.isFinite = true) : -(infiniteUnits : Int) < level x := by
  have htop := infiniteUnits_pos
  cases x with
  | notANumber => exact h.elim
  | infinity sign => cases hfinite
  | zero sign =>
    show -(infiniteUnits : Int) < 0
    omega
  | finite sign m e hm =>
    have hlt := units_lt_infiniteUnits h.1 h.2
    cases sign <;> simp only [level, Sign.apply] <;> omega

theorem level_lt_infiniteUnits {x : UnpackedFloat} (h : Canonical x) (hfinite : x.isFinite = true) :
    level x < infiniteUnits := by
  have htop := infiniteUnits_pos
  cases x with
  | notANumber => exact h.elim
  | infinity sign => cases hfinite
  | zero sign => exact Int.natCast_pos.2 htop
  | finite sign m e hm =>
    have hlt := units_lt_infiniteUnits h.1 h.2
    cases sign <;> simp only [level, Sign.apply] <;> omega

theorem compare_natCast (a b : Nat) : compare (a : Int) b = compare a b := by
  rcases lt_trichotomy a b with h | rfl | h
  · rw [Nat.compare_eq_lt.2 h, Int.compare_eq_lt.2 (by omega)]
  · rw [Nat.compare_eq_eq.2 rfl, Int.compare_eq_eq.2 rfl]
  · rw [Nat.compare_eq_gt.2 h, Int.compare_eq_gt.2 (by omega)]

theorem compare_neg_natCast (a b : Nat) : compare (-(a : Int)) (-b) = (compare a b).swap := by
  rcases lt_trichotomy a b with h | rfl | h
  · rw [Nat.compare_eq_lt.2 h, Int.compare_eq_gt.2 (by omega)]
    rfl
  · rw [Nat.compare_eq_eq.2 rfl, Int.compare_eq_eq.2 rfl]
    rfl
  · rw [Nat.compare_eq_gt.2 h, Int.compare_eq_lt.2 (by omega)]
    rfl

theorem some_lt_eq_compare {a b : Int} (h : a < b) : some Ordering.lt = some (compare a b) :=
  congrArg some (Int.compare_eq_lt.2 h).symm

theorem some_gt_eq_compare {a b : Int} (h : b < a) : some Ordering.gt = some (compare a b) :=
  congrArg some (Int.compare_eq_gt.2 h).symm

theorem compare_zero_left (s : Sign) {y : UnpackedFloat} (hy : Canonical y) :
    UnpackedFloat.compare (.zero s) y = some (compare 0 (level y)) := by
  have htop := infiniteUnits_pos
  cases y with
  | notANumber => exact hy.elim
  | zero s' => rfl
  | infinity s' =>
    cases s' with
    | negative => exact some_gt_eq_compare (by simp only [level, Sign.apply]; omega)
    | positive => exact some_lt_eq_compare (by simp only [level, Sign.apply]; omega)
  | finite s' m' e' hm' =>
    have hpos := units_pos hm' e'
    cases s' with
    | negative => exact some_gt_eq_compare (by simp only [level, Sign.apply]; omega)
    | positive => exact some_lt_eq_compare (by simp only [level, Sign.apply]; omega)

theorem compare_zero_right (s : Sign) {x : UnpackedFloat} (hx : Canonical x) :
    UnpackedFloat.compare x (.zero s) = some (compare (level x) 0) := by
  have htop := infiniteUnits_pos
  cases x with
  | notANumber => exact hx.elim
  | zero s' => rfl
  | infinity s' =>
    cases s' with
    | negative => exact some_lt_eq_compare (by simp only [level, Sign.apply]; omega)
    | positive => exact some_gt_eq_compare (by simp only [level, Sign.apply]; omega)
  | finite s' m' e' hm' =>
    have hpos := units_pos hm' e'
    cases s' with
    | negative => exact some_lt_eq_compare (by simp only [level, Sign.apply]; omega)
    | positive => exact some_gt_eq_compare (by simp only [level, Sign.apply]; omega)

theorem compare_infinity_infinity (s s' : Sign) :
    UnpackedFloat.compare (.infinity s) (.infinity s') =
      some (compare (level (.infinity s)) (level (.infinity s'))) := by
  have htop := infiniteUnits_pos
  cases s <;> cases s'
  · exact congrArg some (Int.compare_eq_eq.2 rfl).symm
  · exact some_lt_eq_compare (by simp only [level, Sign.apply]; omega)
  · exact some_gt_eq_compare (by simp only [level, Sign.apply]; omega)
  · exact congrArg some (Int.compare_eq_eq.2 rfl).symm

theorem compare_infinity_finite (s s' : Sign) {m : Nat} {e : Int} (hm : 0 < m) (h : Fits m e)
    (he : e < 972) :
    UnpackedFloat.compare (.infinity s) (.finite s' m e hm) =
      some (compare (level (.infinity s)) (level (.finite s' m e hm))) := by
  have hlt := units_lt_infiniteUnits h he
  cases s with
  | negative => exact some_lt_eq_compare (by cases s' <;> simp only [level, Sign.apply] <;> omega)
  | positive => exact some_gt_eq_compare (by cases s' <;> simp only [level, Sign.apply] <;> omega)

theorem compare_finite_infinity (s s' : Sign) {m : Nat} {e : Int} (hm : 0 < m) (h : Fits m e)
    (he : e < 972) :
    UnpackedFloat.compare (.finite s m e hm) (.infinity s') =
      some (compare (level (.finite s m e hm)) (level (.infinity s'))) := by
  have hlt := units_lt_infiniteUnits h he
  cases s' with
  | negative => cases s <;> exact some_gt_eq_compare (by simp only [level, Sign.apply]; omega)
  | positive => cases s <;> exact some_lt_eq_compare (by simp only [level, Sign.apply]; omega)

theorem compare_finite_finite (s s' : Sign) {m m' : Nat} {e e' : Int} (hm : 0 < m) (hm' : 0 < m')
    (h : Fits m e) (h' : Fits m' e') :
    UnpackedFloat.compare (.finite s m e hm) (.finite s' m' e' hm') =
      some (compare (level (.finite s m e hm)) (level (.finite s' m' e' hm'))) := by
  have hpos := units_pos hm e
  have hpos' := units_pos hm' e'
  cases s with
  | negative =>
    cases s' with
    | negative =>
      simp only [UnpackedFloat.compare, level, Sign.apply]
      rw [compare_units h h', compare_neg_natCast]
    | positive => exact some_lt_eq_compare (by simp only [level, Sign.apply]; omega)
  | positive =>
    cases s' with
    | negative => exact some_gt_eq_compare (by simp only [level, Sign.apply]; omega)
    | positive =>
      simp only [UnpackedFloat.compare, level, Sign.apply]
      rw [compare_units h h', compare_natCast]

theorem compare_eq_compare_level {x y : UnpackedFloat} (hx : Canonical x) (hy : Canonical y) :
    x.compare y = some (compare (level x) (level y)) := by
  cases x with
  | notANumber => exact hx.elim
  | zero s => exact compare_zero_left s hy
  | infinity s =>
    cases y with
    | notANumber => exact hy.elim
    | zero s' => exact compare_zero_right s' hx
    | infinity s' => exact compare_infinity_infinity s s'
    | finite s' m' e' hm' => exact compare_infinity_finite s s' hm' hy.1 hy.2
  | finite s m e hm =>
    cases y with
    | notANumber => exact hy.elim
    | zero s' => exact compare_zero_right s' hx
    | infinity s' => exact compare_finite_infinity s s' hm hx.1 hx.2
    | finite s' m' e' hm' => exact compare_finite_finite s s' hm hm' hx.1 hy.1

theorem lt_iff_level_lt {x y : UnpackedFloat} (hx : Canonical x) (hy : Canonical y) :
    x.lt y = true ↔ level x < level y := by
  rw [UnpackedFloat.lt, compare_eq_compare_level hx hy, beq_iff_eq, Option.some.injEq,
    Int.compare_eq_lt]

theorem le_iff_level_le {x y : UnpackedFloat} (hx : Canonical x) (hy : Canonical y) :
    x.le y = true ↔ level x ≤ level y := by
  rw [UnpackedFloat.le, compare_eq_compare_level hx hy, Option.any_some, Int.isLE_compare]

end ZeroShot
