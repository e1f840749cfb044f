import ZeroShot.Proofs.Number.Binary64
import ZeroShot.Score.Softmax

/-! What infinities and NaNs among the values do to softmax.

Values of `+∞` share the mass, and so do values that are all `-∞`. Every operation hands a NaN on,
so one NaN makes the sum of the weights a NaN, and with it every part. Only the rule for `+∞` comes
before that: it looks for `+∞` and does not look at the other values, so there a NaN gets nothing,
like a number. -/

namespace ZeroShot

open Arithmetic

section

variable {α : Type} [Arithmetic α]

theorem isPosInf_peak
    (hmax : ∀ x y : α, isPosInf (Arithmetic.max x y) = (isPosInf x || isPosInf y))
    (first : α) (rest : List α) : isPosInf (peak first rest) = (first :: rest).any isPosInf := by
  unfold peak
  induction rest generalizing first with
  | nil => simp
  | cons second rest ih => simp [ih, hmax, Bool.or_assoc]

theorem softmax_of_any_isPosInf
    (hmax : ∀ x y : α, isPosInf (Arithmetic.max x y) = (isPosInf x || isPosInf y))
    {values : List α} (h : values.any isPosInf = true) :
    softmax values =
      values.map fun v => if isPosInf v then share (values.countP isPosInf) else ofNat 0 := by
  cases values with
  | nil => simp at h
  | cons first rest => rw [softmax, isPosInf_peak hmax, if_pos h]

end

namespace Binary64

/-- Nothing is greater than `+∞`, and a NaN is passed over. -/
theorem max_eq_posInf_iff {x y : Binary64} : x.max y = posInf ↔ x = posInf ∨ y = posInf := by
  have hnumber : posInf.isNaN = false := rfl
  by_cases hx : x.isNaN = true
  · have hne : x ≠ posInf := by rintro rfl; simp [hnumber] at hx
    simp [max, hx, hne]
  by_cases hy : y.isNaN = true
  · have hne : y ≠ posInf := by rintro rfl; simp [hnumber] at hy
    simp [max, hx, hy, hne]
  simp only [Bool.not_eq_true] at hx hy
  obtain ⟨hxle, hyle, hone⟩ := max_greatest (isNaN_eq_false_iff_le_self.1 hx)
    (isNaN_eq_false_iff_le_self.1 hy)
  constructor
  · intro h
    rw [h] at hone
    exact hone.imp Eq.symm Eq.symm
  · rintro (rfl | rfl)
    · exact eq_posInf_of_le hxle
    · exact eq_posInf_of_le hyle

theorem isPosInf_max (exp : Binary64 → Binary64) (x y : Binary64) :
    (arithmetic exp).isPosInf ((arithmetic exp).max x y) =
      ((arithmetic exp).isPosInf x || (arithmetic exp).isPosInf y) := by
  show decide (x.max y = posInf) = (decide (x = posInf) || decide (y = posInf))
  simp [max_eq_posInf_iff]

theorem share_eq (exp : Binary64 → Binary64) (count : Nat) :
    @share Binary64 (arithmetic exp) count = one.div (ofNat count) := by
  have hone : ofNat 1 = one := by decide
  unfold share
  rw [← hone]
  rfl

theorem softmax_of_posInf_mem (exp : Binary64 → Binary64) {values : List Binary64}
    (h : posInf ∈ values) :
    @softmax Binary64 (arithmetic exp) values =
      values.map fun v => if v = posInf then one.div (ofNat (values.count posInf)) else zero := by
  let _ := arithmetic exp
  have hany : values.any isPosInf = true :=
    List.any_eq_true.2 ⟨posInf, h, decide_eq_true rfl⟩
  have hpos (v : Binary64) : isPosInf v = true ↔ v = posInf := decide_eq_true_iff
  rw [softmax_of_any_isPosInf (isPosInf_max exp) hany, share_eq]
  simp only [hpos]
  rfl

theorem softmax_of_all_negInf (exp : Binary64 → Binary64) {values : List Binary64}
    (h : ∀ v ∈ values, v = negInf) :
    @softmax Binary64 (arithmetic exp) values =
      values.map fun _ => one.div (ofNat values.length) := by
  let _ := arithmetic exp
  cases values with
  | nil => rfl
  | cons first rest =>
    have hpeak : ¬ isPosInf (peak first rest) = true := by
      rw [isPosInf_peak (isPosInf_max exp), List.any_eq_true]
      rintro ⟨v, hv, hpos⟩
      cases (h v hv).symm.trans (of_decide_eq_true hpos)
    have hall : (first :: rest).all isNegInf = true :=
      List.all_eq_true.2 fun v hv => decide_eq_true (h v hv)
    rw [softmax, if_neg hpeak, if_pos hall, share_eq]

theorem isNaN_binary_left (op : Float → Float → Float) {x : Binary64} (h : x.isNaN = true)
    (y : Binary64) : (binary op x y).isNaN = true := by
  simp [binary, h]

theorem isNaN_binary_right (op : Float → Float → Float) (x : Binary64) {y : Binary64}
    (h : y.isNaN = true) : (binary op x y).isNaN = true := by
  unfold binary
  by_cases hx : x.isNaN = true <;> simp [hx, h]

theorem isNaN_exp {x : Binary64} (h : x.isNaN = true) : (exp x).isNaN = true := by
  simp [exp, h]

theorem isNaN_foldl_add {start : Binary64} {values : List Binary64}
    (h : start.isNaN = true ∨ ∃ v ∈ values, v.isNaN = true) :
    (values.foldl add start).isNaN = true := by
  induction values generalizing start with
  | nil => simpa using h
  | cons first rest ih =>
    rw [List.foldl_cons]
    apply ih
    rcases h with hstart | ⟨v, hv, hnan⟩
    · exact .inl (isNaN_binary_left _ hstart first)
    · rcases List.mem_cons.1 hv with rfl | hv
      · exact .inl (isNaN_binary_right _ start hnan)
      · exact .inr ⟨v, hv, hnan⟩

end Binary64

open Binary64 (isNaN_foldl_add isNaN_binary_left isNaN_binary_right isNaN_exp isPosInf_max)

theorem isNaN_normalize {ws : List Binary64} (h : ∃ w ∈ ws, w.isNaN = true) :
    ∀ s ∈ normalize ws, s.isNaN = true := by
  intro s hs
  obtain ⟨w, -, rfl⟩ := List.mem_map.1 hs
  exact isNaN_binary_right _ w (isNaN_foldl_add (.inr h))

theorem exists_isNaN_weights (top : Binary64) {values : List Binary64}
    (h : ∃ v ∈ values, v.isNaN = true) : ∃ w ∈ weights top values, w.isNaN = true := by
  obtain ⟨v, hv, hnan⟩ := h
  exact ⟨_, List.mem_map.2 ⟨v, hv, rfl⟩, isNaN_exp (isNaN_binary_left _ hnan top)⟩

theorem isNaN_of_mem_softmax {values : List Binary64} (hnan : ∃ v ∈ values, v.isNaN = true)
    (hinf : .posInf ∉ values) : ∀ s ∈ softmax values, s.isNaN = true := by
  cases values with
  | nil => simp at hnan
  | cons first rest =>
    have hpeak : ¬ isPosInf (peak first rest) = true := by
      rw [isPosInf_peak (isPosInf_max Binary64.exp), List.any_eq_true]
      rintro ⟨v, hv, hpos⟩
      exact hinf (of_decide_eq_true hpos ▸ hv)
    have hneg : ¬ (first :: rest).all isNegInf = true := by
      rw [List.all_eq_true]
      intro hall
      obtain ⟨v, hv, hvnan⟩ := hnan
      rw [of_decide_eq_true (hall v hv)] at hvnan
      cases hvnan
    rw [softmax, if_neg hpeak, if_neg hneg]
    exact isNaN_normalize (exists_isNaN_weights _ hnan)

/-- One NaN among the values makes every part a NaN, as long as there is no `+∞` among them. If
there is, the values of `+∞` share the mass and everything else gets nothing, a NaN too. -/
theorem softmax_of_NaN (values : List Binary64) (hnan : ∃ v ∈ values, v.isNaN = true) :
    (.posInf ∉ values →
      (softmax values).map Binary64.isNaN = List.replicate values.length true) ∧
    (.posInf ∈ values → softmax values = values.map fun v =>
      if v = .posInf then Binary64.one.div (.ofNat (values.count .posInf)) else .zero) := by
  refine ⟨?_, Binary64.softmax_of_posInf_mem Binary64.exp⟩
  intro hinf
  rw [List.eq_replicate_iff]
  simpa using isNaN_of_mem_softmax hnan hinf

theorem softmax_of_NaN_beside_infinities :
    (softmax [Binary64.negInf, .quietNaN, .one]).map Binary64.isNaN = [true, true, true] ∧
      softmax [Binary64.posInf, .quietNaN, .posInf] =
        [Binary64.one.div (.ofNat 2), .zero, Binary64.one.div (.ofNat 2)] :=
  ⟨(softmax_of_NaN [.negInf, .quietNaN, .one] (by decide)).1 (by decide),
    (softmax_of_NaN [.posInf, .quietNaN, .posInf] (by decide)).2 (by decide)⟩

/-- A NaN beside `+∞` leaves no trace. -/
theorem softmax_hides_NaN :
    Binary64.isNaN .quietNaN = true ∧ softmax [Binary64.posInf, .quietNaN] = [.one, .zero] ∧
      Binary64.isNaN .one = false ∧ Binary64.isNaN .zero = false := by
  decide

end ZeroShot
