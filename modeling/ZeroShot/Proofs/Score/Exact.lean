import Mathlib
import ZeroShot.Proofs.Score.Matrix

/-! Scores in exact arithmetic.

Real numbers have no infinities and are not rounded. There the greatest value that softmax subtracts
cancels out, and what is left is each exponential as a part of the sum of all. Of the exponential
function nothing is used but that it is positive, turns sums into products and grows. -/

namespace ZeroShot

/-- Arithmetic on real numbers, whatever the exponential function is. -/
@[reducible] noncomputable def realArithmetic (exp : ℝ → ℝ) : Arithmetic ℝ where
  isPosInf _ := false
  isNegInf _ := false
  ofNat n := n
  max := max
  add x y := x + y
  sub x y := x - y
  div x y := x / y
  exp := exp

structure IsExponential (exp : ℝ → ℝ) : Prop where
  pos (x : ℝ) : 0 < exp x
  add (x y : ℝ) : exp (x + y) = exp x * exp y
  strictMono : StrictMono exp

variable {exp : ℝ → ℝ}

theorem total_eq_sum (exp : ℝ → ℝ) (values : List ℝ) :
    @total ℝ (realArithmetic exp) values = values.sum := by
  unfold total
  show values.foldl (· + ·) ((0 : Nat) : ℝ) = values.sum
  rw [Nat.cast_zero, List.sum_eq_foldl]

theorem sum_map_div {α : Type} (values : List α) (f : α → ℝ) (c : ℝ) :
    (values.map fun x => f x / c).sum = (values.map f).sum / c := by
  simp only [div_eq_mul_inv]
  exact List.sum_map_mul_right values f c⁻¹

/-- How much of the mass of two logits is that of the entailment. -/
noncomputable def outweigh (exp : ℝ → ℝ) (entailment contradiction : ℝ) : ℝ :=
  exp entailment / (exp contradiction + exp entailment)

namespace IsExponential

theorem sub (hexp : IsExponential exp) (x y : ℝ) : exp (x - y) = exp x / exp y := by
  rw [eq_div_iff (hexp.pos y).ne', ← hexp.add, sub_add_cancel]

theorem sum_pos (hexp : IsExponential exp) {values : List ℝ} (h : values ≠ []) :
    0 < (values.map exp).sum := by
  apply List.sum_pos
  · simpa using fun x _ => hexp.pos x
  · simpa using h

theorem softmax_eq (hexp : IsExponential exp) {values : List ℝ} (h : values ≠ []) :
    @softmax ℝ (realArithmetic exp) values =
      values.map fun x => exp x / (values.map exp).sum := by
  let _ := realArithmetic exp
  cases values with
  | nil => exact absurd rfl h
  | cons first rest =>
    have hfinite : ¬ (first :: rest).all Arithmetic.isNegInf = true := by simp
    have hweights : weights (peak first rest) (first :: rest) =
        (first :: rest).map fun x => exp x / exp (peak first rest) :=
      List.map_congr_left fun x _ => hexp.sub x _
    rw [softmax, if_neg (by simp), if_neg hfinite, normalize, hweights, List.map_map,
      total_eq_sum, sum_map_div]
    apply List.map_congr_left
    intro x _
    exact div_div_div_cancel_right₀ (hexp.pos _).ne' _ _

theorem sum_softmax (hexp : IsExponential exp) {values : List ℝ} (h : values ≠ []) :
    (@softmax ℝ (realArithmetic exp) values).sum = 1 := by
  rw [hexp.softmax_eq h, sum_map_div]
  exact div_self (hexp.sum_pos h).ne'

theorem softmax_map_add (hexp : IsExponential exp) {values : List ℝ} (h : values ≠ [])
    (shift : ℝ) :
    @softmax ℝ (realArithmetic exp) (values.map (· + shift)) =
      @softmax ℝ (realArithmetic exp) values := by
  have hsum : ((values.map (· + shift)).map exp).sum = (values.map exp).sum * exp shift := by
    rw [List.map_map, ← List.sum_map_mul_right]
    simp only [Function.comp_def, hexp.add]
  rw [hexp.softmax_eq h, hexp.softmax_eq (by simpa using h), hsum, List.map_map]
  apply List.map_congr_left
  intro x _
  simp only [Function.comp_apply, hexp.add]
  exact mul_div_mul_right _ _ (hexp.pos shift).ne'

theorem get_softmax_lt_iff (hexp : IsExponential exp) {values : List ℝ}
    (i j : Fin values.length) :
    (@softmax ℝ (realArithmetic exp) values).get (i.cast (by simp)) <
        (@softmax ℝ (realArithmetic exp) values).get (j.cast (by simp)) ↔
      values.get i < values.get j := by
  have hne : values ≠ [] := List.ne_nil_of_length_pos (Nat.zero_lt_of_lt i.isLt)
  have hget (i : Fin values.length) :
      (@softmax ℝ (realArithmetic exp) values).get (i.cast (by simp)) =
        exp (values.get i) / (values.map exp).sum := by
    simp [hexp.softmax_eq hne]
  rw [hget, hget, div_lt_div_iff_of_pos_right (hexp.sum_pos hne), hexp.strictMono.lt_iff_lt]

theorem independentScore_eq (hexp : IsExponential exp) {width : Nat} (row : Fin width → ℝ)
    {e c : Fin width} (h : e ≠ c) :
    @independentScore ℝ (realArithmetic exp) width row e c = outweigh exp (row e) (row c) := by
  let _ := realArithmetic exp
  unfold independentScore
  split
  · next hwidth =>
    -- the two classes are all that the row has, in one order or the other
    subst hwidth
    have hsum : ((List.ofFn row).map exp).sum = exp (row c) + exp (row e) := by
      have hboth : (c = 0 ∧ e = 1) ∨ (c = 1 ∧ e = 0) := by omega
      rcases hboth with ⟨rfl, rfl⟩ | ⟨rfl, rfl⟩
      · simp
      · simp [add_comm]
    have hrow : softmax (List.ofFn row) = _ := hexp.softmax_eq (by simp)
    rw [hsum] at hrow
    simp only [hrow, outweigh, List.get_eq_getElem, List.getElem_map, List.getElem_ofFn,
      Fin.val_cast]
  · have hpair : softmax [row c, row e] = _ := hexp.softmax_eq (by simp)
    simp [hpair, outweigh]

theorem strictMono_outweigh (hexp : IsExponential exp) (contradiction : ℝ) :
    StrictMono fun entailment => outweigh exp entailment contradiction := by
  intro e e' h
  have hc := hexp.pos contradiction
  have he := hexp.pos e
  have he' := hexp.pos e'
  show exp e / _ < exp e' / _
  rw [div_lt_div_iff₀ (add_pos hc he) (add_pos hc he')]
  have hproduct := mul_lt_mul_of_pos_right (hexp.strictMono h) hc
  linarith [mul_comm (exp e) (exp e')]

theorem strictAnti_outweigh (hexp : IsExponential exp) (entailment : ℝ) :
    StrictAnti (outweigh exp entailment) := by
  intro c c' h
  have he := hexp.pos entailment
  exact div_lt_div_of_pos_left he (add_pos (hexp.pos c) he)
    (add_lt_add_left (hexp.strictMono h) _)

end IsExponential

/-- In exact arithmetic softmax is the plain one: each exponential as a part of the sum of all. So
scores of competing candidates add up to one, and the score of a candidate that is judged on its own
grows with its entailment logit and falls with its contradiction logit. -/
theorem exact_scores (hexp : IsExponential exp) :
    letI := realArithmetic exp
    (∀ values : List ℝ, values ≠ [] →
      softmax values = (values.map fun x => exp x / (values.map exp).sum) ∧
      (softmax values).sum = 1 ∧
      (∀ i j : Fin values.length, values.get i < values.get j ↔
        (softmax values).get (i.cast (length_softmax values).symm) <
          (softmax values).get (j.cast (length_softmax values).symm)) ∧
      ∀ shift, softmax (values.map (· + shift)) = softmax values) ∧
    (∀ (m : LogitMatrix ℝ) (indices : ClassIndices), 2 ≤ m.height →
      indices.entailment < m.width → indices.contradiction < m.width →
        ∃ scores, m.score indices false = .ok scores ∧ scores.length = m.height ∧
          scores.sum = 1) ∧
    (∀ (m : LogitMatrix ℝ) (indices : ClassIndices) (multiLabel : Bool), 0 < m.height →
      Policy.select multiLabel m.height = .independent →
      (he : indices.entailment < m.width) → (hc : indices.contradiction < m.width) →
      indices.entailment ≠ indices.contradiction →
        m.score indices multiLabel = .ok (List.ofFn fun i =>
          outweigh exp (m.entry i ⟨_, he⟩) (m.entry i ⟨_, hc⟩))) ∧
    (∀ contradiction, StrictMono fun entailment => outweigh exp entailment contradiction) ∧
    ∀ entailment, StrictAnti (outweigh exp entailment) := by
  let _ := realArithmetic exp
  refine ⟨?_, ?_, ?_, hexp.strictMono_outweigh, hexp.strictAnti_outweigh⟩
  · intro values hne
    exact ⟨hexp.softmax_eq hne, hexp.sum_softmax hne,
      fun i j => (hexp.get_softmax_lt_iff i j).symm, hexp.softmax_map_add hne⟩
  · intro m indices hheight he hc
    have hcolumn : m.column ⟨indices.entailment, he⟩ ≠ [] := by
      apply List.ne_nil_of_length_pos
      rw [LogitMatrix.length_column]
      omega
    exact ⟨_, m.score_exclusive hheight he hc, by simp, hexp.sum_softmax hcolumn⟩
  · intro m indices multiLabel hheight hpolicy he hc hne
    have hscore (i : Fin m.height) := hexp.independentScore_eq (m.entry i)
      (e := ⟨indices.entailment, he⟩) (c := ⟨indices.contradiction, hc⟩) (by simpa using hne)
    rw [m.score_eq_ok multiLabel hheight he hc, hpolicy, LogitMatrix.scoresUnder_independent]
    simp only [hscore]

noncomputable def twoByThree : LogitMatrix ℝ := ⟨2, 3, [0, 5, 1, 1, 5, 0], rfl⟩

theorem exact_scores_twoByThree :
    letI := realArithmetic Real.exp
    IsExponential Real.exp ∧
      softmax [0, 1] = [0, 1].map (fun x => Real.exp x / ([0, 1].map Real.exp).sum) ∧
      (∃ scores, twoByThree.score {} false = .ok scores ∧ scores.sum = 1) ∧
      ∃ first second, twoByThree.score {} true = .ok [first, second] ∧ second < first := by
  have hexp : IsExponential Real.exp := ⟨Real.exp_pos, Real.exp_add, Real.exp_strictMono⟩
  obtain ⟨hsoftmax, hexclusive, hindependent, hmono, hanti⟩ := exact_scores hexp
  obtain ⟨scores, hscores, -, hsum⟩ := hexclusive twoByThree {} (by decide) (by decide) (by decide)
  have hjudged := hindependent twoByThree {} true (by decide) rfl (by decide) (by decide)
    (by decide)
  refine ⟨hexp, (hsoftmax [0, 1] (by simp)).1, ⟨scores, hscores, hsum⟩, _, _, hjudged, ?_⟩
  calc outweigh Real.exp 0 1
      < outweigh Real.exp 0 0 := hanti 0 zero_lt_one
    _ < outweigh Real.exp 1 0 := hmono 0 zero_lt_one

end ZeroShot
