import ZeroShot.Proofs.Number.TotalOrder
import ZeroShot.Proofs.Ranking.Order

/-! The one order that sorting gives.

Scores are sorted by the total order of all values, from the last one down, and equal ones by their
numbers. No two numbers are alike in both, so there is just one list of the numbers in which one
stands before another exactly if it has to. -/

namespace ZeroShot

variable {α β : Type}

section

variable [DecidableEq α] [DecidableEq β]

theorem idxOf_map {f : α → β} (hf : Function.Injective f) (l : List α) (a : α) :
    (l.map f).idxOf (f a) = l.idxOf a := by
  induction l with
  | nil => rfl
  | cons b l ih =>
    by_cases h : b = a
    · simp [h]
    · simp [h, hf.ne h, ih]

theorem idxOf_lt_idxOf_iff {R : α → α → Prop} {l : List α} (hl : l.Pairwise R)
    (hasymm : ∀ a b, R a b → ¬ R b a) {a b : α} (ha : a ∈ l) (hb : b ∈ l) :
    l.idxOf a < l.idxOf b ↔ R a b := by
  have hbefore {a b : α} (ha : a ∈ l) (hb : b ∈ l) (h : l.idxOf a < l.idxOf b) : R a b := by
    have hget := List.pairwise_iff_getElem.1 hl (l.idxOf a) (l.idxOf b)
      (List.idxOf_lt_length_iff.2 ha) (List.idxOf_lt_length_iff.2 hb) h
    rwa [List.getElem_idxOf, List.getElem_idxOf] at hget
  refine ⟨hbefore ha hb, ?_⟩
  intro h
  rcases lt_trichotomy (l.idxOf a) (l.idxOf b) with hlt | heq | hlt
  · exact hlt
  · rw [(List.idxOf_inj ha).1 heq] at h
    exact absurd h (hasymm b b h)
  · exact absurd (hbefore hb ha hlt) (hasymm a b h)

theorem pairwise_idxOf {l : List α} (h : l.Nodup) :
    l.Pairwise fun a b => l.idxOf a < l.idxOf b := by
  rw [List.pairwise_iff_getElem]
  intro i j hi hj hij
  rwa [h.idxOf_getElem i hi, h.idxOf_getElem j hj]

/-- A list without repetitions is known by its members and by which of them stand before which. -/
theorem eq_of_idxOf_lt_iff {l l' : List α} (hperm : l.Perm l') (hnodup : l'.Nodup)
    (h : ∀ a ∈ l', ∀ b ∈ l', l.idxOf a < l.idxOf b ↔ l'.idxOf a < l'.idxOf b) : l = l' := by
  have hl := pairwise_idxOf (hperm.nodup_iff.2 hnodup)
  have hl' := (pairwise_idxOf hnodup).imp_of_mem fun ha hb hlt => (h _ ha _ hb).2 hlt
  exact hperm.eq_of_pairwise (fun _ _ _ _ hab hba => absurd hba (Nat.lt_asymm hab)) hl hl'

end

section

variable {n : Nat}

theorem outranks_iff {score : Fin n → Binary64} {i j : Fin n} :
    Outranks score i j ↔ (score j).Precedes (score i) ∨ score i = score j ∧ i < j := by
  rw [Outranks, Binary64.precedes_iff_rank_lt, Binary64.rank_injective.eq_iff]

theorem idxOf_argsort_lt_iff {score : Fin n → Binary64} {i j : Fin n} :
    (argsort (List.ofFn score)).idxOf i.val < (argsort (List.ofFn score)).idxOf j.val ↔
      Outranks score i j := by
  rw [argsort_ofFn, idxOf_map Fin.val_injective, idxOf_map Fin.val_injective]
  exact idxOf_lt_idxOf_iff (pairwise_descending score) (fun _ _ => Outranks.asymm)
    ((descending_perm score).mem_iff.2 (List.mem_finRange i))
    ((descending_perm score).mem_iff.2 (List.mem_finRange j))

end

/-- Sorting gives the one list of the numbers of the scores in which one number stands before
another exactly if its score comes after the other's in the total order, or the scores are the same
and it is the smaller number. Labels and scores are listed that way, and listing them again changes
nothing. -/
theorem sorted_by_total_order (scores : List Binary64) :
    (∀ order : List Nat, order = argsort scores ↔
      order.Perm (List.range scores.length) ∧
        ∀ a b : Fin scores.length, order.idxOf a.val < order.idxOf b.val ↔
          (scores.get b).Precedes (scores.get a) ∨ scores.get a = scores.get b ∧ a < b) ∧
    ∀ (text : String) (candidates : List String), candidates.length = scores.length →
      ∃ r, Ranking.ofScores text candidates scores = r ∧ r.text = text ∧
        r.labels.map some = (argsort scores).map (candidates[·]?) ∧
        r.scores.map some = (argsort scores).map (scores[·]?) ∧
        Ranking.ofScores text r.labels r.scores = r := by
  constructor
  · have hperm := argsort_perm scores.get
    have hplace (a b : Fin scores.length) := @idxOf_argsort_lt_iff _ scores.get a b
    simp only [List.ofFn_get, outranks_iff] at hperm hplace
    intro order
    constructor
    · rintro rfl
      exact ⟨hperm, hplace⟩
    · rintro ⟨hrange, horder⟩
      refine eq_of_idxOf_lt_iff (hrange.trans hperm.symm) (hperm.nodup_iff.2 List.nodup_range) ?_
      intro a ha b hb
      have ha := List.mem_range.1 (hperm.mem_iff.1 ha)
      have hb := List.mem_range.1 (hperm.mem_iff.1 hb)
      exact (horder ⟨a, ha⟩ ⟨b, hb⟩).trans (hplace ⟨a, ha⟩ ⟨b, hb⟩).symm
  · intro text candidates hlength
    obtain ⟨hlabels, hscores⟩ := Ranking.ofScores_eq_argsort text hlength
    exact ⟨_, rfl, rfl, hlabels, hscores, Ranking.ofScores_ofScores text candidates scores⟩

def zerosAndNaNs : List Binary64 :=
  [Binary64.zero.neg, .quietNaN, .zero, .negativeNaN, .quietNaN, .negInf]

theorem sorted_by_total_order_zerosAndNaNs :
    [1, 4, 2, 0, 5, 3] = argsort zerosAndNaNs ∧
      ["a", "b", "c", "d", "e", "f"].length = zerosAndNaNs.length ∧
      ∃ r, Ranking.ofScores "text" ["a", "b", "c", "d", "e", "f"] zerosAndNaNs = r ∧
        r.labels.map some = ["b", "e", "c", "a", "f", "d"].map some ∧
        Ranking.ofScores "text" r.labels r.scores = r := by
  obtain ⟨hsorted, hranked⟩ := sorted_by_total_order zerosAndNaNs
  have horder : [1, 4, 2, 0, 5, 3] = argsort zerosAndNaNs := by
    simp only [hsorted, Binary64.precedes_iff_rank_lt]
    decide
  obtain ⟨r, hr, -, hlabels, -, hagain⟩ := hranked "text" ["a", "b", "c", "d", "e", "f"] rfl
  rw [← horder] at hlabels
  exact ⟨horder, rfl, r, hr, hlabels, hagain⟩

end ZeroShot
