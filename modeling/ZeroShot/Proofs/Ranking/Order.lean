import Mathlib.Data.List.FinRange
import Mathlib.Order.Monotone.Defs
import ZeroShot.Score.Ranking

/-! The order in which a ranking lists its candidates.

Candidates are numbered, so that equal labels with equal scores stay apart. Sorting puts one number
before another exactly if its score is higher, or the scores are the same and it is the smaller
number. -/

namespace ZeroShot

variable {n : Nat}

def Outranks (score : Fin n → Binary64) (i j : Fin n) : Prop :=
  (score j).rank < (score i).rank ∨ (score i).rank = (score j).rank ∧ i < j

theorem Outranks.asymm {score : Fin n → Binary64} {i j : Fin n} (h : Outranks score i j) :
    ¬ Outranks score j i := by
  intro h'
  unfold Outranks at h h'
  omega

def descending (score : Fin n → Binary64) : List (Fin n) :=
  (List.finRange n).mergeSort fun i j => (score j).rank ≤ (score i).rank

theorem descending_perm (score : Fin n → Binary64) : (descending score).Perm (List.finRange n) :=
  List.mergeSort_perm _ _

section

variable {α : Type} (key : α → Int)

theorem descends_trans (a b c : α) (hab : decide (key b ≤ key a) = true)
    (hbc : decide (key c ≤ key b) = true) : decide (key c ≤ key a) = true := by
  simp only [decide_eq_true_eq] at hab hbc ⊢
  omega

theorem descends_total (a b : α) :
    (decide (key b ≤ key a) || decide (key a ≤ key b)) = true := by
  simp only [Bool.or_eq_true, decide_eq_true_eq]
  omega

end

theorem pairwise_mergeSort_outranks (score : Fin n → Binary64) {l : List (Fin n)}
    (h : l.Pairwise (· < ·)) :
    (l.mergeSort fun i j => (score j).rank ≤ (score i).rank).Pairwise (Outranks score) := by
  have htrans := descends_trans fun i => (score i).rank
  have htotal := descends_total fun i => (score i).rank
  -- the head stands behind higher scores only, so it keeps its place before equal ones
  induction l with
  | nil => simp
  | cons i l ih =>
    obtain ⟨hi, hl⟩ := List.pairwise_cons.1 h
    obtain ⟨before, after, hcons, hrest, hbefore⟩ := List.mergeSort_cons htrans htotal i l
    have hsorted := List.pairwise_mergeSort htrans htotal (i :: l)
    rw [hcons] at hsorted ⊢
    have hkept := ih hl
    rw [hrest, List.pairwise_append] at hkept
    obtain ⟨hfirst, hsecond, hcross⟩ := hkept
    have hafter : ∀ j ∈ after, Outranks score i j := by
      intro j hj
      have hrank : (score j).rank ≤ (score i).rank := by
        simpa using (List.pairwise_cons.1 (List.pairwise_append.1 hsorted).2.1).1 j hj
      have hmem : j ∈ l := by
        rw [← List.mem_mergeSort, hrest]
        exact List.mem_append_right before hj
      have hlt := hi j hmem
      unfold Outranks
      omega
    rw [List.pairwise_append]
    refine ⟨hfirst, List.pairwise_cons.2 ⟨hafter, hsecond⟩, ?_⟩
    intro j hj k hk
    rcases List.mem_cons.1 hk with rfl | hk
    · have hrank := hbefore j hj
      simp only [Bool.not_eq_true', decide_eq_false_iff_not] at hrank
      exact .inl (by omega)
    · exact hcross j hj k hk

theorem pairwise_descending (score : Fin n → Binary64) :
    (descending score).Pairwise (Outranks score) :=
  pairwise_mergeSort_outranks score (List.pairwise_lt_finRange n)

theorem eq_of_perm_of_outranks {score : Fin n → Binary64} {l l' : List (Fin n)} (h : l.Perm l')
    (hl : l.Pairwise (Outranks score)) (hl' : l'.Pairwise (Outranks score)) : l = l' :=
  h.eq_of_pairwise (fun _ _ _ _ hab hba => absurd hba hab.asymm) hl hl'

/-- Sorting some of the candidates is sorting all and leaving out the others. -/
theorem map_descending_comp {k : Nat} (score : Fin n → Binary64) {f : Fin k → Fin n}
    (hf : StrictMono f) :
    (descending (score ∘ f)).map f = (descending score).filter (· ∈ List.ofFn f) := by
  refine eq_of_perm_of_outranks ?_ ?_ ((pairwise_descending score).filter _)
  · rw [List.perm_ext_iff_of_nodup]
    · intro i
      simp [(descending_perm score).mem_iff, (descending_perm (score ∘ f)).mem_iff, List.mem_ofFn]
    · exact ((descending_perm _).nodup_iff.2 (List.nodup_finRange k)).map hf.injective
    · exact ((descending_perm score).nodup_iff.2 (List.nodup_finRange n)).filter _
  · rw [List.pairwise_map]
    apply (pairwise_descending (score ∘ f)).imp
    intro i j hij
    rcases hij with hlt | ⟨heq, hlt⟩
    · exact .inl hlt
    · exact .inr ⟨heq, hf hlt⟩

theorem exists_eq_ofFn {α : Type} {l : List α} {n : Nat} (h : l.length = n) :
    ∃ f : Fin n → α, l = List.ofFn f := by
  subst h
  exact ⟨l.get, (List.ofFn_get l).symm⟩

theorem argsort_ofFn (score : Fin n → Binary64) :
    argsort (List.ofFn score) = (descending score).map Fin.val := by
  have hzip : (List.ofFn score).zipIdx = (List.finRange n).map fun i => (score i, i.val) := by
    apply List.ext_getElem
    · simp
    · intro i hi hi'
      simp
  rw [argsort, hzip, descending]
  rw [← List.map_mergeSort (r := fun i j : Fin n => (score j).rank ≤ (score i).rank)
    (fun _ _ _ _ => rfl)]
  rw [List.map_map]
  rfl

theorem argsort_perm (score : Fin n → Binary64) :
    (argsort (List.ofFn score)).Perm (List.range n) := by
  rw [argsort_ofFn, ← List.map_coe_finRange_eq_range]
  exact (descending_perm score).map Fin.val

namespace Ranking

def inOrder (text : String) (label : Fin n → String) (score : Fin n → Binary64)
    (order : List (Fin n)) : Ranking :=
  ⟨text, order.map label, order.map score⟩

theorem ofScores_ofFn (text : String) (label : Fin n → String) (score : Fin n → Binary64) :
    ofScores text (List.ofFn label) (List.ofFn score) =
      inOrder text label score (descending score) := by
  have hzip : (List.ofFn label).zip (List.ofFn score) =
      (List.finRange n).map fun i => (label i, score i) := by
    apply List.ext_getElem
    · simp
    · intro i hi hi'
      simp
  rw [ofScores, hzip, descending, inOrder]
  rw [← List.map_mergeSort (r := fun i j : Fin n => (score j).rank ≤ (score i).rank)
    (fun _ _ _ _ => rfl)]
  simp only [List.map_map]
  rfl

theorem pairs_ofScores (text : String) (candidates : List String) (scores : List Binary64) :
    (ofScores text candidates scores).pairs =
      (candidates.zip scores).mergeSort fun a b => b.2.rank ≤ a.2.rank :=
  (List.zip_of_prod rfl rfl).symm

theorem ofScores_eq_argsort (text : String) {candidates : List String} {scores : List Binary64}
    (h : candidates.length = scores.length) :
    (ofScores text candidates scores).labels.map some =
        (argsort scores).map (candidates[·]?) ∧
      (ofScores text candidates scores).scores.map some = (argsort scores).map (scores[·]?) := by
  obtain ⟨n, hn⟩ : ∃ n, scores.length = n := ⟨_, rfl⟩
  obtain ⟨score, rfl⟩ := exists_eq_ofFn hn
  obtain ⟨label, rfl⟩ := exists_eq_ofFn (h.trans hn)
  rw [ofScores_ofFn, inOrder, argsort_ofFn]
  constructor
  · simp
  · simp

theorem ofScores_ofScores (text : String) (candidates : List String) (scores : List Binary64) :
    ofScores text (ofScores text candidates scores).labels
        (ofScores text candidates scores).scores =
      ofScores text candidates scores := by
  have hpairs := pairs_ofScores text candidates scores
  have hsorted := List.pairwise_mergeSort (descends_trans fun p : String × Binary64 => p.2.rank)
    (descends_total fun p : String × Binary64 => p.2.rank) (candidates.zip scores)
  rw [pairs] at hpairs
  conv_lhs => rw [ofScores, hpairs, List.mergeSort_of_pairwise hsorted]
  rfl

end Ranking

end ZeroShot
