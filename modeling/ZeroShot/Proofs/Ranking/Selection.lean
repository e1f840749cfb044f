import ZeroShot.Proofs.Ranking.Order
import ZeroShot.Proofs.Score.Matrix

/-! Scores of candidates that are each judged on their own.

Such a score is a function of the candidate's row, so a request about some of the candidates gives
them the scores and the order that they have among all. -/

namespace ZeroShot

def LogitMatrix.rowScore (m : LogitMatrix Binary32) (e c : Fin m.width) (i : Fin m.height) :
    Binary64 :=
  independentScore (fun j => (m.entry i j).widen) e c

theorem LogitMatrix.score_multiLabel (m : LogitMatrix Binary32) {indices : ClassIndices}
    (hheight : 0 < m.height) (he : indices.entailment < m.width)
    (hc : indices.contradiction < m.width) :
    (m.map Binary32.widen).score indices true =
      .ok (List.ofFn (m.rowScore ⟨indices.entailment, he⟩ ⟨indices.contradiction, hc⟩)) := by
  rw [score_eq_ok (m.map Binary32.widen) true hheight he hc]
  rw [show Policy.select true (m.map Binary32.widen).height = .independent from rfl]
  rw [scoresUnder_independent]
  congr 2
  funext i
  unfold rowScore
  congr 1
  funext j
  exact entry_map Binary32.widen m i j

theorem LogitMatrix.rowScore_select {k : Nat} (m : LogitMatrix Binary32)
    (f : Fin k → Fin m.height) (e c : Fin m.width) :
    (m.select f).rowScore e c = m.rowScore e c ∘ f := by
  funext i
  unfold rowScore Function.comp
  congr 1
  funext j
  exact congrArg Binary32.widen (entry_select m f i j)

theorem rankLogits_of_score {resolved : ResolvedConfig} {m : LogitMatrix Binary32}
    {multiLabel : Bool} {score : Fin m.height → Binary64}
    (h : (m.map Binary32.widen).score resolved.indices multiLabel = .ok (List.ofFn score))
    (text : String) (label : Fin m.height → String) :
    rankLogits resolved text (List.ofFn label) m multiLabel =
      .ok (Ranking.inOrder text label score (descending score)) := by
  rw [rankLogits, if_neg (by simp), h, ← Ranking.ofScores_ofFn]
  rfl

/-- A multi-label ranking of some candidates gives each the score it has in the ranking of all, and
keeps the order that all have if the candidates are chosen in their order. -/
theorem rankLogits_select (resolved : ResolvedConfig) (text : String) (m : LogitMatrix Binary32)
    (label : Fin m.height → String) (hheight : 0 < m.height)
    (he : resolved.indices.entailment < m.width) (hc : resolved.indices.contradiction < m.width) :
    ∃ (score : Fin m.height → Binary64) (order : List (Fin m.height)),
      (m.map Binary32.widen).score resolved.indices true = .ok (List.ofFn score) ∧
      order.map Fin.val = argsort (List.ofFn score) ∧
      rankLogits resolved text (List.ofFn label) m true =
        .ok (Ranking.inOrder text label score order) ∧
      ∀ (k : Nat) (f : Fin k → Fin m.height), 0 < k →
        ((m.select f).map Binary32.widen).score resolved.indices true =
          .ok (List.ofFn (score ∘ f)) ∧
        (∃ chosen : List (Fin k), chosen.Perm (List.finRange k) ∧
          rankLogits resolved text (List.ofFn (label ∘ f)) (m.select f) true =
            .ok (Ranking.inOrder text (label ∘ f) (score ∘ f) chosen)) ∧
        (StrictMono f →
          rankLogits resolved text (List.ofFn (label ∘ f)) (m.select f) true =
            .ok (Ranking.inOrder text label score (order.filter (· ∈ List.ofFn f)))) := by
  let e : Fin m.width := ⟨resolved.indices.entailment, he⟩
  let c : Fin m.width := ⟨resolved.indices.contradiction, hc⟩
  have hscore := m.score_multiLabel hheight he hc
  refine ⟨m.rowScore e c, descending (m.rowScore e c), hscore, (argsort_ofFn _).symm,
    rankLogits_of_score hscore text label, ?_⟩
  intro k f hk
  have hselected : ((m.select f).map Binary32.widen).score resolved.indices true =
      .ok (List.ofFn (m.rowScore e c ∘ f)) := by
    rw [← m.rowScore_select f e c]
    exact (m.select f).score_multiLabel hk he hc
  have hranked := rankLogits_of_score (m := m.select f) hselected text (label ∘ f)
  refine ⟨hselected, ⟨_, descending_perm _, hranked⟩, ?_⟩
  intro hf
  rw [← map_descending_comp _ hf, Ranking.inOrder, List.map_map, List.map_map]
  exact hranked

def mixedRows : LogitMatrix Binary32 where
  height := 3
  width := 3
  entries := [⟨0xff800000⟩, ⟨0⟩, ⟨0x7f800000⟩, ⟨0x7fc00000⟩, ⟨0⟩, ⟨0⟩, ⟨0⟩, ⟨0⟩, ⟨0xff800000⟩]
  length_entries := rfl

def outerRows : Fin 2 → Fin 3 := [0, 2].get

def namesOfRows : Fin 3 → String := ["a", "b", "a"].get

theorem rankLogits_select_outer_rows :
    StrictMono outerRows ∧ ∃ (score : Fin 3 → Binary64) (order : List (Fin 3)),
      (mixedRows.map Binary32.widen).score {} true = .ok (List.ofFn score) ∧
      rankLogits {} "text" ["a", "b", "a"] mixedRows true =
        .ok (Ranking.inOrder "text" namesOfRows score order) ∧
      rankLogits {} "text" ["a", "a"] (mixedRows.select outerRows) true =
        .ok (Ranking.inOrder "text" namesOfRows score
          (order.filter (· ∈ List.ofFn outerRows))) := by
  have houter : StrictMono outerRows := by decide
  obtain ⟨score, order, hscore, -, hall, hsome⟩ :=
    rankLogits_select {} "text" mixedRows namesOfRows (by decide) (by decide) (by decide)
  exact ⟨houter, score, order, hscore, hall, (hsome 2 outerRows (by decide)).2.2 houter⟩

end ZeroShot
