import ZeroShot.Proofs.Score.Matrix

/-! The columns that a ranking depends on.

Candidates that compete are ranked by the entailment column alone. A candidate that is judged on its
own is judged by its entailment and its contradiction; in a row of two classes the other class is
the contradiction, whatever index it is said to have. No other entry has any influence, a NaN or an
infinity as little as a number. -/

namespace ZeroShot

namespace LogitMatrix

variable {α β : Type}

theorem column_map (f : α → β) (m : LogitMatrix α) (j : Fin m.width) :
    (m.map f).column j = (m.column j).map f := by
  unfold column
  rw [List.map_map]
  apply List.map_congr_left
  intro i _
  exact entry_map f m i j

theorem column_map_congr (f : α → β) {m m' : LogitMatrix α} {j : Fin m.width} {j' : Fin m'.width}
    (h : m.column j = m'.column j') : (m.map f).column j = (m'.map f).column j' := by
  rw [column_map, column_map, h]

variable [Arithmetic α]

/-- How far entailment outweighs contradiction. -/
def verdict (entailment contradiction : α) : α :=
  (softmax [contradiction, entailment]).get ⟨1, by simp⟩

theorem scoresUnder_independent_of_ne_two (m : LogitMatrix α) (hwidth : m.width ≠ 2)
    (e c : Fin m.width) :
    m.scoresUnder .independent e c = List.zipWith verdict (m.column e) (m.column c) := by
  unfold scoresUnder column
  rw [List.zipWith_map, List.zipWith_self]
  apply List.map_congr_left
  intro i _
  rw [independentScore, if_neg hwidth]
  rfl

theorem scoresUnder_independent_of_eq_two (m : LogitMatrix α) (hwidth : m.width = 2)
    (e c c' : Fin m.width) :
    m.scoresUnder .independent e c = m.scoresUnder .independent e c' := by
  apply List.map_congr_left
  intro i _
  rw [independentScore, independentScore, if_pos hwidth, if_pos hwidth]

theorem score_congr (m m' : LogitMatrix α) (indices indices' : ClassIndices) {multiLabel : Bool}
    (hheight : m.height = m'.height) (he : indices.entailment < m.width)
    (hc : indices.contradiction < m.width) (he' : indices'.entailment < m'.width)
    (hc' : indices'.contradiction < m'.width)
    (h : m.scoresUnder (Policy.select multiLabel m.height) ⟨_, he⟩ ⟨_, hc⟩ =
      m'.scoresUnder (Policy.select multiLabel m.height) ⟨_, he'⟩ ⟨_, hc'⟩) :
    m.score indices multiLabel = m'.score indices' multiLabel := by
  rcases Nat.eq_zero_or_pos m.height with hempty | hpos
  · rw [score_of_empty m _ _ hempty, score_of_empty m' _ _ (hheight ▸ hempty)]
  · rw [score_eq_ok m _ hpos he hc, score_eq_ok m' _ (hheight ▸ hpos) he' hc', ← hheight, h]

end LogitMatrix

open LogitMatrix in
/-- Two matrices with equal columns where the policy looks have equal rankings, however wide they
are and whatever their other columns hold. -/
theorem rankLogits_eq_of_column_eq (resolved : ResolvedConfig) (text : String)
    (candidates : List String) (m m' : LogitMatrix Binary32) (multiLabel : Bool)
    (hheight : m.height = m'.height)
    (he : resolved.indices.entailment < m.width) (hc : resolved.indices.contradiction < m.width)
    (he' : resolved.indices.entailment < m'.width)
    (hc' : resolved.indices.contradiction < m'.width) :
    (Policy.select multiLabel m.height = .exclusive →
      m.column ⟨_, he⟩ = m'.column ⟨_, he'⟩ →
        rankLogits resolved text candidates m multiLabel =
          rankLogits resolved text candidates m' multiLabel) ∧
    (Policy.select multiLabel m.height = .independent → 3 ≤ m.width → 3 ≤ m'.width →
      m.column ⟨_, he⟩ = m'.column ⟨_, he'⟩ → m.column ⟨_, hc⟩ = m'.column ⟨_, hc'⟩ →
        rankLogits resolved text candidates m multiLabel =
          rankLogits resolved text candidates m' multiLabel) ∧
    (Policy.select multiLabel m.height = .independent → m.width = 2 → ∀ contradiction < 2,
      rankLogits { resolved with indices.contradiction := contradiction } text candidates m
          multiLabel =
        rankLogits resolved text candidates m multiLabel) ∧
    (0 < m.height → candidates.length = m.height →
      ∃ ranking, rankLogits resolved text candidates m multiLabel = .ok ranking) := by
  have hscores (hpolicy : (m.map Binary32.widen).scoresUnder
        (Policy.select multiLabel m.height) ⟨_, he⟩ ⟨_, hc⟩ =
      (m'.map Binary32.widen).scoresUnder
        (Policy.select multiLabel m.height) ⟨_, he'⟩ ⟨_, hc'⟩) :
      rankLogits resolved text candidates m multiLabel =
        rankLogits resolved text candidates m' multiLabel :=
    rankLogits_congr hheight (score_congr (m.map Binary32.widen) (m'.map Binary32.widen) _ _ hheight
      he hc he' hc' hpolicy) text candidates
  refine ⟨?_, ?_, ?_, ?_⟩
  · intro hpolicy hentailment
    apply hscores
    rw [hpolicy]
    exact congrArg softmax (column_map_congr Binary32.widen hentailment)
  · intro hpolicy hwidth hwidth' hentailment hcontradiction
    apply hscores
    have hne : (m.map Binary32.widen).width ≠ 2 := by rw [width_map]; omega
    have hne' : (m'.map Binary32.widen).width ≠ 2 := by rw [width_map]; omega
    rw [hpolicy, scoresUnder_independent_of_ne_two _ hne, scoresUnder_independent_of_ne_two _ hne']
    exact congrArg₂ _ (column_map_congr Binary32.widen hentailment)
      (column_map_congr Binary32.widen hcontradiction)
  · intro hpolicy hwidth contradiction hcontradiction
    have hother : contradiction < m.width := hwidth ▸ hcontradiction
    refine rankLogits_congr rfl (score_congr (m.map Binary32.widen) (m.map Binary32.widen)
      { resolved.indices with contradiction := contradiction } _ rfl he hother he hc ?_) _ _
    rw [height_map, hpolicy]
    exact (m.map Binary32.widen).scoresUnder_independent_of_eq_two hwidth _ _ _
  · intro hpos hlength
    exact ⟨_, rankLogits_eq_ok multiLabel hlength hpos he hc text⟩

def threeClasses : LogitMatrix Binary32 where
  height := 2
  width := 3
  entries := [⟨0⟩, ⟨0⟩, ⟨0x3f800000⟩, ⟨0x7fc00000⟩, ⟨0⟩, ⟨0⟩]
  length_entries := rfl

def fourClasses : LogitMatrix Binary32 where
  height := 2
  width := 4
  entries := [⟨0⟩, ⟨0x7f800000⟩, ⟨0x3f800000⟩, ⟨0xffc00000⟩, ⟨0x7fc00000⟩, ⟨0x7fc00000⟩, ⟨0⟩,
    ⟨0xff800000⟩]
  length_entries := rfl

def twoClasses : LogitMatrix Binary32 where
  height := 1
  width := 2
  entries := [⟨0⟩, ⟨0x3f800000⟩]
  length_entries := rfl

/-- Neither further classes nor the contradiction of a binary head make a difference. -/
theorem rankLogits_eq_of_column_eq_further_classes :
    (∀ j : Fin 3, j ≠ 1 →
      threeClasses.column ⟨j, by exact j.isLt⟩ = fourClasses.column ⟨j, Nat.lt_succ_of_lt j.isLt⟩) ∧
    (∀ multiLabel, rankLogits {} "text" ["a", "b"] threeClasses multiLabel =
      rankLogits {} "text" ["a", "b"] fourClasses multiLabel) ∧
    rankLogits { indices := ⟨1, 1⟩ } "text" ["a"] twoClasses false =
      rankLogits { indices := ⟨1, 0⟩ } "text" ["a"] twoClasses false := by
  have hcolumns : ∀ j : Fin 3, j ≠ 1 → threeClasses.column ⟨j, by exact j.isLt⟩ =
      fourClasses.column ⟨j, Nat.lt_succ_of_lt j.isLt⟩ := by decide
  refine ⟨hcolumns, ?_, ?_⟩
  · have hsame (multiLabel : Bool) := rankLogits_eq_of_column_eq {} "text" ["a", "b"] threeClasses
      fourClasses multiLabel rfl (by decide) (by decide) (by decide) (by decide)
    intro multiLabel
    cases multiLabel with
    | false => exact (hsame false).1 rfl (hcolumns 2 (by decide))
    | true =>
      exact (hsame true).2.1 rfl (by decide) (by decide) (hcolumns 2 (by decide))
        (hcolumns 0 (by decide))
  · exact (rankLogits_eq_of_column_eq { indices := ⟨1, 0⟩ } "text" ["a"] twoClasses twoClasses false
      rfl (by decide) (by decide) (by decide) (by decide)).2.2.1 rfl rfl 1 (by decide)

end ZeroShot
