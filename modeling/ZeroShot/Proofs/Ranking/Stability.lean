import Mathlib.Data.List.FinRange
import ZeroShot.Classifier.Basic
import ZeroShot.Proofs.Ranking.Sorting
import ZeroShot.Proofs.Score.Matrix

/-! What a ranking keeps of its candidates.

Each candidate is listed once, with its own score. Softmax gives equal values equal parts, whichever
of its rules for infinities applies, so candidates with equal rows have the same score under both
policies, be it a NaN; and sorting leaves equal scores in the order in which they came. -/

namespace ZeroShot

section

open Arithmetic

variable {α : Type} [Arithmetic α]

theorem softmax_eq_map (values : List α) :
    ∃ part : α → α, softmax values = values.map part := by
  cases values with
  | nil => exact ⟨id, rfl⟩
  | cons first rest =>
    -- what a rule gives a value depends on it and on what is common to all of them
    rw [softmax]
    split
    · exact ⟨_, rfl⟩
    · split
      · exact ⟨_, rfl⟩
      · rw [normalize, weights, List.map_map]
        exact ⟨_, rfl⟩

theorem LogitMatrix.scoresUnder_eq_ofFn (m : LogitMatrix α) (policy : Policy)
    (e c : Fin m.width) :
    ∃ score : Fin m.height → α, m.scoresUnder policy e c = List.ofFn score ∧
      ∀ i j, m.row i = m.row j → score i = score j := by
  cases policy with
  | independent =>
    refine ⟨_, m.scoresUnder_independent e c, ?_⟩
    intro i j hrow
    simp only [entry_eq_of_row_eq hrow]
  | exclusive =>
    obtain ⟨part, hpart⟩ := softmax_eq_map (m.column e)
    refine ⟨fun i => part (m.entry i e), ?_, ?_⟩
    · rw [scoresUnder, hpart, column, List.map_map, List.ofFn_eq_map]
      rfl
    · intro i j hrow
      simp only [entry_eq_of_row_eq hrow]

end

variable {n : Nat}

theorem idxOf_argsort_lt {score : Fin n → Binary64} {i j : Fin n} (hij : i < j)
    (h : score i = score j) :
    (argsort (List.ofFn score)).idxOf i.val < (argsort (List.ofFn score)).idxOf j.val :=
  idxOf_argsort_lt_iff.2 (.inr ⟨congrArg Binary64.rank h, hij⟩)

namespace Ranking

/-- Candidates are listed in the order of their scores, none is lost or doubled, and those with
equal rows stay in their own order. -/
structure IsStable (r : Ranking) (candidates : List String) (scores : List Binary64)
    (rows : List Row) : Prop where
  pairs_perm : r.pairs.Perm (candidates.zip scores)
  argsort_perm : (argsort scores).Perm (List.range candidates.length)
  labels_eq : r.labels.map some = (argsort scores).map (candidates[·]?)
  scores_eq : r.scores.map some = (argsort scores).map (scores[·]?)
  idxOf_lt : ∀ i j, i < j → j < candidates.length → rows[i]? = rows[j]? →
    (argsort scores).idxOf i < (argsort scores).idxOf j

theorem isStable_ofScores (text : String) (label : Fin n → String) {score : Fin n → Binary64}
    {rows : List Row} (h : ∀ i j : Fin n, rows[i.val]? = rows[j.val]? → score i = score j) :
    (ofScores text (List.ofFn label) (List.ofFn score)).IsStable (List.ofFn label)
      (List.ofFn score) rows where
  pairs_perm := by
    rw [pairs_ofScores]
    exact List.mergeSort_perm _ _
  argsort_perm := by
    rw [List.length_ofFn]
    exact ZeroShot.argsort_perm score
  labels_eq := (ofScores_eq_argsort text (by simp)).1
  scores_eq := (ofScores_eq_argsort text (by simp)).2
  idxOf_lt := by
    rw [List.length_ofFn]
    intro i j hij hj hrows
    exact idxOf_argsort_lt (i := ⟨i, hij.trans hj⟩) (j := ⟨j, hj⟩) hij (h _ _ hrows)

end Ranking

theorem isStable_of_rankLogits_eq_ok {resolved : ResolvedConfig} {text : String}
    {candidates : List String} {m : LogitMatrix Binary32} {multiLabel : Bool} {r : Ranking}
    (h : rankLogits resolved text candidates m multiLabel = .ok r) :
    ∃ scores, (m.map Binary32.widen).score resolved.indices multiLabel = .ok scores ∧
      r.IsStable candidates scores m.rows := by
  obtain ⟨hlength, scores, hscores, rfl⟩ := exists_scores_of_rankLogits_eq_ok h
  refine ⟨scores, hscores, ?_⟩
  obtain ⟨label, rfl⟩ := exists_eq_ofFn hlength
  obtain ⟨e, c, rfl⟩ := LogitMatrix.scores_of_score_eq_ok hscores
  obtain ⟨score, hscore, hrows⟩ := (m.map Binary32.widen).scoresUnder_eq_ofFn
    (Policy.select multiLabel m.height) e c
  rw [LogitMatrix.height_map, hscore]
  apply Ranking.isStable_ofScores
  intro i j hij
  rw [m.getElem?_rows i, m.getElem?_rows j, Option.some.injEq] at hij
  apply hrows
  rw [LogitMatrix.row_map, LogitMatrix.row_map, hij]

theorem Classifier.rows_of_classify_eq_ok {c : Classifier} {text : String}
    {candidates : List String} {template : String} {multiLabel : Bool} {course : Course}
    {r : Ranking} (h : (c.classify text candidates template multiLabel course).result = .ok r) :
    ∃ rows m, (c.backend.askAll c.options.maxConcurrency (pairs text template candidates)
        course).rows = .ok rows ∧ LogitMatrix.ofRows rows = .ok m ∧
      ZeroShot.rankLogits c.resolved text candidates m multiLabel = .ok r := by
  rw [classify] at h
  split at h
  · cases h
  · obtain ⟨rows, hrows, h⟩ := exists_of_bind_eq_ok h
    rw [rankRows] at h
    split at h
    · cases h
    · obtain ⟨m, hm, h⟩ := exists_of_bind_eq_ok h
      exact ⟨rows, m, hrows, eq_ok_of_mapError_eq_ok hm, h⟩

theorem Classifier.scoredUnder_of_classify_eq_ok {c : Classifier} {text : String}
    {candidates : List String} {template : String} {multiLabel : Bool} {course : Course}
    {r : Ranking} (h : (c.classify text candidates template multiLabel course).result = .ok r) :
    ∃ rows logits, (c.backend.askAll c.options.maxConcurrency (pairs text template candidates)
        course).rows = .ok rows ∧ LogitMatrix.ofRows rows = .ok logits ∧
      r.ScoredUnder c.resolved (Policy.select multiLabel candidates.length) multiLabel text
        candidates logits := by
  obtain ⟨rows, m, hrows, hm, hranked⟩ := rows_of_classify_eq_ok h
  exact ⟨rows, m, hrows, hm, scoredUnder_of_rankLogits_eq_ok hranked⟩

/-- A ranking that is given lists each candidate once, with its own score, and keeps the order of
candidates with equal rows, whether it is made from logits or from the answers of a backend. -/
theorem stable_of_ranked (text : String) (candidates : List String) (multiLabel : Bool)
    (r : Ranking) :
    (∀ (resolved : ResolvedConfig) (m : LogitMatrix Binary32),
      rankLogits resolved text candidates m multiLabel = .ok r →
        ∃ scores, (m.map Binary32.widen).score resolved.indices multiLabel = .ok scores ∧
          r.IsStable candidates scores m.rows) ∧
    (∀ (c : Classifier) (template : String) (course : Course),
      (c.classify text candidates template multiLabel course).result = .ok r →
        ∃ rows m scores, (c.backend.askAll c.options.maxConcurrency
            (Classifier.pairs text template candidates) course).rows = .ok rows ∧
          LogitMatrix.ofRows rows = .ok m ∧
          (m.map Binary32.widen).score c.resolved.indices multiLabel = .ok scores ∧
          r.IsStable candidates scores rows) := by
  refine ⟨fun _ _ => isStable_of_rankLogits_eq_ok, ?_⟩
  intro c template course h
  obtain ⟨rows, m, hrows, hm, hranked⟩ := Classifier.rows_of_classify_eq_ok h
  obtain ⟨scores, hscores, hstable⟩ := isStable_of_rankLogits_eq_ok hranked
  rw [LogitMatrix.rows_ofRows hm] at hstable
  exact ⟨rows, m, scores, hrows, hm, hscores, hstable⟩

def repeatingBackend : Backend where
  name := "repeating"
  infer _ hypothesis := ⟨.zero, .ok
    (if hypothesis = "b" then [⟨0⟩, ⟨0⟩, ⟨0xff800000⟩] else [⟨0x7fc00000⟩, ⟨0⟩, ⟨0x7f800000⟩])⟩

def repeatedRows : LogitMatrix Binary32 where
  height := 3
  width := 3
  entries := [⟨0x7fc00000⟩, ⟨0⟩, ⟨0x7f800000⟩, ⟨0⟩, ⟨0⟩, ⟨0xff800000⟩, ⟨0x7fc00000⟩, ⟨0⟩,
    ⟨0x7f800000⟩]
  length_entries := rfl

theorem stable_of_ranked_repeated_rows :
    ∃ r scores, rankLogits {} "text" ["a", "b", "a"] repeatedRows false = .ok r ∧
      (Classifier.classify ⟨repeatingBackend, {}, {}⟩ "text" ["a", "b", "a"] "" false).result =
        .ok r ∧
      r.IsStable ["a", "b", "a"] scores repeatedRows.rows ∧
      (argsort scores).idxOf 0 < (argsort scores).idxOf 2 := by
  obtain ⟨r, hranked⟩ : ∃ r, rankLogits {} "text" ["a", "b", "a"] repeatedRows false = .ok r :=
    ⟨_, rankLogits_eq_ok false rfl (by decide) (by decide) (by decide) "text"⟩
  have hclassified : (Classifier.classify ⟨repeatingBackend, {}, {}⟩ "text" ["a", "b", "a"] ""
      false).result = rankLogits {} "text" ["a", "b", "a"] repeatedRows false := rfl
  rw [hranked] at hclassified
  obtain ⟨rows, m, scores, hrows, -, -, hstable⟩ :=
    (stable_of_ranked "text" ["a", "b", "a"] false r).2 _ _ _ hclassified
  cases hrows
  exact ⟨r, scores, hranked, hclassified, hstable, hstable.idxOf_lt 0 2 (by decide) (by decide) rfl⟩

end ZeroShot
