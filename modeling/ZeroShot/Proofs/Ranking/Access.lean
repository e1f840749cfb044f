import ZeroShot.Proofs.Ranking.Order
import ZeroShot.Proofs.Score.Rows

/-! What is read to rank candidates, and when they are not ranked.

Scores and rankings are computed here with every entry read by its place, which goes wrong where the
place is not there. Once a matrix has a row for each candidate and a column for both classes, every
place that is read is there, and what is computed is the ranking. Else nothing is read, and the
first thing that is missing is reported. -/

namespace ZeroShot

section

variable {α : Type} [Arithmetic α]

/-- The score of a row by itself, none if a place is read that is not there. -/
def independentScoreAt? (row : List α) (indices : ClassIndices) : Option α :=
  if row.length = 2 then do
    let first ← row[0]?
    let second ← row[1]?
    (softmax [first, second])[indices.entailment]?
  else do
    let contradiction ← row[indices.contradiction]?
    let entailment ← row[indices.entailment]?
    (softmax [contradiction, entailment])[1]?

def LogitMatrix.scoresAt? (m : LogitMatrix α) (policy : Policy) (indices : ClassIndices) :
    Option (List α) :=
  match policy with
  | .independent => m.rows.mapM fun row => independentScoreAt? row indices
  | .exclusive => (m.rows.mapM fun row => row[indices.entailment]?).map softmax

theorem independentScoreAt?_ofFn {width : Nat} (row : Fin width → α) {indices : ClassIndices}
    (he : indices.entailment < width) (hc : indices.contradiction < width) :
    independentScoreAt? (List.ofFn row) indices =
      some (independentScore row ⟨indices.entailment, he⟩ ⟨indices.contradiction, hc⟩) := by
  have hplace {place : Nat} (h : place < width) :
      (List.ofFn row)[place]? = some (row ⟨place, h⟩) := by
    simp [h]
  unfold independentScoreAt? independentScore
  rw [List.length_ofFn]
  split
  · next hwidth =>
    subst hwidth
    rw [hplace (by decide), hplace (by decide)]
    exact List.getElem?_eq_getElem (by simpa using he)
  · rw [hplace hc, hplace he]
    exact List.getElem?_eq_getElem (by simp)

namespace LogitMatrix

theorem scoresAt?_eq (m : LogitMatrix α) (policy : Policy) {indices : ClassIndices}
    (he : indices.entailment < m.width) (hc : indices.contradiction < m.width) :
    m.scoresAt? policy indices =
      some (m.scoresUnder policy ⟨indices.entailment, he⟩ ⟨indices.contradiction, hc⟩) := by
  cases policy with
  | independent => exact m.mapM_rows fun i => independentScoreAt?_ofFn (m.entry i) he hc
  | exclusive =>
    have hcolumn : (m.rows.mapM fun row => row[indices.entailment]?) =
        some (m.column ⟨indices.entailment, he⟩) :=
      m.mapM_rows fun i => by simp [row, he]
    rw [scoresAt?, hcolumn]
    rfl

theorem score_of_entailment_ge (m : LogitMatrix α) {indices : ClassIndices} (multiLabel : Bool)
    (hpos : 0 < m.height) (he : m.width ≤ indices.entailment) :
    m.score indices multiLabel =
      .error (.indexOutOfRange .entailment indices.entailment m.width) := by
  have hempty : m.isEmpty = false := decide_eq_false (Nat.ne_of_gt hpos)
  rw [score, hempty, index, dif_neg (Nat.not_lt_of_le he)]
  rfl

theorem score_of_contradiction_ge (m : LogitMatrix α) {indices : ClassIndices} (multiLabel : Bool)
    (hpos : 0 < m.height) (he : indices.entailment < m.width)
    (hc : m.width ≤ indices.contradiction) :
    m.score indices multiLabel =
      .error (.indexOutOfRange .contradiction indices.contradiction m.width) := by
  have hempty : m.isEmpty = false := decide_eq_false (Nat.ne_of_gt hpos)
  rw [score, hempty, index, index, dif_pos he, dif_neg (Nat.not_lt_of_le hc)]
  rfl

end LogitMatrix

end

def Ranking.listed? (text : String) (candidates : List String) (scores : List Binary64) :
    Option Ranking := do
  let order := argsort scores
  let labels ← order.mapM (candidates[·]?)
  let sorted ← order.mapM (scores[·]?)
  some ⟨text, labels, sorted⟩

theorem Ranking.listed?_eq (text : String) {candidates : List String} {scores : List Binary64}
    (h : candidates.length = scores.length) :
    listed? text candidates scores = some (ofScores text candidates scores) := by
  obtain ⟨n, hn⟩ : ∃ n, scores.length = n := ⟨_, rfl⟩
  obtain ⟨score, rfl⟩ := exists_eq_ofFn hn
  obtain ⟨label, rfl⟩ := exists_eq_ofFn (h.trans hn)
  have hread {β : Type} (value : Fin n → β) :
      (argsort (List.ofFn score)).mapM ((List.ofFn value)[·]?) =
        some ((descending score).map value) := by
    rw [argsort_ofFn, List.mapM_map,
      show ((List.ofFn value)[·]?) ∘ Fin.val = fun i => some (value i) by funext i; simp]
    exact List.mapM_pure
  rw [listed?, hread label, hread score, ofScores_ofFn]
  rfl

theorem Ranking.labels_perm_ofScores (text : String) {candidates : List String}
    {scores : List Binary64} (h : candidates.length = scores.length) :
    (ofScores text candidates scores).labels.Perm candidates := by
  have hperm := (List.mergeSort_perm (candidates.zip scores) fun a b => b.2.rank ≤ a.2.rank).map
    Prod.fst
  rwa [List.map_fst_zip (Nat.le_of_eq h)] at hperm

/-- What is missing for a ranking: rows for the candidates, then candidates, then a column for the
first class, then one for the second. Of several it is the first, and it does not matter which
columns the scores are read in. -/
inductive Refusal (indices : ClassIndices) (candidates : List String) (m : LogitMatrix Binary32) :
    Error → Prop where
  | misaligned (hrows : m.height ≠ candidates.length) :
    Refusal indices candidates m (.shape (.rowsForCandidates m.height candidates.length))
  | empty (hrows : m.height = candidates.length) (hempty : m.height = 0) :
    Refusal indices candidates m (.input .nothingToScore)
  | entailment (hrows : m.height = candidates.length) (hpos : 0 < m.height)
    (he : m.width ≤ indices.entailment) :
    Refusal indices candidates m (.indexOutOfRange .entailment indices.entailment m.width)
  | contradiction (hrows : m.height = candidates.length) (hpos : 0 < m.height)
    (he : indices.entailment < m.width) (hc : m.width ≤ indices.contradiction) :
    Refusal indices candidates m (.indexOutOfRange .contradiction indices.contradiction m.width)

structure Rankable (indices : ClassIndices) (candidates : List String) (m : LogitMatrix Binary32) :
    Prop where
  height_eq : m.height = candidates.length
  height_pos : 0 < m.height
  entailment_lt : indices.entailment < m.width
  contradiction_lt : indices.contradiction < m.width

theorem Refusal.not_rankable {indices : ClassIndices} {candidates : List String}
    {m : LogitMatrix Binary32} {e : Error} (h : Refusal indices candidates m e) :
    ¬ Rankable indices candidates m := by
  intro hrankable
  cases h with
  | misaligned hrows => exact hrows hrankable.height_eq
  | empty _ hempty => exact Nat.ne_of_gt hrankable.height_pos hempty
  | entailment _ _ he => exact Nat.not_le_of_lt hrankable.entailment_lt he
  | contradiction _ _ _ hc => exact Nat.not_le_of_lt hrankable.contradiction_lt hc

section

variable {resolved : ResolvedConfig} {candidates : List String} {m : LogitMatrix Binary32}

theorem rankLogits_of_refusal {e : Error} (h : Refusal resolved.indices candidates m e)
    (text : String) (multiLabel : Bool) :
    rankLogits resolved text candidates m multiLabel = .error e := by
  have hscored (hrows : m.height = candidates.length)
      (hscore : (m.map Binary32.widen).score resolved.indices multiLabel = .error e) :
      rankLogits resolved text candidates m multiLabel = .error e := by
    rw [rankLogits, if_neg (not_not_intro hrows), hscore]
    rfl
  cases h with
  | misaligned hrows => rw [rankLogits, if_pos hrows]
  | empty hrows hempty =>
    exact hscored hrows (LogitMatrix.score_of_empty _ _ _ hempty)
  | entailment hrows hpos he =>
    exact hscored hrows (LogitMatrix.score_of_entailment_ge _ _ hpos he)
  | contradiction hrows hpos he hc =>
    exact hscored hrows (LogitMatrix.score_of_contradiction_ge _ _ hpos he hc)

theorem rankable_or_refusal (indices : ClassIndices) (candidates : List String)
    (m : LogitMatrix Binary32) :
    Rankable indices candidates m ∨ ∃ e, Refusal indices candidates m e := by
  by_cases hrows : m.height = candidates.length
  · rcases Nat.eq_zero_or_pos m.height with hempty | hpos
    · exact .inr ⟨_, .empty hrows hempty⟩
    · rcases Nat.lt_or_ge indices.entailment m.width with he | he
      · rcases Nat.lt_or_ge indices.contradiction m.width with hc | hc
        · exact .inl ⟨hrows, hpos, he, hc⟩
        · exact .inr ⟨_, .contradiction hrows hpos he hc⟩
      · exact .inr ⟨_, .entailment hrows hpos he⟩
  · exact .inr ⟨_, .misaligned hrows⟩

/-- The ranking of candidates whose scores are read by place, and labels by place after that. -/
structure Ranking.IsRead (r : Ranking) (indices : ClassIndices) (text : String)
    (candidates : List String) (m : LogitMatrix Binary32) (multiLabel : Bool)
    (scores : List Binary64) : Prop where
  scoresAt?_eq : (m.map Binary32.widen).scoresAt? (Policy.select multiLabel m.height) indices =
    some scores
  length_scores : scores.length = candidates.length
  listed?_eq : listed? text candidates scores = some r
  labels_perm : r.labels.Perm candidates
  pairs_perm : r.pairs.Perm (candidates.zip scores)

theorem exists_read_of_rankable (h : Rankable resolved.indices candidates m) (text : String)
    (multiLabel : Bool) : ∃ r scores,
      rankLogits resolved text candidates m multiLabel = .ok r ∧
        r.IsRead resolved.indices text candidates m multiLabel scores := by
  obtain ⟨hrows, hpos, he, hc⟩ := h
  let scores := (m.map Binary32.widen).scoresUnder (Policy.select multiLabel m.height)
    ⟨resolved.indices.entailment, he⟩ ⟨resolved.indices.contradiction, hc⟩
  have hlength : scores.length = candidates.length :=
    (LogitMatrix.length_scoresUnder _ _ _ _).trans hrows
  refine ⟨_, scores, rankLogits_eq_ok multiLabel hrows.symm hpos he hc text, ?_⟩
  exact
    { scoresAt?_eq := (m.map Binary32.widen).scoresAt?_eq _ he hc
      length_scores := hlength
      listed?_eq := Ranking.listed?_eq text hlength.symm
      labels_perm := Ranking.labels_perm_ofScores text hlength.symm
      pairs_perm := by
        rw [Ranking.pairs_ofScores]
        exact List.mergeSort_perm _ _ }

end

/-- Candidates are ranked if nothing is missing for it, and then every place that is read is there
and each candidate is listed once; else they are refused for the first thing that is missing. -/
theorem rankLogits_reads_or_refuses (resolved : ResolvedConfig) (text : String)
    (candidates : List String) (m : LogitMatrix Binary32) (multiLabel : Bool) :
    (∀ e, rankLogits resolved text candidates m multiLabel = .error e ↔
      Refusal resolved.indices candidates m e) ∧
    ((∃ r, rankLogits resolved text candidates m multiLabel = .ok r) ↔
      Rankable resolved.indices candidates m) ∧
    ∀ r, rankLogits resolved text candidates m multiLabel = .ok r →
      ∃ scores, r.IsRead resolved.indices text candidates m multiLabel scores := by
  rcases rankable_or_refusal resolved.indices candidates m with hrankable | ⟨e, hrefusal⟩
  · obtain ⟨r, scores, hranked, hread⟩ := exists_read_of_rankable hrankable text multiLabel
    rw [hranked]
    refine ⟨fun e => ⟨nofun, fun he => absurd hrankable he.not_rankable⟩,
      ⟨fun _ => hrankable, fun _ => ⟨r, rfl⟩⟩, ?_⟩
    intro r' hr'
    cases hr'
    exact ⟨scores, hread⟩
  · have hranked := rankLogits_of_refusal hrefusal text multiLabel
    refine ⟨fun e' => ⟨?_, fun he' => rankLogits_of_refusal he' text multiLabel⟩, ⟨?_, ?_⟩, ?_⟩
    · intro he'
      rw [hranked] at he'
      cases he'
      exact hrefusal
    · rintro ⟨r, hr⟩
      rw [hranked] at hr
      cases hr
    · exact fun hrankable => absurd hrankable hrefusal.not_rankable
    · intro r hr
      rw [hranked] at hr
      cases hr

def twoClassRows : LogitMatrix Binary32 where
  height := 2
  width := 2
  entries := [⟨0x7fc00000⟩, ⟨0⟩, ⟨0⟩, ⟨0x7f800000⟩]
  length_entries := rfl

/-- The column of the second class must be there also where no score is read in it; with both
columns the candidates are listed. -/
theorem rankLogits_reads_or_refuses_two_classes :
    rankLogits ⟨⟨1, 2⟩, false⟩ "text" ["a", "a"] twoClassRows false =
        .error (.indexOutOfRange .contradiction 2 2) ∧
      ∃ r scores, rankLogits ⟨⟨1, 0⟩, false⟩ "text" ["a", "a"] twoClassRows true = .ok r ∧
        r.IsRead ⟨1, 0⟩ "text" ["a", "a"] twoClassRows true scores := by
  constructor
  · obtain ⟨hrefused, -, -⟩ :=
      rankLogits_reads_or_refuses ⟨⟨1, 2⟩, false⟩ "text" ["a", "a"] twoClassRows false
    exact (hrefused _).2 (.contradiction rfl (by decide) (by decide) (by decide))
  · obtain ⟨-, hranked, hread⟩ :=
      rankLogits_reads_or_refuses ⟨⟨1, 0⟩, false⟩ "text" ["a", "a"] twoClassRows true
    obtain ⟨r, hr⟩ := hranked.2 ⟨rfl, by decide, by decide, by decide⟩
    obtain ⟨scores, hscores⟩ := hread r hr
    exact ⟨r, scores, hr, hscores⟩

end ZeroShot
