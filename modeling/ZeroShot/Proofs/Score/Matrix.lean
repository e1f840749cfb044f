import Mathlib.Data.List.FinRange
import ZeroShot.Score.Ranking

/-! Matrices by their entries, and when one can be scored and ranked. -/

namespace ZeroShot

variable {α β : Type}

namespace LogitMatrix

@[simp] theorem height_map (f : α → β) (m : LogitMatrix α) : (m.map f).height = m.height := rfl

@[simp] theorem width_map (f : α → β) (m : LogitMatrix α) : (m.map f).width = m.width := rfl

theorem entry_map (f : α → β) (m : LogitMatrix α) (i : Fin m.height) (j : Fin m.width) :
    (m.map f).entry i j = f (m.entry i j) := by
  simp [entry, map]

theorem entry_mem (m : LogitMatrix α) (i : Fin m.height) (j : Fin m.width) :
    m.entry i j ∈ m.entries := by
  unfold entry
  exact List.get_mem _ _

def row (m : LogitMatrix α) (i : Fin m.height) : List α := List.ofFn (m.entry i)

theorem row?_eq_row (m : LogitMatrix α) (i : Fin m.height) : m.row? i = some (m.row i) := by
  rw [row?, if_pos i.isLt, Option.some.injEq]
  have hlast : i * m.width + m.width ≤ m.entries.length := by
    rw [m.length_entries, ← Nat.succ_mul]
    exact Nat.mul_le_mul_right _ i.isLt
  apply List.ext_getElem
  · simp only [row, List.length_take, List.length_drop, List.length_ofFn]
    omega
  · intro j hj hj'
    simp [row, entry]

theorem entry_eq_of_row_eq {m : LogitMatrix α} {i j : Fin m.height} (h : m.row i = m.row j) :
    m.entry i = m.entry j :=
  List.ofFn_injective h

theorem row_map (f : α → β) (m : LogitMatrix α) (i : Fin m.height) :
    (m.map f).row i = (m.row i).map f := by
  unfold row
  rw [List.map_ofFn]
  congr 1
  funext j
  exact entry_map f m i j

theorem getElem?_chunks (width count : Nat) (items : List α) (i : Nat) :
    (chunks width count items)[i]? =
      if i < count then some ((items.drop (i * width)).take width) else none := by
  induction count generalizing items i with
  | zero => simp [chunks]
  | succ n ih =>
    cases i with
    | zero => simp [chunks]
    | succ i =>
      rw [chunks, List.getElem?_cons_succ, ih, List.drop_drop, Nat.succ_mul, Nat.add_comm width]
      simp

theorem getElem?_rows (m : LogitMatrix α) (i : Fin m.height) : m.rows[i.val]? = some (m.row i) := by
  rw [rows, getElem?_chunks, ← row?_eq_row, row?]

theorem chunks_flatten {width : Nat} {rows : List (List α)}
    (h : ∀ row ∈ rows, row.length = width) : chunks width rows.length rows.flatten = rows := by
  induction rows with
  | nil => rfl
  | cons row rows ih =>
    have hrow : row.length = width := h row List.mem_cons_self
    have hrows := ih fun r hr => h r (List.mem_cons_of_mem _ hr)
    rw [List.length_cons, List.flatten_cons, chunks, List.take_left' hrow, List.drop_left' hrow,
      hrows]

theorem rows_ofRows {rows : List (List α)} {m : LogitMatrix α} (h : ofRows rows = .ok m) :
    m.rows = rows := by
  unfold ofRows at h
  split at h
  · cases h
    rfl
  · next first rest =>
    split at h
    · cases h
    · split at h
      · cases h
      · next hragged =>
        cases h
        exact chunks_flatten
          (List.forall_mem_cons.2 ⟨rfl, length_eq_of_firstRagged?_eq_none hragged⟩)

def select {k : Nat} (m : LogitMatrix α) (f : Fin k → Fin m.height) : LogitMatrix α where
  height := k
  width := m.width
  entries := (List.ofFn fun i => m.row (f i)).flatten
  length_entries := by
    have hwidth : ∀ row ∈ List.ofFn fun i => m.row (f i), row.length = m.width := by
      intro row hrow
      obtain ⟨i, rfl⟩ := List.mem_ofFn.1 hrow
      exact List.length_ofFn
    rw [length_flatten_of_forall hwidth, List.length_ofFn]

theorem getElem?_flatten_of_forall {width : Nat} {rows : List (List α)}
    (h : ∀ row ∈ rows, row.length = width) {i j : Nat} (hj : j < width) :
    rows.flatten[i * width + j]? = rows[i]?.bind (·[j]?) := by
  induction rows generalizing i with
  | nil => simp
  | cons row rows ih =>
    have hrow : row.length = width := h row List.mem_cons_self
    rw [List.flatten_cons]
    cases i with
    | zero => rw [List.getElem?_append_left (by omega)]; simp
    | succ i =>
      have hindex : (i + 1) * width + j - row.length = i * width + j := by
        rw [Nat.succ_mul, hrow]
        omega
      rw [List.getElem?_append_right (by rw [Nat.succ_mul]; omega), hindex,
        ih fun r hr => h r (List.mem_cons_of_mem _ hr)]
      simp

theorem entry_select {k : Nat} (m : LogitMatrix α) (f : Fin k → Fin m.height) (i : Fin k)
    (j : Fin m.width) : (m.select f).entry i j = m.entry (f i) j := by
  have hwidth : ∀ row ∈ List.ofFn fun i => m.row (f i), row.length = m.width := by
    intro row hrow
    obtain ⟨i, rfl⟩ := List.mem_ofFn.1 hrow
    exact List.length_ofFn
  have hget := getElem?_flatten_of_forall hwidth (i := i) j.isLt
  have hlt : i * m.width + j < (m.select f).entries.length := by
    rw [(m.select f).length_entries]
    exact mul_add_lt i.isLt j.isLt
  have hentry : (m.select f).entries[i * m.width + j]? = some ((m.select f).entry i j) :=
    List.getElem?_eq_getElem hlt
  rw [show (m.select f).entries = (List.ofFn fun i => m.row (f i)).flatten from rfl, hget] at hentry
  simpa [row] using hentry.symm

theorem exists_lt_of_index_eq_ok {m : LogitMatrix α} {role : ClassRole} {index : Nat}
    {j : Fin m.width} (h : m.index role index = .ok j) :
    ∃ hlt : index < m.width, j = ⟨index, hlt⟩ := by
  unfold LogitMatrix.index at h
  split at h
  · next hlt => exact ⟨hlt, (Except.ok.inj h).symm⟩
  · cases h

variable [Arithmetic α]

theorem score_of_empty (m : LogitMatrix α) (indices : ClassIndices) (multiLabel : Bool)
    (hheight : m.height = 0) : m.score indices multiLabel = .error (.input .nothingToScore) := by
  rw [score, isEmpty, hheight]
  rfl

theorem score_eq_ok (m : LogitMatrix α) {indices : ClassIndices} (multiLabel : Bool)
    (hheight : 0 < m.height) (he : indices.entailment < m.width)
    (hc : indices.contradiction < m.width) :
    m.score indices multiLabel = .ok (m.scoresUnder (Policy.select multiLabel m.height)
      ⟨indices.entailment, he⟩ ⟨indices.contradiction, hc⟩) := by
  have hempty : m.isEmpty = false := by
    rw [isEmpty, decide_eq_false_iff_not]
    omega
  rw [score, hempty, index, index, dif_pos he, dif_pos hc]
  rfl

theorem score_exclusive (m : LogitMatrix α) {indices : ClassIndices} (hheight : 2 ≤ m.height)
    (he : indices.entailment < m.width) (hc : indices.contradiction < m.width) :
    m.score indices false = .ok (softmax (m.column ⟨indices.entailment, he⟩)) := by
  have hpolicy : Policy.select false m.height = .exclusive := by
    rw [Policy.select, Bool.false_or, if_neg (by simp; omega)]
  rw [m.score_eq_ok false (by omega) he hc, hpolicy]
  rfl

theorem eq_scoresUnder_of_score_eq_ok {m : LogitMatrix α} {indices : ClassIndices}
    {multiLabel : Bool} {scores : List α} (h : m.score indices multiLabel = .ok scores) :
    ∃ (he : indices.entailment < m.width) (hc : indices.contradiction < m.width),
      scores = m.scoresUnder (Policy.select multiLabel m.height) ⟨_, he⟩ ⟨_, hc⟩ := by
  unfold score at h
  split at h
  · cases h
  · obtain ⟨e, hentailment, h⟩ := exists_of_bind_eq_ok h
    obtain ⟨c, hcontradiction, h⟩ := exists_of_bind_eq_ok h
    obtain ⟨he, rfl⟩ := exists_lt_of_index_eq_ok hentailment
    obtain ⟨hc, rfl⟩ := exists_lt_of_index_eq_ok hcontradiction
    exact ⟨he, hc, (Except.ok.inj h).symm⟩

theorem scores_of_score_eq_ok {m : LogitMatrix α} {indices : ClassIndices} {multiLabel : Bool}
    {scores : List α} (h : m.score indices multiLabel = .ok scores) :
    ∃ e c, scores = m.scoresUnder (Policy.select multiLabel m.height) e c := by
  obtain ⟨he, hc, hscores⟩ := eq_scoresUnder_of_score_eq_ok h
  exact ⟨_, _, hscores⟩

theorem scoresUnder_independent (m : LogitMatrix α) (e c : Fin m.width) :
    m.scoresUnder .independent e c =
      List.ofFn fun i => independentScore (m.entry i) e c := by
  rw [scoresUnder, List.ofFn_eq_map]

end LogitMatrix

theorem rankLogits_congr {resolved resolved' : ResolvedConfig} {m m' : LogitMatrix Binary32}
    {multiLabel : Bool} (hheight : m.height = m'.height)
    (hscore : (m.map Binary32.widen).score resolved.indices multiLabel =
      (m'.map Binary32.widen).score resolved'.indices multiLabel)
    (text : String) (candidates : List String) :
    rankLogits resolved text candidates m multiLabel =
      rankLogits resolved' text candidates m' multiLabel := by
  rw [rankLogits, rankLogits, hheight, hscore]

theorem rankLogits_eq_ok {resolved : ResolvedConfig} {candidates : List String}
    {m : LogitMatrix Binary32} (multiLabel : Bool) (hlength : candidates.length = m.height)
    (hpos : 0 < m.height) (he : resolved.indices.entailment < m.width)
    (hc : resolved.indices.contradiction < m.width) (text : String) :
    rankLogits resolved text candidates m multiLabel =
      .ok (Ranking.ofScores text candidates ((m.map Binary32.widen).scoresUnder
        (Policy.select multiLabel m.height) ⟨_, he⟩ ⟨_, hc⟩)) := by
  rw [rankLogits, if_neg (by simp [hlength]),
    (m.map Binary32.widen).score_eq_ok multiLabel hpos he hc]
  rfl

theorem exists_scores_of_rankLogits_eq_ok {resolved : ResolvedConfig} {text : String}
    {candidates : List String} {m : LogitMatrix Binary32} {multiLabel : Bool} {r : Ranking}
    (h : rankLogits resolved text candidates m multiLabel = .ok r) :
    candidates.length = m.height ∧ ∃ scores,
      (m.map Binary32.widen).score resolved.indices multiLabel = .ok scores ∧
        r = Ranking.ofScores text candidates scores := by
  unfold rankLogits at h
  split at h
  · cases h
  · next hheight =>
    obtain ⟨scores, hscores, h⟩ := exists_of_bind_eq_ok h
    cases h
    exact ⟨(Decidable.not_not.1 hheight).symm, scores, hscores, rfl⟩

/-- How a ranking comes of logits: they are read where the configuration says, and scored under that
policy, which is the one that scoring picks by their number. -/
structure Ranking.ScoredUnder (r : Ranking) (resolved : ResolvedConfig) (policy : Policy)
    (multiLabel : Bool) (text : String) (candidates : List String)
    (logits : LogitMatrix Binary32) : Prop where
  length_candidates : candidates.length = logits.height
  policy_eq : Policy.select multiLabel logits.height = policy
  entailment_lt : resolved.indices.entailment < logits.width
  contradiction_lt : resolved.indices.contradiction < logits.width
  score_eq : (logits.map Binary32.widen).score resolved.indices multiLabel =
    .ok ((logits.map Binary32.widen).scoresUnder policy ⟨_, entailment_lt⟩ ⟨_, contradiction_lt⟩)
  eq_ofScores : r = Ranking.ofScores text candidates
    ((logits.map Binary32.widen).scoresUnder policy ⟨_, entailment_lt⟩ ⟨_, contradiction_lt⟩)

theorem scoredUnder_of_rankLogits_eq_ok {resolved : ResolvedConfig} {text : String}
    {candidates : List String} {m : LogitMatrix Binary32} {multiLabel : Bool} {r : Ranking}
    (h : rankLogits resolved text candidates m multiLabel = .ok r) :
    r.ScoredUnder resolved (Policy.select multiLabel candidates.length) multiLabel text candidates
      m := by
  obtain ⟨hlength, scores, hscore, hr⟩ := exists_scores_of_rankLogits_eq_ok h
  obtain ⟨he, hc, rfl⟩ := LogitMatrix.eq_scoresUnder_of_score_eq_ok hscore
  rw [LogitMatrix.height_map, ← hlength] at hscore hr
  exact ⟨hlength, by rw [hlength], he, hc, hscore, hr⟩

end ZeroShot
