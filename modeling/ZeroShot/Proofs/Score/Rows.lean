import ZeroShot.Proofs.Score.Matrix

/-! A matrix and the rows that it is made of.

Rows make a matrix if they have one width, of at least two. They lie one behind the other in its
entries, and whether one row is cut out of those or all of them are cut off in turn, it is the rows
that were put in. -/

namespace ZeroShot.LogitMatrix

variable {α : Type}

def Stackable (rows : List (List α)) : Prop :=
  rows = [] ∨ ∃ width, 2 ≤ width ∧ ∀ row ∈ rows, row.length = width

/-- What is wrong with the rows: the first is too narrow, or else one further down is the first that
is not as wide, whatever comes after it. -/
inductive Misfit : List (List α) → ShapeFault → Prop where
  | narrow {first : List α} {rest : List (List α)} (hfirst : first.length < 2) :
    Misfit (first :: rest) (.narrowRow first.length)
  | ragged {first row : List α} {before after : List (List α)} (hfirst : 2 ≤ first.length)
    (hbefore : ∀ r ∈ before, r.length = first.length) (hrow : row.length ≠ first.length) :
    Misfit (first :: before ++ row :: after)
      (.raggedRow (before.length + 1) row.length first.length)

theorem firstRagged?_append {width : Nat} {before : List (List α)}
    (h : ∀ r ∈ before, r.length = width) (index : Nat) (rows : List (List α)) :
    firstRagged? width index (before ++ rows) =
      firstRagged? width (index + before.length) rows := by
  induction before generalizing index with
  | nil => rfl
  | cons r before ih =>
    obtain ⟨hr, hbefore⟩ := List.forall_mem_cons.1 h
    rw [List.cons_append, firstRagged?, if_pos hr, ih hbefore, List.length_cons]
    congr 1
    omega

theorem exists_of_firstRagged?_eq_some {width index place found : Nat} {rows : List (List α)}
    (h : firstRagged? width index rows = some (place, found)) :
    ∃ before row after, rows = before ++ row :: after ∧ (∀ r ∈ before, r.length = width) ∧
      row.length ≠ width ∧ place = index + before.length ∧ found = row.length := by
  induction rows generalizing index with
  | nil => cases h
  | cons row rest ih =>
    rw [firstRagged?] at h
    split at h
    · next hrow =>
      obtain ⟨before, ragged, after, rfl, hbefore, hragged, rfl, rfl⟩ := ih h
      refine ⟨row :: before, ragged, after, rfl, List.forall_mem_cons.2 ⟨hrow, hbefore⟩, hragged,
        ?_, rfl⟩
      rw [List.length_cons]
      omega
    · next hrow =>
      cases h
      exact ⟨[], row, rest, rfl, by simp, hrow, rfl, rfl⟩

theorem misfit_of_ofRows_eq_error {rows : List (List α)} {fault : ShapeFault}
    (h : ofRows rows = .error fault) : Misfit rows fault := by
  unfold ofRows at h
  split at h
  · cases h
  · next first rest =>
    split at h
    · next hfirst =>
      cases h
      exact .narrow hfirst
    · next hfirst =>
      split at h
      · next place found hragged =>
        cases h
        obtain ⟨before, row, after, rfl, hbefore, hrow, rfl, rfl⟩ :=
          exists_of_firstRagged?_eq_some hragged
        rw [Nat.add_comm]
        exact .ragged (Nat.le_of_not_lt hfirst) hbefore hrow
      · cases h

theorem ofRows_of_misfit {rows : List (List α)} {fault : ShapeFault} (h : Misfit rows fault) :
    ofRows rows = .error fault := by
  cases h with
  | narrow hfirst => rw [ofRows, if_pos hfirst]
  | @ragged first row before after hfirst hbefore hrow =>
    have hragged : firstRagged? first.length 1 (before ++ row :: after) =
        some (before.length + 1, row.length) := by
      rw [firstRagged?_append hbefore, firstRagged?, if_neg hrow, Nat.add_comm]
    rw [List.cons_append, ofRows, if_neg (by omega)]
    split
    · next hsome =>
      rw [hragged] at hsome
      cases hsome
      rfl
    · next hnone =>
      rw [hragged] at hnone
      cases hnone

theorem exists_of_stackable {rows : List (List α)} (h : Stackable rows) :
    ∃ m, ofRows rows = .ok m := by
  cases hrows : ofRows rows with
  | ok m => exact ⟨m, rfl⟩
  | error fault =>
    exfalso
    -- no misfit has one width for all of its rows
    cases misfit_of_ofRows_eq_error hrows with
    | @narrow first rest hfirst =>
      obtain hnil | ⟨width, hwidth, hall⟩ := h
      · cases hnil
      · have := hall first List.mem_cons_self
        omega
    | @ragged first row before after hfirst hbefore hrow =>
      obtain hnil | ⟨width, hwidth, hall⟩ := h
      · cases hnil
      · have hsame := hall first List.mem_cons_self
        have := hall row (by simp)
        omega

def wholePieces (size : Nat) (items : List α) : List (List α) :=
  chunks size (items.length / size) items

def slice? (items : List α) (start stop : Nat) : Option (List α) :=
  if start ≤ stop ∧ stop ≤ items.length then some ((items.drop start).take (stop - start)) else none

theorem row?_eq_getElem?_rows (m : LogitMatrix α) (i : Nat) : m.row? i = m.rows[i]? := by
  rw [rows, getElem?_chunks, row?]

theorem rows_eq_map_row (m : LogitMatrix α) : m.rows = (List.finRange m.height).map m.row := by
  apply List.ext_getElem
  · simp
  · intro i hi hi'
    have hrow := m.getElem?_rows ⟨i, by simpa using hi⟩
    rw [List.getElem?_eq_getElem hi, Option.some.injEq] at hrow
    simpa using hrow

theorem mapM_rows (m : LogitMatrix α) {β : Type} {read : List α → Option β}
    {value : Fin m.height → β} (h : ∀ i, read (m.row i) = some (value i)) :
    m.rows.mapM read = some ((List.finRange m.height).map value) := by
  rw [rows_eq_map_row, List.mapM_map, show read ∘ m.row = fun i => some (value i) from funext h]
  exact List.mapM_pure

theorem row_end_le (m : LogitMatrix α) {i : Nat} (hi : i < m.height) :
    (i + 1) * m.width ≤ m.entries.length := by
  rw [m.length_entries]
  exact Nat.mul_le_mul_right m.width hi

theorem slice?_row (m : LogitMatrix α) {i : Nat} (hi : i < m.height) :
    slice? m.entries (i * m.width) ((i + 1) * m.width) = m.row? i := by
  have hstart : i * m.width ≤ (i + 1) * m.width := Nat.mul_le_mul_right _ (Nat.le_succ i)
  have hsize : (i + 1) * m.width - i * m.width = m.width := by
    rw [Nat.succ_mul, Nat.add_sub_cancel_left]
  rw [slice?, if_pos ⟨hstart, m.row_end_le hi⟩, hsize, row?, if_pos hi]

theorem wholePieces_entries (m : LogitMatrix α) (h : 0 < m.height → 0 < m.width) :
    wholePieces (max 1 m.width) m.entries = m.rows := by
  rcases Nat.eq_zero_or_pos m.height with hzero | hpos
  · rw [wholePieces, rows, m.length_entries, hzero, Nat.zero_mul, Nat.zero_div]
    rfl
  · rw [wholePieces, Nat.max_eq_right (h hpos), m.length_entries, Nat.mul_div_cancel _ (h hpos),
      rows]

/-- The matrix holds the rows and gives them back, all entries are theirs, and what is cut out of
the entries is inside of them. -/
structure Holds (m : LogitMatrix α) (rows : List (List α)) : Prop where
  height_eq : m.height = rows.length
  length_of_mem : ∀ row ∈ rows, row.length = m.width
  entries_eq : m.entries = rows.flatten
  length_entries_eq : m.entries.length = m.height * m.width
  rows_eq : m.rows = rows
  wholePieces_eq : wholePieces (max 1 m.width) m.entries = rows
  row?_eq : ∀ i, m.row? i = rows[i]?
  slice?_eq : ∀ i < m.height, slice? m.entries (i * m.width) ((i + 1) * m.width) = rows[i]?
  end_le : ∀ i < m.height, (i + 1) * m.width ≤ m.entries.length

theorem entries_of_ofRows_eq_ok {rows : List (List α)} {m : LogitMatrix α}
    (h : ofRows rows = .ok m) :
    m.entries = rows.flatten ∧ (rows = [] ∨ 2 ≤ m.width) ∧ ∀ row ∈ rows, row.length = m.width := by
  unfold ofRows at h
  split at h
  · cases h
    exact ⟨rfl, .inl rfl, by simp⟩
  · next first rest =>
    split at h
    · cases h
    · next hfirst =>
      split at h
      · cases h
      · next hragged =>
        cases h
        exact ⟨rfl, .inr (Nat.le_of_not_lt hfirst), List.forall_mem_cons.2
          ⟨rfl, length_eq_of_firstRagged?_eq_none hragged⟩⟩

theorem holds_of_ofRows_eq_ok {rows : List (List α)} {m : LogitMatrix α}
    (h : ofRows rows = .ok m) : m.Holds rows := by
  have hrows : m.rows = rows := rows_ofRows h
  obtain ⟨hentries, hwidth, hlength⟩ := entries_of_ofRows_eq_ok h
  have hheight : m.height = rows.length := by rw [← hrows, length_rows]
  have hpieces : wholePieces (max 1 m.width) m.entries = m.rows := by
    apply m.wholePieces_entries
    intro hpos
    obtain rfl | hwide := hwidth
    · rw [hheight] at hpos
      cases hpos
    · omega
  have hrow (i : Nat) : m.row? i = rows[i]? := by rw [row?_eq_getElem?_rows, hrows]
  exact
    { height_eq := hheight
      length_of_mem := hlength
      entries_eq := hentries
      length_entries_eq := m.length_entries
      rows_eq := hrows
      wholePieces_eq := hpieces.trans hrows
      row?_eq := hrow
      slice?_eq := fun i hi => (m.slice?_row hi).trans (hrow i)
      end_le := fun _ => m.row_end_le }

theorem stackable_of_ofRows_eq_ok {rows : List (List α)} {m : LogitMatrix α}
    (h : ofRows rows = .ok m) : Stackable rows := by
  obtain ⟨-, hwidth, hlength⟩ := entries_of_ofRows_eq_ok h
  exact hwidth.imp id fun hwide => ⟨m.width, hwide, hlength⟩

/-- Rows of one width make a matrix that gives them back, and all others are refused for the first
thing that is wrong with them. -/
theorem ofRows_holds_or_misfits (rows : List (List α)) :
    ((∃ m, ofRows rows = .ok m) ↔ Stackable rows) ∧
      (∀ m, ofRows rows = .ok m → m.Holds rows) ∧
      ∀ fault, ofRows rows = .error fault ↔ Misfit rows fault := by
  refine ⟨⟨?_, exists_of_stackable⟩, fun _ => holds_of_ofRows_eq_ok, fun fault => ?_⟩
  · rintro ⟨m, hm⟩
    exact stackable_of_ofRows_eq_ok hm
  · exact ⟨misfit_of_ofRows_eq_error, ofRows_of_misfit⟩

/-- Two rows with a NaN, a negative zero and an infinity come back as they are. A third that is too
narrow is refused, and the empty one after it has no part in that. -/
theorem ofRows_holds_or_misfits_third_row :
    let first : List Binary32 := [⟨0x7fc00000⟩, ⟨0⟩]
    let second : List Binary32 := [⟨0x80000000⟩, ⟨0xff800000⟩]
    Stackable [first, second] ∧
      (∃ m, ofRows [first, second] = .ok m ∧ m.rows = [first, second] ∧ m.row? 1 = some second ∧
        m.row? 2 = none) ∧
      ofRows [first, second, [⟨0⟩], []] = .error (.raggedRow 2 1 2) := by
  intro first second
  have hstackable : Stackable [first, second] := .inr ⟨2, by decide, by simp [first, second]⟩
  obtain ⟨hiff, hholds, -⟩ := ofRows_holds_or_misfits [first, second]
  obtain ⟨m, hm⟩ := hiff.2 hstackable
  have hrows := hholds m hm
  refine ⟨hstackable, ⟨m, hm, hrows.rows_eq, hrows.row?_eq 1, hrows.row?_eq 2⟩, ?_⟩
  have hmisfit : Misfit (first :: [second] ++ [⟨0⟩] :: [[]]) (.raggedRow 2 1 2) :=
    .ragged (by decide) (by simp [first, second]) (by decide)
  exact ((ofRows_holds_or_misfits _).2.2 _).2 hmisfit

end ZeroShot.LogitMatrix
