import ZeroShot.Error

/-! Logits of several candidates: one row for each, one column for each class, in one list row by
row. -/

namespace ZeroShot

structure LogitMatrix (α : Type) where
  height : Nat
  width : Nat
  entries : List α
  length_entries : entries.length = height * width

namespace LogitMatrix

/-- The first row, counted from `index` on, that is not `width` wide, and its own width. -/
def firstRagged? (width index : Nat) : List (List α) → Option (Nat × Nat)
  | [] => none
  | row :: rest =>
    if row.length = width then firstRagged? width (index + 1) rest else some (index, row.length)

theorem length_eq_of_firstRagged?_eq_none {width index : Nat} {rows : List (List α)}
    (h : firstRagged? width index rows = none) : ∀ row ∈ rows, row.length = width := by
  induction rows generalizing index with
  | nil => simp
  | cons row rest ih =>
    simp only [firstRagged?] at h
    split at h
    · next hrow => simpa [hrow] using ih h
    · cases h

theorem length_flatten_of_forall {width : Nat} {rows : List (List α)}
    (h : ∀ row ∈ rows, row.length = width) : rows.flatten.length = rows.length * width := by
  induction rows with
  | nil => simp
  | cons row rest ih =>
    simp only [List.flatten_cons, List.length_append, List.length_cons]
    rw [ih fun r hr => h r (List.mem_cons_of_mem _ hr), h row List.mem_cons_self, Nat.succ_mul,
      Nat.add_comm]

def empty : LogitMatrix α := ⟨0, 0, [], by simp⟩

/-- All rows are as wide as the first, which has at least two entries. -/
def ofRows (rows : List (List α)) : Except ShapeFault (LogitMatrix α) :=
  match rows with
  | [] => .ok empty
  | first :: rest =>
    if first.length < 2 then .error (.narrowRow first.length)
    else match h : firstRagged? first.length 1 rest with
      | some (index, width) => .error (.raggedRow index width first.length)
      | none => .ok {
          height := rest.length + 1
          width := first.length
          entries := (first :: rest).flatten
          length_entries := length_flatten_of_forall fun row hrow => by
            rcases List.mem_cons.1 hrow with rfl | hrow
            · rfl
            · exact length_eq_of_firstRagged?_eq_none h row hrow }

def isEmpty (m : LogitMatrix α) : Bool := m.height = 0

theorem mul_add_lt {height width i j : Nat} (hi : i < height) (hj : j < width) :
    i * width + j < height * width :=
  calc i * width + j < i * width + width := Nat.add_lt_add_left hj _
    _ = (i + 1) * width := (Nat.succ_mul i width).symm
    _ ≤ height * width := Nat.mul_le_mul_right width hi

def entry (m : LogitMatrix α) (i : Fin m.height) (j : Fin m.width) : α :=
  have := mul_add_lt i.isLt j.isLt
  m.entries.get ⟨i * m.width + j, by rwa [m.length_entries]⟩

def chunks (width : Nat) : Nat → List α → List (List α)
  | 0, _ => []
  | count + 1, items => items.take width :: chunks width count (items.drop width)

def rows (m : LogitMatrix α) : List (List α) := chunks m.width m.height m.entries

def row? (m : LogitMatrix α) (index : Nat) : Option (List α) :=
  if index < m.height then some ((m.entries.drop (index * m.width)).take m.width) else none

def column (m : LogitMatrix α) (j : Fin m.width) : List α :=
  (List.finRange m.height).map fun i => m.entry i j

def map (f : α → β) (m : LogitMatrix α) : LogitMatrix β :=
  ⟨m.height, m.width, m.entries.map f, by simp [m.length_entries]⟩

def index (m : LogitMatrix α) (role : ClassRole) (index : Nat) : Except Error (Fin m.width) :=
  if h : index < m.width then .ok ⟨index, h⟩ else .error (.indexOutOfRange role index m.width)

@[simp] theorem length_chunks (width count : Nat) (items : List α) :
    (chunks width count items).length = count := by
  induction count generalizing items with
  | zero => rfl
  | succ n ih => simp [chunks, ih]

@[simp] theorem length_rows (m : LogitMatrix α) : m.rows.length = m.height := length_chunks _ _ _

@[simp] theorem length_column (m : LogitMatrix α) (j : Fin m.width) :
    (m.column j).length = m.height := by
  simp [column]

end LogitMatrix

end ZeroShot
