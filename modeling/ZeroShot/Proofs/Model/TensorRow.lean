import ZeroShot.Model.Tensor
import ZeroShot.Proofs.Number.Words
import ZeroShot.Proofs.Score.Rows

/-! The first row of a tensor.

Dimensions are words with a sign, and a row is as wide as the last of them says when the sign is
dropped. No tensor holds as many values as a negative word then stands for, so the row that is cut
off lies inside of the values and has the width that the dimension gives. -/

namespace ZeroShot.Tensor

variable {α : Type}

def rowOf (dimensions : List Int64) (values : List α) : Except Error (List α) :=
  (firstRow (dimensions.map Int64.toInt) values).mapError .shape

/-- The first row with all sizes in words that have no sign, none if it is cut off beyond the
values. -/
def rowInWords? (dimensions : List Int64) (values : List α) : Option (Except Error (List α)) :=
  match dimensions with
  | [labels] | [_, labels] =>
    let width := labels.toUInt64
    if UInt64.ofNat values.length < width then
      some (.error (.shape (.tensorSize values.length width.toNat)))
    else (LogitMatrix.slice? values 0 width.toNat).map .ok
  | _ => some (.error (.shape (.tensorRank dimensions.length)))

inductive HasWidth : List Int64 → Int64 → Prop
  | flat (width : Int64) : HasWidth [width] width
  | batched (batch width : Int64) : HasWidth [batch, width] width

/-- As many of the first values as the width says, if there are as many and the width is not
negative, or else what does not fit. -/
inductive Cut (dimensions : List Int64) (values : List α) : Except Error (List α) → Prop
  | row {width : Int64} {row rest : List α} (hwidth : HasWidth dimensions width)
    (hvalues : values = row ++ rest) (hrow : row.length = width.toInt) :
    Cut dimensions values (.ok row)
  | wide {width : Int64} (hwidth : HasWidth dimensions width) (hwide : values.length < width.toInt) :
    Cut dimensions values (.error (.shape (.tensorSize values.length width.toInt.toNat)))
  | negative {width : Int64} (hwidth : HasWidth dimensions width) (hneg : width.toInt < 0) :
    Cut dimensions values
      (.error (.shape (.tensorSize values.length (width.toInt + 0x10000000000000000).toNat)))
  | ranked (hone : dimensions.length ≠ 1) (htwo : dimensions.length ≠ 2) :
    Cut dimensions values (.error (.shape (.tensorRank dimensions.length)))

theorem hasWidth_or_ranked (dimensions : List Int64) :
    (∃ width, HasWidth dimensions width) ∨ dimensions.length ≠ 1 ∧ dimensions.length ≠ 2 := by
  rcases dimensions with _ | ⟨first, _ | ⟨second, _ | ⟨third, rest⟩⟩⟩
  · exact .inr ⟨by decide, by decide⟩
  · exact .inl ⟨first, .flat first⟩
  · exact .inl ⟨second, .batched first second⟩
  · exact .inr ⟨by simp, by simp⟩

section

variable {dimensions : List Int64} {width : Int64}

theorem rowOf_of_hasWidth (h : HasWidth dimensions width) (values : List α) :
    rowOf dimensions values =
      if values.length < width.toUInt64.toNat then
        .error (.shape (.tensorSize values.length width.toUInt64.toNat))
      else .ok (values.take width.toUInt64.toNat) := by
  have hcut : firstRow (dimensions.map Int64.toInt) values =
      if values.length < (width.toInt % 0x10000000000000000).toNat then
        .error (.tensorSize values.length (width.toInt % 0x10000000000000000).toNat)
      else .ok (values.take (width.toInt % 0x10000000000000000).toNat) := by
    cases h with
    | flat => rfl
    | batched => rfl
  have hwidth : (width.toInt % 0x10000000000000000).toNat = width.toUInt64.toNat := by
    have := Number.Word.toNat_toUInt64 width
    have := Number.Word.bounds width
    omega
  rw [rowOf, hcut, hwidth]
  split
  · rfl
  · rfl

theorem rowOf_of_ranked (hone : dimensions.length ≠ 1) (htwo : dimensions.length ≠ 2)
    (values : List α) :
    rowOf dimensions values = .error (.shape (.tensorRank dimensions.length)) := by
  rcases dimensions with _ | ⟨first, _ | ⟨second, _ | ⟨third, rest⟩⟩⟩
  · rfl
  · exact absurd rfl hone
  · exact absurd rfl htwo
  · have hrank : firstRow ((first :: second :: third :: rest).map Int64.toInt) values =
        .error (.tensorRank ((first :: second :: third :: rest).map Int64.toInt).length) := rfl
    rw [rowOf, hrank, List.length_map]
    rfl

/-- A word that is negative stands for more than any list holds when its sign is dropped. -/
theorem rowOf_of_cut {values : List α} {outcome : Except Error (List α)}
    (hsize : values.length < 0x8000000000000000) (h : Cut dimensions values outcome) :
    rowOf dimensions values = outcome := by
  cases h with
  | @row width row rest hwidth hvalues hrow =>
    have hcast : width.toUInt64.toNat = row.length := by
      have := Number.Word.toNat_toUInt64 width
      omega
    rw [rowOf_of_hasWidth hwidth, hcast, hvalues, List.length_append, if_neg (by omega),
      List.take_left' rfl]
  | @wide width hwidth hwide =>
    have hcast : width.toUInt64.toNat = width.toInt.toNat := by
      have := Number.Word.toNat_toUInt64 width
      omega
    rw [rowOf_of_hasWidth hwidth, hcast, if_pos (by omega)]
  | @negative width hwidth hneg =>
    have hcast : width.toUInt64.toNat = (width.toInt + 0x10000000000000000).toNat := by
      have := Number.Word.toNat_toUInt64 width
      omega
    have := Number.Word.bounds width
    rw [rowOf_of_hasWidth hwidth, hcast, if_pos (by omega)]
  | ranked hone htwo => exact rowOf_of_ranked hone htwo values

theorem exists_cut (dimensions : List Int64) (values : List α) :
    ∃ outcome, Cut dimensions values outcome := by
  obtain ⟨width, hwidth⟩ | ⟨hone, htwo⟩ := hasWidth_or_ranked dimensions
  · rcases lt_or_ge width.toInt 0 with hneg | hpos
    · exact ⟨_, .negative hwidth hneg⟩
    · rcases lt_or_ge (values.length : Int) width.toInt with hwide | hle
      · exact ⟨_, .wide hwidth hwide⟩
      · have hrow : (values.take width.toInt.toNat).length = width.toInt := by
          rw [List.length_take]
          omega
        exact ⟨_, .row hwidth (List.take_append_drop _ values).symm hrow⟩
  · exact ⟨_, .ranked hone htwo⟩

theorem rowInWords?_eq {values : List α} (hsize : values.length < 0x8000000000000000) :
    rowInWords? dimensions values = some (rowOf dimensions values) := by
  have hlength : (UInt64.ofNat values.length).toNat = values.length :=
    UInt64.toNat_ofNat_of_lt (Nat.lt_trans hsize (by decide))
  have hlt (width : Int64) :
      UInt64.ofNat values.length < width.toUInt64 ↔ values.length < width.toUInt64.toNat := by
    rw [UInt64.lt_iff_toNat_lt, hlength]
  obtain ⟨width, hwidth⟩ | ⟨hone, htwo⟩ := hasWidth_or_ranked dimensions
  · have hwords : rowInWords? dimensions values =
        if UInt64.ofNat values.length < width.toUInt64 then
          some (.error (.shape (.tensorSize values.length width.toUInt64.toNat)))
        else (LogitMatrix.slice? values 0 width.toUInt64.toNat).map .ok := by
      cases hwidth with
      | flat => rfl
      | batched => rfl
    rw [hwords, rowOf_of_hasWidth hwidth]
    simp only [hlt]
    split
    · rfl
    · next hle =>
      rw [LogitMatrix.slice?, if_pos ⟨Nat.zero_le _, Nat.le_of_not_lt hle⟩]
      rfl
  · rw [rowOf_of_ranked hone htwo]
    rcases dimensions with _ | ⟨first, _ | ⟨second, _ | ⟨third, rest⟩⟩⟩
    · rfl
    · exact absurd rfl hone
    · exact absurd rfl htwo
    · rfl

theorem rowOf_entries (m : LogitMatrix α) (hpos : 0 < m.height)
    (hdimensions : HasWidth dimensions width) (hwidth : width.toInt = m.width) :
    rowOf dimensions m.entries = .ok (m.row ⟨0, hpos⟩) := by
  have hcast : width.toUInt64.toNat = m.width := by
    have := Number.Word.toNat_toUInt64 width
    omega
  have hrow : m.row ⟨0, hpos⟩ = m.entries.take m.width := by
    have hsome := m.row?_eq_row ⟨0, hpos⟩
    rw [LogitMatrix.row?, if_pos hpos, Option.some.injEq, Nat.zero_mul, List.drop_zero] at hsome
    exact hsome.symm
  have hend : m.width ≤ m.entries.length := by
    simpa using m.row_end_le hpos
  rw [rowOf_of_hasWidth hdimensions, hcast, if_neg (Nat.not_lt_of_le hend), hrow]

end

/-- Of one dimension or two the last one says how many of the first values are given; if it is
negative or too large, or there are none or more dimensions, they do not fit. Nothing is cut off
beyond the values, and for the entries of a matrix it is the first row that is given. -/
theorem rowOf_within_values (dimensions : List Int64) (values : List α)
    (hsize : values.length < 0x8000000000000000) :
    (∀ outcome, rowOf dimensions values = outcome ↔ Cut dimensions values outcome) ∧
    rowInWords? dimensions values = some (rowOf dimensions values) ∧
    ∀ (m : LogitMatrix α) (hpos : 0 < m.height) (batch width : Int64),
      values = m.entries → dimensions = [batch, width] → width.toInt = m.width →
        rowOf dimensions values = .ok (m.row ⟨0, hpos⟩) := by
  refine ⟨fun outcome => ⟨?_, rowOf_of_cut hsize⟩, rowInWords?_eq hsize, ?_⟩
  · rintro rfl
    obtain ⟨outcome, hcut⟩ := exists_cut dimensions values
    rwa [rowOf_of_cut hsize hcut]
  · rintro m hpos batch width rfl rfl hwidth
    exact rowOf_entries m hpos (.batched batch width) hwidth

theorem rowOf_within_values_minus_one :
    let m : LogitMatrix Nat := ⟨2, 3, [7, 8, 9, 4, 5, 6], rfl⟩
    rowOf [1, -1] m.entries =
        .error (.shape (.tensorSize 6 0xffffffffffffffff)) ∧
      rowInWords? [1, -1] m.entries = some (rowOf [1, -1] m.entries) ∧
      rowOf [2, 3] m.entries = .ok [7, 8, 9] := by
  intro m
  obtain ⟨hcut, hwords, -⟩ := rowOf_within_values [1, -1] m.entries (by decide)
  obtain ⟨-, -, hrow⟩ := rowOf_within_values [2, 3] m.entries (by decide)
  exact ⟨(hcut _).2 (.negative (.batched 1 (-1)) (by decide)), hwords,
    hrow m (by decide) 2 3 rfl rfl rfl⟩

end ZeroShot.Tensor
