import ZeroShot.Number.Integer

/-! Decimal digits and the numbers they stand for.

Digits are read from the left, and what is read is exactly a text of digits, at least one, with its
value. The digits that a number is written in are among them. -/

namespace ZeroShot.Number

/-- Nothing but decimal digits, at least one, with that value. -/
structure IsNumeral (digits : List Char) (n : Nat) : Prop where
  ne_nil : digits ≠ []
  isDigit : ∀ c ∈ digits, c.isDigit
  value_eq : Nat.ofDigitChars 10 digits 0 = n

theorem digit?_of_isDigit {c : Char} (h : c.isDigit) : digit? c = some (c.toNat - '0'.toNat) := by
  simp only [Char.isDigit, ge_iff_le, Bool.and_eq_true, decide_eq_true_eq] at h
  exact if_pos h

theorem digit?_eq_none {c : Char} (h : ¬ c.isDigit) : digit? c = none := by
  simp only [Char.isDigit, ge_iff_le, Bool.and_eq_true, decide_eq_true_eq] at h
  exact if_neg h

theorem digitsFrom_eq_some_iff {value n : Nat} {digits : List Char} :
    digitsFrom value digits = some n ↔
      (∀ c ∈ digits, c.isDigit) ∧ Nat.ofDigitChars 10 digits value = n := by
  induction digits generalizing value with
  | nil => simp [digitsFrom]
  | cons c digits ih =>
    by_cases hc : c.isDigit
    · rw [digitsFrom, digit?_of_isDigit hc, Option.bind_some, ih, Nat.ofDigitChars_cons]
      simp [hc]
    · simp [digitsFrom, digit?_eq_none hc, hc]

theorem le_ofDigitChars (value : Nat) (digits : List Char) :
    value ≤ Nat.ofDigitChars 10 digits value := by
  rw [Nat.ofDigitChars_eq_ofDigitChars_zero]
  exact Nat.le_add_right_of_le (Nat.le_mul_of_pos_left _ (Nat.pow_pos (by decide)))

theorem natural?_eq_some_iff {text : List Char} {n : Nat} :
    natural? text = some n ↔ IsNumeral text n := by
  unfold natural?
  cases text with
  | nil => exact ⟨nofun, fun h => absurd rfl h.ne_nil⟩
  | cons c text =>
    rw [List.isEmpty_cons, if_neg Bool.false_ne_true, digitsFrom_eq_some_iff]
    exact ⟨fun ⟨hdigits, hvalue⟩ => ⟨List.cons_ne_nil c text, hdigits, hvalue⟩,
      fun h => ⟨h.isDigit, h.value_eq⟩⟩

theorem IsNumeral.head_ne_plus {digits : List Char} {n : Nat} (h : IsNumeral digits n)
    (rest : List Char) : digits ≠ '+' :: rest := by
  rintro rfl
  exact absurd (h.isDigit '+' List.mem_cons_self) (by decide)

theorem unsigned?_eq_some_iff {bound n : Nat} {text : List Char} :
    unsigned? bound text = some n ↔
      ∃ digits, (text = digits ∨ text = '+' :: digits) ∧ IsNumeral digits n ∧ n < bound := by
  unfold unsigned?
  simp only [Option.filter_eq_some_iff, decide_eq_true_eq, natural?_eq_some_iff]
  constructor
  · rintro ⟨hdigits, hn⟩
    split at hdigits
    · exact ⟨_, .inr rfl, hdigits, hn⟩
    · exact ⟨_, .inl rfl, hdigits, hn⟩
  · rintro ⟨digits, rfl | rfl, hdigits, hn⟩
    · refine ⟨?_, hn⟩
      split
      · next rest => exact absurd rfl (hdigits.head_ne_plus rest)
      · exact hdigits
    · exact ⟨hdigits, hn⟩

inductive IsInteger : List Char → Int → Prop
  | unsigned {digits : List Char} {n : Nat} (h : IsNumeral digits n) : IsInteger digits n
  | plus {digits : List Char} {n : Nat} (h : IsNumeral digits n) : IsInteger ('+' :: digits) n
  | minus {digits : List Char} {n : Nat} (h : IsNumeral digits n) : IsInteger ('-' :: digits) (-n)

theorem IsNumeral.head_ne_minus {digits : List Char} {n : Nat} (h : IsNumeral digits n)
    (rest : List Char) : digits ≠ '-' :: rest := by
  rintro rfl
  exact absurd (h.isDigit '-' List.mem_cons_self) (by decide)

section

variable {bound : Nat}

theorem natural?_filter_eq_some_iff {bounded : Nat → Bool} {digits : List Char} {n : Nat} :
    (natural? digits).filter bounded = some n ↔ IsNumeral digits n ∧ bounded n := by
  rw [Option.filter_eq_some_iff, natural?_eq_some_iff]

theorem signed?_plus (digits : List Char) :
    signed? bound ('+' :: digits) = ((natural? digits).filter (· < bound)).map Int.ofNat := rfl

theorem signed?_minus (digits : List Char) :
    signed? bound ('-' :: digits) =
      ((natural? digits).filter (· ≤ bound)).map fun n : Nat => -(n : Int) := by
  change Option.map _ (Option.bind _ _) = _
  cases (natural? digits).filter (· ≤ bound) <;> rfl

theorem signed?_unsigned {text : List Char} (hplus : ∀ rest, text ≠ '+' :: rest)
    (hminus : ∀ rest, text ≠ '-' :: rest) :
    signed? bound text = ((natural? text).filter (· < bound)).map Int.ofNat := by
  unfold signed?
  split
  · exact absurd rfl (hminus _)
  · exact absurd rfl (hplus _)
  · rfl

theorem signed?_of_isInteger {text : List Char} {n : Int} (h : IsInteger text n)
    (hlow : -bound ≤ n) (hhigh : n < bound) : signed? bound text = some n := by
  cases h with
  | @unsigned digits m hm =>
    have hlt : m < bound := by omega
    rw [signed?_unsigned hm.head_ne_plus hm.head_ne_minus,
      natural?_filter_eq_some_iff.2 ⟨hm, decide_eq_true hlt⟩]
    rfl
  | @plus digits m hm =>
    have hlt : m < bound := by omega
    rw [signed?_plus, natural?_filter_eq_some_iff.2 ⟨hm, decide_eq_true hlt⟩]
    rfl
  | @minus digits m hm =>
    have hle : m ≤ bound := by omega
    rw [signed?_minus, natural?_filter_eq_some_iff.2 ⟨hm, decide_eq_true hle⟩]
    rfl

theorem signed?_eq_some_iff (hbound : 0 < bound) {text : List Char} {n : Int} :
    signed? bound text = some n ↔ IsInteger text n ∧ -bound ≤ n ∧ n < bound := by
  refine ⟨fun h => ?_, fun ⟨h, hlow, hhigh⟩ => signed?_of_isInteger h hlow hhigh⟩
  by_cases hminus : ∃ rest, text = '-' :: rest
  · obtain ⟨rest, rfl⟩ := hminus
    rw [signed?_minus, Option.map_eq_some_iff] at h
    obtain ⟨m, hm, rfl⟩ := h
    obtain ⟨hm, hle⟩ := natural?_filter_eq_some_iff.1 hm
    have hle := of_decide_eq_true hle
    exact ⟨.minus hm, by omega, by omega⟩
  · have hnat {digits : List Char} {n : Int}
        (h : ((natural? digits).filter (· < bound)).map Int.ofNat = some n) :
        ∃ m : Nat, n = m ∧ IsNumeral digits m ∧ m < bound := by
      obtain ⟨m, hm, rfl⟩ := Option.map_eq_some_iff.1 h
      obtain ⟨hm, hlt⟩ := natural?_filter_eq_some_iff.1 hm
      exact ⟨m, rfl, hm, of_decide_eq_true hlt⟩
    by_cases hplus : ∃ rest, text = '+' :: rest
    · obtain ⟨rest, rfl⟩ := hplus
      obtain ⟨m, rfl, hm, hlt⟩ := hnat h
      exact ⟨.plus hm, by omega, by omega⟩
    · rw [signed?_unsigned (not_exists.1 hplus) (not_exists.1 hminus)] at h
      obtain ⟨m, rfl, hm, hlt⟩ := hnat h
      exact ⟨.unsigned hm, by omega, by omega⟩

end

theorem isNumeral_toDigits (n : Nat) : IsNumeral (Nat.toDigits 10 n) n where
  ne_nil := Nat.toDigits_ne_nil
  isDigit c hc := Nat.isDigit_of_mem_toDigits (by omega) (by omega) hc
  value_eq := Nat.ofDigitChars_ten_toDigits

end ZeroShot.Number
