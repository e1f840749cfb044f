import Mathlib.Data.List.TakeWhile
import ZeroShot.Json.Printer
import ZeroShot.Proofs.Json.Integers
import ZeroShot.Proofs.Number.Digits

/-! The lexemes of printed text.

A printed string is one token, whatever follows it, and so is a printed integer at the end of the
text; a literal is read as a natural number exactly if it is nothing but its digits. A text that is
lexed to its end is lexed in the same way in front of a bracket or a comma, since neither goes on
with a number or a word. -/

namespace ZeroShot.Json

/-- A character that goes on with no number and no word. -/
structure Ends (c : Char) : Prop where
  not_isLetter : isLetter c = false
  not_isNumberChar : isNumberChar c = false

theorem ends_comma : Ends ',' := ⟨rfl, rfl⟩

theorem ends_closeArray : Ends ']' := ⟨rfl, rfl⟩

theorem ends_closeObject : Ends '}' := ⟨rfl, rfl⟩

theorem Lexing.run_cons (state : Lexing) (c : Char) (rest : List Char) :
    state.run (c :: rest) =
      (state.step c).bind fun emitted => (emitted.2.run rest).map (emitted.1 ++ ·) := by
  rw [Lexing.run, Option.bind_eq_bind]
  congr 1
  funext emitted
  change ((emitted.2.run rest).bind fun others => some (emitted.1 ++ others)) = _
  cases emitted.2.run rest <;> rfl

theorem Lexing.run_inside {state next : Lexing} {c : Char} (h : state.step c = some ([], next))
    (rest : List Char) : state.run (c :: rest) = next.run rest := by
  rw [run_cons, h, Option.bind_some]
  exact Option.map_id'

theorem Lexing.run_symbol {c : Char} {tokens : List Token} (h : start c = some (tokens, .between))
    (rest : List Char) : Lexing.between.run (c :: rest) =
      (Lexing.between.run rest).map (tokens ++ ·) := by
  rw [run_cons, step, h, Option.bind_some]

/-- What may end a text may be followed by a symbol, which is then lexed on its own. -/
theorem Lexing.step_of_finish {state : Lexing} {tokens : List Token}
    (h : state.finish = some tokens) {c : Char} (hc : Ends c) :
    state.step c = (start c).map fun emitted => (tokens ++ emitted.1, emitted.2) := by
  cases state with
  | between =>
    cases h
    simp [step]
  | word letters =>
    obtain ⟨token, htoken, rfl⟩ := Option.map_eq_some_iff.1 h
    rw [step, hc.not_isLetter, if_neg Bool.false_ne_true, htoken]
    cases start c <;> rfl
  | number literal =>
    obtain ⟨value, hvalue, rfl⟩ := Option.map_eq_some_iff.1 h
    rw [step, hc.not_isNumberChar, if_neg Bool.false_ne_true, hvalue]
    cases start c <;> rfl
  | string elements => cases h
  | escape elements => cases h
  | unit elements digits code => cases h

theorem Lexing.run_append {state : Lexing} {text : List Char} {tokens : List Token}
    (h : state.run text = some tokens) {c : Char} (hc : Ends c) (rest : List Char) :
    state.run (text ++ c :: rest) = (Lexing.between.run (c :: rest)).map (tokens ++ ·) := by
  induction text generalizing state tokens with
  | nil =>
    rw [List.nil_append, run_cons, step_of_finish h hc, run_cons, step]
    cases start c with
    | none => rfl
    | some emitted => simp [Function.comp_def]
  | cons a text ih =>
    rw [run_cons] at h
    obtain ⟨⟨now, next⟩, hnow, hlater⟩ := Option.bind_eq_some_iff.1 h
    obtain ⟨later, hrun, rfl⟩ := Option.map_eq_some_iff.1 hlater
    rw [List.cons_append, run_cons, hnow, Option.bind_some]
    dsimp only
    rw [ih hrun]
    simp [Function.comp_def]

theorem hexDigit?_hexDigit : ∀ n < 16, ZeroShot.Number.hexDigit? (hexDigit n) = some n := by
  decide

/-- What a printed character is read as: a control without a letter of its own as a 16-bit unit. -/
def elementOf (c : Char) : Element :=
  if c ∈ ['\x08', '\x0c', '\n', '\r', '\t'] ∨ 0x20 ≤ c.toNat then .char c else .unit c.toNat

theorem elementOf_of_control {c : Char} (h : c.toNat < 0x20)
    (hletter : c ∉ ['\x08', '\x0c', '\n', '\r', '\t']) : elementOf c = .unit c.toNat :=
  if_neg (not_or.2 ⟨hletter, by omega⟩)

section

variable (elements : List Element) (rest : List Char)

theorem Lexing.run_letter {letter e : Char} (hu : letter ≠ 'u') (he : escaped? letter = some e) :
    (Lexing.string elements).run ('\\' :: letter :: rest) =
      (Lexing.string (.char e :: elements)).run rest := by
  have hstep : (Lexing.escape elements).step letter = some ([], .string (.char e :: elements)) := by
    rw [step, if_neg hu, he, Option.map_some]
  have hopen : (Lexing.string elements).step '\\' = some ([], .escape elements) := rfl
  rw [run_inside hopen, run_inside hstep]

theorem Lexing.run_unit {high low : Nat} (hhigh : high < 16) (hlow : low < 16) :
    (Lexing.string elements).run
        (['\\', 'u', '0', '0', hexDigit high, hexDigit low] ++ rest) =
      (Lexing.string (.unit (16 * high + low) :: elements)).run rest := by
  have hopen : (Lexing.string elements).step '\\' = some ([], .escape elements) := rfl
  have hu : (Lexing.escape elements).step 'u' = some ([], .unit elements 0 0) := rfl
  have hfirst : (Lexing.unit elements 0 0).step '0' = some ([], .unit elements 1 0) := rfl
  have hsecond : (Lexing.unit elements 1 0).step '0' = some ([], .unit elements 2 0) := rfl
  have hthird : (Lexing.unit elements 2 0).step (hexDigit high) =
      some ([], .unit elements 3 high) := by
    simp [step, hexDigit?_hexDigit high hhigh]
  have hlast : (Lexing.unit elements 3 high).step (hexDigit low) =
      some ([], .string (.unit (16 * high + low) :: elements)) := by
    simp [step, hexDigit?_hexDigit low hlow]
  simp only [List.cons_append, List.nil_append]
  rw [run_inside hopen, run_inside hu, run_inside hfirst, run_inside hsecond, run_inside hthird,
    run_inside hlast]

theorem Lexing.run_escapeChar (c : Char) :
    (Lexing.string elements).run (escapeChar c ++ rest) =
      (Lexing.string (elementOf c :: elements)).run rest := by
  unfold escapeChar
  split
  · exact run_letter elements rest (by decide) rfl
  · exact run_letter elements rest (by decide) rfl
  · exact run_letter elements rest (by decide) rfl
  · exact run_letter elements rest (by decide) rfl
  · exact run_letter elements rest (by decide) rfl
  · exact run_letter elements rest (by decide) rfl
  · exact run_letter elements rest (by decide) rfl
  · next hquote hbackslash hb hf hn hr ht =>
    split
    · next hcontrol =>
      have hcode : 16 * (c.toNat / 16) + c.toNat % 16 = c.toNat := by omega
      rw [run_unit elements rest (by omega) (by omega), hcode, elementOf_of_control hcontrol]
      simpa using ⟨hb, hf, hn, hr, ht⟩
    · next hcontrol =>
      have hstep : (Lexing.string elements).step c = some ([], .string (.char c :: elements)) := by
        rw [step, if_neg hquote, if_neg hbackslash, if_neg hcontrol]
      have helement : elementOf c = .char c := if_pos (.inr (by omega))
      rw [List.singleton_append, run_inside hstep, helement]

end

theorem Lexing.run_flatMap_escapeChar (text : List Char) (elements : List Element)
    (rest : List Char) :
    (Lexing.string elements).run (text.flatMap escapeChar ++ rest) =
      (Lexing.string ((text.map elementOf).reverse ++ elements)).run rest := by
  induction text generalizing elements with
  | nil => rfl
  | cons c text ih =>
    rw [List.flatMap_cons, List.append_assoc, run_escapeChar, ih]
    simp

theorem joinUnits_map_elementOf (text : List Char) :
    joinUnits (text.map elementOf) = some text := by
  induction text with
  | nil => rfl
  | cons c text ih =>
    rw [List.map_cons, elementOf]
    split
    · rw [joinUnits, ih]
      rfl
    · next h =>
      have hcontrol : c.toNat < 0x20 := by omega
      rw [joinUnits.eq_def]
      simp [show c.toNat < 0xd800 by omega, ih]

theorem toList_quote (text : String) :
    (quote text).toList = '"' :: (text.toList.flatMap escapeChar ++ ['"']) := by
  simp [quote]

theorem Lexing.run_quote (text : String) (rest : List Char) :
    Lexing.between.run ((quote text).toList ++ rest) =
      (Lexing.between.run rest).map (.string (some text) :: ·) := by
  have hopen : Lexing.start '"' = some ([], .string []) := rfl
  rw [toList_quote, List.cons_append, List.append_assoc, run_cons, step, hopen, Option.bind_some]
  dsimp only
  rw [run_flatMap_escapeChar, List.append_nil, List.singleton_append, run_cons, step, if_pos rfl,
    List.reverse_reverse, joinUnits_map_elementOf]
  simp [Function.comp_def]

theorem takeInteger_of_lt {digits : List Char} {significand : Nat}
    (h : Nat.ofDigitChars 10 digits significand < 0x10000000000000000) :
    takeInteger significand digits = (Nat.ofDigitChars 10 digits significand, 0) := by
  induction digits generalizing significand with
  | nil => rfl
  | cons c digits ih =>
    rw [Nat.ofDigitChars_cons] at h ⊢
    have hle := ZeroShot.Number.le_ofDigitChars (10 * significand + (c.toNat - '0'.toNat)) digits
    rw [takeInteger, digitValue, if_pos (Nat.lt_of_le_of_lt hle h)]
    exact ih h

theorem ofDigitChars_of_takeInteger {digits : List Char} {significand n : Nat}
    (h : takeInteger significand digits = (n, 0)) :
    Nat.ofDigitChars 10 digits significand = n := by
  induction digits generalizing significand with
  | nil => exact congrArg Prod.fst h
  | cons c digits ih =>
    rw [takeInteger] at h
    split at h
    · rw [Nat.ofDigitChars_cons]
      exact ih h
    · cases h

theorem ofParts_ne_integer (negative : Bool) (significand : Nat) (exponent n : Int) :
    ofParts negative significand exponent ≠ some (.integer n) := by
  intro h
  obtain ⟨y, -, hy⟩ := Option.map_eq_some_iff.1 h
  cases hy

theorem takeInteger_of_ofInteger {negative : Bool} {digits : List Char} {n : Int}
    (h : ofInteger negative digits = some (.integer n)) : ∃ m : Nat,
      takeInteger 0 digits = (m, 0) ∧ (negative = false ∧ n = m ∨ negative = true ∧ n < 0) := by
  unfold ofInteger at h
  dsimp only at h
  split at h
  · exact absurd h (ofParts_ne_integer _ _ _ n)
  · next hdropped =>
    refine ⟨(takeInteger 0 digits).1, Prod.ext rfl (not_not.1 hdropped), ?_⟩
    split at h
    · next hnegative =>
      cases h
      exact .inl ⟨by simpa using hnegative, rfl⟩
    · next hnegative =>
      split at h
      · cases h
      · cases h
        exact .inr ⟨by simpa using hnegative, by omega⟩

theorem eq_integer_iff_isNumeral {literal : List Char} {value : Option Number} {n : Nat}
    (h : number? literal = some value) (hn : n < 0x10000000000000000) :
    value = some (.integer n) ↔ ZeroShot.Number.IsNumeral literal n := by
  constructor
  · rintro rfl
    obtain ⟨digits, hne, hdigits, ⟨-, hvalue⟩ | ⟨rfl, hvalue⟩⟩ | ⟨-, negative, significand, exponent,
      hvalue⟩ := digits_or_parts_of_number? h
    · obtain ⟨m, -, ⟨hfalse, -⟩ | ⟨-, hneg⟩⟩ := takeInteger_of_ofInteger hvalue.symm
      · cases hfalse
      · omega
    · obtain ⟨m, htake, ⟨-, hm⟩ | ⟨hfalse, -⟩⟩ := takeInteger_of_ofInteger hvalue.symm
      · refine ⟨hne, hdigits, ?_⟩
        rw [ofDigitChars_of_takeInteger htake]
        omega
      · cases hfalse
    · exact absurd hvalue.symm (ofParts_ne_integer _ _ _ n)
  · intro hliteral
    obtain ⟨digits, hne, hdigits, ⟨hminus, -⟩ | ⟨rfl, hvalue⟩⟩ | ⟨⟨c, hc, hother⟩, -⟩ :=
      digits_or_parts_of_number? h
    · exact absurd hminus (hliteral.head_ne_minus digits)
    · have htake : takeInteger 0 literal = (n, 0) := by
        rw [takeInteger_of_lt (hliteral.value_eq.symm ▸ hn), hliteral.value_eq]
      rw [hvalue]
      simp [ofInteger, htake]
    · exact absurd (hliteral.isDigit c hc) hother

theorem eq_zero_of_head?_toDigits {n : Nat} (h : (Nat.toDigits 10 n).head? = some '0') : n = 0 := by
  induction n using Nat.strongRecOn with
  | ind n ih =>
    by_cases hn : n < 10
    · rw [Nat.toDigits_of_lt_base hn] at h
      have hdigits : ∀ d < 10, Nat.digitChar d = '0' → d = 0 := by decide
      exact hdigits n hn (by simpa using h)
    · rw [Nat.toDigits_of_base_le (by decide) (by omega),
        List.head?_append_of_ne_nil _ Nat.toDigits_ne_nil] at h
      have hzero := ih (n / 10) (by omega) h
      omega

theorem head?_toDigits_and_lt (n : Nat) : ((Nat.toDigits 10 n).head? = some '0' &&
    decide (1 < (Nat.toDigits 10 n).length)) = false := by
  rw [Bool.and_eq_false_iff]
  by_cases hn : n = 0
  · subst hn
    exact .inr rfl
  · exact .inl (decide_eq_false fun h => hn (eq_zero_of_head?_toDigits h))

theorem takeWhile_isDigit_toDigits (n : Nat) :
    (Nat.toDigits 10 n).takeWhile isDigit = Nat.toDigits 10 n ∧
      (Nat.toDigits 10 n).dropWhile isDigit = [] := by
  have hdigits := (ZeroShot.Number.isNumeral_toDigits n).isDigit
  exact ⟨List.takeWhile_eq_self_iff.2 hdigits, List.dropWhile_eq_nil_iff.2 hdigits⟩

theorem number?_toDigits {n : Nat} (h : n < 0x10000000000000000) :
    number? (Nat.toDigits 10 n) = some (some (.integer n)) := by
  obtain ⟨hwhole, hrest⟩ := takeWhile_isDigit_toDigits n
  have hminus := (ZeroShot.Number.isNumeral_toDigits n).head_ne_minus
  have htake : takeInteger 0 (Nat.toDigits 10 n) = (n, 0) := by
    rw [takeInteger_of_lt (by rwa [Nat.ofDigitChars_ten_toDigits]), Nat.ofDigitChars_ten_toDigits]
  unfold number?
  split
  next heq =>
    split at heq
    · next rest hrest => exact absurd hrest (hminus rest)
    · cases heq
      simp [hwhole, hrest, head?_toDigits_and_lt, ofInteger, htake]

theorem number?_minus_toDigits {n : Nat} (hpos : 0 < n) (h : n ≤ 0x8000000000000000) :
    number? ('-' :: Nat.toDigits 10 n) = some (some (.integer (-(n : Int)))) := by
  obtain ⟨hwhole, hrest⟩ := takeWhile_isDigit_toDigits n
  have htake : takeInteger 0 (Nat.toDigits 10 n) = (n, 0) := by
    rw [takeInteger_of_lt (by rw [Nat.ofDigitChars_ten_toDigits]; omega),
      Nat.ofDigitChars_ten_toDigits]
  have hsmall : ¬ (n = 0 ∨ 0x8000000000000000 < n) := by omega
  simp [number?, hwhole, hrest, head?_toDigits_and_lt, ofInteger, htake, hsmall]

theorem toList_text_ofNat (n : Nat) :
    (Number.integer (.ofNat n)).text.toList = Nat.toDigits 10 n := by
  change (toString n).toList = _
  rw [Nat.toString_eq_ofList_toDigits, String.toList_ofList]

theorem toList_text_negSucc (n : Nat) :
    (Number.integer (.negSucc n)).text.toList = '-' :: Nat.toDigits 10 (n + 1) := by
  change ("-" ++ toString (n + 1)).toList = _
  simp

theorem number?_text {n : Int} (h : (Number.integer n).InRange) :
    number? (Number.integer n).text.toList = some (some (.integer n)) := by
  obtain ⟨hlow, hhigh⟩ : -0x8000000000000000 ≤ n ∧ n < 0x10000000000000000 := h
  cases n with
  | ofNat n =>
    rw [toList_text_ofNat]
    exact number?_toDigits (Int.ofNat_lt.1 hhigh)
  | negSucc n =>
    rw [toList_text_negSucc]
    exact number?_minus_toDigits (Nat.succ_pos n) (by omega)

theorem Lexing.start_of_number {c : Char} (h : isDigit c || c = '-') :
    start c = some ([], .number [c]) := by
  unfold start
  split
  · next hspace =>
    simp only [isSpace, Bool.or_eq_true, decide_eq_true_eq] at hspace
    rcases hspace with ((rfl | rfl) | rfl) | rfl <;> exact absurd h (by decide)
  · split
    all_goals try exact absurd h (by decide)
    exact if_pos h

theorem Lexing.run_number {literal digits : List Char} (h : ∀ c ∈ digits, isDigit c) :
    (Lexing.number literal).run digits =
      (number? (literal.reverse ++ digits)).map fun value => [.number value] := by
  induction digits generalizing literal with
  | nil => simp [run, finish]
  | cons c digits ih =>
    have hc : isNumberChar c = true := by simp [isNumberChar, h c List.mem_cons_self]
    rw [run_cons, step, if_pos hc, Option.bind_some]
    dsimp only
    rw [ih fun d hd => h d (List.mem_cons_of_mem c hd), List.reverse_cons, List.append_assoc,
      List.singleton_append]
    exact Option.map_id'

theorem Lexing.run_digits {c : Char} {digits : List Char} (hc : isDigit c || c = '-')
    (hdigits : ∀ d ∈ digits, isDigit d) :
    Lexing.between.run (c :: digits) =
      (number? (c :: digits)).map fun value => [.number value] := by
  rw [run_cons, step, start_of_number hc, Option.bind_some, run_number hdigits]
  exact Option.map_id'

theorem Lexing.run_text {n : Int} (h : (Number.integer n).InRange) :
    Lexing.between.run (Number.integer n).text.toList = some [.number (some (.integer n))] := by
  have hnumber := number?_text h
  have hdigit {m : Nat} : ∀ c ∈ Nat.toDigits 10 m, isDigit c :=
    (ZeroShot.Number.isNumeral_toDigits m).isDigit
  cases n with
  | ofNat n =>
    rw [toList_text_ofNat] at hnumber ⊢
    have hne : Nat.toDigits 10 n ≠ [] := Nat.toDigits_ne_nil
    obtain ⟨c, digits, heq⟩ := List.exists_cons_of_ne_nil hne
    have hall : ∀ d ∈ c :: digits, isDigit d := heq ▸ hdigit
    rw [heq] at hnumber ⊢
    rw [run_digits (by simp [hall c List.mem_cons_self])
      fun d hd => hall d (List.mem_cons_of_mem c hd), hnumber]
    rfl
  | negSucc n =>
    rw [toList_text_negSucc] at hnumber ⊢
    rw [run_digits rfl hdigit, hnumber]
    rfl

end ZeroShot.Json
