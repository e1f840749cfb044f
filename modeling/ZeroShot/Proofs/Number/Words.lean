import ZeroShot.Proofs.Number.Digits

/-! Integers in words of 64 bits.

Digits are appended to a word by a product and a sum, and where one of them does not fit nothing is
read. So a word that is read is the integer that the digits stand for and never another one, and
every integer that fits is read. A word that is taken without its sign counts modulo `2^64`. -/

namespace ZeroShot.Number

namespace Word

def times? (a b : Int64) : Option Int64 :=
  if a.toBitVec.smulOverflow b.toBitVec then none else some (a * b)

def plus? (a b : Int64) : Option Int64 :=
  if a.toBitVec.saddOverflow b.toBitVec then none else some (a + b)

def minus? (a b : Int64) : Option Int64 :=
  if a.toBitVec.ssubOverflow b.toBitVec then none else some (a - b)

def ofInt? (n : Int) : Option Int64 :=
  if -0x8000000000000000 ≤ n ∧ n < 0x8000000000000000 then some (Int64.ofInt n) else none

theorem bounds (w : Int64) : -0x8000000000000000 ≤ w.toInt ∧ w.toInt < 0x8000000000000000 :=
  ⟨w.le_toInt, w.toInt_lt⟩

/-- What comes out as it is unless the exact result is out of bounds is there exactly if a word holds
that result. -/
theorem checked_eq_some_iff {overflow : Bool} {wrapped w : Int64} {exact : Int}
    (hwrapped : ¬ overflow → wrapped.toInt = exact)
    (hoverflow : overflow =
      (decide (exact ≥ 0x8000000000000000) || decide (exact < -0x8000000000000000))) :
    (if overflow then none else some wrapped) = some w ↔ w.toInt = exact := by
  by_cases h : overflow = true
  · rw [if_pos h]
    refine iff_of_false nofun fun hw => ?_
    have := bounds w
    rw [hoverflow, Bool.or_eq_true, decide_eq_true_eq, decide_eq_true_eq] at h
    omega
  · rw [if_neg h, Option.some.injEq, ← hwrapped h, Int64.toInt_inj, eq_comm]

theorem times?_eq_some_iff {a b w : Int64} : times? a b = some w ↔ w.toInt = a.toInt * b.toInt :=
  checked_eq_some_iff BitVec.toInt_mul_of_not_smulOverflow rfl

theorem plus?_eq_some_iff {a b w : Int64} : plus? a b = some w ↔ w.toInt = a.toInt + b.toInt :=
  checked_eq_some_iff BitVec.toInt_add_of_not_saddOverflow rfl

theorem minus?_eq_some_iff {a b w : Int64} : minus? a b = some w ↔ w.toInt = a.toInt - b.toInt :=
  checked_eq_some_iff BitVec.toInt_sub_of_not_ssubOverflow rfl

theorem ofInt?_eq_some_iff {n : Int} {w : Int64} : ofInt? n = some w ↔ w.toInt = n := by
  unfold ofInt?
  constructor
  · intro h
    split at h
    · next hn =>
      cases h
      exact Int64.toInt_ofInt_of_le hn.1 hn.2
    · cases h
  · rintro rfl
    rw [if_pos (bounds w), Int64.ofInt_toInt]

theorem toNat_toUInt64 (w : Int64) :
    (w.toUInt64.toNat : Int) = if 0 ≤ w.toInt then w.toInt else w.toInt + 0x10000000000000000 := by
  have hbits : w.toInt = if 2 * w.toUInt64.toNat < 0x10000000000000000 then
      (w.toUInt64.toNat : Int) else w.toUInt64.toNat - 0x10000000000000000 :=
    BitVec.toInt_eq_toNat_cond w.toBitVec
  have hlt : w.toUInt64.toNat < 0x10000000000000000 := w.toUInt64.toNat_lt
  split at hbits
  · rw [if_pos (by omega)]
    omega
  · rw [if_neg (by omega)]
    omega

def signed : Bool → Nat → Int
  | true, n => -n
  | false, n => n

def append? (negative : Bool) (word : Int64) (digit : Nat) : Option Int64 :=
  (times? word 10).bind fun tens =>
    if negative then minus? tens (Int64.ofNat digit) else plus? tens (Int64.ofNat digit)

def digitsFrom? (negative : Bool) (word : Int64) : List Char → Option Int64
  | [] => some word
  | c :: rest => (digit? c).bind fun d =>
    (append? negative word d).bind fun next => digitsFrom? negative next rest

def digits? (negative : Bool) (text : List Char) : Option Int64 :=
  if text.isEmpty then none else digitsFrom? negative 0 text

def ofText? : List Char → Option Int64
  | '-' :: digits => digits? true digits
  | '+' :: digits => digits? false digits
  | digits => digits? false digits

theorem exists_signed_of_le {negative : Bool} {value n : Nat} {w : Int64} (h : value ≤ n)
    (hw : w.toInt = signed negative n) : ∃ next : Int64, next.toInt = signed negative value := by
  have := bounds w
  have hfits : -0x8000000000000000 ≤ signed negative value ∧
      signed negative value < 0x8000000000000000 := by
    cases negative with
    | true =>
      rw [signed] at hw ⊢
      omega
    | false =>
      rw [signed] at hw ⊢
      omega
  exact ⟨Int64.ofInt _, Int64.toInt_ofInt_of_le hfits.1 hfits.2⟩

/-- A digit moves a number away from zero, so if all of it fits then so do its tens. -/
theorem append?_eq_some_iff {negative : Bool} {word w : Int64} {value digit : Nat}
    (hword : word.toInt = signed negative value) (hdigit : digit < 10) :
    append? negative word digit = some w ↔ w.toInt = signed negative (10 * value + digit) := by
  have hten : (10 : Int64).toInt = 10 := rfl
  have hd : (Int64.ofNat digit).toInt = digit := Int64.toInt_ofNat_of_lt (by omega)
  have htens : word.toInt * 10 = signed negative (10 * value) := by
    rw [hword]
    cases negative with
    | true =>
      rw [signed, signed]
      omega
    | false =>
      rw [signed, signed]
      omega
  have hsum {tens : Int64} (h : tens.toInt = signed negative (10 * value)) :
      (if negative then minus? tens (Int64.ofNat digit) else plus? tens (Int64.ofNat digit)) =
        some w ↔ w.toInt = signed negative (10 * value + digit) := by
    cases negative with
    | true =>
      rw [if_pos rfl, minus?_eq_some_iff, h, hd, signed, signed]
      omega
    | false =>
      rw [if_neg nofun, plus?_eq_some_iff, h, hd, signed, signed]
      omega
  unfold append?
  rw [Option.bind_eq_some_iff]
  simp only [times?_eq_some_iff, hten, htens]
  constructor
  · rintro ⟨tens, htens, h⟩
    exact (hsum htens).1 h
  · intro h
    obtain ⟨tens, htens⟩ := exists_signed_of_le (Nat.le_add_right _ digit) h
    exact ⟨tens, htens, (hsum htens).2 h⟩

theorem le_of_digitsFrom {value n : Nat} {text : List Char} (h : digitsFrom value text = some n) :
    value ≤ n := by
  obtain ⟨-, rfl⟩ := digitsFrom_eq_some_iff.1 h
  exact le_ofDigitChars value text

theorem digitsFrom?_eq_some_iff {negative : Bool} {word w : Int64} {value : Nat}
    (hword : word.toInt = signed negative value) {text : List Char} :
    digitsFrom? negative word text = some w ↔
      ∃ n, digitsFrom value text = some n ∧ w.toInt = signed negative n := by
  -- the word read so far holds the number read so far, in every step
  induction text generalizing word value with
  | nil =>
    simp only [digitsFrom?, digitsFrom, Option.some.injEq, exists_eq_left', ← hword,
      Int64.toInt_inj, eq_comm]
  | cons c text ih =>
    rw [digitsFrom?, digitsFrom]
    cases hc : digit? c with
    | none => simp
    | some d =>
      have hd := digit?_lt hc
      simp only [Option.bind_some, Option.bind_eq_some_iff, append?_eq_some_iff hword hd]
      constructor
      · rintro ⟨next, hnext, hrest⟩
        exact (ih hnext).1 hrest
      · rintro ⟨n, hn, hw⟩
        -- an overflow in the middle cannot be made good by the digits that follow
        obtain ⟨next, hnext⟩ := exists_signed_of_le (le_of_digitsFrom hn) hw
        exact ⟨next, hnext, (ih hnext).2 ⟨n, hn, hw⟩⟩

theorem digits?_eq_some_iff {negative : Bool} {w : Int64} {text : List Char} :
    digits? negative text = some w ↔ ∃ n, IsNumeral text n ∧ w.toInt = signed negative n := by
  have hzero : (0 : Int64).toInt = signed negative 0 := by cases negative <;> rfl
  unfold digits?
  simp only [← natural?_eq_some_iff, natural?]
  split
  · simp
  · exact digitsFrom?_eq_some_iff hzero

/-- A word is read exactly where the text is of an integer that a word holds, and it is that one. -/
theorem ofText?_eq_some_iff {text : List Char} {w : Int64} :
    ofText? text = some w ↔ IsInteger text w.toInt := by
  unfold ofText?
  constructor
  · intro h
    split at h
    · obtain ⟨n, hn, hw⟩ := digits?_eq_some_iff.1 h
      rw [hw]
      exact .minus hn
    · obtain ⟨n, hn, hw⟩ := digits?_eq_some_iff.1 h
      rw [hw]
      exact .plus hn
    · obtain ⟨n, hn, hw⟩ := digits?_eq_some_iff.1 h
      rw [hw]
      exact .unsigned hn
  · intro h
    generalize hw : w.toInt = n at h
    cases h with
    | @unsigned digits n hn =>
      split
      · next rest => exact absurd rfl (hn.head_ne_minus rest)
      · next rest => exact absurd rfl (hn.head_ne_plus rest)
      · exact digits?_eq_some_iff.2 ⟨n, hn, hw⟩
    | @plus digits n hn => exact digits?_eq_some_iff.2 ⟨n, hn, hw⟩
    | @minus digits n hn => exact digits?_eq_some_iff.2 ⟨n, hn, hw⟩

example : ofText? "-9223372036854775808".toList = some Int64.minValue := by decide

example : ofText? "9223372036854775808".toList = none := by decide

end Word

end ZeroShot.Number
