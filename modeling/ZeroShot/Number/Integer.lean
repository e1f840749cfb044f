/-! Integers written in decimal digits. -/

namespace ZeroShot.Number

def digit? (c : Char) : Option Nat :=
  if '0' ≤ c ∧ c ≤ '9' then some (c.toNat - '0'.toNat) else none

def hexDigit? (c : Char) : Option Nat :=
  if '0' ≤ c ∧ c ≤ '9' then some (c.toNat - '0'.toNat)
  else if 'a' ≤ c ∧ c ≤ 'f' then some (c.toNat - 'a'.toNat + 10)
  else if 'A' ≤ c ∧ c ≤ 'F' then some (c.toNat - 'A'.toNat + 10)
  else none

def digitsFrom (value : Nat) : List Char → Option Nat
  | [] => some value
  | c :: rest => (digit? c).bind fun d => digitsFrom (10 * value + d) rest

def natural? (text : List Char) : Option Nat :=
  if text.isEmpty then none else digitsFrom 0 text

/-- An optional plus sign before a natural number below `bound`. -/
def unsigned? (bound : Nat) (text : List Char) : Option Nat :=
  let digits := match text with
    | '+' :: rest => rest
    | _ => text
  (natural? digits).filter (· < bound)

/-- An optional sign before a natural number, within `-bound ≤ n < bound`. -/
def signed? (bound : Nat) (text : List Char) : Option Int :=
  match text with
  | '-' :: rest => ((natural? rest).filter (· ≤ bound)).map fun n => -(n : Int)
  | '+' :: rest => ((natural? rest).filter (· < bound)).map Int.ofNat
  | _ => ((natural? text).filter (· < bound)).map Int.ofNat

theorem digit?_lt {c : Char} {d : Nat} (h : digit? c = some d) : d < 10 := by
  simp only [digit?] at h
  split at h
  · next hc =>
    obtain ⟨-, h9⟩ := hc
    have : c.toNat ≤ '9'.toNat := h9
    simp only [Option.some.injEq] at h
    have h0 : '0'.toNat = 48 := rfl
    have h9' : '9'.toNat = 57 := rfl
    omega
  · cases h

end ZeroShot.Number
