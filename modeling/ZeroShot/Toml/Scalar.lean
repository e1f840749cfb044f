import ZeroShot.Number.Binary
import ZeroShot.Toml.Basic
import ZeroShot.Toml.Lexeme

/-! Numbers, dates and times of TOML text. -/

namespace ZeroShot.Toml.Reading

def isDecimal (c : Char) : Bool := '0' ≤ c && c ≤ '9'

def digitValue (c : Char) : Nat := (Number.hexDigit? c).getD 0

def moreDigits (isDigit : Char → Bool) : List Char → List Char × List Char
  | [] => ([], [])
  | '_' :: c :: rest =>
    if isDigit c then
      let (digits, rest) := moreDigits isDigit rest
      (c :: digits, rest)
    else ([], '_' :: c :: rest)
  | c :: rest =>
    if isDigit c then
      let (digits, rest) := moreDigits isDigit rest
      (c :: digits, rest)
    else ([], c :: rest)

def digits (isDigit : Char → Bool) : Reader (List Char)
  | c :: rest =>
    if isDigit c then
      let (more, rest) := moreDigits isDigit rest
      some (c :: more, rest)
    else none
  | [] => none

def ofDigits (base : Nat) (digits : List Char) : Nat :=
  digits.foldl (fun n c => base * n + digitValue c) 0

def takeSign : List Char → Bool × List Char
  | '-' :: rest => (true, rest)
  | '+' :: rest => (false, rest)
  | text => (false, text)

/-- A zero stands alone. -/
def wholeDigits : Reader (List Char)
  | '0' :: rest => some (['0'], rest)
  | text => digits isDecimal text

def inBase (base : Nat) (isDigit : Char → Bool) : Reader Int := fun text => do
  let (ds, rest) ← digits isDigit text
  let n := ofDigits base ds
  if n < 0x8000000000000000 then some ((n : Int), rest) else none

/-- Integers have 64 bits; only decimal ones have a sign. -/
def integer : Reader Int
  | '0' :: 'x' :: rest => inBase 16 (fun c => (Number.hexDigit? c).isSome) rest
  | '0' :: 'o' :: rest => inBase 8 (fun c => '0' ≤ c && c ≤ '7') rest
  | '0' :: 'b' :: rest => inBase 2 (fun c => c = '0' || c = '1') rest
  | text => do
    let (negative, text) := takeSign text
    let (ds, rest) ← wholeDigits text
    let n := ofDigits 10 ds
    if negative then if n ≤ 0x8000000000000000 then some (-(n : Int), rest) else none
    else if n < 0x8000000000000000 then some ((n : Int), rest) else none

/-- Whether a decimal rounds to infinity. The number of its digits decides unless it is close. -/
def overflows (digits : List Char) (exponent : Int) : Bool :=
  let digits := digits.dropWhile (· = '0')
  let leading := digits.length + exponent
  if digits.isEmpty || leading < 300 then false
  else if 310 < leading then true
  else (Binary64.ofDecimal (ofDigits 10 digits) exponent).isInfinite

def exponentPart : Reader Int
  | c :: rest =>
    if c = 'e' ∨ c = 'E' then do
      let (negative, rest) := takeSign rest
      let (ds, rest) ← digits isDecimal rest
      let n : Int := ofDigits 10 ds
      some (if negative then -n else n, rest)
    else none
  | [] => none

def fractionPart : Reader (List Char)
  | '.' :: rest => digits isDecimal rest
  | _ => none

/-- A fraction, an exponent or both. Only a positive number can be too large. -/
def decimalReal : Reader Unit := fun text => do
  let (negative, text) := takeSign text
  let (whole, text) ← wholeDigits text
  let (places, exponent, rest) ← match fractionPart text with
    | some (places, text) => match exponentPart text with
      | some (exponent, rest) => some (places, exponent, rest)
      | none => some (places, 0, text)
    | none => (exponentPart text).map fun (exponent, rest) => ([], exponent, rest)
  if !negative && overflows (whole ++ places) (exponent - places.length) then none
  else some ((), rest)

def namedReal : Reader Unit := fun text =>
  match (takeSign text).2 with
  | 'i' :: 'n' :: 'f' :: rest => some ((), rest)
  | 'n' :: 'a' :: 'n' :: rest => some ((), rest)
  | _ => none

def twoDigits (limit : Nat) : Reader Nat
  | a :: b :: rest =>
    if isDecimal a ∧ isDecimal b ∧ ofDigits 10 [a, b] ≤ limit then some (ofDigits 10 [a, b], rest)
    else none
  | _ => none

def daysInMonth (year month : Nat) : Nat :=
  if month = 2 then
    if year % 4 = 0 ∧ (year % 100 ≠ 0 ∨ year % 400 = 0) then 29 else 28
  else if [4, 6, 9, 11].contains month then 30
  else 31

def mark (c : Char) : Reader Unit
  | d :: rest => if d = c then some ((), rest) else none
  | [] => none

def date : Reader Unit := fun text => do
  let (century, text) ← twoDigits 99 text
  let (year, text) ← twoDigits 99 text
  let (_, text) ← mark '-' text
  let (month, text) ← twoDigits 12 text
  let (_, text) ← mark '-' text
  let (day, text) ← twoDigits (daysInMonth (100 * century + year) month) text
  if month = 0 ∨ day = 0 then none else some ((), text)

def time : Reader Unit := fun text => do
  let (_, text) ← twoDigits 23 text
  let (_, text) ← mark ':' text
  let (_, text) ← twoDigits 59 text
  let (_, text) ← mark ':' text
  let (_, text) ← twoDigits 60 text
  match text with
  | '.' :: c :: rest =>
    if isDecimal c then some ((), rest.dropWhile isDecimal) else some ((), text)
  | _ => some ((), text)

def offset : Reader Unit
  | 'Z' :: rest | 'z' :: rest => some ((), rest)
  | '+' :: rest | '-' :: rest => do
    let (_, rest) ← twoDigits 23 rest
    let (_, rest) ← mark ':' rest
    let (_, rest) ← twoDigits 59 rest
    some ((), rest)
  | _ => none

def optional (read : Reader Unit) (text : List Char) : List Char :=
  match read text with
  | some (_, rest) => rest
  | none => text

def timeOfDay : Reader Unit
  | 'T' :: rest | 't' :: rest | ' ' :: rest => do
    let (_, rest) ← time rest
    some ((), optional offset rest)
  | _ => none

def moment : Reader Unit := fun text =>
  match date text with
  | some (_, rest) => some ((), optional timeOfDay rest)
  | none => time text

def numeral : Reader Toml := fun text =>
  match moment text with
  | some (_, rest) => some (.moment, rest)
  | none =>
    match decimalReal text <|> namedReal text with
    | some (_, rest) => some (.real, rest)
    | none => (integer text).map fun (n, rest) => (.integer n, rest)

end ZeroShot.Toml.Reading
