import ZeroShot.Json.Basic
import ZeroShot.Number.Integer

/-! Number and string literals of JSON text.

A literal may be well formed and still stand for no value: a number beyond binary64, a string with
an unpaired surrogate. Such a literal reads as `some none`; only one that breaks the grammar reads
as `none`. -/

namespace ZeroShot.Json

def isDigit (c : Char) : Bool := '0' ≤ c && c ≤ '9'

def digitValue (c : Char) : Nat := c.toNat - '0'.toNat

/-- Digits are taken while the significand stays below `2^64`; each integer digit after that only
counts as a power of ten. -/
def takeInteger (significand : Nat) : List Char → Nat × Nat
  | [] => (significand, 0)
  | c :: rest =>
    let next := 10 * significand + digitValue c
    if next < 0x10000000000000000 then takeInteger next rest else (significand, rest.length + 1)

/-- Digits are taken while the significand stays below `2^64`; the rest have no weight. -/
def takeFraction (significand : Nat) : List Char → Nat × Nat
  | [] => (significand, 0)
  | c :: rest =>
    let next := 10 * significand + digitValue c
    if next < 0x10000000000000000 then
      let (final, taken) := takeFraction next rest
      (final, taken + 1)
    else (significand, 0)

/-- Multiplies or divides once by a power of ten, after as many divisions by `10^308` as bring the
exponent into the range of binary64. -/
def scaleTen (fuel : Nat) (x : Binary64) (exponent : Int) : Option Binary64 :=
  if exponent.natAbs ≤ 308 then
    let power := Binary64.ofDecimal 1 exponent.natAbs
    if 0 ≤ exponent then (some (x.mul power)).filter fun y => !y.isInfinite
    else some (x.div power)
  else if x.magnitudeBits = 0 then some x
  else if 0 ≤ exponent then none
  else match fuel with
    | 0 => some Binary64.zero
    | fuel + 1 => scaleTen fuel (x.div (Binary64.ofDecimal 1 308)) (exponent + 308)

def ofParts (negative : Bool) (significand : Nat) (exponent : Int) : Option Number :=
  (scaleTen 3 (Binary64.ofNat significand) exponent).map fun x =>
    .real (if negative then x.neg else x)

def ofInteger (negative : Bool) (digits : List Char) : Option Number :=
  let (significand, dropped) := takeInteger 0 digits
  if dropped ≠ 0 then ofParts negative significand dropped
  else if !negative then some (.integer significand)
  else if significand = 0 ∨ 0x8000000000000000 < significand then
    some (.real (Binary64.ofNat significand).neg)
  else some (.integer (-(significand : Int)))

def exponent? (text : List Char) : Option Int :=
  match text with
  | '-' :: digits => (Number.natural? digits).map fun n => -(n : Int)
  | '+' :: digits => (Number.natural? digits).map Int.ofNat
  | digits => (Number.natural? digits).map Int.ofNat

def number? (literal : List Char) : Option (Option Number) :=
  let (negative, body) := match literal with
    | '-' :: rest => (true, rest)
    | _ => (false, literal)
  let whole := body.takeWhile isDigit
  let rest := body.dropWhile isDigit
  if whole.isEmpty || (whole.head? = some '0' && 1 < whole.length) then none
  else
    let (significand, dropped) := takeInteger 0 whole
    match rest with
    | [] => some (ofInteger negative whole)
    | '.' :: rest =>
      let places := rest.takeWhile isDigit
      let (final, taken) := takeFraction significand places
      let exponent : Int := dropped - taken
      if places.isEmpty then none
      else match rest.dropWhile isDigit with
        | [] => some (ofParts negative final exponent)
        | c :: power =>
          if c = 'e' ∨ c = 'E' then
            (exponent? power).map fun e => ofParts negative final (exponent + e)
          else none
    | c :: power =>
      if c = 'e' ∨ c = 'E' then
        (exponent? power).map fun e => ofParts negative significand (dropped + e)
      else none

inductive Element where
  | char (c : Char)
  | unit (code : Nat)
deriving DecidableEq, Repr

/-- Joins surrogate pairs; an unpaired surrogate stands for no character. -/
def joinUnits : List Element → Option (List Char)
  | [] => some []
  | .char c :: rest => (joinUnits rest).map (c :: ·)
  | .unit high :: rest =>
    if high < 0xd800 ∨ 0xdfff < high then (joinUnits rest).map (Char.ofNat high :: ·)
    else if 0xdc00 ≤ high then none
    else match rest with
      | .unit low :: rest =>
        if 0xdc00 ≤ low ∧ low ≤ 0xdfff then
          (joinUnits rest).map
            (Char.ofNat (0x10000 + (high - 0xd800) * 0x400 + (low - 0xdc00)) :: ·)
        else none
      | _ => none

end ZeroShot.Json
