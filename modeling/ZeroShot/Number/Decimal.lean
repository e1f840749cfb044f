import ZeroShot.Number.Binary

/-! Decimal text of binary64 values, by exact rational arithmetic on the bits.

`shortest` gives the fewest digits that read back to the same value, and of those the nearest;
`significant` rounds to a set number of digits, with a tie going to the even neighbour. -/

namespace ZeroShot

namespace Binary64

def fraction (x : Binary64) : Nat := (x.bits &&& 0xfffffffffffff).toNat

def biasedExponent (x : Binary64) : Nat := ((x.bits >>> 52) &&& 0x7ff).toNat

/-- A finite value is, sign apart, `significand * 2 ^ binaryExponent`. -/
def significand (x : Binary64) : Nat :=
  if x.biasedExponent = 0 then x.fraction else x.fraction + 0x10000000000000

def binaryExponent (x : Binary64) : Int :=
  if x.biasedExponent = 0 then -1074 else x.biasedExponent - 1075

def magnitude (x : Binary64) : Rat := x.significand * (2 : Rat) ^ x.binaryExponent

def upperBound (x : Binary64) : Rat := x.magnitude + (2 : Rat) ^ (x.binaryExponent - 1)

/-- Halfway to the next smaller magnitude, which is nearer just above a power of two. -/
def lowerBound (x : Binary64) : Rat :=
  if x.fraction = 0 ∧ 1 < x.biasedExponent then x.magnitude - (2 : Rat) ^ (x.binaryExponent - 2)
  else x.magnitude - (2 : Rat) ^ (x.binaryExponent - 1)

/-- The magnitudes that round to this one; a tie rounds to the even significand. -/
def readsBack (x : Binary64) (v : Rat) : Bool :=
  if x.significand % 2 = 0 then x.lowerBound ≤ v && v ≤ x.upperBound
  else x.lowerBound < v && v < x.upperBound

end Binary64

structure Decimal where
  coefficient : Nat
  exponent : Int
deriving DecidableEq, Repr

namespace Decimal

def toRat (d : Decimal) : Rat := d.coefficient * (10 : Rat) ^ d.exponent

def stripZeros (coefficient : Nat) (exponent : Int) : Decimal :=
  if h : 0 < coefficient ∧ coefficient % 10 = 0 then
    have : coefficient / 10 < coefficient := Nat.div_lt_self h.1 (by decide)
    stripZeros (coefficient / 10) (exponent + 1)
  else ⟨coefficient, exponent⟩
termination_by coefficient

/-- For a positive finite value, the `p` with `10 ^ p ≤ magnitude < 10 ^ (p + 1)`. -/
def scale (x : Binary64) : Int :=
  let estimate := (Nat.log2 x.significand + x.binaryExponent) * 30103 / 100000
  if (10 : Rat) ^ (estimate + 1) ≤ x.magnitude then estimate + 1
  else if (10 : Rat) ^ estimate ≤ x.magnitude then estimate
  else estimate - 1

/-- The multiple of `10 ^ exponent` nearest to the value among those that read back. -/
def onGrid? (x : Binary64) (exponent : Int) : Option Decimal :=
  let below : Decimal := ⟨(x.magnitude / (10 : Rat) ^ exponent).floor.toNat, exponent⟩
  let above : Decimal := ⟨below.coefficient + 1, exponent⟩
  match x.readsBack below.toRat, x.readsBack above.toRat with
  | true, true =>
    if x.magnitude - below.toRat ≤ above.toRat - x.magnitude then some below else some above
  | true, false => some below
  | false, true => some above
  | false, false => none

/-- Seventeen digits always suffice; the exact value stands behind them all the same. -/
def shortest (x : Binary64) : Decimal :=
  if x.significand = 0 then ⟨0, 0⟩
  else
    let p := scale x
    match (List.range 17).findSome? fun (n : Nat) => onGrid? x (p - n) with
    | some d => stripZeros d.coefficient d.exponent
    | none =>
      stripZeros (x.magnitude * (10 : Rat) ^ (1074 : Int)).floor.toNat (-1074)

def roundHalfEven (v : Rat) : Nat :=
  let below := v.floor.toNat
  let rest := v - below
  if rest < 1 / 2 then below
  else if 1 / 2 < rest then below + 1
  else if below % 2 = 0 then below else below + 1

def significant (digits : Nat) (x : Binary64) : Decimal :=
  if x.significand = 0 then ⟨0, 0⟩
  else
    let exponent := scale x - (digits - 1)
    let coefficient := roundHalfEven (x.magnitude / (10 : Rat) ^ exponent)
    if coefficient = Nat.pow 10 digits then ⟨Nat.pow 10 (digits - 1), exponent + 1⟩
    else ⟨coefficient, exponent⟩

def digits (d : Decimal) : List Char := Nat.toDigits 10 d.coefficient

def leadingExponent (d : Decimal) : Int := d.exponent + d.digits.length - 1

end Decimal

def Binary64.scientific (places : Nat) (x : Binary64) : String :=
  if x.isNaN then "nan"
  else
    let sign := if x.isNegative then "-" else ""
    if x.isInfinite then sign ++ "inf"
    else
      let d := Decimal.significant (places + 1) x
      let digits := if x.significand = 0 then List.replicate (places + 1) '0' else d.digits
      let exponent := if x.significand = 0 then 0 else d.leadingExponent
      sign ++ String.ofList (digits.take 1 ++ '.' :: digits.drop 1) ++ "e" ++ toString exponent

end ZeroShot
