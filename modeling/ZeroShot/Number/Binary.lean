/-! Binary floating point by bit pattern.

A value is its bits, so a NaN keeps its sign and payload and two scores are equal exactly when
their bits are. Arithmetic passes the first NaN operand on; a NaN made from numbers is the negative
quiet one. -/

namespace ZeroShot

structure Binary64 where
  bits : UInt64
deriving DecidableEq, Inhabited, Repr

namespace Binary64

def magnitudeBits (x : Binary64) : UInt64 := x.bits &&& 0x7fffffffffffffff

def isNegative (x : Binary64) : Bool := x.bits &&& 0x8000000000000000 != 0

def isNaN (x : Binary64) : Bool := x.magnitudeBits > 0x7ff0000000000000

def isInfinite (x : Binary64) : Bool := x.magnitudeBits == 0x7ff0000000000000

def zero : Binary64 := ⟨0⟩
def one : Binary64 := ⟨0x3ff0000000000000⟩
def posInf : Binary64 := ⟨0x7ff0000000000000⟩
def negInf : Binary64 := ⟨0xfff0000000000000⟩
def quietNaN : Binary64 := ⟨0x7ff8000000000000⟩
def negativeNaN : Binary64 := ⟨0xfff8000000000000⟩

def ofFloat (value : Float) : Binary64 :=
  if value.isNaN then negativeNaN else ⟨value.toBits⟩

def toFloat (x : Binary64) : Float := Float.ofBits x.bits

def binary (op : Float → Float → Float) (x y : Binary64) : Binary64 :=
  if x.isNaN then x else if y.isNaN then y else ofFloat (op x.toFloat y.toFloat)

def add : Binary64 → Binary64 → Binary64 := binary (· + ·)
def sub : Binary64 → Binary64 → Binary64 := binary (· - ·)
def mul : Binary64 → Binary64 → Binary64 := binary (· * ·)
def div : Binary64 → Binary64 → Binary64 := binary (· / ·)

def neg (x : Binary64) : Binary64 := ⟨x.bits ^^^ 0x8000000000000000⟩

def exp (x : Binary64) : Binary64 := if x.isNaN then x else ofFloat x.toFloat.exp

/-- The larger of two numbers; a NaN operand is ignored. -/
def max (x y : Binary64) : Binary64 :=
  if x.isNaN then y else if y.isNaN then x
  else if x.toFloat < y.toFloat then y else x

def ofNat (n : Nat) : Binary64 := ⟨(Float.Model.ofNat n).toBits⟩

def ofInt (n : Int) : Binary64 := ofFloat (Float.ofInt n)

def ofDecimal (coefficient : Nat) (exponent : Int) : Binary64 :=
  ofFloat (Float.ofScientific coefficient (exponent < 0) exponent.natAbs)

/-- The position in the total order of all bit patterns: negative NaNs come below every number,
positive ones above, and -0 directly below +0. -/
def rank (x : Binary64) : Int :=
  if x.isNegative then -1 - (x.magnitudeBits.toNat : Int) else x.magnitudeBits.toNat

end Binary64

structure Binary32 where
  bits : UInt32
deriving DecidableEq, Inhabited, Repr

namespace Binary32

def magnitudeBits (x : Binary32) : UInt32 := x.bits &&& 0x7fffffff

def isNegative (x : Binary32) : Bool := x.bits &&& 0x80000000 != 0

def isNaN (x : Binary32) : Bool := x.magnitudeBits > 0x7f800000

def fraction (x : Binary32) : Nat := (x.bits &&& 0x7fffff).toNat

def biasedExponent (x : Binary32) : Nat := ((x.bits >>> 23) &&& 0xff).toNat

/-- Magnitude bits of the same value in binary64: the exponent is biased anew, the fraction gets 29
more bits, and a subnormal fraction becomes a normal one. -/
def widenMagnitude (x : Binary32) : Nat :=
  if x.biasedExponent = 0 then
    if x.fraction = 0 then 0
    else
      let top := x.fraction.log2
      ((874 + top) <<< 52) + ((x.fraction <<< (52 - top)) - 0x10000000000000)
  else if x.biasedExponent = 0xff then (0x7ff <<< 52) + (x.fraction <<< 29)
  else ((x.biasedExponent + 896) <<< 52) + (x.fraction <<< 29)

/-- Exact on numbers; a NaN becomes quiet and keeps its sign and payload. -/
def widen (x : Binary32) : Binary64 :=
  let sign : UInt64 := if x.isNegative then 0x8000000000000000 else 0
  let quiet : UInt64 := if x.isNaN then 0x8000000000000 else 0
  ⟨sign ||| quiet ||| UInt64.ofNat x.widenMagnitude⟩

def ofBinary64 (x : Binary64) : Binary32 :=
  if x.isNaN then
    ⟨((x.bits >>> 32).toUInt32 &&& (0x80000000 : UInt32)) ||| (0x7fc00000 : UInt32)
      ||| ((x.bits >>> 29).toUInt32 &&& (0x7fffff : UInt32))⟩
  else ⟨x.toFloat.toFloat32.toBits⟩

def ofInt (n : Int) : Binary32 := ⟨(Float32.ofInt n).toBits⟩

end Binary32

end ZeroShot
