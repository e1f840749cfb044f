/-! Spans of time in whole nanoseconds, and their text. -/

namespace ZeroShot

structure Duration where
  nanoseconds : Nat
deriving DecidableEq, Repr, Inhabited, Ord

namespace Duration

def zero : Duration := ⟨0⟩

def ofMilliseconds (n : Nat) : Duration := ⟨n * 1000000⟩

def ofSeconds (n : Nat) : Duration := ⟨n * 1000000000⟩

def toMilliseconds (d : Duration) : Nat := d.nanoseconds / 1000000

def add (d e : Duration) : Duration := ⟨d.nanoseconds + e.nanoseconds⟩

instance : Add Duration := ⟨add⟩
instance : LE Duration := ⟨fun d e => d.nanoseconds ≤ e.nanoseconds⟩
instance : LT Duration := ⟨fun d e => d.nanoseconds < e.nanoseconds⟩
instance : DecidableLE Duration := fun d e => Nat.decLe d.nanoseconds e.nanoseconds
instance : DecidableLT Duration := fun d e => Nat.decLt d.nanoseconds e.nanoseconds
instance : Max Duration := ⟨fun d e => ⟨max d.nanoseconds e.nanoseconds⟩⟩

@[simp] theorem nanoseconds_add (d e : Duration) :
    (d + e).nanoseconds = d.nanoseconds + e.nanoseconds := rfl

@[simp] theorem nanoseconds_max (d e : Duration) :
    (max d e).nanoseconds = max d.nanoseconds e.nanoseconds := rfl

/-- The digits of `part` behind a point, `places` of them less the zeros at the end. -/
def fractionText (part places : Nat) : String :=
  let digits := Nat.toDigits 10 part
  let padded := List.replicate (places - digits.length) '0' ++ digits
  let kept := (padded.reverse.dropWhile (· = '0')).reverse
  if kept.isEmpty then "" else "." ++ String.ofList kept

def inUnit (d : Duration) (places : Nat) (unit : String) : String :=
  let whole := d.nanoseconds / Nat.pow 10 places
  toString whole ++ fractionText (d.nanoseconds % Nat.pow 10 places) places ++ unit

def text (d : Duration) : String :=
  if 1000000000 ≤ d.nanoseconds then d.inUnit 9 "s"
  else if 1000000 ≤ d.nanoseconds then d.inUnit 6 "ms"
  else if 1000 ≤ d.nanoseconds then d.inUnit 3 "µs"
  else d.inUnit 0 "ns"

end Duration

end ZeroShot
