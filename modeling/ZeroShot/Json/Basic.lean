import ZeroShot.Members
import ZeroShot.Number.Binary

/-! JSON values whose objects keep the order of their keys. -/

namespace ZeroShot

/-- An integer lies in `-2^63 ≤ n < 2^64`; every other number is binary64. -/
inductive Json.Number where
  | integer (n : Int)
  | real (x : Binary64)
deriving DecidableEq, Repr, Inhabited

inductive Json where
  | null
  | bool (value : Bool)
  | number (value : Json.Number)
  | string (text : String)
  | array (items : List Json)
  | object (members : List (String × Json))
deriving Repr, Inhabited

namespace Json

def ofInt (n : Int) : Json := .number (.integer n)

def ofNat (n : Nat) : Json := .number (.integer n)

def strings (texts : List String) : Json := .array (texts.map .string)

def str? : Json → Option String
  | .string text => some text
  | _ => none

end Json

end ZeroShot
