import ZeroShot.Json.Document

/-! Reading the fields of a record out of a document.

A record is an object, whose order of members does not matter and whose unknown members are
skipped, or an array of its fields in their order, in which the last ones may be missing. -/

namespace ZeroShot.Json.Document

/-- The value of the only member of that name; two of one name are refused. -/
def field? (members : List (String × Document)) (name : String) : Option (Option Document) :=
  match members.filter fun (key, _) => key = name with
  | [] => some none
  | [(_, value)] => some (some value)
  | _ => none

def named? (members : List (Option String × Document)) : Option (List (String × Document)) :=
  members.mapM fun (key, value) => key.map fun k => (k, value)

def fields? (names : List String) : Document → Option (List (Option Document))
  | .object members => do
    let members ← named? members
    names.mapM (field? members)
  | .array items =>
    if items.length ≤ names.length then
      some (items.map some ++ List.replicate (names.length - items.length) none)
    else none
  | _ => none

def text? : Document → Option String
  | .string text => text
  | _ => none

def flag? : Document → Option Bool
  | .bool value => some value
  | _ => none

def natural? : Document → Option Nat
  | .number (some (.integer n)) => if 0 ≤ n then some n.toNat else none
  | _ => none

def real? : Document → Option Binary64
  | .number (some (.integer n)) => some (Binary64.ofInt n)
  | .number (some (.real x)) => some x
  | _ => none

/-- An integer is rounded once, not by way of binary64. -/
def logit? : Document → Option Binary32
  | .number (some (.integer n)) => some (Binary32.ofInt n)
  | .number (some (.real x)) => some (Binary32.ofBinary64 x)
  | _ => none

def list? (item? : Document → Option α) : Document → Option (List α)
  | .array items => items.mapM item?
  | _ => none

def required (read : Document → Option α) (field : Option Document) : Option α :=
  field.bind read

def withDefault (default : α) (read : Document → Option α) : Option Document → Option α
  | none => some default
  | some value => read value

end ZeroShot.Json.Document
