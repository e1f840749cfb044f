import ZeroShot.Members

/-! Values of TOML documents, and the rules by which their tables grow.

A table knows how it came to be, because that decides what may still be added to it. -/

namespace ZeroShot

/-- How a table came to be: under a header of its own, on the way to another header, on the way
along a dotted key, or in braces. -/
inductive Toml.Origin where
  | header
  | onPath
  | dotted
  | inline
deriving DecidableEq, Repr

inductive Toml where
  | string (value : String)
  | integer (value : Int)
  | flag (value : Bool)
  | real
  | moment
  | array (items : List Toml)
  | table (origin : Toml.Origin) (members : List (String × Toml))
  | tables (elements : List (List (String × Toml)))
deriving Repr, Inhabited

namespace Toml

abbrev Table := List (String × Toml)

def changeLast (change : Table → Option Table) : List Table → Option (List Table)
  | [] => none
  | [t] => (change t).map ([·])
  | t :: rest => (changeLast change rest).map (t :: ·)

/-- Changes the table at the end of a header's path. Tables on the way are made where there are
none; of an array of tables the last one is meant; a value cannot be walked through. -/
def atPath (change : Table → Option Table) : List String → Table → Option Table
  | [], t => change t
  | key :: path, t =>
    match Members.get? t key with
    | none => (atPath change path []).map fun inner => Members.put t key (.table .onPath inner)
    | some (.table .inline _) => none
    | some (.table origin inner) =>
      (atPath change path inner).map fun inner => Members.put t key (.table origin inner)
    | some (.tables elements) =>
      (changeLast (atPath change path) elements).map fun elements =>
        Members.put t key (.tables elements)
    | some _ => none

/-- A header gives a table its place once, unless so far it was only on the path to others. -/
def openTable (key : String) (t : Table) : Option Table :=
  match Members.get? t key with
  | none => some (Members.put t key (.table .header []))
  | some (.table .onPath inner) => some (Members.put t key (.table .header inner))
  | some _ => none

def openElement (key : String) (t : Table) : Option Table :=
  match Members.get? t key with
  | none => some (Members.put t key (.tables [[]]))
  | some (.tables elements) => some (Members.put t key (.tables (elements ++ [[]])))
  | some _ => none

def insert (key : String) (value : Toml) (t : Table) : Option Table :=
  match Members.get? t key with
  | none => some (Members.put t key value)
  | some _ => none

/-- Adds a value under a dotted key. Its path may go through tables that have no header of their
own, and must end in one that dotted keys have made. -/
def insertDotted (key : String) (value : Toml) : List String → Table → Option Table
  | [], t => insert key value t
  | step :: path, t =>
    match Members.get? t step with
    | none =>
      (insertDotted key value path []).map fun inner =>
        Members.put t step (.table .dotted inner)
    | some (.table .dotted inner) =>
      (insertDotted key value path inner).map fun inner =>
        Members.put t step (.table .dotted inner)
    | some (.table .onPath inner) =>
      if path.isEmpty then none
      else (insertDotted key value path inner).map fun inner =>
        Members.put t step (.table .onPath inner)
    | some (.tables elements) =>
      if path.isEmpty then none
      else (changeLast (insertDotted key value path) elements).map fun elements =>
        Members.put t step (.tables elements)
    | some _ => none

end Toml

end ZeroShot
