import ZeroShot.Json.Token

/-! JSON text as a tree of what it says, and the values that are kept of it.

A document that is read for a few known fields skips the rest, and what is skipped need only be well
formed. `Document` is the tree of the text; `keep?` turns a part of it into a value, which asks
more: every number and string must stand for one, and containers nest at most `room` deep. -/

namespace ZeroShot.Json

inductive Document where
  | null
  | bool (value : Bool)
  | number (value : Option Number)
  | string (text : Option String)
  | array (items : List Document)
  | object (members : List (Option String × Document))
deriving Repr, Inhabited

def maxNesting : Nat := 127

mutual

def Document.keep? (room : Nat) : Document → Option Json
  | .null => some .null
  | .bool value => some (.bool value)
  | .number value => value.map .number
  | .string text => text.map .string
  | .array items =>
    match room with
    | 0 => none
    | room + 1 => (keepItems? room items).map .array
  | .object members =>
    match room with
    | 0 => none
    | room + 1 => (keepMembers? room members).map fun kept => .object (Members.ofList kept)

def Document.keepItems? (room : Nat) : List Document → Option (List Json)
  | [] => some []
  | item :: rest => do
    let item ← item.keep? room
    let rest ← keepItems? room rest
    some (item :: rest)

def Document.keepMembers? (room : Nat) :
    List (Option String × Document) → Option (List (String × Json))
  | [] => some []
  | (key, value) :: rest => do
    let key ← key
    let value ← value.keep? room
    let rest ← keepMembers? room rest
    some ((key, value) :: rest)

end

/-- A container that is still open: what it holds so far, last first, and what may come next. -/
inductive Frame where
  | array (items : List Document)
  | object (members : List (Option String × Document)) (key : Option String)
deriving Repr

inductive Expect where
  | value
  | valueOrClose
  | key
  | keyOrClose
  | colon
  | separator
deriving Repr, DecidableEq

structure Reading where
  frames : List Frame
  expect : Expect
  result : Option Document
deriving Repr

namespace Reading

def start : Reading := ⟨[], .value, none⟩

/-- Puts a complete value into the innermost open container. -/
def put (state : Reading) (value : Document) : Reading :=
  match state.frames with
  | [] => { state with result := some value, expect := .separator }
  | .array items :: rest =>
    { state with frames := .array (value :: items) :: rest, expect := .separator }
  | .object members key :: rest =>
    { state with frames := .object ((key, value) :: members) none :: rest, expect := .separator }

def atValue (state : Reading) : Bool :=
  state.result.isNone && (state.expect = .value || state.expect = .valueOrClose)

def putScalar (state : Reading) (value : Document) : Option Reading :=
  if state.atValue then some (state.put value) else none

def step (state : Reading) : Token → Option Reading
  | .null => state.putScalar .null
  | .bool value => state.putScalar (.bool value)
  | .number value => state.putScalar (.number value)
  | .string text =>
    match state.expect, state.frames with
    | .key, .object members _ :: rest | .keyOrClose, .object members _ :: rest =>
      some { state with frames := .object members text :: rest, expect := .colon }
    | _, _ => state.putScalar (.string text)
  | .colon => if state.expect = .colon then some { state with expect := .value } else none
  | .comma =>
    match state.expect, state.frames with
    | .separator, .array _ :: _ => some { state with expect := .value }
    | .separator, .object _ _ :: _ => some { state with expect := .key }
    | _, _ => none
  | .openArray =>
    if state.atValue then
      some { state with frames := .array [] :: state.frames, expect := .valueOrClose }
    else none
  | .openObject =>
    if state.atValue then
      some { state with frames := .object [] none :: state.frames, expect := .keyOrClose }
    else none
  | .closeArray =>
    match state.expect, state.frames with
    | .separator, .array items :: rest | .valueOrClose, .array items :: rest =>
      some ({ state with frames := rest }.put (.array items.reverse))
    | _, _ => none
  | .closeObject =>
    match state.expect, state.frames with
    | .separator, .object members _ :: rest | .keyOrClose, .object members _ :: rest =>
      some ({ state with frames := rest }.put (.object members.reverse))
    | _, _ => none

def run (state : Reading) : List Token → Option Reading
  | [] => some state
  | token :: rest => (state.step token).bind fun next => next.run rest

end Reading

def Document.ofString? (text : String) : Option Document := do
  let tokens ← tokens? text
  let final ← Reading.start.run tokens
  if final.frames.isEmpty then final.result else none

def ofString? (text : String) : Option Json :=
  (Document.ofString? text).bind (·.keep? maxNesting)

end ZeroShot.Json
