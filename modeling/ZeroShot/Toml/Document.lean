import ZeroShot.Toml.Scalar

/-! TOML text as a table. -/

namespace ZeroShot.Toml

namespace Reading

def arrayItems (item : Reader Toml) (fuel : Nat) : Reader (List Toml) := fun text =>
  match fuel, skipBlanks false text with
  | _, ']' :: rest => some ([], rest)
  | 0, _ => none
  | fuel + 1, text => do
    let (value, rest) ← item text
    match skipBlanks false rest with
    | ',' :: rest =>
      let (values, rest) ← arrayItems item fuel rest
      some (value :: values, rest)
    | ']' :: rest => some ([value], rest)
    | _ => none

def keyValue (item : Reader Toml) : Reader (List String × String × Toml) := fun text => do
  let ((path, key), rest) ← dottedKey text
  match rest with
  | '=' :: rest =>
    let (value, rest) ← item (skipSpaces rest)
    some ((path, key, value), rest)
  | _ => none

def inlineMembers (item : Reader Toml) (fuel : Nat) (t : Table) : Reader Table := fun text =>
  match fuel with
  | 0 => none
  | fuel + 1 => do
    let ((path, key, value), rest) ← keyValue item text
    let t ← insertDotted key value path t
    match skipSpaces rest with
    | ',' :: rest => inlineMembers item fuel t rest
    | '}' :: rest => some (t, rest)
    | _ => none

/-- A value with at most `room` containers around each other. -/
def value (room : Nat) : Reader Toml := fun text =>
  match room, text with
  | 0, '[' :: _ => none
  | room + 1, '[' :: rest =>
    (arrayItems (value room) rest.length rest).map fun (items, rest) => (.array items, rest)
  | 0, '{' :: _ => none
  | room + 1, '{' :: rest =>
    match skipSpaces rest with
    | '}' :: rest => some (.table .inline [], rest)
    | _ =>
      (inlineMembers (value room) rest.length [] rest).map fun (t, rest) => (.table .inline t, rest)
  | _, '"' :: _ | _, '\x27' :: _ => (string text).map fun (s, rest) => (.string s, rest)
  | _, 't' :: 'r' :: 'u' :: 'e' :: rest => some (.flag true, rest)
  | _, 'f' :: 'a' :: 'l' :: 's' :: 'e' :: rest => some (.flag false, rest)
  | _, _ => numeral text

def header (close : List Char) : Reader (List String × String) := fun text => do
  let (key, rest) ← dottedKey text
  if close.isPrefixOf rest then
    let rest ← lineEnd? (rest.drop close.length)
    some (key, rest)
  else none

/-- Reads line after line into the table under the last header. -/
def lines (fuel : Nat) (root : Table) (here : List String) (text : List Char) : Option Table :=
  match fuel, skipSpaces text with
  | _, [] => some root
  | 0, _ => none
  | fuel + 1, '#' :: rest => do
    let rest ← lineEnd? ('#' :: rest)
    lines fuel root here rest
  | fuel + 1, '\n' :: rest => lines fuel root here rest
  | fuel + 1, '\r' :: rest => do
    let rest ← lineBreak? ('\r' :: rest)
    lines fuel root here rest
  | fuel + 1, '[' :: '[' :: rest => do
    let ((path, key), rest) ← header [']', ']'] rest
    let root ← atPath (openElement key) path root
    lines fuel root (path ++ [key]) rest
  | fuel + 1, '[' :: rest => do
    let ((path, key), rest) ← header [']'] rest
    let root ← atPath (openTable key) path root
    lines fuel root (path ++ [key]) rest
  | fuel + 1, text => do
    let ((path, key, value), rest) ← keyValue (value maxDepth) text
    let rest ← lineEnd? rest
    let root ← atPath (insertDotted key value path) here root
    lines fuel root here rest

end Reading

open Reading in
def ofString? (text : String) : Option Table :=
  let chars := match text.toList with
    | '\ufeff' :: rest => rest
    | chars => chars
  lines chars.length [] [] chars

end ZeroShot.Toml
