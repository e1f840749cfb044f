import ZeroShot.Number.Integer

/-! Blanks, comments, strings and keys of TOML text.

A reader takes what it reads off the front of the text and gives the rest. -/

namespace ZeroShot.Toml.Reading

abbrev Reader (α : Type) := List Char → Option (α × List Char)

def isSpace (c : Char) : Bool := c = ' ' || c = '\t'

def skipSpaces (text : List Char) : List Char := text.dropWhile isSpace

def isPrintable (c : Char) : Bool := c = '\t' || (0x20 ≤ c.toNat && c.toNat ≠ 0x7f)

def lineBreak? : List Char → Option (List Char)
  | '\n' :: rest => some rest
  | '\r' :: '\n' :: rest => some rest
  | _ => none

def skipComment (text : List Char) : List Char :=
  match text with
  | '#' :: rest => rest.dropWhile isPrintable
  | _ => text

def lineEnd? (text : List Char) : Option (List Char) :=
  match skipComment (skipSpaces text) with
  | [] => some []
  | rest => lineBreak? rest

def skipBlanks (inComment : Bool) : List Char → List Char
  | [] => []
  | '\n' :: rest => skipBlanks false rest
  | '\r' :: '\n' :: rest => skipBlanks false rest
  | c :: rest =>
    if inComment then if isPrintable c then skipBlanks true rest else c :: rest
    else if isSpace c then skipBlanks false rest
    else if c = '#' then skipBlanks true rest
    else c :: rest

/-- The character with that code in hexadecimal, which must be a scalar value. -/
def charOfHex? (digits : List Char) : Option Char := do
  let values ← digits.mapM Number.hexDigit?
  let code := values.foldl (fun n d => 16 * n + d) 0
  if code < 0xd800 ∨ (0xdfff < code ∧ code < 0x110000) then some (Char.ofNat code) else none

def escaped? : Char → Option Char
  | 'b' => some '\x08'
  | 't' => some '\t'
  | 'n' => some '\n'
  | 'f' => some '\x0c'
  | 'r' => some '\r'
  | '"' => some '"'
  | '\\' => some '\\'
  | _ => none

def escape : Reader Char
  | 'u' :: a :: b :: c :: d :: rest => (charOfHex? [a, b, c, d]).map fun e => (e, rest)
  | 'U' :: a :: b :: c :: d :: e :: f :: g :: h :: rest =>
    (charOfHex? [a, b, c, d, e, f, g, h]).map fun x => (x, rest)
  | c :: rest => (escaped? c).map fun e => (e, rest)
  | [] => none

def consTo (c : Char) (read : Option (List Char × List Char)) : Option (List Char × List Char) :=
  read.map fun (text, rest) => (c :: text, rest)

theorem length_escape {text rest : List Char} {c : Char} (h : escape text = some (c, rest)) :
    rest.length < text.length := by
  unfold escape at h
  split at h <;> simp only [Option.map_eq_some_iff, Prod.mk.injEq, reduceCtorEq] at h
  all_goals
    obtain ⟨_, _, _, rfl⟩ := h
    simp
  all_goals omega

def basicBody (text : List Char) : Option (List Char × List Char) :=
  match text with
  | [] => none
  | '"' :: rest => some ([], rest)
  | '\\' :: rest =>
    match h : escape rest with
    | some (c, after) =>
      have := length_escape h
      consTo c (basicBody after)
    | none => none
  | c :: rest => if isPrintable c then consTo c (basicBody rest) else none
termination_by text.length

def literalBody : Reader (List Char)
  | [] => none
  | c :: rest =>
    if c = '\x27' then some ([], rest)
    else if isPrintable c then consTo c (literalBody rest)
    else none

/-- A run of quotes ends a string of several lines with its last three, of at most five; fewer than
three are text. -/
def closing? (quote : Char) (text : List Char) : Option (List Char × List Char) :=
  let run := (text.takeWhile (· = quote)).length
  if run < 3 then none
  else
    let kept := min run 5 - 3
    some (List.replicate kept quote, text.drop (kept + 3))

/-- A backslash before the end of a line drops all blanks up to the next character. -/
def endsLine (text : List Char) : Bool := (lineBreak? (skipSpaces text)).isSome

/-- The rest of a string of several lines in double quotes; `skip` says that blanks are dropped. -/
def basicLines (skip : Bool) (text : List Char) : Option (List Char × List Char) :=
  match text with
  | [] => none
  | '\n' :: rest => if skip then basicLines true rest else consTo '\n' (basicLines false rest)
  | '\r' :: '\n' :: rest =>
    if skip then basicLines true rest else consTo '\n' (basicLines false rest)
  | '"' :: rest =>
    match closing? '"' ('"' :: rest) with
    | some closed => some closed
    | none => consTo '"' (basicLines false rest)
  | '\\' :: rest =>
    if endsLine rest then basicLines true rest
    else match h : escape rest with
      | some (c, after) =>
        have := length_escape h
        consTo c (basicLines false after)
      | none => none
  | c :: rest =>
    if skip && isSpace c then basicLines true rest
    else if isPrintable c then consTo c (basicLines false rest)
    else none
termination_by text.length

def literalLines : Reader (List Char)
  | [] => none
  | '\n' :: rest => consTo '\n' (literalLines rest)
  | '\r' :: '\n' :: rest => consTo '\n' (literalLines rest)
  | c :: rest =>
    if c = '\x27' then
      match closing? c (c :: rest) with
      | some closed => some closed
      | none => consTo c (literalLines rest)
    else if isPrintable c then consTo c (literalLines rest)
    else none

def dropFirstBreak (text : List Char) : List Char := (lineBreak? text).getD text

def string : Reader String := fun text =>
  let body := match text with
    | '"' :: '"' :: '"' :: rest => basicLines false (dropFirstBreak rest)
    | '"' :: rest => basicBody rest
    | '\x27' :: '\x27' :: '\x27' :: rest => literalLines (dropFirstBreak rest)
    | '\x27' :: rest => literalBody rest
    | _ => none
  body.map fun (chars, rest) => (String.ofList chars, rest)

def isKeyChar (c : Char) : Bool :=
  ('a' ≤ c && c ≤ 'z') || ('A' ≤ c && c ≤ 'Z') || ('0' ≤ c && c ≤ '9') || c = '-' || c = '_'

def simpleKey : Reader String := fun text =>
  match text with
  | '"' :: rest => (basicBody rest).map fun (chars, rest) => (String.ofList chars, rest)
  | '\x27' :: rest => (literalBody rest).map fun (chars, rest) => (String.ofList chars, rest)
  | _ =>
    let chars := text.takeWhile isKeyChar
    if chars.isEmpty then none else some (String.ofList chars, text.dropWhile isKeyChar)

def keysWithin (fuel : Nat) : Reader (List String) := fun text =>
  match fuel with
  | 0 => none
  | fuel + 1 => do
    let (key, rest) ← simpleKey (skipSpaces text)
    match skipSpaces rest with
    | '.' :: rest =>
      let (keys, rest) ← keysWithin fuel rest
      some (key :: keys, rest)
    | rest => some ([key], rest)

def maxDepth : Nat := 79

def dottedKey : Reader (List String × String) := fun text => do
  let (keys, rest) ← keysWithin maxDepth text
  let last ← keys.getLast?
  some ((keys.dropLast, last), rest)

end ZeroShot.Toml.Reading
