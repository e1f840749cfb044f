import ZeroShot.Json.Literal

/-! Lexical structure of JSON text, as a machine that reads one character at a time. -/

namespace ZeroShot.Json

inductive Token where
  | openObject
  | closeObject
  | openArray
  | closeArray
  | colon
  | comma
  | null
  | bool (value : Bool)
  | number (value : Option Number)
  | string (text : Option String)
deriving Repr

/-- What the machine is in the middle of; partial lexemes are kept last character first. -/
inductive Lexing where
  | between
  | word (letters : List Char)
  | number (literal : List Char)
  | string (elements : List Element)
  | escape (elements : List Element)
  | unit (elements : List Element) (digits : Nat) (code : Nat)
deriving Repr

def isSpace (c : Char) : Bool := c = ' ' || c = '\t' || c = '\n' || c = '\r'

def isLetter (c : Char) : Bool := 'a' ≤ c && c ≤ 'z'

def isNumberChar (c : Char) : Bool :=
  isDigit c || c = '-' || c = '+' || c = '.' || c = 'e' || c = 'E'

def escaped? : Char → Option Char
  | '"' => some '"'
  | '\\' => some '\\'
  | '/' => some '/'
  | 'b' => some '\x08'
  | 'f' => some '\x0c'
  | 'n' => some '\n'
  | 'r' => some '\r'
  | 't' => some '\t'
  | _ => none

def Token.ofWord? (letters : List Char) : Option Token :=
  if letters = "null".toList then some .null
  else if letters = "true".toList then some (.bool true)
  else if letters = "false".toList then some (.bool false)
  else none

def Lexing.start (c : Char) : Option (List Token × Lexing) :=
  if isSpace c then some ([], .between)
  else match c with
    | '{' => some ([.openObject], .between)
    | '}' => some ([.closeObject], .between)
    | '[' => some ([.openArray], .between)
    | ']' => some ([.closeArray], .between)
    | ':' => some ([.colon], .between)
    | ',' => some ([.comma], .between)
    | '"' => some ([], .string [])
    | c =>
      if isDigit c || c = '-' then some ([], .number [c])
      else if isLetter c then some ([], .word [c])
      else none

def Lexing.step (state : Lexing) (c : Char) : Option (List Token × Lexing) :=
  match state with
  | .between => start c
  | .word letters =>
    if isLetter c then some ([], .word (c :: letters))
    else do
      let token ← Token.ofWord? letters.reverse
      let (tokens, next) ← start c
      some (token :: tokens, next)
  | .number literal =>
    if isNumberChar c then some ([], .number (c :: literal))
    else do
      let value ← number? literal.reverse
      let (tokens, next) ← start c
      some (.number value :: tokens, next)
  | .string elements =>
    if c = '"' then some ([.string ((joinUnits elements.reverse).map String.ofList)], .between)
    else if c = '\\' then some ([], .escape elements)
    else if c.toNat < 0x20 then none
    else some ([], .string (.char c :: elements))
  | .escape elements =>
    if c = 'u' then some ([], .unit elements 0 0)
    else (escaped? c).map fun e => ([], .string (.char e :: elements))
  | .unit elements digits code =>
    (Number.hexDigit? c).map fun d =>
      let code := 16 * code + d
      if digits = 3 then ([], .string (.unit code :: elements))
      else ([], .unit elements (digits + 1) code)

def Lexing.finish : Lexing → Option (List Token)
  | .between => some []
  | .word letters => (Token.ofWord? letters.reverse).map ([·])
  | .number literal => (number? literal.reverse).map fun value => [.number value]
  | _ => none

def Lexing.run (state : Lexing) : List Char → Option (List Token)
  | [] => state.finish
  | c :: rest => do
    let (tokens, next) ← state.step c
    let others ← next.run rest
    some (tokens ++ others)

def tokens? (text : String) : Option (List Token) := Lexing.between.run text.toList

end ZeroShot.Json
