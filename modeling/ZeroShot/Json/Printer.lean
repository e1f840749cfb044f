import ZeroShot.Json.Basic
import ZeroShot.Number.Decimal

/-! JSON text of a value, compact or indented by two spaces. -/

namespace ZeroShot.Json

def hexDigit (n : Nat) : Char := if n < 10 then Char.ofNat (48 + n) else Char.ofNat (87 + n)

def escapeChar (c : Char) : List Char :=
  match c with
  | '"' => ['\\', '"']
  | '\\' => ['\\', '\\']
  | '\x08' => ['\\', 'b']
  | '\x0c' => ['\\', 'f']
  | '\n' => ['\\', 'n']
  | '\r' => ['\\', 'r']
  | '\t' => ['\\', 't']
  | c =>
    if c.toNat < 0x20 then ['\\', 'u', '0', '0', hexDigit (c.toNat / 16), hexDigit (c.toNat % 16)]
    else [c]

def quote (text : String) : String := String.ofList ('"' :: text.toList.flatMap escapeChar ++ ['"'])

/-- The fewest digits that read back, positional while the leading digit stands between `10^-5` and
`10^15`, else scientific with a signed exponent; a whole number keeps one zero after the point. -/
def decimalText (d : Decimal) : List Char :=
  let digits := d.digits
  let leading := d.leadingExponent
  if -5 ≤ leading ∧ leading ≤ 15 then
    if 0 ≤ d.exponent then digits ++ List.replicate d.exponent.toNat '0' ++ ['.', '0']
    else if 0 ≤ leading then
      digits.take (leading.toNat + 1) ++ '.' :: digits.drop (leading.toNat + 1)
    else '0' :: '.' :: List.replicate (-leading - 1).toNat '0' ++ digits
  else
    let mantissa := if digits.length = 1 then digits else digits.take 1 ++ '.' :: digits.drop 1
    let sign := if leading < 0 then '-' else '+'
    mantissa ++ 'e' :: sign :: Nat.toDigits 10 leading.natAbs

/-- JSON has no text for a NaN or an infinity; they are written as null. -/
def realText (x : Binary64) : String :=
  if x.isNaN || x.isInfinite then "null"
  else (if x.isNegative then "-" else "") ++ String.ofList (decimalText (Decimal.shortest x))

def Number.text : Number → String
  | .integer n => toString n
  | .real x => realText x

mutual

def compact : Json → String
  | .null => "null"
  | .bool value => if value then "true" else "false"
  | .number value => value.text
  | .string text => quote text
  | .array items => "[" ++ compactItems items ++ "]"
  | .object members => "\x7b" ++ compactMembers members ++ "\x7d"

def compactItems : List Json → String
  | [] => ""
  | [item] => compact item
  | item :: rest => compact item ++ "," ++ compactItems rest

def compactMembers : List (String × Json) → String
  | [] => ""
  | [(key, value)] => quote key ++ ":" ++ compact value
  | (key, value) :: rest => quote key ++ ":" ++ compact value ++ "," ++ compactMembers rest

end

def indentation (depth : Nat) : String := "\n" ++ String.ofList (List.replicate (2 * depth) ' ')

mutual

def pretty (depth : Nat) : Json → String
  | .array [] => "[]"
  | .array (item :: rest) =>
    "[" ++ prettyItems (depth + 1) (item :: rest) ++ indentation depth ++ "]"
  | .object [] => "\x7b\x7d"
  | .object (member :: rest) =>
    "\x7b" ++ prettyMembers (depth + 1) (member :: rest) ++ indentation depth ++ "\x7d"
  | .null => "null"
  | .bool value => if value then "true" else "false"
  | .number value => value.text
  | .string text => quote text

def prettyItems (depth : Nat) : List Json → String
  | [] => ""
  | item :: rest =>
    indentation depth ++ pretty depth item ++ (if rest.isEmpty then "" else ",")
      ++ prettyItems depth rest

def prettyMembers (depth : Nat) : List (String × Json) → String
  | [] => ""
  | (key, value) :: rest =>
    indentation depth ++ quote key ++ ": " ++ pretty depth value
      ++ (if rest.isEmpty then "" else ",") ++ prettyMembers depth rest

end

end ZeroShot.Json
