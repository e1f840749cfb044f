import ZeroShot.Text.Blank
import ZeroShot.Text.GlyphTable

/-! Text in double quotes for reports: quotes, backslashes, controls and every character that would
not show as a glyph of its own are escaped. -/

namespace ZeroShot.Text

def hexDigits (n : Nat) : List Char := Nat.toDigits 16 n

def quotedChar (c : Char) : List Char :=
  match c with
  | '\x00' => ['\\', '0']
  | '\t' => ['\\', 't']
  | '\r' => ['\\', 'r']
  | '\n' => ['\\', 'n']
  | '"' => ['\\', '"']
  | '\\' => ['\\', '\\']
  | c =>
    if inRanges glyphExtendRanges c || inRanges unprintableRanges c then
      ['\\', 'u', '{'] ++ hexDigits c.toNat ++ ['}']
    else [c]

def quoted (text : String) : String :=
  String.ofList ('"' :: text.toList.flatMap quotedChar ++ ['"'])

end ZeroShot.Text
