import ZeroShot.Text.Blank
import ZeroShot.Text.CaseTable

/-! Lower case over all of Unicode. One character has an image of two, and a capital sigma becomes
a final sigma where it ends a word of at least two letters. -/

namespace ZeroShot.Text

def simpleLowercase (code : Nat) : Nat :=
  match lowercaseRuns.find? fun (first, last, stride, _) =>
      first ≤ code && code ≤ last && (code - first) % stride == 0 with
  | some (first, _, _, image) => image + (code - first)
  | none => code

def lowercaseChar (c : Char) : List Char :=
  if c = 'İ' then ['i', '\u0307'] else [Char.ofNat (simpleLowercase c.toNat)]

/-- Whether, past characters that case ignores, a cased character follows. -/
def startsCased (text : List Char) : Bool :=
  match text.dropWhile (inRanges caseIgnorableRanges) with
  | c :: _ => inRanges casedRanges c
  | [] => false

/-- `before` holds what precedes, last character first. -/
def lowercaseFrom (before : List Char) : List Char → List Char
  | [] => []
  | 'Σ' :: rest =>
    let sigma := if startsCased before && !startsCased rest then 'ς' else 'σ'
    sigma :: lowercaseFrom ('Σ' :: before) rest
  | c :: rest => lowercaseChar c ++ lowercaseFrom (c :: before) rest

def lowercase (text : String) : String := String.ofList (lowercaseFrom [] text.toList)

end ZeroShot.Text
