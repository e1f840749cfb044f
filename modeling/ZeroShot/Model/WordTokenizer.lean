import ZeroShot.FileTree
import ZeroShot.Json.Document
import ZeroShot.Model.Encoding
import ZeroShot.Text.Blank

/-! Tokenizers that look whole words up in a vocabulary. -/

namespace ZeroShot

structure PairMarks where
  front : UInt32
  behind : UInt32
deriving DecidableEq, Repr

structure WordTokenizer where
  vocabulary : List (String × UInt32)
  unknownWord : String
  marks : Option PairMarks
deriving Repr

namespace WordTokenizer

def id? : Json → Option UInt32
  | .number (.integer n) =>
    if 0 ≤ n ∧ n < 0x100000000 then some (UInt32.ofNat n.toNat) else none
  | _ => none

def member? (json : Json) (key : String) : Option Json :=
  match json with
  | .object members => Members.get? members key
  | _ => none

def vocabulary? : Json → Option (List (String × UInt32))
  | .object members => members.mapM fun (word, value) => (id? value).map fun id => (word, id)
  | _ => none

def mark? : Json → Option UInt32
  | .array [.string _, id] => id? id
  | _ => none

def marks? : Option Json → Option (Option PairMarks)
  | none | some .null => some none
  | some processor => do
    guard (member? processor "type" matches some (.string "BertProcessing"))
    let front ← (member? processor "cls").bind mark?
    let behind ← (member? processor "sep").bind mark?
    some (some ⟨front, behind⟩)

def ofJson? (json : Json) : Option WordTokenizer := do
  let model ← member? json "model"
  guard (member? model "type" matches some (.string "WordLevel"))
  let vocabulary ← (member? model "vocab").bind vocabulary?
  let unknownWord ← (member? model "unk_token").bind Json.str?
  let marks ← marks? (member? json "post_processor")
  some ⟨vocabulary, unknownWord, marks⟩

def ofFile (tree : FileTree) (path : String) : Except String WordTokenizer :=
  match ((tree.readText? path).bind Json.ofString?).bind ofJson? with
  | some tokenizer => .ok tokenizer
  | none => .error "not a tokenizer"

/-- A word that is not in the vocabulary has the id of the unknown word. -/
def idOf? (tokenizer : WordTokenizer) (word : String) : Option UInt32 :=
  Members.get? tokenizer.vocabulary word <|>
    Members.get? tokenizer.vocabulary tokenizer.unknownWord

def idsOf? (tokenizer : WordTokenizer) (text : String) : Option (List UInt32) :=
  (Text.words text).mapM tokenizer.idOf?

/-- Both texts, the first one and its marks with type 0 and the second with type 1. -/
def join (marks : Option PairMarks) (premise hypothesis : List UInt32) : Tokens :=
  let (first, second) := match marks with
    | none => (premise, hypothesis)
    | some ⟨front, behind⟩ => (front :: premise ++ [behind], hypothesis ++ [behind])
  { ids := first ++ second
    attentionMask := List.replicate (first.length + second.length) 1
    typeIds := List.replicate first.length 0 ++ List.replicate second.length 1 }

def tokens (tokenizer : WordTokenizer) (premise hypothesis : String) : Except String Tokens :=
  match tokenizer.idsOf? premise, tokenizer.idsOf? hypothesis with
  | some first, some second => .ok (join tokenizer.marks first second)
  | _, _ => .error "unknown word"

end WordTokenizer

end ZeroShot
