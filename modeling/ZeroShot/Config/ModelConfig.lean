import ZeroShot.Journal
import ZeroShot.Json.Fields
import ZeroShot.Number.Integer
import ZeroShot.Text.Blank
import ZeroShot.Text.Lowercase

/-! The part of a model's configuration that says which class is which, and how it is resolved.

Fields keep whatever value they have, so that an odd one is only lost by itself. -/

namespace ZeroShot

structure ModelConfig where
  labelIds : List (String × Json) := []
  typeVocabSize : Option Json := none
  modelType : Option Json := none
deriving Repr, Inhabited

/-- Numbers below `2^63` in magnitude, as integers or as text in decimal digits. -/
def Json.integer? : Json → Option Int
  | .number (.integer n) => if n < 0x8000000000000000 then some n else none
  | .string text => Number.signed? 0x8000000000000000 (Text.trimBlanks text.toList)
  | _ => none

namespace ModelConfig

def optional? (read : Json.Document → Option α) : Option Json.Document → Option (Option α)
  | none | some .null => some none
  | some value => (read value).map some

def ofDocument? (document : Json.Document) : Option ModelConfig := do
  let [labels, size, type] ← document.fields? ["label2id", "type_vocab_size", "model_type"] | none
  let keep := Json.Document.keep? (Json.maxNesting - 1)
  let labels ← optional? (fun d => match keep d with
    | some (.object members) => some members
    | _ => none) labels
  let size ← optional? keep size
  let type ← optional? keep type
  some { labelIds := labels.getD [], typeVocabSize := size, modelType := type }

def ofString? (text : String) : Option ModelConfig :=
  (Json.Document.ofString? text).bind ofDocument?

def size? (config : ModelConfig) : Option Int := config.typeVocabSize.bind Json.integer?

def type? (config : ModelConfig) : Option String := config.modelType.bind Json.str?

def usableId? (value : Json) : Option Nat :=
  value.integer?.bind fun n => if 0 ≤ n then some n.toNat else none

/-- The labels with usable ids, in order; each of the others is reported. -/
def usableLabels : List (String × Json) → Logged (List (String × Nat))
  | [] => pure []
  | (label, value) :: rest =>
    match usableId? value with
    | some id => do
      let others ← usableLabels rest
      pure ((label, id) :: others)
    | none => do
      Logged.tell (.labelIgnored label value)
      usableLabels rest

/-- A label names a class by its first letters, in either case. -/
def roleOf? (label : String) : Option ClassRole :=
  let lower := (Text.lowercase label).toList
  if "entail".toList.isPrefixOf lower then some .entailment
  else if "contra".toList.isPrefixOf lower then some .contradiction
  else none

/-- Of several labels for one class the last one counts, and each after the first is reported. -/
def applyLabels (indices : ClassIndices) (seen : List ClassRole) :
    List (String × Nat) → Logged ClassIndices
  | [] => pure indices
  | (label, id) :: rest =>
    match roleOf? label with
    | none => applyLabels indices seen rest
    | some role => do
      if seen.contains role then
        Logged.tell (.labelRepeated label role (indices.get role) id)
      applyLabels (indices.set role id) (role :: seen) rest

def hasSegmentVocabulary (config : ModelConfig) : Bool :=
  match config.size? with
  | some n => 1 < n
  | none => false

def isSegmentFamily (family : String) : Bool :=
  ["bert", "albert", "xlnet"].contains family || "deberta".toList.isPrefixOf family.toList

def hasSegmentFamily (config : ModelConfig) : Bool :=
  match config.type? with
  | some family => isSegmentFamily (Text.lowercase family)
  | none => false

def tokenTypeRule? (config : ModelConfig) : Option TokenTypeRule :=
  if config.hasSegmentVocabulary then some .typeVocabSize
  else if config.hasSegmentFamily then some .modelType
  else none

/-- Class indices that the configuration does not give are those of `defaults`. Token types are
used when the configuration asks for them, whatever the default. -/
def resolve (config : ModelConfig) (defaults : ResolvedConfig) : Logged ResolvedConfig := do
  let labels ← usableLabels config.labelIds
  let indices ← applyLabels defaults.indices [] labels
  match config.tokenTypeRule? with
  | some rule =>
    Logged.tell (.tokenTypesEnabled rule)
    pure ⟨indices, true⟩
  | none => pure ⟨indices, false⟩

end ModelConfig

end ZeroShot
