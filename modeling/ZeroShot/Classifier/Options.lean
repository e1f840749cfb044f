import ZeroShot.Config.Resolved
import ZeroShot.Error
import ZeroShot.Hypothesis
import ZeroShot.Json.Fields
import ZeroShot.Number.Integer
import ZeroShot.Text.Blank
import ZeroShot.Text.Lowercase

/-! The settings of a classifier, and the ways to write them down: a record, or loose arguments. -/

namespace ZeroShot

structure Options where
  /-- Class indices and token types for a model whose configuration does not give them. -/
  entailmentId : Nat := 2
  contradictionId : Nat := 0
  tokenTypeIds : Bool := false
  int32 : Bool := false
  hypothesisTemplate : String := Hypothesis.defaultTemplate
  multiLabel : Bool := false
  maxConcurrency : Nat := 1
deriving DecidableEq, Repr, Inhabited

namespace Options

def defaults (o : Options) : ResolvedConfig :=
  ⟨⟨o.entailmentId, o.contradictionId⟩, o.tokenTypeIds⟩

def validate (o : Options) : Except InputFault Unit :=
  if o.maxConcurrency = 0 then .error .zeroConcurrency else .ok ()

def flagArgument? : Json → Option Bool
  | .bool value => some value
  | .string text =>
    let word := Text.lowercase (Text.trim text)
    if word = "true" then some true else if word = "false" then some false else none
  | _ => none

def naturalArgument? : Json → Option Nat
  | .number (.integer n) => if 0 ≤ n then some n.toNat else none
  | .string text => Number.unsigned? 0x10000000000000000 (Text.trimBlanks text.toList)
  | _ => none

def argument (arguments : List (String × Json)) (key : String) (default : α)
    (read : Json → Option α) : Except InputFault α :=
  match Members.get? arguments key with
  | none => .ok default
  | some value =>
    match read value with
    | some a => .ok a
    | none => .error (.badArgument key value)

/-- Unknown arguments do not matter; an unusable value of a known one is refused. -/
def ofArguments (arguments : List (String × Json)) : Except InputFault Options := do
  let base : Options := {}
  let tokenTypeIds ← argument arguments "tokenTypeId" base.tokenTypeIds flagArgument?
  let int32 ← argument arguments "int32" base.int32 flagArgument?
  let entailmentId ← argument arguments "entailmentId" base.entailmentId naturalArgument?
  let contradictionId ← argument arguments "contradictionId" base.contradictionId naturalArgument?
  let hypothesisTemplate ←
    argument arguments "hypothesisTemplate" base.hypothesisTemplate Json.str?
  let multiLabel ← argument arguments "multiLabel" base.multiLabel flagArgument?
  let maxConcurrency ← argument arguments "maxConcurrency" base.maxConcurrency naturalArgument?
  let options : Options := ⟨entailmentId, contradictionId, tokenTypeIds, int32, hypothesisTemplate,
    multiLabel, maxConcurrency⟩
  options.validate
  return options

def fieldNames : List String :=
  ["entailment_id", "contradiction_id", "token_type_ids", "int32", "hypothesis_template",
   "multi_label", "max_concurrency"]

open Json.Document in
def ofDocument? (document : Json.Document) : Option Options := do
  let [entailment, contradiction, tokenTypes, int32, template, multiLabel, concurrency] ←
    document.fields? fieldNames | none
  let base : Options := {}
  let entailmentId ← withDefault base.entailmentId natural? entailment
  let contradictionId ← withDefault base.contradictionId natural? contradiction
  let tokenTypeIds ← withDefault base.tokenTypeIds flag? tokenTypes
  let int32 ← withDefault base.int32 flag? int32
  let hypothesisTemplate ← withDefault base.hypothesisTemplate text? template
  let multiLabel ← withDefault base.multiLabel flag? multiLabel
  let maxConcurrency ← withDefault base.maxConcurrency natural? concurrency
  some ⟨entailmentId, contradictionId, tokenTypeIds, int32, hypothesisTemplate, multiLabel,
    maxConcurrency⟩

def ofString? (text : String) : Option Options :=
  (Json.Document.ofString? text).bind ofDocument?

def toJson (o : Options) : Json :=
  .object [("entailment_id", Json.ofNat o.entailmentId),
    ("contradiction_id", Json.ofNat o.contradictionId), ("token_type_ids", .bool o.tokenTypeIds),
    ("int32", .bool o.int32), ("hypothesis_template", .string o.hypothesisTemplate),
    ("multi_label", .bool o.multiLabel), ("max_concurrency", Json.ofNat o.maxConcurrency)]

end Options

end ZeroShot
