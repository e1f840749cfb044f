import ZeroShot.Hypothesis
import ZeroShot.Json.Fields

/-! A request: one text, and the candidate labels to rank for it. -/

namespace ZeroShot

structure Request where
  text : String
  candidates : List String
  hypothesisTemplate : String := Hypothesis.defaultTemplate
  multiLabel : Bool := false
deriving DecidableEq, Repr, Inhabited

namespace Request

open Json.Document in
def ofDocument? (document : Json.Document) : Option Request := do
  let [text, candidates, template, multiLabel] ←
    document.fields? ["text", "candidates", "hypothesis_template", "multi_label"] | none
  let text ← required text? text
  let candidates ← required (list? text?) candidates
  let hypothesisTemplate ← withDefault Hypothesis.defaultTemplate text? template
  let multiLabel ← withDefault false flag? multiLabel
  some ⟨text, candidates, hypothesisTemplate, multiLabel⟩

def ofString? (text : String) : Option Request :=
  (Json.Document.ofString? text).bind ofDocument?

def toJson (r : Request) : Json :=
  .object [("text", .string r.text), ("candidates", Json.strings r.candidates),
    ("hypothesis_template", .string r.hypothesisTemplate), ("multi_label", .bool r.multiLabel)]

end Request

end ZeroShot
