import ZeroShot.Json.Fields
import ZeroShot.Score.Ranking

/-! Rankings as JSON documents. -/

namespace ZeroShot

namespace Ranking

open Json.Document in
def ofDocument? (document : Json.Document) : Option Ranking := do
  let [text, labels, scores] ← document.fields? ["text", "labels", "scores"] | none
  let text ← required text? text
  let labels ← required (list? text?) labels
  let scores ← required (list? real?) scores
  some ⟨text, labels, scores⟩

def ofString? (text : String) : Option Ranking :=
  (Json.Document.ofString? text).bind ofDocument?

def toJson (r : Ranking) : Json :=
  .object [("text", .string r.text), ("labels", Json.strings r.labels),
    ("scores", .array (r.scores.map fun x => .number (.real x)))]

end Ranking

end ZeroShot
