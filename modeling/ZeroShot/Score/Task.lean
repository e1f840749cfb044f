import ZeroShot.Json.Fields
import ZeroShot.Score.LogitMatrix

/-! Logits to be scored, as a JSON document: one row for each candidate. -/

namespace ZeroShot

structure ScoreTask where
  text : String
  candidates : List String
  rows : List (List Binary32)
  multiLabel : Bool
deriving DecidableEq, Repr

namespace ScoreTask

open Json.Document in
def ofDocument? (document : Json.Document) : Option ScoreTask := do
  let [text, candidates, rows, multiLabel] ←
    document.fields? ["text", "candidates", "logits", "multi_label"] | none
  let text ← withDefault "" text? text
  let candidates ← required (list? text?) candidates
  let rows ← required (list? (list? logit?)) rows
  let multiLabel ← withDefault false flag? multiLabel
  some ⟨text, candidates, rows, multiLabel⟩

def ofString? (text : String) : Option ScoreTask :=
  (Json.Document.ofString? text).bind ofDocument?

end ScoreTask

end ZeroShot
