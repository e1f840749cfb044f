import ZeroShot.Config.Resolved
import ZeroShot.Json.Fields

/-! Resolved configurations as JSON documents. -/

namespace ZeroShot

namespace ClassIndices

open Json.Document in
def ofDocument? (document : Json.Document) : Option ClassIndices := do
  let [entailment, contradiction] ← document.fields? ["entailment", "contradiction"] | none
  let entailment ← required natural? entailment
  let contradiction ← required natural? contradiction
  some ⟨entailment, contradiction⟩

def ofString? (text : String) : Option ClassIndices :=
  (Json.Document.ofString? text).bind ofDocument?

def toJson (indices : ClassIndices) : Json :=
  .object [("entailment", Json.ofNat indices.entailment),
    ("contradiction", Json.ofNat indices.contradiction)]

end ClassIndices

namespace ResolvedConfig

open Json.Document in
def ofDocument? (document : Json.Document) : Option ResolvedConfig := do
  let [indices, useTokenType] ← document.fields? ["indices", "use_token_type"] | none
  let indices ← required ClassIndices.ofDocument? indices
  let useTokenType ← required flag? useTokenType
  some ⟨indices, useTokenType⟩

def ofString? (text : String) : Option ResolvedConfig :=
  (Json.Document.ofString? text).bind ofDocument?

def toJson (resolved : ResolvedConfig) : Json :=
  .object [("indices", resolved.indices.toJson), ("use_token_type", .bool resolved.useTokenType)]

end ResolvedConfig

end ZeroShot
