import ZeroShot.Classifier.Backend
import ZeroShot.Model.Source
import ZeroShot.Model.Tokenizer

/-! Models that run here: a session of a graph, a tokenizer, and the configuration that shapes their
inputs. -/

namespace ZeroShot

variable [Runtime]

structure LocalModel where
  name : String
  session : Runtime.Session
  tokenizer : Tokenizer
  resolved : ResolvedConfig
  int32 : Bool
  device : Device

namespace LocalModel

def ofFiles (tree : FileTree) (name : String) (files : ModelFiles) (device : Device)
    (resolved : ResolvedConfig) (int32 : Bool) : Attempt LocalModel := do
  let session ← Attempt.ofExcept
    ((Runtime.openSession tree files.graph device).mapError fun reason =>
      .setup (.unusableGraph reason))
  let tokenizer ← Attempt.ofExcept ((Tokenizer.ofFile tree files.tokenizer).mapError .setup)
  Logged.tell (.modelLoaded name device.name resolved int32)
  return ⟨name, session, tokenizer, resolved, int32, device⟩

theorem resolved_eq_of_ofFiles {tree : FileTree} {name : String} {files : ModelFiles}
    {device : Device} {resolved : ResolvedConfig} {int32 : Bool} {model : LocalModel}
    (h : (ofFiles tree name files device resolved int32).result = .ok model) :
    model.resolved = resolved ∧ model.int32 = int32 := by
  unfold ofFiles at h
  obtain ⟨session, -, h⟩ := Attempt.exists_of_result_bind_eq_ok h
  obtain ⟨tokenizer, -, h⟩ := Attempt.exists_of_result_bind_eq_ok h
  cases h
  exact ⟨rfl, rfl⟩

/-- Loads a model under a configuration of the caller's, whatever its own one says. -/
def loadWith (library : Library) (source : ModelSource) (device : Device)
    (resolved : ResolvedConfig) (int32 : Bool) : Attempt LocalModel := do
  let files ← source.locate library
  ofFiles library.tree source.name files device resolved int32

theorem resolved_eq_of_loadWith {library : Library} {source : ModelSource} {device : Device}
    {resolved : ResolvedConfig} {int32 : Bool} {model : LocalModel}
    (h : (loadWith library source device resolved int32).result = .ok model) :
    model.resolved = resolved ∧ model.int32 = int32 := by
  obtain ⟨files, -, h⟩ := Attempt.exists_of_result_bind_eq_ok h
  exact resolved_eq_of_ofFiles h

/-- Loads a model under its own configuration, which for a model that has none is looked for beside
its graph. -/
def load (library : Library) (source : ModelSource) (device : Device) (defaults : ResolvedConfig)
    (int32 : Bool) : Attempt LocalModel := do
  let files ← source.locate library
  let resolved ← match files.config with
    | some path => ResolvedConfig.ofFile library.tree path defaults
    | none => ResolvedConfig.ofModelDir library.tree (Path.parent files.graph) defaults
  ofFiles library.tree source.name files device resolved int32

def shape (model : LocalModel) : EncodingShape := .ofResolved model.resolved model.int32

/-- The tensors that the session is run on for a pair, if it comes to that. -/
def feeds (model : LocalModel) (premise hypothesis : String) : Except Error (List Feed) := do
  let input ← (model.tokenizer.encode premise hypothesis model.shape).mapError .data
  if input.isEmpty then .error (.data .noTokens)
  else input.feeds.mapError .data

def infer (model : LocalModel) (premise hypothesis : String) : Except Error Row := do
  let feeds ← model.feeds premise hypothesis
  let outputs ← (Runtime.run model.session feeds).mapError fun text => .inference (.graph text)
  Tensor.logits outputs

def backend (model : LocalModel) : Backend where
  name := model.name
  infer premise hypothesis :=
    ⟨Runtime.delay model.session premise hypothesis, model.infer premise hypothesis⟩

end LocalModel

end ZeroShot
