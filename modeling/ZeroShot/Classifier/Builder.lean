import ZeroShot.Classifier.Basic
import ZeroShot.Model.Local

/-! Setting up a classifier.

A builder holds what has been set so far, each time replacing what was there; nothing is read and
nothing can fail before the classifier is built. -/

namespace ZeroShot

inductive ConfigSource where
  | defaults
  | document (config : ModelConfig)
  | file (path : String)
  | modelDir (path : String)

def ConfigSource.resolve (tree : FileTree) (defaults : ResolvedConfig) :
    ConfigSource → Logged ResolvedConfig
  | .defaults => pure defaults
  | document config => config.resolve defaults
  | file path => ResolvedConfig.ofFile tree path defaults
  | modelDir path => ResolvedConfig.ofModelDir tree path defaults

structure Builder where
  backend : Option Backend := none
  options : Options := {}
  config : ConfigSource := .defaults
  graph : Option ModelSource := none
  device : Device := .cpu

inductive Setting where
  | backend (backend : Backend)
  | options (options : Options)
  | entailmentId (index : Nat)
  | contradictionId (index : Nat)
  | tokenTypeIds (enabled : Bool)
  | int32 (enabled : Bool)
  | hypothesisTemplate (template : String)
  | multiLabel (enabled : Bool)
  | maxConcurrency (limit : Nat)
  | config (source : ConfigSource)
  | graph (source : ModelSource)
  | device (device : Device)

namespace Builder

def set (b : Builder) : Setting → Builder
  | .backend backend => { b with backend := some backend }
  | .options options => { b with options }
  | .entailmentId index => { b with options.entailmentId := index }
  | .contradictionId index => { b with options.contradictionId := index }
  | .tokenTypeIds enabled => { b with options.tokenTypeIds := enabled }
  | .int32 enabled => { b with options.int32 := enabled }
  | .hypothesisTemplate template => { b with options.hypothesisTemplate := template }
  | .multiLabel enabled => { b with options.multiLabel := enabled }
  | .maxConcurrency limit => { b with options.maxConcurrency := limit }
  | .config source => { b with config := source }
  | .graph source => { b with graph := some source }
  | .device device => { b with device }

variable [Runtime]

/-- A model goes by its own configuration, unless one is given. -/
def loadModel (b : Builder) (library : Library) (source : ModelSource) : Attempt LocalModel := do
  let defaults := b.options.defaults
  match b.config with
  | .defaults => LocalModel.load library source b.device defaults b.options.int32
  | given =>
    let resolved ← given.resolve library.tree defaults
    LocalModel.loadWith library source b.device resolved b.options.int32

def build (b : Builder) (library : Library) : Attempt Classifier := do
  Attempt.ofExcept (b.options.validate.mapError .input)
  match b.graph, b.backend with
  | some _, some _ => throw (.setup .graphAndBackend)
  | some source, none =>
    let model ← b.loadModel library source
    return ⟨model.backend, model.resolved, b.options⟩
  | none, some backend =>
    let resolved ← b.config.resolve library.tree b.options.defaults
    return ⟨backend, resolved, b.options⟩
  | none, none => throw (.setup .noBackend)

theorem exists_model_of_build {b : Builder} {library : Library} {source : ModelSource}
    {c : Classifier} (hgraph : b.graph = some source) (h : (b.build library).result = .ok c) :
    ∃ model, (b.loadModel library source).result = .ok model ∧
      c = ⟨model.backend, model.resolved, b.options⟩ := by
  unfold build at h
  obtain ⟨-, -, h⟩ := Attempt.exists_of_result_bind_eq_ok h
  rw [hgraph] at h
  cases hbackend : b.backend with
  | some backend =>
    rw [hbackend] at h
    cases h
  | none =>
    rw [hbackend] at h
    obtain ⟨model, hmodel, h⟩ := Attempt.exists_of_result_bind_eq_ok h
    exact ⟨model, hmodel, (Except.ok.inj h).symm⟩

end Builder

end ZeroShot
