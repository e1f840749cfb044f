import ZeroShot.CommandLine.Run

/-! One configuration for all commands.

A configuration that is named on the command line or in the settings comes down to the same class
indices and token types whichever command asks, and a classifier reads its scores and shapes its
inputs by them. A directory is the exception: it stands for the configuration in it, except to a
classifier, which finds no configuration there and keeps the defaults. -/

namespace ZeroShot

open CommandLine

/-- Scores are read, and inputs shaped by a local model, as the configuration says. -/
structure Classifier.GoesBy [Runtime] (c : Classifier) (resolved : ResolvedConfig) (int32 : Bool) : Prop where
  resolved_eq : c.resolved = resolved
  exists_model : ∃ model : LocalModel, model.shape = .ofResolved resolved int32 ∧
    (c.backend = model.backend ∨ ∃ limit, c.backend = model.backend.withDeadline limit)

theorem FileTree.isFile_of_isDirectory {tree : FileTree} {path : String}
    (h : tree.isDirectory path = true) : tree.isFile path = false := by
  unfold isDirectory at h
  unfold isFile
  split at h
  · next hdir => rw [hdir]
  · cases h

theorem ResolvedConfig.value_ofFile_of_isDirectory {tree : FileTree} {path : String}
    (h : tree.isDirectory path = true) (defaults : ResolvedConfig) :
    (ofFile tree path defaults).value = defaults := by
  rw [ofFile, FileTree.isFile_of_isDirectory h]
  rfl

def ScoreTask.ranked (task : ScoreTask) (resolved : ResolvedConfig) : Except Error Ranking := do
  let logits ← (LogitMatrix.ofRows task.rows).mapError .shape
  rankLogits resolved task.text task.candidates logits task.multiLabel

theorem CommandLine.Run.ofExcept_ok_bind {α β : Type} (a : α) (f : α → Run β) :
    (Run.ofExcept (.ok a) >>= f) = f a := rfl

namespace Settings

variable {s t : Settings} {tree : FileTree} {path : String}

theorem resolve_of_not_isDirectory (s : Settings) (h : tree.isDirectory path = false) :
    s.resolve tree path = ResolvedConfig.ofFile tree path s.classifier.defaults := by
  rw [resolve, h]
  rfl

theorem resolve_congr (h : t.classifier.defaults = s.classifier.defaults) (tree : FileTree)
    (path : String) : t.resolve tree path = s.resolve tree path := by
  rw [resolve, resolve, h]

theorem scoreConfig_unnamed (h : s.model.config = some path) (tree : FileTree) :
    s.scoreConfig tree none = s.resolve tree path := by
  rw [scoreConfig, h]
  rfl

theorem result_runScore {surroundings : Surroundings} {input modelConfig : Option String}
    {document : String} {task : ScoreTask}
    (hdocument : scoreDocument surroundings input = .ok document)
    (htask : ScoreTask.ofString? document = some task) (s : Settings) :
    (runScore surroundings s input modelConfig).result =
      (task.ranked (s.scoreConfig surroundings.library.tree modelConfig).value).mapError
        .error := by
  rw [runScore, hdocument, Run.ofExcept_ok_bind, htask]
  rfl

theorem loadModel_of_config [Runtime] (h : s.model.config = some path) (library : Library)
    (source : ModelSource) (device : Device) :
    s.loadModel library source device = (do
      let resolved ← ResolvedConfig.ofFile library.tree path s.classifier.defaults
      LocalModel.loadWith library source device resolved s.classifier.int32) := by
  rw [loadModel, h]

theorem goesBy_of_loadClassifier [Runtime] (h : s.model.config = some path) {library : Library}
    {repo dir : Option String} {c : Classifier}
    (hc : (s.loadClassifier library repo dir).result = .ok c) :
    c.GoesBy (ResolvedConfig.ofFile library.tree path s.classifier.defaults).value
      s.classifier.int32 := by
  obtain ⟨source, device, model, -, hmodel, hresolved, -, hbackend⟩ :=
    exists_model_of_loadClassifier hc
  rw [loadModel_of_config h] at hmodel
  obtain ⟨resolved, hvalue, hmodel⟩ := Attempt.exists_of_result_bind_eq_ok hmodel
  obtain rfl : (ResolvedConfig.ofFile library.tree path s.classifier.defaults).value = resolved :=
    Except.ok.inj hvalue
  obtain ⟨hgoes, hwidth⟩ := LocalModel.resolved_eq_of_loadWith hmodel
  -- a deadline changes when a call is over, not what its inputs are
  exact ⟨hresolved.trans hgoes, model, by rw [LocalModel.shape, hgoes, hwidth], hbackend⟩

/-- A configuration that is no directory means one thing to all commands. A directory means the
configuration in it where it is shown and where given logits are scored, and the defaults where a
model is loaded. -/
theorem commands_share_configuration [Runtime] (surroundings : Surroundings) (s t : Settings) (path : String)
    (hconfig : s.model.config = some path)
    (hdefaults : t.classifier.defaults = s.classifier.defaults) :
    let library := surroundings.library
    let shared := s.resolve library.tree path
    ((Command.resolve path).run surroundings t).result = .ok (.config shared.value) ∧
    (∀ input, runScore surroundings s input none = runScore surroundings t input (some path)) ∧
    (∀ input document task, scoreDocument surroundings input = .ok document →
      ScoreTask.ofString? document = some task →
        (runScore surroundings s input none).result =
          (task.ranked shared.value).mapError .error) ∧
    (library.tree.isDirectory path = false →
      (∀ source device, s.loadModel library source device = (do
        let resolved ← shared
        LocalModel.loadWith library source device resolved s.classifier.int32)) ∧
      ∀ repo dir c, (s.loadClassifier library repo dir).result = .ok c →
        c.GoesBy shared.value s.classifier.int32) ∧
    (library.tree.isDirectory path = true →
      ∀ repo dir c, (s.loadClassifier library repo dir).result = .ok c →
        c.GoesBy s.classifier.defaults s.classifier.int32) := by
  intro library shared
  have hshown : t.resolve library.tree path = shared := resolve_congr hdefaults _ _
  have hunnamed : s.scoreConfig library.tree none = shared := scoreConfig_unnamed hconfig _
  have hnamed : t.scoreConfig library.tree (some path) = shared := hshown
  refine ⟨?_, ?_, ?_, ?_, ?_⟩
  · rw [← hshown]
    rfl
  · intro input
    rw [runScore, runScore, hunnamed, hnamed]
  · intro input document task hdocument htask
    rw [result_runScore hdocument htask, hunnamed]
  · intro hfile
    have hshared : shared = ResolvedConfig.ofFile library.tree path s.classifier.defaults :=
      s.resolve_of_not_isDirectory hfile
    rw [hshared]
    exact ⟨loadModel_of_config hconfig library, fun _ _ _ => goesBy_of_loadClassifier hconfig⟩
  · intro hdirectory repo dir c hc
    have hgoes := goesBy_of_loadClassifier hconfig hc
    rwa [ResolvedConfig.value_ofFile_of_isDirectory hdirectory] at hgoes

def sampleTree : FileTree where
  working := []
  files :=
    [(["m", "model.onnx"], "\x7b\"inputs\":[]\x7d".toUTF8),
     (["m", "tokenizer.json"],
      ("\x7b\"model\":\x7b\"type\":\"WordLevel\",\"vocab\":\x7b\x7d,"
        ++ "\"unk_token\":\"\"\x7d\x7d").toUTF8),
     (["c", "config.json"], "\x7b\x7d".toUTF8)]
  directories := []

def sampleSurroundings : Surroundings := ⟨⟨sampleTree, "cache"⟩, none, none⟩

def sampleSettings (config : String) : Settings :=
  { classifier := { tokenTypeIds := true }, model := { config := some config } }

theorem commands_share_configuration_file :
    (sampleSettings "c/config.json").model.config = some "c/config.json" ∧
    sampleTree.isDirectory "c/config.json" = false ∧
    ((Command.resolve "c/config.json").run sampleSurroundings (sampleSettings "m")).result =
      .ok (.config {}) ∧
    ∃ c, ((sampleSettings "c/config.json").loadClassifier sampleSurroundings.library none
      (some "m")).result = .ok c ∧ c.GoesBy {} false := by
  have hfile : sampleTree.isDirectory "c/config.json" = false := by decide +kernel
  have hshared : ((sampleSettings "c/config.json").resolve sampleTree "c/config.json").value = {} :=
    rfl
  have hloaded : ((sampleSettings "c/config.json").loadClassifier sampleSurroundings.library none
      (some "m")).result.toOption.map Classifier.resolved = some {} := by decide +kernel
  obtain ⟨c, hc, -⟩ := exists_of_map_toOption hloaded
  obtain ⟨hshown, -, -, hclassifier, -⟩ := commands_share_configuration sampleSurroundings
    (sampleSettings "c/config.json") (sampleSettings "m") "c/config.json" rfl rfl
  rw [show sampleSurroundings.library.tree = sampleTree from rfl, hshared] at hshown
  have hgoes := (hclassifier hfile).2 none (some "m") c hc
  rw [show sampleSurroundings.library.tree = sampleTree from rfl, hshared] at hgoes
  exact ⟨rfl, hfile, hshown, c, hc, hgoes⟩

/-- A classifier uses token types by default, though the configuration in the directory that the
settings name is without them and is what the other commands go by. -/
theorem directory_hidden_from_classifier :
    ((Command.resolve "c").run sampleSurroundings (sampleSettings "c")).result = .ok (.config {}) ∧
    ((sampleSettings "c").scoreConfig sampleTree none).value = {} ∧
    ((sampleSettings "c").scoreConfig sampleTree (some "c")).value = {} ∧
    ∃ c, ((sampleSettings "c").loadClassifier sampleSurroundings.library none (some "m")).result =
      .ok c ∧ c.resolved = { useTokenType := true } := by
  have hloaded : ((sampleSettings "c").loadClassifier sampleSurroundings.library none
      (some "m")).result.toOption.map Classifier.resolved = some { useTokenType := true } := by
    decide +kernel
  exact ⟨rfl, rfl, rfl, exists_of_map_toOption hloaded⟩

end Settings

end ZeroShot
