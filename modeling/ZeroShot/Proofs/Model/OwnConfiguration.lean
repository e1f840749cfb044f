import ZeroShot.Classifier.Builder
import ZeroShot.Proofs.Config.Fallback
import ZeroShot.Proofs.Files.Walk

/-! The configuration of a model in a directory.

A model that is loaded without a configuration goes by the one in its directory, and without one
there by the defaults, as it does when the directory is named for its configuration as well. The
exception is a directory with its graph in the folder below it: a configuration in that folder is
found beside the graph, if there is none where it belongs. -/

namespace ZeroShot

/-- The same value, and each metric counted as often; what is logged may differ. -/
structure Logged.Agrees (m n : Logged α) : Prop where
  value_eq : m.value = n.value
  countOf_eq : ∀ metric, countOf metric m.events = countOf metric n.events

namespace Logged.Agrees

theorem refl (m : Logged α) : m.Agrees m := ⟨rfl, fun _ => rfl⟩

theorem trans {l m n : Logged α} (h : l.Agrees m) (hmn : m.Agrees n) : l.Agrees n :=
  ⟨h.value_eq.trans hmn.value_eq, fun metric => (h.countOf_eq metric).trans (hmn.countOf_eq metric)⟩

theorem bind {m n : Logged α} {f g : α → Logged β} (h : m.Agrees n)
    (hf : (f m.value).Agrees (g m.value)) : (m >>= f).Agrees (n >>= g) := by
  obtain ⟨value, events⟩ := n
  obtain ⟨rfl, hcount⟩ := h
  refine ⟨hf.value_eq, fun metric => ?_⟩
  rw [events_bind, events_bind, countOf_append, countOf_append, hcount, hf.countOf_eq]

end Logged.Agrees

namespace Attempt

def Agrees (a b : Attempt α) : Prop := (ExceptT.run a).Agrees (ExceptT.run b)

theorem Agrees.refl (a : Attempt α) : a.Agrees a := Logged.Agrees.refl _

theorem Agrees.result_eq {a b : Attempt α} (h : a.Agrees b) : a.result = b.result := h.value_eq

theorem Agrees.countOf_eq {a b : Attempt α} (h : a.Agrees b) (metric : Metric) :
    countOf metric a.events = countOf metric b.events := Logged.Agrees.countOf_eq h metric

theorem Agrees.bind {a b : Attempt α} {f g : α → Attempt β} (h : a.Agrees b)
    (hf : ∀ x, a.result = .ok x → (f x).Agrees (g x)) : (a >>= f).Agrees (b >>= g) := by
  refine Logged.Agrees.bind h ?_
  change (ExceptT.bindCont f a.result).Agrees (ExceptT.bindCont g a.result)
  cases hresult : a.result with
  | error e => exact Logged.Agrees.refl _
  | ok x => exact hf x hresult

theorem agrees_lift {m n : Logged α} (h : m.Agrees n) :
    (liftM m : Attempt α).Agrees (liftM n) :=
  Logged.Agrees.bind h (Logged.Agrees.refl _)

theorem countOf_lift_bind (m : Logged α) (f : α → Attempt β) (metric : Metric) :
    countOf metric ((liftM m : Attempt α) >>= f).events =
      countOf metric m.events + countOf metric (f m.value).events := by
  have hevents : ((liftM m : Attempt α) >>= f).events =
      (m.events ++ []) ++ (f m.value).events := rfl
  rw [hevents, countOf_append, List.append_nil]

end Attempt

namespace ResolvedConfig

variable {tree : FileTree} {path other : String}

theorem agrees_ofFile (h : tree.find? path = tree.find? other) (defaults : ResolvedConfig) :
    (ofFile tree path defaults).Agrees (ofFile tree other defaults) := by
  have hfile : tree.isFile path = tree.isFile other := by
    rw [FileTree.isFile, FileTree.isFile, h]
  have hread (config : ModelConfig) :
      ModelConfig.ofFile tree path = .ok config ↔ ModelConfig.ofFile tree other = .ok config := by
    rw [ModelConfig.ofFile_eq_ok_iff, ModelConfig.ofFile_eq_ok_iff, FileTree.read?,
      FileTree.read?, h]
  cases hpath : ModelConfig.ofFile tree path with
  | ok config =>
    rw [ofFile_of_config hpath, ofFile_of_config ((hread config).1 hpath)]
    exact (Logged.Agrees.refl _).bind ⟨rfl, fun _ => rfl⟩
  | error fault =>
    cases hisFile : tree.isFile other with
    | false =>
      rw [ofFile_of_not_isFile (hfile.trans hisFile), ofFile_of_not_isFile hisFile]
      exact ⟨rfl, fun _ => rfl⟩
    | true =>
      cases hother : ModelConfig.ofFile tree other with
      | ok config => cases hpath.symm.trans ((hread config).2 hother)
      | error fault' =>
        rw [ofFile_of_fault (hfile.trans hisFile) hpath, ofFile_of_fault hisFile hother]
        exact ⟨rfl, fun _ => rfl⟩

theorem countOf_missing_ofFile (tree : FileTree) (path : String) (defaults : ResolvedConfig) :
    countOf (.configFallbacks .missing) (ofFile tree path defaults).events =
      if tree.isFile path then 0 else 1 := by
  cases hfile : tree.isFile path with
  | false => exact countOf_ofFile_of_not_isFile hfile defaults _
  | true =>
    cases hread : ModelConfig.ofFile tree path with
    | ok config => exact unmetered_ofFile_of_config hread defaults _
    | error fault => exact countOf_ofFile_of_fault hfile hread defaults _

theorem agrees_ofModelDir {dir other : String}
    (hsteps : FileTree.properSteps dir = FileTree.properSteps other)
    (habsolute : Path.isAbsolute dir = Path.isAbsolute other) (defaults : ResolvedConfig) :
    (ofModelDir tree dir defaults).Agrees (ofModelDir tree other defaults) :=
  agrees_ofFile (tree.find?_join_congr ⟨rfl, by decide⟩ hsteps habsolute) defaults

end ResolvedConfig

namespace ModelSource

variable {tree : FileTree} {dir : String} {files : ModelFiles}

/-- The only configuration is in the folder below the directory, beside its only graph. -/
structure NestedOnly (tree : FileTree) (dir : String) : Prop where
  no_config : tree.isFile (Path.join dir ModelConfig.fileName) = false
  no_graph : tree.isFile (Path.join dir "model.onnx") = false
  config : tree.isFile (Path.join (Path.join dir "onnx") ModelConfig.fileName) = true

theorem exists_graph_of_inDirectory (h : inDirectory tree dir = .ok files) :
    ∃ graph, (graphNames.map (Path.join dir)).find? tree.isFile = some graph ∧
      files = ⟨graph, Path.join dir tokenizerName,
        if tree.isFile (Path.join dir ModelConfig.fileName) then
          some (Path.join dir ModelConfig.fileName) else none⟩ := by
  unfold inDirectory at h
  split at h
  · cases h
  · split at h
    · cases h
    · next graph hgraph =>
      dsimp only at h
      split at h
      · cases h
      · exact ⟨graph, hgraph, (Except.ok.inj h).symm⟩

theorem config_of_inDirectory (h : inDirectory tree dir = .ok files) :
    files.config = if tree.isFile (Path.join dir ModelConfig.fileName) then
      some (Path.join dir ModelConfig.fileName) else none := by
  obtain ⟨graph, -, rfl⟩ := exists_graph_of_inDirectory h
  rfl

theorem graph_of_inDirectory (h : inDirectory tree dir = .ok files) :
    tree.isFile (Path.join dir "model.onnx") = true ∧ files.graph = Path.join dir "model.onnx" ∨
      tree.isFile (Path.join dir "model.onnx") = false ∧
        files.graph = Path.join dir "onnx/model.onnx" := by
  obtain ⟨graph, hgraph, rfl⟩ := exists_graph_of_inDirectory h
  cases hfile : tree.isFile (Path.join dir "model.onnx") with
  | true =>
    left
    simpa [graphNames, hfile] using hgraph.symm
  | false =>
    right
    simp only [graphNames, List.map_cons, List.find?_cons, hfile] at hgraph
    split at hgraph
    · exact ⟨rfl, (Option.some.inj hgraph).symm⟩
    · cases hgraph

end ModelSource

namespace ModelFiles

variable {tree : FileTree} {dir : String} {files : ModelFiles}

def resolve (tree : FileTree) (files : ModelFiles) (defaults : ResolvedConfig) :
    Logged ResolvedConfig :=
  match files.config with
  | some path => ResolvedConfig.ofFile tree path defaults
  | none => ResolvedConfig.ofModelDir tree (Path.parent files.graph) defaults

open ModelSource

theorem resolve_of_config {path : String} (h : files.config = some path)
    (defaults : ResolvedConfig) :
    files.resolve tree defaults = ResolvedConfig.ofFile tree path defaults := by
  rw [resolve, h]

theorem agrees_resolve_beside {place : String}
    (hsteps : FileTree.properSteps place = (FileTree.properSteps files.graph).dropLast)
    (habsolute : Path.isAbsolute place = Path.isAbsolute files.graph)
    (hconfig : files.config = none) (defaults : ResolvedConfig) :
    (files.resolve tree defaults).Agrees (ResolvedConfig.ofModelDir tree place defaults) := by
  rw [resolve, hconfig]
  exact ResolvedConfig.agrees_ofModelDir ((Path.properSteps_parent _).trans hsteps.symm)
    ((Path.isAbsolute_parent _).trans habsolute.symm) defaults

theorem agrees_resolve_nested (hgraph : files.graph = Path.join dir "onnx/model.onnx")
    (hconfig : files.config = none) (defaults : ResolvedConfig) :
    (files.resolve tree defaults).Agrees
      (ResolvedConfig.ofModelDir tree (Path.join dir "onnx") defaults) := by
  refine agrees_resolve_beside ?_ ?_ hconfig defaults
  · have hname : FileTree.properSteps "onnx/model.onnx" = ["onnx"] ++ ["model.onnx"] := by decide
    rw [hgraph, Path.properSteps_join (by decide), Path.properSteps_join (by decide), hname,
      ← List.append_assoc, List.dropLast_concat]
    rfl
  · rw [hgraph, Path.isAbsolute_join (by decide), Path.isAbsolute_join (by decide)]

theorem agrees_resolve (h : inDirectory tree dir = .ok files) (hnested : ¬NestedOnly tree dir)
    (defaults : ResolvedConfig) :
    (files.resolve tree defaults).Agrees (ResolvedConfig.ofModelDir tree dir defaults) := by
  have hconfig := config_of_inDirectory h
  cases hfile : tree.isFile (Path.join dir ModelConfig.fileName) with
  | true =>
    rw [hfile] at hconfig
    rw [resolve_of_config hconfig]
    exact .refl _
  | false =>
    rw [hfile] at hconfig
    rcases graph_of_inDirectory h with ⟨-, hgraph⟩ | ⟨hnone, hgraph⟩
    · refine agrees_resolve_beside ?_ ?_ hconfig defaults
      · rw [hgraph, Path.properSteps_join (by decide)]
        exact List.dropLast_concat.symm
      · rw [hgraph, Path.isAbsolute_join (by decide)]
    · have hbelow : tree.isFile (Path.join (Path.join dir "onnx") ModelConfig.fileName) = false :=
        Bool.eq_false_iff.2 fun hconfig => hnested ⟨hfile, hnone, hconfig⟩
      -- the folder below has none either, so the defaults are kept for both
      refine (agrees_resolve_nested hgraph hconfig defaults).trans ?_
      rw [ResolvedConfig.ofModelDir, ResolvedConfig.ofModelDir,
        ResolvedConfig.ofFile_of_not_isFile hbelow, ResolvedConfig.ofFile_of_not_isFile hfile]
      exact ⟨rfl, fun _ => rfl⟩

theorem agrees_resolve_of_nestedOnly (h : inDirectory tree dir = .ok files)
    (hnested : NestedOnly tree dir) (defaults : ResolvedConfig) :
    (files.resolve tree defaults).Agrees
      (ResolvedConfig.ofModelDir tree (Path.join dir "onnx") defaults) := by
  have hconfig := config_of_inDirectory h
  rw [hnested.no_config] at hconfig
  rcases graph_of_inDirectory h with ⟨hgraph, -⟩ | ⟨-, hgraph⟩
  · cases hgraph.symm.trans hnested.no_graph
  · exact agrees_resolve_nested hgraph hconfig defaults

end ModelFiles

namespace LocalModel

variable [Runtime]

theorem load_eq (library : Library) (source : ModelSource) (device : Device)
    (defaults : ResolvedConfig) (int32 : Bool) :
    load library source device defaults int32 = (do
      let files ← source.locate library
      let resolved ← files.resolve library.tree defaults
      ofFiles library.tree source.name files device resolved int32) := by
  unfold load
  refine bind_congr fun files => ?_
  unfold ModelFiles.resolve
  cases files.config <;> rfl

theorem countOf_ofFiles (tree : FileTree) (name : String) (files : ModelFiles) (device : Device)
    (resolved : ResolvedConfig) (int32 : Bool) (metric : Metric) :
    countOf metric (ofFiles tree name files device resolved int32).events = 0 := by
  unfold ofFiles
  cases Runtime.openSession tree files.graph device with
  | error reason => rfl
  | ok session => cases Tokenizer.ofFile tree files.tokenizer <;> rfl

end LocalModel

/-- A model in the directory that is not given a configuration goes by the one in the place. -/
structure ModelSource.GoesBy [Runtime] (library : Library) (dir place : String) : Prop where
  result_load : ∀ device defaults int32,
    (LocalModel.load library (.directory dir) device defaults int32).result =
      (LocalModel.loadWith library (.directory dir) device
        (ResolvedConfig.ofModelDir library.tree place defaults).value int32).result
  countOf_load : ∀ device defaults int32 metric,
    countOf metric (LocalModel.load library (.directory dir) device defaults int32).events =
      countOf metric (ResolvedConfig.ofModelDir library.tree place defaults).events
  build : ∀ b : Builder, b.config = .defaults → b.graph = some (.directory dir) →
    (b.build library).Agrees ((b.set (.config (.modelDir place))).build library)

namespace ModelSource

section

variable [Runtime] {library : Library} {dir place : String} {files : ModelFiles}

theorem locate_directory (h : inDirectory library.tree dir = .ok files) :
    locate library (.directory dir) = pure files := by
  rw [locate, h]
  rfl

theorem loadWith_directory (h : inDirectory library.tree dir = .ok files) (device : Device)
    (resolved : ResolvedConfig) (int32 : Bool) :
    LocalModel.loadWith library (.directory dir) device resolved int32 =
      LocalModel.ofFiles library.tree (name (.directory dir)) files device resolved int32 := by
  rw [LocalModel.loadWith, locate_directory h]
  rfl

theorem load_agrees (hfiles : inDirectory library.tree dir = .ok files) {defaults : ResolvedConfig}
    (h : (files.resolve library.tree defaults).Agrees
      (ResolvedConfig.ofModelDir library.tree place defaults)) (device : Device) (int32 : Bool) :
    (LocalModel.load library (.directory dir) device defaults int32).Agrees (do
      let resolved ← ResolvedConfig.ofModelDir library.tree place defaults
      LocalModel.loadWith library (.directory dir) device resolved int32) := by
  simp only [LocalModel.load_eq, locate_directory hfiles, loadWith_directory hfiles]
  exact (Attempt.agrees_lift h).bind fun _ _ => .refl _

theorem goesBy_of_resolve (hfiles : inDirectory library.tree dir = .ok files)
    (h : ∀ defaults, (files.resolve library.tree defaults).Agrees
      (ResolvedConfig.ofModelDir library.tree place defaults)) : GoesBy library dir place where
  result_load device defaults int32 := (load_agrees hfiles (h defaults) device int32).result_eq
  countOf_load device defaults int32 metric := by
    rw [(load_agrees hfiles (h defaults) device int32).countOf_eq, Attempt.countOf_lift_bind,
      loadWith_directory hfiles, LocalModel.countOf_ofFiles, Nat.add_zero]
  build b hconfig hgraph := by
    obtain ⟨backend, options, config, graph, device⟩ := b
    obtain rfl : config = .defaults := hconfig
    obtain rfl : graph = some (.directory dir) := hgraph
    refine (Attempt.Agrees.refl _).bind fun _ _ => ?_
    cases backend with
    | some backend => exact .refl _
    | none =>
      exact (load_agrees hfiles (h options.defaults) device options.int32).bind fun _ _ => .refl _

theorem GoesBy.resolved_eq_of_load (h : GoesBy library dir place) {device : Device}
    {defaults : ResolvedConfig} {int32 : Bool} {model : LocalModel}
    (hmodel : (LocalModel.load library (.directory dir) device defaults int32).result = .ok model) :
    model.resolved = (ResolvedConfig.ofModelDir library.tree place defaults).value :=
  (LocalModel.resolved_eq_of_loadWith ((h.result_load ..).symm.trans hmodel)).1

theorem GoesBy.resolved_eq_of_build (h : GoesBy library dir place) {b : Builder}
    (hconfig : b.config = .defaults) (hgraph : b.graph = some (.directory dir)) {c : Classifier}
    (hc : (b.build library).result = .ok c) :
    c.resolved = (ResolvedConfig.ofModelDir library.tree place b.options.defaults).value := by
  obtain ⟨model, hmodel, rfl⟩ := Builder.exists_model_of_build hgraph hc
  rw [Builder.loadModel, hconfig] at hmodel
  exact h.resolved_eq_of_load hmodel

/-- A configuration that is found counts no fallback for want of one. -/
theorem GoesBy.not_nestedOnly (h : GoesBy library dir dir)
    (hfiles : inDirectory library.tree dir = .ok files) : ¬NestedOnly library.tree dir := by
  intro hnested
  have hbelow := goesBy_of_resolve hfiles fun defaults =>
    ModelFiles.agrees_resolve_of_nestedOnly hfiles hnested defaults
  have hcount := (h.countOf_load .cpu {} false (.configFallbacks .missing)).symm.trans
    (hbelow.countOf_load .cpu {} false (.configFallbacks .missing))
  rw [ResolvedConfig.ofModelDir, ResolvedConfig.ofModelDir, ResolvedConfig.countOf_missing_ofFile,
    ResolvedConfig.countOf_missing_ofFile, hnested.no_config, hnested.config] at hcount
  cases hcount

/-- A model in a directory goes by the configuration there, so by the defaults, with a fallback
counted, if there is none. The exception is a graph in the folder below with a configuration beside
it, which the model goes by then. -/
theorem directory_goes_by_own_configuration (library : Library) (dir : String) (files : ModelFiles)
    (hfiles : inDirectory library.tree dir = .ok files) :
    let tree := library.tree
    let own := ResolvedConfig.ofModelDir tree dir
    (GoesBy library dir dir ↔ ¬NestedOnly tree dir) ∧
    (¬NestedOnly tree dir →
      (∀ device defaults int32 model,
        (LocalModel.load library (.directory dir) device defaults int32).result = .ok model →
          model.resolved = (own defaults).value) ∧
      ∀ b : Builder, b.config = .defaults → b.graph = some (.directory dir) →
        ∀ c, (b.build library).result = .ok c → c.resolved = (own b.options.defaults).value) ∧
    (tree.isFile (Path.join dir ModelConfig.fileName) = false → ∀ defaults,
      (own defaults).value = defaults ∧ ∀ metric, countOf metric (own defaults).events =
        if metric = .configFallbacks .missing then 1 else 0) ∧
    (NestedOnly tree dir → GoesBy library dir (Path.join dir "onnx")) := by
  intro tree own
  have hgoes (hnested : ¬NestedOnly tree dir) : GoesBy library dir dir :=
    goesBy_of_resolve hfiles fun defaults => ModelFiles.agrees_resolve hfiles hnested defaults
  refine ⟨⟨fun h => h.not_nestedOnly hfiles, hgoes⟩, fun hnested => ⟨?_, ?_⟩,
    fun hfile defaults => ?_, fun hnested => ?_⟩
  · intro device defaults int32 model hmodel
    exact (hgoes hnested).resolved_eq_of_load hmodel
  · intro b hconfig hgraph c hc
    exact (hgoes hnested).resolved_eq_of_build hconfig hgraph hc
  · exact ⟨congrArg Logged.value (ResolvedConfig.ofFile_of_not_isFile hfile defaults),
      ResolvedConfig.countOf_ofFile_of_not_isFile hfile defaults⟩
  · exact goesBy_of_resolve hfiles fun defaults =>
      ModelFiles.agrees_resolve_of_nestedOnly hfiles hnested defaults

end

def nestedLibrary (config : Option String) : Library where
  tree :=
    { working := []
      files :=
        [(["m", "onnx", "model.onnx"], "\x7b\"inputs\":[]\x7d".toUTF8),
         (["m", "tokenizer.json"],
          ("\x7b\"model\":\x7b\"type\":\"WordLevel\",\"vocab\":\x7b\x7d,"
            ++ "\"unk_token\":\"\"\x7d\x7d").toUTF8)]
          ++ config.toList.map fun text => (["m", "onnx", "config.json"], text.toUTF8)
      directories := [] }
  cache := "cache"

theorem directory_goes_by_own_configuration_nested_graph :
    let library := nestedLibrary none
    let b : Builder := { options := { entailmentId := 1 }, graph := some (.directory "./m/.") }
    inDirectory library.tree "./m/." =
      .ok ⟨"./m/./onnx/model.onnx", "./m/./tokenizer.json", none⟩ ∧
    ¬NestedOnly library.tree "./m/." ∧ GoesBy library "./m/." "./m/." ∧
    library.tree.isFile "./m/./config.json" = false ∧
    ∃ c, (b.build library).result = .ok c ∧ c.resolved = { indices := ⟨1, 0⟩ } := by
  intro library b
  have hfiles : inDirectory library.tree "./m/." =
      .ok ⟨"./m/./onnx/model.onnx", "./m/./tokenizer.json", none⟩ := by rfl
  have hnested : ¬NestedOnly library.tree "./m/." := by
    intro h
    exact absurd h.config (by decide +kernel)
  have hmissing : library.tree.isFile "./m/./config.json" = false := by decide +kernel
  have hbuilt : (b.build library).result.toOption.map (fun _ => ()) = some () := by decide +kernel
  obtain ⟨hgoes, hown, hdefaults, -⟩ :=
    directory_goes_by_own_configuration library "./m/." _ hfiles
  obtain ⟨c, hc, -⟩ := exists_of_map_toOption hbuilt
  exact ⟨hfiles, hnested, hgoes.2 hnested, hmissing, c, hc,
    ((hown hnested).2 b rfl rfl c hc).trans (hdefaults hmissing _).1⟩

/-- There is no configuration in the directory, whose own is then the defaults, and the model goes
by the one in the folder below. -/
theorem nested_configuration_goes_first :
    let library := nestedLibrary (some "\x7b\"label2id\":\x7b\"entailment\":1\x7d\x7d")
    let own := ResolvedConfig.ofModelDir library.tree "m" {}
    let loaded := LocalModel.load library (.directory "m") .cpu {} false
    inDirectory library.tree "m" = .ok ⟨"m/onnx/model.onnx", "m/tokenizer.json", none⟩ ∧
    own.value = {} ∧ countOf (.configFallbacks .missing) own.events = 1 ∧
    countOf (.configFallbacks .missing) loaded.events = 0 ∧
    ∃ model, loaded.result = .ok model ∧ model.resolved = { indices := ⟨1, 0⟩ } := by
  intro library own loaded
  have hloaded : loaded.result.toOption.map LocalModel.resolved =
      some { indices := ⟨1, 0⟩ } := by
    decide +kernel
  refine ⟨rfl, ?_, ?_, ?_, exists_of_map_toOption hloaded⟩
  · decide +kernel
  · decide +kernel
  · decide +kernel

end ModelSource

end ZeroShot
