import ZeroShot.Config.File

/-! Model configurations that cannot be read.

A configuration in a file can be read in two ways. One fails where there is no configuration, and
says why; the other keeps the defaults there and counts a fallback. Both agree on every file: the
defaults are kept, and one fallback is counted, exactly where the first way fails. -/

namespace ZeroShot

def Logged.Unmetered (m : Logged α) : Prop := ∀ metric, countOf metric m.events = 0

namespace Logged

theorem unmetered_pure (a : α) : (pure a : Logged α).Unmetered := fun _ => rfl

theorem unmetered_tell {event : Event} (h : event.counts = []) : (tell event).Unmetered := by
  intro metric
  rw [events_tell, countOf_cons, h]
  rfl

theorem Unmetered.bind {m : Logged α} {f : α → Logged β} (hm : m.Unmetered)
    (hf : (f m.value).Unmetered) : (m >>= f).Unmetered := by
  intro metric
  rw [events_bind, countOf_append, hm, hf]

end Logged

open Logged

namespace ModelConfig

theorem unmetered_usableLabels (labels : List (String × Json)) :
    (usableLabels labels).Unmetered := by
  induction labels with
  | nil => exact unmetered_pure _
  | cons entry rest ih =>
    obtain ⟨label, value⟩ := entry
    rw [usableLabels]
    split
    · exact ih.bind (unmetered_pure _)
    · exact (unmetered_tell rfl).bind ih

theorem unmetered_applyLabels (indices : ClassIndices) (seen : List ClassRole)
    (labels : List (String × Nat)) : (applyLabels indices seen labels).Unmetered := by
  induction labels generalizing indices seen with
  | nil => exact unmetered_pure _
  | cons entry rest ih =>
    obtain ⟨label, id⟩ := entry
    rw [applyLabels]
    split
    · exact ih indices seen
    · next role _ =>
      have hrest := ih (indices.set role id) (role :: seen)
      split
      · exact (unmetered_tell rfl).bind hrest
      · exact (unmetered_pure _).bind hrest

theorem unmetered_resolve (config : ModelConfig) (defaults : ResolvedConfig) :
    (config.resolve defaults).Unmetered := by
  refine (unmetered_usableLabels _).bind ((unmetered_applyLabels _ _ _).bind ?_)
  split
  · exact (unmetered_tell rfl).bind (unmetered_pure _)
  · exact unmetered_pure _

variable {tree : FileTree} {path : String}

/-- Nothing but a file of UTF-8 text that is a configuration is read as one. -/
theorem ofFile_eq_ok_iff {config : ModelConfig} :
    ofFile tree path = .ok config ↔ ∃ bytes text, tree.read? path = some bytes ∧
      String.fromUTF8? bytes = some text ∧ ofString? text = some config := by
  unfold ofFile FileTree.readText?
  cases tree.read? path with
  | none => simp
  | some bytes =>
    cases htext : String.fromUTF8? bytes with
    | none => simp [htext]
    | some text => cases hconfig : ofString? text <;> simp [htext, hconfig]

theorem isFile_of_ofFile_eq_ok {config : ModelConfig} (h : ofFile tree path = .ok config) :
    tree.isFile path = true := by
  obtain ⟨bytes, -, hbytes, -⟩ := ofFile_eq_ok_iff.1 h
  rw [FileTree.isFile_eq_isSome_read?, hbytes]
  rfl

theorem ofFile_of_not_isFile (h : tree.isFile path = false) :
    ofFile tree path = .error (.unreadable path) := by
  rw [FileTree.isFile_eq_isSome_read?, Option.isSome_eq_false_iff, Option.isNone_iff_eq_none] at h
  rw [ofFile, FileTree.readText?, h]
  rfl

theorem fault_of_ofFile_eq_error {fault : ConfigFault} (h : ofFile tree path = .error fault) :
    fault = .unreadable path ∨ fault = .malformedFile path := by
  unfold ofFile at h
  split at h
  · exact .inl (Except.error.inj h).symm
  · split at h
    · cases h
    · exact .inr (Except.error.inj h).symm

end ModelConfig

namespace ResolvedConfig

variable {tree : FileTree} {path : String}

theorem ofFile_of_not_isFile (h : tree.isFile path = false) (defaults : ResolvedConfig) :
    ofFile tree path defaults = ⟨defaults, [.configMissing path]⟩ := by
  rw [ofFile, h]
  rfl

theorem ofFile_of_fault (hfile : tree.isFile path = true) {fault : ConfigFault}
    (h : ModelConfig.ofFile tree path = .error fault) (defaults : ResolvedConfig) :
    ofFile tree path defaults = ⟨defaults, [.configMalformed path]⟩ := by
  rw [ofFile, hfile, h]
  rfl

theorem ofFile_of_config {config : ModelConfig} (h : ModelConfig.ofFile tree path = .ok config)
    (defaults : ResolvedConfig) :
    ofFile tree path defaults = (do
      let resolved ← config.resolve defaults
      Logged.tell (.configResolved path resolved)
      pure resolved) := by
  rw [ofFile, ModelConfig.isFile_of_ofFile_eq_ok h, h]
  rfl

theorem value_ofFile_of_config {config : ModelConfig}
    (h : ModelConfig.ofFile tree path = .ok config) (defaults : ResolvedConfig) :
    (ofFile tree path defaults).value = (config.resolve defaults).value := by
  rw [ofFile_of_config h]
  rfl

theorem countOf_ofFile_of_not_isFile (h : tree.isFile path = false) (defaults : ResolvedConfig)
    (metric : Metric) : countOf metric (ofFile tree path defaults).events =
      if metric = .configFallbacks .missing then 1 else 0 := by
  rw [ofFile_of_not_isFile h]
  exact countOf_singleton rfl metric

theorem countOf_ofFile_of_fault (hfile : tree.isFile path = true) {fault : ConfigFault}
    (h : ModelConfig.ofFile tree path = .error fault) (defaults : ResolvedConfig)
    (metric : Metric) : countOf metric (ofFile tree path defaults).events =
      if metric = .configFallbacks .malformed then 1 else 0 := by
  rw [ofFile_of_fault hfile h]
  exact countOf_singleton rfl metric

theorem unmetered_ofFile_of_config {config : ModelConfig}
    (h : ModelConfig.ofFile tree path = .ok config) (defaults : ResolvedConfig) :
    (ofFile tree path defaults).Unmetered := by
  rw [ofFile_of_config h]
  exact (config.unmetered_resolve defaults).bind ((unmetered_tell rfl).bind (unmetered_pure _))

/-- One fallback at most, and none unless there is no configuration. -/
theorem countOf_fallbacks_ofFile (tree : FileTree) (path : String) (defaults : ResolvedConfig) :
    countOf (.configFallbacks .missing) (ofFile tree path defaults).events +
      countOf (.configFallbacks .malformed) (ofFile tree path defaults).events =
        if (ModelConfig.ofFile tree path).isOk then 0 else 1 := by
  cases hread : ModelConfig.ofFile tree path with
  | ok config =>
    rw [unmetered_ofFile_of_config hread, unmetered_ofFile_of_config hread]
    rfl
  | error fault =>
    cases hfile : tree.isFile path with
    | false =>
      rw [countOf_ofFile_of_not_isFile hfile, countOf_ofFile_of_not_isFile hfile]
      rfl
    | true =>
      rw [countOf_ofFile_of_fault hfile hread, countOf_ofFile_of_fault hfile hread]
      rfl

/-- Whatever the path leads to, the configuration in it is resolved if there is one. If not, what
comes of it is the defaults, with one fallback counted and the reason for it named, and a reader
that is not content with that is told of an error one can recover from. -/
theorem ofFile_falls_back (tree : FileTree) (path : String) (defaults : ResolvedConfig) :
    let strict := (ModelConfig.ofFile tree path).mapError Error.config
    let graceful := ofFile tree path defaults
    let counted := fun metric => countOf metric graceful.events
    (∀ config, strict = .ok config ↔ ∃ bytes text, tree.read? path = some bytes ∧
      String.fromUTF8? bytes = some text ∧ ModelConfig.ofString? text = some config) ∧
    (tree.isFile path = false →
      strict = .error (.config (.unreadable path)) ∧ graceful.value = defaults ∧
        ∀ metric, counted metric = if metric = .configFallbacks .missing then 1 else 0) ∧
    (tree.isFile path = true → ∀ e, strict = .error e → graceful.value = defaults ∧
      ∀ metric, counted metric = if metric = .configFallbacks .malformed then 1 else 0) ∧
    (∀ config, strict = .ok config → graceful.value = (config.resolve defaults).value ∧
      ∀ metric, counted metric = 0) ∧
    (∀ e, strict = .error e →
      (e = .config (.unreadable path) ∨ e = .config (.malformedFile path)) ∧
        e.kind = "ConfigParse" ∧ e.isRecoverable = true) ∧
    counted (.configFallbacks .missing) + counted (.configFallbacks .malformed) =
      if strict.isOk then 0 else 1 := by
  intro strict graceful counted
  have haccepted (config : ModelConfig) :
      strict = .ok config ↔ ModelConfig.ofFile tree path = .ok config :=
    ⟨eq_ok_of_mapError_eq_ok, fun h => congrArg (Except.mapError Error.config) h⟩
  refine ⟨fun config => (haccepted config).trans ModelConfig.ofFile_eq_ok_iff, ?_, ?_, ?_, ?_, ?_⟩
  · intro hfile
    exact ⟨congrArg (Except.mapError Error.config) (ModelConfig.ofFile_of_not_isFile hfile),
      congrArg Logged.value (ofFile_of_not_isFile hfile defaults),
      countOf_ofFile_of_not_isFile hfile defaults⟩
  · intro hfile e he
    obtain ⟨fault, hfault, -⟩ := exists_of_mapError_eq_error he
    exact ⟨congrArg Logged.value (ofFile_of_fault hfile hfault defaults),
      countOf_ofFile_of_fault hfile hfault defaults⟩
  · intro config hconfig
    have hread := (haccepted config).1 hconfig
    exact ⟨value_ofFile_of_config hread defaults,
      unmetered_ofFile_of_config hread defaults⟩
  · intro e he
    obtain ⟨fault, hfault, rfl⟩ := exists_of_mapError_eq_error he
    refine ⟨?_, rfl, rfl⟩
    rcases ModelConfig.fault_of_ofFile_eq_error hfault with rfl | rfl
    · exact .inl rfl
    · exact .inr rfl
  · have hread : strict.isOk = (ModelConfig.ofFile tree path).isOk := by
      simp only [strict]
      cases ModelConfig.ofFile tree path <;> rfl
    rw [hread]
    exact countOf_fallbacks_ofFile tree path defaults

def mixedTree : FileTree where
  working := []
  files := [(["latin.json"], ⟨#[0x7b, 0x7d, 0xff]⟩), (["empty.json"], "\x7b\x7d".toUTF8)]
  directories := [["models"]]

theorem ofFile_falls_back_mixed :
    let defaults : ResolvedConfig := ⟨⟨1, 5⟩, true⟩
    let graceful := fun path => ofFile mixedTree path defaults
    (mixedTree.isFile "models" = false ∧ (graceful "models").value = defaults ∧
      countOf (.configFallbacks .missing) (graceful "models").events = 1) ∧
    (mixedTree.isFile "latin.json" = true ∧ (graceful "latin.json").value = defaults ∧
      countOf (.configFallbacks .malformed) (graceful "latin.json").events = 1) ∧
    (ModelConfig.ofFile mixedTree "empty.json" = .ok {} ∧
      (graceful "empty.json").value = ⟨⟨1, 5⟩, false⟩ ∧
      ∀ reason, countOf (.configFallbacks reason) (graceful "empty.json").events = 0) := by
  intro defaults graceful
  have hdirectory : mixedTree.isFile "models" = false := by decide +kernel
  have hlatin : mixedTree.isFile "latin.json" = true := by decide +kernel
  have hfault : ModelConfig.ofFile mixedTree "latin.json" = .error (.unreadable "latin.json") := rfl
  have hempty : ModelConfig.ofFile mixedTree "empty.json" = .ok {} := rfl
  obtain ⟨-, hmissing, -⟩ := ofFile_falls_back mixedTree "models" defaults
  obtain ⟨-, -, hmalformed, -⟩ := ofFile_falls_back mixedTree "latin.json" defaults
  obtain ⟨-, -, -, hresolved, -⟩ := ofFile_falls_back mixedTree "empty.json" defaults
  obtain ⟨-, hkept, hcounted⟩ := hmissing hdirectory
  obtain ⟨hkept', hcounted'⟩ := hmalformed hlatin _ (congrArg (Except.mapError Error.config) hfault)
  obtain ⟨hvalue, huncounted⟩ := hresolved {} (congrArg (Except.mapError Error.config) hempty)
  exact ⟨⟨hdirectory, hkept, hcounted _⟩, ⟨hlatin, hkept', hcounted' _⟩, hempty, hvalue,
    fun reason => huncounted _⟩

end ResolvedConfig

end ZeroShot
