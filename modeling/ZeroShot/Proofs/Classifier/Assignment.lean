import ZeroShot.Classifier.Builder

/-! What a builder makes of all that was set.

Each setting puts values into some slots and leaves the others alone, so after any number of them a
slot holds what was put there last. What is built, or why nothing is, follows from that alone. -/

namespace ZeroShot

inductive Slot where
  | backend
  | entailmentId
  | contradictionId
  | tokenTypeIds
  | int32
  | hypothesisTemplate
  | multiLabel
  | maxConcurrency
  | config
  | graph
  | device
deriving DecidableEq, Repr

abbrev Slot.Value : Slot → Type
  | backend => Backend
  | entailmentId | contradictionId | maxConcurrency => Nat
  | tokenTypeIds | int32 | multiLabel => Bool
  | hypothesisTemplate => String
  | config => ConfigSource
  | graph => ModelSource
  | device => Device

/-- What the setting puts into the slot. Options go into seven slots at once. -/
def Setting.value? : Setting → (slot : Slot) → Option slot.Value
  | .backend b, .backend => some b
  | .options o, .entailmentId => some o.entailmentId
  | .options o, .contradictionId => some o.contradictionId
  | .options o, .tokenTypeIds => some o.tokenTypeIds
  | .options o, .int32 => some o.int32
  | .options o, .hypothesisTemplate => some o.hypothesisTemplate
  | .options o, .multiLabel => some o.multiLabel
  | .options o, .maxConcurrency => some o.maxConcurrency
  | .entailmentId index, .entailmentId => some index
  | .contradictionId index, .contradictionId => some index
  | .tokenTypeIds enabled, .tokenTypeIds => some enabled
  | .int32 enabled, .int32 => some enabled
  | .hypothesisTemplate template, .hypothesisTemplate => some template
  | .multiLabel enabled, .multiLabel => some enabled
  | .maxConcurrency limit, .maxConcurrency => some limit
  | .config source, .config => some source
  | .graph source, .graph => some source
  | .device d, .device => some d
  | _, _ => none

/-- The last value that the settings put into the slot. -/
def lastAssigned (settings : List Setting) (slot : Slot) : Option slot.Value :=
  settings.reverse.findSome? fun s => s.value? slot

@[simp] theorem lastAssigned_nil (slot : Slot) : lastAssigned [] slot = none := rfl

theorem lastAssigned_append (settings others : List Setting) (slot : Slot) :
    lastAssigned (settings ++ others) slot =
      (lastAssigned others slot).or (lastAssigned settings slot) := by
  simp [lastAssigned, List.findSome?_append]

theorem lastAssigned_cons (s : Setting) (rest : List Setting) (slot : Slot) :
    lastAssigned (s :: rest) slot = (lastAssigned rest slot).or (s.value? slot) := by
  rw [← List.singleton_append, lastAssigned_append]
  congr 1
  exact List.findSome?_singleton

theorem lastAssigned_swap (before after : List Setting) {s t : Setting} {slot : Slot}
    (h : s.value? slot = none ∨ t.value? slot = none) :
    lastAssigned (before ++ s :: t :: after) slot =
      lastAssigned (before ++ t :: s :: after) slot := by
  simp only [lastAssigned_append, lastAssigned_cons]
  rcases h with h | h <;> simp [h]

theorem lastAssigned_overwritten (before : List Setting) {after : List Setting} {s : Setting}
    {slot : Slot} (h : (s.value? slot).isSome → (lastAssigned after slot).isSome) :
    lastAssigned (before ++ s :: after) slot = lastAssigned (before ++ after) slot := by
  simp only [lastAssigned_append, lastAssigned_cons]
  cases hs : s.value? slot with
  | none => simp
  | some value =>
    obtain ⟨last, hlast⟩ := Option.isSome_iff_exists.1 (h (by simp [hs]))
    simp [hlast]

def lastOptions (settings : List Setting) : Options :=
  let base : Options := {}
  { entailmentId := (lastAssigned settings .entailmentId).getD base.entailmentId
    contradictionId := (lastAssigned settings .contradictionId).getD base.contradictionId
    tokenTypeIds := (lastAssigned settings .tokenTypeIds).getD base.tokenTypeIds
    int32 := (lastAssigned settings .int32).getD base.int32
    hypothesisTemplate := (lastAssigned settings .hypothesisTemplate).getD base.hypothesisTemplate
    multiLabel := (lastAssigned settings .multiLabel).getD base.multiLabel
    maxConcurrency := (lastAssigned settings .maxConcurrency).getD base.maxConcurrency }

def lastConfig (settings : List Setting) : ConfigSource :=
  (lastAssigned settings .config).getD .defaults

def Attempt.FailsOnly (kind : Error → Prop) (a : Attempt α) : Prop :=
  ∀ e, a.result = .error e → kind e

namespace Attempt.FailsOnly

variable {kind : Error → Prop}

theorem of_result_eq_ok {a : Attempt α} {x : α} (h : a.result = .ok x) : a.FailsOnly kind := by
  intro e he
  rw [h] at he
  cases he

theorem of_result_eq_error {a : Attempt α} {e : Error} (h : a.result = .error e) (he : kind e) :
    a.FailsOnly kind := by
  intro e' he'
  rw [h] at he'
  exact Except.error.inj he' ▸ he

theorem bind {a : Attempt α} {f : α → Attempt β} (ha : a.FailsOnly kind)
    (hf : ∀ x, (f x).FailsOnly kind) : (a >>= f).FailsOnly kind := by
  intro e he
  rw [Attempt.result_bind] at he
  cases hx : a.result with
  | error e' =>
    rw [hx] at he
    exact Except.error.inj he ▸ ha e' hx
  | ok x =>
    rw [hx] at he
    exact hf x e he

theorem of_mapError {ε : Type} {r : Except ε α} {f : ε → Error} (h : ∀ e, kind (f e)) :
    (Attempt.ofExcept (r.mapError f)).FailsOnly kind := by
  cases r with
  | error e => exact .of_result_eq_error rfl (h e)
  | ok x => exact .of_result_eq_ok rfl

end Attempt.FailsOnly

inductive Error.OfModelFiles : Error → Prop
  | missingModelDir (dir : String) : OfModelFiles (.setup (.missingModelDir dir))
  | graphNotInDir (dir : String) : OfModelFiles (.setup (.graphNotInDir dir))
  | tokenizerNotInDir (dir : String) : OfModelFiles (.setup (.tokenizerNotInDir dir))
  | hubUnavailable (reason : String) : OfModelFiles (.setup (.hubUnavailable reason))
  | graphNotInRepo (id : String) : OfModelFiles (.setup (.graphNotInRepo id))
  | tokenizerNotInRepo (id reason : String) :
    OfModelFiles (.setup (.tokenizerNotInRepo id reason))
  | unusableGraph (reason : String) : OfModelFiles (.setup (.unusableGraph reason))
  | unusableTokenizer (path reason : String) :
    OfModelFiles (.setup (.unusableTokenizer path reason))

namespace ModelSource

theorem failsOnly_inDirectory (tree : FileTree) (dir : String) :
    (Attempt.ofExcept ((inDirectory tree dir).mapError .setup)).FailsOnly Error.OfModelFiles := by
  unfold inDirectory
  split
  · exact .of_result_eq_error rfl (.missingModelDir dir)
  · split
    · exact .of_result_eq_error rfl (.graphNotInDir dir)
    · dsimp only
      split
      · exact .of_result_eq_error rfl (.tokenizerNotInDir dir)
      · exact .of_result_eq_ok rfl

variable [Runtime]

theorem failsOnly_inHub (hub : Runtime.Hub) (id : String) :
    (inHub hub id).FailsOnly Error.OfModelFiles := by
  unfold inHub
  split
  · exact .of_result_eq_error rfl (.graphNotInRepo id)
  · refine .bind (.of_mapError fun reason => .tokenizerNotInRepo id reason) fun tokenizer => ?_
    split
    · exact .of_result_eq_ok rfl
    · exact .of_result_eq_ok rfl

theorem failsOnly_locate (library : Library) (source : ModelSource) :
    (source.locate library).FailsOnly Error.OfModelFiles := by
  cases source with
  | repo id => exact .bind (.of_mapError .hubUnavailable) fun hub => failsOnly_inHub hub id
  | directory dir => exact failsOnly_inDirectory library.tree dir

end ModelSource

namespace LocalModel

variable [Runtime]

theorem failsOnly_ofFiles (tree : FileTree) (name : String) (files : ModelFiles) (device : Device)
    (resolved : ResolvedConfig) (int32 : Bool) :
    (ofFiles tree name files device resolved int32).FailsOnly Error.OfModelFiles := by
  refine .bind (.of_mapError .unusableGraph) fun session => .bind ?_ fun tokenizer =>
    .of_result_eq_ok rfl
  cases h : Tokenizer.ofFile tree files.tokenizer with
  | ok tokenizer => exact .of_result_eq_ok rfl
  | error fault =>
    obtain ⟨reason, -, rfl⟩ := exists_of_mapError_eq_error h
    exact .of_result_eq_error rfl (.unusableTokenizer files.tokenizer reason)

theorem failsOnly_loadWith (library : Library) (source : ModelSource) (device : Device)
    (resolved : ResolvedConfig) (int32 : Bool) :
    (loadWith library source device resolved int32).FailsOnly Error.OfModelFiles :=
  .bind (source.failsOnly_locate library) fun files => failsOnly_ofFiles _ _ files _ _ _

theorem failsOnly_load (library : Library) (source : ModelSource) (device : Device)
    (defaults : ResolvedConfig) (int32 : Bool) :
    (load library source device defaults int32).FailsOnly Error.OfModelFiles := by
  refine .bind (source.failsOnly_locate library) fun files => ?_
  dsimp only
  split
  · exact .bind (.of_result_eq_ok rfl) fun resolved => failsOnly_ofFiles _ _ files _ resolved _
  · exact .bind (.of_result_eq_ok rfl) fun resolved => failsOnly_ofFiles _ _ files _ resolved _

end LocalModel

namespace Builder

/-- What the slot holds; a backend and a graph are only there once they are set. -/
def get? (b : Builder) : (slot : Slot) → Option slot.Value
  | .backend => b.backend
  | .entailmentId => some b.options.entailmentId
  | .contradictionId => some b.options.contradictionId
  | .tokenTypeIds => some b.options.tokenTypeIds
  | .int32 => some b.options.int32
  | .hypothesisTemplate => some b.options.hypothesisTemplate
  | .multiLabel => some b.options.multiLabel
  | .maxConcurrency => some b.options.maxConcurrency
  | .config => some b.config
  | .graph => b.graph
  | .device => some b.device

theorem ext_get? {b c : Builder} (h : ∀ slot, b.get? slot = c.get? slot) : b = c := by
  obtain ⟨_, ⟨⟩, _, _, _⟩ := b
  obtain ⟨_, ⟨⟩, _, _, _⟩ := c
  have hbackend := h .backend
  have hentailment := h .entailmentId
  have hcontradiction := h .contradictionId
  have htypes := h .tokenTypeIds
  have hint32 := h .int32
  have htemplate := h .hypothesisTemplate
  have hmultiLabel := h .multiLabel
  have hconcurrency := h .maxConcurrency
  have hconfig := h .config
  have hgraph := h .graph
  have hdevice := h .device
  simp only [get?, Option.some.injEq] at *
  simp [*]

theorem get?_set (b : Builder) (s : Setting) (slot : Slot) :
    (b.set s).get? slot = (s.value? slot).or (b.get? slot) := by
  cases s <;> cases slot <;> rfl

theorem get?_foldl_set (settings : List Setting) (b : Builder) (slot : Slot) :
    (settings.foldl set b).get? slot = (lastAssigned settings slot).or (b.get? slot) := by
  induction settings generalizing b with
  | nil => rfl
  | cons s rest ih => rw [List.foldl_cons, ih, get?_set, lastAssigned_cons, Option.or_assoc]

def ofLast (settings : List Setting) : Builder where
  backend := lastAssigned settings .backend
  options := lastOptions settings
  config := lastConfig settings
  graph := lastAssigned settings .graph
  device := (lastAssigned settings .device).getD .cpu

theorem foldl_set_eq (settings : List Setting) : settings.foldl set {} = ofLast settings := by
  apply ext_get?
  intro slot
  rw [get?_foldl_set]
  cases slot <;> simp [get?, ofLast, lastOptions, lastConfig]

theorem foldl_set_congr {settings others : List Setting}
    (h : ∀ slot, lastAssigned settings slot = lastAssigned others slot) :
    settings.foldl set {} = others.foldl set {} :=
  ext_get? fun slot => by rw [get?_foldl_set, get?_foldl_set, h]

variable [Runtime] {b : Builder} {library : Library}

theorem failsOnly_loadModel (b : Builder) (library : Library) (source : ModelSource) :
    (b.loadModel library source).FailsOnly Error.OfModelFiles := by
  unfold loadModel
  dsimp only
  split
  · exact LocalModel.failsOnly_load library source b.device _ b.options.int32
  · exact .bind (.of_result_eq_ok rfl) fun resolved =>
      LocalModel.failsOnly_loadWith library source b.device resolved b.options.int32

theorem build_of_zero (h : b.options.maxConcurrency = 0) :
    b.build library = throw (.input .zeroConcurrency) := by
  unfold build Options.validate
  rw [if_pos h]
  rfl

theorem build_of_both (h : b.options.maxConcurrency ≠ 0) {source : ModelSource}
    {backend : Backend} (hgraph : b.graph = some source) (hbackend : b.backend = some backend) :
    b.build library = throw (.setup .graphAndBackend) := by
  unfold build Options.validate
  rw [if_neg h, hgraph, hbackend]
  rfl

theorem build_of_neither (h : b.options.maxConcurrency ≠ 0) (hgraph : b.graph = none)
    (hbackend : b.backend = none) : b.build library = throw (.setup .noBackend) := by
  unfold build Options.validate
  rw [if_neg h, hgraph, hbackend]
  rfl

theorem build_of_backend (h : b.options.maxConcurrency ≠ 0) {backend : Backend}
    (hgraph : b.graph = none) (hbackend : b.backend = some backend) :
    (b.build library).result =
      .ok ⟨backend, (b.config.resolve library.tree b.options.defaults).value, b.options⟩ := by
  unfold build Options.validate
  rw [if_neg h, hgraph, hbackend]
  rfl

theorem failsOnly_build_of_graph (h : b.options.maxConcurrency ≠ 0) {source : ModelSource}
    (hgraph : b.graph = some source) (hbackend : b.backend = none) :
    (b.build library).FailsOnly Error.OfModelFiles := by
  unfold build Options.validate
  rw [if_neg h, hgraph, hbackend]
  refine .bind (.of_result_eq_ok rfl) fun _ => ?_
  exact .bind (b.failsOnly_loadModel library source) fun model => .of_result_eq_ok rfl

theorem result_build_eq_error_iff (b : Builder) (library : Library) :
    ((∃ fault, (b.build library).result = .error (.input fault)) ↔
      b.options.maxConcurrency = 0) ∧
    ((b.build library).result = .error (.setup .graphAndBackend) ↔
      b.options.maxConcurrency ≠ 0 ∧ b.graph.isSome ∧ b.backend.isSome) ∧
    ((b.build library).result = .error (.setup .noBackend) ↔
      b.options.maxConcurrency ≠ 0 ∧ b.graph = none ∧ b.backend = none) := by
  by_cases hzero : b.options.maxConcurrency = 0
  · have hresult : (b.build library).result = .error (.input .zeroConcurrency) := by
      rw [build_of_zero hzero]
      rfl
    simp [hresult, hzero]
  · cases hgraph : b.graph with
    | none =>
      cases hbackend : b.backend with
      | none =>
        have hresult : (b.build library).result = .error (.setup .noBackend) := by
          rw [build_of_neither hzero hgraph hbackend]
          rfl
        simp [hresult, hzero]
      | some backend =>
        simp [build_of_backend hzero hgraph hbackend, hzero]
    | some source =>
      cases hbackend : b.backend with
      | none =>
        have hfails : (b.build library).FailsOnly Error.OfModelFiles :=
          failsOnly_build_of_graph hzero hgraph hbackend
        have hother {e : Error} (he : ¬ e.OfModelFiles) : (b.build library).result ≠ .error e :=
          fun h => he (hfails e h)
        have hinput (fault : InputFault) : (b.build library).result ≠ .error (.input fault) :=
          hother nofun
        have hboth : (b.build library).result ≠ .error (.setup .graphAndBackend) := hother nofun
        have hneither : (b.build library).result ≠ .error (.setup .noBackend) := hother nofun
        simp [hinput, hboth, hneither, hzero]
      | some backend =>
        have hresult : (b.build library).result = .error (.setup .graphAndBackend) := by
          rw [build_of_both hzero hgraph hbackend]
          rfl
        simp [hresult, hzero]

end Builder

/-- Two lists of settings that last assign the same build the same, so settings of different slots
may change places and what is overwritten may be left out. Nothing is built without room for a
call; else not with both a graph and a backend, whatever the files are, nor with neither. A backend
alone always makes a classifier, which goes by the last configuration and the last options,
whichever of them came first. -/
theorem build_by_last_assignment [Runtime] (settings : List Setting) (library : Library) :
    let build := fun s : List Setting => (s.foldl Builder.set {}).build library
    let options := lastOptions settings
    let graph := lastAssigned settings .graph
    let backend := lastAssigned settings .backend
    (∀ others, (∀ slot, lastAssigned others slot = lastAssigned settings slot) →
      build others = build settings) ∧
    (∀ before s t after, settings = before ++ s :: t :: after →
      (∀ slot, s.value? slot = none ∨ t.value? slot = none) →
        build (before ++ t :: s :: after) = build settings) ∧
    (∀ before s after, settings = before ++ s :: after →
      (∀ slot, (s.value? slot).isSome → (lastAssigned after slot).isSome) →
        build (before ++ after) = build settings) ∧
    ((∃ fault, (build settings).result = .error (.input fault)) ↔ options.maxConcurrency = 0) ∧
    ((build settings).result = .error (.setup .graphAndBackend) ↔
      options.maxConcurrency ≠ 0 ∧ graph.isSome ∧ backend.isSome) ∧
    ((build settings).result = .error (.setup .noBackend) ↔
      options.maxConcurrency ≠ 0 ∧ graph = none ∧ backend = none) ∧
    (options.maxConcurrency ≠ 0 → graph.isSome → backend.isSome →
      build settings = throw (.setup .graphAndBackend)) ∧
    ∀ b, options.maxConcurrency ≠ 0 → graph = none → backend = some b →
      (build settings).result =
        .ok ⟨b, ((lastConfig settings).resolve library.tree options.defaults).value, options⟩ := by
  intro build options graph backend
  have hsame (others : List Setting)
      (h : ∀ slot, lastAssigned others slot = lastAssigned settings slot) :
      build others = build settings :=
    congrArg (fun b => b.build library) (Builder.foldl_set_congr h)
  have hlast : settings.foldl Builder.set {} = Builder.ofLast settings :=
    Builder.foldl_set_eq settings
  refine ⟨hsame, ?_, ?_, ?_⟩
  · rintro before s t after rfl hapart
    exact hsame _ fun slot => lastAssigned_swap before after (hapart slot).symm
  · rintro before s after rfl hover
    exact hsame _ fun slot => (lastAssigned_overwritten before (hover slot)).symm
  · obtain ⟨hinput, hboth, hneither⟩ := (Builder.ofLast settings).result_build_eq_error_iff library
    simp only [build, hlast]
    refine ⟨hinput, hboth, hneither, ?_, ?_⟩
    · intro hroom hgraph hbackend
      obtain ⟨source, hsource⟩ := Option.isSome_iff_exists.1 hgraph
      obtain ⟨b, hb⟩ := Option.isSome_iff_exists.1 hbackend
      exact Builder.build_of_both hroom hsource hb
    · intro b hroom hgraph hbackend
      exact Builder.build_of_backend hroom hgraph hbackend

def silentBackend : Backend where
  name := "silent"
  infer _ _ := ⟨.zero, .error (.inference .interrupted)⟩

def contraConfig : ModelConfig where
  labelIds := [("contra", Json.ofNat 5)]
  modelType := some (.string "bert")

/-- A configuration before the options it falls back on, and room for a call only in the end. -/
def overwritingSettings : List Setting :=
  [.maxConcurrency 0, .config (.modelDir "m"), .multiLabel true, .config (.document contraConfig),
    .backend silentBackend, .options { entailmentId := 1, maxConcurrency := 3 }]

def neededSettings : List Setting :=
  [.options { entailmentId := 1, maxConcurrency := 3 }, .backend silentBackend,
    .config (.document contraConfig)]

def emptyLibrary : Library := ⟨⟨[], [], []⟩, "cache"⟩

theorem build_by_last_assignment_overwriting :
    ((overwritingSettings.foldl Builder.set {}).build emptyLibrary).result =
        .ok ⟨silentBackend, ⟨⟨1, 5⟩, true⟩, { entailmentId := 1, maxConcurrency := 3 }⟩ ∧
      (neededSettings.foldl Builder.set {}).build emptyLibrary =
        (overwritingSettings.foldl Builder.set {}).build emptyLibrary ∧
      ((.graph (.directory "nowhere") :: overwritingSettings).foldl Builder.set {}).build
        emptyLibrary = throw (.setup .graphAndBackend) := by
  obtain ⟨hsame, -, -, -, -, -, -, hbuilt⟩ :=
    build_by_last_assignment overwritingSettings emptyLibrary
  obtain ⟨-, -, -, -, -, -, hboth, -⟩ :=
    build_by_last_assignment (.graph (.directory "nowhere") :: overwritingSettings) emptyLibrary
  have hresolved : (contraConfig.resolve ⟨⟨1, 0⟩, false⟩).value = ⟨⟨1, 5⟩, true⟩ := by
    decide +kernel
  refine ⟨?_, ?_, ?_⟩
  · rw [← hresolved]
    exact hbuilt silentBackend (by decide) rfl rfl
  · apply hsame
    intro slot
    cases slot <;> rfl
  · exact hboth (by decide) rfl rfl

end ZeroShot
