import ZeroShot.Classifier.Basic
import ZeroShot.CommandLine.Invocation
import ZeroShot.Config.Record
import ZeroShot.Model.Local
import ZeroShot.Score.Record
import ZeroShot.Score.Task
import ZeroShot.Settings

/-! What comes of an invocation, given all that it may look at. -/

namespace ZeroShot

namespace Settings

/-- A directory stands for the model configuration in it. -/
def resolve (s : Settings) (tree : FileTree) (path : String) : Logged ResolvedConfig :=
  if tree.isDirectory path then ResolvedConfig.ofModelDir tree path s.classifier.defaults
  else ResolvedConfig.ofFile tree path s.classifier.defaults

/-- What given logits are scored by: the configuration that is named, else that of the settings. -/
def scoreConfig (s : Settings) (tree : FileTree) (named : Option String) : Logged ResolvedConfig :=
  match named <|> s.model.config with
  | some path => s.resolve tree path
  | none => pure s.classifier.defaults

/-- A directory, wherever it is named, counts before a repository. -/
def source? (s : Settings) (repo dir : Option String) : Option ModelSource :=
  match dir <|> s.model.dir with
  | some dir => some (.directory dir)
  | none => (repo <|> s.model.repo).map .repo

variable [Runtime]

def loadModel (s : Settings) (library : Library) (source : ModelSource) (device : Device) :
    Attempt LocalModel := do
  let defaults := s.classifier.defaults
  match s.model.config with
  | some path =>
    let resolved ← ResolvedConfig.ofFile library.tree path defaults
    LocalModel.loadWith library source device resolved s.classifier.int32
  | none => LocalModel.load library source device defaults s.classifier.int32

/-- A classifier over a model that runs here, with a deadline for each call if one is set. -/
def loadClassifier (s : Settings) (library : Library) (repo dir : Option String) :
    Attempt Classifier := do
  match s.source? repo dir with
  | none => throw (.setup .noModel)
  | some source =>
    let device ← Attempt.ofExcept ((Device.ofName s.model.device).mapError .setup)
    let model ← s.loadModel library source device
    let backend := match s.model.timeoutSeconds with
      | some seconds => model.backend.withDeadline (Duration.ofSeconds seconds)
      | none => model.backend
    return ⟨backend, model.resolved, s.classifier⟩

theorem exists_model_of_loadClassifier {s : Settings} {library : Library}
    {repo dir : Option String} {c : Classifier}
    (h : (s.loadClassifier library repo dir).result = .ok c) :
    ∃ source device model, s.source? repo dir = some source ∧
      (s.loadModel library source device).result = .ok model ∧ c.resolved = model.resolved ∧
      c.options = s.classifier ∧
      (c.backend = model.backend ∨ ∃ limit, c.backend = model.backend.withDeadline limit) := by
  unfold loadClassifier at h
  split at h
  · cases h
  · next source hsource =>
    obtain ⟨device, -, h⟩ := Attempt.exists_of_result_bind_eq_ok h
    obtain ⟨model, hmodel, h⟩ := Attempt.exists_of_result_bind_eq_ok h
    cases h
    refine ⟨source, device, model, hsource, hmodel, rfl, rfl, ?_⟩
    cases s.model.timeoutSeconds with
    | none => exact .inl rfl
    | some seconds => exact .inr ⟨_, rfl⟩

end Settings

namespace CommandLine

structure Surroundings where
  library : Library
  home : Option String
  input : Option ByteArray

inductive Failure where
  | unreadable
  | noLogits
  | noText
  | error (e : Error)
deriving Repr

inductive Answer where
  | config (resolved : ResolvedConfig)
  | ranking (ranked : Ranking)

def Answer.toJson : Answer → Json
  | config resolved => resolved.toJson
  | ranking ranked => ranked.toJson

namespace Failure

def noLogitsText : String := "score: no input provided (pass a file or pipe via stdin)"

def noTextText : String := "classify: no input provided (pass text as argument or via stdin)"

def report : Failure → String
  | unreadable => "not a text file"
  | noLogits => Text.quoted noLogitsText
  | noText => Text.quoted noTextText
  | error e => e.report

end Failure

abbrev Run := ExceptT Failure Logged

namespace Run

def ofExcept (r : Except Failure α) : Run α := ExceptT.mk (pure r)

def ofAttempt (a : Attempt α) : Run α := ExceptT.mk ⟨a.result.mapError .error, a.events⟩

def ofClassification (c : Classification) : Run Ranking :=
  ExceptT.mk ⟨c.result.mapError .error, c.events⟩

def events (run : Run α) : List Event := (ExceptT.run run).events

def result (run : Run α) : Except Failure α := (ExceptT.run run).value

@[simp] theorem result_ofExcept (r : Except Failure α) : (ofExcept r).result = r := rfl

@[simp] theorem events_ofExcept (r : Except Failure α) : (ofExcept r).events = [] := rfl

@[simp] theorem result_ofAttempt (a : Attempt α) :
    (ofAttempt a).result = a.result.mapError .error := rfl

@[simp] theorem events_ofAttempt (a : Attempt α) : (ofAttempt a).events = a.events := rfl

@[simp] theorem result_ofClassification (c : Classification) :
    (ofClassification c).result = c.result.mapError .error := rfl

@[simp] theorem events_ofClassification (c : Classification) :
    (ofClassification c).events = c.events := rfl

end Run

def orUnreadable : Option String → Except Failure String
  | some text => .ok text
  | none => .error .unreadable

def scoreDocument (surroundings : Surroundings) (path : Option String) : Except Failure String :=
  match path, surroundings.input with
  | some path, _ => orUnreadable (surroundings.library.tree.readText? path)
  | none, some bytes => orUnreadable (String.fromUTF8? bytes)
  | none, none => .error .noLogits

/-- The text to classify: what is given, then what standard input holds besides blanks. -/
def subject (given piped : Option String) : Except Failure String :=
  match given, (piped.map Text.trim).filter (· ≠ "") with
  | some first, some second => .ok (first ++ "\n\n" ++ second)
  | some text, none => .ok text
  | none, some text => .ok text
  | none, none => .error .noText

def runScore (surroundings : Surroundings) (settings : Settings)
    (path modelConfig : Option String) : Run Ranking := do
  let document ← Run.ofExcept (scoreDocument surroundings path)
  match ScoreTask.ofString? document with
  | none => throw (.error .json)
  | some task =>
    let resolved ← settings.scoreConfig surroundings.library.tree modelConfig
    let ranked : Except Error Ranking := do
      let logits ← (LogitMatrix.ofRows task.rows).mapError .shape
      rankLogits resolved task.text task.candidates logits task.multiLabel
    Run.ofExcept (ranked.mapError .error)

variable [Runtime]

/-- Options count before settings, and scoring each label by itself is on if either says so. -/
def runClassify (surroundings : Surroundings) (settings : Settings) (a : ClassifyArguments) :
    Run Ranking := do
  let piped ← Run.ofExcept
    (surroundings.input.mapM fun bytes => orUnreadable (String.fromUTF8? bytes))
  let text ← Run.ofExcept (subject a.text piped)
  let classifier ← Run.ofAttempt (settings.loadClassifier surroundings.library a.repo a.dir)
  Run.ofClassification (classifier.classify text a.labels
    (a.template.getD settings.classifier.hypothesisTemplate)
    (a.multiLabel || settings.classifier.multiLabel))

def Command.run (surroundings : Surroundings) (settings : Settings) : Command → Run Answer
  | resolve path => do return .config (← settings.resolve surroundings.library.tree path)
  | score path modelConfig =>
    do return .ranking (← runScore surroundings settings path modelConfig)
  | classify a => do return .ranking (← runClassify surroundings settings a)

def Invocation.run (surroundings : Surroundings) (invocation : Invocation) : Run Answer := do
  let settings ← Run.ofExcept
    ((Settings.load surroundings.library.tree invocation.config surroundings.home).mapError .error)
  invocation.command.run surroundings settings

end CommandLine

end ZeroShot
