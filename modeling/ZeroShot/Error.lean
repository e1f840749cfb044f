import ZeroShot.ClassRole
import ZeroShot.Duration
import ZeroShot.Json.Printer
import ZeroShot.Text.Quoted

/-! What can go wrong, by cause.

An error has a message for people and a report for diagnostics. Each kind of cause has a case
`reported` for failures that a backend describes in its own words. -/

namespace ZeroShot

inductive ConfigFault where
  | malformed
  | unreadable (path : String)
  | malformedFile (path : String)
  | reported (text : String)
deriving Repr

/-- Why a classifier cannot be set up. -/
inductive SetupFault where
  | settingsNotFound (path : String)
  | unreadableSettings (path : String)
  | malformedSettings (path : String)
  | missingModelDir (dir : String)
  | graphNotInDir (dir : String)
  | tokenizerNotInDir (dir : String)
  | hubUnavailable (reason : String)
  | graphNotInRepo (repo : String)
  | tokenizerNotInRepo (repo reason : String)
  | unusableGraph (reason : String)
  | unusableTokenizer (path reason : String)
  | unknownDevice (name : String)
  | graphAndBackend
  | noBackend
  | noModel
  | reported (text : String)
deriving Repr

inductive InputFault where
  | noCandidates
  | nothingToScore
  | zeroConcurrency
  | badArgument (key : String) (value : Json)
  | reported (text : String)
deriving Repr

inductive ShapeFault where
  | narrowRow (width : Nat)
  | raggedRow (row width expected : Nat)
  | rowsForCandidates (rows candidates : Nat)
  | answeredRows (rows candidates : Nat)
  | tensorRank (dimensions : Nat)
  | tensorSize (held expected : Nat)
  | reported (text : String)
deriving DecidableEq, Repr

inductive InferenceFault where
  | interrupted
  | graph (text : String)
  | reported (text : String)
deriving DecidableEq, Repr

inductive DataFault where
  | tokenization (reason : String)
  | noTokens
  | unevenTensor (name : String)
  | noLogitsOutput
  | logitsNotFloat
  | reported (text : String)
deriving DecidableEq, Repr

inductive Error where
  | config (fault : ConfigFault)
  | setup (fault : SetupFault)
  | input (fault : InputFault)
  | indexOutOfRange (role : ClassRole) (index width : Nat)
  | shape (fault : ShapeFault)
  | inference (fault : InferenceFault)
  | timeout (limit : Duration)
  | data (fault : DataFault)
  | json
deriving Repr

def ConfigFault.text : ConfigFault → String
  | malformed => "not a model config document"
  | unreadable path => "failed to read " ++ path ++ ": not a text file"
  | malformedFile path => path ++ ": not a model config document"
  | reported text => text

def SetupFault.text : SetupFault → String
  | settingsNotFound path => "Config file not found: " ++ Text.quoted path
  | unreadableSettings path =>
    "Failed to read config file " ++ Text.quoted path ++ ": not a text file"
  | malformedSettings path =>
    "Failed to parse config file " ++ Text.quoted path ++ ": not a settings document"
  | missingModelDir dir => "Local model directory does not exist: " ++ dir
  | graphNotInDir dir => "No ONNX model found in " ++ dir
  | tokenizerNotInDir dir => "No tokenizer.json found in " ++ dir
  | hubUnavailable reason => "Failed to initialize HF Hub API: " ++ reason
  | graphNotInRepo repo => "Failed to find ONNX model in " ++ repo
  | tokenizerNotInRepo repo reason =>
    "Failed to download tokenizer from " ++ repo ++ ": " ++ reason
  | unusableGraph reason => "Failed to load ONNX model: " ++ reason
  | unusableTokenizer path reason =>
    "Failed to load tokenizer from " ++ Text.quoted path ++ ": " ++ reason
  | unknownDevice name => "Unknown device: " ++ name
  | graphAndBackend => "configure either an ONNX model or a backend, not both"
  | noBackend => "no NLI backend configured"
  | noModel => "no model configured (use --model, --model-dir or [model] in config)"
  | reported text => text

def InputFault.text : InputFault → String
  | noCandidates => "at least one candidate label is required"
  | nothingToScore => "no candidates to score"
  | zeroConcurrency => "max_concurrency must be at least 1"
  | badArgument key value => "invalid value for '" ++ key ++ "': " ++ value.compact
  | reported text => text

def ShapeFault.text : ShapeFault → String
  | narrowRow width => s!"expected at least 2 classes per row, got {width}"
  | raggedRow row width expected => s!"row {row} has {width} classes, expected {expected}"
  | rowsForCandidates rows candidates => s!"{rows} logit rows for {candidates} candidates"
  | answeredRows rows candidates =>
    s!"backend returned {rows} logit rows for {candidates} candidates"
  | tensorRank dimensions => s!"expected 1-D or 2-D logits, got {dimensions} dimensions"
  | tensorSize held expected => s!"logits tensor holds {held} values, expected {expected}"
  | reported text => text

def InferenceFault.text : InferenceFault → String
  | interrupted => "blocking inference task failed: interrupted"
  | graph text => "ONNX inference failed: " ++ text
  | reported text => text

def DataFault.text : DataFault → String
  | tokenization reason => "Tokenization failed: " ++ reason
  | noTokens => "Tokenizer produced no tokens"
  | unevenTensor name => "Failed to create " ++ name ++ " tensor: not as long as the ids"
  | noLogitsOutput => "No logits output found"
  | logitsNotFloat => "Failed to extract logits: not a float tensor"
  | reported text => text

def jsonFault : String := "not a document of the expected form"

namespace Error

def message : Error → String
  | config fault => "failed to parse model config: " ++ fault.text
  | setup fault => "configuration error: " ++ fault.text
  | input fault => "invalid input: " ++ fault.text
  | indexOutOfRange role index width =>
    s!"{role.name} index {index} is out of range for a {width}-class output"
  | shape fault => "logit shape mismatch: " ++ fault.text
  | inference fault => "inference failed: " ++ fault.text
  | timeout limit => "inference timed out after " ++ limit.text
  | data fault => "data error: " ++ fault.text
  | json => "JSON error: " ++ jsonFault

def kind : Error → String
  | config _ => "ConfigParse"
  | setup _ => "Configuration"
  | input _ => "InvalidInput"
  | indexOutOfRange _ _ _ => "IndexOutOfRange"
  | shape _ => "ShapeMismatch"
  | inference _ => "Inference"
  | timeout _ => "Timeout"
  | data _ => "DataError"
  | json => "Json"

def detail : Error → String
  | config fault => "(" ++ Text.quoted fault.text ++ ")"
  | setup fault => "(" ++ Text.quoted fault.text ++ ")"
  | input fault => "(" ++ Text.quoted fault.text ++ ")"
  | indexOutOfRange role index width =>
    " \x7b role: " ++ Text.quoted role.name ++ s!", index: {index}, width: {width}" ++ " \x7d"
  | shape fault => "(" ++ Text.quoted fault.text ++ ")"
  | inference fault => "(" ++ Text.quoted fault.text ++ ")"
  | timeout limit => "(" ++ limit.text ++ ")"
  | data fault => "(" ++ Text.quoted fault.text ++ ")"
  | json => "(" ++ Text.quoted jsonFault ++ ")"

def report (e : Error) : String := e.kind ++ e.detail

/-- Work can go on with defaults after a model configuration that cannot be read, and after nothing
else. -/
def isRecoverable : Error → Bool
  | config _ => true
  | _ => false

end Error

theorem exists_of_bind_eq_ok {ε α β : Type} {x : Except ε α} {f : α → Except ε β} {b : β}
    (h : x >>= f = .ok b) : ∃ a, x = .ok a ∧ f a = .ok b := by
  cases x with
  | error _ => cases h
  | ok a => exact ⟨a, rfl, h⟩

theorem exists_of_map_toOption {ε α β : Type} {x : Except ε α} {f : α → β} {b : β}
    (h : x.toOption.map f = some b) : ∃ a, x = .ok a ∧ f a = b := by
  cases x with
  | error _ => cases h
  | ok a => exact ⟨a, rfl, Option.some.inj h⟩

theorem exists_of_mapError_eq_error {ε ε' α : Type} {x : Except ε α} {f : ε → ε'} {e' : ε'}
    (h : x.mapError f = .error e') : ∃ e, x = .error e ∧ f e = e' := by
  cases x with
  | error e => exact ⟨e, rfl, Except.error.inj h⟩
  | ok _ => cases h

theorem eq_ok_of_mapError_eq_ok {ε ε' α : Type} {x : Except ε α} {f : ε → ε'} {a : α}
    (h : x.mapError f = .ok a) : x = .ok a := by
  cases x with
  | error _ => cases h
  | ok _ => exact congrArg _ (Except.ok.inj h)

end ZeroShot
