import ZeroShot.Classifier.Options
import ZeroShot.FileTree
import ZeroShot.Toml.Document

/-! Settings of the command line, from a TOML file. -/

namespace ZeroShot

structure ModelSettings where
  dir : Option String := none
  repo : Option String := none
  config : Option String := none
  device : String := "cpu"
  /-- The deadline of one call; without one it may take any time. -/
  timeoutSeconds : Option Nat := none
deriving DecidableEq, Repr, Inhabited

structure Settings where
  classifier : Options := {}
  model : ModelSettings := {}
deriving DecidableEq, Repr, Inhabited

namespace Toml

/-- The fields of a record: a table, or an array of them in their order. More than that is not read.
A moment counts as a table without fields. -/
def fields? (names : List String) : Toml → Option (List (Option Toml))
  | table _ members => some (names.map (Members.get? members))
  | array items => some (names.zipIdx.map fun (_, i) => items[i]?)
  | tables elements => some (names.zipIdx.map fun (_, i) => elements[i]?.map (table .header))
  | moment => some (names.map fun _ => none)
  | _ => none

def string? : Toml → Option String
  | string value => some value
  | _ => none

def flag? : Toml → Option Bool
  | flag value => some value
  | _ => none

def natural? : Toml → Option Nat
  | integer value => if 0 ≤ value then some value.toNat else none
  | _ => none

def withDefault (default : α) (read : Toml → Option α) : Option Toml → Option α
  | none => some default
  | some value => read value

def optional (read : Toml → Option α) : Option Toml → Option (Option α) :=
  withDefault none fun value => (read value).map some

end Toml

open Toml in
def Options.ofToml? (document : Toml) : Option Options := do
  let [entailment, contradiction, tokenTypes, int32, template, multiLabel, concurrency] ←
    document.fields? Options.fieldNames | none
  let base : Options := {}
  let entailmentId ← withDefault base.entailmentId natural? entailment
  let contradictionId ← withDefault base.contradictionId natural? contradiction
  let tokenTypeIds ← withDefault base.tokenTypeIds flag? tokenTypes
  let int32 ← withDefault base.int32 flag? int32
  let hypothesisTemplate ← withDefault base.hypothesisTemplate string? template
  let multiLabel ← withDefault base.multiLabel flag? multiLabel
  let maxConcurrency ← withDefault base.maxConcurrency natural? concurrency
  some ⟨entailmentId, contradictionId, tokenTypeIds, int32, hypothesisTemplate, multiLabel,
    maxConcurrency⟩

open Toml in
def ModelSettings.ofToml? (document : Toml) : Option ModelSettings := do
  let [dir, repo, config, device, timeout] ←
    document.fields? ["dir", "repo_id", "config", "device", "timeout_secs"] | none
  let base : ModelSettings := {}
  let dir ← optional string? dir
  let repo ← optional string? repo
  let config ← optional string? config
  let device ← withDefault base.device string? device
  let timeoutSeconds ← optional natural? timeout
  some ⟨dir, repo, config, device, timeoutSeconds⟩

namespace Settings

def ofTable? (t : Toml.Table) : Option Settings := do
  let classifier ← Toml.withDefault {} Options.ofToml? (Members.get? t "classifier")
  let model ← Toml.withDefault {} ModelSettings.ofToml? (Members.get? t "model")
  some ⟨classifier, model⟩

def ofString? (text : String) : Option Settings := (Toml.ofString? text).bind ofTable?

def ofFile (tree : FileTree) (path : String) : Except Error Settings :=
  match tree.readText? path with
  | none => .error (.setup (.unreadableSettings path))
  | some text =>
    match ofString? text with
    | none => .error (.setup (.malformedSettings path))
    | some settings => (settings.classifier.validate.mapError Error.input).map fun _ => settings

def userFile (home : String) : String := Path.join (Path.join home ".mimir") "config.toml"

/-- A file that is named must be there; the user's own is read if it is. -/
def load (tree : FileTree) (named home : Option String) : Except Error Settings :=
  match named with
  | some path =>
    if tree.exists? path then ofFile tree path else .error (.setup (.settingsNotFound path))
  | none =>
    match (home.map userFile).filter tree.exists? with
    | some path => ofFile tree path
    | none => .ok {}

end Settings

end ZeroShot
