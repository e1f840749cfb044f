import ZeroShot.CommandLine.Words

/-! What the program can be asked to do. -/

namespace ZeroShot.CommandLine

def versionText : String := "mimir 0.1.0\n"

structure ClassifyArguments where
  text : Option String
  labels : List String
  template : Option String
  multiLabel : Bool
  repo : Option String
  dir : Option String
deriving DecidableEq, Repr

inductive Command where
  | resolve (path : String)
  | score (input modelConfig : Option String)
  | classify (arguments : ClassifyArguments)
deriving DecidableEq, Repr

structure Invocation where
  config : Option String
  command : Command
deriving DecidableEq, Repr

def helpOption : OptionForm := ⟨some 'h', "help", .stop .help⟩

namespace Command

def names : List String := ["resolve", "score", "classify", "help"]

def resolveForm : Form where
  options := [helpOption]
  operands := [⟨"path", true⟩]

def scoreForm : Form where
  options := [⟨none, "model-config", .value true⟩, helpOption]
  operands := [⟨"input", true⟩]

def classifyForm : Form where
  options :=
    [⟨some 'l', "labels", .values⟩, ⟨some 't', "template", .value false⟩,
     ⟨some 'm', "multi-label", .flag⟩, ⟨none, "model", .value false⟩,
     ⟨none, "model-dir", .value true⟩, helpOption]
  operands := [⟨"text", false⟩]

def ofResolve (r : Reading) : Except Stop Command :=
  match r.value? "path" with
  | some path => .ok (.resolve path)
  | none => .error .usage

def ofScore (r : Reading) : Command := .score (r.value? "input") (r.value? "model-config")

def ofClassify (r : Reading) : Except Stop Command :=
  if r.isGiven "labels" then
    .ok (.classify
      { text := r.value? "text"
        labels := r.values "labels"
        template := r.value? "template"
        multiLabel := r.isGiven "multi-label"
        repo := r.value? "model"
        dir := r.value? "model-dir" })
  else .error .usage

def ofHelp : List String → Stop
  | [] => .help
  | [name] => if names.contains name then .help else .usage
  | _ => .usage

def ofWords (name : String) (words : List String) : Except Stop Command :=
  match name with
  | "resolve" => do ofResolve (← resolveForm.read {} words).1
  | "score" => do return ofScore (← scoreForm.read {} words).1
  | "classify" => do ofClassify (← classifyForm.read {} words).1
  | _ => .error (ofHelp words)

end Command

namespace Invocation

def form : Form where
  options :=
    [⟨some 'c', "config", .value true⟩, helpOption, ⟨some 'V', "version", .stop .version⟩]
  commands := Command.names

/-- A variable can name the settings file where no option does, but not by the empty text. -/
def configOr (given fromVariable : Option String) : Except Stop (Option String) :=
  match given, fromVariable with
  | none, some "" => .error .usage
  | _, _ => .ok (given <|> fromVariable)

def ofWords (words : List String) (configVariable : Option String) : Except Stop Invocation := do
  let (r, following) ← form.read {} words
  match following with
  | none => throw .usage
  | some (name, rest) =>
    let command ← Command.ofWords name rest
    let config ← configOr (r.value? "config") configVariable
    return ⟨config, command⟩

end Invocation

end ZeroShot.CommandLine
