import ZeroShot.CommandLine.Lookup

/-! The program: it gathers what a run may look at, runs it, and prints what comes of it. -/

namespace ZeroShot.CommandLine

def usageText : String :=
  "Usage: mimir [--config FILE] resolve PATH
       mimir [--config FILE] score [INPUT] [--model-config PATH]
       mimir [--config FILE] classify [TEXT] --labels LABELS [--template TEMPLATE] [--multi-label]
                                      [--model REPOSITORY] [--model-dir DIRECTORY]"

/-- What is there but cannot be read as a file counts as a directory. -/
def lookAt (tree : FileTree) (path : String) : IO FileTree := do
  if tree.exists? path then return tree
  try
    return tree.insertFile path (← IO.FS.readBinFile path)
  catch _ =>
    try
      let _ ← IO.FS.realPath path
      return tree.insertDirectory path
    catch _ => return tree

def gather (invocation : Invocation) : Nat → Surroundings → IO Surroundings
  | 0, surroundings => return surroundings
  | rounds + 1, surroundings => do
    let tree ← (invocation.lookups surroundings).foldlM lookAt surroundings.library.tree
    gather invocation rounds { surroundings with library.tree := tree }

def readInput (command : Command) : IO (Option ByteArray) := do
  let input ← IO.getStdin
  if !command.readsInput || (← input.isTty) then return none
  return some (← input.readBinToEnd)

def surroundingsOf (invocation : Invocation) : IO Surroundings := do
  let home := (← IO.getEnv "HOME").filter (· ≠ "")
  let cache := CacheVariables.modelCache
    ⟨← IO.getEnv "MIMIR_CACHE_DIR", ← IO.getEnv "XDG_CACHE_HOME", home⟩
  let working := FileTree.properSteps (← IO.currentDir).toString
  let input ← readInput invocation.command
  gather invocation lookupRounds ⟨⟨.ofWorking working, cache⟩, home, input⟩

def printWarnings (events : List Event) : IO Unit :=
  (logOf events).forM fun line => do
    if line.level = .warn then
      let fields := line.fields.map fun (key, value) => s!" {key}={value}"
      IO.eprintln (line.level.name ++ " " ++ line.message ++ String.join fields)

/-- The exit code is 1 for a failure and 2 for words that make no command. -/
def start (words : List String) : IO UInt32 := do
  match Invocation.ofWords words (← IO.getEnv "MIMIR_CONFIG") with
  | .error .usage => IO.eprintln usageText; return 2
  | .error .help => IO.println usageText; return 0
  | .error .version => IO.print versionText; return 0
  | .ok invocation =>
    let run := invocation.run (← surroundingsOf invocation)
    printWarnings run.events
    match run.result with
    | .ok answer => IO.println (answer.toJson.pretty 0); return 0
    | .error failure => IO.eprintln ("Error: " ++ failure.report); return 1

end ZeroShot.CommandLine

def main (arguments : List String) : IO UInt32 :=
  ZeroShot.CommandLine.start arguments
