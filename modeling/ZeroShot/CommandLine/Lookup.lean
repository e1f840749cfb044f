import ZeroShot.CommandLine.Run

/-! Where a run may look, as far as what is known of the files tells.

What is found at these paths can lead to more of them: settings name a model, and the cache of a
repository names its revision. -/

namespace ZeroShot

namespace ModelSource

/-- The configuration beside each graph is for a model that has none of its own. -/
def lookups (library : Library) : ModelSource → List String
  | directory dir =>
    let graphs := graphNames.map (Path.join dir)
    dir :: Path.join dir tokenizerName :: Path.join dir ModelConfig.fileName :: graphs
      ++ graphs.map fun graph => Path.join (Path.parent graph) ModelConfig.fileName
  | repo id =>
    let revision := library.revisionPath id
    match library.tree.readText? revision with
    | none => [revision]
    | some name =>
      let graphs := graphNames.map (library.snapshotPath id name)
      library.snapshotPath id name tokenizerName ::
        library.snapshotPath id name ModelConfig.fileName :: graphs
        ++ graphs.map fun graph => Path.join (Path.parent graph) ModelConfig.fileName

end ModelSource

namespace CommandLine

def configLookups (path : String) : List String := [path, Path.join path ModelConfig.fileName]

def Command.lookups (library : Library) (settings : Settings) : Command → List String
  | resolve path => configLookups path
  | score path modelConfig =>
    path.toList ++ (modelConfig <|> settings.model.config).toList.flatMap configLookups
  | classify a =>
    settings.model.config.toList
      ++ (settings.source? a.repo a.dir).toList.flatMap (ModelSource.lookups library)

def Command.readsInput : Command → Bool
  | resolve _ => false
  | score path _ => path.isNone
  | classify _ => true

def Invocation.lookups (surroundings : Surroundings) (invocation : Invocation) : List String :=
  let file := invocation.config <|> surroundings.home.map Settings.userFile
  file.toList ++
    match Settings.load surroundings.library.tree invocation.config surroundings.home with
    | .ok settings => invocation.command.lookups surroundings.library settings
    | .error _ => []

/-- Settings lead to a model, and that to a revision; nothing leads on from there. -/
def lookupRounds : Nat := 3

end CommandLine

end ZeroShot
