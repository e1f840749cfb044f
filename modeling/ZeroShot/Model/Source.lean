import ZeroShot.Config.File
import ZeroShot.Model.Runtime

/-! Where a model comes from, and where its files are found: in a directory, or in a repository. -/

namespace ZeroShot

inductive ModelSource where
  | repo (id : String)
  | directory (path : String)
deriving DecidableEq, Repr

structure ModelFiles where
  graph : String
  tokenizer : String
  config : Option String
deriving DecidableEq, Repr

namespace ModelSource

def graphNames : List String := ["model.onnx", "onnx/model.onnx"]

def tokenizerName : String := "tokenizer.json"

def name : ModelSource → String
  | repo id => id
  | directory path => (Path.fileName? path).getD "local"

def inDirectory (tree : FileTree) (dir : String) : Except SetupFault ModelFiles :=
  if !tree.isDirectory dir then .error (.missingModelDir dir)
  else match (graphNames.map (Path.join dir)).find? tree.isFile with
    | none => .error (.graphNotInDir dir)
    | some graph =>
      let tokenizer := Path.join dir tokenizerName
      if !tree.isFile tokenizer then .error (.tokenizerNotInDir dir)
      else
        let config := Path.join dir ModelConfig.fileName
        .ok ⟨graph, tokenizer, if tree.isFile config then some config else none⟩

variable [Runtime]

def inHub (hub : Runtime.Hub) (id : String) : Attempt ModelFiles :=
  match graphNames.findSome? fun name => (Runtime.fetch hub id name).toOption with
  | none => throw (.setup (.graphNotInRepo id))
  | some graph => do
    let tokenizer ← Attempt.ofExcept
      ((Runtime.fetch hub id tokenizerName).mapError fun reason =>
        .setup (.tokenizerNotInRepo id reason))
    match Runtime.fetch hub id ModelConfig.fileName with
    | .ok config => return ⟨graph, tokenizer, some config⟩
    | .error _ =>
      Logged.tell (.repoWithoutConfig id)
      return ⟨graph, tokenizer, none⟩

/-- A model without a configuration is complete. -/
def locate (library : Library) : ModelSource → Attempt ModelFiles
  | repo id => do
    let hub ← Attempt.ofExcept
      ((Runtime.openHub library).mapError fun reason => .setup (.hubUnavailable reason))
    inHub hub id
  | directory dir => Attempt.ofExcept ((inDirectory library.tree dir).mapError .setup)

end ModelSource

end ZeroShot
