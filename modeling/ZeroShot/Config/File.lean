import ZeroShot.Config.ModelConfig
import ZeroShot.FileTree

/-! Model configurations in files.

Reading one as such can fail. Resolving one cannot: where nothing can be read the defaults are kept
and a fallback is counted. -/

namespace ZeroShot

namespace ModelConfig

def fileName : String := "config.json"

def ofFile (tree : FileTree) (path : String) : Except ConfigFault ModelConfig :=
  match tree.readText? path with
  | none => .error (.unreadable path)
  | some text =>
    match ofString? text with
    | some config => .ok config
    | none => .error (.malformedFile path)

end ModelConfig

namespace ResolvedConfig

def ofFile (tree : FileTree) (path : String) (defaults : ResolvedConfig) : Logged ResolvedConfig :=
  if tree.isFile path then
    match ModelConfig.ofFile tree path with
    | .ok config => do
      let resolved ← config.resolve defaults
      Logged.tell (.configResolved path resolved)
      pure resolved
    | .error _ => do
      Logged.tell (.configMalformed path)
      pure defaults
  else do
    Logged.tell (.configMissing path)
    pure defaults

def ofModelDir (tree : FileTree) (dir : String) (defaults : ResolvedConfig) :
    Logged ResolvedConfig :=
  ofFile tree (Path.join dir ModelConfig.fileName) defaults

end ResolvedConfig

end ZeroShot
