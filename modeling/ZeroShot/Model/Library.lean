import ZeroShot.FileTree

/-! The files at hand, among them those of repositories that a cache holds. -/

namespace ZeroShot

/-- The files, and the directory of them that holds the repositories' caches. -/
structure Library where
  tree : FileTree
  cache : String

namespace Library

def repoDir (library : Library) (id : String) : String :=
  Path.join library.cache ("models--" ++ "--".intercalate (Path.steps id))

def revisionPath (library : Library) (id : String) : String :=
  Path.join (Path.join (library.repoDir id) "refs") "main"

def snapshotPath (library : Library) (id revision file : String) : String :=
  Path.join (Path.join (Path.join (library.repoDir id) "snapshots") revision) file

/-- A file of the revision that the cache holds as the main one. -/
def cached? (library : Library) (id file : String) : Option String := do
  let revision ← library.tree.readText? (library.revisionPath id)
  let path := library.snapshotPath id revision file
  if library.tree.exists? path then some path else none

def fetch (library : Library) (id file : String) : Except String String :=
  match library.cached? id file with
  | some path => .ok path
  | none => .error "not in the cache"

end Library

structure CacheVariables where
  cacheDir : Option String
  cacheHome : Option String
  home : Option String
deriving DecidableEq, Repr

/-- A cache directory set for this program counts before the user's, and that only if it is
absolute. -/
def CacheVariables.modelCache (env : CacheVariables) : String :=
  match env.cacheDir with
  | some dir => dir
  | none =>
    let base := match env.cacheHome.filter Path.isAbsolute with
      | some dir => dir
      | none => match env.home with
        | some home => Path.join home ".cache"
        | none => ".cache"
    Path.join (Path.join base "mimir") "models"

end ZeroShot
