import ZeroShot.Path

/-! Files and directories, as far as they are known.

A place is a list of steps from the root that holds no dots. Paths that are not absolute lead on
from a working directory. -/

namespace ZeroShot

inductive FileTree.Entry where
  | file (content : ByteArray)
  | directory

/-- The parents of each place are directories too, and so are those of the working directory. -/
structure FileTree where
  working : List String
  files : List (List String × ByteArray)
  directories : List (List String)

namespace FileTree

abbrev Place := List String

def ofWorking (working : Place) : FileTree := ⟨working, [], []⟩

def properSteps (path : String) : List String :=
  (Path.steps path).filter fun step => step ≠ "" ∧ step ≠ "."

def start (tree : FileTree) (path : String) : Place :=
  if Path.isAbsolute path then [] else tree.working

/-- Nothing is above the root. -/
def stepFrom (place : Place) (step : String) : Place :=
  if step = "" ∨ step = "." then place
  else if step = ".." then place.dropLast
  else place ++ [step]

def trail (place : Place) : List String → List Place × Place
  | [] => ([], place)
  | step :: rest =>
    let (passed, last) := trail (stepFrom place step) rest
    (place :: passed, last)

/-- Every place on the way to the file becomes a directory. -/
def insertFile (tree : FileTree) (path : String) (content : ByteArray) : FileTree :=
  let (passed, last) := trail (tree.start path) (Path.steps path)
  { tree with files := (last, content) :: tree.files, directories := passed ++ tree.directories }

def insertDirectory (tree : FileTree) (path : String) : FileTree :=
  let (passed, last) := trail (tree.start path) (Path.steps path)
  { tree with directories := passed ++ last :: tree.directories }

def entry? (tree : FileTree) (place : Place) : Option Entry :=
  match tree.files.find? fun (file, _) => file = place with
  | some (_, content) => some (.file content)
  | none =>
    if place = [] || place.isPrefixOf tree.working || tree.directories.any place.isPrefixOf
        || tree.files.any fun (file, _) => place.isPrefixOf file then
      some .directory
    else none

/-- A step can only be taken from a directory. -/
def step (tree : FileTree) (place : Place) (step : String) : Option Place :=
  match tree.entry? place with
  | some .directory => some (stepFrom place step)
  | _ => none

def find? (tree : FileTree) (path : String) : Option Entry :=
  if path = "" then none
  else ((Path.steps path).foldlM tree.step (tree.start path)).bind tree.entry?

def exists? (tree : FileTree) (path : String) : Bool := (tree.find? path).isSome

def isFile (tree : FileTree) (path : String) : Bool :=
  match tree.find? path with
  | some (.file _) => true
  | _ => false

def isDirectory (tree : FileTree) (path : String) : Bool :=
  match tree.find? path with
  | some .directory => true
  | _ => false

def read? (tree : FileTree) (path : String) : Option ByteArray :=
  match tree.find? path with
  | some (.file content) => some content
  | _ => none

theorem isFile_eq_isSome_read? (tree : FileTree) (path : String) :
    tree.isFile path = (tree.read? path).isSome := by
  unfold isFile read?
  split <;> rfl

def readText? (tree : FileTree) (path : String) : Option String :=
  (tree.read? path).bind String.fromUTF8?

end FileTree

end ZeroShot
