import ZeroShot.Text.Split

/-! File paths as text. Slashes set steps apart; an empty step and a single dot lead nowhere. -/

namespace ZeroShot.Path

def steps (path : String) : List String := Text.split '/' path

def isAbsolute (path : String) : Bool := path.toList.head? = some '/'

/-- An absolute path stands for itself, whatever it is joined to. -/
def join (base path : String) : String :=
  if isAbsolute path || base.isEmpty then path
  else if base.toList.getLast? = some '/' then base ++ path
  else base ++ "/" ++ path

def fileName? (path : String) : Option String :=
  match (steps path).reverse.find? fun step => step ≠ "" ∧ step ≠ "." with
  | some step => if step = ".." then none else some step
  | none => none

/-- Drops slashes and single dots behind a slash from the end; characters are last first. -/
def dropIdleSteps : List Char → List Char
  | '/' :: c :: rest => dropIdleSteps (c :: rest)
  | '.' :: '/' :: c :: rest => dropIdleSteps ('/' :: c :: rest)
  | chars => chars
termination_by chars => chars.length

def parent (path : String) : String :=
  let reversed := dropIdleSteps path.toList.reverse
  String.ofList (dropIdleSteps (reversed.dropWhile (· ≠ '/'))).reverse

end ZeroShot.Path
