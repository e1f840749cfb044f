import ZeroShot.Text.Split

/-! The words of a command line, by the usual conventions.

A word of a hyphen and more names options: one by its long name after two hyphens, or any number by
single letters. A value is attached to the option, or it is the next word, which then must not be
such a word itself. Two hyphens alone make operands of all words behind them. -/

namespace ZeroShot.CommandLine

inductive Stop where
  | usage
  | help
  | version
deriving DecidableEq, Repr

inductive OptionKind where
  | flag
  /-- With a value, at most once; a path must not be empty. -/
  | value (isPath : Bool)
  /-- With values set apart by commas, any number of times. -/
  | values
  | stop (reason : Stop)
deriving DecidableEq, Repr

def OptionKind.takesValue : OptionKind → Bool
  | flag => false
  | value _ => true
  | values => true
  | stop _ => false

structure OptionForm where
  short : Option Char := none
  long : String
  kind : OptionKind
deriving DecidableEq, Repr

structure OperandForm where
  name : String
  isPath : Bool
deriving DecidableEq, Repr

/-- What words may be given. A word that is the name of a command ends the others. -/
structure Form where
  options : List OptionForm
  operands : List OperandForm := []
  commands : List String := []

/-- What has been read: the values of options and operands by their names, in order. -/
structure Reading where
  given : List (String × String) := []
  operands : Nat := 0
  /-- The option that the next word is a value of. -/
  pending : Option OptionForm := none
  /-- Whether two hyphens went before. -/
  onlyOperands : Bool := false

namespace Reading

def values (r : Reading) (name : String) : List String :=
  (r.given.filter fun (key, _) => key = name).map Prod.snd

def value? (r : Reading) (name : String) : Option String := (r.values name).head?

def isGiven (r : Reading) (name : String) : Bool := (r.value? name).isSome

def put (r : Reading) (name value : String) (isPath : Bool) : Except Stop Reading :=
  if r.isGiven name || (isPath && value.isEmpty) then .error .usage
  else .ok { r with given := r.given ++ [(name, value)] }

def putOption (r : Reading) (option : OptionForm) (value : String) : Except Stop Reading :=
  match option.kind with
  | .flag => r.put option.long "" false
  | .value isPath => r.put option.long value isPath
  | .values =>
    .ok { r with given := r.given ++ (Text.split ',' value).map fun v => (option.long, v) }
  | .stop reason => .error reason

def putOperand (r : Reading) (form : Form) (word : String) : Except Stop Reading :=
  match form.operands[r.operands]? with
  | none => .error .usage
  | some operand => { r with operands := r.operands + 1 }.put operand.name word operand.isPath

def putLong (r : Reading) (form : Form) (word : List Char) : Except Stop Reading :=
  let name := String.ofList (word.takeWhile (· ≠ '='))
  match form.options.find? fun o => o.long = name, word.dropWhile (· ≠ '=') with
  | none, _ => .error .usage
  | some option, _ :: value =>
    if option.kind.takesValue then r.putOption option (String.ofList value) else .error .usage
  | some option, [] =>
    if option.kind.takesValue then .ok { r with pending := some option } else r.putOption option ""

/-- Single letters; what stands behind one that takes a value is its value. -/
def putShort (r : Reading) (form : Form) : List Char → Except Stop Reading
  | [] => .ok r
  | letter :: rest =>
    match form.options.find? fun o => o.short = some letter with
    | none => .error .usage
    | some option =>
      if option.kind.takesValue then
        match rest with
        | [] => .ok { r with pending := some option }
        | '=' :: value => r.putOption option (String.ofList value)
        | value => r.putOption option (String.ofList value)
      else do putShort (← r.putOption option "") form rest

def putWord (r : Reading) (form : Form) (word : String) : Except Stop Reading :=
  match r.onlyOperands, r.pending, word.toList with
  | true, _, _ => r.putOperand form word
  | false, some _, '-' :: _ :: _ => .error .usage
  | false, some option, _ => { r with pending := none }.putOption option word
  | false, none, ['-', '-'] => .ok { r with onlyOperands := true }
  | false, none, '-' :: '-' :: name => r.putLong form name
  | false, none, '-' :: letter :: letters => r.putShort form (letter :: letters)
  | false, none, _ => r.putOperand form word

end Reading

/-- Reads up to the name of a command, which comes with the words behind it. -/
def Form.read (form : Form) (r : Reading) :
    List String → Except Stop (Reading × Option (String × List String))
  | [] => if r.pending.isSome then .error .usage else .ok (r, none)
  | word :: rest =>
    if form.commands.contains word && r.pending.isNone && !r.onlyOperands then
      .ok (r, some (word, rest))
    else do form.read (← r.putWord form word) rest

end ZeroShot.CommandLine
