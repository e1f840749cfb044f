import ZeroShot.FileTree
import ZeroShot.Json.Document
import ZeroShot.Model.Tensor

/-! Graphs that turn token ids into logits, as JSON documents describe them.

A graph checks the tensors that it is fed by name and type. Its output repeats one of them, or is
linear in the weighted sum of all ids. -/

namespace ZeroShot

def ElementType.ofName? : String → Option ElementType
  | "float32" => some float32
  | "float64" => some float64
  | "int32" => some int32
  | "int64" => some int64
  | _ => none

structure Graph where
  inputs : List (String × ElementType)
  output : String
  elementType : ElementType
  shape : List Int
  bias : List Binary64
  slope : List Binary64
  echo : Option String
  failure : Option String
deriving Repr

namespace Graph

def input? : Json → Option (String × ElementType)
  | .array [.string name, .string type] => (ElementType.ofName? type).map fun t => (name, t)
  | _ => none

def dimension? : Json → Option Int
  | .number (.integer n) => some n
  | _ => none

def coefficient? : Json → Option Binary64
  | .number (.integer n) => some (Binary64.ofInt n)
  | .number (.real x) => some x
  | _ => none

def items? (item? : Json → Option α) : Option Json → Option (List α)
  | none | some .null => some []
  | some (.array items) => items.mapM item?
  | _ => none

def text? (default : String) : Option Json → Option String
  | none | some .null => some default
  | some value => value.str?

def optionalText? : Option Json → Option (Option String)
  | none | some .null => some none
  | some value => value.str?.map some

def ofJson? : Json → Option Graph
  | .object members => do
    let field := Members.get? members
    let .array inputs ← field "inputs" | none
    let inputs ← inputs.mapM input?
    let output ← text? "logits" (field "output")
    let type ← text? "float32" (field "type")
    let elementType ← ElementType.ofName? type
    let shape ← items? dimension? (field "shape")
    let bias ← items? coefficient? (field "bias")
    let slope ← items? coefficient? (field "coef")
    let echo ← optionalText? (field "echo")
    let failure ← optionalText? (field "fail")
    some ⟨inputs, output, elementType, shape, bias, slope, echo, failure⟩
  | _ => none

def ofFile (tree : FileTree) (path : String) : Except String Graph :=
  match ((tree.readText? path).bind Json.ofString?).bind ofJson? with
  | some graph => .ok graph
  | none => .error "not a graph"

/-- Each tensor must be an input of that type, and each input must be fed. -/
def check (graph : Graph) (feeds : List Feed) : Except String Unit := do
  for feed in feeds do
    match graph.inputs.find? fun (name, _) => name = feed.name with
    | none => .error ("Invalid input name: " ++ feed.name)
    | some (_, type) =>
      if type ≠ feed.elementType then
        .error ("Unexpected input data type for " ++ feed.name)
  for (name, _) in graph.inputs do
    if !feeds.any fun feed => feed.name = name then
      .error ("Missing Input: " ++ name)

def valuesOf (feeds : List Feed) (name : String) : List Int :=
  match feeds.find? fun feed => feed.name = name with
  | some feed => feed.values
  | none => []

/-- The sum of all ids under the mask; those of the second text count twice. -/
def weightedSum (feeds : List Feed) : Int :=
  let ids := valuesOf feeds "input_ids"
  let masks := valuesOf feeds "attention_mask"
  let types := valuesOf feeds "token_type_ids"
  let types := types ++ List.replicate (ids.length - types.length) 0
  ((ids.zip (masks.zip types)).map fun (id, mask, type) => id * mask * (1 + type)).foldl (· + ·) 0

def cyclic (items : List Binary64) (k : Nat) : Binary64 :=
  (items[k % items.length]?).getD Binary64.zero

def linear (graph : Graph) (sum : Int) : List Binary32 :=
  let size := (graph.shape.foldl (· * ·) 1).toNat
  (List.range size).map fun k =>
    Binary32.ofBinary64
      ((cyclic graph.bias k).add ((cyclic graph.slope k).mul (Binary64.ofInt sum)))

def run (graph : Graph) (feeds : List Feed) : Except String Tensor := do
  graph.check feeds
  if let some text := graph.failure then
    .error text
  match graph.echo with
  | some name =>
    let values := (valuesOf feeds name).map Binary32.ofInt
    return ⟨graph.output, graph.elementType, [1, values.length], values⟩
  | none =>
    return ⟨graph.output, graph.elementType, graph.shape, graph.linear (weightedSum feeds)⟩

end Graph

end ZeroShot
