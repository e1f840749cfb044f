import ZeroShot.Error
import ZeroShot.Model.Encoding

/-! What goes into a graph and what comes out of it. -/

namespace ZeroShot

inductive ElementType where
  | float32
  | float64
  | int32
  | int64
deriving DecidableEq, Repr

structure Feed where
  name : String
  elementType : ElementType
  values : List Int
deriving DecidableEq, Repr

structure Tensor where
  name : String
  elementType : ElementType
  dimensions : List Int
  values : List Binary32
deriving DecidableEq, Repr

namespace EncodedInput

def elementType : EncodedInput → ElementType
  | wide _ => .int64
  | narrow _ => .int32

def feed (input : EncodedInput) (name : String) (values : List Int) : Except DataFault Feed :=
  if values.length = input.size then .ok ⟨name, input.elementType, values⟩
  else .error (.unevenTensor name)

/-- The tensors of an input: token types only where it has them. -/
def feeds (input : EncodedInput) : Except DataFault (List Feed) := do
  let pair := input.toInts
  let ids ← input.feed "input_ids" pair.inputIds
  let mask ← input.feed "attention_mask" pair.attentionMask
  match pair.tokenTypeIds with
  | some types => return [ids, mask, ← input.feed "token_type_ids" types]
  | none => return [ids, mask]

end EncodedInput

namespace Tensor

/-- The first row of a tensor of one or two dimensions. A negative dimension counts modulo `2^64`,
which no tensor holds. -/
def firstRow (dimensions : List Int) (values : List α) : Except ShapeFault (List α) :=
  match dimensions with
  | [labels] | [_, labels] =>
    let width := (labels % 0x10000000000000000).toNat
    if values.length < width then .error (.tensorSize values.length width)
    else .ok (values.take width)
  | _ => .error (.tensorRank dimensions.length)

/-- The first row of the logits among all tensors that come out. -/
def logits (outputs : List Tensor) : Except Error (List Binary32) :=
  match outputs.find? fun tensor => tensor.name = "logits" with
  | none => .error (.data .noLogitsOutput)
  | some tensor =>
    if tensor.elementType ≠ .float32 then .error (.data .logitsNotFloat)
    else (firstRow tensor.dimensions tensor.values).mapError .shape

end Tensor

end ZeroShot
