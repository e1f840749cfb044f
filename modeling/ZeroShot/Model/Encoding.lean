import ZeroShot.Config.Resolved

/-! Token ids of a premise and a hypothesis, shaped as a graph wants them: with or without token
types, in 64 bits or in 32. -/

namespace ZeroShot

structure EncodingShape where
  useTokenType : Bool := false
  int32 : Bool := false
deriving DecidableEq, Repr, Inhabited

def EncodingShape.ofResolved (resolved : ResolvedConfig) (int32 : Bool) : EncodingShape :=
  ⟨resolved.useTokenType, int32⟩

structure Tokens where
  ids : List UInt32
  attentionMask : List UInt32
  typeIds : List UInt32
deriving DecidableEq, Repr, Inhabited

structure EncodedPair (α : Type) where
  inputIds : List α
  attentionMask : List α
  tokenTypeIds : Option (List α)
deriving DecidableEq, Repr

inductive EncodedInput where
  | wide (pair : EncodedPair Int64)
  | narrow (pair : EncodedPair Int32)
deriving DecidableEq, Repr

namespace EncodedPair

def size (pair : EncodedPair α) : Nat := pair.inputIds.length

def isEmpty (pair : EncodedPair α) : Bool := pair.inputIds.isEmpty

def ofTokens (convert : UInt32 → α) (tokens : Tokens) (useTokenType : Bool) : EncodedPair α :=
  ⟨tokens.ids.map convert, tokens.attentionMask.map convert,
    if useTokenType then some (tokens.typeIds.map convert) else none⟩

end EncodedPair

def widenId (id : UInt32) : Int64 := id.toUInt64.toInt64

/-- An id of `2^31` or more becomes negative. -/
def narrowId (id : UInt32) : Int32 := id.toInt32

namespace EncodedInput

def ofTokens (tokens : Tokens) (shape : EncodingShape) : EncodedInput :=
  if shape.int32 then .narrow (.ofTokens narrowId tokens shape.useTokenType)
  else .wide (.ofTokens widenId tokens shape.useTokenType)

def toInts : EncodedInput → EncodedPair Int
  | wide ⟨ids, mask, types⟩ =>
    ⟨ids.map Int64.toInt, mask.map Int64.toInt, types.map (·.map Int64.toInt)⟩
  | narrow ⟨ids, mask, types⟩ =>
    ⟨ids.map Int32.toInt, mask.map Int32.toInt, types.map (·.map Int32.toInt)⟩

def width : EncodedInput → Nat
  | wide _ => 64
  | narrow _ => 32

def size : EncodedInput → Nat
  | wide pair => pair.size
  | narrow pair => pair.size

def isEmpty : EncodedInput → Bool
  | wide pair => pair.isEmpty
  | narrow pair => pair.isEmpty

def hasTokenTypes : EncodedInput → Bool
  | wide pair => pair.tokenTypeIds.isSome
  | narrow pair => pair.tokenTypeIds.isSome

end EncodedInput

end ZeroShot
