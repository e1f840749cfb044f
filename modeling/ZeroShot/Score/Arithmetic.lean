import ZeroShot.Number.Binary

/-! The arithmetic that scores are computed in.

Softmax and the scores built on it use nothing of their number type but these operations, so each
statement about them can say which laws of arithmetic it needs. -/

namespace ZeroShot

class Arithmetic (α : Type) where
  isPosInf : α → Bool
  isNegInf : α → Bool
  ofNat : Nat → α
  max : α → α → α
  add : α → α → α
  sub : α → α → α
  div : α → α → α
  exp : α → α

/-- Arithmetic on binary64, whatever the exponential function is. -/
@[reducible] def Binary64.arithmetic (exp : Binary64 → Binary64) : Arithmetic Binary64 where
  isPosInf x := x = Binary64.posInf
  isNegInf x := x = Binary64.negInf
  ofNat := Binary64.ofNat
  max := Binary64.max
  add := Binary64.add
  sub := Binary64.sub
  div := Binary64.div
  exp := exp

instance : Arithmetic Binary64 := Binary64.arithmetic Binary64.exp

end ZeroShot
