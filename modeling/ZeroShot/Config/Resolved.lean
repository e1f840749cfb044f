import ZeroShot.ClassRole

/-! What a model's configuration comes down to: which logit columns are read, and whether inputs
carry token types. -/

namespace ZeroShot

structure ClassIndices where
  entailment : Nat := 2
  contradiction : Nat := 0
deriving DecidableEq, Repr, Inhabited

namespace ClassIndices

def get (indices : ClassIndices) : ClassRole → Nat
  | .entailment => indices.entailment
  | .contradiction => indices.contradiction

def set (indices : ClassIndices) (role : ClassRole) (index : Nat) : ClassIndices :=
  match role with
  | .entailment => { indices with entailment := index }
  | .contradiction => { indices with contradiction := index }

@[simp] theorem get_set_self (indices : ClassIndices) (role : ClassRole) (index : Nat) :
    (indices.set role index).get role = index := by
  cases role <;> rfl

theorem get_set_of_ne {role other : ClassRole} (indices : ClassIndices) (index : Nat)
    (h : other ≠ role) : (indices.set role index).get other = indices.get other := by
  cases role <;> cases other <;> first | rfl | exact absurd rfl h

end ClassIndices

structure ResolvedConfig where
  indices : ClassIndices := {}
  useTokenType : Bool := false
deriving DecidableEq, Repr, Inhabited

end ZeroShot
