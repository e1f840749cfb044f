import ZeroShot.Score.Arithmetic

/-! Softmax with the greatest value subtracted first, so that large values do not overflow.

Infinities have their own rules: values of `+∞` share the whole mass, and values that are all `-∞`
share it too. -/

namespace ZeroShot

open Arithmetic

variable {α : Type} [Arithmetic α]

def peak (first : α) (rest : List α) : α := rest.foldl Arithmetic.max first

def total (values : List α) : α := values.foldl add (ofNat 0)

/-- One of `count` equal parts of the mass. -/
def share (count : Nat) : α := div (ofNat 1) (ofNat count)

def weights (peak : α) (values : List α) : List α := values.map fun v => exp (sub v peak)

def normalize (weights : List α) : List α :=
  let sum := total weights
  weights.map fun w => div w sum

def softmax (values : List α) : List α :=
  match values with
  | [] => []
  | first :: rest =>
    if isPosInf (peak first rest) then
      values.map fun v => if isPosInf v then share (values.countP isPosInf) else ofNat 0
    else if values.all isNegInf then
      values.map fun _ => share values.length
    else normalize (weights (peak first rest) values)

@[simp] theorem length_normalize (ws : List α) : (normalize ws).length = ws.length := by
  simp [normalize]

@[simp] theorem length_weights (p : α) (values : List α) :
    (weights p values).length = values.length := by
  simp [weights]

@[simp] theorem length_softmax (values : List α) : (softmax values).length = values.length := by
  cases values with
  | nil => rfl
  | cons first rest => simp only [softmax]; split <;> try split
                       all_goals simp

end ZeroShot
