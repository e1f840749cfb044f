import ZeroShot.Config.Resolved
import ZeroShot.Score.LogitMatrix
import ZeroShot.Score.Softmax

/-! Scores of candidates from their logits.

Under the independent policy each candidate is judged on its own, entailment against contradiction;
under the exclusive policy the entailment logits of all candidates are normalized against each
other. -/

namespace ZeroShot

inductive Policy where
  | independent
  | exclusive
deriving DecidableEq, Repr

namespace Policy

/-- A single candidate is judged on its own: normalized against itself it would always score one. -/
def select (multiLabel : Bool) (candidates : Nat) : Policy :=
  if multiLabel || candidates = 1 then independent else exclusive

def name : Policy → String
  | independent => "independent"
  | exclusive => "exclusive"

end Policy

variable {α : Type} [Arithmetic α]

/-- A row of two classes is normalized whole; of a wider one only the two that matter are. -/
def independentScore {width : Nat} (row : Fin width → α)
    (entailment contradiction : Fin width) : α :=
  if width = 2 then (softmax (List.ofFn row)).get (entailment.cast (by simp))
  else (softmax [row contradiction, row entailment]).get ⟨1, by simp⟩

namespace LogitMatrix

def scoresUnder (m : LogitMatrix α) (policy : Policy) (entailment contradiction : Fin m.width) :
    List α :=
  match policy with
  | .independent =>
    (List.finRange m.height).map fun i => independentScore (m.entry i) entailment contradiction
  | .exclusive => softmax (m.column entailment)

/-- One score for each row, in order. Both classes must have their columns, whichever are read. -/
def score (m : LogitMatrix α) (indices : ClassIndices) (multiLabel : Bool) :
    Except Error (List α) :=
  if m.isEmpty then .error (.input .nothingToScore)
  else do
    let entailment ← m.index .entailment indices.entailment
    let contradiction ← m.index .contradiction indices.contradiction
    return m.scoresUnder (Policy.select multiLabel m.height) entailment contradiction

@[simp] theorem length_scoresUnder (m : LogitMatrix α) (policy : Policy) (e c : Fin m.width) :
    (m.scoresUnder policy e c).length = m.height := by
  cases policy <;> simp [scoresUnder]

end LogitMatrix

end ZeroShot
