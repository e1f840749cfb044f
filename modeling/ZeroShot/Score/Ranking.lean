import ZeroShot.Score.Policy

/-! Labels in the order of their scores, highest first.

Scores compare by their position in the total order of bit patterns, and labels of equal scores keep
their order. -/

namespace ZeroShot

def argsort (scores : List Binary64) : List Nat :=
  (scores.zipIdx.mergeSort fun a b => b.1.rank ≤ a.1.rank).map Prod.snd

structure Ranking where
  text : String
  labels : List String
  scores : List Binary64
deriving DecidableEq, Repr

namespace Ranking

def pairs (r : Ranking) : List (String × Binary64) := r.labels.zip r.scores

def top? (r : Ranking) : Option (String × Binary64) := r.pairs.head?

def scoreOf? (r : Ranking) (label : String) : Option Binary64 :=
  (r.pairs.find? fun (l, _) => l = label).map Prod.snd

def size (r : Ranking) : Nat := r.labels.length

def isEmpty (r : Ranking) : Bool := r.labels.isEmpty

def ofScores (text : String) (candidates : List String) (scores : List Binary64) : Ranking :=
  let sorted := (candidates.zip scores).mergeSort fun a b => b.2.rank ≤ a.2.rank
  ⟨text, sorted.map Prod.fst, sorted.map Prod.snd⟩

end Ranking

/-- Scores a matrix of one row for each candidate and ranks the candidates. -/
def rankLogits (resolved : ResolvedConfig) (text : String) (candidates : List String)
    (logits : LogitMatrix Binary32) (multiLabel : Bool) : Except Error Ranking :=
  if logits.height ≠ candidates.length then
    .error (.shape (.rowsForCandidates logits.height candidates.length))
  else do
    let scores ← (logits.map Binary32.widen).score resolved.indices multiLabel
    return Ranking.ofScores text candidates scores

end ZeroShot
