/-! The two classes of a natural language inference model that scoring reads. -/

namespace ZeroShot

inductive ClassRole where
  | entailment
  | contradiction
deriving DecidableEq, Repr, Inhabited

def ClassRole.name : ClassRole → String
  | entailment => "entailment"
  | contradiction => "contradiction"

end ZeroShot
