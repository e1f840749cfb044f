import ZeroShot.Error

/-! Backends: what stands behind the logits of a premise and a hypothesis.

A call takes a certain time and has a certain outcome. Both depend on the pair alone unless a course
says how each call of a request goes. -/

namespace ZeroShot

abbrev Row := List Binary32

structure Call where
  delay : Duration
  outcome : Except Error Row

/-- A call that is not over at the deadline is given up there. -/
def Call.within (limit : Duration) (call : Call) : Call :=
  if call.delay ≤ limit then call else ⟨limit, .error (.timeout limit)⟩

/-- The outcome of work done aside, which is none if the work broke off. -/
def joined : Option (Except Error α) → Except Error α
  | some outcome => outcome
  | none => .error (.inference .interrupted)

/-- How the calls of one request go, each by its place in the request and its pair: a call may take
longer than an equal one before it, or come out differently. -/
abbrev Course := Nat → (premise hypothesis : String) → Call

structure Backend where
  name : String
  infer : (premise hypothesis : String) → Call
  /-- Rows for many pairs in one call, for a backend that has a way of its own to get them. -/
  batch : Option (List (String × String) → Except Error (List Row)) := none

namespace Backend

def course (backend : Backend) : Course := fun _ => backend.infer

/-- Every call has a deadline of its own, and there are no calls for many pairs. -/
def withDeadline (limit : Duration) (backend : Backend) : Backend where
  name := backend.name
  infer premise hypothesis := (backend.infer premise hypothesis).within limit

@[simp] theorem name_withDeadline (limit : Duration) (backend : Backend) :
    (backend.withDeadline limit).name = backend.name := rfl

@[simp] theorem infer_withDeadline (limit : Duration) (backend : Backend)
    (premise hypothesis : String) :
    (backend.withDeadline limit).infer premise hypothesis =
      (backend.infer premise hypothesis).within limit := rfl

end Backend

end ZeroShot
