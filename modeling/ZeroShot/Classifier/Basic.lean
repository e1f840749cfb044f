import ZeroShot.Classifier.Options
import ZeroShot.Classifier.Request
import ZeroShot.Classifier.Schedule
import ZeroShot.Journal
import ZeroShot.Score.Ranking

/-! Classifying a text: each candidate label becomes a hypothesis, a backend says how far the text
entails it, and the candidates are ranked by that. -/

namespace ZeroShot

inductive Question where
  | pair (premise hypothesis : String)
  | batch (pairs : List (String × String))
deriving DecidableEq, Repr

/-- What a backend did for one request: what it was asked, and the calls for single pairs, both in
the order in which they were started. -/
structure Activity where
  questions : List Question := []
  spans : List Schedule.Span := []
  mostAtOnce : Nat := 0
  elapsed : Duration := .zero
deriving DecidableEq, Repr, Inhabited

/-- The answers to several pairs, in order, and what it took to get them. -/
structure Answers where
  rows : Except Error (List Row)
  activity : Activity

namespace Answers

def ofRun (run : Schedule.Run) : Answers where
  rows := run.outcome
  activity :=
    { questions := run.spans.map fun span => .pair span.pair.1 span.pair.2
      spans := run.spans
      mostAtOnce := Schedule.peak [] run.spans
      elapsed := ⟨run.finish⟩ }

end Answers

def Course.inquiries (course : Course) (pairs : List (String × String)) : List Schedule.Inquiry :=
  pairs.mapIdx fun place pair => ⟨pair, course place pair.1 pair.2⟩

namespace Backend

def ask (backend : Backend) (premise hypothesis : String) : Answers :=
  .ofRun (Schedule.sequentially 0 (backend.course.inquiries [(premise, hypothesis)]))

/-- Pair after pair, unless the backend has its own way for many. -/
def askBatch (backend : Backend) (pairs : List (String × String))
    (course : Course := backend.course) : Answers :=
  match backend.batch with
  | some answer => ⟨answer pairs, { questions := [.batch pairs] }⟩
  | none => .ofRun (Schedule.sequentially 0 (course.inquiries pairs))

def askAll (backend : Backend) (maxConcurrency : Nat) (pairs : List (String × String))
    (course : Course := backend.course) : Answers :=
  if maxConcurrency ≤ 1 then backend.askBatch pairs course
  else .ofRun (Schedule.run maxConcurrency (course.inquiries pairs))

end Backend

structure Classifier where
  backend : Backend
  resolved : ResolvedConfig
  options : Options

structure Classification where
  result : Except Error Ranking
  activity : Activity := {}
  events : List Event := []

namespace Classifier

def rankLogits (c : Classifier) (text : String) (candidates : List String)
    (logits : LogitMatrix Binary32) (multiLabel : Bool) : Except Error Ranking :=
  ZeroShot.rankLogits c.resolved text candidates logits multiLabel

def pairs (text template : String) (candidates : List String) : List (String × String) :=
  candidates.map fun candidate => (text, Hypothesis.fill template candidate)

def rankRows (c : Classifier) (text : String) (candidates : List String) (multiLabel : Bool)
    (rows : List Row) : Except Error Ranking :=
  if rows.length ≠ candidates.length then
    .error (.shape (.answeredRows rows.length candidates.length))
  else do
    let logits ← (LogitMatrix.ofRows rows).mapError .shape
    c.rankLogits text candidates logits multiLabel

/-- A request without candidates is refused before anything is counted. The calls of any other are
counted when it is taken up, and the request itself when it is done. -/
def classify (c : Classifier) (text : String) (candidates : List String) (template : String)
    (multiLabel : Bool) (course : Course := c.backend.course) : Classification :=
  if candidates.isEmpty then { result := .error (.input .noCandidates) }
  else
    let answers :=
      c.backend.askAll c.options.maxConcurrency (pairs text template candidates) course
    let result := answers.rows.bind (c.rankRows text candidates multiLabel)
    { result
      activity := answers.activity
      events :=
        [.callsRequested c.backend.name candidates.length,
         .requestFinished c.backend.name (Policy.select multiLabel candidates.length)
           result.isOk] }

def classifyWithDefaults (c : Classifier) (text : String) (candidates : List String) :
    Classification :=
  c.classify text candidates c.options.hypothesisTemplate c.options.multiLabel

def classifyRequest (c : Classifier) (request : Request) : Classification :=
  c.classify request.text request.candidates request.hypothesisTemplate request.multiLabel

end Classifier

end ZeroShot
