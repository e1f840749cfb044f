import ZeroShot.Classifier.Basic
import ZeroShot.Proofs.Schedule.Window

/-! What a request gets from its calls, and which calls it makes.

The backend is one without a way of its own for many pairs, and its calls go as some course says.
The answer is then that of asking about one candidate after another, and the calls are those of a
window of limited room. -/

namespace ZeroShot

open Schedule

namespace Course

theorem getElem?_inquiries (course : Course) (pairs : List (String × String)) (i : Nat) :
    (course.inquiries pairs)[i]? = pairs[i]?.map fun p => ⟨p, course i p.1 p.2⟩ := by
  rw [inquiries, List.getElem?_mapIdx]

@[simp] theorem pairs_inquiries (course : Course) (pairs : List (String × String)) :
    (course.inquiries pairs).map Inquiry.pair = pairs := by
  apply List.ext_getElem?
  intro i
  rw [List.getElem?_map, getElem?_inquiries]
  cases pairs[i]? <;> rfl

theorem outcomes_inquiries {course : Course} {outcome : String → String → Except Error Row}
    (h : ∀ place premise hypothesis,
      (course place premise hypothesis).outcome = outcome premise hypothesis)
    (pairs : List (String × String)) :
    (course.inquiries pairs).map (fun q => q.call.outcome) =
      pairs.map fun p => outcome p.1 p.2 := by
  apply List.ext_getElem?
  intro i
  rw [List.getElem?_map, List.getElem?_map, getElem?_inquiries]
  cases pairs[i]? with
  | none => rfl
  | some p => simp [h]

end Course

/-- Both ways of asking are runs with that much room. -/
theorem Backend.askAll_eq_run {backend : Backend} (hbatch : backend.batch = none) {room : Nat}
    (hroom : 1 ≤ room) (pairs : List (String × String)) (course : Course) :
    backend.askAll room pairs course = .ofRun (Schedule.run room (course.inquiries pairs)) := by
  unfold Backend.askAll
  split
  · have hone : room = 1 := by omega
    rw [hone, run_one, Backend.askBatch, hbatch]
  · rfl

namespace Classifier

theorem classify_nil (c : Classifier) (course : Course) (text template : String)
    (multiLabel : Bool) :
    c.classify text [] template multiLabel course = { result := .error (.input .noCandidates) } :=
  rfl

theorem rankRows_of_length_eq (c : Classifier) (text : String) {candidates : List String}
    (multiLabel : Bool) {rows : List Row} (h : rows.length = candidates.length) :
    c.rankRows text candidates multiLabel rows = (do
      let logits ← (LogitMatrix.ofRows rows).mapError .shape
      ZeroShot.rankLogits c.resolved text candidates logits multiLabel) := by
  rw [rankRows, if_neg (by simp [h])]
  rfl

section

variable {c : Classifier} {course : Course} {candidates : List String}

theorem result_classify (hbatch : c.backend.batch = none) (hroom : 1 ≤ c.options.maxConcurrency)
    (hcandidates : candidates ≠ []) (text template : String) (multiLabel : Bool) :
    (c.classify text candidates template multiLabel course).result =
      (inTurn ((course.inquiries (pairs text template candidates)).map fun q =>
        q.call.outcome)).bind (c.rankRows text candidates multiLabel) := by
  rw [classify, if_neg (by simpa using hcandidates)]
  rw [Backend.askAll_eq_run hbatch hroom]
  rw [← outcome_run]
  rfl

theorem activity_classify (hbatch : c.backend.batch = none) (hroom : 1 ≤ c.options.maxConcurrency)
    (hcandidates : candidates ≠ []) (text template : String) (multiLabel : Bool) :
    (c.classify text candidates template multiLabel course).activity =
      (Answers.ofRun (Schedule.run c.options.maxConcurrency
        (course.inquiries (pairs text template candidates)))).activity := by
  rw [classify, if_neg (by simpa using hcandidates)]
  rw [Backend.askAll_eq_run hbatch hroom]

end

/-- The answer of a request that asks about one candidate after another, up to the first failure. -/
def oneByOne (resolved : ResolvedConfig)
    (outcome : (premise hypothesis : String) → Except Error Row) (text : String)
    (candidates : List String) (template : String) (multiLabel : Bool) : Except Error Ranking := do
  let rows ← candidates.mapM fun candidate => outcome text (Hypothesis.fill template candidate)
  let logits ← (LogitMatrix.ofRows rows).mapError .shape
  ZeroShot.rankLogits resolved text candidates logits multiLabel

/-- Neither the room for calls nor what the calls take has any influence on the answer. Of several
failures it is the first in the order of the candidates, whichever came first in time. -/
theorem result_classify_eq_oneByOne (c : Classifier) (course : Course) (text : String)
    (candidates : List String) (template : String) (multiLabel : Bool)
    (hbatch : c.backend.batch = none) (hroom : 1 ≤ c.options.maxConcurrency)
    (hcandidates : candidates ≠ [])
    (hcourse : ∀ place premise hypothesis, (course place premise hypothesis).outcome =
      (c.backend.infer premise hypothesis).outcome) :
    let outcome := fun premise hypothesis => (c.backend.infer premise hypothesis).outcome
    let result := (c.classify text candidates template multiLabel course).result
    result = oneByOne c.resolved outcome text candidates template multiLabel ∧
      ∀ k e, FailsFirst (candidates.map fun candidate =>
        outcome text (Hypothesis.fill template candidate)) k e → result = .error e := by
  intro outcome result
  have houtcomes : (course.inquiries (pairs text template candidates)).map
        (fun q => q.call.outcome) =
      candidates.map fun candidate => outcome text (Hypothesis.fill template candidate) := by
    rw [Course.outcomes_inquiries hcourse, pairs, List.map_map]
    rfl
  have hresult : result = (inTurn (candidates.map fun candidate =>
      outcome text (Hypothesis.fill template candidate))).bind
        (c.rankRows text candidates multiLabel) := by
    rw [← houtcomes]
    exact result_classify hbatch hroom hcandidates text template multiLabel
  constructor
  · have hrows : inTurn (candidates.map fun candidate =>
        outcome text (Hypothesis.fill template candidate)) =
        candidates.mapM fun candidate => outcome text (Hypothesis.fill template candidate) := by
      rw [inTurn, List.mapM_map]
      rfl
    rw [hresult, oneByOne, ← hrows]
    cases hturn : inTurn (candidates.map fun candidate =>
        outcome text (Hypothesis.fill template candidate)) with
    | error e => rfl
    | ok rows =>
      have hlength : rows.length = candidates.length := by
        simpa using length_of_inTurn hturn
      exact rankRows_of_length_eq c text multiLabel hlength
  · intro k e hfails
    rw [hresult, inTurn_eq_error hfails]
    rfl

def pickyBackend : Backend where
  name := "picky"
  infer _ hypothesis :=
    ⟨.zero, if hypothesis = "a" then .ok [⟨0⟩, ⟨0⟩] else .error (.inference (.reported hypothesis))⟩

def hastyCourse : Course := fun place premise hypothesis =>
  ⟨.ofSeconds (3 - place), (pickyBackend.infer premise hypothesis).outcome⟩

def pickyClassifier (room : Nat) : Classifier := ⟨pickyBackend, {}, { maxConcurrency := room }⟩

/-- "c" fails a second before "b" does, but "b" is the failure of the request. -/
theorem result_classify_eq_oneByOne_late_failure :
    FailsFirst (["a", "b", "c"].map fun candidate =>
        (pickyBackend.infer "text" (Hypothesis.fill "" candidate)).outcome)
      1 (.inference (.reported "b")) ∧
    ((pickyClassifier 3).classify "text" ["a", "b", "c"] "" false hastyCourse).result =
      .error (.inference (.reported "b")) := by
  have hfails : FailsFirst (["a", "b", "c"].map fun candidate =>
        (pickyBackend.infer "text" (Hypothesis.fill "" candidate)).outcome)
      1 (.inference (.reported "b")) := by
    refine ⟨?_, rfl⟩
    intro i hi
    rw [Nat.lt_one_iff] at hi
    subst hi
    exact ⟨[⟨0⟩, ⟨0⟩], rfl⟩
  refine ⟨hfails, ?_⟩
  exact (result_classify_eq_oneByOne (pickyClassifier 3) hastyCourse "text" ["a", "b", "c"] "" false
    rfl (by decide) (by decide) fun _ _ _ => rfl).2 1 _ hfails

/-- A request asks about its candidates in order, none twice and none left out, and no further than
its room for calls allows beyond the first failure. -/
theorem orderly_classify (c : Classifier) (course : Course) (text : String)
    (candidates : List String) (template : String) (multiLabel : Bool)
    (hbatch : c.backend.batch = none) (hroom : 1 ≤ c.options.maxConcurrency)
    (hcandidates : candidates ≠ []) :
    let asked := pairs text template candidates
    let activity := (c.classify text candidates template multiLabel course).activity
    Orderly c.options.maxConcurrency (course.inquiries asked) activity.spans ∧
      activity.questions = activity.spans.map (fun span => .pair span.pair.1 span.pair.2) ∧
      activity.questions <+: asked.map (fun p => .pair p.1 p.2) ∧
      activity.mostAtOnce ≤ c.options.maxConcurrency := by
  intro asked activity
  have hactivity : activity = (Answers.ofRun (Schedule.run c.options.maxConcurrency
      (course.inquiries asked))).activity :=
    activity_classify hbatch hroom hcandidates text template multiLabel
  rw [hactivity]
  refine ⟨orderly_run hroom _, rfl, ?_, peak_run_le hroom _⟩
  have hprefix := isPrefix_pairs_spans_run c.options.maxConcurrency (course.inquiries asked)
  rw [Course.pairs_inquiries] at hprefix
  have hquestions := hprefix.map fun p => Question.pair p.1 p.2
  rw [List.map_map] at hquestions
  exact hquestions

theorem orderly_classify_two_at_once :
    let c := pickyClassifier 2
    let candidates := ["a", "a", "b", "c", "d"]
    let activity := (c.classify "text" candidates "" false hastyCourse).activity
    c.backend.batch = none ∧ 1 ≤ c.options.maxConcurrency ∧ candidates ≠ [] ∧
      activity.questions = ["a", "a", "b", "c"].map (.pair "text") ∧
      Orderly 2 (hastyCourse.inquiries (pairs "text" "" candidates)) activity.spans := by
  intro c candidates activity
  refine ⟨rfl, by decide, by decide, by decide, ?_⟩
  exact (orderly_classify c hastyCourse "text" candidates "" false rfl (by decide) (by decide)).1

end Classifier

end ZeroShot
