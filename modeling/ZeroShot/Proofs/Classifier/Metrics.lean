import Mathlib.Algebra.BigOperators.Group.List.Basic
import ZeroShot.Proofs.Classifier.Calls
import ZeroShot.Proofs.Ranking.Stability

/-! What the metrics of requests add up to.

A run is any sequence of requests to any classifiers. What a metric counts over a run is the sum of
what it counts for each request: one outcome and one duration under the name of the backend and the
policy of the scores, and as many calls as there are candidates. Calls are counted when a request is
taken up, so a failure that keeps some of them from being made is not taken off again. -/

namespace ZeroShot

open Schedule

namespace Classifier

variable {c : Classifier} {course : Course} {candidates : List String}

theorem events_classify (h : candidates ≠ []) (text template : String) (multiLabel : Bool) :
    (c.classify text candidates template multiLabel course).events =
      [.callsRequested c.backend.name candidates.length,
       .requestFinished c.backend.name (Policy.select multiLabel candidates.length)
         (c.classify text candidates template multiLabel course).result.isOk] := by
  rw [classify, if_neg (by simpa using h)]

end Classifier

structure Turn where
  classifier : Classifier
  request : Request
  course : Course := classifier.backend.course

namespace Turn

def outcome (t : Turn) : Classification :=
  t.classifier.classify t.request.text t.request.candidates t.request.hypothesisTemplate
    t.request.multiLabel t.course

def answers (t : Turn) : Answers :=
  t.classifier.backend.askAll t.classifier.options.maxConcurrency
    (Classifier.pairs t.request.text t.request.hypothesisTemplate t.request.candidates) t.course

def backend (t : Turn) : String := t.classifier.backend.name

def policy (t : Turn) : Policy := Policy.select t.request.multiLabel t.request.candidates.length

def isTaken (t : Turn) : Bool := !t.request.candidates.isEmpty

def goesTo (t : Turn) (backend : String) (policy : Policy) : Bool :=
  t.isTaken && t.backend = backend && t.policy = policy

/-- What the request alone adds to a metric. -/
def tally (t : Turn) : Metric → Nat
  | .classifyRequests backend policy succeeded =>
    if t.goesTo backend policy && t.outcome.result.isOk = succeeded then 1 else 0
  | .classifyDuration backend policy => if t.goesTo backend policy then 1 else 0
  | .inferenceCalls backend =>
    if t.isTaken && t.backend = backend then t.request.candidates.length else 0
  | .configFallbacks _ => 0

def journal (turns : List Turn) : List Event := turns.flatMap fun t => t.outcome.events

theorem outcome_of_no_candidates {t : Turn} (h : t.request.candidates = []) :
    t.outcome = { result := .error (.input .noCandidates) } := by
  rw [outcome, h]
  exact Classifier.classify_nil _ _ _ _ _

theorem events_outcome {t : Turn} (h : t.request.candidates ≠ []) :
    t.outcome.events =
      [.callsRequested t.backend t.request.candidates.length,
       .requestFinished t.backend t.policy t.outcome.result.isOk] :=
  Classifier.events_classify h _ _ _

theorem isTaken_iff {t : Turn} : t.isTaken = true ↔ t.request.candidates ≠ [] := by
  simp [isTaken]

theorem countOf_outcome (t : Turn) (metric : Metric) :
    countOf metric t.outcome.events = t.tally metric := by
  by_cases h : t.request.candidates = []
  · have htaken : t.isTaken = false := by simp [isTaken, h]
    rw [outcome_of_no_candidates h]
    cases metric <;> simp [tally, goesTo, htaken]
  · have htaken : t.isTaken = true := isTaken_iff.2 h
    rw [events_outcome h, countOf_cons, countOf_cons]
    simp only [Event.counts]
    cases metric with
    | classifyRequests backend policy succeeded =>
      simp [tally, goesTo, htaken, List.count_replicate, List.count_cons, and_assoc]
    | classifyDuration backend policy =>
      simp [tally, goesTo, htaken, List.count_replicate, List.count_cons]
    | inferenceCalls backend => simp [tally, htaken, List.count_replicate]
    | configFallbacks reason => simp [tally, List.count_replicate]

theorem countOf_journal (turns : List Turn) (metric : Metric) :
    countOf metric (journal turns) = (turns.map fun t => t.tally metric).sum := by
  induction turns with
  | nil => rfl
  | cons t turns ih =>
    rw [journal, List.flatMap_cons, countOf_append, countOf_outcome, ← journal, ih, List.map_cons,
      List.sum_cons]

theorem sum_map_ite_zero (p : Turn → Bool) (f : Turn → Nat) (turns : List Turn) :
    (turns.map fun t => if p t then f t else 0).sum = ((turns.filter p).map f).sum := by
  rw [List.sum_map_ite]
  simp

theorem sum_map_ite_one (p : Turn → Bool) (turns : List Turn) :
    (turns.map fun t => if p t then 1 else 0).sum = turns.countP p := by
  rw [sum_map_ite_zero, List.map_const', List.sum_replicate_nat, Nat.mul_one,
    List.countP_eq_length_filter]

theorem countOf_requests (turns : List Turn) (backend : String) (policy : Policy)
    (succeeded : Bool) :
    countOf (.classifyRequests backend policy succeeded) (journal turns) =
      turns.countP fun t => t.goesTo backend policy && t.outcome.result.isOk = succeeded := by
  rw [countOf_journal, ← sum_map_ite_one]
  rfl

theorem countOf_durations (turns : List Turn) (backend : String) (policy : Policy) :
    countOf (.classifyDuration backend policy) (journal turns) =
      turns.countP fun t => t.goesTo backend policy := by
  rw [countOf_journal, ← sum_map_ite_one]
  rfl

theorem countOf_calls (turns : List Turn) (backend : String) :
    countOf (.inferenceCalls backend) (journal turns) =
      ((turns.filter fun t => t.isTaken && t.backend = backend).map fun t =>
        t.request.candidates.length).sum := by
  rw [countOf_journal, ← sum_map_ite_zero]
  rfl

theorem countP_succeeded_add_countP_failed (turns : List Turn) (p : Turn → Bool) :
    (turns.countP fun t => p t && t.outcome.result.isOk = true) +
      (turns.countP fun t => p t && t.outcome.result.isOk = false) = turns.countP p := by
  have hsplit := List.length_eq_countP_add_countP (fun t : Turn => t.outcome.result.isOk)
    (l := turns.filter p)
  rw [List.countP_filter, List.countP_filter, ← List.countP_eq_length_filter] at hsplit
  simpa [Bool.and_comm] using hsplit.symm

/-- Over any run every request that has candidates is counted once, under its backend, its policy
and how it came out, and timed once; its calls are counted by its candidates. A request without
candidates leaves no trace and asks nothing. The policy that is recorded is the one by which the
scores of a ranking were made. -/
theorem metrics_conserved (turns : List Turn) (backend : String) (policy : Policy) :
    let events := journal turns
    let requests := fun succeeded => countOf (.classifyRequests backend policy succeeded) events
    requests true + requests false = countOf (.classifyDuration backend policy) events ∧
    countOf (.classifyDuration backend policy) events =
      (turns.countP fun t => t.goesTo backend policy) ∧
    requests true = (turns.countP fun t => t.goesTo backend policy && t.outcome.result.isOk) ∧
    countOf (.inferenceCalls backend) events =
      ((turns.filter fun t => t.isTaken && t.backend = backend).map fun t =>
        t.request.candidates.length).sum ∧
    (∀ t ∈ turns, t.request.candidates = [] →
      t.outcome.result = .error (.input .noCandidates) ∧ t.outcome.events = [] ∧
        t.outcome.activity = {}) ∧
    (∀ t ∈ turns, ∀ r, t.outcome.result = .ok r →
      t.outcome.events = [.callsRequested t.backend t.request.candidates.length,
        .requestFinished t.backend t.policy true] ∧
      ∃ rows logits, t.answers.rows = .ok rows ∧ LogitMatrix.ofRows rows = .ok logits ∧
        r.ScoredUnder t.classifier.resolved t.policy t.request.multiLabel t.request.text
          t.request.candidates logits) := by
  intro events requests
  have hdurations := countOf_durations turns backend policy
  refine ⟨?_, hdurations, ?_, countOf_calls turns backend, ?_, ?_⟩
  · rw [hdurations, ← countP_succeeded_add_countP_failed, ← countOf_requests, ← countOf_requests]
  · simpa using countOf_requests turns backend policy true
  · intro t _ h
    rw [outcome_of_no_candidates h]
    exact ⟨rfl, rfl, rfl⟩
  · intro t _ r h
    have htaken : t.request.candidates ≠ [] := by
      intro hempty
      rw [outcome_of_no_candidates hempty] at h
      cases h
    refine ⟨?_, Classifier.scoredUnder_of_classify_eq_ok h⟩
    rw [events_outcome htaken, h]
    rfl

def repeatingTurn (entailment : Nat) (candidates : List String) : Turn where
  classifier := ⟨repeatingBackend, { indices := ⟨entailment, 0⟩ }, {}⟩
  request := { text := "text", candidates }

def mixedTurns : List Turn :=
  [repeatingTurn 2 ["a", "b"], repeatingTurn 2 ["a"], repeatingTurn 3 ["a", "b", "c"],
   ⟨Classifier.pickyClassifier 2, { text := "text", candidates := ["a", "b"] },
    Classifier.hastyCourse⟩, repeatingTurn 2 []]

theorem metrics_conserved_mixed :
    let events := journal mixedTurns
    countOf (.classifyRequests "repeating" .exclusive true) events = 1 ∧
    countOf (.classifyRequests "repeating" .exclusive false) events = 1 ∧
    countOf (.classifyDuration "repeating" .exclusive) events = 2 ∧
    countOf (.inferenceCalls "repeating") events = 6 ∧
    (repeatingTurn 2 []).outcome.result = .error (.input .noCandidates) ∧
    ∃ r rows logits, (repeatingTurn 2 ["a"]).outcome.result = .ok r ∧
      (repeatingTurn 2 ["a"]).answers.rows = .ok rows ∧ LogitMatrix.ofRows rows = .ok logits ∧
      r.ScoredUnder { indices := ⟨2, 0⟩ } .independent false "text" ["a"] logits := by
  intro events
  obtain ⟨hsum, hdurations, hsucceeded, hcalls, hrefused, hscored⟩ :=
    metrics_conserved mixedTurns "repeating" .exclusive
  have hone : countOf (.classifyRequests "repeating" .exclusive true) events = 1 :=
    hsucceeded.trans (by decide +kernel)
  have htwo : countOf (.classifyDuration "repeating" .exclusive) events = 2 :=
    hdurations.trans (by decide +kernel)
  have hsplit : countOf (.classifyRequests "repeating" .exclusive true) events +
      countOf (.classifyRequests "repeating" .exclusive false) events = 2 := hsum.trans htwo
  have hranked : ∃ r, (repeatingTurn 2 ["a"]).outcome.result = .ok r := ⟨_, rfl⟩
  obtain ⟨r, hr⟩ := hranked
  obtain ⟨-, rows, logits, hrows, hlogits, hunder⟩ :=
    hscored (repeatingTurn 2 ["a"]) (by simp [mixedTurns]) r hr
  exact ⟨hone, by omega, htwo, hcalls.trans (by decide +kernel),
    (hrefused (repeatingTurn 2 []) (by simp [mixedTurns]) rfl).1, r, rows, logits, hr, hrows,
    hlogits, hunder⟩

end Turn

namespace Classifier

theorem countOf_calls_classify (c : Classifier) (course : Course) (text : String)
    {candidates : List String} (h : candidates ≠ []) (template : String) (multiLabel : Bool) :
    countOf (.inferenceCalls c.backend.name)
      (c.classify text candidates template multiLabel course).events = candidates.length := by
  rw [events_classify h, countOf_cons, countOf_cons]
  simp [Event.counts]

/-- A request is counted for as many calls as it has candidates. It makes all of them if none fails,
and after the first failure makes none beyond its room for calls: what is left of the candidates
then has been counted, but is never sent. -/
theorem calls_made_le_counted (c : Classifier) (course : Course) (text : String)
    (candidates : List String) (template : String) (multiLabel : Bool)
    (hbatch : c.backend.batch = none) (hroom : 1 ≤ c.options.maxConcurrency)
    (hcandidates : candidates ≠ []) :
    let outcomes := (course.inquiries (pairs text template candidates)).map fun q => q.call.outcome
    let classification := c.classify text candidates template multiLabel course
    let counted := countOf (.inferenceCalls c.backend.name) classification.events
    let made := classification.activity.questions.length
    counted = candidates.length ∧ made ≤ counted ∧
    ((∀ outcome ∈ outcomes, ∃ row, outcome = .ok row) → made = counted) ∧
    ∀ k e, FailsFirst outcomes k e → classification.result = .error e ∧
      k + 1 ≤ made ∧ made ≤ min counted (k + c.options.maxConcurrency) := by
  intro outcomes classification counted made
  have hcounted : counted = candidates.length :=
    c.countOf_calls_classify course text hcandidates template multiLabel
  have hactivity : classification.activity = (Answers.ofRun (Schedule.run c.options.maxConcurrency
      (course.inquiries (pairs text template candidates)))).activity :=
    activity_classify hbatch hroom hcandidates text template multiLabel
  have horderly := orderly_run hroom (course.inquiries (pairs text template candidates))
  have hmade : made = (Schedule.run c.options.maxConcurrency
      (course.inquiries (pairs text template candidates))).spans.length := by
    simp only [made, hactivity, Answers.ofRun, List.length_map]
  have hinquiries : (course.inquiries (pairs text template candidates)).length = counted := by
    rw [hcounted, Course.inquiries, List.length_mapIdx, pairs, List.length_map]
  refine ⟨hcounted, ?_, ?_, ?_⟩
  · have hprefix := horderly.in_order.length_le
    rwa [List.length_map, List.length_map, ← hmade, hinquiries] at hprefix
  · intro hok
    have hcomplete := horderly.complete fun q hq => hok _ (List.mem_map_of_mem hq)
    have hlength := congrArg List.length hcomplete
    rwa [List.length_map, List.length_map, ← hmade, hinquiries] at hlength
  · intro k e hfails
    refine ⟨?_, ?_⟩
    · simp only [classification]
      rw [result_classify hbatch hroom hcandidates, inTurn_eq_error hfails]
      rfl
    · have hfailure := horderly.up_to_failure k e hfails
      rwa [← hmade, hinquiries] at hfailure

theorem calls_made_le_counted_two_at_once :
    let c := pickyClassifier 2
    let candidates := ["a", "a", "b", "c", "d"]
    let classification := c.classify "text" candidates "" false hastyCourse
    c.backend.batch = none ∧ 1 ≤ c.options.maxConcurrency ∧ candidates ≠ [] ∧
      countOf (.inferenceCalls "picky") classification.events = 5 ∧
      3 ≤ classification.activity.questions.length ∧
      classification.activity.questions.length ≤ 4 := by
  intro c candidates classification
  have hfails : FailsFirst ((hastyCourse.inquiries (pairs "text" "" candidates)).map fun q =>
      q.call.outcome) 2 (.inference (.reported "b")) := by
    refine ⟨?_, rfl⟩
    intro i hi
    obtain rfl | rfl : i = 0 ∨ i = 1 := by omega
    · exact ⟨_, rfl⟩
    · exact ⟨_, rfl⟩
  obtain ⟨hcounted, -, -, hfailure⟩ :=
    calls_made_le_counted c hastyCourse "text" candidates "" false rfl (by decide) (by decide)
  obtain ⟨-, hleast, hmost⟩ := hfailure 2 _ hfails
  exact ⟨rfl, by decide, by decide, hcounted, hleast, le_trans hmost (Nat.min_le_right _ _)⟩

/-- Four calls are counted where the first one fails and only the one beside it was made as well. -/
theorem calls_counted_never_made :
    let c := pickyClassifier 2
    let classification := c.classify "text" ["b", "a", "c", "d"] "" false hastyCourse
    c.backend.batch = none ∧ 2 ≤ c.options.maxConcurrency ∧
      classification.activity.questions = ["b", "a"].map (.pair "text") ∧
      countOf (.inferenceCalls c.backend.name) classification.events = 4 := by
  decide

end Classifier

end ZeroShot
