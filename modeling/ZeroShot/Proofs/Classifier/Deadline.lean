import ZeroShot.Proofs.Classifier.Calls

/-! Calls with a deadline.

Each call has a timer of its own, set when the call is started: what went before it, be it calls or
a wait for room, takes nothing from its time. A request to a backend with a deadline is therefore a
request to a backend without one whose late calls fail. -/

namespace ZeroShot

namespace Schedule

def Inquiry.within (limit : Duration) (q : Inquiry) : Inquiry :=
  { q with call := q.call.within limit }

/-- Starts a call and its timer. A call that is over just when the timer goes off is in time. -/
def startTimed (limit : Duration) (now : Nat) (q : Inquiry) : Started :=
  let due := now + limit.nanoseconds
  let finish := now + q.call.delay.nanoseconds
  if finish ≤ due then ⟨⟨q.pair, now, finish⟩, q.call.outcome⟩
  else ⟨⟨q.pair, now, due⟩, .error (.timeout limit)⟩

theorem start_within (limit : Duration) (now : Nat) (q : Inquiry) :
    start now (q.within limit) = startTimed limit now q := by
  have hdue : now + q.call.delay.nanoseconds ≤ now + limit.nanoseconds ↔ q.call.delay ≤ limit :=
    Nat.add_le_add_iff_left
  simp only [startTimed, hdue, start, Inquiry.within, Call.within]
  split <;> rfl

theorem started_run_within {room : Nat} {limit : Duration} {inquiries : List Inquiry} {i : Nat}
    {call : Started}
    (h : (run room (inquiries.map (.within limit))).started[i]? = some call) :
    ∃ q, inquiries[i]? = some q ∧ call = startTimed limit call.span.start q := by
  obtain ⟨q', t, hq', rfl⟩ := started_run h
  rw [List.getElem?_map, Option.map_eq_some_iff] at hq'
  obtain ⟨q, hq, rfl⟩ := hq'
  exact ⟨q, hq, start_within limit t q⟩

end Schedule

theorem Backend.askAll_eq_run_max {backend : Backend} (hbatch : backend.batch = none) (room : Nat)
    (pairs : List (String × String)) (course : Course) :
    backend.askAll room pairs course =
      .ofRun (Schedule.run (max 1 room) (course.inquiries pairs)) := by
  rcases Nat.eq_zero_or_pos room with rfl | hroom
  · exact askAll_eq_run hbatch (Nat.le_refl 1) pairs course
  · rw [Nat.max_eq_right hroom]
    exact askAll_eq_run hbatch hroom pairs course

theorem Backend.inquiries_withDeadline (inner : Backend) (limit : Duration)
    (pairs : List (String × String)) :
    (inner.withDeadline limit).course.inquiries pairs =
      (inner.course.inquiries pairs).map (.within limit) := by
  apply List.ext_getElem?
  intro i
  rw [List.getElem?_map, Course.getElem?_inquiries, Course.getElem?_inquiries, Option.map_map]
  rfl

namespace Classifier

open Schedule

section

variable {c : Classifier} {candidates : List String}

theorem result_classify_of_outcome (hbatch : c.backend.batch = none)
    {outcome : String → String → Except Error Row}
    (houtcome : ∀ premise hypothesis, (c.backend.infer premise hypothesis).outcome =
      outcome premise hypothesis)
    (hcandidates : candidates ≠ []) (text template : String) (multiLabel : Bool) :
    (c.classify text candidates template multiLabel).result =
      (inTurn (candidates.map fun candidate =>
        outcome text (Hypothesis.fill template candidate))).bind
          (c.rankRows text candidates multiLabel) := by
  have hcourse (place : Nat) (premise hypothesis : String) :
      (c.backend.course place premise hypothesis).outcome = outcome premise hypothesis :=
    houtcome premise hypothesis
  have houtcomes := Course.outcomes_inquiries hcourse (pairs text template candidates)
  rw [pairs, List.map_map] at houtcomes
  rw [classify, if_neg (by simpa using hcandidates), Backend.askAll_eq_run_max hbatch]
  exact congrArg (Except.bind · _) ((outcome_run _ _).trans (congrArg inTurn houtcomes))

theorem activity_classify_max (hbatch : c.backend.batch = none) (hcandidates : candidates ≠ [])
    (text template : String) (multiLabel : Bool) :
    (c.classify text candidates template multiLabel).activity =
      (Answers.ofRun (Schedule.run (max 1 c.options.maxConcurrency)
        (c.backend.course.inquiries (pairs text template candidates)))).activity := by
  rw [classify, if_neg (by simpa using hcandidates), Backend.askAll_eq_run_max hbatch]

end

def outcomeBy (limit : Duration) (inner : Backend) (premise hypothesis : String) :
    Except Error Row :=
  let call := inner.infer premise hypothesis
  if call.delay ≤ limit then call.outcome else .error (.timeout limit)

theorem outcome_withDeadline (limit : Duration) (inner : Backend) (premise hypothesis : String) :
    ((inner.withDeadline limit).infer premise hypothesis).outcome =
      outcomeBy limit inner premise hypothesis := by
  simp only [Backend.infer_withDeadline, Call.within, outcomeBy]
  split <;> rfl

theorem result_classify_congr {backend other : Backend} (hbackend : backend.batch = none)
    (hother : other.batch = none)
    (h : ∀ premise hypothesis, (backend.infer premise hypothesis).outcome =
      (other.infer premise hypothesis).outcome)
    (resolved : ResolvedConfig) (options : Options) (text : String) (candidates : List String)
    (template : String) (multiLabel : Bool) :
    ((⟨backend, resolved, options⟩ : Classifier).classify text candidates template
        multiLabel).result =
      ((⟨other, resolved, options⟩ : Classifier).classify text candidates template
        multiLabel).result := by
  by_cases hcandidates : candidates = []
  · rw [hcandidates, classify_nil, classify_nil]
  · rw [result_classify_of_outcome hbackend h hcandidates,
      result_classify_of_outcome hother (fun _ _ => rfl) hcandidates]
    rfl

theorem questions_classify {c : Classifier} (hbatch : c.backend.batch = none) (text : String)
    (candidates : List String) (template : String) (multiLabel : Bool) :
    let activity := (c.classify text candidates template multiLabel).activity
    activity.questions = activity.spans.map fun span => .pair span.pair.1 span.pair.2 := by
  intro activity
  by_cases hcandidates : candidates = []
  · simp only [activity, hcandidates, classify_nil]
    rfl
  · simp only [activity, activity_classify_max hbatch hcandidates]
    rfl

/-- A started call is one of the backend behind, with a timer set when it was started. -/
theorem timed_of_getElem?_spans {inner : Backend} {limit : Duration} {c : Classifier}
    (hc : c.backend = inner.withDeadline limit) {text template : String} {candidates : List String}
    {multiLabel : Bool} {i : Nat} {span : Span}
    (h : (c.classify text candidates template multiLabel).activity.spans[i]? = some span) :
    ∃ candidate, candidates[i]? = some candidate ∧
      let hypothesis := Hypothesis.fill template candidate
      span = (startTimed limit span.start
        ⟨(text, hypothesis), inner.infer text hypothesis⟩).span := by
  by_cases hcandidates : candidates = []
  · rw [hcandidates, classify_nil] at h
    cases h
  · rw [activity_classify_max (by rw [hc]; rfl) hcandidates, hc,
      Backend.inquiries_withDeadline] at h
    obtain ⟨call, hcall, rfl⟩ := getElem?_spans h
    obtain ⟨q, hq, hstart⟩ := started_run_within hcall
    rw [Course.getElem?_inquiries, pairs, List.getElem?_map, Option.map_map,
      Option.map_eq_some_iff] at hq
    obtain ⟨candidate, hcandidate, rfl⟩ := hq
    exact ⟨candidate, hcandidate, congrArg Started.span hstart⟩

/-- A request to a backend with a deadline is one to any backend without whose outcomes are those of
calls that have so much time. Each call has it from its own start on, and calls for many pairs that
the backend behind may know are not made. -/
theorem classify_withDeadline (inner plain : Backend) (limit : Duration)
    (hbatch : plain.batch = none)
    (hplain : ∀ premise hypothesis,
      (plain.infer premise hypothesis).outcome = outcomeBy limit inner premise hypothesis)
    (resolved : ResolvedConfig) (options : Options) (text : String) (candidates : List String)
    (template : String) (multiLabel : Bool) :
    let answered := fun backend : Backend =>
      (⟨backend, resolved, options⟩ : Classifier).classify text candidates template multiLabel
    let done := answered (inner.withDeadline limit)
    done.result = (answered plain).result ∧
    (∀ k e, FailsFirst (candidates.map fun candidate =>
      outcomeBy limit inner text (Hypothesis.fill template candidate)) k e →
        done.result = .error e) ∧
    (∀ (i : Nat) (span : Span), done.activity.spans[i]? = some span →
      ∃ candidate, candidates[i]? = some candidate ∧
        let hypothesis := Hypothesis.fill template candidate
        span = (startTimed limit span.start
          ⟨(text, hypothesis), inner.infer text hypothesis⟩).span) ∧
    done.activity.questions = done.activity.spans.map (fun span =>
      .pair span.pair.1 span.pair.2) ∧
    ∀ batch, answered (({ inner with batch } : Backend).withDeadline limit) = done := by
  intro answered done
  refine ⟨?_, ?_, fun i span hspan => timed_of_getElem?_spans rfl hspan,
    questions_classify rfl text candidates template multiLabel, fun batch => rfl⟩
  · refine result_classify_congr rfl hbatch (fun premise hypothesis => ?_) resolved options text
      candidates template multiLabel
    rw [outcome_withDeadline, hplain]
  · intro k e hfails
    have hcandidates : candidates ≠ [] := by
      rintro rfl
      cases hfails.2
    have hdone := result_classify_of_outcome (c := ⟨inner.withDeadline limit, resolved, options⟩)
      rfl (outcome_withDeadline limit inner) hcandidates text template multiLabel
    rw [inTurn_eq_error hfails] at hdone
    exact hdone

def slowBackend : Backend where
  name := "slow"
  infer _ hypothesis :=
    if hypothesis = "a" then ⟨.ofMilliseconds 50, .ok [⟨0⟩, ⟨0⟩]⟩
    else if hypothesis = "b" then ⟨.ofMilliseconds 51, .ok [⟨0⟩, ⟨0⟩]⟩
    else ⟨.zero, .error (.inference (.reported hypothesis))⟩
  batch := some fun _ => .ok []

/-- The calls for "a" are in time, together and one by one. The call for "b" is not, and it comes
before "c", which fails while it is waited for. -/
theorem classify_withDeadline_slow :
    let limit := Duration.ofMilliseconds 50
    let plain : Backend :=
      { name := "plain", infer := fun p h => ⟨.zero, outcomeBy limit slowBackend p h⟩ }
    let candidates := ["a", "a", "b", "c"]
    plain.batch = none ∧
    (∀ premise hypothesis,
      (plain.infer premise hypothesis).outcome = outcomeBy limit slowBackend premise hypothesis) ∧
    ∀ room,
      (Classifier.classify ⟨slowBackend.withDeadline limit, {}, { maxConcurrency := room }⟩ "text"
        candidates "" false).result = .error (.timeout limit) := by
  intro limit plain candidates
  refine ⟨rfl, fun _ _ => rfl, fun room => ?_⟩
  have hfails : FailsFirst (candidates.map fun candidate =>
      outcomeBy limit slowBackend "text" (Hypothesis.fill "" candidate)) 2 (.timeout limit) := by
    refine ⟨fun i hi => ?_, rfl⟩
    have hrow : i = 0 ∨ i = 1 := by omega
    rcases hrow with rfl | rfl
    · exact ⟨[⟨0⟩, ⟨0⟩], rfl⟩
    · exact ⟨[⟨0⟩, ⟨0⟩], rfl⟩
  exact (classify_withDeadline slowBackend plain limit rfl (fun _ _ => rfl) {}
    { maxConcurrency := room } "text" candidates "" false).2.1 2 _ hfails

end Classifier

end ZeroShot
