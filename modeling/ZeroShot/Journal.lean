import ZeroShot.Config.Resolved
import ZeroShot.Json.Printer
import ZeroShot.Score.Policy

/-! What happens on the way to a result: events, in order, beside the value.

An event may be seen as a line of a log, as a count of a metric, or as both. -/

namespace ZeroShot

inductive TokenTypeRule where
  | typeVocabSize
  | modelType
deriving DecidableEq, Repr

def TokenTypeRule.field : TokenTypeRule → String
  | typeVocabSize => "type_vocab_size"
  | modelType => "model_type"

inductive FallbackReason where
  | missing
  | malformed
deriving DecidableEq, Repr

def FallbackReason.name : FallbackReason → String
  | missing => "missing"
  | malformed => "malformed"

inductive Event where
  | labelIgnored (label : String) (value : Json)
  | labelRepeated (label : String) (role : ClassRole) (previous id : Nat)
  | tokenTypesEnabled (rule : TokenTypeRule)
  | configMissing (path : String)
  | configMalformed (path : String)
  | configResolved (path : String) (resolved : ResolvedConfig)
  | repoWithoutConfig (repo : String)
  | modelLoaded (name device : String) (resolved : ResolvedConfig) (int32 : Bool)
  | callsRequested (backend : String) (count : Nat)
  | requestFinished (backend : String) (policy : Policy) (succeeded : Bool)
deriving Repr

inductive Level where
  | debug
  | warn
deriving DecidableEq, Repr

def Level.name : Level → String
  | debug => "DEBUG"
  | warn => "WARN"

structure LogLine where
  level : Level
  message : String
  fields : List (String × String)
deriving DecidableEq, Repr

inductive Metric where
  | classifyRequests (backend : String) (policy : Policy) (succeeded : Bool)
  | classifyDuration (backend : String) (policy : Policy)
  | inferenceCalls (backend : String)
  | configFallbacks (reason : FallbackReason)
deriving DecidableEq, Repr

namespace Metric

def name : Metric → String
  | classifyRequests _ _ _ => "mimir_classify_requests_total"
  | classifyDuration _ _ => "mimir_classify_duration_seconds"
  | inferenceCalls _ => "mimir_inference_calls_total"
  | configFallbacks _ => "mimir_config_fallbacks_total"

def statusName (succeeded : Bool) : String := if succeeded then "ok" else "error"

def labels : Metric → List (String × String)
  | classifyRequests backend policy succeeded =>
    [("backend", backend), ("policy", policy.name), ("status", statusName succeeded)]
  | classifyDuration backend policy => [("backend", backend), ("policy", policy.name)]
  | inferenceCalls backend => [("backend", backend)]
  | configFallbacks reason => [("reason", reason.name)]

end Metric

namespace Event

def resolvedFields (resolved : ResolvedConfig) : List (String × String) :=
  [("entailment", toString resolved.indices.entailment),
   ("contradiction", toString resolved.indices.contradiction),
   ("use_token_type", toString resolved.useTokenType)]

def logLine? : Event → Option LogLine
  | labelIgnored label value => some
    ⟨.warn, "ignoring non-integer label2id entry", [("label", label), ("value", value.compact)]⟩
  | labelRepeated label role previous id => some
    ⟨.warn, "multiple label2id entries match, keeping the last",
      [("label", label), ("role", role.name), ("previous", toString previous), ("id", toString id)]⟩
  | tokenTypesEnabled rule => some ⟨.debug, "token type ids enabled", [("field", rule.field)]⟩
  | configMissing path => some
    ⟨.warn, "model config not found, using defaults", [("path", path)]⟩
  | configMalformed _ => some ⟨.warn, "failed to parse model config, using defaults", []⟩
  | configResolved path resolved => some
    ⟨.debug, "resolved model config", ("path", path) :: resolvedFields resolved⟩
  | repoWithoutConfig repo => some ⟨.warn, "no model config in repo", [("repo_id", repo)]⟩
  | modelLoaded name device resolved int32 => some
    ⟨.debug, "loaded ONNX NLI model",
      ("model", name) :: ("device", device) :: resolvedFields resolved
        ++ [("int32", toString int32)]⟩
  | callsRequested _ _ => none
  | requestFinished _ _ _ => none

/-- The metrics that the event counts, each as often as it counts it. -/
def counts : Event → List Metric
  | configMissing _ => [.configFallbacks .missing]
  | configMalformed _ => [.configFallbacks .malformed]
  | callsRequested backend count => List.replicate count (.inferenceCalls backend)
  | requestFinished backend policy succeeded =>
    [.classifyRequests backend policy succeeded, .classifyDuration backend policy]
  | _ => []

end Event

/-- A value and the events on the way to it. -/
structure Logged (α : Type u) where
  value : α
  events : List Event

namespace Logged

def tell (event : Event) : Logged Unit := ⟨(), [event]⟩

instance : Monad Logged where
  pure a := ⟨a, []⟩
  bind m f :=
    let next := f m.value
    ⟨next.value, m.events ++ next.events⟩

@[simp] theorem value_pure (a : α) : (pure a : Logged α).value = a := rfl
@[simp] theorem events_pure (a : α) : (pure a : Logged α).events = [] := rfl
@[simp] theorem value_bind (m : Logged α) (f : α → Logged β) :
    (m >>= f).value = (f m.value).value := rfl
@[simp] theorem events_bind (m : Logged α) (f : α → Logged β) :
    (m >>= f).events = m.events ++ (f m.value).events := rfl
@[simp] theorem value_tell (event : Event) : (tell event).value = () := rfl
@[simp] theorem events_tell (event : Event) : (tell event).events = [event] := rfl

end Logged

/-- Work that may fail, with its events either way. -/
abbrev Attempt := ExceptT Error Logged

namespace Attempt

def ofExcept (r : Except Error α) : Attempt α := ExceptT.mk (pure r)

def events (a : Attempt α) : List Event := (ExceptT.run a).events

def result (a : Attempt α) : Except Error α := (ExceptT.run a).value

@[simp] theorem result_ofExcept (r : Except Error α) : (ofExcept r).result = r := rfl

@[simp] theorem events_ofExcept (r : Except Error α) : (ofExcept r).events = [] := rfl

theorem result_bind (a : Attempt α) (f : α → Attempt β) :
    (a >>= f).result = a.result >>= fun x => (f x).result := by
  have hbind : (a >>= f).result = (ExceptT.bindCont f a.result).value := rfl
  rw [hbind]
  cases a.result <;> rfl

theorem exists_of_result_bind_eq_ok {a : Attempt α} {f : α → Attempt β} {b : β}
    (h : (a >>= f).result = .ok b) : ∃ x, a.result = .ok x ∧ (f x).result = .ok b := by
  rw [result_bind] at h
  exact exists_of_bind_eq_ok h

end Attempt

def logOf (events : List Event) : List LogLine := events.filterMap Event.logLine?

def countOf (metric : Metric) (events : List Event) : Nat :=
  (events.flatMap Event.counts).count metric

def countedMetrics (events : List Event) : List Metric :=
  (events.flatMap Event.counts).eraseDups

@[simp] theorem countOf_nil (metric : Metric) : countOf metric [] = 0 := rfl

@[simp] theorem countOf_append (metric : Metric) (es fs : List Event) :
    countOf metric (es ++ fs) = countOf metric es + countOf metric fs := by
  simp [countOf]

@[simp] theorem countOf_cons (metric : Metric) (e : Event) (es : List Event) :
    countOf metric (e :: es) = e.counts.count metric + countOf metric es := by
  simp [countOf]

theorem countOf_singleton {e : Event} {counted : Metric} (h : e.counts = [counted])
    (metric : Metric) : countOf metric [e] = if metric = counted then 1 else 0 := by
  rw [countOf_cons, h, countOf_nil, List.count_singleton]
  by_cases hmetric : metric = counted
  · simp [hmetric]
  · simp [hmetric, Ne.symm hmetric]

end ZeroShot
