import ZeroShot.Classifier.Backend

/-! Calls under way at the same time.

At most `room` calls are under way or wait to be delivered. Rows are delivered in the order of their
calls, the next one as soon as it is there, and a call is started only while the next row is not
there. The first error that is delivered ends the run; calls still under way then are given up.
Times are nanoseconds since the start of the request. -/

namespace ZeroShot.Schedule

structure Inquiry where
  pair : String × String
  call : Call

/-- A call that was started: its pair, when it was started, and when it is over. -/
structure Span where
  pair : String × String
  start : Nat
  finish : Nat
deriving DecidableEq, Repr, Inhabited

structure Started where
  span : Span
  outcome : Except Error Row

def start (now : Nat) (inquiry : Inquiry) : Started :=
  ⟨⟨inquiry.pair, now, now + inquiry.call.delay.nanoseconds⟩, inquiry.call.outcome⟩

/-- What came of a run: the rows or the first error, the calls that were started, and the end. -/
structure Run where
  outcome : Except Error (List Row)
  started : List Started
  finish : Nat

namespace Run

def after (rows : List Row) (run : Run) : Run :=
  { run with outcome := run.outcome.map (rows ++ ·) }

def record (call : Started) (run : Run) : Run := { run with started := call :: run.started }

def spans (run : Run) : List Span := run.started.map Started.span

end Run

/-- A window after deliveries: the run is over, or the first call left is still under way. -/
inductive Settled where
  | failed (e : Error) (now : Nat)
  | waiting (rows : List Row) (now : Nat) (window : List Started)

def Settled.after (row : Row) : Settled → Settled
  | failed e now => failed e now
  | waiting rows now window => waiting (row :: rows) now window

/-- Delivers what is there, and waits for the first call while there is no room for one more. -/
def settle (room now : Nat) : List Started → Settled
  | [] => .waiting [] now []
  | call :: window =>
    if call.span.finish ≤ now ∨ room ≤ window.length + 1 then
      match call.outcome with
      | .error e => .failed e (max now call.span.finish)
      | .ok row => (settle room (max now call.span.finish) window).after row
    else .waiting [] now (call :: window)

/-- Starts the calls one after another, each when there is room for it. -/
def launch (room now : Nat) (window : List Started) : List Inquiry → Run
  | [] =>
    match settle 0 now window with
    | .failed e now => ⟨.error e, [], now⟩
    | .waiting rows now _ => ⟨.ok rows, [], now⟩
  | inquiry :: inquiries =>
    match settle room now window with
    | .failed e now => ⟨.error e, [], now⟩
    | .waiting rows now window =>
      let call := start now inquiry
      ((launch room now (window ++ [call]) inquiries).record call).after rows

def run (room : Nat) (inquiries : List Inquiry) : Run := launch room 0 [] inquiries

def sequentially (now : Nat) : List Inquiry → Run
  | [] => ⟨.ok [], [], now⟩
  | inquiry :: inquiries =>
    let call := start now inquiry
    match call.outcome with
    | .error e => ⟨.error e, [call], call.span.finish⟩
    | .ok row => ((sequentially call.span.finish inquiries).record call).after [row]

/-- The largest number of calls under way at once, which is reached at the start of one. -/
def peak (earlier : List Span) : List Span → Nat
  | [] => 0
  | span :: rest =>
    max ((earlier.countP fun e => span.start < e.finish) + 1) (peak (span :: earlier) rest)

end ZeroShot.Schedule
