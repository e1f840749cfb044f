import ZeroShot.Classifier.Schedule

/-! What a window of calls delivers, whatever the calls take.

The outcome of a run is that of its calls taken in turn, so it depends neither on the room nor on
any delay. A window with room for one call is the plain loop over the calls. -/

namespace ZeroShot.Schedule

/-- The rows of some outcomes in order, or the first error among them. -/
def inTurn (outcomes : List (Except Error Row)) : Except Error (List Row) :=
  outcomes.mapM id

@[simp] theorem inTurn_nil : inTurn [] = .ok [] := rfl

@[simp] theorem inTurn_ok_cons (row : Row) (outcomes : List (Except Error Row)) :
    inTurn (.ok row :: outcomes) = (inTurn outcomes).map (row :: ·) := by
  simp only [inTurn, List.mapM_cons, id]
  cases outcomes.mapM id <;> rfl

@[simp] theorem inTurn_error_cons (e : Error) (outcomes : List (Except Error Row)) :
    inTurn (.error e :: outcomes) = .error e := by
  simp only [inTurn, List.mapM_cons, id]
  rfl

theorem inTurn_ok_append (rows : List Row) (outcomes : List (Except Error Row)) :
    inTurn (rows.map .ok ++ outcomes) = (inTurn outcomes).map (rows ++ ·) := by
  induction rows with
  | nil => cases h : inTurn outcomes <;> simp [h, Except.map]
  | cons row rows ih =>
    rw [List.map_cons, List.cons_append, inTurn_ok_cons, ih]
    cases inTurn outcomes <;> rfl

theorem inTurn_map_ok (rows : List Row) : inTurn (rows.map .ok) = .ok rows := by
  have h := inTurn_ok_append rows []
  simpa [Except.map] using h

theorem length_of_inTurn {outcomes : List (Except Error Row)} {rows : List Row}
    (h : inTurn outcomes = .ok rows) : rows.length = outcomes.length := by
  induction outcomes generalizing rows with
  | nil =>
    cases h
    rfl
  | cons outcome outcomes ih =>
    cases outcome with
    | error e => simp at h
    | ok row =>
      rw [inTurn_ok_cons] at h
      cases hrest : inTurn outcomes with
      | error e => simp [hrest, Except.map] at h
      | ok rest =>
        rw [hrest] at h
        cases h
        simp [ih hrest]

/-- The outcome in place `k` is that error, and all before it are rows. -/
def FailsFirst (outcomes : List (Except Error Row)) (k : Nat) (e : Error) : Prop :=
  (∀ i < k, ∃ row, outcomes[i]? = some (.ok row)) ∧ outcomes[k]? = some (.error e)

theorem inTurn_eq_error {outcomes : List (Except Error Row)} {k : Nat} {e : Error}
    (h : FailsFirst outcomes k e) : inTurn outcomes = .error e := by
  induction outcomes generalizing k with
  | nil => simp [FailsFirst] at h
  | cons outcome outcomes ih =>
    obtain ⟨hbefore, hk⟩ := h
    cases k with
    | zero =>
      simp only [List.getElem?_cons_zero, Option.some.injEq] at hk
      rw [hk, inTurn_error_cons]
    | succ k =>
      obtain ⟨row, hrow⟩ := hbefore 0 (by omega)
      simp only [List.getElem?_cons_zero, Option.some.injEq] at hrow
      have hrest : FailsFirst outcomes k e :=
        ⟨fun i hi => by simpa using hbefore (i + 1) (by omega), by simpa using hk⟩
      rw [hrow, inTurn_ok_cons, ih hrest]
      rfl

/-- What is known of a window once it waits: it has lost a first part, all of which came out well by
now, and unless it is empty there is room in it for one more call. -/
structure Delivered (room now : Nat) (window : List Started) (rows : List Row) (now' : Nat)
    (rest : List Started) : Prop where
  later : now ≤ now'
  room_left : rest = [] ∨ rest.length < room
  split : ∃ done, window = done ++ rest ∧ done.map Started.outcome = rows.map .ok ∧
    ∀ call ∈ done, call.span.finish ≤ now'

theorem delivered_of_settle {room now : Nat} {window : List Started} {rows : List Row} {now' : Nat}
    {rest : List Started} (h : settle room now window = .waiting rows now' rest) :
    Delivered room now window rows now' rest := by
  fun_induction settle room now window generalizing rows with
  | case1 now =>
    cases h
    exact ⟨Nat.le_refl _, .inl rfl, [], rfl, rfl, by simp⟩
  | case2 => cases h
  | case3 now call window hdue row hrow ih =>
    cases hsettle : settle room (max now call.span.finish) window with
    | failed e t => simp [hsettle, Settled.after] at h
    | waiting rows' t rest' =>
      rw [hsettle] at h
      cases h
      obtain ⟨hlater, hroom, done, hsplit, hrows, hdone⟩ := ih hsettle
      refine ⟨by omega, hroom, call :: done, by rw [hsplit]; rfl, by simp [hrow, hrows], ?_⟩
      intro c hc
      rcases List.mem_cons.1 hc with rfl | hc
      · omega
      · exact hdone c hc
  | case4 now call window hwait =>
    cases h
    refine ⟨Nat.le_refl _, .inr ?_, [], rfl, rfl, by simp⟩
    rw [List.length_cons]
    omega

theorem failed_of_settle {room now : Nat} {window : List Started} {e : Error} {now' : Nat}
    (h : settle room now window = .failed e now') :
    ∃ (rows : List Row) (later : List (Except Error Row)),
      window.map Started.outcome = rows.map .ok ++ .error e :: later := by
  fun_induction settle room now window with
  | case1 => cases h
  | case2 now call window hdue e' he =>
    cases h
    exact ⟨[], window.map Started.outcome, by simp [he]⟩
  | case3 now call window hdue row hrow ih =>
    cases hsettle : settle room (max now call.span.finish) window with
    | failed e' t =>
      rw [hsettle] at h
      cases h
      obtain ⟨rows, later, hwindow⟩ := ih hsettle
      exact ⟨row :: rows, later, by simp [hrow, hwindow]⟩
    | waiting rows' t rest' => simp [hsettle, Settled.after] at h
  | case4 => cases h

/-- Every call counts with its place and its outcome, and with nothing else. -/
theorem outcome_launch (room now : Nat) (window : List Started) (inquiries : List Inquiry) :
    (launch room now window inquiries).outcome =
      inTurn (window.map Started.outcome ++ inquiries.map fun q => q.call.outcome) := by
  fun_induction launch room now window inquiries with
  | case1 now window e now' hsettle =>
    obtain ⟨rows, later, hwindow⟩ := failed_of_settle hsettle
    rw [hwindow, List.append_assoc, inTurn_ok_append]
    simp [Except.map]
  | case2 now window rows now' rest hsettle =>
    obtain ⟨-, hroom, done, hsplit, hrows, -⟩ := delivered_of_settle hsettle
    have hrest : rest = [] := by simpa using hroom
    simp [hsplit, hrest, hrows, inTurn_map_ok]
  | case3 now window q inquiries e now' hsettle =>
    obtain ⟨rows, later, hwindow⟩ := failed_of_settle hsettle
    rw [hwindow, List.append_assoc, inTurn_ok_append]
    simp [Except.map]
  | case4 now window q inquiries rows now' rest hsettle call ih =>
    obtain ⟨-, -, done, hsplit, hrows, -⟩ := delivered_of_settle hsettle
    have hmoved : window.map Started.outcome ++ (q :: inquiries).map (fun q => q.call.outcome) =
        rows.map .ok ++ ((rest ++ [call]).map Started.outcome ++
          inquiries.map fun q => q.call.outcome) := by
      simp [hsplit, hrows, call, start]
    rw [hmoved, inTurn_ok_append, ← ih]
    rfl

theorem outcome_run (room : Nat) (inquiries : List Inquiry) :
    (run room inquiries).outcome = inTurn (inquiries.map fun q => q.call.outcome) :=
  outcome_launch room 0 [] inquiries

theorem Run.after_nil (run : Run) : run.after [] = run := by
  cases run with
  | mk outcome started finish => cases outcome <;> rfl

theorem Run.after_after (first second : List Row) (run : Run) :
    (run.after second).after first = run.after (first ++ second) := by
  cases run with
  | mk outcome started finish => cases outcome <;> simp [Run.after, Except.map]

theorem Run.after_record (rows : List Row) (call : Started) (run : Run) :
    (run.record call).after rows = (run.after rows).record call := rfl

theorem launch_one_started (call : Started) (inquiries : List Inquiry) (now : Nat)
    (h : now ≤ call.span.finish) :
    launch 1 now [call] inquiries =
      match call.outcome with
      | .error e => ⟨.error e, [], call.span.finish⟩
      | .ok row => (launch 1 call.span.finish [] inquiries).after [row] := by
  have hmax : max now call.span.finish = call.span.finish := Nat.max_eq_right h
  cases hcall : call.outcome with
  | error e => cases inquiries <;> simp [launch, settle, hcall, hmax]
  | ok row =>
    cases inquiries with
    | nil => simp [launch, settle, hcall, hmax, Settled.after, Run.after, Except.map]
    | cons q inquiries =>
      simp only [launch, settle, hcall, hmax, Settled.after, List.length_nil, Nat.zero_add,
        Nat.le_refl, or_true, if_true, Run.after_after, List.append_nil]

theorem launch_one (now : Nat) (inquiries : List Inquiry) :
    launch 1 now [] inquiries = sequentially now inquiries := by
  induction inquiries generalizing now with
  | nil => rfl
  | cons q inquiries ih =>
    have hstep : launch 1 now [] (q :: inquiries) =
        ((launch 1 now [start now q] inquiries).record (start now q)).after [] := rfl
    rw [hstep, launch_one_started _ _ _ (Nat.le_add_right _ _), Run.after_nil, sequentially]
    cases (start now q).outcome with
    | error e => rfl
    | ok row => simp only [ih, Run.after_record]

theorem run_one (inquiries : List Inquiry) : run 1 inquiries = sequentially 0 inquiries :=
  launch_one 0 inquiries

end ZeroShot.Schedule
