import ZeroShot.Proofs.Schedule.Delivery

/-! Which calls a window of limited room starts, and when.

The calls that are started are the first ones, in order. A call finds the window with room for it,
so it comes after the end of every call that is `room` places or more before it. -/

namespace ZeroShot.Schedule

theorem started_launch {room now : Nat} {window : List Started} {inquiries : List Inquiry} {i : Nat}
    {call : Started} (h : (launch room now window inquiries).started[i]? = some call) :
    ∃ q t, inquiries[i]? = some q ∧ now ≤ t ∧ call = start t q := by
  fun_induction launch room now window inquiries generalizing i with
  | case1 => simp at h
  | case2 => simp at h
  | case3 => simp at h
  | case4 now window q inquiries rows now' rest hsettle first =>
    rename_i ih
    have hlater := (delivered_of_settle hsettle).later
    cases i with
    | zero =>
      simp only [Run.after, Run.record, List.getElem?_cons_zero, Option.some.injEq] at h
      exact ⟨q, now', rfl, hlater, h.symm⟩
    | succ i =>
      obtain ⟨q', t, hq, ht, hcall⟩ := ih h
      exact ⟨q', t, hq, by omega, hcall⟩

theorem length_started_launch_le (room now : Nat) (window : List Started)
    (inquiries : List Inquiry) :
    (launch room now window inquiries).started.length ≤ inquiries.length := by
  fun_induction launch room now window inquiries with
  | case1 => simp
  | case2 => simp
  | case3 => simp
  | case4 now window q inquiries rows now' rest hsettle first ih =>
    simpa [Run.after, Run.record] using ih

/-- A run that does not start every call has come upon a failure. -/
theorem all_started_or_failed (room now : Nat) (window : List Started) (inquiries : List Inquiry) :
    (launch room now window inquiries).started.length = inquiries.length ∨
      ∃ call ∈ window ++ (launch room now window inquiries).started,
        ∃ e, call.outcome = .error e := by
  fun_induction launch room now window inquiries with
  | case1 => simp
  | case2 => simp
  | case3 now window q inquiries e now' hsettle =>
    obtain ⟨rows, later, hwindow⟩ := failed_of_settle hsettle
    have hmem : .error e ∈ window.map Started.outcome := by simp [hwindow]
    obtain ⟨call, hcall, he⟩ := List.mem_map.1 hmem
    exact .inr ⟨call, by simp [hcall], e, he⟩
  | case4 now window q inquiries rows now' rest hsettle first ih =>
    obtain ⟨-, -, done, hsplit, -, -⟩ := delivered_of_settle hsettle
    rcases ih with hall | ⟨call, hcall, he⟩
    · exact .inl (by simpa [Run.after, Run.record] using hall)
    · refine .inr ⟨call, ?_, he⟩
      simp only [hsplit, Run.after, Run.record, List.append_assoc, List.mem_append,
        List.mem_cons, List.singleton_append] at hcall ⊢
      exact .inr hcall

/-- When a call is started, every call so many places before it has come out well and is over. -/
theorem over_before_start {room now : Nat} {window : List Started} {inquiries : List Inquiry}
    (hroom : 1 ≤ room) {i j : Nat} {earlier later : Started}
    (hi : (window ++ (launch room now window inquiries).started)[i]? = some earlier)
    (hj : (launch room now window inquiries).started[j]? = some later)
    (hij : i + room ≤ window.length + j) :
    earlier.span.finish ≤ later.span.start ∧ ∃ row, earlier.outcome = .ok row := by
  fun_induction launch room now window inquiries generalizing i j with
  | case1 => simp at hj
  | case2 => simp at hj
  | case3 => simp at hj
  | case4 now window q inquiries rows now' rest hsettle first =>
    rename_i ih
    obtain ⟨-, hleft, done, rfl, hrows, hdone⟩ := delivered_of_settle hsettle
    have hok : ∀ call ∈ done, ∃ row, call.outcome = .ok row := by
      intro call hcall
      have hmem : call.outcome ∈ rows.map Except.ok := hrows ▸ List.mem_map_of_mem hcall
      obtain ⟨row, -, hrow⟩ := List.mem_map.1 hmem
      exact ⟨row, hrow.symm⟩
    simp only [Run.after, Run.record] at hi hj ih
    rw [List.length_append] at hij
    -- what is delivered is over now, and nothing is started before now
    have hover : now' ≤ later.span.start := by
      cases j with
      | zero =>
        rw [List.getElem?_cons_zero, Option.some.injEq] at hj
        exact hj ▸ Nat.le_refl _
      | succ j =>
        obtain ⟨q', t, -, ht, rfl⟩ := started_launch hj
        exact ht
    by_cases hlt : i < done.length
    · rw [List.append_assoc, List.getElem?_append_left hlt] at hi
      have hmem := List.mem_of_getElem? hi
      exact ⟨Nat.le_trans (hdone earlier hmem) hover, hok earlier hmem⟩
    · rw [List.append_assoc, List.getElem?_append_right (by omega)] at hi
      cases j with
      | zero =>
        rcases hleft with rfl | hleft
        · simp only [List.length_nil] at hij
          omega
        · omega
      | succ j =>
        apply ih (i := i - done.length) (j := j)
        · simpa using hi
        · exact hj
        · simp only [List.length_append, List.length_singleton]
          omega

theorem countP_le_of_none_from {p : α → Bool} {l : List α} {n : Nat}
    (h : ∀ i a, n ≤ i → l[i]? = some a → p a = false) : l.countP p ≤ n := by
  have hdrop : (l.drop n).countP p = 0 := by
    rw [List.countP_eq_zero]
    intro a ha
    obtain ⟨i, hi⟩ := List.mem_iff_getElem?.1 ha
    rw [List.getElem?_drop] at hi
    simp [h (n + i) a (by omega) hi]
  calc l.countP p = (l.take n).countP p + (l.drop n).countP p := by
        rw [← List.countP_append, List.take_append_drop]
    _ ≤ (l.take n).length + 0 := by
        rw [hdrop]
        exact Nat.add_le_add_right List.countP_le_length 0
    _ ≤ n := List.length_take_le n l

/-- Entries of a kind that are all less than `n` places apart are at most `n`. -/
theorem countP_le_of_close {p : α → Bool} {l : List α} {n : Nat}
    (h : ∀ i j a b, l[i]? = some a → l[j]? = some b → i + n ≤ j → p b = true → p a = false) :
    l.countP p ≤ n := by
  induction l with
  | nil => simp
  | cons a l ih =>
    cases ha : p a with
    | false =>
      rw [List.countP_cons_of_neg (by simp [ha])]
      exact ih fun i j b c hb hc hij => h (i + 1) (j + 1) b c hb hc (by omega)
    | true =>
      have hfar : ∀ j b, n ≤ j → (a :: l)[j]? = some b → p b = false := by
        intro j b hj hb
        cases hp : p b with
        | false => rfl
        | true => exact absurd (h 0 j a b rfl hb (by omega) hp) (by simp [ha])
      exact countP_le_of_none_from hfar

theorem peak_le {room : Nat} (hroom : 1 ≤ room) {earlier spans : List Span}
    (h : ∀ i j a b, (earlier.reverse ++ spans)[i]? = some a →
      (earlier.reverse ++ spans)[j]? = some b → i + room ≤ j → a.finish ≤ b.start) :
    peak earlier spans ≤ room := by
  induction spans generalizing earlier with
  | nil => simp [peak]
  | cons span spans ih =>
    have hnow : (earlier.reverse ++ span :: spans)[earlier.length]? = some span := by
      rw [List.getElem?_append_right (by simp)]
      simp
    have hearlier : (earlier.countP fun e => span.start < e.finish) ≤ room - 1 := by
      -- `earlier` is in reverse, so its places count backwards from this call
      apply countP_le_of_none_from
      intro i a hi ha
      have hlt : i < earlier.length := (List.getElem?_eq_some_iff.1 ha).1
      have ha' : (earlier.reverse ++ span :: spans)[earlier.length - 1 - i]? = some a := by
        rw [List.getElem?_append_left (by rw [List.length_reverse]; omega),
          List.getElem?_reverse (by omega), ← ha]
        congr 1
        omega
      have hover := h _ _ a span ha' hnow (by omega)
      simpa using hover
    have hlater : peak (span :: earlier) spans ≤ room := by
      apply ih
      simpa using h
    rw [peak]
    omega

/-- What a run with that much room promises of the calls it starts for some inquiries. -/
structure Orderly (room : Nat) (inquiries : List Inquiry) (spans : List Span) : Prop where
  /-- No call is left out, repeated or made out of order. -/
  in_order : spans.map Span.pair <+: inquiries.map Inquiry.pair
  lasting : ∀ (i : Nat) (span : Span) (q : Inquiry), spans[i]? = some span →
    inquiries[i]? = some q → span.finish = span.start + q.call.delay.nanoseconds
  complete : (∀ q ∈ inquiries, ∃ row, q.call.outcome = .ok row) →
    spans.map Span.pair = inquiries.map Inquiry.pair
  /-- The first failure is reached, and less than `room` calls are started beyond it. -/
  up_to_failure : ∀ (k : Nat) (e : Error),
    FailsFirst (inquiries.map fun q => q.call.outcome) k e →
      k + 1 ≤ spans.length ∧ spans.length ≤ min inquiries.length (k + room)
  /-- A call waits until every call `room` places or more before it has come out well. -/
  awaited : ∀ (i j : Nat) (later : Span), spans[j]? = some later → i + room ≤ j →
    ∃ earlier q row, spans[i]? = some earlier ∧ inquiries[i]? = some q ∧
      q.call.outcome = .ok row ∧ earlier.finish ≤ later.start
  under_way : ∀ t, (spans.countP fun span => span.start ≤ t ∧ t < span.finish) ≤ room

theorem getElem?_spans {run : Run} {i : Nat} {span : Span} (h : run.spans[i]? = some span) :
    ∃ call, run.started[i]? = some call ∧ call.span = span := by
  simpa [Run.spans] using h

theorem started_run {room : Nat} {inquiries : List Inquiry} {i : Nat} {call : Started}
    (h : (run room inquiries).started[i]? = some call) :
    ∃ q t, inquiries[i]? = some q ∧ call = start t q := by
  obtain ⟨q, t, hq, -, hcall⟩ := started_launch h
  exact ⟨q, t, hq, hcall⟩

theorem isPrefix_pairs_spans_run (room : Nat) (inquiries : List Inquiry) :
    (run room inquiries).spans.map Span.pair <+: inquiries.map Inquiry.pair := by
  rw [List.prefix_iff_getElem?]
  intro i hi
  have hget := List.getElem?_eq_getElem hi
  simp only [Run.spans, List.map_map, List.getElem?_map, Option.map_eq_some_iff] at hget ⊢
  obtain ⟨call, hcall, hpair⟩ := hget
  obtain ⟨q, t, hq, rfl⟩ := started_run hcall
  exact ⟨q, hq, hpair⟩

theorem length_started_run_of_ok {room : Nat} {inquiries : List Inquiry}
    (h : ∀ (i : Nat) (q : Inquiry), i < (run room inquiries).started.length →
      inquiries[i]? = some q → ∃ row, q.call.outcome = .ok row) :
    (run room inquiries).started.length = inquiries.length := by
  rcases all_started_or_failed room 0 [] inquiries with hall | ⟨call, hmem, e, he⟩
  · exact hall
  · rw [List.nil_append] at hmem
    obtain ⟨i, hi⟩ := List.mem_iff_getElem?.1 hmem
    obtain ⟨q, t, hq, rfl⟩ := started_run hi
    obtain ⟨row, hrow⟩ := h i q (List.getElem?_eq_some_iff.1 hi).1 hq
    rw [show (start t q).outcome = q.call.outcome from rfl, hrow] at he
    cases he

theorem awaited_run {room : Nat} (hroom : 1 ≤ room) {inquiries : List Inquiry} {i j : Nat}
    {later : Span} (hj : (run room inquiries).spans[j]? = some later) (hij : i + room ≤ j) :
    ∃ earlier q row, (run room inquiries).spans[i]? = some earlier ∧ inquiries[i]? = some q ∧
      q.call.outcome = .ok row ∧ earlier.finish ≤ later.start := by
  obtain ⟨call, hcall, rfl⟩ := getElem?_spans hj
  have hlt := (List.getElem?_eq_some_iff.1 hcall).1
  have hi := List.getElem?_eq_getElem (l := (run room inquiries).started) (i := i) (by omega)
  have hi' : ([] ++ (run room inquiries).started)[i]? = some (run room inquiries).started[i] := hi
  obtain ⟨hover, row, hrow⟩ := over_before_start hroom hi' hcall (by simpa using hij)
  obtain ⟨q, t, hq, hstart⟩ := started_run hi
  refine ⟨(start t q).span, q, row, ?_, hq, ?_, ?_⟩
  · rw [Run.spans, List.getElem?_map, hi, hstart]
    rfl
  · rw [hstart] at hrow
    exact hrow
  · rw [hstart] at hover
    exact hover

theorem lt_length_spans_run {room : Nat} {inquiries : List Inquiry} {k : Nat} {e : Error}
    (h : FailsFirst (inquiries.map fun q => q.call.outcome) k e) :
    k < (run room inquiries).spans.length := by
  have hk : k < inquiries.length := by
    simpa using (List.getElem?_eq_some_iff.1 h.2).1
  rw [Run.spans, List.length_map]
  apply Nat.lt_of_not_le
  intro hle
  -- all that is started comes before the failure, so it came out well and the run went on
  have hall : (run room inquiries).started.length = inquiries.length := by
    apply length_started_run_of_ok
    intro i q hi hq
    obtain ⟨row, hrow⟩ := h.1 i (by omega)
    rw [List.getElem?_map, hq, Option.map_some, Option.some.injEq] at hrow
    exact ⟨row, hrow⟩
  omega

theorem length_spans_run_le {room : Nat} (hroom : 1 ≤ room) {inquiries : List Inquiry} {k : Nat}
    {e : Error} (h : FailsFirst (inquiries.map fun q => q.call.outcome) k e) :
    (run room inquiries).spans.length ≤ k + room := by
  apply Nat.le_of_not_lt
  intro hlt
  -- a call started so far beyond the failure would have waited for its row
  have hlater := List.getElem?_eq_getElem hlt
  obtain ⟨-, q, row, -, hq, hrow, -⟩ := awaited_run hroom hlater (Nat.le_refl _)
  have hk := h.2
  rw [List.getElem?_map, hq, Option.map_some, hrow] at hk
  cases hk

theorem peak_run_le {room : Nat} (hroom : 1 ≤ room) (inquiries : List Inquiry) :
    peak [] (run room inquiries).spans ≤ room := by
  apply peak_le hroom
  intro i j a b ha hb hij
  rw [List.reverse_nil, List.nil_append] at ha hb
  obtain ⟨earlier, -, -, hearlier, -, -, hover⟩ := awaited_run hroom hb hij
  rw [ha, Option.some.injEq] at hearlier
  exact hearlier ▸ hover

theorem orderly_run {room : Nat} (hroom : 1 ≤ room) (inquiries : List Inquiry) :
    Orderly room inquiries (run room inquiries).spans where
  in_order := isPrefix_pairs_spans_run room inquiries
  lasting := by
    intro i span q hspan hq
    obtain ⟨call, hcall, rfl⟩ := getElem?_spans hspan
    obtain ⟨q', t, hq', rfl⟩ := started_run hcall
    rw [hq, Option.some.injEq] at hq'
    rw [hq']
    rfl
  complete := by
    intro hok
    apply (isPrefix_pairs_spans_run room inquiries).eq_of_length
    rw [List.length_map, List.length_map, Run.spans, List.length_map]
    exact length_started_run_of_ok fun i q _ hq => hok q (List.mem_of_getElem? hq)
  up_to_failure := by
    intro k e hfails
    refine ⟨lt_length_spans_run hfails, Nat.le_min.2 ⟨?_, length_spans_run_le hroom hfails⟩⟩
    rw [Run.spans, List.length_map]
    exact length_started_launch_le room 0 [] inquiries
  awaited := fun i j later hj hij => awaited_run hroom hj hij
  under_way := by
    intro t
    -- of two calls that far apart, the first is over when the second starts
    apply countP_le_of_close
    intro i j a b ha hb hij hbt
    obtain ⟨earlier, -, -, hearlier, -, -, hover⟩ := awaited_run hroom hb hij
    rw [ha, Option.some.injEq] at hearlier
    subst hearlier
    simp only [decide_eq_true_eq, decide_eq_false_iff_not] at hbt ⊢
    omega

end ZeroShot.Schedule
