import ZeroShot.Proofs.Classifier.Deadline

/-! The hypotheses of a request.

The first placeholder of a template is the one that no placeholder comes before, also where braces
overlap. The candidate stands there as it is, with the rest of the template around it, so it can be
read off the hypothesis again: what a backend is asked about one candidate it is never asked about
another. -/

namespace ZeroShot

namespace Hypothesis

def placeholder : List Char := ['{', '}']

def HasPlaceholder (text : String) : Prop := placeholder <:+: text.toList

theorem splitPlaceholder_eq_none_iff {template : List Char} :
    splitPlaceholder template = none ↔ ¬ placeholder <:+: template := by
  fun_induction splitPlaceholder template with
  | case1 rest =>
    have hhead : placeholder <:+: '{' :: '}' :: rest :=
      (List.prefix_append placeholder rest).isInfix
    simp [hhead]
  | case2 => simp [placeholder]
  | case3 c rest hopen ih =>
    have hfront : ¬ placeholder <+: c :: rest := by
      rintro ⟨after, hafter⟩
      cases hafter
      exact hopen after rfl rfl
    rw [Option.map_eq_none_iff, ih, List.infix_cons_iff, or_iff_right hfront]

theorem splitPlaceholder_append {before : List Char} (h : ¬ placeholder <:+: before ++ ['{'])
    (after : List Char) :
    splitPlaceholder (before ++ '{' :: '}' :: after) = some (before, after) := by
  induction before with
  | nil => rfl
  | cons c before ih =>
    rw [List.cons_append, List.infix_cons_iff, not_or] at h
    -- a placeholder at the head would end before the one that is looked for is closed
    have hopen : ∀ rest, c = '{' → before ++ '{' :: '}' :: after = '}' :: rest → False := by
      rintro rest rfl hrest
      apply h.1
      have hhead : placeholder <+: ('{' :: (before ++ ['{'])) ++ '}' :: after := by
        rw [List.cons_append, List.append_assoc]
        exact ⟨rest, by simp [placeholder, ← hrest]⟩
      exact List.prefix_of_prefix_length_le hhead (List.prefix_append _ _) (by simp [placeholder])
    rw [List.cons_append, splitPlaceholder, ih h.2]
    · rfl
    · exact hopen

theorem not_infix_of_splitPlaceholder_eq_some {template before after : List Char}
    (h : splitPlaceholder template = some (before, after)) :
    ¬ placeholder <:+: before ++ ['{'] := by
  fun_induction splitPlaceholder template generalizing before with
  | case1 rest =>
    cases h
    decide
  | case2 => cases h
  | case3 c rest hopen ih =>
    obtain ⟨⟨start, rest'⟩, hrest, heq⟩ := Option.map_eq_some_iff.1 h
    cases heq
    rw [List.cons_append, List.infix_cons_iff, not_or]
    refine ⟨?_, ih hrest⟩
    intro hfront
    have hwhole := splitPlaceholder_eq_some hrest
    have hlonger : placeholder <+: c :: rest := by
      rw [hwhole]
      exact hfront.trans ⟨'}' :: after, by simp⟩
    obtain ⟨tail, htail⟩ := hlonger
    cases htail
    exact hopen tail rfl rfl

theorem fill_append {before : String} (h : ¬ HasPlaceholder (before ++ "\x7b"))
    (after candidate : String) :
    fill (before ++ "\x7b\x7d" ++ after) candidate = before ++ candidate ++ after := by
  have hfirst : ¬ placeholder <:+: before.toList ++ ['{'] := by
    simpa [HasPlaceholder] using h
  have hsplit := splitPlaceholder_append hfirst after.toList
  have htemplate : (before ++ "\x7b\x7d" ++ after).toList =
      before.toList ++ '{' :: '}' :: after.toList := by simp
  rw [fill, htemplate, hsplit]
  simp [String.append_assoc]

theorem fill_of_no_placeholder {template : String} (h : ¬ HasPlaceholder template)
    (candidate : String) : fill template candidate = template ++ candidate := by
  rw [fill, splitPlaceholder_eq_none_iff.2 h]

theorem exists_first_placeholder {template : String} (h : HasPlaceholder template) :
    ∃ before after, template = before ++ "\x7b\x7d" ++ after ∧
      ¬ HasPlaceholder (before ++ "\x7b") := by
  cases hsplit : splitPlaceholder template.toList with
  | none => exact absurd h (splitPlaceholder_eq_none_iff.1 hsplit)
  | some parts =>
    obtain ⟨before, after⟩ := parts
    refine ⟨String.ofList before, String.ofList after, ?_, ?_⟩
    · rw [← String.toList_inj, splitPlaceholder_eq_some hsplit]
      simp
    · simpa [HasPlaceholder] using not_infix_of_splitPlaceholder_eq_some hsplit

theorem fill_injective (template : String) : Function.Injective (fill template) := by
  intro candidate other h
  by_cases hplaceholder : HasPlaceholder template
  · obtain ⟨before, after, rfl, hfirst⟩ := exists_first_placeholder hplaceholder
    rw [fill_append hfirst, fill_append hfirst, ← String.toList_inj] at h
    simpa [String.toList_inj] using h
  · rw [fill_of_no_placeholder hplaceholder, fill_of_no_placeholder hplaceholder] at h
    exact (String.append_right_inj template).1 h

end Hypothesis

def Question.pairs : Question → List (String × String)
  | .pair premise hypothesis => [(premise, hypothesis)]
  | .batch pairs => pairs

def Activity.asked (activity : Activity) : List (String × String) :=
  activity.questions.flatMap Question.pairs

theorem asked_ofRun (run : Schedule.Run) :
    (Answers.ofRun run).activity.asked = run.spans.map Schedule.Span.pair := by
  unfold Activity.asked Answers.ofRun
  rw [List.flatMap_map, List.map_eq_flatMap]
  rfl

theorem isPrefix_asked_askAll (backend : Backend) (room : Nat) (pairs : List (String × String))
    (course : Course) : (backend.askAll room pairs course).activity.asked <+: pairs := by
  have hrun (room : Nat) : (Answers.ofRun (Schedule.run room
      (course.inquiries pairs))).activity.asked <+: pairs := by
    have hfront := Schedule.isPrefix_pairs_spans_run room (course.inquiries pairs)
    rwa [Course.pairs_inquiries, ← asked_ofRun] at hfront
  cases hbatch : backend.batch with
  | none =>
    rw [Backend.askAll_eq_run_max hbatch]
    exact hrun _
  | some answer =>
    rw [Backend.askAll, Backend.askBatch, hbatch]
    split
    · simp [Activity.asked, Question.pairs]
    · exact hrun room

theorem Classifier.isPrefix_asked_classify (c : Classifier) (text : String)
    (candidates : List String) (template : String) (multiLabel : Bool) (course : Course) :
    (c.classify text candidates template multiLabel course).activity.asked <+:
      pairs text template candidates := by
  rw [classify]
  split
  · exact List.nil_prefix
  · exact isPrefix_asked_askAll _ _ _ _

namespace Hypothesis

/-- A candidate takes the place of the first placeholder, or comes last where there is none. It can
be told from the hypothesis, so no two candidates of a request are asked about in the same way. -/
theorem fill_first_placeholder (template : String) :
    (∀ before after, template = before ++ "\x7b\x7d" ++ after →
      ¬ HasPlaceholder (before ++ "\x7b") →
        ∀ candidate, fill template candidate = before ++ candidate ++ after) ∧
    (¬ HasPlaceholder template → ∀ candidate, fill template candidate = template ++ candidate) ∧
    (HasPlaceholder template → ∃ before after, template = before ++ "\x7b\x7d" ++ after ∧
      ¬ HasPlaceholder (before ++ "\x7b")) ∧
    Function.Injective (fill template) ∧
    ∀ (c : Classifier) (text : String) (candidates : List String) (multiLabel : Bool)
      (course : Course),
      let asked := (c.classify text candidates template multiLabel course).activity.asked
      asked <+: candidates.map (fun candidate => (text, fill template candidate)) ∧
        ∀ (i j : Nat) (hi : i < asked.length) (hj : j < asked.length),
          asked[i].2 = asked[j].2 → candidates[i]? = candidates[j]? := by
  refine ⟨?_, fill_of_no_placeholder, exists_first_placeholder, fill_injective template, ?_⟩
  · rintro before after rfl hfirst candidate
    exact fill_append hfirst after candidate
  · intro c text candidates multiLabel course asked
    have hfront := c.isPrefix_asked_classify text candidates template multiLabel course
    refine ⟨hfront, fun i j hi hj hsame => ?_⟩
    have hasked {i : Nat} (hi : i < asked.length) :
        ∃ candidate, candidates[i]? = some candidate ∧ asked[i].2 = fill template candidate := by
      have hlt : i < candidates.length := by
        simpa [Classifier.pairs] using Nat.lt_of_lt_of_le hi hfront.length_le
      refine ⟨candidates[i], List.getElem?_eq_getElem hlt, ?_⟩
      rw [hfront.getElem hi]
      simp [Classifier.pairs]
    obtain ⟨candidate, hcandidate, hfilled⟩ := hasked hi
    obtain ⟨other, hother, hfilled'⟩ := hasked hj
    rw [hfilled, hfilled'] at hsame
    rw [hcandidate, hother, fill_injective template hsame]

/-- An opening brace before the placeholder is no part of it, and a placeholder in the candidate or
after the first one is left as it is. -/
theorem fill_first_placeholder_overlapping :
    ¬ HasPlaceholder ("\x7b" ++ "\x7b") ∧
      fill "\x7b\x7b\x7d\x7b\x7d" "a\x7b\x7d" = "\x7ba\x7b\x7d\x7b\x7d" ∧
      ¬ HasPlaceholder "\x7d\x7b" ∧ fill "\x7d\x7b" "\x7d" = "\x7d\x7b\x7d" := by
  have hfirst : ¬ HasPlaceholder ("\x7b" ++ "\x7b") := by
    unfold HasPlaceholder
    decide
  have hnone : ¬ HasPlaceholder "\x7d\x7b" := by
    unfold HasPlaceholder
    decide
  refine ⟨hfirst, ?_, hnone, ?_⟩
  · exact (fill_first_placeholder "\x7b\x7b\x7d\x7b\x7d").1 "\x7b" "\x7b\x7d" rfl hfirst _
  · exact (fill_first_placeholder "\x7d\x7b").2.1 hnone _

end Hypothesis

end ZeroShot
