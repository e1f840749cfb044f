import ZeroShot.Json.Printer
import ZeroShot.Proofs.Json.Lexemes

/-! A value inside a container is read as it is alone.

While the text of a value is read, everything outside it stands still: the frames that were open
before it lie below its own ones, and no step looks at them until the value is complete. -/

namespace ZeroShot.Json

namespace Reading

/-- A reading of one value that is past its first token. -/
inductive Begun : Reading → Prop
  | opened (frame : Frame) (frames : List Frame) (expect : Expect) :
    Begun ⟨frame :: frames, expect, none⟩
  | complete (value : Document) : Begun ⟨[], .separator, some value⟩

/-- A reading of one value where another reading is at a value. -/
def within (outer inner : Reading) : Reading :=
  match inner.result with
  | some value => outer.put value
  | none => { inner with frames := inner.frames ++ outer.frames }

theorem put_eq {frames : List Frame} {expect other : Expect} {value : Document} :
    put ⟨frames, expect, none⟩ value = put ⟨frames, other, none⟩ value := by
  cases frames with
  | nil => rfl
  | cons frame frames => cases frame <;> rfl

theorem begun_put (frames : List Frame) (expect : Expect) (value : Document) :
    (put ⟨frames, expect, none⟩ value).Begun := by
  cases frames with
  | nil => exact .complete value
  | cons frame frames => cases frame <;> exact .opened _ _ _

section

variable {outer inner next : Reading} {token : Token}

theorem put_within (h : outer.result = none) (frames : List Frame) (expect : Expect)
    (value : Document) : put ⟨frames ++ outer.frames, expect, none⟩ value =
      outer.within (put ⟨frames, expect, none⟩ value) := by
  cases frames with
  | nil =>
    obtain ⟨outerFrames, outerExpect, outerResult⟩ := outer
    cases h
    exact put_eq
  | cons frame frames => cases frame <;> rfl

theorem step_within_start (houter : outer.atValue) (h : start.step token = some next) :
    next.Begun ∧ outer.step token = some (outer.within next) := by
  obtain ⟨frames, expect, result⟩ := outer
  obtain ⟨hresult, hexpect⟩ : result = none ∧ (expect = .value ∨ expect = .valueOrClose) := by
    simpa [atValue] using houter
  subst hresult
  have hscalar {value : Document} (h : start.putScalar value = some next) :
      next.Begun ∧ putScalar ⟨frames, expect, none⟩ value =
        some (within ⟨frames, expect, none⟩ next) := by
    cases h
    exact ⟨.complete value, if_pos houter⟩
  cases token with
  | null => exact hscalar h
  | bool value => exact hscalar h
  | number value => exact hscalar h
  | string text =>
    have hstep : step ⟨frames, expect, none⟩ (.string text) =
        putScalar ⟨frames, expect, none⟩ (.string text) := by
      rcases hexpect with rfl | rfl <;> rfl
    rw [hstep]
    exact hscalar h
  | openArray =>
    cases h
    exact ⟨.opened _ _ _, if_pos houter⟩
  | openObject =>
    cases h
    exact ⟨.opened _ _ _, if_pos houter⟩
  | colon => cases h
  | comma => cases h
  | closeArray => cases h
  | closeObject => cases h

theorem within_of_put (houter : outer.result = none) {frames : List Frame} {expect : Expect}
    {value : Document} (h : some (put ⟨frames, expect, none⟩ value) = some next) :
    next.Begun ∧ some (put ⟨frames ++ outer.frames, expect, none⟩ value) =
      some (outer.within next) := by
  cases h
  exact ⟨begun_put _ _ _, congrArg some (put_within houter _ _ _)⟩

/-- No step of a value looks below its own frames. -/
theorem step_within (houter : outer.result = none) (hinner : inner.Begun)
    (h : inner.step token = some next) :
    next.Begun ∧ (outer.within inner).step token = some (outer.within next) := by
  cases hinner with
  | complete value => cases token <;> cases h
  | opened frame frames expect =>
    have hscalar {value : Document}
        (h : putScalar ⟨frame :: frames, expect, none⟩ value = some next) :
        next.Begun ∧ putScalar ⟨frame :: frames ++ outer.frames, expect, none⟩ value =
          some (outer.within next) := by
      obtain ⟨hvalue, hnext⟩ := Option.ite_none_right_eq_some.1 h
      obtain ⟨hbegun, hput⟩ := within_of_put houter hnext
      exact ⟨hbegun, (if_pos hvalue).trans hput⟩
    cases token with
    | null => exact hscalar h
    | bool value => exact hscalar h
    | number value => exact hscalar h
    | string text =>
      cases frame with
      | array items => cases expect <;> exact hscalar h
      | object members key =>
        cases expect
        case key =>
          cases h
          exact ⟨.opened _ _ _, rfl⟩
        case keyOrClose =>
          cases h
          exact ⟨.opened _ _ _, rfl⟩
        all_goals exact hscalar h
    | colon =>
      obtain ⟨hcolon, hnext⟩ := Option.ite_none_right_eq_some.1 h
      cases hnext
      exact ⟨.opened _ _ _, if_pos hcolon⟩
    | comma =>
      cases expect
      case separator =>
        cases frame <;> cases h <;> exact ⟨.opened _ _ _, rfl⟩
      all_goals cases h
    | openArray =>
      obtain ⟨hvalue, hnext⟩ := Option.ite_none_right_eq_some.1 h
      cases hnext
      exact ⟨.opened _ _ _, if_pos hvalue⟩
    | openObject =>
      obtain ⟨hvalue, hnext⟩ := Option.ite_none_right_eq_some.1 h
      cases hnext
      exact ⟨.opened _ _ _, if_pos hvalue⟩
    | closeArray =>
      cases frame with
      | object members key => cases expect <;> cases h
      | array items =>
        cases expect
        case separator => exact within_of_put houter h
        case valueOrClose => exact within_of_put houter h
        all_goals cases h
    | closeObject =>
      cases frame with
      | array items => cases expect <;> cases h
      | object members key =>
        cases expect
        case separator => exact within_of_put houter h
        case keyOrClose => exact within_of_put houter h
        all_goals cases h

theorem run_append (state : Reading) (tokens others : List Token) :
    state.run (tokens ++ others) = (state.run tokens).bind (·.run others) := by
  induction tokens generalizing state with
  | nil => rfl
  | cons token tokens ih =>
    rw [List.cons_append, run, run, Option.bind_assoc]
    congr 1
    funext next
    exact ih next

theorem run_within (houter : outer.result = none) {final : Reading} {tokens : List Token}
    (hinner : inner.Begun) (h : inner.run tokens = some final) :
    final.Begun ∧ (outer.within inner).run tokens = some (outer.within final) := by
  induction tokens generalizing inner with
  | nil =>
    cases h
    exact ⟨hinner, rfl⟩
  | cons token tokens ih =>
    obtain ⟨next, hstep, hrun⟩ := Option.bind_eq_some_iff.1 h
    obtain ⟨hnext, houterStep⟩ := step_within houter hinner hstep
    rw [run, houterStep, Option.bind_some]
    exact ih hnext hrun

end

end Reading

/-- The value that tokens stand for alone is put where they stand. -/
theorem Document.run_of_ofString? {text : String} {value : Document}
    (h : Document.ofString? text = some value) :
    ∃ tokens, tokens? text = some tokens ∧
      ∀ outer : Reading, outer.atValue → outer.run tokens = some (outer.put value) := by
  simp only [ofString?, Option.bind_eq_bind, Option.bind_eq_some_iff] at h
  obtain ⟨tokens, htokens, final, hrun, hfinal⟩ := h
  refine ⟨tokens, htokens, fun outer houter => ?_⟩
  have hresult : outer.result = none := by
    simpa using (Bool.and_eq_true_iff.1 houter).1
  cases tokens with
  | nil =>
    cases hrun
    cases hfinal
  | cons token tokens =>
    obtain ⟨next, hstep, hrest⟩ := Option.bind_eq_some_iff.1 hrun
    obtain ⟨hbegun, houterStep⟩ := Reading.step_within_start houter hstep
    obtain ⟨hbegunFinal, houterRun⟩ := Reading.run_within hresult hbegun hrest
    rw [Reading.run, houterStep, Option.bind_some, houterRun]
    cases hbegunFinal with
    | opened frame frames expect => cases hfinal
    | complete other =>
      cases hfinal
      rfl

end ZeroShot.Json
