import Mathlib.Data.List.TakeWhile
import ZeroShot.Proofs.Json.Members

/-! Integers in JSON text.

An integer literal that is read as an integer fits into 64 bits, with or without a sign. That holds
of each token, is kept by every step that puts the tokens together, and so holds of every integer in
a document. -/

namespace ZeroShot.Json

def Number.InRange : Number → Prop
  | .integer n => -0x8000000000000000 ≤ n ∧ n < 0x10000000000000000
  | .real _ => True

theorem takeInteger_lt {significand : Nat} (h : significand < 0x10000000000000000)
    (digits : List Char) : (takeInteger significand digits).1 < 0x10000000000000000 := by
  induction digits generalizing significand with
  | nil => exact h
  | cons c digits ih =>
    rw [takeInteger]
    split
    · next hnext => exact ih hnext
    · exact h

theorem inRange_of_ofParts {negative : Bool} {significand : Nat} {exponent : Int} {x : Number}
    (h : ofParts negative significand exponent = some x) : x.InRange := by
  obtain ⟨y, -, rfl⟩ := Option.map_eq_some_iff.1 h
  trivial

theorem inRange_of_ofInteger {negative : Bool} {digits : List Char} {x : Number}
    (h : ofInteger negative digits = some x) : x.InRange := by
  have hlt := takeInteger_lt (show 0 < 0x10000000000000000 by decide) digits
  unfold ofInteger at h
  dsimp only at h
  split at h
  · exact inRange_of_ofParts h
  · split at h
    · cases h
      unfold Number.InRange
      dsimp only
      omega
    · split at h
      · cases h
        trivial
      · next hsmall =>
        cases h
        unfold Number.InRange
        dsimp only
        omega

/-- A literal is nothing but digits, with a sign before them or not, or else it is a significand to
be scaled by a power of ten. -/
theorem digits_or_parts_of_number? {literal : List Char} {value : Option Number}
    (h : number? literal = some value) :
    (∃ digits, digits ≠ [] ∧ (∀ c ∈ digits, isDigit c) ∧
      (literal = '-' :: digits ∧ value = ofInteger true digits ∨
        literal = digits ∧ value = ofInteger false digits)) ∨
      (∃ c ∈ literal, ¬ isDigit c) ∧
        ∃ negative significand exponent, value = ofParts negative significand exponent := by
  have hpower {negative : Bool} {significand : Nat} {shift : Int} {power : List Char}
      (h : (exponent? power).map (fun e => ofParts negative significand (shift + e)) =
        some value) : ∃ negative significand exponent,
          value = ofParts negative significand exponent := by
    obtain ⟨e, -, hparts⟩ := Option.map_eq_some_iff.1 h
    exact ⟨negative, significand, shift + e, hparts.symm⟩
  unfold number? at h
  split at h
  next negative body hbody =>
    have hmem : ∀ c ∈ body, c ∈ literal := by
      split at hbody
      · cases hbody
        exact fun c hc => List.mem_cons_of_mem _ hc
      · cases hbody
        exact fun c hc => hc
    have hother {c : Char} {rest : List Char} (hrest : body.dropWhile isDigit = c :: rest) :
        ∃ c ∈ literal, ¬ isDigit c := by
      by_contra hnone
      have hall : ∀ c ∈ body, isDigit c := fun c hc =>
        not_not.1 fun hdigit => hnone ⟨c, hmem c hc, hdigit⟩
      rw [List.dropWhile_eq_nil_iff.2 hall] at hrest
      cases hrest
    dsimp only at h
    split at h
    · cases h
    · next hdigits =>
      split at h
      · next hrest =>
        have hall := List.dropWhile_eq_nil_iff.1 hrest
        have hne : body ≠ [] := by
          rintro rfl
          exact hdigits rfl
        cases h
        rw [List.takeWhile_eq_self_iff.2 hall]
        refine .inl ⟨body, hne, hall, ?_⟩
        split at hbody
        · cases hbody
          exact .inl ⟨rfl, rfl⟩
        · cases hbody
          exact .inr ⟨rfl, rfl⟩
      · next hrest =>
        refine .inr ⟨hother hrest, ?_⟩
        split at h
        · cases h
        · split at h
          · cases h
            exact ⟨_, _, _, rfl⟩
          · split at h
            · exact hpower h
            · cases h
      · next hrest =>
        refine .inr ⟨hother hrest, ?_⟩
        split at h
        · exact hpower h
        · cases h

theorem inRange_of_number? {literal : List Char} {x : Number}
    (h : number? literal = some (some x)) : x.InRange := by
  obtain ⟨digits, -, -, ⟨-, hvalue⟩ | ⟨-, hvalue⟩⟩ | ⟨-, negative, significand, exponent, hvalue⟩ :=
    digits_or_parts_of_number? h
  · exact inRange_of_ofInteger hvalue.symm
  · exact inRange_of_ofInteger hvalue.symm
  · exact inRange_of_ofParts hvalue.symm

def Token.InRange : Token → Prop
  | .number (some x) => x.InRange
  | _ => True

theorem Token.inRange_of_ofWord? {letters : List Char} {token : Token}
    (h : Token.ofWord? letters = some token) : token.InRange := by
  unfold Token.ofWord? at h
  split at h
  · cases h
    trivial
  · split at h
    · cases h
      trivial
    · split at h
      · cases h
        trivial
      · cases h

theorem Token.inRange_of_number? {literal : List Char} {value : Option Number}
    (h : number? literal = some value) : (Token.number value).InRange := by
  cases value with
  | none => trivial
  | some x => exact Json.inRange_of_number? h

theorem Lexing.inRange_of_start {c : Char} {tokens : List Token} {next : Lexing}
    (h : Lexing.start c = some (tokens, next)) : ∀ token ∈ tokens, token.InRange := by
  unfold Lexing.start at h
  split at h
  · cases h
    simp
  · split at h
    all_goals try (cases h; simp [Token.InRange])
    split at h
    · cases h
      simp
    · split at h
      · cases h
        simp
      · cases h

theorem Lexing.inRange_of_step {state next : Lexing} {c : Char} {tokens : List Token}
    (h : state.step c = some (tokens, next)) : ∀ token ∈ tokens, token.InRange := by
  cases state with
  | between => exact inRange_of_start h
  | word letters =>
    rw [Lexing.step] at h
    split at h
    · cases h
      simp
    · simp only [Option.bind_eq_bind, Option.bind_eq_some_iff] at h
      obtain ⟨token, htoken, ⟨others, next'⟩, hothers, hstep⟩ := h
      cases hstep
      exact List.forall_mem_cons.2 ⟨Token.inRange_of_ofWord? htoken, inRange_of_start hothers⟩
  | number literal =>
    rw [Lexing.step] at h
    split at h
    · cases h
      simp
    · simp only [Option.bind_eq_bind, Option.bind_eq_some_iff] at h
      obtain ⟨value, hvalue, ⟨others, next'⟩, hothers, hstep⟩ := h
      cases hstep
      exact List.forall_mem_cons.2 ⟨Token.inRange_of_number? hvalue, inRange_of_start hothers⟩
  | string elements =>
    rw [Lexing.step] at h
    split at h
    · cases h
      simp [Token.InRange]
    · split at h
      · cases h
        simp
      · split at h
        · cases h
        · cases h
          simp
  | escape elements =>
    rw [Lexing.step] at h
    split at h
    · cases h
      simp
    · obtain ⟨e, -, hstep⟩ := Option.map_eq_some_iff.1 h
      cases hstep
      simp
  | unit elements digits code =>
    obtain ⟨d, -, hstep⟩ := Option.map_eq_some_iff.1 h
    dsimp only at hstep
    split at hstep
    · cases hstep
      simp
    · cases hstep
      simp

theorem Lexing.inRange_of_finish {state : Lexing} {tokens : List Token}
    (h : state.finish = some tokens) : ∀ token ∈ tokens, token.InRange := by
  cases state with
  | between =>
    cases h
    simp
  | word letters =>
    obtain ⟨token, htoken, rfl⟩ := Option.map_eq_some_iff.1 h
    simpa using Token.inRange_of_ofWord? htoken
  | number literal =>
    obtain ⟨value, hvalue, rfl⟩ := Option.map_eq_some_iff.1 h
    simpa using Token.inRange_of_number? hvalue
  | string elements => cases h
  | escape elements => cases h
  | unit elements digits code => cases h

theorem Lexing.inRange_of_run {state : Lexing} {text : List Char} {tokens : List Token}
    (h : state.run text = some tokens) : ∀ token ∈ tokens, token.InRange := by
  induction text generalizing state tokens with
  | nil => exact inRange_of_finish h
  | cons c text ih =>
    simp only [Lexing.run, Option.bind_eq_bind, Option.bind_eq_some_iff] at h
    obtain ⟨⟨now, next⟩, hnow, later, hlater, htokens⟩ := h
    cases htokens
    exact List.forall_mem_append.2 ⟨inRange_of_step hnow, ih hlater⟩

inductive Document.InRange : Document → Prop where
  | null : InRange .null
  | bool (value : Bool) : InRange (.bool value)
  | number {value : Option Number} (h : ∀ x, value = some x → x.InRange) : InRange (.number value)
  | string (text : Option String) : InRange (.string text)
  | array {items : List Document} (h : ∀ item ∈ items, item.InRange) : InRange (.array items)
  | object {members : List (Option String × Document)} (h : ∀ m ∈ members, m.2.InRange) :
    InRange (.object members)

def Frame.InRange : Frame → Prop
  | .array items => ∀ item ∈ items, item.InRange
  | .object members _ => ∀ m ∈ members, m.2.InRange

structure Reading.InRange (state : Reading) : Prop where
  frames : ∀ frame ∈ state.frames, frame.InRange
  result : ∀ value, state.result = some value → value.InRange

theorem Reading.InRange.put {state : Reading} {value : Document} (h : state.InRange)
    (hvalue : value.InRange) : (state.put value).InRange := by
  obtain ⟨frames, expect, result⟩ := state
  obtain ⟨hframes, hresult⟩ := h
  unfold Reading.put
  split
  · next hnil => exact ⟨hframes, fun v hv => Option.some.inj hv ▸ hvalue⟩
  · next items rest hcons =>
    cases hcons
    obtain ⟨hitems, hrest⟩ := List.forall_mem_cons.1 hframes
    exact ⟨List.forall_mem_cons.2 ⟨List.forall_mem_cons.2 ⟨hvalue, hitems⟩, hrest⟩, hresult⟩
  · next members key rest hcons =>
    cases hcons
    obtain ⟨hmembers, hrest⟩ := List.forall_mem_cons.1 hframes
    exact ⟨List.forall_mem_cons.2 ⟨List.forall_mem_cons.2 ⟨hvalue, hmembers⟩, hrest⟩, hresult⟩

theorem Reading.InRange.putScalar {state next : Reading} {value : Document} (h : state.InRange)
    (hvalue : value.InRange) (hnext : state.putScalar value = some next) : next.InRange := by
  unfold Reading.putScalar at hnext
  split at hnext
  · cases hnext
    exact h.put hvalue
  · cases hnext

theorem Reading.InRange.top {state : Reading} {frame : Frame} {rest : List Frame} (h : state.InRange)
    (hframes : state.frames = frame :: rest) :
    frame.InRange ∧ Reading.InRange { state with frames := rest } := by
  obtain ⟨hframe, hrest⟩ := List.forall_mem_cons.1 (hframes ▸ h.frames)
  exact ⟨hframe, hrest, h.result⟩

theorem Reading.InRange.push {state : Reading} {frame : Frame} (h : state.InRange)
    (hframe : frame.InRange) (expect : Expect) :
    Reading.InRange { state with frames := frame :: state.frames, expect } :=
  ⟨List.forall_mem_cons.2 ⟨hframe, h.frames⟩, h.result⟩

theorem Reading.InRange.nameMember {state : Reading} {members : List (Option String × Document)}
    {key : Option String} {rest : List Frame} (h : state.InRange)
    (hframes : state.frames = .object members key :: rest) (name : Option String) :
    Reading.InRange { state with frames := .object members name :: rest, expect := .colon } := by
  obtain ⟨hmembers, hrest⟩ := h.top hframes
  have hnamed : (Frame.object members name).InRange := hmembers
  exact hrest.push hnamed .colon

theorem Reading.InRange.closeArray {state : Reading} {items : List Document} {rest : List Frame}
    (h : state.InRange) (hframes : state.frames = .array items :: rest) :
    (Reading.put { state with frames := rest } (.array items.reverse)).InRange := by
  obtain ⟨hitems, hrest⟩ := h.top hframes
  exact hrest.put (.array fun item hitem => hitems item (List.mem_reverse.1 hitem))

theorem Reading.InRange.closeObject {state : Reading} {members : List (Option String × Document)}
    {key : Option String} {rest : List Frame} (h : state.InRange)
    (hframes : state.frames = .object members key :: rest) :
    (Reading.put { state with frames := rest } (.object members.reverse)).InRange := by
  obtain ⟨hmembers, hrest⟩ := h.top hframes
  exact hrest.put (.object fun m hm => hmembers m (List.mem_reverse.1 hm))

theorem Reading.InRange.step {state next : Reading} {token : Token} (h : state.InRange)
    (htoken : token.InRange) (hnext : state.step token = some next) : next.InRange := by
  cases token with
  | null => exact h.putScalar .null hnext
  | bool value => exact h.putScalar (.bool value) hnext
  | number value =>
    refine h.putScalar (.number ?_) hnext
    rintro x rfl
    exact htoken
  | string text =>
    unfold Reading.step at hnext
    dsimp only at hnext
    split at hnext
    · next hframes =>
      cases hnext
      exact h.nameMember hframes text
    · next hframes =>
      cases hnext
      exact h.nameMember hframes text
    · exact h.putScalar (.string text) hnext
  | colon =>
    obtain ⟨-, hnext⟩ := Option.ite_none_right_eq_some.1 hnext
    cases hnext
    exact ⟨h.frames, h.result⟩
  | comma =>
    unfold Reading.step at hnext
    dsimp only at hnext
    split at hnext
    · cases hnext
      exact ⟨h.frames, h.result⟩
    · cases hnext
      exact ⟨h.frames, h.result⟩
    · cases hnext
  | openArray =>
    obtain ⟨-, hnext⟩ := Option.ite_none_right_eq_some.1 hnext
    cases hnext
    exact h.push (by simp [Frame.InRange]) .valueOrClose
  | openObject =>
    obtain ⟨-, hnext⟩ := Option.ite_none_right_eq_some.1 hnext
    cases hnext
    exact h.push (by simp [Frame.InRange]) .keyOrClose
  | closeArray =>
    unfold Reading.step at hnext
    dsimp only at hnext
    split at hnext
    · next hframes =>
      cases hnext
      exact h.closeArray hframes
    · next hframes =>
      cases hnext
      exact h.closeArray hframes
    · cases hnext
  | closeObject =>
    unfold Reading.step at hnext
    dsimp only at hnext
    split at hnext
    · next hframes =>
      cases hnext
      exact h.closeObject hframes
    · next hframes =>
      cases hnext
      exact h.closeObject hframes
    · cases hnext

theorem Reading.InRange.run {state final : Reading} {tokens : List Token} (h : state.InRange)
    (htokens : ∀ token ∈ tokens, token.InRange) (hfinal : state.run tokens = some final) :
    final.InRange := by
  induction tokens generalizing state with
  | nil =>
    cases hfinal
    exact h
  | cons token tokens ih =>
    obtain ⟨htoken, hrest⟩ := List.forall_mem_cons.1 htokens
    obtain ⟨next, hnext, hrun⟩ := Option.bind_eq_some_iff.1 hfinal
    exact ih (h.step htoken hnext) hrest hrun

theorem Document.inRange_of_ofString? {text : String} {document : Document}
    (h : Document.ofString? text = some document) : document.InRange := by
  simp only [Document.ofString?, Option.bind_eq_bind, Option.bind_eq_some_iff] at h
  obtain ⟨tokens, htokens, final, hfinal, h⟩ := h
  have hstart : Reading.start.InRange := ⟨by simp [Reading.start], nofun⟩
  split at h
  · exact (hstart.run (Lexing.inRange_of_run htokens) hfinal).result document h
  · cases h

theorem Document.inRange_of_keep? {room : Nat} {document : Document} {x : Number}
    (hdocument : document.InRange) (h : document.keep? room = some (.number x)) : x.InRange := by
  cases hdocument with
  | null => cases h
  | bool value => cases h
  | number hvalue =>
    obtain ⟨y, hy, hxy⟩ := Option.map_eq_some_iff.1 h
    cases hxy
    exact hvalue x hy
  | string text =>
    obtain ⟨t, -, ht⟩ := Option.map_eq_some_iff.1 h
    cases ht
  | array _ =>
    cases room with
    | zero => cases h
    | succ room =>
      obtain ⟨items, -, hitems⟩ := Option.map_eq_some_iff.1 h
      cases hitems
  | object _ =>
    cases room with
    | zero => cases h
    | succ room =>
      obtain ⟨members, -, hmembers⟩ := Option.map_eq_some_iff.1 h
      cases hmembers

end ZeroShot.Json
