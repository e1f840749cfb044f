import ZeroShot.Classifier.Options
import ZeroShot.Proofs.Json.Integers
import ZeroShot.Proofs.Number.Digits

/-! Options given as loose arguments.

Each known argument that is there must be usable, and then it counts with its very value; the others
count with their defaults. A refusal is for the first unusable one in an order that the names have,
wherever the arguments stand. One step looks at one argument, and what it leaves to be found out
carries over to all of them. -/

namespace ZeroShot

structure Arguments where
  members : List (String × Json)
  nodup : (members.map Prod.fst).Nodup
  inRange : ∀ key x, (key, .number x) ∈ members → x.InRange

namespace Arguments

theorem exists_of_ofString? {text : String} {members : List (String × Json)}
    (h : Json.ofString? text = some (.object members)) : ∃ m : Arguments, m.members = members := by
  obtain ⟨document, hdocument, hkeep⟩ := Option.bind_eq_some_iff.1 h
  obtain ⟨entries, kept, rfl, hkept, rfl⟩ := Json.Document.exists_of_keep?_eq_object hkeep
  refine ⟨⟨Members.ofList kept, Members.nodup_ofList kept, fun key x hmem => ?_⟩, rfl⟩
  have hget := Members.get?_of_mem (Members.nodup_ofList kept) hmem
  rw [Members.get?_ofList] at hget
  have hlast := List.mem_reverse.1 (Members.mem_of_get?_eq_some hget)
  obtain ⟨found, hfound, hvalue⟩ := Json.Document.exists_mem_of_keepMembers? hkept hlast
  cases Json.Document.inRange_of_ofString? hdocument with
  | object hentries => exact Json.Document.inRange_of_keep? (hentries _ hfound) hvalue

end Arguments

namespace Options

inductive IsFlag : Json → Bool → Prop where
  | native (b : Bool) : IsFlag (.bool b) b
  | written {text : String} {b : Bool} (h : Text.lowercase (Text.trim text) = toString b) :
    IsFlag (.string text) b

/-- An integer, or its digits between blanks, after one plus sign or none. A number that is held as
binary64 is no integer, not even `1.0` or `-0.0`. -/
inductive IsNatural : Json → Nat → Prop where
  | native {n : Nat} (hn : n < 0x10000000000000000) : IsNatural (.number (.integer n)) n
  | written {text : String} {digits : List Char} {n : Nat}
    (htext : Text.trimBlanks text.toList = digits ∨ Text.trimBlanks text.toList = '+' :: digits)
    (hdigits : Number.IsNumeral digits n) (hn : n < 0x10000000000000000) :
    IsNatural (.string text) n

inductive IsText : Json → String → Prop where
  | native (text : String) : IsText (.string text) text

theorem flagArgument?_eq_some_iff {value : Json} {b : Bool} :
    flagArgument? value = some b ↔ IsFlag value b := by
  constructor
  · intro h
    cases value with
    | bool _ =>
      cases h
      exact .native b
    | string text =>
      unfold flagArgument? at h
      dsimp only at h
      split at h
      · next htrue =>
        cases h
        exact .written htrue
      · split at h
        · next hfalse =>
          cases h
          exact .written hfalse
        · cases h
    | _ => cases h
  · intro h
    cases h with
    | native => rfl
    | written h =>
      unfold flagArgument?
      dsimp only
      rw [h]
      cases b <;> rfl

theorem naturalArgument?_of_isNatural {value : Json} {n : Nat} (h : IsNatural value n) :
    naturalArgument? value = some n := by
  cases h with
  | native _ =>
    unfold naturalArgument?
    exact if_pos (Int.natCast_nonneg n)
  | written htext hdigits hn => exact Number.unsigned?_eq_some_iff.2 ⟨_, htext, hdigits, hn⟩

theorem naturalArgument?_eq_some_iff {value : Json} {n : Nat}
    (hvalue : ∀ x, value = .number x → x.InRange) :
    naturalArgument? value = some n ↔ IsNatural value n := by
  refine ⟨fun h => ?_, naturalArgument?_of_isNatural⟩
  cases value with
  | number x =>
    cases x with
    | integer k =>
      obtain ⟨-, hlt⟩ : -0x8000000000000000 ≤ k ∧ k < 0x10000000000000000 := hvalue _ rfl
      unfold naturalArgument? at h
      dsimp only at h
      split at h
      · next hk =>
        cases h
        obtain ⟨n, rfl⟩ := Int.eq_ofNat_of_zero_le hk
        exact .native (by omega)
      · cases h
    | real _ => cases h
  | string text =>
    obtain ⟨digits, htext, hdigits, hn⟩ := Number.unsigned?_eq_some_iff.1 h
    exact .written htext hdigits hn
  | _ => cases h

theorem str?_eq_some_iff {value : Json} {text : String} :
    Json.str? value = some text ↔ IsText value text := by
  constructor
  · intro h
    cases value with
    | string _ =>
      cases h
      exact .native text
    | _ => cases h
  · rintro ⟨⟩
    rfl

section

variable {α : Type}

def Usable (IsValue : Json → α → Prop) (value : Json) : Prop := ∃ a, IsValue value a

def known : List (String × (Json → Prop)) :=
  [("tokenTypeId", Usable IsFlag), ("int32", Usable IsFlag), ("entailmentId", Usable IsNatural),
    ("contradictionId", Usable IsNatural), ("hypothesisTemplate", Usable IsText),
    ("multiLabel", Usable IsFlag), ("maxConcurrency", Usable IsNatural)]

def UsableIn (members : List (String × Json)) (argument : String × (Json → Prop)) : Prop :=
  ∀ value, Members.get? members argument.1 = some value → argument.2 value

/-- What the argument counts as: the default if it is not there. -/
inductive Counts (members : List (String × Json)) (key : String) (IsValue : Json → α → Prop)
    (default : α) : α → Prop where
  | absent (hget : Members.get? members key = none) : Counts members key IsValue default default
  | given {value : Json} {a : α} (hget : Members.get? members key = some value)
    (h : IsValue value a) : Counts members key IsValue default a

structure Gives (members : List (String × Json)) (o : Options) : Prop where
  tokenTypeIds : Counts members "tokenTypeId" IsFlag ({} : Options).tokenTypeIds o.tokenTypeIds
  int32 : Counts members "int32" IsFlag ({} : Options).int32 o.int32
  entailmentId : Counts members "entailmentId" IsNatural ({} : Options).entailmentId o.entailmentId
  contradictionId : Counts members "contradictionId" IsNatural ({} : Options).contradictionId
    o.contradictionId
  hypothesisTemplate : Counts members "hypothesisTemplate" IsText ({} : Options).hypothesisTemplate
    o.hypothesisTemplate
  multiLabel : Counts members "multiLabel" IsFlag ({} : Options).multiLabel o.multiLabel
  maxConcurrency : Counts members "maxConcurrency" IsNatural ({} : Options).maxConcurrency
    o.maxConcurrency

/-- Of the arguments in that order the first that is there and not usable. -/
inductive FirstUnusable (members : List (String × Json)) :
    List (String × (Json → Prop)) → String → Json → Prop where
  | here {key : String} {usable : Json → Prop} {rest : List (String × (Json → Prop))}
    {value : Json} (hget : Members.get? members key = some value) (h : ¬ usable value) :
    FirstUnusable members ((key, usable) :: rest) key value
  | later {argument : String × (Json → Prop)} {rest : List (String × (Json → Prop))}
    {key : String} {value : Json} (husable : UsableIn members argument)
    (h : FirstUnusable members rest key value) :
    FirstUnusable members (argument :: rest) key value

/-- What comes of looking at the arguments of a list, in its order, and then at the concurrency. -/
inductive Verdict (members : List (String × Json)) (arguments : List (String × (Json → Prop))) :
    Except InputFault Options → Prop where
  | unusable {key : String} {value : Json} (h : FirstUnusable members arguments key value) :
    Verdict members arguments (.error (.badArgument key value))
  | zero {o : Options} (h : Gives members o) (hzero : o.maxConcurrency = 0) :
    Verdict members arguments (.error .zeroConcurrency)
  | ok {o : Options} (h : Gives members o) (hpos : 1 ≤ o.maxConcurrency) :
    Verdict members arguments (.ok o)

variable {members : List (String × Json)} {IsValue : Json → α → Prop}

theorem Counts.usableIn {key : String} {default a : α} (h : Counts members key IsValue default a) :
    UsableIn members (key, Usable IsValue) := by
  intro value hvalue
  cases h with
  | absent hget => exact absurd (hget.symm.trans hvalue) nofun
  | given hget h => exact Option.some.inj (hget.symm.trans hvalue) ▸ ⟨a, h⟩

theorem Counts.unique {key : String} {default a b : α}
    (hunique : ∀ value a b, IsValue value a → IsValue value b → a = b)
    (ha : Counts members key IsValue default a) (hb : Counts members key IsValue default b) :
    a = b := by
  cases ha with
  | absent hget =>
    cases hb with
    | absent _ => rfl
    | given hget' _ => exact absurd (hget.symm.trans hget') nofun
  | given hget ha =>
    cases hb with
    | absent hget' => exact absurd (hget.symm.trans hget') nofun
    | given hget' hb =>
      cases hget.symm.trans hget'
      exact hunique _ a b ha hb

theorem Gives.usableIn {o : Options} (h : Gives members o) : ∀ a ∈ known, UsableIn members a := by
  simp only [known, List.forall_mem_cons]
  exact ⟨h.tokenTypeIds.usableIn, h.int32.usableIn, h.entailmentId.usableIn,
    h.contradictionId.usableIn, h.hypothesisTemplate.usableIn, h.multiLabel.usableIn,
    h.maxConcurrency.usableIn, List.forall_mem_nil _⟩

theorem Verdict.argument {key : String} {default : α} {read : Json → Option α}
    {arguments : List (String × (Json → Prop))} {next : α → Except InputFault Options}
    (hread : ∀ value, Members.get? members key = some value →
      ∀ a, read value = some a ↔ IsValue value a)
    (hnext : ∀ a, Counts members key IsValue default a → Verdict members arguments (next a)) :
    Verdict members ((key, Usable IsValue) :: arguments)
      (Options.argument members key default read >>= next) := by
  have hcounts {a : α} (h : Counts members key IsValue default a) :
      Verdict members ((key, Usable IsValue) :: arguments) (next a) := by
    have hverdict := hnext a h
    generalize next a = r at hverdict ⊢
    cases hverdict with
    | unusable hfirst => exact .unusable (.later h.usableIn hfirst)
    | zero hgives hzero => exact .zero hgives hzero
    | ok hgives hpos => exact .ok hgives hpos
  unfold Options.argument
  cases hget : Members.get? members key with
  | none => exact hcounts (.absent hget)
  | some value =>
    cases hvalue : read value with
    | some a =>
      dsimp only
      rw [hvalue]
      exact hcounts (.given hget ((hread value hget a).1 hvalue))
    | none =>
      dsimp only
      rw [hvalue]
      refine .unusable (.here hget ?_)
      rintro ⟨a, ha⟩
      rw [(hread value hget a).2 ha] at hvalue
      cases hvalue

end

theorem verdict_ofArguments (m : Arguments) :
    Verdict m.members known (ofArguments m.members) := by
  have hflag (key : String) (value : Json) (_ : Members.get? m.members key = some value) (b : Bool) :
      flagArgument? value = some b ↔ IsFlag value b := flagArgument?_eq_some_iff
  have hnatural (key : String) (value : Json) (hget : Members.get? m.members key = some value)
      (n : Nat) : naturalArgument? value = some n ↔ IsNatural value n := by
    apply naturalArgument?_eq_some_iff
    rintro x rfl
    exact m.inRange key x (Members.mem_of_get?_eq_some hget)
  have htext (key : String) (value : Json) (_ : Members.get? m.members key = some value)
      (text : String) : Json.str? value = some text ↔ IsText value text := str?_eq_some_iff
  -- one step for each key, in the order in which the keys are read
  refine Verdict.argument (hflag _) fun tokenTypeIds htokenTypeIds => ?_
  refine Verdict.argument (hflag _) fun int32 hint32 => ?_
  refine Verdict.argument (hnatural _) fun entailmentId hentailmentId => ?_
  refine Verdict.argument (hnatural _) fun contradictionId hcontradictionId => ?_
  refine Verdict.argument (htext _) fun hypothesisTemplate hhypothesisTemplate => ?_
  refine Verdict.argument (hflag _) fun multiLabel hmultiLabel => ?_
  refine Verdict.argument (hnatural _) fun maxConcurrency hmaxConcurrency => ?_
  have hgives : Gives m.members ⟨entailmentId, contradictionId, tokenTypeIds, int32,
      hypothesisTemplate, multiLabel, maxConcurrency⟩ :=
    ⟨htokenTypeIds, hint32, hentailmentId, hcontradictionId, hhypothesisTemplate, hmultiLabel,
      hmaxConcurrency⟩
  rcases Nat.eq_zero_or_pos maxConcurrency with rfl | hpos
  · exact .zero hgives rfl
  · have hvalid : validate ⟨entailmentId, contradictionId, tokenTypeIds, int32,
        hypothesisTemplate, multiLabel, maxConcurrency⟩ = .ok () := if_neg (Nat.ne_of_gt hpos)
    dsimp only
    rw [hvalid]
    exact .ok hgives hpos

theorem IsFlag.unique (value : Json) (a b : Bool) (ha : IsFlag value a) (hb : IsFlag value b) :
    a = b :=
  Option.some.inj ((flagArgument?_eq_some_iff.2 ha).symm.trans (flagArgument?_eq_some_iff.2 hb))

theorem IsNatural.unique (value : Json) (a b : Nat) (ha : IsNatural value a)
    (hb : IsNatural value b) : a = b :=
  Option.some.inj
    ((naturalArgument?_of_isNatural ha).symm.trans (naturalArgument?_of_isNatural hb))

theorem IsText.unique (value : Json) (a b : String) (ha : IsText value a) (hb : IsText value b) :
    a = b :=
  Option.some.inj ((str?_eq_some_iff.2 ha).symm.trans (str?_eq_some_iff.2 hb))

section

variable {members : List (String × Json)}

theorem Gives.unique {o o' : Options} (h : Gives members o) (h' : Gives members o') : o = o' := by
  have htokenTypeIds := h.tokenTypeIds.unique IsFlag.unique h'.tokenTypeIds
  have hint32 := h.int32.unique IsFlag.unique h'.int32
  have hentailmentId := h.entailmentId.unique IsNatural.unique h'.entailmentId
  have hcontradictionId := h.contradictionId.unique IsNatural.unique h'.contradictionId
  have hhypothesisTemplate := h.hypothesisTemplate.unique IsText.unique h'.hypothesisTemplate
  have hmultiLabel := h.multiLabel.unique IsFlag.unique h'.multiLabel
  have hmaxConcurrency := h.maxConcurrency.unique IsNatural.unique h'.maxConcurrency
  cases o
  cases o'
  rw [Options.mk.injEq]
  exact ⟨hentailmentId, hcontradictionId, htokenTypeIds, hint32, hhypothesisTemplate, hmultiLabel,
    hmaxConcurrency⟩

theorem FirstUnusable.unique {arguments : List (String × (Json → Prop))} {key key' : String}
    {value value' : Json} (h : FirstUnusable members arguments key value)
    (h' : FirstUnusable members arguments key' value') : key = key' ∧ value = value' := by
  induction h with
  | here hget hunusable =>
    cases h' with
    | here hget' _ => exact ⟨rfl, Option.some.inj (hget.symm.trans hget')⟩
    | later husable _ => exact absurd (husable _ hget) hunusable
  | later husable _ ih =>
    cases h' with
    | here hget' hunusable => exact absurd (husable _ hget') hunusable
    | later _ h' => exact ih h'

theorem FirstUnusable.not_usableIn {arguments : List (String × (Json → Prop))} {key : String}
    {value : Json} (h : FirstUnusable members arguments key value) :
    ¬ ∀ a ∈ arguments, UsableIn members a := by
  intro husable
  induction h with
  | here hget hunusable => exact hunusable (husable _ List.mem_cons_self _ hget)
  | later _ _ ih => exact ih fun a ha => husable a (List.mem_cons_of_mem _ ha)

theorem Verdict.unique {r r' : Except InputFault Options} (h : Verdict members known r)
    (h' : Verdict members known r') : r = r' := by
  cases h with
  | unusable hfirst =>
    cases h' with
    | unusable hfirst' =>
      obtain ⟨rfl, rfl⟩ := hfirst.unique hfirst'
      rfl
    | zero hgives _ => exact absurd hgives.usableIn hfirst.not_usableIn
    | ok hgives _ => exact absurd hgives.usableIn hfirst.not_usableIn
  | zero hgives hzero =>
    cases h' with
    | unusable hfirst => exact absurd hgives.usableIn hfirst.not_usableIn
    | zero _ _ => rfl
    | ok hgives' hpos =>
      cases hgives.unique hgives'
      exact absurd hzero (Nat.ne_of_gt hpos)
  | ok hgives hpos =>
    cases h' with
    | unusable hfirst => exact absurd hgives.usableIn hfirst.not_usableIn
    | zero hgives' hzero =>
      cases hgives.unique hgives'
      exact absurd hzero (Nat.ne_of_gt hpos)
    | ok hgives' _ => rw [hgives.unique hgives']

end

theorem ofArguments_eq_iff (m : Arguments) (r : Except InputFault Options) :
    ofArguments m.members = r ↔ Verdict m.members known r := by
  constructor
  · rintro rfl
    exact verdict_ofArguments m
  · exact (verdict_ofArguments m).unique

theorem exists_ok_iff (m : Arguments) :
    (∃ o, ofArguments m.members = .ok o) ↔
      (∀ a ∈ known, UsableIn m.members a) ∧ ¬ Counts m.members "maxConcurrency" IsNatural 1 0 := by
  constructor
  · rintro ⟨o, ho⟩
    cases (ofArguments_eq_iff m _).1 ho with
    | ok hgives hpos =>
      refine ⟨hgives.usableIn, fun hzero => ?_⟩
      exact Nat.ne_of_gt hpos (hgives.maxConcurrency.unique IsNatural.unique hzero)
  · rintro ⟨husable, hzero⟩
    have hverdict := verdict_ofArguments m
    generalize ofArguments m.members = r at hverdict ⊢
    cases hverdict with
    | unusable hfirst => exact absurd husable hfirst.not_usableIn
    | zero hgives hnone => exact absurd (hnone ▸ hgives.maxConcurrency) hzero
    | ok _ _ => exact ⟨_, rfl⟩

theorem ofArguments_congr {members others : List (String × Json)}
    (h : ∀ a ∈ known, Members.get? others a.1 = Members.get? members a.1) :
    ofArguments others = ofArguments members := by
  simp only [known, List.forall_mem_cons] at h
  obtain ⟨htokenTypeIds, hint32, hentailmentId, hcontradictionId, hhypothesisTemplate, hmultiLabel,
    hmaxConcurrency, -⟩ := h
  simp only [ofArguments, argument, htokenTypeIds, hint32, hentailmentId, hcontradictionId,
    hhypothesisTemplate, hmultiLabel, hmaxConcurrency]

end Options

end ZeroShot
