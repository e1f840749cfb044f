import ZeroShot.Proofs.Classifier.Arguments
import ZeroShot.Proofs.Text.Ascii

/-! Options that are written down as arguments.

Flags are written natively or as words, numbers natively or in digits, and blanks around them do not
matter. What is written down is read back, in any order and in the midst of other arguments. -/

namespace ZeroShot.Options

/-- A flag, or its name in any case between blanks. -/
inductive WritesFlag (b : Bool) : Json → Prop where
  | native : WritesFlag b (.bool b)
  | written {before word after : String} (hbefore : ∀ c ∈ before.toList, Text.isBlank c)
    (hword : word.toLower = toString b) (hafter : ∀ c ∈ after.toList, Text.isBlank c) :
    WritesFlag b (.string (before ++ word ++ after))

/-- A number, or its decimal digits between blanks. -/
inductive WritesNatural (n : Nat) : Json → Prop where
  | native : WritesNatural n (Json.ofNat n)
  | written {before after : String} (hbefore : ∀ c ∈ before.toList, Text.isBlank c)
    (hafter : ∀ c ∈ after.toList, Text.isBlank c) :
    WritesNatural n (.string (before ++ toString n ++ after))

def Has (members : List (String × Json)) (key : String) (P : Json → Prop) : Prop :=
  ∃ value, Members.get? members key = some value ∧ P value

structure Writes (members : List (String × Json)) (o : Options) : Prop where
  tokenTypeIds : Has members "tokenTypeId" (WritesFlag o.tokenTypeIds)
  int32 : Has members "int32" (WritesFlag o.int32)
  entailmentId : Has members "entailmentId" (WritesNatural o.entailmentId)
  contradictionId : Has members "contradictionId" (WritesNatural o.contradictionId)
  hypothesisTemplate : Has members "hypothesisTemplate" (· = .string o.hypothesisTemplate)
  multiLabel : Has members "multiLabel" (WritesFlag o.multiLabel)
  maxConcurrency : Has members "maxConcurrency" (WritesNatural o.maxConcurrency)

structure Fits (o : Options) : Prop where
  entailmentId : o.entailmentId < 0x10000000000000000
  contradictionId : o.contradictionId < 0x10000000000000000
  maxConcurrency : o.maxConcurrency < 0x10000000000000000

theorem WritesFlag.isFlag {b : Bool} {value : Json} (h : WritesFlag b value) : IsFlag value b := by
  cases h with
  | native => exact .native b
  | written hbefore hword hafter =>
    refine .written (Text.lowercase_trim_padded hbefore hafter hword ?_ ?_)
    · cases b <;> decide
    · cases b <;> decide

theorem WritesNatural.isNatural {n : Nat} {value : Json} (hn : n < 0x10000000000000000)
    (h : WritesNatural n value) : IsNatural value n := by
  cases h with
  | native => exact .native hn
  | written hbefore hafter =>
    have hdigits := Number.isNumeral_toDigits n
    refine .written (.inl ?_) hdigits hn
    rw [String.append_assoc, String.toList_append, String.toList_append,
      Nat.toString_eq_ofList_toDigits, String.toList_ofList]
    exact Text.trimBlanks_padded hbefore
      (fun c hc => Text.not_isBlank_of_isDigit (hdigits.isDigit c hc)) hdigits.ne_nil hafter

theorem Has.counts {α : Type} {members : List (String × Json)} {key : String} {P : Json → Prop}
    {IsValue : Json → α → Prop} {a : α} (h : Has members key P)
    (hvalue : ∀ value, P value → IsValue value a) (default : α) :
    Counts members key IsValue default a := by
  obtain ⟨value, hget, hP⟩ := h
  exact .given hget (hvalue value hP)

theorem Writes.gives {members : List (String × Json)} {o : Options} (h : Writes members o)
    (hfits : o.Fits) : Gives members o where
  tokenTypeIds := h.tokenTypeIds.counts (fun _ => WritesFlag.isFlag) _
  int32 := h.int32.counts (fun _ => WritesFlag.isFlag) _
  entailmentId := h.entailmentId.counts (fun _ => WritesNatural.isNatural hfits.entailmentId) _
  contradictionId :=
    h.contradictionId.counts (fun _ => WritesNatural.isNatural hfits.contradictionId) _
  hypothesisTemplate := h.hypothesisTemplate.counts (fun _ hvalue => hvalue ▸ .native _) _
  multiLabel := h.multiLabel.counts (fun _ => WritesFlag.isFlag) _
  maxConcurrency :=
    h.maxConcurrency.counts (fun _ => WritesNatural.isNatural hfits.maxConcurrency) _

/-- Arguments are refused for the first unusable one, then for a concurrency of zero, and else each
field is what its argument counts as. Neither order nor other arguments matter, options that are
written down are read back, and all this is so of every object in JSON. -/
theorem ofArguments_exact (m : Arguments) :
    (∀ r, ofArguments m.members = r ↔ Verdict m.members known r) ∧
    ((∃ o, ofArguments m.members = .ok o) ↔
      (∀ a ∈ known, UsableIn m.members a) ∧
        ¬ Counts m.members "maxConcurrency" IsNatural 1 0) ∧
    (∀ others, (∀ a ∈ known, Members.get? others a.1 = Members.get? m.members a.1) →
      ofArguments others = ofArguments m.members) ∧
    (∀ others, m.members.Perm others → ofArguments others = ofArguments m.members) ∧
    (∀ o : Options, o.Fits → 1 ≤ o.maxConcurrency → Writes m.members o →
      ofArguments m.members = .ok o) ∧
    ∀ text members, Json.ofString? text = some (.object members) →
      ∀ r, ofArguments members = r ↔ Verdict members known r := by
  refine ⟨ofArguments_eq_iff m, exists_ok_iff m, fun _ => ofArguments_congr, ?_, ?_, ?_⟩
  · intro others hperm
    exact ofArguments_congr fun a _ => (Members.get?_perm hperm m.nodup a.1).symm
  · intro o hfits hpos hwrites
    exact (ofArguments_eq_iff m _).2 (.ok (hwrites.gives hfits) hpos)
  · intro text members h
    obtain ⟨m, rfl⟩ := Arguments.exists_of_ofString? h
    exact ofArguments_eq_iff m

def spelledArguments : Arguments where
  members := [("maxConcurrency", .string " 7\n"), ("device", .null),
    ("multiLabel", .string "\tTrUe"), ("hypothesisTemplate", .string " \x7b\x7d "),
    ("contradictionId", .number (.integer 18446744073709551615)), ("int32", .bool true),
    ("entailmentId", .string "10"), ("tokenTypeId", .string "FALSE ")]
  nodup := by decide
  inRange := by simp [Json.Number.InRange]

def faultyArguments : Arguments where
  members := [("multiLabel", .null), ("int32", .number (.integer 1)), ("tokenTypeId", .bool true)]
  nodup := by decide
  inRange := by simp [Json.Number.InRange]

theorem ofArguments_exact_spelled :
    ofArguments spelledArguments.members.reverse =
        .ok ⟨10, 18446744073709551615, false, true, " \x7b\x7d ", true, 7⟩ ∧
      ofArguments faultyArguments.members =
        .error (.badArgument "int32" (.number (.integer 1))) := by
  obtain ⟨-, -, -, hperm, hread, -⟩ := ofArguments_exact spelledArguments
  obtain ⟨hverdict, -⟩ := ofArguments_exact faultyArguments
  constructor
  · have hfalse : WritesFlag false (.string ("" ++ "FALSE" ++ " ")) :=
      .written (List.all_eq_true.1 rfl) (by decide +kernel) (List.all_eq_true.1 rfl)
    have htrue : WritesFlag true (.string ("\t" ++ "TrUe" ++ "")) :=
      .written (List.all_eq_true.1 rfl) (by decide +kernel) (List.all_eq_true.1 rfl)
    have hten : WritesNatural 10 (.string ("" ++ toString 10 ++ "")) :=
      .written (List.all_eq_true.1 rfl) (List.all_eq_true.1 rfl)
    have hseven : WritesNatural 7 (.string (" " ++ toString 7 ++ "\n")) :=
      .written (List.all_eq_true.1 rfl) (List.all_eq_true.1 rfl)
    rw [hperm _ (List.reverse_perm _).symm]
    apply hread
    · exact ⟨by decide, by decide, by decide⟩
    · decide
    · exact
        { tokenTypeIds := ⟨_, rfl, hfalse⟩
          int32 := ⟨_, rfl, .native⟩
          entailmentId := ⟨_, rfl, hten⟩
          contradictionId := ⟨_, rfl, .native⟩
          hypothesisTemplate := ⟨_, rfl, rfl⟩
          multiLabel := ⟨_, rfl, htrue⟩
          maxConcurrency := ⟨_, rfl, hseven⟩ }
  · refine (hverdict _).2 (.unusable (.later ?_ (.here rfl ?_)))
    · intro value hvalue
      cases hvalue
      exact ⟨true, .native true⟩
    · rintro ⟨b, ⟨⟩⟩

end ZeroShot.Options
