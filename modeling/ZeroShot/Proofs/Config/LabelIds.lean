import ZeroShot.Proofs.Config.Labels
import ZeroShot.Proofs.Config.TokenTypes
import ZeroShot.Proofs.Json.Lexemes
import ZeroShot.Proofs.Number.Words

/-! Which entries of a configuration give their label an id.

Entries with an id are kept in their order, and each of the others is reported, in order too. Ids are
the same if they are read in words of 64 bits, with a sign at first and without one after that: what
does not fit is noticed before it could be taken for another id. -/

namespace ZeroShot

/-- An integer of 63 bits, or its digits between blanks, after one sign or none. -/
inductive Json.IsIndex : Json → Nat → Prop
  | native {n : Nat} (h : n ≤ 0x7fffffffffffffff) : IsIndex (.number (.integer n)) n
  | written {text : String} {before digits after : List Char} {n : Nat}
    (htext : text.toList = before ++ (digits ++ after)) (hbefore : ∀ c ∈ before, Text.isBlank c)
    (hdigits : Number.IsInteger digits n) (hafter : ∀ c ∈ after, Text.isBlank c)
    (h : n ≤ 0x7fffffffffffffff) : IsIndex (.string text) n

namespace Number

theorem IsInteger.ne_nil {text : List Char} {n : Int} (h : IsInteger text n) : text ≠ [] := by
  cases h with
  | unsigned hdigits => exact hdigits.ne_nil
  | plus => exact List.cons_ne_nil _ _
  | minus => exact List.cons_ne_nil _ _

theorem IsInteger.not_isBlank {text : List Char} {n : Int} (h : IsInteger text n) :
    ∀ c ∈ text, ¬ Text.isBlank c := by
  have hdigits {digits : List Char} {m : Nat} (hm : IsNumeral digits m) :
      ∀ c ∈ digits, ¬ Text.isBlank c := fun c hc => Text.not_isBlank_of_isDigit (hm.isDigit c hc)
  cases h with
  | unsigned hm => exact hdigits hm
  | plus hm => exact List.forall_mem_cons.2 ⟨by decide, hdigits hm⟩
  | minus hm => exact List.forall_mem_cons.2 ⟨by decide, hdigits hm⟩

end Number

theorem Json.isIndex_iff {value : Json} {n : Nat} :
    value.IsIndex n ↔ value.IsInteger n ∧ n ≤ 0x7fffffffffffffff := by
  constructor
  · intro h
    cases h with
    | native hn => exact ⟨.native n, hn⟩
    | @written text before digits after _ htext hbefore hdigits hafter hn =>
      refine ⟨.written ?_, hn⟩
      rwa [htext, Text.trimBlanks_padded hbefore hdigits.not_isBlank hdigits.ne_nil hafter]
  · rintro ⟨h, hn⟩
    generalize hm : (n : Int) = m at h
    cases h with
    | native =>
      subst hm
      exact .native hn
    | @written text _ hdigits =>
      subst hm
      obtain ⟨before, after, htext, hbefore, hafter⟩ :=
        Text.exists_padded_trimBlanks text.toList
      exact .written htext hbefore hdigits hafter hn

theorem Json.isIndex_literal_iff {literal : List Char} {value : Option Json.Number}
    (h : Json.number? literal = some value) {room n : Nat} :
    (∃ json, (Json.Document.number value).keep? room = some json ∧ json.IsIndex n) ↔
      Number.IsNumeral literal n ∧ n ≤ 0x7fffffffffffffff := by
  have hkeep (json : Json) : (Json.Document.number value).keep? room = some json ↔
      ∃ x, value = some x ∧ .number x = json := by
    rw [Json.Document.keep?, Option.map_eq_some_iff]
  constructor
  · rintro ⟨json, hjson, hindex⟩
    obtain ⟨x, hx, rfl⟩ := (hkeep json).1 hjson
    cases hindex with
    | native hn => exact ⟨(Json.eq_integer_iff_isNumeral h (by omega)).1 hx, hn⟩
  · rintro ⟨hliteral, hn⟩
    have hvalue := (Json.eq_integer_iff_isNumeral h (by omega)).2 hliteral
    exact ⟨_, (hkeep _).2 ⟨_, hvalue, rfl⟩, .native hn⟩

def Json.word? : Json → Option Int64
  | .number (.integer n) => Number.Word.ofInt? n
  | .string text => Number.Word.ofText? (Text.trimBlanks text.toList)
  | _ => none

theorem Json.word?_eq_some_iff {value : Json} {w : Int64} :
    value.word? = some w ↔ value.IsInteger w.toInt := by
  unfold Json.word?
  constructor
  · intro h
    split at h
    · rw [← Number.Word.ofInt?_eq_some_iff.1 h]
      exact .native _
    · exact .written (Number.Word.ofText?_eq_some_iff.1 h)
    · cases h
  · intro h
    generalize hw : w.toInt = n at h
    cases h with
    | native => exact Number.Word.ofInt?_eq_some_iff.2 hw
    | written hdigits =>
      subst hw
      exact Number.Word.ofText?_eq_some_iff.2 hdigits

namespace ModelConfig

theorem usableId?_eq_some_iff {value : Json} {id : Nat} :
    usableId? value = some id ↔ value.IsIndex id := by
  rw [Json.isIndex_iff, usableId?, Option.bind_eq_some_iff]
  constructor
  · rintro ⟨n, hn, hid⟩
    split at hid
    · next hpos =>
      obtain ⟨m, rfl⟩ := Int.eq_ofNat_of_zero_le hpos
      cases hid
      obtain ⟨hinteger, hlt⟩ := (Json.integer?_eq_some_iff (by omega)).1 hn
      exact ⟨hinteger, by omega⟩
    · cases hid
  · rintro ⟨hinteger, hid⟩
    exact ⟨id, (Json.integer?_eq_some_iff (by omega)).2 ⟨hinteger, by omega⟩,
      if_pos (Int.natCast_nonneg id)⟩

def wordId? (value : Json) : Option UInt64 :=
  value.word?.bind fun w => if 0 ≤ w then some w.toUInt64 else none

/-- The word without a sign is the id itself, and there is one for every id. -/
theorem map_toNat_wordId? (value : Json) : (wordId? value).map UInt64.toNat = usableId? value := by
  have hsign (w : Int64) : 0 ≤ w ↔ 0 ≤ w.toInt := Int64.le_iff_toInt_le
  apply Option.ext
  intro id
  rw [usableId?_eq_some_iff, Json.isIndex_iff]
  simp only [wordId?, Option.map_eq_some_iff, Option.bind_eq_some_iff, Json.word?_eq_some_iff]
  constructor
  · rintro ⟨u, ⟨w, hw, hu⟩, rfl⟩
    split at hu
    · next hpos =>
      cases hu
      have hcast := Number.Word.toNat_toUInt64 w
      rw [if_pos ((hsign w).1 hpos)] at hcast
      have := Number.Word.bounds w
      exact ⟨hcast ▸ hw, by omega⟩
    · cases hu
  · rintro ⟨hinteger, hid⟩
    obtain ⟨w, hw⟩ : ∃ w : Int64, w.toInt = id :=
      ⟨_, Int64.toInt_ofInt_of_le (by omega) (by omega)⟩
    have hpos : 0 ≤ w.toInt := by omega
    have hcast := Number.Word.toNat_toUInt64 w
    rw [if_pos hpos, hw] at hcast
    exact ⟨_, ⟨w, hw.symm ▸ hinteger, if_pos ((hsign w).2 hpos)⟩, Int.ofNat_inj.1 hcast⟩

/-- Entries that give an id are kept with it and the others are dropped, both in their order. -/
inductive Sifted : List (String × Json) → List (String × Nat) → List (String × Json) → Prop
  | nil : Sifted [] [] []
  | keep {label : String} {value : Json} {id : Nat} {entries kept dropped}
    (hvalue : value.IsIndex id) (hrest : Sifted entries kept dropped) :
    Sifted ((label, value) :: entries) ((label, id) :: kept) dropped
  | drop {label : String} {value : Json} {entries kept dropped}
    (hvalue : ∀ id, ¬ value.IsIndex id) (hrest : Sifted entries kept dropped) :
    Sifted ((label, value) :: entries) kept ((label, value) :: dropped)

theorem usableId?_eq_none_iff {value : Json} :
    usableId? value = none ↔ ∀ id, ¬ value.IsIndex id := by
  rw [Option.eq_none_iff_forall_ne_some]
  exact forall_congr' fun id => not_congr usableId?_eq_some_iff

theorem sifted_entries (config : ModelConfig) :
    Sifted config.labelIds config.usableEntries config.unusableEntries := by
  unfold usableEntries unusableEntries
  induction config.labelIds with
  | nil => exact .nil
  | cons entry rest ih =>
    obtain ⟨label, value⟩ := entry
    cases h : usableId? value with
    | some id => simpa [h] using ih.keep (usableId?_eq_some_iff.1 h)
    | none => simpa [h] using ih.drop (usableId?_eq_none_iff.1 h)

theorem Sifted.unique {entries : List (String × Json)} {kept kept' : List (String × Nat)}
    {dropped dropped' : List (String × Json)} (h : Sifted entries kept dropped)
    (h' : Sifted entries kept' dropped') : kept' = kept ∧ dropped' = dropped := by
  induction h generalizing kept' dropped' with
  | nil =>
    cases h'
    exact ⟨rfl, rfl⟩
  | keep hvalue _ ih =>
    cases h' with
    | keep hvalue' hrest =>
      obtain ⟨rfl, rfl⟩ := ih hrest
      have hid := usableId?_eq_some_iff.2 hvalue
      rw [usableId?_eq_some_iff.2 hvalue'] at hid
      cases hid
      exact ⟨rfl, rfl⟩
    | drop hvalue' => exact absurd hvalue (hvalue' _)
  | drop hvalue _ ih =>
    cases h' with
    | keep hvalue' => exact absurd hvalue' (hvalue _)
    | drop _ hrest =>
      obtain ⟨rfl, rfl⟩ := ih hrest
      exact ⟨rfl, rfl⟩

theorem logOf_usableLabels (config : ModelConfig) :
    logOf (usableLabels config.labelIds).events = config.unusableEntries.map ignoredLine := by
  rw [events_usableLabels, unusableEntries, logOf, List.filterMap_map]
  exact congrFun (List.filterMap_eq_map (f := ignoredLine)) _

/-- The entries whose value is an integer of 63 bits, or its digits, are kept with that integer, and
the log has one line for each of the others and no more. The integer is the same in words of 64
bits, and of literals it is the one with nothing but its digits. -/
theorem kept_with_exact_ids (config : ModelConfig) :
    let read := usableLabels config.labelIds
    (∃ dropped,
      (∀ kept others, Sifted config.labelIds kept others ↔ kept = read.value ∧ others = dropped) ∧
      logOf read.events = dropped.map ignoredLine) ∧
    read.value = (config.labelIds.filterMap fun (label, value) =>
      (wordId? value).map fun word => (label, word.toNat)) ∧
    ∀ literal value room id, Json.number? literal = some value →
      ((∃ json, (Json.Document.number value).keep? room = some json ∧ json.IsIndex id) ↔
        Number.IsNumeral literal id ∧ id ≤ 0x7fffffffffffffff) := by
  intro read
  have hread : read.value = config.usableEntries := value_usableLabels config.labelIds
  refine ⟨⟨config.unusableEntries, fun kept others => ⟨?_, ?_⟩, logOf_usableLabels config⟩, ?_, ?_⟩
  · rw [hread]
    exact (sifted_entries config).unique
  · rintro ⟨rfl, rfl⟩
    rw [hread]
    exact sifted_entries config
  · rw [hread, usableEntries]
    refine congrArg (List.filterMap · config.labelIds) (funext fun (label, value) => ?_)
    dsimp only
    rw [← map_toNat_wordId?, Option.map_map]
    rfl
  · exact fun literal value room id h => Json.isIndex_literal_iff h

def edgeLabels : Json.Document := .object
  [(some "plus", .string (some " +7\u00a0")),
   (some "most", .number (some (.integer 9223372036854775807))),
   (some "more", .number (some (.integer 9223372036854775808))),
   (some "minus", .string (some "-0")), (some "below", .number (some (.real Binary64.zero.neg)))]

def edgeConfig : ModelConfig where
  labelIds := [("plus", .string " +7\u00a0"), ("most", Json.ofNat 9223372036854775807),
    ("more", Json.ofNat 9223372036854775808), ("minus", .string "-0"),
    ("below", .number (.real Binary64.zero.neg))]

theorem kept_with_exact_ids_edges :
    ofDocument? (.object [(some "label2id", edgeLabels)]) = some edgeConfig ∧
    (usableLabels edgeConfig.labelIds).value =
      [("plus", 7), ("most", 9223372036854775807), ("minus", 0)] ∧
    logOf (usableLabels edgeConfig.labelIds).events =
      [ignoredLine ("more", Json.ofNat 9223372036854775808),
       ignoredLine ("below", .number (.real Binary64.zero.neg))] ∧
    ∃ value, Json.number? "-0".toList = some value ∧
      ¬ ∃ json, (Json.Document.number value).keep? 0 = some json ∧ json.IsIndex 0 := by
  obtain ⟨⟨dropped, hsifted, hlog⟩, -, hliteral⟩ := kept_with_exact_ids edgeConfig
  have hedges : Sifted edgeConfig.labelIds
      [("plus", 7), ("most", 9223372036854775807), ("minus", 0)]
      [("more", Json.ofNat 9223372036854775808),
       ("below", .number (.real Binary64.zero.neg))] :=
    .keep (usableId?_eq_some_iff.1 rfl) <| .keep (usableId?_eq_some_iff.1 rfl) <|
      .drop (usableId?_eq_none_iff.1 rfl) <| .keep (usableId?_eq_some_iff.1 rfl) <|
        .drop (usableId?_eq_none_iff.1 rfl) .nil
  obtain ⟨hkept, hdropped⟩ := (hsifted _ _).1 hedges
  refine ⟨by cbv, hkept.symm, ?_, ?_⟩
  · rw [hlog, ← hdropped]
    rfl
  · have hzero : Json.number? "-0".toList = some (some (.real Binary64.zero.neg)) := by decide +kernel
    refine ⟨_, hzero, ?_⟩
    rw [hliteral _ _ 0 0 hzero]
    rintro ⟨h, -⟩
    exact h.head_ne_minus _ rfl

end ModelConfig

end ZeroShot
