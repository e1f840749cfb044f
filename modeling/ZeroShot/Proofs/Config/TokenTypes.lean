import ZeroShot.Proofs.Number.Digits
import ZeroShot.Proofs.Text.Folding
import ZeroShot.Config.ModelConfig

/-! When a configuration asks for token types, and which class a label names.

Either of two fields may ask for token types, each by itself. Model families and labels are known by
ASCII letters in either case, even though the lower case of all of Unicode is taken of them. -/

namespace ZeroShot

/-- An integer, or its digits between blanks, after one sign or none. A number that is held as
binary64 is no integer. -/
inductive Json.IsInteger : Json → Int → Prop
  | native (n : Int) : IsInteger (.number (.integer n)) n
  | written {text : String} {n : Int} (h : Number.IsInteger (Text.trimBlanks text.toList) n) :
    IsInteger (.string text) n

theorem Json.integer?_eq_some_iff {value : Json} {n : Int} (hn : -0x8000000000000000 ≤ n) :
    value.integer? = some n ↔ value.IsInteger n ∧ n < 0x8000000000000000 := by
  unfold Json.integer?
  constructor
  · intro h
    split at h
    · next k =>
      split at h
      · next hk =>
        cases h
        exact ⟨.native n, hk⟩
      · cases h
    · obtain ⟨hdigits, -, hlt⟩ := (ZeroShot.Number.signed?_eq_some_iff (by decide)).1 h
      exact ⟨.written hdigits, hlt⟩
    · cases h
  · rintro ⟨h, hlt⟩
    cases h with
    | native => exact if_pos hlt
    | written hdigits => exact (ZeroShot.Number.signed?_eq_some_iff (by decide)).2 ⟨hdigits, hn, hlt⟩

namespace ModelConfig

def GivesSegments (config : ModelConfig) : Prop :=
  ∃ value n, config.typeVocabSize = some value ∧ value.IsInteger n ∧ 2 ≤ n ∧
    n ≤ 0x7fffffffffffffff

def NamesFamily (config : ModelConfig) : Prop :=
  ∃ family, config.modelType = some (.string family) ∧
    (family.toLower ∈ ["bert", "albert", "xlnet"] ∨
      (family.toList.take 7).map Char.toLower = "deberta".toList)

theorem hasSegmentVocabulary_iff {config : ModelConfig} :
    config.hasSegmentVocabulary = true ↔ config.GivesSegments := by
  have hsize : config.hasSegmentVocabulary = true ↔ ∃ n, config.size? = some n ∧ 2 ≤ n := by
    unfold hasSegmentVocabulary
    cases config.size? with
    | none => simp
    | some n =>
      have htwo : 1 < n ↔ 2 ≤ n := by omega
      simp [htwo]
  rw [hsize]
  unfold size? GivesSegments
  simp only [Option.bind_eq_some_iff]
  constructor
  · rintro ⟨n, ⟨value, hvalue, hn⟩, htwo⟩
    obtain ⟨hinteger, hlt⟩ := (Json.integer?_eq_some_iff (by omega)).1 hn
    exact ⟨value, n, hvalue, hinteger, htwo, by omega⟩
  · rintro ⟨value, n, hvalue, hinteger, htwo, hle⟩
    exact ⟨n, ⟨value, hvalue, (Json.integer?_eq_some_iff (by omega)).2 ⟨hinteger, by omega⟩⟩, htwo⟩

theorem isSegmentFamily_lowercase_iff {family : String} :
    isSegmentFamily (Text.lowercase family) = true ↔
      family.toLower ∈ ["bert", "albert", "xlnet"] ∨
        (family.toList.take 7).map Char.toLower = "deberta".toList := by
  have hname {name : String} (h : Text.IsPlain name.toList) :
      Text.lowercase family = name ↔ family.toLower = name := Text.lowercase_eq_iff h
  have hplain : Text.IsPlain "deberta".toList := by decide
  rw [isSegmentFamily, Bool.or_eq_true, Text.isPrefixOf_lowercase_iff hplain, List.contains_iff_mem]
  simp only [List.mem_cons, List.not_mem_nil, or_false]
  rw [hname (by decide), hname (by decide), hname (by decide)]
  rfl

theorem hasSegmentFamily_iff {config : ModelConfig} :
    config.hasSegmentFamily = true ↔ config.NamesFamily := by
  have htype : config.hasSegmentFamily = true ↔
      ∃ family, config.type? = some family ∧ isSegmentFamily (Text.lowercase family) = true := by
    unfold hasSegmentFamily
    cases config.type? <;> simp
  have hstr (value : Json) (text : String) : value.str? = some text ↔ value = .string text := by
    cases value <;> simp [Json.str?]
  rw [htype]
  unfold type? NamesFamily
  simp only [Option.bind_eq_some_iff, hstr, exists_eq_right, isSegmentFamily_lowercase_iff]

theorem useTokenType_resolve (config : ModelConfig) (defaults : ResolvedConfig) :
    (config.resolve defaults).value.useTokenType =
      (config.hasSegmentVocabulary || config.hasSegmentFamily) := by
  rw [resolve, tokenTypeRule?]
  cases config.hasSegmentVocabulary <;> cases config.hasSegmentFamily <;> rfl

theorem roleOf?_eq_some_iff {label : String} {role : ClassRole} :
    roleOf? label = some role ↔
      (label.toList.take 6).map Char.toLower = role.name.toList.take 6 := by
  have hentail : "entail".toList.isPrefixOf (Text.lowercase label).toList = true ↔
      (label.toList.take 6).map Char.toLower = "entail".toList :=
    Text.isPrefixOf_lowercase_iff (by decide)
  have hcontra : "contra".toList.isPrefixOf (Text.lowercase label).toList = true ↔
      (label.toList.take 6).map Char.toLower = "contra".toList :=
    Text.isPrefixOf_lowercase_iff (by decide)
  have happart : "entail".toList ≠ "contra".toList := by decide
  unfold roleOf?
  cases role with
  | entailment =>
    rw [show ClassRole.entailment.name.toList.take 6 = "entail".toList from rfl, ← hentail]
    dsimp only
    split
    · next h => exact iff_of_true rfl h
    · next h =>
      refine iff_of_false ?_ h
      split <;> nofun
  | contradiction =>
    rw [show ClassRole.contradiction.name.toList.take 6 = "contra".toList from rfl]
    dsimp only
    split
    · next h =>
      rw [hentail.1 h]
      exact iff_of_false nofun happart
    · rw [← hcontra]
      split
      · next h => exact iff_of_true rfl h
      · next h => exact iff_of_false nofun h

theorem roleOf?_eq_none_of_not_ascii {label : String} {c : Char} (hc : c ∈ label.toList.take 6)
    (h : 128 ≤ c.toNat) : roleOf? label = none := by
  rw [Option.eq_none_iff_forall_ne_some]
  intro role hrole
  have hmem : c ∈ role.name.toList.take 6 := by
    rw [← roleOf?_eq_some_iff.1 hrole, ← Text.toLower_of_not_ascii h]
    exact List.mem_map_of_mem hc
  have hplain : Text.IsPlain (role.name.toList.take 6) := by
    cases role <;> decide
  exact absurd (hplain.toNat_lt hmem).2.1 (Nat.not_lt.2 h)

/-- Token types are used exactly if the size of the segment vocabulary or the family asks for them:
labels and defaults have no say, and neither of the two can take back what the other asks for. A
label names a class exactly if its first six characters are those of the class in some case. -/
theorem decided_by_ascii_case (config : ModelConfig) (defaults : ResolvedConfig) :
    ((config.resolve defaults).value.useTokenType = true ↔
      config.GivesSegments ∨ config.NamesFamily) ∧
    (∀ labels others, ({ config with labelIds := labels }.resolve others).value.useTokenType =
      (config.resolve defaults).value.useTokenType) ∧
    (config.NamesFamily →
      ∀ size, ({ config with typeVocabSize := size }.resolve defaults).value.useTokenType = true) ∧
    ∀ label : String,
      (roleOf? label = some .entailment ↔
        (label.toList.take 6).map Char.toLower = "entail".toList) ∧
      (roleOf? label = some .contradiction ↔
        (label.toList.take 6).map Char.toLower = "contra".toList) ∧
      ((∃ c ∈ label.toList.take 6, 128 ≤ c.toNat) → roleOf? label = none) := by
  refine ⟨?_, ?_, ?_, fun label => ⟨roleOf?_eq_some_iff, roleOf?_eq_some_iff, ?_⟩⟩
  · rw [useTokenType_resolve, Bool.or_eq_true, hasSegmentVocabulary_iff, hasSegmentFamily_iff]
  · intro labels others
    rw [useTokenType_resolve, useTokenType_resolve]
    rfl
  · intro hfamily size
    have hkept : ({ config with typeVocabSize := size } : ModelConfig).NamesFamily := hfamily
    rw [useTokenType_resolve, hasSegmentFamily_iff.2 hkept, Bool.or_true]
  · rintro ⟨c, hc, hascii⟩
    exact roleOf?_eq_none_of_not_ascii hc hascii

/-- A size that is no integer does not hide the family, a signed one between blanks counts, and a
label with a dotted capital names no class although its lower case starts with plain letters. -/
theorem decided_by_ascii_case_odd_texts :
    let hidden : ModelConfig :=
      { labelIds := [("CONTRADICTION", .bool true)], typeVocabSize := some (.string "two")
        modelType := some (.string "DeBERTa-v3") }
    let sized : ModelConfig :=
      { typeVocabSize := some (.string " +2 "), modelType := some (.string "mpnet") }
    (hidden.resolve {}).value.useTokenType = true ∧
      ({ hidden with typeVocabSize := none }.resolve {}).value.useTokenType = true ∧
      (sized.resolve {}).value.useTokenType = true ∧
      roleOf? "ENTAILS" = some .entailment ∧ roleOf? "ENTAİL" = none := by
  dsimp only
  obtain ⟨hhidden, -, hkept, -⟩ := decided_by_ascii_case
    { labelIds := [("CONTRADICTION", .bool true)], typeVocabSize := some (.string "two")
      modelType := some (.string "DeBERTa-v3") } {}
  obtain ⟨hsized, -, -, hlabel⟩ := decided_by_ascii_case
    { typeVocabSize := some (.string " +2 "), modelType := some (.string "mpnet") } {}
  have hfamily : ∃ family, some (Json.string "DeBERTa-v3") = some (Json.string family) ∧
      (family.toLower ∈ ["bert", "albert", "xlnet"] ∨
        (family.toList.take 7).map Char.toLower = "deberta".toList) :=
    ⟨"DeBERTa-v3", rfl, .inr (by decide)⟩
  have hinteger : (Json.string " +2 ").IsInteger 2 :=
    ((Json.integer?_eq_some_iff (by decide)).1 (by decide)).1
  refine ⟨hhidden.2 (.inr hfamily), hkept hfamily none,
    hsized.2 (.inl ⟨_, 2, rfl, hinteger, by decide, by decide⟩),
    (hlabel "ENTAILS").1.2 (by decide), (hlabel "ENTAİL").2.2 ⟨'İ', by decide, by decide⟩⟩

end ModelConfig

end ZeroShot
