import Mathlib
import ZeroShot.Proofs.Config.Fallback
import ZeroShot.Proofs.Config.Fields

/-! Configurations with a field of the wrong kind.

A size or a family of an unusable kind is lost by itself: all goes as if the field had not been
written. Labels that are no object take the rest of the document with them. -/

namespace ZeroShot

open Json (Document)

/-- The text of an object in which no name is repeated: its members as they are written, and as they
are kept if the object is kept whole. -/
structure Json.IsObject (text : String) (members : List (Option String × Document))
    (kept : List (String × Json)) : Prop where
  written : Document.ofString? text = some (.object members)
  whole : Json.ofString? text = some (.object kept)
  distinct : (members.map Prod.fst).Nodup

namespace Json

variable {text less : String} {members : List (Option String × Document)}
  {kept : List (String × Json)}

namespace IsObject

theorem exists_named (h : IsObject text members kept) :
    ∃ named, members = Document.ofNamed named ∧ (named.map Prod.fst).Nodup ∧
      named.map Prod.fst = kept.map Prod.fst ∧
      Document.keepMembers? (maxNesting - 1) members = some kept := by
  have hkeep : (Document.object members).keep? maxNesting = some (.object kept) := by
    rw [← h.whole, ofString?, h.written]
    rfl
  rw [show maxNesting = maxNesting - 1 + 1 from rfl, Document.keep?, Option.map_eq_some_iff] at hkeep
  obtain ⟨entries, hentries, hkept⟩ := hkeep
  obtain ⟨named, hnamed, hnames, -⟩ := Document.exists_of_keepMembers?_eq_some hentries
  have hdistinct : (named.map Prod.fst).Nodup := by
    have hmembers := h.distinct
    rw [hnamed, Document.ofNamed, List.map_map] at hmembers
    exact List.Nodup.of_map some (by simpa [Function.comp_def] using hmembers)
  rw [Members.ofList_of_nodup (hnames ▸ hdistinct), Json.object.injEq] at hkept
  subst hkept
  exact ⟨named, hnamed, hdistinct, hnames, hentries⟩

theorem ofString?_eq (h : IsObject text members kept) :
    ModelConfig.ofString? text = ModelConfig.ofMembers? kept := by
  obtain ⟨named, -, hdistinct, hnames, hkept⟩ := h.exists_named
  rw [ModelConfig.ofString?, h.written]
  exact ModelConfig.ofDocument?_of_kept hkept (hnames ▸ hdistinct)

theorem ofString?_without (h : IsObject text members kept) {name : String}
    (hless : Document.ofString? less =
      some (.object (members.filter fun member => member.1 ≠ some name))) :
    ModelConfig.ofString? less = ModelConfig.ofMembers? (Members.without kept name) := by
  obtain ⟨named, rfl, hdistinct, hnames, hkept⟩ := h.exists_named
  rw [ModelConfig.ofString?, hless, Document.filter_ofNamed]
  exact ModelConfig.ofDocument?_of_kept (Document.keepMembers?_without hkept name)
    (Members.nodup_without (hnames ▸ hdistinct) name)

end IsObject

end Json

namespace ModelConfig

inductive Field where
  | labels
  | typeVocabSize
  | modelType
deriving DecidableEq, Repr

namespace Field

def name : Field → String
  | labels => "label2id"
  | typeVocabSize => "type_vocab_size"
  | modelType => "model_type"

/-- Whether a value of that kind can say anything in the field. -/
def accepts : Field → Json → Bool
  | labels, .object _ => true
  | labels, _ => false
  | typeVocabSize, value => value.integer?.isSome
  | modelType, value => value.str?.isSome

end Field

theorem resolve_congr {c d : ModelConfig} (hlabels : c.labelIds = d.labelIds)
    (hsize : c.size? = d.size?) (htype : c.type? = d.type?) (defaults : ResolvedConfig) :
    c.resolve defaults = d.resolve defaults := by
  unfold resolve tokenTypeRule? hasSegmentVocabulary hasSegmentFamily
  rw [hlabels, hsize, htype]

theorem map_resolve_ofMembers?_congr {members others : List (String × Json)}
    (hlabels : labelsOf? (Members.get? members "label2id") =
      labelsOf? (Members.get? others "label2id"))
    (hsize : (present (Members.get? members "type_vocab_size")).bind Json.integer? =
      (present (Members.get? others "type_vocab_size")).bind Json.integer?)
    (htype : (present (Members.get? members "model_type")).bind Json.str? =
      (present (Members.get? others "model_type")).bind Json.str?)
    (defaults : ResolvedConfig) :
    (ofMembers? members).map (·.resolve defaults) =
      (ofMembers? others).map (·.resolve defaults) := by
  rw [ofMembers?, ofMembers?, hlabels, Option.map_map, Option.map_map]
  congr 1
  funext labels
  apply resolve_congr
  · rfl
  · exact hsize
  · exact htype

theorem bind_present_of_eq_none {read : Json → Option α} {value : Json} (h : read value = none) :
    (present (some value)).bind read = none := by
  by_cases hnull : value = .null
  · rw [hnull]
    rfl
  · rw [present_of_ne_null hnull, Option.bind_some, h]

variable {members : List (String × Json)} {value : Json}

theorem bind_present_without {name : String} (hvalue : Members.get? members name = some value)
    {read : Json → Option α} (hread : read value = none) :
    (present (Members.get? members name)).bind read =
      (present (Members.get? (Members.without members name) name)).bind read := by
  rw [hvalue, bind_present_of_eq_none hread, Members.get?_without_self]
  rfl

theorem labelsOf?_of_refused (hnull : value ≠ .null) (h : Field.labels.accepts value = false) :
    labelsOf? (some value) = none := by
  cases value with
  | null => exact absurd rfl hnull
  | object members => cases h
  | _ => rfl

theorem ofMembers?_of_refused_labels (hvalue : Members.get? members Field.labels.name = some value)
    (hnull : value ≠ .null) (hodd : Field.labels.accepts value = false) :
    ofMembers? members = none := by
  have hlabels : Members.get? members "label2id" = some value := hvalue
  rw [ofMembers?, hlabels, labelsOf?_of_refused hnull hodd, Option.map_none]

theorem map_resolve_ofMembers?_without {field : Field}
    (hvalue : Members.get? members field.name = some value) (hodd : field.accepts value = false)
    (hkept : field ≠ .labels ∨ value = .null) (defaults : ResolvedConfig) :
    (ofMembers? members).map (·.resolve defaults) =
      (ofMembers? (Members.without members field.name)).map (·.resolve defaults) := by
  have hother {name : String} (hne : name ≠ field.name) :
      Members.get? (Members.without members field.name) name = Members.get? members name :=
    Members.get?_without_of_ne members hne
  cases field with
  | labels =>
    obtain rfl : value = .null := hkept.resolve_left (fun h => h rfl)
    apply map_resolve_ofMembers?_congr
    · have hself := Members.get?_without_self members Field.labels.name
      exact (congrArg labelsOf? hvalue).trans (congrArg labelsOf? hself).symm
    · rw [hother (by decide)]
    · rw [hother (by decide)]
  | typeVocabSize =>
    have hnone : value.integer? = none := by simpa [Field.accepts] using hodd
    apply map_resolve_ofMembers?_congr
    · rw [hother (by decide)]
    · exact bind_present_without hvalue hnone
    · rw [hother (by decide)]
  | modelType =>
    have hnone : value.str? = none := by simpa [Field.accepts] using hodd
    apply map_resolve_ofMembers?_congr
    · rw [hother (by decide)]
    · rw [hother (by decide)]
    · exact bind_present_without hvalue hnone

theorem indices_resolve_of_no_labels {config : ModelConfig} (h : config.labelIds = [])
    (defaults : ResolvedConfig) : (config.resolve defaults).value.indices = defaults.indices := by
  unfold resolve
  rw [h]
  cases config.tokenTypeRule? <;> rfl

theorem exists_of_ofMembers?_without_labels (members : List (String × Json)) :
    ∃ config, ofMembers? (Members.without members Field.labels.name) = some config ∧
      config.labelIds = [] := by
  have hlabels : Members.get? (Members.without members Field.labels.name) "label2id" = none :=
    Members.get?_without_self members "label2id"
  rw [ofMembers?, hlabels]
  exact ⟨_, rfl, rfl⟩

end ModelConfig

namespace ResolvedConfig

open ModelConfig (Field)

def ofResolution (path : String) (defaults : ResolvedConfig) :
    Option (Logged ResolvedConfig) → Logged ResolvedConfig
  | some resolution => do
    let resolved ← resolution
    Logged.tell (.configResolved path resolved)
    pure resolved
  | none => ⟨defaults, [.configMalformed path]⟩

theorem ofFile_of_readText? {tree : FileTree} {path text : String}
    (h : tree.readText? path = some text) (defaults : ResolvedConfig) :
    ofFile tree path defaults =
      ofResolution path defaults ((ModelConfig.ofString? text).map (·.resolve defaults)) := by
  have hfile : tree.isFile path = true := by
    rw [FileTree.isFile_eq_isSome_read?]
    cases hbytes : tree.read? path with
    | none => simp [FileTree.readText?, hbytes] at h
    | some bytes => rfl
  rw [ofFile, if_pos hfile, ModelConfig.ofFile, h]
  cases hconfig : ModelConfig.ofString? text with
  | none => simp only [hconfig, Option.map_none, ofResolution]; rfl
  | some config => simp only [hconfig, Option.map_some, ofResolution]

theorem unmetered_ofResolution_some (path : String) (defaults : ResolvedConfig)
    (config : ModelConfig) :
    (ofResolution path defaults (some (config.resolve defaults))).Unmetered :=
  (config.unmetered_resolve defaults).bind
    ((Logged.unmetered_tell rfl).bind (Logged.unmetered_pure _))

/-- With or without a field that says nothing the result is the same, as are all that is reported
and counted. Only labels that are no object, and not null either, make it the defaults, so that the
token types of the rest are lost. -/
theorem ofFile_without_odd_field (tree tree' : FileTree) (path text less : String)
    (members : List (Option String × Document)) (kept : List (String × Json)) (field : Field)
    (value : Json) (defaults : ResolvedConfig) (hobject : Json.IsObject text members kept)
    (hvalue : Members.get? kept field.name = some value) (hodd : field.accepts value = false)
    (hless : Document.ofString? less =
      some (.object (members.filter fun member => member.1 ≠ some field.name)))
    (hread : tree.readText? path = some text) (hread' : tree'.readText? path = some less) :
    let whole := ofFile tree path defaults
    let rest := ofFile tree' path defaults
    (field ≠ .labels ∨ value = .null → whole = rest) ∧
    (field = .labels → value ≠ .null → whole = ⟨defaults, [.configMalformed path]⟩ ∧
      rest.value.indices = defaults.indices ∧
      (∀ reason, countOf (.configFallbacks reason) rest.events = 0) ∧
      (whole.value = rest.value ↔ rest.value.useTokenType = defaults.useTokenType)) := by
  intro whole rest
  have hwhole : whole = ofResolution path defaults _ := ofFile_of_readText? hread defaults
  have hrest : rest = ofResolution path defaults _ := ofFile_of_readText? hread' defaults
  rw [hobject.ofString?_eq] at hwhole
  rw [hobject.ofString?_without hless] at hrest
  constructor
  · intro hkept
    rw [hwhole, hrest, ModelConfig.map_resolve_ofMembers?_without hvalue hodd hkept]
  · rintro rfl hnull
    rw [ModelConfig.ofMembers?_of_refused_labels hvalue hnull hodd] at hwhole
    obtain ⟨config, hconfig, hlabels⟩ := ModelConfig.exists_of_ofMembers?_without_labels kept
    rw [hconfig, Option.map_some] at hrest
    have hindices : rest.value.indices = defaults.indices := by
      rw [hrest]
      exact ModelConfig.indices_resolve_of_no_labels hlabels defaults
    refine ⟨hwhole, hindices, ?_, ?_⟩
    · intro reason
      rw [hrest]
      exact unmetered_ofResolution_some path defaults config _
    · rw [hwhole]
      constructor
      · intro hsame
        exact congrArg useTokenType hsame.symm
      · intro htypes
        change defaults = rest.value
        rw [ResolvedConfig.mk.injEq]
        exact ⟨hindices.symm, htypes.symm⟩

def loneFile (text : String) : FileTree where
  working := []
  files := [(["c.json"], text.toUTF8)]
  directories := []

theorem readText?_loneFile (text : String) : (loneFile text).readText? "c.json" = some text := by
  have hread : (loneFile text).read? "c.json" = some text.toUTF8 := rfl
  have hvalid : text.toUTF8.IsValidUTF8 := text.isValidUTF8
  rw [FileTree.readText?, hread, Option.bind_some, String.fromUTF8?, dif_pos hvalid]
  rfl

theorem ofFile_without_odd_field_list :
    let family := "\x7b\"model_type\": \"bert\"\x7d"
    let oddSize := "\x7b\"type_vocab_size\": [], \"model_type\": \"bert\"\x7d"
    let oddLabels := "\x7b\"label2id\": [], \"model_type\": \"bert\"\x7d"
    ofFile (loneFile oddSize) "c.json" {} = ofFile (loneFile family) "c.json" {} ∧
    (ofFile (loneFile family) "c.json" {}).value = { useTokenType := true } ∧
    ofFile (loneFile oddLabels) "c.json" {} = ⟨{}, [.configMalformed "c.json"]⟩ := by
  intro family oddSize oddLabels
  have hsize : Json.IsObject oddSize
      [(some "type_vocab_size", .array []), (some "model_type", .string (some "bert"))]
      [("type_vocab_size", .array []), ("model_type", .string "bert")] :=
    ⟨by cbv, by cbv, by decide⟩
  have hlabels : Json.IsObject oddLabels
      [(some "label2id", .array []), (some "model_type", .string (some "bert"))]
      [("label2id", .array []), ("model_type", .string "bert")] := ⟨by cbv, by cbv, by decide⟩
  have hfamily : Document.ofString? family =
      some (.object [(some "model_type", .string (some "bert"))]) := by cbv
  obtain ⟨hsame, -⟩ := ofFile_without_odd_field (loneFile oddSize) (loneFile family) "c.json"
    oddSize family _ _ .typeVocabSize (.array []) {} hsize rfl rfl hfamily
    (readText?_loneFile _) (readText?_loneFile _)
  obtain ⟨-, hrefused⟩ := ofFile_without_odd_field (loneFile oddLabels) (loneFile family) "c.json"
    oddLabels family _ _ .labels (.array []) {} hlabels rfl rfl hfamily
    (readText?_loneFile _) (readText?_loneFile _)
  have htypes : (ofFile (loneFile family) "c.json" {}).value = { useTokenType := true } := by
    decide +kernel
  exact ⟨hsame (.inl (by decide)), htypes, (hrefused rfl (by simp)).1⟩

/-- Labels that are a list take a size with them that would have asked for token types. -/
theorem odd_labels_hide_size :
    let odd := "\x7b\"label2id\": [], \"type_vocab_size\": 2\x7d"
    let less := "\x7b\"type_vocab_size\": 2\x7d"
    Json.IsObject odd
      [(some "label2id", .array []), (some "type_vocab_size", .number (some (.integer 2)))]
      [("label2id", .array []), ("type_vocab_size", .number (.integer 2))] ∧
    Field.labels.accepts (.array []) = false ∧
    Document.ofString? less =
      some (.object [(some "type_vocab_size", .number (some (.integer 2)))]) ∧
    (ofFile (loneFile odd) "c.json" {}).value = {} ∧
    (ofFile (loneFile less) "c.json" {}).value = { useTokenType := true } :=
  ⟨⟨by cbv, by cbv, by decide⟩, rfl, by cbv, by decide +kernel, by decide +kernel⟩

end ResolvedConfig

end ZeroShot
