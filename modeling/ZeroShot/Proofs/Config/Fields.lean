import ZeroShot.Config.ModelConfig
import ZeroShot.Proofs.Json.Members

/-! The fields of a model configuration.

Each is read by itself, but a document in which one of them cannot be read is no configuration. Only
labels that are no object are such a field; any other value is kept, whatever it is. -/

namespace ZeroShot.ModelConfig

open Json (Document)

def fieldNames : List String := ["label2id", "type_vocab_size", "model_type"]

def keep? : Document → Option Json := Document.keep? (Json.maxNesting - 1)

def labels? (value : Document) : Option (List (String × Json)) :=
  match keep? value with
  | some (.object members) => some members
  | _ => none

theorem ofDocument?_of_fields {document : Document} {labels size type : Option Document}
    (h : document.fields? fieldNames = some [labels, size, type]) :
    ofDocument? document = (optional? labels? labels).bind fun labels =>
      (optional? keep? size).bind fun size => (optional? keep? type).bind fun type =>
        some ⟨labels.getD [], size, type⟩ := by
  unfold fieldNames at h
  simp only [ofDocument?, h, Option.bind_eq_bind, Option.bind_some]
  rfl

theorem labels?_object {members : List (Option String × Document)} {entries : List (String × Json)}
    (h : Document.keepMembers? (Json.maxNesting - 2) members = some entries) :
    labels? (.object members) = some (Members.ofList entries) := by
  have hkeep : keep? (.object members) = some (.object (Members.ofList entries)) := by
    unfold keep?
    rw [show Json.maxNesting - 1 = Json.maxNesting - 2 + 1 from rfl, Document.keep?, h]
    rfl
  rw [labels?, hkeep]

/-- Of the entries under a label that is repeated the last one is kept, where the first one stood. -/
theorem labelIds_of_ofDocument? {document : Document} {config : ModelConfig}
    {members : List (Option String × Document)} {size type : Option Document}
    {entries : List (String × Json)} (hconfig : ofDocument? document = some config)
    (hfields : document.fields? fieldNames = some [some (.object members), size, type])
    (hentries : Document.keepMembers? (Json.maxNesting - 2) members = some entries) :
    config.labelIds.map Prod.fst = (entries.map Prod.fst).eraseDups ∧
      ∀ label, Members.get? config.labelIds label = Members.get? entries.reverse label := by
  rw [ofDocument?_of_fields hfields] at hconfig
  simp only [optional?, labels?_object hentries, Option.map_some, Option.bind_some,
    Option.bind_eq_some_iff, Option.some.injEq, Option.getD_some] at hconfig
  obtain ⟨size, -, type, -, rfl⟩ := hconfig
  exact ⟨Members.map_fst_ofList entries, Members.get?_ofList entries⟩

def present : Option Json → Option Json
  | some .null => none
  | value => value

def labelsOf? : Option Json → Option (List (String × Json))
  | none | some .null => some []
  | some (.object members) => some members
  | some _ => none

def ofMembers? (members : List (String × Json)) : Option ModelConfig :=
  (labelsOf? (Members.get? members "label2id")).map fun labels =>
    ⟨labels, present (Members.get? members "type_vocab_size"),
      present (Members.get? members "model_type")⟩

theorem optional?_of_ne_null (read : Document → Option α) {value : Document} (h : value ≠ .null) :
    optional? read (some value) = (read value).map some := by
  cases value with
  | null => exact absurd rfl h
  | _ => rfl

theorem present_of_ne_null {json : Json} (h : json ≠ .null) : present (some json) = some json := by
  cases json with
  | null => exact absurd rfl h
  | _ => rfl

section

variable {field : Option Document} {json : Option Json}

theorem optional?_keep? (h : field.map keep? = json.map some) :
    optional? keep? field = some (present json) := by
  match field, json with
  | none, none => rfl
  | none, some json => cases h
  | some value, none => cases h
  | some value, some json =>
    have hkeep : keep? value = some json := Option.some.inj h
    by_cases hnull : json = .null
    · rw [hnull] at hkeep ⊢
      rw [Document.keep?_eq_null_iff.1 hkeep]
      rfl
    · rw [optional?_of_ne_null, hkeep, present_of_ne_null hnull, Option.map_some]
      rintro rfl
      exact hnull (Option.some.inj hkeep.symm)

theorem optional?_labels? (h : field.map keep? = json.map some) :
    (optional? labels? field).map (·.getD []) = labelsOf? json := by
  match field, json with
  | none, none => rfl
  | none, some json => cases h
  | some value, none => cases h
  | some value, some json =>
    have hkeep : keep? value = some json := Option.some.inj h
    by_cases hnull : json = .null
    · rw [hnull] at hkeep ⊢
      rw [Document.keep?_eq_null_iff.1 hkeep]
      rfl
    · rw [optional?_of_ne_null]
      · rw [labels?, hkeep]
        cases json with
        | null => exact absurd rfl hnull
        | _ => rfl
      · rintro rfl
        exact hnull (Option.some.inj hkeep.symm)

end

theorem ofDocument?_of_kept {members : List (Option String × Document)}
    {kept : List (String × Json)}
    (hkept : Document.keepMembers? (Json.maxNesting - 1) members = some kept)
    (hnodup : (kept.map Prod.fst).Nodup) :
    ofDocument? (.object members) = ofMembers? kept := by
  obtain ⟨named, rfl, hnames, hget⟩ := Document.exists_of_keepMembers?_eq_some hkept
  have hfields := Document.fields?_ofNamed (hnames ▸ hnodup) fieldNames
  rw [ofDocument?_of_fields hfields, optional?_keep? (hget _), optional?_keep? (hget _),
    ofMembers?, ← optional?_labels? (hget _)]
  cases optional? labels? (Members.get? named "label2id") <;> rfl

end ZeroShot.ModelConfig
