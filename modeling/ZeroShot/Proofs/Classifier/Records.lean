import ZeroShot.Classifier.Options
import ZeroShot.Classifier.Request
import ZeroShot.Config.Record
import ZeroShot.Proofs.Classifier.Spelling
import ZeroShot.Proofs.Json.Rewriting

/-! Records that are stored and read back.

A request, class indices, a resolved configuration and the options of a classifier each come back
from their JSON text, and also from every rewriting of it that the fields allow: only a request and
options have fields with defaults. -/

namespace ZeroShot

open Json Json.Document

theorem Json.exact_strings (texts : List String) : (Json.strings texts).Exact := by
  refine .array fun item hitem => ?_
  obtain ⟨text, -, rfl⟩ := List.mem_map.1 hitem
  exact .string text

theorem Json.exact_ofNat {n : Nat} (h : n < 0x10000000000000000) : (Json.ofNat n).Exact :=
  .integer ⟨by omega, by omega⟩

namespace Json.Document

theorem documentOf_compact {json : Json} (h : json.Exact) :
    documentOf json.compact = ofJson json :=
  documentOf_eq (ofString?_compact h)

theorem text?_string (text : String) :
    text? (documentOf (Json.string text).compact) = some text := by
  rw [documentOf_compact (.string text)]
  rfl

theorem flag?_bool (value : Bool) : flag? (documentOf (Json.bool value).compact) = some value := by
  rw [documentOf_compact (.bool value)]
  rfl

theorem natural?_ofNat {n : Nat} (h : n < 0x10000000000000000) :
    natural? (documentOf (Json.ofNat n).compact) = some n := by
  rw [documentOf_compact (exact_ofNat h)]
  simp [ofNat, ofJson, natural?]

theorem list?_strings (texts : List String) :
    list? text? (documentOf (Json.strings texts).compact) = some texts := by
  rw [documentOf_compact (exact_strings texts), strings, ofJson, ofItems_eq_map, List.map_map,
    list?, List.mapM_map]
  exact List.mapM_pure.trans (congrArg some (List.map_id texts))

end Json.Document

namespace Request

variable {x : Request} {members : List (String × String)}

@[simp] theorem members_toJson : x.toJson.members = [("text", .string x.text),
    ("candidates", strings x.candidates), ("hypothesis_template", .string x.hypothesisTemplate),
    ("multi_label", .bool x.multiLabel)] := rfl

def defaultFields : List (String × Json) :=
  [("hypothesis_template", .string Hypothesis.defaultTemplate), ("multi_label", .bool false)]

theorem ofString?_of_supplies (h : Supplies (memberTexts x.toJson.members) defaultFields members) :
    Request.ofString? (objectText members) = some x := by
  have hdefaults : (defaultFields.map Prod.fst).Nodup := by decide
  have htext : required text? (given members "text") = some x.text :=
    h.required (mem_memberTexts (by simp)) (by decide) (text?_string x.text)
  have hcandidates : required (list? text?) (given members "candidates") = some x.candidates :=
    h.required (mem_memberTexts (by simp)) (by decide) (list?_strings x.candidates)
  have htemplate : withDefault Hypothesis.defaultTemplate text?
      (given members "hypothesis_template") = some x.hypothesisTemplate :=
    h.withDefault hdefaults (mem_memberTexts (by simp)) (by simp [defaultFields])
      (text?_string _) (text?_string x.hypothesisTemplate)
  have hmulti : withDefault false flag? (given members "multi_label") = some x.multiLabel :=
    h.withDefault hdefaults (mem_memberTexts (by simp)) (by simp [defaultFields])
      (flag?_bool false) (flag?_bool x.multiLabel)
  have hfields : fields? ["text", "candidates", "hypothesis_template", "multi_label"] _ = some _ :=
    h.fields? (by simp [memberTexts])
  rw [Request.ofString?, ofString?_objectText h.wellFormed, Option.bind_some, ofDocument?, hfields]
  simp [htext, hcandidates, htemplate, hmulti]

theorem readsBack (x : Request) : ReadsBack Request.ofString? x.toJson defaultFields x := by
  refine .of_supplies ?_ (by simp) fun members h => ofString?_of_supplies h
  simp only [List.forall_mem_cons]
  exact ⟨.string _, exact_strings _, .string _, .bool _, nofun⟩

end Request

structure ClassIndices.Fits (x : ClassIndices) : Prop where
  entailment : x.entailment < 0x10000000000000000
  contradiction : x.contradiction < 0x10000000000000000

namespace ClassIndices

variable {x : ClassIndices} {members : List (String × String)}

@[simp] theorem members_toJson : x.toJson.members = [("entailment", ofNat x.entailment),
    ("contradiction", ofNat x.contradiction)] := rfl

theorem ofString?_of_supplies (hx : x.Fits) (h : Supplies (memberTexts x.toJson.members) [] members) :
    ClassIndices.ofString? (objectText members) = some x := by
  have hentailment : required natural? (given members "entailment") = some x.entailment :=
    h.required (mem_memberTexts (by simp)) nofun (natural?_ofNat hx.entailment)
  have hcontradiction : required natural? (given members "contradiction") = some x.contradiction :=
    h.required (mem_memberTexts (by simp)) nofun (natural?_ofNat hx.contradiction)
  have hfields : fields? ["entailment", "contradiction"] _ = some _ :=
    h.fields? (by simp [memberTexts])
  rw [ClassIndices.ofString?, ofString?_objectText h.wellFormed, Option.bind_some, ofDocument?,
    hfields]
  simp [hentailment, hcontradiction]

theorem readsBack (hx : x.Fits) : ReadsBack ClassIndices.ofString? x.toJson [] x := by
  refine .of_supplies ?_ (by simp) fun members h => ofString?_of_supplies hx h
  simp only [List.forall_mem_cons]
  exact ⟨exact_ofNat hx.entailment, exact_ofNat hx.contradiction, nofun⟩

end ClassIndices

namespace ResolvedConfig

variable {x : ResolvedConfig} {members : List (String × String)}

/-- The members of a resolved configuration whose indices are written in that way. -/
def membersWith (indices : String) (x : ResolvedConfig) : List (String × String) :=
  [("indices", indices), ("use_token_type", (Json.bool x.useTokenType).compact)]

theorem ofString?_of_supplies {indices : String}
    (hindices : ClassIndices.ofString? indices = some x.indices)
    (h : Supplies (x.membersWith indices) [] members) :
    ResolvedConfig.ofString? (objectText members) = some x := by
  obtain ⟨document, hdocument, hread⟩ := Option.bind_eq_some_iff.1 hindices
  have hindicesField : required ClassIndices.ofDocument? (given members "indices") =
      some x.indices :=
    h.required List.mem_cons_self nofun ((documentOf_eq hdocument).symm ▸ hread)
  have htokens : required flag? (given members "use_token_type") = some x.useTokenType :=
    h.required (List.mem_cons_of_mem _ List.mem_cons_self) nofun (flag?_bool x.useTokenType)
  have hfields : fields? ["indices", "use_token_type"] _ = some _ :=
    h.fields? (by simp [membersWith])
  rw [ResolvedConfig.ofString?, ofString?_objectText h.wellFormed, Option.bind_some, ofDocument?,
    hfields]
  simp [hindicesField, htokens]

theorem ofString?_of_rewritten (hx : x.indices.Fits) {inner : List (String × String)}
    (hinner : Rewritten (memberTexts x.indices.toJson.members) [] inner)
    (h : Rewritten (x.membersWith (objectText inner)) [] members) :
    ResolvedConfig.ofString? (objectText members) = some x := by
  have hindices := (ClassIndices.readsBack hx).rewritten inner hinner
  obtain ⟨document, hdocument, -⟩ := Option.bind_eq_some_iff.1 hindices
  refine ofString?_of_supplies hindices (h.supplies ?_ (by simp [membersWith]))
  simp only [membersWith, List.forall_mem_cons]
  exact ⟨Option.isSome_of_eq_some hdocument,
    Option.isSome_of_eq_some (ofString?_compact (.bool x.useTokenType)), nofun⟩

theorem readsBack (hx : x.indices.Fits) : ReadsBack ResolvedConfig.ofString? x.toJson [] x where
  stored := by
    rw [toJson, Json.compact_object]
    exact ofString?_of_rewritten hx .original .original
  rewritten members h := ofString?_of_rewritten hx .original h

end ResolvedConfig

namespace Options

variable {x : Options} {members : List (String × String)}

@[simp] theorem members_toJson : x.toJson.members = [("entailment_id", ofNat x.entailmentId),
    ("contradiction_id", ofNat x.contradictionId), ("token_type_ids", .bool x.tokenTypeIds),
    ("int32", .bool x.int32), ("hypothesis_template", .string x.hypothesisTemplate),
    ("multi_label", .bool x.multiLabel), ("max_concurrency", ofNat x.maxConcurrency)] := rfl

def defaultFields : List (String × Json) := ({} : Options).toJson.members

theorem nodup_defaultFields : (defaultFields.map Prod.fst).Nodup := by decide

theorem ofDocument?_of_fields {document : Json.Document}
    {entailment contradiction tokenTypes int32 template multiLabel concurrency :
      Option Json.Document}
    (hfields : document.fields? fieldNames = some [entailment, contradiction, tokenTypes, int32,
      template, multiLabel, concurrency])
    (hentailment : withDefault 2 natural? entailment = some x.entailmentId)
    (hcontradiction : withDefault 0 natural? contradiction = some x.contradictionId)
    (htokens : withDefault false flag? tokenTypes = some x.tokenTypeIds)
    (hint32 : withDefault false flag? int32 = some x.int32)
    (htemplate : withDefault Hypothesis.defaultTemplate text? template = some x.hypothesisTemplate)
    (hmulti : withDefault false flag? multiLabel = some x.multiLabel)
    (hconcurrency : withDefault 1 natural? concurrency = some x.maxConcurrency) :
    ofDocument? document = some x := by
  rw [ofDocument?, hfields]
  simp only [Option.bind_eq_bind, Option.bind_some, hentailment, hcontradiction, htokens, hint32,
    htemplate, hmulti, hconcurrency]

section

variable (h : Supplies (memberTexts x.toJson.members) defaultFields members) {name : String}
include h

theorem natural_of_supplies {n default : Nat} (hname : (name, ofNat n) ∈ x.toJson.members)
    (hdefault : (name, ofNat default) ∈ defaultFields) (hn : n < 0x10000000000000000)
    (hsmall : default < 0x10000000000000000) :
    withDefault default natural? (given members name) = some n :=
  h.withDefault nodup_defaultFields (mem_memberTexts hname) hdefault (natural?_ofNat hsmall)
    (natural?_ofNat hn)

theorem flag_of_supplies {value default : Bool} (hname : (name, .bool value) ∈ x.toJson.members)
    (hdefault : (name, .bool default) ∈ defaultFields) :
    withDefault default flag? (given members name) = some value :=
  h.withDefault nodup_defaultFields (mem_memberTexts hname) hdefault (flag?_bool default)
    (flag?_bool value)

theorem ofString?_of_supplies (hx : x.Fits) :
    Options.ofString? (objectText members) = some x := by
  have hfields : fields? fieldNames _ = some _ :=
    h.fields? (by simp [fieldNames, memberTexts])
  rw [Options.ofString?, ofString?_objectText h.wellFormed, Option.bind_some]
  refine ofDocument?_of_fields hfields ?_ ?_ ?_ ?_ ?_ ?_ ?_
  · exact natural_of_supplies h (by simp) (by simp [defaultFields]) hx.entailmentId (by decide)
  · exact natural_of_supplies h (by simp) (by simp [defaultFields]) hx.contradictionId (by decide)
  · exact flag_of_supplies h (by simp) (by simp [defaultFields])
  · exact flag_of_supplies h (by simp) (by simp [defaultFields])
  · exact h.withDefault nodup_defaultFields (mem_memberTexts (by simp)) (by simp [defaultFields])
      (text?_string _) (text?_string x.hypothesisTemplate)
  · exact flag_of_supplies h (by simp) (by simp [defaultFields])
  · exact natural_of_supplies h (by simp) (by simp [defaultFields]) hx.maxConcurrency (by decide)

end

theorem readsBack (hx : x.Fits) : ReadsBack Options.ofString? x.toJson defaultFields x := by
  refine .of_supplies ?_ (by simp) fun members h => ofString?_of_supplies h hx
  simp only [List.forall_mem_cons]
  exact ⟨exact_ofNat hx.entailmentId, exact_ofNat hx.contradictionId, .bool _, .bool _,
    .string _, .bool _, exact_ofNat hx.maxConcurrency, nofun⟩

end Options

/-- Every record comes back from its text, and from every rewriting of it: members in any order,
unknown ones among them, and fields left out that hold their defaults. A request has defaults for
its template and for multiple labels, options have one for every field, and the others have none. -/
theorem stored_records_read_back :
    (∀ x : Request, ReadsBack Request.ofString? x.toJson Request.defaultFields x) ∧
    (∀ x : ClassIndices, x.Fits → ReadsBack ClassIndices.ofString? x.toJson [] x) ∧
    (∀ x : ResolvedConfig, x.indices.Fits → ReadsBack ResolvedConfig.ofString? x.toJson [] x ∧
      ∀ inner members, Rewritten (memberTexts x.indices.toJson.members) [] inner →
        Rewritten (x.membersWith (objectText inner)) [] members →
        ResolvedConfig.ofString? (objectText members) = some x) ∧
    ∀ x : Options, x.Fits → ReadsBack Options.ofString? x.toJson Options.defaultFields x :=
  ⟨Request.readsBack, fun _ hx => ClassIndices.readsBack hx,
    fun _ hx => ⟨ResolvedConfig.readsBack hx,
      fun _ _ hinner h => ResolvedConfig.ofString?_of_rewritten hx hinner h⟩,
    fun _ hx => Options.readsBack hx⟩

theorem stored_records_read_back_in_reverse :
    let request : Request := { text := "a \"b\"\n\x01", candidates := ["é", "\\"] }
    let resolved : ResolvedConfig := { indices := ⟨0xffffffffffffffff, 0⟩, useTokenType := true }
    let options : Options := { entailmentId := 0xffffffffffffffff }
    Request.ofString? (objectText [("candidates", (strings request.candidates).compact),
      ("text", (Json.string request.text).compact)]) = some request ∧
    ClassIndices.ofString? resolved.indices.toJson.compact = some resolved.indices ∧
    ResolvedConfig.ofString? (objectText [("version", "[1e999,null]"),
      ("use_token_type", (Json.bool true).compact),
      ("indices", objectText (memberTexts resolved.indices.toJson.members).reverse)]) =
        some resolved ∧
    Options.ofString? (objectText [("hypothesis_template",
        (Json.string Hypothesis.defaultTemplate).compact), ("int32", (Json.bool false).compact),
      ("token_type_ids", (Json.bool false).compact), ("contradiction_id", (ofNat 0).compact),
      ("entailment_id", (ofNat 0xffffffffffffffff).compact)]) = some options := by
  intro request resolved options
  obtain ⟨hrequest, hindices, hresolved, hoptions⟩ := stored_records_read_back
  have hfits : resolved.indices.Fits := ⟨by decide, by decide⟩
  have hoptionsFit : options.Fits := ⟨by decide, by decide, by decide⟩
  refine ⟨(hrequest request).rewritten _ ?_, (hindices resolved.indices hfits).stored,
    (hresolved resolved hfits).2 _ _ (.reorder .original (List.reverse_perm _).symm) ?_,
    (hoptions options hoptionsFit).rewritten _ ?_⟩
  · exact .leaveOut (.leaveOut (.reorder .original (List.reverse_perm _).symm)
      (.tail _ (.head _))) (.head _)
  · exact .insert (.reorder .original (List.reverse_perm _).symm) (by decide) (by decide)
  · have hconcurrency : ("max_concurrency", ofNat 1) ∈ Options.defaultFields := by
      simp [Options.defaultFields]
    have hmulti : ("multi_label", .bool false) ∈ Options.defaultFields := by
      simp [Options.defaultFields]
    exact .leaveOut (.leaveOut (.reorder .original (List.reverse_perm _).symm) hconcurrency) hmulti

end ZeroShot
