import ZeroShot.Proofs.Json.Printed

/-! Objects that give the same record.

A stored object may be rewritten: its members change places, unknown ones are added, and those that
say no more than a default are left out. None of these steps changes what a record finds under the
names of its fields, except that a field may then be missing where its default says the same. -/

namespace ZeroShot.Json

def members : Json → List (String × Json)
  | .object members => members
  | _ => []

/-- Members that come of the original ones when their order changes, well-formed ones with unknown
names are added, and ones that hold a default are left out. -/
inductive Rewritten (original : List (String × String)) (defaults : List (String × Json)) :
    List (String × String) → Prop
  | original : Rewritten original defaults original
  | reorder {members others : List (String × String)} (h : Rewritten original defaults members)
    (hperm : members.Perm others) : Rewritten original defaults others
  | insert {members : List (String × String)} {name text : String}
    (h : Rewritten original defaults members) (hname : name ∉ original.map Prod.fst)
    (htext : (Document.ofString? text).isSome) :
    Rewritten original defaults ((name, text) :: members)
  | leaveOut {members : List (String × String)} {name : String} {value : Json}
    (h : Rewritten original defaults ((name, value.compact) :: members))
    (hdefault : (name, value) ∈ defaults) : Rewritten original defaults members

/-- The text of a record is read as that record, and so is every rewriting of the text. -/
structure ReadsBack (read : String → Option α) (json : Json) (defaults : List (String × Json))
    (x : α) : Prop where
  stored : read json.compact = some x
  rewritten : ∀ members, Rewritten (memberTexts json.members) defaults members →
    read (objectText members) = some x

theorem mem_memberTexts {json : Json} {name : String} {value : Json}
    (h : (name, value) ∈ json.members) : (name, value.compact) ∈ memberTexts json.members :=
  List.mem_map_of_mem h

/-- Each original member is there once, or it is missing and holds a default. -/
structure Supplies (original : List (String × String)) (defaults : List (String × Json))
    (members : List (String × String)) : Prop where
  wellFormed : ∀ member ∈ members, (Document.ofString? member.2).isSome
  supplied : ∀ member ∈ original, members.filter (·.1 = member.1) = [member] ∨
    members.filter (·.1 = member.1) = [] ∧
      ∃ value, (member.1, value) ∈ defaults ∧ member.2 = value.compact

theorem filter_of_nodup {members : List (String × String)} (h : (members.map Prod.fst).Nodup)
    {member : String × String} (hmember : member ∈ members) :
    members.filter (·.1 = member.1) = [member] := by
  induction members with
  | nil => cases hmember
  | cons m members ih =>
    obtain ⟨hm, hmembers⟩ := List.nodup_cons.1 h
    rcases List.mem_cons.1 hmember with rfl | hrest
    · have hnone : members.filter (·.1 = member.1) = [] := by
        rw [List.filter_eq_nil_iff]
        intro other hother heq
        exact hm (of_decide_eq_true heq ▸ List.mem_map_of_mem hother)
      rw [List.filter_cons_of_pos (by simp), hnone]
    · have hne : m.1 ≠ member.1 := fun heq => hm (heq ▸ List.mem_map_of_mem hrest)
      rw [List.filter_cons_of_neg (by simpa using hne), ih hmembers hrest]

section

variable {original : List (String × String)} {defaults : List (String × Json)}
  {members : List (String × String)}

theorem Supplies.refl (hwell : ∀ member ∈ original, (Document.ofString? member.2).isSome)
    (hnodup : (original.map Prod.fst).Nodup) : Supplies original defaults original where
  wellFormed := hwell
  supplied _ hmember := .inl (filter_of_nodup hnodup hmember)

theorem Supplies.reorder (h : Supplies original defaults members) {others : List (String × String)}
    (hperm : members.Perm others) : Supplies original defaults others where
  wellFormed member hmember := h.wellFormed member (hperm.mem_iff.2 hmember)
  supplied member hmember := by
    have hfilter := hperm.filter (·.1 = member.1)
    rcases h.supplied member hmember with hone | ⟨hnone, hdefault⟩
    · rw [hone] at hfilter
      exact .inl (List.singleton_perm.1 hfilter).symm
    · rw [hnone] at hfilter
      exact .inr ⟨hfilter.symm.eq_nil, hdefault⟩

theorem Supplies.insert (h : Supplies original defaults members) {name text : String}
    (hname : name ∉ original.map Prod.fst) (htext : (Document.ofString? text).isSome) :
    Supplies original defaults ((name, text) :: members) where
  wellFormed := List.forall_mem_cons.2 ⟨htext, h.wellFormed⟩
  supplied member hmember := by
    have hne : name ≠ member.1 := fun heq => hname (heq ▸ List.mem_map_of_mem hmember)
    rw [List.filter_cons_of_neg (by simpa using hne)]
    exact h.supplied member hmember

theorem Supplies.leaveOut {name : String} {value : Json}
    (h : Supplies original defaults ((name, value.compact) :: members))
    (hdefault : (name, value) ∈ defaults) : Supplies original defaults members where
  wellFormed := (List.forall_mem_cons.1 h.wellFormed).2
  supplied member hmember := by
    have hsupplied := h.supplied member hmember
    by_cases hname : name = member.1
    · rw [List.filter_cons_of_pos (by simpa using hname)] at hsupplied
      rcases hsupplied with hone | ⟨hnone, -⟩
      · obtain ⟨hfirst, hrest⟩ := List.cons_eq_cons.1 hone
        exact .inr ⟨hrest, value, hname ▸ hdefault, (congrArg Prod.snd hfirst).symm⟩
      · cases hnone
    · rwa [List.filter_cons_of_neg (by simpa using hname)] at hsupplied

theorem Rewritten.supplies (h : Rewritten original defaults members)
    (hwell : ∀ member ∈ original, (Document.ofString? member.2).isSome)
    (hnodup : (original.map Prod.fst).Nodup) : Supplies original defaults members := by
  induction h with
  | original => exact .refl hwell hnodup
  | reorder _ hperm ih => exact ih.reorder hperm
  | insert _ hname htext ih => exact ih.insert hname htext
  | leaveOut _ hdefault ih => exact ih.leaveOut hdefault

theorem ReadsBack.of_supplies {read : String → Option α} {fields : List (String × Json)} {x : α}
    (hexact : ∀ field ∈ fields, field.2.Exact) (hnodup : (fields.map Prod.fst).Nodup)
    (hread : ∀ members, Supplies (memberTexts fields) defaults members →
      read (objectText members) = some x) : ReadsBack read (.object fields) defaults x := by
  have hwell : ∀ member ∈ memberTexts fields, (Document.ofString? member.2).isSome := by
    intro member hmember
    obtain ⟨field, hfield, rfl⟩ := List.mem_map.1 hmember
    exact Option.isSome_of_eq_some (Document.ofString?_compact (hexact field hfield))
  have hnames : ((memberTexts fields).map Prod.fst).Nodup := by
    simpa [memberTexts, Function.comp_def] using hnodup
  exact {
    stored := by
      rw [compact_object]
      exact hread _ (.refl hwell hnames)
    rewritten := fun members h => hread members (h.supplies hwell hnames) }

def given (members : List (String × String)) (name : String) : Option Document :=
  (Members.get? members name).map documentOf

theorem Supplies.get? (h : Supplies original defaults members) {name text : String}
    (hmember : (name, text) ∈ original) : Members.get? members name = some text ∨
      Members.get? members name = none ∧ ∃ value, (name, value) ∈ defaults ∧
        text = value.compact := by
  unfold Members.get?
  rw [← List.head?_filter]
  rcases h.supplied _ hmember with hone | ⟨hnone, hdefault⟩
  · exact .inl (by rw [hone]; rfl)
  · exact .inr ⟨by rw [hnone]; rfl, hdefault⟩

theorem Supplies.field? (h : Supplies original defaults members) {name : String}
    (hname : name ∈ original.map Prod.fst) :
    Document.field? (documentsOf members) name = some (given members name) := by
  obtain ⟨member, hmember, rfl⟩ := List.mem_map.1 hname
  have hfilter : (documentsOf members).filter (·.1 = member.1) =
      documentsOf (members.filter (·.1 = member.1)) := by
    simp [documentsOf, List.filter_map, Function.comp_def]
  unfold given Members.get?
  rw [← List.head?_filter]
  rcases h.supplied member hmember with hone | ⟨hnone, -⟩
  · have hgiven : (documentsOf members).filter (·.1 = member.1) =
        [(member.1, documentOf member.2)] := by
      rw [hfilter, hone]
      rfl
    simp [Document.field?, hgiven, hone]
  · have hmissing : (documentsOf members).filter (·.1 = member.1) = [] := by
      rw [hfilter, hnone]
      rfl
    simp [Document.field?, hmissing, hnone]

theorem Supplies.fields? (h : Supplies original defaults members) {names : List String}
    (hnames : ∀ name ∈ names, name ∈ original.map Prod.fst) :
    (Document.object (Document.ofNamed (documentsOf members))).fields? names =
      some (names.map (given members)) := by
  have hfields : names.mapM (Document.field? (documentsOf members)) =
      some (names.map (given members)) := by
    induction names with
    | nil => rfl
    | cons name names ih =>
      obtain ⟨hname, hrest⟩ := List.forall_mem_cons.1 hnames
      rw [List.mapM_cons, h.field? hname, ih hrest]
      rfl
  rw [Document.fields?, Document.named?_ofNamed]
  exact hfields

theorem Supplies.required (h : Supplies original defaults members) {name text : String}
    (hmember : (name, text) ∈ original) (hkept : name ∉ defaults.map Prod.fst)
    {read : Document → Option α} {value : α} (hread : read (documentOf text) = some value) :
    Document.required read (given members name) = some value := by
  rcases h.get? hmember with hgiven | ⟨-, default, hdefault, -⟩
  · rw [given, hgiven]
    exact hread
  · exact absurd (List.mem_map_of_mem hdefault) hkept

/-- Where the default of the record is what its text says, a missing field does no harm. -/
theorem Supplies.withDefault (h : Supplies original defaults members)
    (hnodup : (defaults.map Prod.fst).Nodup) {name text : String} {json : Json}
    (hmember : (name, text) ∈ original) (hdefault : (name, json) ∈ defaults)
    {read : Document → Option α} {default value : α}
    (hreadDefault : read (documentOf json.compact) = some default)
    (hread : read (documentOf text) = some value) :
    Document.withDefault default read (given members name) = some value := by
  rcases h.get? hmember with hgiven | ⟨hmissing, other, hother, rfl⟩
  · rw [given, hgiven]
    exact hread
  · have heq : some other = some json :=
      (Members.get?_of_mem hnodup hother).symm.trans (Members.get?_of_mem hnodup hdefault)
    cases heq
    rw [given, hmissing]
    exact hreadDefault.symm.trans hread

end

end ZeroShot.Json
