import Mathlib.Data.List.Induction
import Mathlib.Data.List.Nodup
import ZeroShot.Json.Fields

/-! The members of an object: which of those written down are kept, and which fields of a record
they give.

Of members with one name the last value is kept, in the place of the first. Where no name is
repeated nothing is lost, and a field is what its name leads to. -/

namespace ZeroShot

namespace Members

theorem map_fst_put (members : List (String × α)) (name : String) (value : α) :
    (put members name value).map Prod.fst =
      if name ∈ members.map Prod.fst then members.map Prod.fst
      else members.map Prod.fst ++ [name] := by
  induction members with
  | nil => simp [put]
  | cons m rest ih =>
    obtain ⟨n, v⟩ := m
    by_cases h : n = name
    · simp [put, h]
    · simp only [put, if_neg h, List.map_cons, ih, List.mem_cons, Ne.symm h, false_or]
      split <;> rfl

theorem put_of_notMem {members : List (String × α)} {name : String}
    (h : name ∉ members.map Prod.fst) (value : α) :
    put members name value = members ++ [(name, value)] := by
  induction members with
  | nil => rfl
  | cons m rest ih =>
    obtain ⟨n, v⟩ := m
    simp only [List.map_cons, List.mem_cons, not_or] at h
    simp [put, Ne.symm h.1, ih h.2]

theorem ofList_concat (members : List (String × α)) (name : String) (value : α) :
    ofList (members ++ [(name, value)]) = put (ofList members) name value := by
  simp [ofList]

theorem map_fst_ofList (members : List (String × α)) :
    (ofList members).map Prod.fst = (members.map Prod.fst).eraseDups := by
  induction members using List.reverseRecOn with
  | nil => rfl
  | append_singleton rest m ih =>
    obtain ⟨name, value⟩ := m
    rw [ofList_concat, map_fst_put, ih, List.map_append, List.eraseDups_append]
    by_cases h : name ∈ rest.map Prod.fst
    · simp [h, List.removeAll]
    · simp [h, List.removeAll, List.eraseDups_cons]

theorem nodup_ofList (members : List (String × α)) : ((ofList members).map Prod.fst).Nodup := by
  induction members using List.reverseRecOn with
  | nil => exact List.nodup_nil
  | append_singleton rest m ih =>
    obtain ⟨name, value⟩ := m
    rw [ofList_concat, map_fst_put]
    split
    · exact ih
    · next h => exact List.nodup_append_comm.1 (List.nodup_cons.2 ⟨h, ih⟩)

theorem get?_ofList (members : List (String × α)) (name : String) :
    get? (ofList members) name = get? members.reverse name := by
  induction members using List.reverseRecOn with
  | nil => rfl
  | append_singleton rest m ih =>
    obtain ⟨n, value⟩ := m
    rw [ofList_concat, List.reverse_concat]
    by_cases h : n = name
    · subst h
      rw [get?_put_self]
      simp [get?]
    · rw [get?_put_of_ne _ (Ne.symm h), ih]
      simp [get?, h]

theorem ofList_of_nodup {members : List (String × α)} (h : (members.map Prod.fst).Nodup) :
    ofList members = members := by
  induction members using List.reverseRecOn with
  | nil => rfl
  | append_singleton rest m ih =>
    obtain ⟨name, value⟩ := m
    rw [List.map_append, List.nodup_append_comm] at h
    simp only [List.map_cons, List.map_nil, List.singleton_append, List.nodup_cons] at h
    rw [ofList_concat, ih h.2, put_of_notMem h.1]

theorem mem_of_get?_eq_some {members : List (String × α)} {name : String} {value : α}
    (h : get? members name = some value) : (name, value) ∈ members := by
  obtain ⟨⟨n, v⟩, hfind, rfl⟩ := Option.map_eq_some_iff.1 h
  have hn := List.find?_some hfind
  simp only [decide_eq_true_eq] at hn
  exact hn ▸ List.mem_of_find?_eq_some hfind

theorem get?_of_mem {members : List (String × α)} (hnodup : (members.map Prod.fst).Nodup)
    {name : String} {value : α} (h : (name, value) ∈ members) :
    get? members name = some value := by
  induction members with
  | nil => cases h
  | cons m rest ih =>
    obtain ⟨n, v⟩ := m
    obtain ⟨hn, hrest⟩ := List.nodup_cons.1 hnodup
    rcases List.mem_cons.1 h with heq | hmem
    · cases heq
      simp [get?]
    · have hne : n ≠ name := by
        rintro rfl
        exact hn (List.mem_map.2 ⟨(n, value), hmem, rfl⟩)
      simpa [get?, hne] using ih hrest hmem

theorem get?_perm {members others : List (String × α)} (h : members.Perm others)
    (hnodup : (members.map Prod.fst).Nodup) (name : String) :
    get? members name = get? others name := by
  have hothers : (others.map Prod.fst).Nodup := (h.map Prod.fst).nodup_iff.1 hnodup
  apply Option.ext
  intro value
  constructor
  · exact fun hvalue => get?_of_mem hothers (h.mem_iff.1 (mem_of_get?_eq_some hvalue))
  · exact fun hvalue => get?_of_mem hnodup (h.mem_iff.2 (mem_of_get?_eq_some hvalue))

def without (members : List (String × α)) (name : String) : List (String × α) :=
  members.filter fun member => member.1 ≠ name

@[simp] theorem without_cons_self (name : String) (value : α) (rest : List (String × α)) :
    without ((name, value) :: rest) name = without rest name := by
  simp [without]

theorem without_cons_of_ne {name other : String} (h : other ≠ name) (value : α)
    (rest : List (String × α)) :
    without ((other, value) :: rest) name = (other, value) :: without rest name := by
  simp [without, h]

@[simp] theorem get?_without_self (members : List (String × α)) (name : String) :
    get? (without members name) name = none := by
  simp [get?, without]

theorem get?_without_of_ne (members : List (String × α)) {name other : String}
    (h : other ≠ name) : get? (without members name) other = get? members other := by
  unfold get? without
  rw [List.find?_filter]
  congr 2
  ext member
  by_cases hm : member.1 = other <;> simp [hm, h]

theorem nodup_without {members : List (String × α)} (h : (members.map Prod.fst).Nodup)
    (name : String) : ((without members name).map Prod.fst).Nodup :=
  h.sublist (List.filter_sublist.map Prod.fst)

end Members

namespace Json.Document

def ofNamed (members : List (String × Document)) : List (Option String × Document) :=
  members.map fun member => (some member.1, member.2)

theorem named?_ofNamed (members : List (String × Document)) :
    named? (ofNamed members) = some members := by
  unfold named? ofNamed
  rw [List.mapM_map]
  exact List.mapM_pure.trans (congrArg some (List.map_id members))

theorem filter_ofNamed (members : List (String × Document)) (name : String) :
    (ofNamed members).filter (fun member => member.1 ≠ some name) =
      ofNamed (Members.without members name) := by
  simp [ofNamed, Members.without, List.filter_map, Function.comp_def]

theorem keep?_eq_null_iff {room : Nat} {value : Document} :
    value.keep? room = some .null ↔ value = .null := by
  cases value with
  | array items => cases room <;> simp [keep?]
  | object members => cases room <;> simp [keep?]
  | _ => simp [keep?]

theorem exists_of_keep?_eq_object {room : Nat} {document : Document}
    {members : List (String × Json)} (h : document.keep? (room + 1) = some (.object members)) :
    ∃ entries kept, document = .object entries ∧ keepMembers? room entries = some kept ∧
      members = Members.ofList kept := by
  cases document with
  | object entries =>
    obtain ⟨kept, hkept, hmembers⟩ := Option.map_eq_some_iff.1 h
    cases hmembers
    exact ⟨entries, kept, rfl, hkept, rfl⟩
  | _ => simp [keep?] at h

theorem exists_mem_of_keepMembers? {room : Nat} {members : List (Option String × Document)}
    {kept : List (String × Json)} (h : keepMembers? room members = some kept) {key : String}
    {value : Json} (hmem : (key, value) ∈ kept) :
    ∃ document, (some key, document) ∈ members ∧ document.keep? room = some value := by
  induction members generalizing kept with
  | nil =>
    cases h
    cases hmem
  | cons m rest ih =>
    obtain ⟨name, document⟩ := m
    simp only [keepMembers?, Option.bind_eq_bind, Option.bind_eq_some_iff, Option.some.injEq] at h
    obtain ⟨name, rfl, json, hjson, others, hothers, rfl⟩ := h
    rcases List.mem_cons.1 hmem with heq | hmem
    · cases heq
      exact ⟨document, List.mem_cons_self, hjson⟩
    · obtain ⟨found, hfound, hvalue⟩ := ih hothers hmem
      exact ⟨found, List.mem_cons_of_mem _ hfound, hvalue⟩

/-- Members that are kept have names that are text, and each name leads to a value in both. -/
theorem exists_of_keepMembers?_eq_some {room : Nat} {members : List (Option String × Document)}
    {kept : List (String × Json)} (h : keepMembers? room members = some kept) :
    ∃ named, members = ofNamed named ∧ named.map Prod.fst = kept.map Prod.fst ∧
      ∀ name, (Members.get? named name).map (keep? room) = (Members.get? kept name).map some := by
  induction members generalizing kept with
  | nil =>
    cases h
    exact ⟨[], rfl, rfl, fun _ => rfl⟩
  | cons m rest ih =>
    obtain ⟨key, value⟩ := m
    simp only [keepMembers?, Option.bind_eq_bind, Option.bind_eq_some_iff, Option.some.injEq] at h
    obtain ⟨name, rfl, json, hjson, others, hothers, rfl⟩ := h
    obtain ⟨named, rfl, hnames, hget⟩ := ih hothers
    refine ⟨(name, value) :: named, rfl, by simp [hnames], fun other => ?_⟩
    by_cases hother : name = other
    · simp [Members.get?, hother, hjson]
    · simpa [Members.get?, hother] using hget other

theorem keepMembers?_ofNamed_cons (room : Nat) (name : String) (value : Document)
    (rest : List (String × Document)) :
    keepMembers? room (ofNamed ((name, value) :: rest)) =
      (value.keep? room).bind fun json =>
        (keepMembers? room (ofNamed rest)).map ((name, json) :: ·) := by
  simp only [ofNamed, List.map_cons, keepMembers?, Option.bind_eq_bind, Option.bind_some]
  congr 1
  funext json
  cases keepMembers? room (rest.map fun member => (some member.1, member.2)) <;> rfl

theorem keepMembers?_without {room : Nat} {named : List (String × Document)}
    {kept : List (String × Json)} (h : keepMembers? room (ofNamed named) = some kept)
    (name : String) : keepMembers? room (ofNamed (Members.without named name)) =
      some (Members.without kept name) := by
  induction named generalizing kept with
  | nil =>
    cases h
    rfl
  | cons m rest ih =>
    obtain ⟨other, value⟩ := m
    simp only [keepMembers?_ofNamed_cons, Option.bind_eq_some_iff, Option.map_eq_some_iff] at h
    obtain ⟨json, hjson, others, hothers, rfl⟩ := h
    by_cases hname : other = name
    · rw [hname, Members.without_cons_self, Members.without_cons_self, ih hothers]
    · rw [Members.without_cons_of_ne hname, Members.without_cons_of_ne hname,
        keepMembers?_ofNamed_cons, hjson, Option.bind_some, ih hothers, Option.map_some]

theorem field?_of_nodup {members : List (String × Document)} (h : (members.map Prod.fst).Nodup)
    (name : String) : field? members name = some (Members.get? members name) := by
  induction members with
  | nil => rfl
  | cons m rest ih =>
    obtain ⟨n, value⟩ := m
    simp only [List.map_cons, List.nodup_cons] at h
    by_cases hn : n = name
    · subst hn
      have hrest : rest.filter (fun member => decide (member.1 = n)) = [] := by
        simp only [List.filter_eq_nil_iff, decide_eq_true_eq]
        intro member hmember heq
        exact h.1 (heq ▸ List.mem_map_of_mem hmember)
      simp [field?, Members.get?, hrest]
    · simpa [field?, Members.get?, hn] using ih h.2

theorem fields?_ofNamed {members : List (String × Document)} (h : (members.map Prod.fst).Nodup)
    (names : List String) : fields? names (.object (ofNamed members)) =
      some (names.map (Members.get? members)) := by
  have hfields : fields? names (.object (ofNamed members)) = names.mapM (field? members) := by
    simp [fields?, named?_ofNamed]
  rw [hfields, funext (field?_of_nodup h)]
  exact List.mapM_pure

end Json.Document

end ZeroShot
