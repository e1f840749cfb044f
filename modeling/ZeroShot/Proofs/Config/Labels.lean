import ZeroShot.Proofs.Config.Fields

/-! Which label counts for a class, and what is reported of the others.

Entries without a usable id are reported first. Of those that name one class each takes the place of
the one before, which is reported too, so the last one counts. -/

namespace ZeroShot

def warningsOf (events : List Event) : List LogLine :=
  (logOf events).filter fun line => line.level = .warn

theorem warningsOf_append (es fs : List Event) :
    warningsOf (es ++ fs) = warningsOf es ++ warningsOf fs := by
  simp [warningsOf, logOf]

theorem warningsOf_map {event : α → Event} {line : α → LogLine}
    (hline : ∀ a, (event a).logLine? = some (line a)) (hwarn : ∀ a, (line a).level = .warn)
    (l : List α) : warningsOf (l.map event) = l.map line := by
  induction l with
  | nil => rfl
  | cons a l ih =>
    have hhead : warningsOf [event a] = [line a] := by simp [warningsOf, logOf, hline, hwarn]
    rw [List.map_cons, ← List.singleton_append, warningsOf_append, hhead, ih]
    rfl

namespace ModelConfig

def usableEntries (config : ModelConfig) : List (String × Nat) :=
  config.labelIds.filterMap fun (label, value) => (usableId? value).map fun id => (label, id)

def unusableEntries (config : ModelConfig) : List (String × Json) :=
  config.labelIds.filter fun (_, value) => (usableId? value).isNone

def naming (role : ClassRole) (entries : List (String × Nat)) : List (String × Nat) :=
  entries.filter fun (label, _) => roleOf? label = some role

def ignoredLine (entry : String × Json) : LogLine :=
  ⟨.warn, "ignoring non-integer label2id entry",
    [("label", entry.1), ("value", entry.2.compact)]⟩

/-- An entry that takes the place of another one for its class. -/
structure Replacement where
  role : ClassRole
  previous : Nat
  label : String
  id : Nat
deriving DecidableEq, Repr

namespace Replacement

def entry (r : Replacement) : String × Nat := (r.label, r.id)

def event (r : Replacement) : Event := .labelRepeated r.label r.role r.previous r.id

def line (r : Replacement) : LogLine :=
  ⟨.warn, "multiple label2id entries match, keeping the last",
    [("label", r.label), ("role", r.role.name), ("previous", toString r.previous),
      ("id", toString r.id)]⟩

end Replacement

def replacements (role : ClassRole) : Option Nat → List (String × Nat) → List Replacement
  | _, [] => []
  | none, (_, id) :: rest => replacements role (some id) rest
  | some previous, (label, id) :: rest =>
    ⟨role, previous, label, id⟩ :: replacements role (some id) rest

theorem replacements_some (role : ClassRole) (first : String × Nat)
    (entries : List (String × Nat)) :
    replacements role (some first.2) entries = (first :: entries).zipWith
      (fun earlier later => ⟨role, earlier.2, later.1, later.2⟩) entries := by
  induction entries generalizing first with
  | nil => rfl
  | cons entry rest ih => rw [replacements, ih entry, List.zipWith_cons_cons]

theorem replacements_none (role : ClassRole) (entries : List (String × Nat)) :
    replacements role none entries =
      entries.zipWith (fun earlier later => ⟨role, earlier.2, later.1, later.2⟩) entries.tail := by
  cases entries with
  | nil => rfl
  | cons entry rest => exact replacements_some role entry rest

theorem replacements_cons (role : ClassRole) (held : Option Nat) (label : String) (id : Nat)
    (rest : List (String × Nat)) : replacements role held ((label, id) :: rest) =
      replacements role held [(label, id)] ++ replacements role (some id) rest := by
  cases held <;> rfl

theorem role_of_mem_replacements {role : ClassRole} {held : Option Nat}
    {entries : List (String × Nat)} : ∀ r ∈ replacements role held entries, r.role = role := by
  fun_induction replacements role held entries with
  | case1 => simp
  | case2 _ id rest ih => exact ih
  | case3 previous label id rest ih => simpa using ih

theorem replacements_entry_sublist (role : ClassRole) (held : Option Nat) (entry : String × Nat) :
    ((replacements role held [entry]).map Replacement.entry).Sublist [entry] := by
  cases held with
  | none => exact List.nil_sublist _
  | some previous => exact List.Sublist.refl _

theorem value_usableLabels (labels : List (String × Json)) :
    (usableLabels labels).value =
      labels.filterMap fun (label, value) => (usableId? value).map fun id => (label, id) := by
  induction labels with
  | nil => rfl
  | cons entry rest ih =>
    obtain ⟨label, value⟩ := entry
    rw [usableLabels]
    cases h : usableId? value <;> simp [h, ih]

theorem events_usableLabels (labels : List (String × Json)) :
    (usableLabels labels).events =
      (labels.filter fun (_, value) => (usableId? value).isNone).map fun (label, value) =>
        .labelIgnored label value := by
  induction labels with
  | nil => rfl
  | cons entry rest ih =>
    obtain ⟨label, value⟩ := entry
    rw [usableLabels]
    cases h : usableId? value <;> simp [h, ih]

def held (indices : ClassIndices) (seen : List ClassRole) (role : ClassRole) : Option Nat :=
  if role ∈ seen then some (indices.get role) else none

theorem held_set_self (indices : ClassIndices) (seen : List ClassRole) (role : ClassRole)
    (id : Nat) : held (indices.set role id) (role :: seen) role = some id := by
  simp [held]

theorem held_set_of_ne (indices : ClassIndices) (seen : List ClassRole) {role other : ClassRole}
    (h : other ≠ role) (id : Nat) :
    held (indices.set role id) (role :: seen) other = held indices seen other := by
  simp [held, h, ClassIndices.get_set_of_ne indices id h]

theorem applyLabels_cons_of_none {label : String} (h : roleOf? label = none)
    (indices : ClassIndices) (seen : List ClassRole) (id : Nat) (rest : List (String × Nat)) :
    applyLabels indices seen ((label, id) :: rest) = applyLabels indices seen rest := by
  rw [applyLabels, h]

theorem applyLabels_cons_of_some {label : String} {role : ClassRole}
    (h : roleOf? label = some role) (indices : ClassIndices) (seen : List ClassRole) (id : Nat)
    (rest : List (String × Nat)) :
    let next := applyLabels (indices.set role id) (role :: seen) rest
    let replaced := replacements role (held indices seen role) [(label, id)]
    applyLabels indices seen ((label, id) :: rest) =
      ⟨next.value, replaced.map Replacement.event ++ next.events⟩ := by
  intro next replaced
  rw [applyLabels, h]
  by_cases hseen : role ∈ seen
  · have hreplaced : replaced = [⟨role, indices.get role, label, id⟩] := by
      simp [replaced, held, hseen, replacements]
    rw [hreplaced]
    simp only [List.contains_iff_mem.2 hseen, if_true]
    rfl
  · have hreplaced : replaced = [] := by simp [replaced, held, hseen, replacements]
    have hcontains : ¬seen.contains role = true := fun hc => hseen (List.contains_iff_mem.1 hc)
    rw [hreplaced]
    simp only [if_neg hcontains]
    rfl

theorem naming_cons_self {label : String} {role : ClassRole} (h : roleOf? label = some role)
    (id : Nat) (rest : List (String × Nat)) :
    naming role ((label, id) :: rest) = (label, id) :: naming role rest := by
  simp [naming, h]

theorem naming_cons_of_ne {label : String} {role : ClassRole} (h : roleOf? label ≠ some role)
    (id : Nat) (rest : List (String × Nat)) :
    naming role ((label, id) :: rest) = naming role rest := by
  simp [naming, h]

theorem get_applyLabels (indices : ClassIndices) (seen : List ClassRole)
    (entries : List (String × Nat)) (role : ClassRole) :
    (applyLabels indices seen entries).value.get role =
      ((naming role entries).getLast?.map Prod.snd).getD (indices.get role) := by
  induction entries generalizing indices seen with
  | nil => rfl
  | cons entry rest ih =>
    obtain ⟨label, id⟩ := entry
    cases h : roleOf? label with
    | none => rw [applyLabels_cons_of_none h, naming_cons_of_ne (by simp [h]), ih]
    | some named =>
      rw [applyLabels_cons_of_some h, ih]
      by_cases hrole : role = named
      · subst hrole
        rw [naming_cons_self h, ClassIndices.get_set_self, List.getLast?_cons]
        cases (naming role rest).getLast? <;> rfl
      · rw [naming_cons_of_ne (by simpa [h] using Ne.symm hrole),
          ClassIndices.get_set_of_ne indices id hrole]

/-- What is reported is in the order of the entries, and for each class by itself it is what its own
entries replace. -/
theorem exists_replaced (indices : ClassIndices) (seen : List ClassRole)
    (entries : List (String × Nat)) : ∃ replaced : List Replacement,
      (applyLabels indices seen entries).events = replaced.map Replacement.event ∧
      (replaced.map Replacement.entry).Sublist entries ∧
      ∀ role, replaced.filter (fun r => r.role = role) =
        replacements role (held indices seen role) (naming role entries) := by
  induction entries generalizing indices seen with
  | nil => exact ⟨[], rfl, List.nil_sublist _, fun role => by simp [naming, replacements]⟩
  | cons entry rest ih =>
    obtain ⟨label, id⟩ := entry
    cases h : roleOf? label with
    | none =>
      obtain ⟨replaced, hevents, hsublist, hfilter⟩ := ih indices seen
      refine ⟨replaced, ?_, hsublist.cons _, fun role => ?_⟩
      · rw [applyLabels_cons_of_none h, hevents]
      · rw [naming_cons_of_ne (by simp [h]), hfilter]
    | some named =>
      obtain ⟨replaced, hevents, hsublist, hfilter⟩ := ih (indices.set named id) (named :: seen)
      let now := replacements named (held indices seen named) [(label, id)]
      refine ⟨now ++ replaced, ?_, ?_, fun role => ?_⟩
      · rw [applyLabels_cons_of_some h, hevents, List.map_append]
      · rw [List.map_append]
        exact (replacements_entry_sublist _ _ _).append hsublist
      · rw [List.filter_append, hfilter]
        by_cases hrole : role = named
        · subst hrole
          have hall : now.filter (fun r => r.role = role) = now :=
            List.filter_eq_self.2 fun r hr => by simpa using role_of_mem_replacements r hr
          rw [hall, held_set_self, naming_cons_self h, replacements_cons]
        · have hnone : now.filter (fun r => r.role = role) = [] :=
            List.filter_eq_nil_iff.2 fun r hr => by
              simpa [role_of_mem_replacements r hr] using Ne.symm hrole
          rw [hnone, held_set_of_ne indices seen hrole,
            naming_cons_of_ne (by simpa [h] using Ne.symm hrole), List.nil_append]

theorem indices_resolve (config : ModelConfig) (defaults : ResolvedConfig) :
    (config.resolve defaults).value.indices =
      (applyLabels defaults.indices [] config.usableEntries).value := by
  unfold usableEntries
  rw [← value_usableLabels, resolve]
  cases config.tokenTypeRule? <;> rfl

theorem events_resolve (config : ModelConfig) (defaults : ResolvedConfig) :
    (config.resolve defaults).events =
      config.unusableEntries.map (fun (label, value) => .labelIgnored label value) ++
        (applyLabels defaults.indices [] config.usableEntries).events ++
        (config.tokenTypeRule?.map Event.tokenTypesEnabled).toList := by
  unfold usableEntries unusableEntries
  rw [← value_usableLabels, ← events_usableLabels, resolve]
  cases config.tokenTypeRule? <;> simp

theorem warningsOf_resolve (config : ModelConfig) (defaults : ResolvedConfig) :
    warningsOf (config.resolve defaults).events =
      config.unusableEntries.map ignoredLine ++
        warningsOf (applyLabels defaults.indices [] config.usableEntries).events := by
  have hignored : warningsOf (config.unusableEntries.map fun (label, value) =>
      .labelIgnored label value) = config.unusableEntries.map ignoredLine :=
    warningsOf_map (fun _ => rfl) (fun _ => rfl) _
  have htypes : warningsOf (config.tokenTypeRule?.map Event.tokenTypesEnabled).toList = [] := by
    cases config.tokenTypeRule? <;> rfl
  rw [events_resolve, warningsOf_append, warningsOf_append, hignored, htypes, List.append_nil]

/-- The last entry that names a class counts for it, or else the default. Every entry without a
usable id is reported once, and after that every entry that takes the place of another. -/
theorem last_label_counts (config : ModelConfig) (defaults : ResolvedConfig) :
    let resolution := config.resolve defaults
    (∀ document members size type entries, ofDocument? document = some config →
      document.fields? fieldNames = some [some (.object members), size, type] →
      Json.Document.keepMembers? (Json.maxNesting - 2) members = some entries →
        config.labelIds.map Prod.fst = (entries.map Prod.fst).eraseDups ∧
          ∀ label, Members.get? config.labelIds label = Members.get? entries.reverse label) ∧
    (∀ role, resolution.value.indices.get role =
      ((naming role config.usableEntries).getLast?.map Prod.snd).getD
        (defaults.indices.get role)) ∧
    ∃ replaced : List Replacement,
      warningsOf resolution.events =
        config.unusableEntries.map ignoredLine ++ replaced.map Replacement.line ∧
      (replaced.map Replacement.entry).Sublist config.usableEntries ∧
      ∀ role,
        let named := naming role config.usableEntries
        replaced.filter (fun r => r.role = role) =
          named.zipWith (fun earlier later => ⟨role, earlier.2, later.1, later.2⟩) named.tail ∧
        replaced.countP (fun r => r.role = role) = named.length - 1 := by
  intro resolution
  refine ⟨?_, ?_, ?_⟩
  · intro document members size type entries hconfig hfields hentries
    exact labelIds_of_ofDocument? hconfig hfields hentries
  · intro role
    rw [show resolution.value.indices = _ from indices_resolve config defaults, get_applyLabels]
  · obtain ⟨replaced, hevents, hsublist, hfilter⟩ :=
      exists_replaced defaults.indices [] config.usableEntries
    refine ⟨replaced, ?_, hsublist, fun role => ?_⟩
    · rw [warningsOf_resolve, hevents]
      exact congrArg _ (warningsOf_map (fun _ => rfl) (fun _ => rfl) replaced)
    · intro named
      have hpairs : replaced.filter (fun r => r.role = role) =
          named.zipWith (fun earlier later => ⟨role, earlier.2, later.1, later.2⟩) named.tail := by
        rw [hfilter, ← replacements_none]
        rfl
      refine ⟨hpairs, ?_⟩
      rw [List.countP_eq_length_filter, hpairs, List.length_zipWith, List.length_tail]
      omega

def mixedLabels : Json.Document := .object
  [(some "entailment", .number (some (.integer 7))), (some "CONTRA", .number (some (.integer 1))),
   (some "Entailed", .string (some "x")), (some "entail", .number (some (.integer 3))),
   (some "entailment", .number (some (.integer 5)))]

def mixedConfig : ModelConfig where
  labelIds := [("entailment", Json.ofNat 5), ("CONTRA", Json.ofNat 1), ("Entailed", .string "x"),
    ("entail", Json.ofNat 3)]

/-- The label written twice stands first with its last value, which is the one that is replaced. -/
theorem last_label_counts_mixed :
    ofDocument? (.object [(some "label2id", mixedLabels)]) = some mixedConfig ∧
    Members.get? mixedConfig.labelIds "entailment" = some (Json.ofNat 5) ∧
    (mixedConfig.resolve {}).value.indices = ⟨3, 1⟩ ∧
    ∃ replaced : List Replacement,
      warningsOf (mixedConfig.resolve {}).events =
        ignoredLine ("Entailed", .string "x") :: replaced.map Replacement.line ∧
      replaced.filter (fun r => r.role = .entailment) = [⟨.entailment, 5, "entail", 3⟩] ∧
      replaced.filter (fun r => r.role = .contradiction) = [] := by
  have hconfig : ofDocument? (.object [(some "label2id", mixedLabels)]) = some mixedConfig := by
    cbv
  have hentailment : naming .entailment mixedConfig.usableEntries =
      [("entailment", 5), ("entail", 3)] := by decide +kernel
  have hcontradiction : naming .contradiction mixedConfig.usableEntries = [("CONTRA", 1)] := by
    decide +kernel
  obtain ⟨hlabels, hlast, replaced, hwarnings, -, hreplaced⟩ := last_label_counts mixedConfig {}
  obtain ⟨-, hget⟩ := hlabels _ _ none none _ hconfig rfl rfl
  refine ⟨hconfig, ?_, ?_, replaced, hwarnings, ?_, ?_⟩
  · rw [hget]
    rfl
  · have hfirst := hlast .entailment
    have hsecond := hlast .contradiction
    rw [hentailment] at hfirst
    rw [hcontradiction] at hsecond
    rw [ClassIndices.mk.injEq]
    exact ⟨hfirst, hsecond⟩
  · rw [(hreplaced .entailment).1, hentailment]
    rfl
  · rw [(hreplaced .contradiction).1, hcontradiction]
    rfl

end ModelConfig

end ZeroShot
