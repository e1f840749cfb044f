import ZeroShot.Proofs.Json.Nesting

/-! Printed text as the document it stands for.

A container is put together from the texts of its parts, in whatever way each of them is written.
From that it follows, by induction over the value, that the compact text of a value stands for the
value itself, as long as its numbers are integers of 64 bits. -/

namespace ZeroShot.Json

def Reading.on (state : Reading) (text : List Char) : Option Reading :=
  (Lexing.between.run text).bind state.run

namespace Reading

theorem on_symbol {c : Char} {token : Token} (h : Lexing.start c = some ([token], .between))
    (state : Reading) (rest : List Char) :
    state.on (c :: rest) = (state.step token).bind (·.on rest) := by
  unfold on
  rw [Lexing.run_symbol h]
  cases Lexing.between.run rest with
  | none => simp
  | some tokens => rfl

theorem on_quote (state : Reading) (text : String) (rest : List Char) :
    state.on ((quote text).toList ++ rest) = (state.step (.string (some text))).bind (·.on rest) := by
  unfold on
  rw [Lexing.run_quote]
  cases Lexing.between.run rest with
  | none => simp
  | some tokens => rfl

/-- A value in front of a symbol is read as it is alone. -/
theorem on_value {state : Reading} (hstate : state.atValue) {text : String} {value : Document}
    (h : Document.ofString? text = some value) {c : Char} (hc : Ends c) (rest : List Char) :
    state.on (text.toList ++ c :: rest) = (state.put value).on (c :: rest) := by
  obtain ⟨tokens, htokens, hrun⟩ := Document.run_of_ofString? h
  unfold on
  rw [Lexing.run_append htokens hc]
  cases Lexing.between.run (c :: rest) with
  | none => rfl
  | some others => rw [Option.map_some, Option.bind_some, run_append, hrun state hstate]; rfl

end Reading

theorem Document.ofString?_eq (text : String) :
    Document.ofString? text = (Reading.start.on text.toList).bind fun final =>
      if final.frames.isEmpty then final.result else none := by
  simp [Document.ofString?, tokens?, Reading.on, Option.bind_assoc]

def arrayText (items : List String) : String := "[" ++ ",".intercalate items ++ "]"

def memberText (member : String × String) : String := quote member.1 ++ ":" ++ member.2

def objectText (members : List (String × String)) : String :=
  "\x7b" ++ ",".intercalate (members.map memberText) ++ "\x7d"

def documentOf (text : String) : Document := (Document.ofString? text).getD .null

theorem documentOf_eq {text : String} {value : Document}
    (h : Document.ofString? text = some value) : documentOf text = value := by
  rw [documentOf, h, Option.getD_some]

def documentsOf (members : List (String × String)) : List (String × Document) :=
  members.map fun member => (member.1, documentOf member.2)

theorem ofString?_eq_documentOf {text : String} (h : (Document.ofString? text).isSome) :
    Document.ofString? text = some (documentOf text) := by
  obtain ⟨value, hvalue⟩ := Option.isSome_iff_exists.1 h
  rw [documentOf, hvalue, Option.getD_some]

theorem toList_intercalate_cons_cons (text other : String) (texts : List String)
    (rest : List Char) : (",".intercalate (text :: other :: texts)).toList ++ rest =
      text.toList ++ ',' :: ((",".intercalate (other :: texts)).toList ++ rest) := by
  simp [String.intercalate_cons_cons]

theorem toList_memberText (member : String × String) (rest : List Char) :
    (memberText member).toList ++ rest =
      (quote member.1).toList ++ ':' :: (member.2.toList ++ rest) := by
  simp [memberText]

namespace Reading

theorem on_items {items : List String} (hne : items ≠ [])
    (h : ∀ text ∈ items, (Document.ofString? text).isSome) {held : List Document}
    {frames : List Frame} {expect : Expect} (hstate : atValue ⟨.array held :: frames, expect, none⟩)
    (rest : List Char) :
    on ⟨.array held :: frames, expect, none⟩ ((",".intercalate items).toList ++ ']' :: rest) =
      (put ⟨frames, .separator, none⟩ (.array (held.reverse ++ items.map documentOf))).on rest := by
  induction items generalizing held expect with
  | nil => exact absurd rfl hne
  | cons text items ih =>
    obtain ⟨htext, hitems⟩ := List.forall_mem_cons.1 h
    have hvalue := ofString?_eq_documentOf htext
    cases items with
    | nil =>
      rw [String.intercalate_singleton, on_value hstate hvalue ends_closeArray,
        on_symbol (c := ']') rfl]
      simp [put, step]
    | cons other items =>
      have hnext : atValue ⟨.array (documentOf text :: held) :: frames, .value, none⟩ := rfl
      rw [toList_intercalate_cons_cons, on_value hstate hvalue ends_comma, on_symbol (c := ',') rfl]
      simpa [put, step] using ih (List.cons_ne_nil _ _) hitems hnext

theorem on_members {members : List (String × String)} (hne : members ≠ [])
    (h : ∀ member ∈ members, (Document.ofString? member.2).isSome)
    {held : List (Option String × Document)} {key : Option String} {frames : List Frame}
    {expect : Expect} (hexpect : expect = .key ∨ expect = .keyOrClose) (rest : List Char) :
    on ⟨.object held key :: frames, expect, none⟩
        ((",".intercalate (members.map memberText)).toList ++ '}' :: rest) =
      (put ⟨frames, .separator, none⟩
        (.object (held.reverse ++ Document.ofNamed (documentsOf members)))).on rest := by
  induction members generalizing held key expect with
  | nil => exact absurd rfl hne
  | cons member members ih =>
    obtain ⟨hmember, hmembers⟩ := List.forall_mem_cons.1 h
    have hvalue := ofString?_eq_documentOf hmember
    have hkey : step ⟨.object held key :: frames, expect, none⟩ (.string (some member.1)) =
        some ⟨.object held (some member.1) :: frames, .colon, none⟩ := by
      rcases hexpect with rfl | rfl <;> rfl
    have hstate : atValue ⟨.object held (some member.1) :: frames, .value, none⟩ := rfl
    have hname (text : List Char) : on ⟨.object held key :: frames, expect, none⟩
        ((memberText member).toList ++ text) =
          on ⟨.object held (some member.1) :: frames, .value, none⟩ (member.2.toList ++ text) := by
      rw [toList_memberText, on_quote, hkey, Option.bind_some, on_symbol (c := ':') rfl]
      rfl
    cases members with
    | nil =>
      rw [List.map_singleton, String.intercalate_singleton, hname,
        on_value hstate hvalue ends_closeObject, on_symbol (c := '}') rfl]
      simp [put, step, Document.ofNamed, documentsOf]
    | cons other members =>
      have hrest : on
          ⟨.object ((some member.1, documentOf member.2) :: held) none :: frames, .key, none⟩ _ = _ :=
        ih (List.cons_ne_nil other members) hmembers (.inl rfl)
      rw [List.map_cons, List.map_cons, toList_intercalate_cons_cons, hname,
        on_value hstate hvalue ends_comma, on_symbol (c := ',') rfl]
      simpa [put, step, Document.ofNamed, documentsOf] using hrest

end Reading

theorem Document.ofString?_arrayText {items : List String}
    (h : ∀ text ∈ items, (Document.ofString? text).isSome) :
    Document.ofString? (arrayText items) = some (.array (items.map documentOf)) := by
  have hopen : Reading.start.on (arrayText items).toList =
      Reading.on ⟨[.array []], .valueOrClose, none⟩ ((",".intercalate items).toList ++ [']']) := by
    simp only [arrayText, String.toList_append, List.append_assoc]
    exact Reading.on_symbol (c := '[') rfl _ _
  rw [Document.ofString?_eq, hopen]
  by_cases hne : items = []
  · subst hne
    rfl
  · rw [Reading.on_items hne h rfl]
    rfl

theorem Document.ofString?_objectText {members : List (String × String)}
    (h : ∀ member ∈ members, (Document.ofString? member.2).isSome) :
    Document.ofString? (objectText members) = some (.object (ofNamed (documentsOf members))) := by
  have hopen : Reading.start.on (objectText members).toList =
      Reading.on ⟨[.object [] none], .keyOrClose, none⟩
        ((",".intercalate (members.map memberText)).toList ++ ['}']) := by
    simp only [objectText, String.toList_append, List.append_assoc]
    exact Reading.on_symbol (c := '{') rfl _ _
  rw [Document.ofString?_eq, hopen]
  by_cases hne : members = []
  · subst hne
    rfl
  · rw [Reading.on_members hne h (.inr rfl)]
    rfl

/-- Numbers are integers of 64 bits, with or without a sign. -/
inductive Exact : Json → Prop
  | null : Exact .null
  | bool (value : Bool) : Exact (.bool value)
  | integer {n : Int} (h : (Number.integer n).InRange) : Exact (.number (.integer n))
  | string (text : String) : Exact (.string text)
  | array {items : List Json} (h : ∀ item ∈ items, Exact item) : Exact (.array items)
  | object {members : List (String × Json)} (h : ∀ member ∈ members, Exact member.2) :
    Exact (.object members)

mutual

def Document.ofJson : Json → Document
  | .null => .null
  | .bool value => .bool value
  | .number value => .number (some value)
  | .string text => .string (some text)
  | .array items => .array (ofItems items)
  | .object members => .object (ofMembers members)

def Document.ofItems : List Json → List Document
  | [] => []
  | item :: rest => ofJson item :: ofItems rest

def Document.ofMembers : List (String × Json) → List (Option String × Document)
  | [] => []
  | (key, value) :: rest => (some key, ofJson value) :: ofMembers rest

end

theorem Document.ofItems_eq_map (items : List Json) : ofItems items = items.map ofJson := by
  induction items with
  | nil => rfl
  | cons item items ih => rw [ofItems, ih, List.map_cons]

theorem Document.ofMembers_eq_map (members : List (String × Json)) :
    ofMembers members = ofNamed (members.map fun member => (member.1, ofJson member.2)) := by
  induction members with
  | nil => rfl
  | cons member members ih =>
    obtain ⟨key, value⟩ := member
    rw [ofMembers, ih]
    rfl

theorem compactItems_eq (items : List Json) :
    compactItems items = ",".intercalate (items.map compact) := by
  induction items with
  | nil => rfl
  | cons item items ih =>
    cases items with
    | nil => simp [compactItems]
    | cons other items =>
      rw [compactItems, ih, List.map_cons, List.map_cons, List.map_cons,
        String.intercalate_cons_cons]
      nofun

def memberTexts (members : List (String × Json)) : List (String × String) :=
  members.map fun member => (member.1, member.2.compact)

theorem compactMembers_eq (members : List (String × Json)) :
    compactMembers members = ",".intercalate ((memberTexts members).map memberText) := by
  induction members with
  | nil => rfl
  | cons member members ih =>
    obtain ⟨key, value⟩ := member
    cases members with
    | nil => simp [compactMembers, memberTexts, memberText]
    | cons other members =>
      rw [compactMembers, ih]
      · simp [memberTexts, memberText, String.intercalate_cons_cons]
      · nofun

theorem compact_array (items : List Json) :
    (Json.array items).compact = arrayText (items.map compact) := by
  rw [compact, compactItems_eq, arrayText]

theorem compact_object (members : List (String × Json)) :
    (Json.object members).compact = objectText (memberTexts members) := by
  rw [compact, compactMembers_eq, objectText]

theorem Document.ofString?_quote (text : String) :
    Document.ofString? (quote text) = some (.string (some text)) := by
  have hread := Reading.on_quote Reading.start text []
  rw [List.append_nil] at hread
  rw [Document.ofString?_eq, hread]
  rfl

theorem Document.ofString?_text {n : Int} (h : (Number.integer n).InRange) :
    Document.ofString? (Number.integer n).text = some (.number (some (.integer n))) := by
  rw [Document.ofString?_eq, Reading.on, Lexing.run_text h]
  rfl

/-- The compact text of a value stands for the value. -/
theorem Document.ofString?_compact {json : Json} (h : json.Exact) :
    Document.ofString? json.compact = some (ofJson json) := by
  induction h with
  | null => rfl
  | bool value => cases value <;> rfl
  | integer h => exact ofString?_text h
  | string text => exact ofString?_quote text
  | @array items h ih =>
    have hitems : ∀ text ∈ items.map compact, (Document.ofString? text).isSome := by
      rintro text htext
      obtain ⟨item, hitem, rfl⟩ := List.mem_map.1 htext
      exact Option.isSome_of_eq_some (ih item hitem)
    rw [compact_array, ofString?_arrayText hitems, ofJson, ofItems_eq_map, List.map_map]
    congr 2
    exact List.map_congr_left fun item hitem => documentOf_eq (ih item hitem)
  | @object members h ih =>
    have hmembers : ∀ member ∈ memberTexts members, (Document.ofString? member.2).isSome := by
      rintro member hmember
      obtain ⟨⟨key, value⟩, hvalue, rfl⟩ := List.mem_map.1 hmember
      exact Option.isSome_of_eq_some (ih (key, value) hvalue)
    rw [compact_object, ofString?_objectText hmembers, ofJson, ofMembers_eq_map, documentsOf,
      memberTexts, List.map_map]
    congr 3
    exact List.map_congr_left fun member hmember =>
      congrArg (Prod.mk member.1) (documentOf_eq (ih member hmember))

end ZeroShot.Json
