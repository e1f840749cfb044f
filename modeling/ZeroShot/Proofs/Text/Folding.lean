import ZeroShot.Proofs.Text.Ascii

/-! Words that lower case finds in a text only where they stand in ASCII letters.

Two characters outside ASCII have an ASCII letter in their lower case: the Kelvin sign a `k`, and the
dotted capital I an `i`, with a dot behind it. A word of small letters that has no `k` and does not
end in `i` cannot come from them, so for it the lower case of all of Unicode is that of ASCII. -/

namespace ZeroShot.Text

/-- Small letters without `k`, the last one not `i`. -/
structure IsPlain (word : List Char) : Prop where
  letter : ∀ c ∈ word, 'a' ≤ c ∧ c ≤ 'z' ∧ c ≠ 'k'
  last : word.getLast? ≠ some 'i'

instance (word : List Char) : Decidable (IsPlain word) :=
  decidable_of_iff (word.all (fun c => 'a' ≤ c ∧ c ≤ 'z' ∧ c ≠ 'k') ∧ word.getLast? ≠ some 'i') <| by
    simp only [List.all_eq_true, decide_eq_true_eq]
    exact ⟨fun h => ⟨h.1, h.2⟩, fun h => ⟨h.letter, h.last⟩⟩

theorem IsPlain.toNat_lt {word : List Char} (h : IsPlain word) {c : Char} (hc : c ∈ word) :
    97 ≤ c.toNat ∧ c.toNat < 128 ∧ c.toNat ≠ 107 := by
  obtain ⟨hlow, hhigh, hk⟩ := h.letter c hc
  have hlow : 'a'.toNat ≤ c.toNat := hlow
  have hhigh : c.toNat ≤ 'z'.toNat := hhigh
  have ha : 'a'.toNat = 97 := rfl
  have hz : 'z'.toNat = 122 := rfl
  refine ⟨by omega, by omega, fun heq => hk ?_⟩
  rw [← Char.ofNat_toNat c, heq]

theorem IsPlain.tail {c : Char} {word : List Char} (h : IsPlain (c :: word)) : IsPlain word where
  letter d hd := h.letter d (List.mem_cons_of_mem c hd)
  last := by
    cases word with
    | nil => simp
    | cons d word => simpa [List.getLast?_cons_cons] using h.last

theorem toLower_of_not_ascii {c : Char} (h : 128 ≤ c.toNat) : c.toLower = c := by
  unfold Char.toLower
  split
  · next hupper =>
    have : c.toNat ≤ 'Z'.toNat := hupper.2
    have : 'Z'.toNat = 90 := rfl
    omega
  · rfl

/-- No run but those of ASCII and of the Kelvin sign has ASCII images. -/
theorem lt_or_eq_of_simpleLowercase_lt {code : Nat} (h : simpleLowercase code < 128) :
    code < 128 ∨ simpleLowercase code = 107 := by
  have hruns : ∀ run ∈ lowercaseRuns, run.2.2.2 < 128 →
      run.2.1 < 128 ∨ run.1 = run.2.1 ∧ run.2.2.2 = 107 := by decide +kernel
  unfold simpleLowercase at h ⊢
  split at h
  · next first last stride image hfind =>
    have hrun := hruns _ (List.mem_of_find?_eq_some hfind) (by dsimp only; omega)
    have hcode := List.find?_some hfind
    simp only [Bool.and_eq_true, decide_eq_true_eq] at hcode
    dsimp only at hrun
    rcases hrun with hlast | ⟨honly, himage⟩
    · exact .inl (by omega)
    · exact .inr (by omega)
  · exact .inl h

theorem eq_toNat_of_ofNat_eq {n : Nat} {c : Char} (h : Char.ofNat n = c) (hc : c.toNat ≠ 0) :
    n = c.toNat := by
  subst h
  by_cases hvalid : n.isValidChar
  · rw [Char.ofNat, dif_pos hvalid]
    rfl
  · rw [Char.ofNat, dif_neg hvalid] at hc
    exact absurd rfl hc

theorem lowercaseChar_ne_nil (c : Char) : lowercaseChar c ≠ [] := by
  unfold lowercaseChar
  split <;> exact List.cons_ne_nil _ _

theorem lowercaseChar_eq_cons {c x : Char} {rest : List Char} (h : lowercaseChar c = x :: rest)
    (hx : 97 ≤ x.toNat ∧ x.toNat < 128 ∧ x.toNat ≠ 107) :
    c.toNat < 128 ∨ x = 'i' ∧ rest = ['\u0307'] := by
  unfold lowercaseChar at h
  split at h
  · cases h
    exact .inr ⟨rfl, rfl⟩
  · obtain ⟨hx', -⟩ := List.cons_eq_cons.1 h
    have hcode := eq_toNat_of_ofNat_eq hx' (by omega)
    have hlow : simpleLowercase c.toNat < 128 := by omega
    rcases lt_or_eq_of_simpleLowercase_lt hlow with hlt | hk
    · exact .inl hlt
    · omega

theorem lowercaseFrom_cons_of_ascii {c : Char} (hc : c.toNat < 128) (before rest : List Char) :
    lowercaseFrom before (c :: rest) = c.toLower :: lowercaseFrom (c :: before) rest := by
  rw [lowercaseFrom, lowercaseChar_of_ascii hc]
  · rfl
  · rintro rfl
    exact absurd hc (by decide)

theorem lowercaseFrom_ne_of_not_ascii {c : Char} (hc : ¬ c.toNat < 128) (before rest : List Char)
    {x : Char} {word : List Char} (hword : IsPlain (x :: word)) (after : List Char) :
    lowercaseFrom before (c :: rest) ≠ x :: (word ++ after) := by
  have hx := hword.toNat_lt List.mem_cons_self
  intro h
  by_cases hsigma : c = 'Σ'
  · subst hsigma
    rw [lowercaseFrom] at h
    obtain ⟨rfl, -⟩ := List.cons_eq_cons.1 h
    split at hx
    · exact absurd hx.2.1 (by decide)
    · exact absurd hx.2.1 (by decide)
  · rw [lowercaseFrom] at h
    · cases himage : lowercaseChar c with
      | nil => exact lowercaseChar_ne_nil c himage
      | cons y others =>
        rw [himage] at h
        obtain ⟨rfl, hrest⟩ := List.cons_eq_cons.1 h
        obtain ⟨rfl, rfl⟩ := (lowercaseChar_eq_cons himage hx).resolve_left hc
        -- the dot behind the `i` is no letter, and the word goes on
        cases word with
        | nil => exact hword.last rfl
        | cons d word =>
          obtain ⟨rfl, -⟩ := List.cons_eq_cons.1 hrest
          exact absurd (hword.toNat_lt (List.mem_cons_of_mem _ List.mem_cons_self)).2.1 (by decide)
    · exact hsigma

/-- A plain word starts the lower case of a text exactly if the text starts with it in some case. -/
theorem lowercaseFrom_eq_append_iff {word : List Char} (hword : IsPlain word)
    {before text after : List Char} :
    lowercaseFrom before text = word ++ after ↔
      ∃ front rest, text = front ++ rest ∧ front.map Char.toLower = word ∧
        lowercaseFrom (front.reverse ++ before) rest = after := by
  induction word generalizing before text with
  | nil =>
    constructor
    · exact fun h => ⟨[], text, rfl, rfl, h⟩
    · rintro ⟨front, rest, rfl, hfront, h⟩
      obtain rfl := List.map_eq_nil_iff.1 hfront
      exact h
  | cons x word ih =>
    have hx := (hword.toNat_lt List.mem_cons_self).2.1
    cases text with
    | nil =>
      refine ⟨nofun, ?_⟩
      rintro ⟨front, rest, hnil, hfront, -⟩
      obtain ⟨rfl, -⟩ := List.append_eq_nil_iff.1 hnil.symm
      cases hfront
    | cons c text =>
      by_cases hc : c.toNat < 128
      · rw [lowercaseFrom_cons_of_ascii hc, List.cons_append, List.cons_eq_cons, ih hword.tail]
        constructor
        · rintro ⟨rfl, front, rest, rfl, rfl, h⟩
          exact ⟨c :: front, rest, rfl, rfl, by simpa using h⟩
        · rintro ⟨front, rest, htext, hfront, h⟩
          cases front with
          | nil => cases hfront
          | cons d front =>
            obtain ⟨rfl, rfl⟩ := List.cons_eq_cons.1 htext
            obtain ⟨rfl, rfl⟩ := List.cons_eq_cons.1 hfront
            exact ⟨rfl, front, rest, rfl, rfl, by simpa using h⟩
      · refine ⟨fun h => absurd h (lowercaseFrom_ne_of_not_ascii hc before text hword after), ?_⟩
        rintro ⟨front, rest, htext, hfront, -⟩
        cases front with
        | nil => cases hfront
        | cons d front =>
          obtain ⟨rfl, -⟩ := List.cons_eq_cons.1 htext
          obtain ⟨rfl, -⟩ := List.cons_eq_cons.1 hfront
          rw [toLower_of_not_ascii (Nat.not_lt.1 hc)] at hx
          exact absurd hx hc

theorem lowercaseFrom_eq_nil_iff {before text : List Char} :
    lowercaseFrom before text = [] ↔ text = [] := by
  cases text with
  | nil => simp [lowercaseFrom]
  | cons c rest =>
    refine ⟨fun h => ?_, fun h => absurd h (List.cons_ne_nil c rest)⟩
    by_cases hsigma : c = 'Σ'
    · subst hsigma
      rw [lowercaseFrom] at h
      cases h
    · rw [lowercaseFrom] at h
      · exact absurd (List.append_eq_nil_iff.1 h).1 (lowercaseChar_ne_nil c)
      · exact hsigma

theorem lowercase_eq_iff {word : String} (hword : IsPlain word.toList) {text : String} :
    lowercase text = word ↔ text.toLower = word := by
  rw [← String.toList_inj, lowercase, String.toList_ofList, ← List.append_nil word.toList,
    lowercaseFrom_eq_append_iff hword, ← String.toList_inj, toLower_eq_map, String.toList_map]
  simp only [lowercaseFrom_eq_nil_iff]
  constructor
  · rintro ⟨front, rest, htext, hfront, rfl⟩
    rw [htext, List.append_nil, hfront]
  · exact fun h => ⟨text.toList, [], (List.append_nil _).symm, h, rfl⟩

theorem isPrefixOf_lowercase_iff {word : List Char} (hword : IsPlain word) {text : String} :
    word.isPrefixOf (lowercase text).toList ↔
      (text.toList.take word.length).map Char.toLower = word := by
  rw [List.isPrefixOf_iff_prefix, lowercase, String.toList_ofList]
  constructor
  · rintro ⟨after, h⟩
    obtain ⟨front, rest, htext, rfl, -⟩ := (lowercaseFrom_eq_append_iff hword).1 h.symm
    rw [htext, List.length_map, List.take_left]
  · intro h
    have hsplit := (List.take_append_drop word.length text.toList).symm
    exact ⟨_, ((lowercaseFrom_eq_append_iff hword).2 ⟨_, _, hsplit, h, rfl⟩).symm⟩

end ZeroShot.Text
