import ZeroShot.Text.Lowercase

/-! Words of ASCII letters in the midst of blanks.

Trimming takes the blanks away and nothing else. The lower case of all of Unicode is for such a word
that of ASCII, letter by letter, as no ASCII letter has an image of its own there. -/

namespace ZeroShot.Text

theorem dropWhile_isBlank {before word : List Char} (hbefore : ∀ c ∈ before, isBlank c)
    (hword : ∀ c ∈ word, ¬ isBlank c) (hne : word ≠ []) (after : List Char) :
    (before ++ (word ++ after)).dropWhile isBlank = word ++ after := by
  rw [List.dropWhile_append_of_pos hbefore]
  cases word with
  | nil => exact absurd rfl hne
  | cons c word => exact List.dropWhile_cons_of_neg (hword c List.mem_cons_self)

theorem trimBlanks_padded {before word after : List Char} (hbefore : ∀ c ∈ before, isBlank c)
    (hword : ∀ c ∈ word, ¬ isBlank c) (hne : word ≠ []) (hafter : ∀ c ∈ after, isBlank c) :
    trimBlanks (before ++ (word ++ after)) = word := by
  have hback : (after.reverse ++ (word.reverse ++ [])).dropWhile isBlank = word.reverse ++ [] :=
    dropWhile_isBlank (by simpa using hafter) (by simpa using hword) (by simpa using hne) []
  rw [List.append_nil] at hback
  rw [trimBlanks, dropWhile_isBlank hbefore hword hne, List.reverse_append, hback,
    List.reverse_reverse]

theorem exists_padded_trimBlanks (text : List Char) : ∃ before after,
    text = before ++ (trimBlanks text ++ after) ∧ (∀ c ∈ before, isBlank c) ∧
      ∀ c ∈ after, isBlank c := by
  let front := text.dropWhile isBlank
  refine ⟨text.takeWhile isBlank, (front.reverse.takeWhile isBlank).reverse, ?_, ?_, ?_⟩
  · have hback : trimBlanks text ++ (front.reverse.takeWhile isBlank).reverse = front := by
      rw [trimBlanks, ← List.reverse_append, List.takeWhile_append_dropWhile, List.reverse_reverse]
    rw [hback, List.takeWhile_append_dropWhile]
  · exact List.all_eq_true.1 List.all_takeWhile
  · intro c hc
    exact List.all_eq_true.1 List.all_takeWhile c (List.mem_reverse.1 hc)

theorem toLower_eq_map (text : String) : text.toLower = text.map Char.toLower := rfl

theorem toNat_lt_of_toLower {c : Char} (h : c.toLower.toNat < 128) : c.toNat < 128 := by
  unfold Char.toLower at h
  split at h
  · next hupper =>
    have : c.toNat ≤ 'Z'.toNat := hupper.2
    have : 'Z'.toNat = 90 := rfl
    omega
  · exact h

theorem forall_ascii {P : Char → Prop} (h : ∀ code < 128, P (Char.ofNat code)) {c : Char}
    (hc : c.toNat < 128) : P c := by
  have hcode := h c.toNat hc
  rwa [Char.ofNat_toNat] at hcode

theorem lowercaseChar_of_ascii {c : Char} (hc : c.toNat < 128) : lowercaseChar c = [c.toLower] :=
  forall_ascii (P := fun c => lowercaseChar c = [c.toLower]) (by decide +kernel) hc

theorem isBlank_toLower_of_ascii {c : Char} (hc : c.toNat < 128) :
    isBlank c.toLower = isBlank c :=
  forall_ascii (P := fun c => isBlank c.toLower = isBlank c) (by decide +kernel) hc

theorem not_isBlank_of_isDigit {c : Char} (h : c.isDigit) : ¬ isBlank c := by
  have hc : c.toNat < 128 := by
    simp only [Char.isDigit, ge_iff_le, Bool.and_eq_true, decide_eq_true_eq] at h
    have : c.toNat ≤ '9'.toNat := h.2
    have : '9'.toNat = 57 := rfl
    omega
  exact forall_ascii (P := fun c => c.isDigit → ¬ isBlank c) (by decide +kernel) hc h

theorem lowercaseFrom_of_ascii {text : List Char} (h : ∀ c ∈ text, c.toNat < 128)
    (before : List Char) : lowercaseFrom before text = text.map Char.toLower := by
  induction text generalizing before with
  | nil => rfl
  | cons c text ih =>
    obtain ⟨hc, htext⟩ := List.forall_mem_cons.1 h
    have hsigma : c ≠ 'Σ' := by
      rintro rfl
      exact absurd hc (by decide)
    rw [lowercaseFrom, lowercaseChar_of_ascii hc, ih htext]
    · rfl
    · exact hsigma

theorem lowercase_of_ascii {text : String} (h : ∀ c ∈ text.toList, c.toNat < 128) :
    lowercase text = text.toLower := by
  rw [lowercase, lowercaseFrom_of_ascii h, ← String.toList_inj]
  simp [toLower_eq_map]

theorem lowercase_trim_padded {before word after lower : String}
    (hbefore : ∀ c ∈ before.toList, isBlank c) (hafter : ∀ c ∈ after.toList, isBlank c)
    (hword : word.toLower = lower)
    (hlower : lower.toList.all fun c => c.toNat < 128 && !isBlank c) (hne : lower ≠ "") :
    lowercase (trim (before ++ word ++ after)) = lower := by
  have hletters : ∀ c ∈ word.toList, c.toLower.toNat < 128 ∧ ¬ isBlank c.toLower := by
    intro c hc
    have hmem : c.toLower ∈ lower.toList := by
      rw [← hword]
      simpa [toLower_eq_map] using ⟨c, hc, rfl⟩
    simpa using List.all_eq_true.1 hlower _ hmem
  have hascii : ∀ c ∈ word.toList, c.toNat < 128 := fun c hc => toNat_lt_of_toLower (hletters c hc).1
  have hblank : ∀ c ∈ word.toList, ¬ isBlank c := by
    intro c hc
    rw [← isBlank_toLower_of_ascii (hascii c hc)]
    exact (hletters c hc).2
  have hnil : word.toList ≠ [] := by
    intro hnil
    apply hne
    rw [← hword, ← String.toList_inj]
    simp [toLower_eq_map, hnil]
  have htrim : trim (before ++ word ++ after) = word := by
    rw [trim, String.append_assoc, String.toList_append, String.toList_append,
      trimBlanks_padded hbefore hblank hnil hafter, String.ofList_toList]
  rw [htrim, lowercase_of_ascii hascii, hword]

end ZeroShot.Text
