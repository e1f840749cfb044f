import ZeroShot.Proofs.Ranking.Sorting

/-! What can be looked up in a ranking.

A lookup takes the first entry that fits. Since candidates are listed by their scores, and equal
ones in their own order, that is the entry which outranks every other one that fits. -/

namespace ZeroShot

theorem find?_eq_some_iff_of_pairwise {α : Type} {R : α → α → Prop} {l : List α}
    (hl : l.Pairwise R) (hasymm : ∀ a b, R a b → ¬ R b a) {p : α → Bool} {a : α} :
    l.find? p = some a ↔ (a ∈ l ∧ p a) ∧ ∀ b ∈ l, p b → b = a ∨ R a b := by
  induction l with
  | nil => simp
  | cons c l ih =>
    obtain ⟨hc, hl⟩ := List.pairwise_cons.1 hl
    by_cases hpc : p c
    · rw [List.find?_cons_of_pos hpc, Option.some.injEq]
      constructor
      · rintro rfl
        refine ⟨⟨List.mem_cons_self, hpc⟩, fun b hb _ => ?_⟩
        rcases List.mem_cons.1 hb with rfl | hb
        · exact .inl rfl
        · exact .inr (hc b hb)
      · rintro ⟨⟨ha, -⟩, hfirst⟩
        rcases List.mem_cons.1 ha with rfl | ha
        · rfl
        · rcases hfirst c List.mem_cons_self hpc with h | h
          · exact h
          · exact absurd h (hasymm c a (hc a ha))
    · have hne {b : α} (hpb : p b) : b ≠ c := fun h => hpc (h ▸ hpb)
      rw [List.find?_cons_of_neg hpc, ih hl]
      constructor
      · rintro ⟨⟨ha, hpa⟩, hfirst⟩
        refine ⟨⟨List.mem_cons_of_mem c ha, hpa⟩, fun b hb hpb => ?_⟩
        exact hfirst b ((List.mem_cons.1 hb).resolve_left (hne hpb)) hpb
      · rintro ⟨⟨ha, hpa⟩, hfirst⟩
        refine ⟨⟨(List.mem_cons.1 ha).resolve_left (hne hpa), hpa⟩, fun b hb => ?_⟩
        exact hfirst b (List.mem_cons_of_mem c hb)

section

variable {n : Nat} {score : Fin n → Binary64}

theorem find?_descending_eq_some_iff {p : Fin n → Bool} {i : Fin n} :
    (descending score).find? p = some i ↔ p i ∧ ∀ j, p j → j = i ∨ Outranks score i j := by
  rw [find?_eq_some_iff_of_pairwise (pairwise_descending score) fun _ _ => Outranks.asymm]
  simp [(descending_perm score).mem_iff]

theorem not_precedes_of_outranks {i j : Fin n} (h : j = i ∨ Outranks score i j) :
    ¬ (score i).Precedes (score j) := by
  rw [Binary64.precedes_iff_rank_lt]
  rcases h with rfl | h
  · exact Int.lt_irrefl _
  · unfold Outranks at h
    omega

theorem outranks_or_eq_iff {i : Fin n} :
    (∀ j, j = i ∨ Outranks score i j) ↔
      (∀ j, ¬ (score i).Precedes (score j)) ∧ ∀ j < i, score j ≠ score i := by
  constructor
  · intro h
    refine ⟨fun j => not_precedes_of_outranks (h j), fun j hj heq => ?_⟩
    rcases h j with rfl | hout
    · exact absurd hj (lt_irrefl j)
    · rw [Outranks, heq] at hout
      omega
  · rintro ⟨hgreatest, hfirst⟩ j
    have hle := hgreatest j
    rw [Binary64.precedes_iff_rank_lt] at hle
    rw [outranks_iff, Binary64.precedes_iff_rank_lt]
    by_cases heq : score j = score i
    · have hij : i ≤ j := not_lt.1 fun hlt => hfirst j hlt heq
      rcases eq_or_lt_of_le hij with rfl | hlt
      · exact .inl rfl
      · exact .inr (.inr ⟨heq.symm, hlt⟩)
    · have hrank := mt (@Binary64.rank_injective (score j) (score i)) heq
      exact .inr (.inl (by omega))

end

namespace Ranking

section

variable {n : Nat} {label : Fin n → String} {score : Fin n → Binary64} {text : String}

theorem pairs_inOrder (order : List (Fin n)) :
    (inOrder text label score order).pairs = order.map fun i => (label i, score i) := by
  rw [pairs, inOrder, List.zip_map']

theorem top?_eq_none_iff {r : Ranking} : r.top? = none ↔ r.pairs = [] := List.head?_eq_none_iff

theorem top?_ofFn_eq_some_iff {l : String} {s : Binary64} :
    (ofScores text (List.ofFn label) (List.ofFn score)).top? = some (l, s) ↔
      ∃ i, label i = l ∧ score i = s ∧
        (∀ j, ¬ (score i).Precedes (score j)) ∧ ∀ j < i, score j ≠ score i := by
  have hhead : (descending score).head? = (descending score).find? fun _ => true := by
    cases descending score <;> rfl
  rw [ofScores_ofFn, top?, pairs_inOrder, List.head?_map, hhead, Option.map_eq_some_iff]
  simp only [find?_descending_eq_some_iff, true_and, forall_const, outranks_or_eq_iff,
    Prod.mk.injEq]
  constructor
  · rintro ⟨i, hi, hlabel, hscore⟩
    exact ⟨i, hlabel, hscore, hi⟩
  · rintro ⟨i, hlabel, hscore, hi⟩
    exact ⟨i, hi, hlabel, hscore⟩

theorem scoreOf?_ofFn (l : String) :
    (ofScores text (List.ofFn label) (List.ofFn score)).scoreOf? l =
      ((descending score).find? fun i => label i = l).map score := by
  rw [ofScores_ofFn, scoreOf?, pairs_inOrder, List.find?_map, Option.map_map]
  rfl

theorem scoreOf?_ofFn_eq_none_iff {l : String} :
    (ofScores text (List.ofFn label) (List.ofFn score)).scoreOf? l = none ↔
      ∀ i, label i ≠ l := by
  rw [scoreOf?_ofFn, Option.map_eq_none_iff, List.find?_eq_none]
  simp [(descending_perm score).mem_iff]

theorem scoreOf?_ofFn_eq_some_iff {l : String} {s : Binary64} :
    (ofScores text (List.ofFn label) (List.ofFn score)).scoreOf? l = some s ↔
      (∃ i, label i = l ∧ score i = s) ∧ ∀ j, label j = l → ¬ s.Precedes (score j) := by
  have hgreatest {i : Fin n}
      (h : (descending score).find? (fun i => decide (label i = l)) = some i) :
      label i = l ∧ ∀ j, label j = l → ¬ (score i).Precedes (score j) := by
    obtain ⟨hlabel, hfirst⟩ := find?_descending_eq_some_iff.1 h
    exact ⟨of_decide_eq_true hlabel,
      fun j hj => not_precedes_of_outranks (hfirst j (decide_eq_true hj))⟩
  rw [scoreOf?_ofFn, Option.map_eq_some_iff]
  constructor
  · rintro ⟨i, hi, rfl⟩
    obtain ⟨hlabel, hmax⟩ := hgreatest hi
    exact ⟨⟨i, hlabel, rfl⟩, hmax⟩
  · rintro ⟨⟨i, hlabel, rfl⟩, hmax⟩
    cases hfind : (descending score).find? fun i => label i = l with
    | none =>
      have hmem : i ∈ descending score := (descending_perm score).mem_iff.2 (List.mem_finRange i)
      exact absurd (decide_eq_true hlabel) (List.find?_eq_none.1 hfind i hmem)
    | some k =>
      -- both are greatest among the scores of that label
      obtain ⟨hk, hkmax⟩ := hgreatest hfind
      have hle := hmax k hk
      have hge := hkmax i hlabel
      rw [Binary64.precedes_iff_rank_lt] at hle hge
      exact ⟨k, rfl, Binary64.rank_injective (by omega)⟩

end

end Ranking

/-- The best candidate of a ranking is the first of those whose score no other one exceeds in the
total order. The score of a label is the greatest one of all candidates of that name. There is
neither where there is no candidate, and no candidate is lost. -/
theorem lookup_by_total_order (text : String) (candidates : List String) (scores : List Binary64)
    (h : candidates.length = scores.length) :
    let r := Ranking.ofScores text candidates scores
    r.size = candidates.length ∧
    (r.top? = none ↔ candidates = []) ∧
    (∀ label score, r.top? = some (label, score) ↔
      ∃ i : Nat, candidates[i]? = some label ∧ scores[i]? = some score ∧
        (∀ s ∈ scores, ¬ score.Precedes s) ∧ ∀ j < i, scores[j]? ≠ some score) ∧
    (∀ label, r.scoreOf? label = none ↔ label ∉ candidates) ∧
    ∀ label score, r.scoreOf? label = some score ↔
      (label, score) ∈ candidates.zip scores ∧
        ∀ s, (label, s) ∈ candidates.zip scores → ¬ score.Precedes s := by
  obtain ⟨n, hn⟩ : ∃ n, scores.length = n := ⟨_, rfl⟩
  obtain ⟨score, rfl⟩ := exists_eq_ofFn hn
  obtain ⟨label, rfl⟩ := exists_eq_ofFn (h.trans hn)
  intro r
  have hzip (l : String) (s : Binary64) :
      (l, s) ∈ (List.ofFn label).zip (List.ofFn score) ↔ ∃ i, label i = l ∧ score i = s := by
    rw [List.ofFn_eq_map, List.ofFn_eq_map, List.zip_map']
    simp
  refine ⟨?_, ?_, ?_, ?_, ?_⟩
  · simp [r, Ranking.size, Ranking.ofScores]
  · rw [Ranking.top?_eq_none_iff, Ranking.pairs_ofScores, ← List.length_eq_zero_iff,
      List.length_mergeSort]
    simp
  · intro l s
    rw [Ranking.top?_ofFn_eq_some_iff]
    constructor
    · rintro ⟨i, rfl, rfl, hgreatest, hfirst⟩
      refine ⟨i, by simp, by simp, by simpa using hgreatest, fun j hj => ?_⟩
      simpa [List.getElem?_ofFn, hj.trans i.isLt] using hfirst ⟨j, hj.trans i.isLt⟩ hj
    · rintro ⟨i, hl, hs, hgreatest, hfirst⟩
      obtain ⟨hi, rfl⟩ := List.getElem?_eq_some_iff.1 hs
      rw [List.length_ofFn] at hi
      refine ⟨⟨i, hi⟩, ?_, by simp, by simpa using hgreatest, fun j hj => ?_⟩
      · simpa [List.getElem?_ofFn, hi] using hl
      · simpa [List.getElem?_ofFn] using hfirst j hj
  · intro l
    rw [Ranking.scoreOf?_ofFn_eq_none_iff]
    simp
  · intro l s
    rw [Ranking.scoreOf?_ofFn_eq_some_iff]
    simp only [hzip]
    constructor
    · rintro ⟨hex, hmax⟩
      refine ⟨hex, ?_⟩
      rintro _ ⟨j, hj, rfl⟩
      exact hmax j hj
    · rintro ⟨hex, hmax⟩
      exact ⟨hex, fun j hj => hmax _ ⟨j, hj, rfl⟩⟩

def tiedScores : List Binary64 := [Binary64.zero.neg, .negativeNaN, .zero, .zero]

theorem lookup_by_total_order_tied :
    ["a", "b", "c", "b"].length = tiedScores.length ∧
      (Ranking.ofScores "text" ["a", "b", "c", "b"] tiedScores).top? = some ("c", .zero) ∧
      (Ranking.ofScores "text" ["a", "b", "c", "b"] tiedScores).scoreOf? "b" = some .zero ∧
      (Ranking.ofScores "text" ["a", "b", "c", "b"] tiedScores).scoreOf? "d" = none := by
  obtain ⟨-, -, htop, hnone, hscore⟩ :=
    lookup_by_total_order "text" ["a", "b", "c", "b"] tiedScores rfl
  simp only [Binary64.precedes_iff_rank_lt] at htop hscore
  have hgreatest : ∀ s, ("b", s) ∈ ["a", "b", "c", "b"].zip tiedScores →
      ¬ Binary64.zero.rank < s.rank := by
    intro s hs
    obtain rfl | rfl : s = .negativeNaN ∨ s = .zero := by simpa [tiedScores] using hs
    · decide
    · decide
  exact ⟨rfl, (htop _ _).2 ⟨2, rfl, rfl, by decide, by decide⟩,
    (hscore _ _).2 ⟨by decide, hgreatest⟩, (hnone _).2 (by decide)⟩

end ZeroShot
