import ZeroShot.Proofs.Number.Level

/-! Rounding as a function of the exact value.

The exact value decides which places binary64 has for it, and the mantissa is the whole number
nearest to the value in those places, of two the even one. So a greater value is never rounded to a
lesser number, and a number of binary64 is rounded to itself. Digits are dropped one at a time, and
what is kept of them is enough to find the nearest whole number in the end. -/

namespace ZeroShot

open Float.Model Float.Model.UnpackedFloat

/-- The whole number nearest to `q`, and of two that are as near the even one. -/
def nearest (q : ℚ) : ℕ :=
  if 1 / 2 < q - ⌊q⌋₊ ∨ q - ⌊q⌋₊ = 1 / 2 ∧ ⌊q⌋₊ % 2 = 1 then ⌊q⌋₊ + 1 else ⌊q⌋₊

theorem nearest_natCast (n : ℕ) : nearest n = n := by simp [nearest]

theorem nearest_of_lt {q : ℚ} (h : q - ⌊q⌋₊ < 1 / 2) : nearest q = ⌊q⌋₊ := by
  unfold nearest
  rw [if_neg]
  rintro (hlt | ⟨heq, -⟩) <;> linarith

theorem nearest_of_eq {q : ℚ} (h : q - ⌊q⌋₊ = 1 / 2) : nearest q = ⌊q⌋₊ + ⌊q⌋₊ % 2 := by
  unfold nearest
  rw [h]
  rcases Nat.mod_two_eq_zero_or_one ⌊q⌋₊ with hmod | hmod <;> simp [hmod]

theorem nearest_of_gt {q : ℚ} (h : 1 / 2 < q - ⌊q⌋₊) : nearest q = ⌊q⌋₊ + 1 := if_pos (.inl h)

theorem nearest_mono : Monotone nearest := by
  intro q q' h
  unfold nearest
  rcases (Nat.floor_mono h).lt_or_eq with hlt | heq
  · split <;> split <;> omega
  · rw [heq]
    split
    · next hup =>
      rw [if_pos]
      rcases h.lt_or_eq with hlt | rfl
      · rcases hup with hup | ⟨hup, -⟩ <;> left <;> linarith
      · exact hup
    · split <;> omega

theorem nearest_le {q : ℚ} {n : ℕ} (h : q ≤ n) : nearest q ≤ n :=
  (nearest_mono h).trans_eq (nearest_natCast n)

theorem le_nearest {q : ℚ} {n : ℕ} (h : n ≤ q) : n ≤ nearest q :=
  (nearest_natCast n).symm.trans_le (nearest_mono h)

/-- The mantissa and what is known of the digits after it stand for `q`. -/
structure Represents (em : ExtendedMantissa) (q : ℚ) : Prop where
  mantissa : em.mantissa = ⌊q⌋₊
  round : em.roundBit = true ↔ 1 / 2 ≤ q - ⌊q⌋₊
  sticky : em.stickyBit = true ↔ q - ⌊q⌋₊ ≠ 0 ∧ q - ⌊q⌋₊ ≠ 1 / 2

theorem Represents.roundedMantissa {em : ExtendedMantissa} {q : ℚ} (h : Represents em q) :
    em.roundedMantissa = nearest q := by
  obtain ⟨m, round, sticky⟩ := em
  obtain ⟨rfl, hround, hsticky⟩ := h
  cases round with
  | false =>
    rw [nearest_of_lt (by simpa using hround)]
    cases sticky <;> rfl
  | true =>
    have hhalf : 1 / 2 ≤ q - ⌊q⌋₊ := hround.1 rfl
    cases sticky with
    | false =>
      have heq : q - ⌊q⌋₊ = 1 / 2 := by
        by_contra hne
        exact Bool.false_ne_true (hsticky.2 ⟨by linarith, hne⟩)
      rw [nearest_of_eq heq]
      rfl
    | true =>
      rw [nearest_of_gt (lt_of_le_of_ne hhalf (hsticky.1 rfl).2.symm)]
      rfl

theorem Represents.shiftRightOne {em : ExtendedMantissa} {q : ℚ} (hq : 0 ≤ q)
    (h : Represents em q) : Represents em.shiftRightOne (q / 2) := by
  have hfloor : ⌊q / 2⌋₊ = ⌊q⌋₊ / 2 := Nat.floor_div_natCast q 2
  have hle := Nat.floor_le hq
  have hlt := Nat.lt_floor_add_one q
  have hdigits : (⌊q⌋₊ : ℚ) = 2 * (⌊q⌋₊ / 2 : ℕ) + (⌊q⌋₊ % 2 : ℕ) := by
    exact_mod_cast (Nat.div_add_mod ⌊q⌋₊ 2).symm
  have hrest : q / 2 - (⌊q⌋₊ / 2 : ℕ) = ((⌊q⌋₊ % 2 : ℕ) + (q - ⌊q⌋₊)) / 2 := by linarith
  have hor : (em.roundBit || em.stickyBit) = true ↔ q - ⌊q⌋₊ ≠ 0 := by
    rw [Bool.or_eq_true, h.round, h.sticky]
    constructor
    · rintro (hround | ⟨hne, -⟩)
      · exact ne_of_gt (by linarith)
      · exact hne
    · intro hne
      rcases le_or_gt (1 / 2) (q - ⌊q⌋₊) with hge | hlt
      · exact .inl hge
      · exact .inr ⟨hne, hlt.ne⟩
  refine ⟨?_, ?_, ?_⟩
  · show em.mantissa / 2 = _
    rw [h.mantissa, hfloor]
  · -- the last digit of the mantissa is now the first after the point
    show (em.mantissa % 2 != 0) = true ↔ _
    rw [h.mantissa, hfloor, hrest]
    rcases Nat.mod_two_eq_zero_or_one ⌊q⌋₊ with hmod | hmod <;> rw [hmod]
    · exact iff_of_false (by decide) (not_le.2 (by push_cast; linarith))
    · exact iff_of_true (by decide) (by push_cast; linarith)
  · -- the old rest, halved, is below one half, so it never changes which side the new one is on
    show (em.roundBit || em.stickyBit) = true ↔ _
    rw [hor, hfloor, hrest]
    rcases Nat.mod_two_eq_zero_or_one ⌊q⌋₊ with hmod | hmod <;> rw [hmod] <;> push_cast
    · constructor
      · intro hne
        exact ⟨fun h => hne (by linarith), ne_of_lt (by linarith)⟩
      · rintro ⟨hne, -⟩ h
        exact hne (by linarith)
    · constructor
      · intro hne
        exact ⟨ne_of_gt (by linarith), fun h => hne (by linarith)⟩
      · rintro ⟨-, hne⟩ h
        exact hne (by linarith)

theorem shiftRight_succ (em : ExtendedMantissa) (n : Nat) :
    em >>> (n + 1) = (em >>> n).shiftRightOne := rfl

theorem Represents.shiftRight {em : ExtendedMantissa} {q : ℚ} (hq : 0 ≤ q) (h : Represents em q)
    (n : ℕ) : Represents (em >>> n) (q / 2 ^ n) := by
  induction n with
  | zero =>
    rw [pow_zero, div_one]
    exact h
  | succ n ih =>
    rw [shiftRight_succ, pow_succ, ← div_div]
    exact ih.shiftRightOne (by positivity)

theorem mantissa_ofMantissaAndAccuracy (m : Nat) (accuracy : Accuracy) :
    (ExtendedMantissa.ofMantissaAndAccuracy m accuracy).mantissa = m := by
  unfold ExtendedMantissa.ofMantissaAndAccuracy
  split <;> rfl

theorem bits_fraction (m r : ℕ) {d : ℕ} (hd : 0 < d) :
    ((ExtendedMantissa.ofMantissaAndAccuracy m (accuracyOfFraction r d)).roundBit = true ↔
      d ≤ 2 * r) ∧
    ((ExtendedMantissa.ofMantissaAndAccuracy m (accuracyOfFraction r d)).stickyBit = true ↔
      r ≠ 0 ∧ 2 * r ≠ d) := by
  unfold accuracyOfFraction
  by_cases hzero : r = 0
  · simp [hzero, hd.ne', ExtendedMantissa.ofMantissaAndAccuracy]
  rw [if_neg hzero]
  rcases lt_trichotomy (2 * r) d with h | h | h
  · simp [Nat.compare_eq_lt.2 h, h, h.ne, hzero, ExtendedMantissa.ofMantissaAndAccuracy]
  · simp [h, ExtendedMantissa.ofMantissaAndAccuracy]
  · simp [Nat.compare_eq_gt.2 h, h.le, h.ne', hzero, ExtendedMantissa.ofMantissaAndAccuracy]

theorem represents_fraction (n : ℕ) {d : ℕ} (hd : 0 < d) :
    Represents (.ofMantissaAndAccuracy (n / d) (accuracyOfFraction (n % d) d)) (n / d) := by
  have hfloor : ⌊(n / d : ℚ)⌋₊ = n / d := Nat.floor_div_eq_div n d
  have hdpos : (0 : ℚ) < d := Nat.cast_pos.2 hd
  have hrest : (n / d : ℚ) - ⌊(n / d : ℚ)⌋₊ = (n % d : ℕ) / d := by
    have hdigits : (n : ℚ) = d * (n / d : ℕ) + (n % d : ℕ) := by
      exact_mod_cast (Nat.div_add_mod n d).symm
    rw [hfloor, div_sub' hdpos.ne', eq_comm]
    congr 1
    linarith
  have hhalf : ((n % d : ℕ) / d : ℚ) = 1 / 2 ↔ 2 * (n % d) = d := by
    rw [div_eq_div_iff hdpos.ne' two_ne_zero, mul_comm, one_mul]
    exact_mod_cast Iff.rfl
  refine ⟨?_, ?_, ?_⟩
  · rw [mantissa_ofMantissaAndAccuracy, hfloor]
  · rw [hrest, (bits_fraction _ _ hd).1, div_le_div_iff₀ two_pos hdpos, one_mul, mul_comm]
    exact_mod_cast Iff.rfl
  · rw [hrest, (bits_fraction _ _ hd).2, ne_eq _ (1 / 2 : ℚ), hhalf]
    simp [hdpos.ne']

/-- How many digits before the point binary64 has no place for. Values are counted in multiples of
`2 ^ (-1074)` from here on, so that no place lies below the point. -/
def dropped (q : ℚ) : ℕ := ⌊q⌋₊.log2 - 52

/-- The number of binary64 that `q` is rounded to if nothing overflows. -/
def rounded (q : ℚ) : ℕ := nearest (q / 2 ^ dropped q) * 2 ^ dropped q

theorem log2_floor_div (q : ℚ) (n : ℕ) : ⌊q / 2 ^ n⌋₊.log2 = ⌊q⌋₊.log2 - n := by
  have hfloor : ⌊q / 2 ^ n⌋₊ = ⌊q⌋₊ / 2 ^ n := by
    exact_mod_cast Nat.floor_div_natCast q (2 ^ n)
  rw [hfloor, Nat.log2_eq_log_two, Nat.log2_eq_log_two, Nat.log_div_base_pow]

theorem dropped_mono : Monotone dropped := by
  intro q q' h
  unfold dropped
  rw [Nat.log2_eq_log_two, Nat.log2_eq_log_two]
  exact Nat.sub_le_sub_right (Nat.log_mono_right (Nat.floor_mono h)) 52

theorem nearest_dropped_le (q : ℚ) : nearest (q / 2 ^ dropped q) ≤ 2 ^ 53 := by
  have hlt : q < 2 ^ (53 + dropped q) := by
    calc q < ⌊q⌋₊ + 1 := Nat.lt_floor_add_one q
      _ ≤ 2 ^ (⌊q⌋₊.log2 + 1) := by exact_mod_cast Nat.lt_log2_self
      _ ≤ 2 ^ (53 + dropped q) := pow_le_pow_right₀ one_le_two (by unfold dropped; omega)
  apply nearest_le
  rw [div_le_iff₀ (by positivity), Nat.cast_pow, Nat.cast_ofNat, ← pow_add]
  exact hlt.le

theorem le_nearest_dropped {q : ℚ} (h : 0 < dropped q) : 2 ^ 52 ≤ nearest (q / 2 ^ dropped q) := by
  have hlog : ⌊q⌋₊.log2 = 52 + dropped q := by
    unfold dropped at h ⊢
    omega
  have hfloor : ⌊q⌋₊ ≠ 0 := by
    intro hzero
    rw [hzero, Nat.log2_zero] at hlog
    omega
  have hle : (2 : ℚ) ^ (52 + dropped q) ≤ q := by
    calc (2 : ℚ) ^ (52 + dropped q) ≤ ⌊q⌋₊ := by
          rw [← hlog]
          exact_mod_cast Nat.log2_self_le hfloor
      _ ≤ q := Nat.floor_le (Nat.pos_of_floor_pos (Nat.pos_of_ne_zero hfloor)).le
  apply le_nearest
  rw [le_div_iff₀ (by positivity), Nat.cast_pow, Nat.cast_ofNat, ← pow_add]
  exact hle

theorem rounded_mono : Monotone rounded := by
  intro q q' h
  unfold rounded
  rcases (dropped_mono h).lt_or_eq with hlt | heq
  · calc nearest (q / 2 ^ dropped q) * 2 ^ dropped q
        ≤ 2 ^ 53 * 2 ^ dropped q := Nat.mul_le_mul_right _ (nearest_dropped_le q)
      _ = 2 ^ 52 * 2 ^ (dropped q + 1) := by ring
      _ ≤ nearest (q' / 2 ^ dropped q') * 2 ^ dropped q' :=
        Nat.mul_le_mul (le_nearest_dropped (by omega)) (Nat.pow_le_pow_right (by decide) hlt)
  · rw [heq]
    exact Nat.mul_le_mul_right _ (nearest_mono (by gcongr))

theorem cast_units (m : ℕ) {e : ℤ} (h : -1074 ≤ e) : (units m e : ℚ) = m * 2 ^ (e + 1074) := by
  rw [units]
  push_cast
  rw [← zpow_natCast, Int.toNat_of_nonneg (by omega)]

theorem dropped_units {m : ℕ} {e : ℤ} (h : Fits m e) : dropped (units m e) = (e + 1074).toNat := by
  have hlog := log2_floor_div (units m e) (e + 1074).toNat
  have hshift : (units m e : ℚ) / 2 ^ (e + 1074).toNat = m := by
    rw [units]
    push_cast
    exact mul_div_cancel_right₀ _ (by positivity)
  have hdigits : m.log2 < 53 := by
    rcases Nat.eq_zero_or_pos m with rfl | hpos
    · decide
    · exact (Nat.log2_lt hpos.ne').2 h.lt
  rw [hshift, Nat.floor_natCast] at hlog
  unfold dropped
  rcases h.full with hfull | rfl
  · have hlow := (Nat.le_log2 (by omega)).2 hfull
    omega
  · omega

theorem rounded_of_nonpos {q : ℚ} (h : q ≤ 0) : rounded q = 0 := by
  have hnearest : nearest (q / 2 ^ dropped q) = 0 := by
    apply Nat.le_zero.1
    apply nearest_le
    rw [Nat.cast_zero]
    exact div_nonpos_of_nonpos_of_nonneg h (by positivity)
  rw [rounded, hnearest, Nat.zero_mul]

theorem rounded_units {m : ℕ} {e : ℤ} (h : Fits m e) : rounded (units m e) = units m e := by
  rw [rounded, dropped_units h, units]
  push_cast
  rw [mul_div_cancel_right₀ _ (by positivity), nearest_natCast]

end ZeroShot
