import ZeroShot.Proofs.Number.Nearest

/-! Rounding to binary64.

A mantissa is cut off after the last place that binary64 has for it and rounded there. What comes of
it is the exact value, rounded. -/

namespace ZeroShot

open Float.Model Float.Model.UnpackedFloat

theorem targetExponent_binary64 (first : Int) :
    Format.binary64.targetExponent first = max (first - 53) (-1074) := by
  have hmin : Format.binary64.minExponent = -1074 := by decide
  rw [Format.targetExponent, hmin]
  rfl

/-- The last place of binary64 for a number that starts where `m * 2 ^ e` does: 52 below the first,
but never below the place of `2 ^ (-1074)`. -/
def lastPlace (m : Nat) (e : Int) : Int := max (m.log2 + e - 52) (-1074)

theorem le_lastPlace (m : Nat) (e : Int) : -1074 ≤ lastPlace m e := le_max_right _ _

theorem targetExponent_totalExponent (m : Nat) (e : Int) :
    Format.binary64.targetExponent (totalExponent m e) = lastPlace m e := by
  rw [targetExponent_binary64, totalExponent, lastPlace]
  congr 1
  omega

theorem shiftToTargetExponent_binary64 (m : Nat) (e : Int) (accuracy : Accuracy) :
    shiftToTargetExponent .binary64 m e accuracy =
      (ExtendedMantissa.ofMantissaAndAccuracy m accuracy >>> (lastPlace m e - e).toNat,
        e + (lastPlace m e - e).toNat) := by
  simp only [shiftToTargetExponent, shiftToExponent, targetExponent_totalExponent]

theorem dropped_scaled (q : ℚ) {e : ℤ} (h : e ≤ lastPlace ⌊q⌋₊ e) :
    (dropped (q * 2 ^ (e + 1074)) : ℤ) = lastPlace ⌊q⌋₊ e + 1074 := by
  unfold lastPlace at h ⊢
  unfold dropped
  rcases le_total 0 (e + 1074) with he | he
  · obtain ⟨n, hn⟩ := Int.eq_ofNat_of_zero_le he
    have hlog := log2_floor_div (q * 2 ^ n) n
    rw [mul_div_cancel_right₀ _ (by positivity)] at hlog
    rw [hn, zpow_natCast]
    omega
  · obtain ⟨n, hn⟩ := Int.eq_ofNat_of_zero_le (neg_nonneg.2 he)
    have hlog := log2_floor_div q n
    rw [show e + 1074 = -n by omega, zpow_neg, zpow_natCast, ← div_eq_mul_inv, hlog]
    omega

theorem roundedMantissa_fraction (n : ℕ) {d : ℕ} (hd : 0 < d) {e : ℤ}
    (h : e ≤ lastPlace (n / d) e) :
    (ExtendedMantissa.ofMantissaAndAccuracy (n / d) (accuracyOfFraction (n % d) d) >>>
        (lastPlace (n / d) e - e).toNat).roundedMantissa =
      nearest (n / d * 2 ^ (e + 1074) / 2 ^ dropped (n / d * 2 ^ (e + 1074))) ∧
    (dropped (n / d * 2 ^ (e + 1074)) : ℤ) = lastPlace (n / d) e + 1074 := by
  have hdropped : (dropped (n / d * 2 ^ (e + 1074)) : ℤ) = lastPlace (n / d) e + 1074 := by
    rw [← Nat.floor_div_eq_div (K := ℚ)] at h ⊢
    exact dropped_scaled _ h
  refine ⟨?_, hdropped⟩
  rw [((represents_fraction n hd).shiftRight (by positivity) _).roundedMantissa]
  congr 1
  rw [← zpow_natCast, ← zpow_natCast, Int.toNat_of_nonneg (by omega), hdropped,
    div_eq_div_iff (by positivity) (by positivity), mul_assoc _ (_ ^ _), ← zpow_add₀ two_ne_zero]
  congr 2
  omega

theorem mantissa_shiftRight (em : ExtendedMantissa) (n : Nat) :
    (em >>> n).mantissa = em.mantissa / 2 ^ n := by
  induction n with
  | zero => exact (Nat.div_one _).symm
  | succ n ih =>
    rw [shiftRight_succ, pow_succ, ← Nat.div_div_eq_div_mul, ← ih]
    rfl

/-- Rounding up to `2 ^ 53` makes a mantissa one place longer than it may be, and its last digit
is zero then. -/
theorem shiftToTargetExponent_exact {m : Nat} {e : Int} (hm : m ≤ 2 ^ 53) (he : -1074 ≤ e)
    (hfull : 2 ^ 52 ≤ m ∨ e = -1074) :
    ∃ em e', shiftToTargetExponent .binary64 m e .exact = (em, e') ∧ Fits em.mantissa e' ∧
      units em.mantissa e' = units m e := by
  refine ⟨_, _, shiftToTargetExponent_binary64 m e .exact, ?_⟩
  rw [mantissa_shiftRight, mantissa_ofMantissaAndAccuracy]
  rcases Nat.lt_or_eq_of_le hm with hlt | rfl
  · have hlog : m.log2 ≤ 52 := by
      rcases Nat.eq_zero_or_pos m with rfl | hpos
      · decide
      · exact Nat.le_of_lt_succ ((Nat.log2_lt (by omega)).2 hlt)
    have hplace : (lastPlace m e - e).toNat = 0 := by
      unfold lastPlace
      omega
    rw [hplace, pow_zero, Nat.div_one, Nat.cast_zero, Int.add_zero]
    exact ⟨⟨hlt, he, hfull⟩, rfl⟩
  · have hplace : (lastPlace (2 ^ 53) e - e).toNat = 1 := by
      unfold lastPlace
      rw [Nat.log2_two_pow]
      omega
    rw [hplace]
    refine ⟨⟨by decide, by omega, .inl (by decide)⟩, ?_⟩
    exact units_add (2 ^ 53 / 2 ^ 1) 1 he

/-- A quotient that is cut off somewhere and rounded is the exact quotient rounded. -/
theorem level_roundWithAccuracy (sign : Sign) (n : ℕ) {d : ℕ} (hd : 0 < d) {e : ℤ}
    (h : e ≤ lastPlace (n / d) e) :
    let result := roundWithAccuracy .binary64 sign (n / d) e (accuracyOfFraction (n % d) d)
    Rounded result ∧ level result = sign.apply (rounded (n / d * 2 ^ (e + 1074))) := by
  intro result
  obtain ⟨hmantissa, hdropped⟩ := roundedMantissa_fraction n hd h
  obtain ⟨value, hvalue⟩ : ∃ value : ℚ, value = n / d * 2 ^ (e + 1074) := ⟨_, rfl⟩
  rw [← hvalue] at hmantissa hdropped ⊢
  have hfull : 2 ^ 52 ≤ nearest (value / 2 ^ dropped value) ∨ lastPlace (n / d) e = -1074 := by
    rcases Nat.eq_zero_or_pos (dropped value) with hzero | hpos
    · right
      omega
    · exact .inl (le_nearest_dropped hpos)
  obtain ⟨em, e', hshift, hfits, hunits⟩ := shiftToTargetExponent_exact
    (nearest_dropped_le value) (le_lastPlace (n / d) e) hfull
  have hcut : e + ((lastPlace (n / d) e - e).toNat : ℤ) = lastPlace (n / d) e := by omega
  have hresult : result = if h : em.mantissa = 0 then .zero sign
      else .finite sign em.mantissa e' (Nat.pos_of_ne_zero h) := by
    show roundWithAccuracy .binary64 sign (n / d) e (accuracyOfFraction (n % d) d) = _
    unfold roundWithAccuracy
    rw [shiftToTargetExponent_binary64, hcut]
    simp only [hmantissa, hshift]
  have hrounded : units em.mantissa e' = rounded value := by
    rw [hunits, rounded, units, ← hdropped, Int.toNat_natCast]
  rw [hresult, ← hrounded]
  split
  · next hzero =>
    rw [hzero, units, Nat.zero_mul]
    cases sign <;> exact ⟨trivial, rfl⟩
  · exact ⟨hfits, rfl⟩

theorem units_decreaseExponent (m : Nat) {e : Int} (e' : Int) (he : e' ≤ e) (hlow : -1074 ≤ e') :
    units (m <<< (e - e').toNat) e' = units m e := by
  rw [Nat.shiftLeft_eq, ← units_add m _ hlow]
  congr 1
  omega

theorem log2_shiftLeft {m : Nat} (hm : 0 < m) (n : Nat) : (m <<< n).log2 = m.log2 + n := by
  induction n with
  | zero => rfl
  | succ n ih =>
    have hpos : 0 < m <<< n := by
      rw [Nat.shiftLeft_eq]
      exact Nat.mul_pos hm (Nat.two_pow_pos n)
    rw [Nat.shiftLeft_succ, Nat.log2_two_mul (by omega), ih]
    rfl

theorem lastPlace_shiftLeft {m : Nat} (hm : 0 < m) (e : Int) (n : Nat) :
    lastPlace (m <<< n) (e - n) = lastPlace m e := by
  unfold lastPlace
  rw [log2_shiftLeft hm]
  congr 1
  omega

theorem level_round (sign : Sign) {m : ℕ} (hm : 0 < m) {e : ℤ} (he : -1074 ≤ e) :
    Rounded (UnpackedFloat.round .binary64 sign m e) ∧
      level (UnpackedFloat.round .binary64 sign m e) = sign.apply (rounded (units m e)) := by
  obtain ⟨n, hn⟩ : ∃ n : ℕ, n = (e - lastPlace m e).toNat := ⟨_, rfl⟩
  have hplace : e - n ≤ lastPlace (m <<< n / 1) (e - n) := by
    rw [Nat.div_one, lastPlace_shiftLeft hm]
    omega
  have hround : UnpackedFloat.round .binary64 sign m e = roundWithAccuracy .binary64 sign
      (m <<< n / 1) (e - n) (accuracyOfFraction (m <<< n % 1) 1) := by
    unfold UnpackedFloat.round
    rw [targetExponent_totalExponent, Nat.div_one, Nat.mod_one, hn]
    rfl
  have hvalue : ((m <<< n : ℕ) / (1 : ℕ) : ℚ) * 2 ^ (e - n + 1074) = units m e := by
    rw [cast_units m he, Nat.shiftLeft_eq, Nat.cast_one, div_one]
    push_cast
    rw [mul_assoc, ← zpow_natCast, ← zpow_add₀ two_ne_zero]
    congr 2
    omega
  rw [hround, ← hvalue]
  exact level_roundWithAccuracy sign _ one_pos hplace

end ZeroShot
