import ZeroShot.Proofs.Number.Rounding

/-! Sums, differences and quotients of rounded numbers.

Each of them is the exact one, rounded, and rounding keeps the order. So a sum of numbers that are
not negative is at least either of them, and a quotient by a common divisor grows with its
dividend. -/

namespace ZeroShot

open Float.Model Float.Model.UnpackedFloat

theorem level_finite_negative {m : Nat} {e : Int} {hm : 0 < m} :
    level (.finite .negative m e hm) = -(units m e : Int) := rfl

theorem sign_of_level_nonneg {sign : Sign} {m : Nat} {e : Int} {hm : 0 < m}
    (h : 0 ≤ level (.finite sign m e hm)) : sign = .positive := by
  cases sign with
  | positive => rfl
  | negative =>
    have hpos := units_pos hm e
    rw [level_finite_negative] at h
    omega

theorem sign_of_level_infinity_nonneg {sign : Sign} (h : 0 ≤ level (.infinity sign)) :
    sign = .positive := by
  cases sign with
  | positive => rfl
  | negative =>
    have htop := infiniteUnits_pos
    simp only [level, Sign.apply] at h
    omega

theorem eq_infinity_of_not_isFinite {x : UnpackedFloat} (h : Canonical x)
    (hfinite : ¬ x.isFinite = true) : ∃ sign, x = .infinity sign := by
  cases x with
  | notANumber => exact h.elim
  | infinity sign => exact ⟨sign, rfl⟩
  | zero sign => exact absurd rfl hfinite
  | finite sign m e hm => exact absurd rfl hfinite

theorem apply_neg (sign : Sign) (n : Int) : (-sign).apply n = -sign.apply n := by
  cases sign
  · exact (Int.neg_neg n).symm
  · rfl

/-- The number that a signed value is rounded to. One of the two parts is zero. -/
def roundedLevel (z : ℤ) : ℤ := (rounded z : ℤ) - rounded (-z)

theorem roundedLevel_mono : Monotone roundedLevel := by
  intro z z' h
  have hcast : (z : ℚ) ≤ z' := Int.cast_le.2 h
  have hpos := rounded_mono hcast
  have hneg := rounded_mono (neg_le_neg hcast)
  unfold roundedLevel
  omega

theorem roundedLevel_natCast (n : ℕ) : roundedLevel n = rounded n := by
  have hneg : rounded (-(n : ℚ)) = 0 := rounded_of_nonpos (by simp)
  simp [roundedLevel, hneg]

theorem roundedLevel_zero : roundedLevel 0 = 0 := by simp [roundedLevel]

theorem roundedLevel_neg (z : ℤ) : roundedLevel (-z) = -roundedLevel z := by
  unfold roundedLevel
  rw [Int.cast_neg, neg_neg]
  ring

theorem roundedLevel_apply (sign : Sign) (n : ℕ) :
    roundedLevel (sign.apply n) = sign.apply (rounded n) := by
  cases sign with
  | negative => exact (roundedLevel_neg n).trans (congrArg _ (roundedLevel_natCast n))
  | positive => exact roundedLevel_natCast n

theorem roundedLevel_level {x : UnpackedFloat} (h : Canonical x) (hfinite : x.isFinite = true) :
    roundedLevel (level x) = level x := by
  cases x with
  | notANumber => cases hfinite
  | infinity sign => cases hfinite
  | zero sign => exact roundedLevel_zero
  | finite sign m e hm => rw [level, roundedLevel_apply, rounded_units h.1]

theorem normalize_of_pos {mantissa : Int} (h : 0 < mantissa) (e : Int) (sign : Sign) :
    UnpackedFloat.normalize .binary64 mantissa e sign =
      UnpackedFloat.round .binary64 .positive mantissa.toNat e := by
  rw [UnpackedFloat.normalize, Int.compare_eq_gt.2 h]

theorem normalize_of_neg {mantissa : Int} (h : mantissa < 0) (e : Int) (sign : Sign) :
    UnpackedFloat.normalize .binary64 mantissa e sign =
      UnpackedFloat.round .binary64 .negative (-mantissa).toNat e := by
  rw [UnpackedFloat.normalize, Int.compare_eq_lt.2 h]

theorem level_normalize (mantissa : ℤ) {e : ℤ} (he : -1074 ≤ e) (sign : Sign) :
    Rounded (UnpackedFloat.normalize .binary64 mantissa e sign) ∧
      level (UnpackedFloat.normalize .binary64 mantissa e sign) =
        roundedLevel (mantissa * 2 ^ (e + 1074).toNat) := by
  rcases lt_trichotomy mantissa 0 with hneg | rfl | hpos
  · obtain ⟨hrounded, hlevel⟩ := level_round .negative (by omega : 0 < (-mantissa).toNat) he
    rw [normalize_of_neg hneg, hlevel, ← roundedLevel_apply]
    refine ⟨hrounded, congrArg roundedLevel ?_⟩
    rw [units, Sign.apply]
    push_cast
    rw [Int.toNat_of_nonneg (by omega), Int.neg_mul, Int.neg_neg]
  · refine ⟨trivial, ?_⟩
    rw [Int.zero_mul, roundedLevel_zero]
    rfl
  · obtain ⟨hrounded, hlevel⟩ := level_round .positive (by omega : 0 < mantissa.toNat) he
    rw [normalize_of_pos hpos, hlevel, ← roundedLevel_apply]
    refine ⟨hrounded, congrArg roundedLevel ?_⟩
    rw [units, Sign.apply]
    push_cast
    rw [Int.toNat_of_nonneg (by omega)]

theorem apply_units_shiftLeft (sign : Sign) (m : Nat) {e : Int} (e' : Int) (he : e' ≤ e)
    (hlow : -1074 ≤ e') :
    sign.apply ((m <<< (e - e').toNat : Nat) : Int) * 2 ^ (e' + 1074).toNat =
      sign.apply (units m e) := by
  rw [← units_decreaseExponent m e' he hlow, units]
  cases sign
  · push_cast [Sign.apply]
    exact Int.neg_mul _ _
  · push_cast [Sign.apply]
    rfl

theorem add_finite_finite (s s' : Sign) {m m' : Nat} {e e' : Int} (hm : 0 < m) (hm' : 0 < m')
    (h : Fits m e) (h' : Fits m' e') :
    ∃ mantissa : Int, UnpackedFloat.add .binary64 (.finite s m e hm) (.finite s' m' e' hm') =
        UnpackedFloat.normalize .binary64 mantissa (min e e') .positive ∧
      mantissa * 2 ^ (min e e' + 1074).toNat = s.apply (units m e) + s'.apply (units m' e') := by
  have hle := h.le
  have hle' := h'.le
  refine ⟨_, rfl, ?_⟩
  rw [Int.add_mul, ← apply_units_shiftLeft s m (min e e') (by omega) (by omega),
    ← apply_units_shiftLeft s' m' (min e e') (by omega) (by omega)]

theorem sub_finite_finite (s s' : Sign) {m m' : Nat} {e e' : Int} (hm : 0 < m) (hm' : 0 < m')
    (h : Fits m e) (h' : Fits m' e') :
    ∃ mantissa : Int, UnpackedFloat.sub .binary64 (.finite s m e hm) (.finite s' m' e' hm') =
        UnpackedFloat.normalize .binary64 mantissa (min e e') .positive ∧
      mantissa * 2 ^ (min e e' + 1074).toNat = s.apply (units m e) - s'.apply (units m' e') := by
  have hle := h.le
  have hle' := h'.le
  refine ⟨_, rfl, ?_⟩
  rw [Int.sub_mul, ← apply_units_shiftLeft s m (min e e') (by omega) (by omega),
    ← apply_units_shiftLeft s' m' (min e e') (by omega) (by omega)]

theorem level_add {x y : UnpackedFloat} (hx : Canonical x) (hy : Canonical y)
    (hxfinite : x.isFinite = true) (hyfinite : y.isFinite = true) :
    Rounded (UnpackedFloat.add .binary64 x y) ∧
      level (UnpackedFloat.add .binary64 x y) = roundedLevel (level x + level y) := by
  cases x with
  | notANumber => cases hxfinite
  | infinity s => cases hxfinite
  | zero s =>
    cases y with
    | notANumber => cases hyfinite
    | infinity s' => cases hyfinite
    | zero s' => cases s <;> cases s' <;> exact ⟨trivial, roundedLevel_zero.symm⟩
    | finite s' m' e' hm' =>
      refine ⟨hy.rounded, ?_⟩
      show level (.finite s' m' e' hm') = roundedLevel (0 + level (.finite s' m' e' hm'))
      rw [Int.zero_add, roundedLevel_level hy rfl]
  | finite s m e hm =>
    cases y with
    | notANumber => cases hyfinite
    | infinity s' => cases hyfinite
    | zero s' =>
      refine ⟨hx.rounded, ?_⟩
      show level (.finite s m e hm) = roundedLevel (level (.finite s m e hm) + 0)
      rw [Int.add_zero, roundedLevel_level hx rfl]
    | finite s' m' e' hm' =>
      obtain ⟨mantissa, hadd, hlevel⟩ := add_finite_finite s s' hm hm' hx.1 hy.1
      rw [hadd, level, level, ← hlevel]
      exact level_normalize mantissa (le_min hx.1.le hy.1.le) .positive

theorem level_sub {x y : UnpackedFloat} (hx : Canonical x) (hy : Canonical y)
    (hxfinite : x.isFinite = true) (hyfinite : y.isFinite = true) :
    Rounded (UnpackedFloat.sub .binary64 x y) ∧
      level (UnpackedFloat.sub .binary64 x y) = roundedLevel (level x - level y) := by
  cases x with
  | notANumber => cases hxfinite
  | infinity s => cases hxfinite
  | zero s =>
    cases y with
    | notANumber => cases hyfinite
    | infinity s' => cases hyfinite
    | zero s' => cases s <;> cases s' <;> exact ⟨trivial, roundedLevel_zero.symm⟩
    | finite s' m' e' hm' =>
      refine ⟨hy.rounded, ?_⟩
      show (-s').apply (units m' e') = roundedLevel (0 - level (.finite s' m' e' hm'))
      rw [Int.zero_sub, roundedLevel_neg, roundedLevel_level hy rfl, apply_neg, level]
  | finite s m e hm =>
    cases y with
    | notANumber => cases hyfinite
    | infinity s' => cases hyfinite
    | zero s' =>
      refine ⟨hx.rounded, ?_⟩
      show level (.finite s m e hm) = roundedLevel (level (.finite s m e hm) - 0)
      rw [Int.sub_zero, roundedLevel_level hx rfl]
    | finite s' m' e' hm' =>
      obtain ⟨mantissa, hsub, hlevel⟩ := sub_finite_finite s s' hm hm' hx.1 hy.1
      rw [hsub, level, level, ← hlevel]
      exact level_normalize mantissa (le_min hx.1.le hy.1.le) .positive

theorem add_infinity {x : UnpackedFloat} (h : Canonical x) (hlevel : 0 ≤ level x) :
    UnpackedFloat.add .binary64 (.infinity .positive) x = .infinity .positive ∧
      UnpackedFloat.add .binary64 x (.infinity .positive) = .infinity .positive := by
  cases x with
  | notANumber => exact h.elim
  | infinity s =>
    obtain rfl := sign_of_level_infinity_nonneg hlevel
    exact ⟨rfl, rfl⟩
  | zero s => exact ⟨rfl, rfl⟩
  | finite s m e hm => exact ⟨rfl, rfl⟩

theorem le_level_add {x y : UnpackedFloat} (hx : Canonical x) (hy : Canonical y)
    (hxlevel : 0 ≤ level x) (hylevel : 0 ≤ level y) :
    Rounded (UnpackedFloat.add .binary64 x y) ∧
      level x ≤ level (UnpackedFloat.add .binary64 x y) ∧
      level y ≤ level (UnpackedFloat.add .binary64 x y) := by
  by_cases hxfinite : x.isFinite = true
  · by_cases hyfinite : y.isFinite = true
    · obtain ⟨hrounded, hlevel⟩ := level_add hx hy hxfinite hyfinite
      have hxle := roundedLevel_mono (show level x ≤ level x + level y by omega)
      have hyle := roundedLevel_mono (show level y ≤ level x + level y by omega)
      rw [roundedLevel_level hx hxfinite, ← hlevel] at hxle
      rw [roundedLevel_level hy hyfinite, ← hlevel] at hyle
      exact ⟨hrounded, hxle, hyle⟩
    · obtain ⟨s', rfl⟩ := eq_infinity_of_not_isFinite hy hyfinite
      obtain rfl := sign_of_level_infinity_nonneg hylevel
      rw [(add_infinity hx hxlevel).2]
      exact ⟨trivial, hx.level_le, le_rfl⟩
  · obtain ⟨s, rfl⟩ := eq_infinity_of_not_isFinite hx hxfinite
    obtain rfl := sign_of_level_infinity_nonneg hxlevel
    rw [(add_infinity hy hylevel).1]
    exact ⟨trivial, le_rfl, hy.level_le⟩

theorem sub_finite_self {x : UnpackedFloat} (hfinite : x.isFinite = true) :
    UnpackedFloat.sub .binary64 x x = .zero .positive := by
  cases x with
  | notANumber => cases hfinite
  | infinity s => cases hfinite
  | zero s => cases s <;> rfl
  | finite s m e hm =>
    unfold UnpackedFloat.sub
    simp only [Int.sub_self]
    rfl

theorem infinity_sub (sign : Sign) {x : UnpackedFloat} (h : x.isFinite = true) :
    UnpackedFloat.sub .binary64 (.infinity sign) x = .infinity sign := by
  cases x with
  | notANumber => cases h
  | infinity s => cases h
  | zero s => rfl
  | finite s m e hm => rfl

def unitLevel : Nat := units (2 ^ 52) (-52)

theorem fits_unitLevel : Fits (2 ^ 52) (-52) := ⟨by decide, by decide, .inl le_rfl⟩

theorem cast_unitLevel : (unitLevel : ℚ) = 2 ^ 1074 := by
  rw [unitLevel, cast_units _ (by decide), show (-52 + 1074 : ℤ) = (1022 : ℕ) by decide,
    zpow_natCast, Nat.cast_pow, Nat.cast_ofNat, ← pow_add]

/-- Where the digits of a quotient end before it is rounded. -/
def quotientPlace (m : Nat) (e : Int) (m' : Nat) (e' : Int) : Int :=
  min (e - e') (max ((m.log2 + e) - (m'.log2 + e') - 53) (-1074))

def numerator (m : Nat) (e : Int) (m' : Nat) (e' : Int) : Nat :=
  m * 2 ^ (e - e' - quotientPlace m e m' e').toNat

theorem divCore_binary64 (m : Nat) (e : Int) (m' : Nat) (e' : Int) :
    divCore .binary64 m e m' e' = (numerator m e m' e' / m', quotientPlace m e m' e',
      accuracyOfFraction (numerator m e m' e' % m') m') := by
  have hplace : min (e - e') (Format.binary64.targetExponent
      (totalExponent m e - totalExponent m' e')) = quotientPlace m e m' e' := by
    rw [targetExponent_binary64, quotientPlace, totalExponent, totalExponent]
    omega
  unfold divCore
  simp only [hplace, Nat.shiftLeft_eq]
  rfl

theorem quotientPlace_le_lastPlace {m m' : Nat} (hm : 0 < m) (hm' : 0 < m') (e e' : Int) :
    quotientPlace m e m' e' ≤
      lastPlace (numerator m e m' e' / m') (quotientPlace m e m' e') := by
  rcases le_or_gt (quotientPlace m e m' e') (-1074) with hlow | hhigh
  · exact hlow.trans (le_lastPlace _ _)
  · obtain ⟨n, hn⟩ : ∃ n, n = (e - e' - quotientPlace m e m' e').toNat := ⟨_, rfl⟩
    have hdigits : m'.log2 + 53 ≤ m.log2 + n := by
      unfold quotientPlace at hhigh hn
      omega
    have hlarge : 2 ^ 52 ≤ numerator m e m' e' / m' := by
      rw [Nat.le_div_iff_mul_le hm', numerator, ← hn]
      calc 2 ^ 52 * m' ≤ 2 ^ 52 * 2 ^ (m'.log2 + 1) :=
            Nat.mul_le_mul_left _ Nat.lt_log2_self.le
        _ = 2 ^ (m'.log2 + 53) := by rw [← pow_add, Nat.add_comm 52, Nat.add_assoc]
        _ ≤ 2 ^ (m.log2 + n) := Nat.pow_le_pow_right (by decide) hdigits
        _ = 2 ^ m.log2 * 2 ^ n := pow_add 2 _ _
        _ ≤ m * 2 ^ n := Nat.mul_le_mul_right _ (Nat.log2_self_le (by omega))
    have hlog := (Nat.le_log2 (by omega)).2 hlarge
    unfold lastPlace
    omega

theorem div_positive {m m' : Nat} (e e' : Int) (hm : 0 < m) (hm' : 0 < m') :
    UnpackedFloat.div .binary64 (.finite .positive m e hm) (.finite .positive m' e' hm') =
      roundWithAccuracy .binary64 .positive (numerator m e m' e' / m') (quotientPlace m e m' e')
        (accuracyOfFraction (numerator m e m' e' % m') m') := by
  show (match divCore .binary64 m e m' e' with
    | (m, e, acc) => roundWithAccuracy .binary64 (Sign.positive / Sign.positive) m e acc) = _
  rw [divCore_binary64]
  rfl

theorem numerator_scaled (m : ℕ) (e : ℤ) {m' : ℕ} (e' : ℤ) :
    (numerator m e m' e' / m' : ℚ) * 2 ^ (quotientPlace m e m' e' + 1074) =
      m * 2 ^ (e + 1074) / (m' * 2 ^ (e' + 1074)) * 2 ^ 1074 := by
  have hplace : quotientPlace m e m' e' ≤ e - e' := min_le_left _ _
  have hshift : (numerator m e m' e' : ℚ) = m * 2 ^ (e - e' - quotientPlace m e m' e') := by
    rw [numerator]
    push_cast
    rw [← zpow_natCast, Int.toNat_of_nonneg (by omega)]
  have hpower : (2 : ℚ) ^ (e - e' - quotientPlace m e m' e') *
      2 ^ (quotientPlace m e m' e' + 1074) = 2 ^ (e + 1074) / 2 ^ (e' + 1074) * 2 ^ (1074 : ℤ) := by
    rw [← zpow_add₀ two_ne_zero, ← zpow_sub₀ two_ne_zero, ← zpow_add₀ two_ne_zero]
    congr 1
    omega
  calc (numerator m e m' e' / m' : ℚ) * 2 ^ (quotientPlace m e m' e' + 1074)
      = m / m' * (2 ^ (e - e' - quotientPlace m e m' e') *
          2 ^ (quotientPlace m e m' e' + 1074)) := by rw [hshift]; ring
    _ = m / m' * (2 ^ (e + 1074) / 2 ^ (e' + 1074)) * 2 ^ (1074 : ℤ) := by rw [hpower, mul_assoc]
    _ = m * 2 ^ (e + 1074) / (m' * 2 ^ (e' + 1074)) * 2 ^ 1074 := by
      rw [div_mul_div_comm]
      norm_cast

theorem level_div {x y : UnpackedFloat} (hx : Canonical x) (hy : Canonical y)
    (hxfinite : x.isFinite = true) (hyfinite : y.isFinite = true) (hxlevel : 0 ≤ level x)
    (hylevel : 0 < level y) :
    Rounded (UnpackedFloat.div .binary64 x y) ∧
      level (UnpackedFloat.div .binary64 x y) = rounded (level x / level y * 2 ^ 1074) := by
  cases y with
  | notANumber => cases hyfinite
  | infinity s' => cases hyfinite
  | zero s' => cases hylevel
  | finite s' m' e' hm' =>
    obtain rfl := sign_of_level_nonneg hylevel.le
    cases x with
    | notANumber => cases hxfinite
    | infinity s => cases hxfinite
    | zero s =>
      have hzero : level (.zero s) = 0 := rfl
      refine ⟨trivial, ?_⟩
      rw [hzero, Int.cast_zero, zero_div, zero_mul, rounded_of_nonpos le_rfl]
      rfl
    | finite s m e hm =>
      obtain rfl := sign_of_level_nonneg hxlevel
      have hplace := quotientPlace_le_lastPlace hm hm' e e'
      rw [div_positive e e' hm hm']
      obtain ⟨hrounded, hlevel⟩ := level_roundWithAccuracy .positive _ hm' hplace
      refine ⟨hrounded, ?_⟩
      rw [hlevel, numerator_scaled, ← cast_units m hx.1.le, ← cast_units m' hy.1.le]
      rfl

theorem level_finite_div_infinity {x : UnpackedFloat} (h : x.isFinite = true) (sign : Sign) :
    Rounded (UnpackedFloat.div .binary64 x (.infinity sign)) ∧
      level (UnpackedFloat.div .binary64 x (.infinity sign)) = 0 := by
  cases x with
  | notANumber => cases h
  | infinity s => cases h
  | zero s => exact ⟨trivial, rfl⟩
  | finite s m e hm => exact ⟨trivial, rfl⟩

theorem level_div_mono {x y z : UnpackedFloat} (hx : Canonical x) (hy : Canonical y)
    (hz : Canonical z) (hxfinite : x.isFinite = true) (hyfinite : y.isFinite = true)
    (hxlevel : 0 ≤ level x) (hle : level x ≤ level y) (hzlevel : 0 < level z) :
    Rounded (UnpackedFloat.div .binary64 x z) ∧ Rounded (UnpackedFloat.div .binary64 y z) ∧
      level (UnpackedFloat.div .binary64 x z) ≤ level (UnpackedFloat.div .binary64 y z) := by
  by_cases hzfinite : z.isFinite = true
  · obtain ⟨hxrounded, hxquotient⟩ := level_div hx hz hxfinite hzfinite hxlevel hzlevel
    obtain ⟨hyrounded, hyquotient⟩ :=
      level_div hy hz hyfinite hzfinite (hxlevel.trans hle) hzlevel
    refine ⟨hxrounded, hyrounded, ?_⟩
    rw [hxquotient, hyquotient]
    have hdivisor : (0 : ℚ) < level z := Int.cast_pos.2 hzlevel
    have hcast : (level x : ℚ) ≤ level y := Int.cast_le.2 hle
    exact Int.ofNat_le.2 (rounded_mono (by gcongr))
  · obtain ⟨s, rfl⟩ := eq_infinity_of_not_isFinite hz hzfinite
    obtain ⟨hxrounded, hxzero⟩ := level_finite_div_infinity hxfinite s
    obtain ⟨hyrounded, hyzero⟩ := level_finite_div_infinity hyfinite s
    exact ⟨hxrounded, hyrounded, (hxzero.trans hyzero.symm).le⟩

/-- A number that is not negative, divided by one that is as great and at least one, is at most
one. An infinite divisor is allowed. -/
theorem level_div_between {x y : UnpackedFloat} (hx : Canonical x) (hy : Canonical y)
    (hxlevel : 0 ≤ level x) (hle : level x ≤ level y) (hylevel : 0 < level y)
    (hfinite : x.isFinite = true) :
    Rounded (UnpackedFloat.div .binary64 x y) ∧
      0 ≤ level (UnpackedFloat.div .binary64 x y) ∧
      level (UnpackedFloat.div .binary64 x y) ≤ unitLevel := by
  by_cases hyfinite : y.isFinite = true
  · obtain ⟨hrounded, hquotient⟩ := level_div hx hy hfinite hyfinite hxlevel hylevel
    rw [hquotient]
    refine ⟨hrounded, Int.natCast_nonneg _, Int.ofNat_le.2 ?_⟩
    rw [unitLevel, ← rounded_units fits_unitLevel, ← unitLevel, cast_unitLevel]
    have hdivisor : (0 : ℚ) < level y := Int.cast_pos.2 hylevel
    have hquotient : (level x / level y : ℚ) ≤ 1 :=
      (div_le_one hdivisor).2 (Int.cast_le.2 hle)
    exact rounded_mono (mul_le_of_le_one_left (by positivity) hquotient)
  · obtain ⟨s, rfl⟩ := eq_infinity_of_not_isFinite hy hyfinite
    obtain ⟨hrounded, hzero⟩ := level_finite_div_infinity hfinite s
    rw [hzero]
    exact ⟨hrounded, le_rfl, Int.natCast_nonneg _⟩

end ZeroShot
