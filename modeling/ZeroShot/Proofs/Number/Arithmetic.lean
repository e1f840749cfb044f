import ZeroShot.Proofs.Number.Binary64
import ZeroShot.Proofs.Number.Operations

/-! What arithmetic does to the order of binary64 numbers.

Results that are too great become infinite, which keeps the order like rounding does. -/

namespace ZeroShot

open Float.Model Float.Model.UnpackedFloat

namespace Binary64

theorem not_rounded_notANumber {x : UnpackedFloat} (h : Rounded x) : x ≠ .notANumber := by
  rintro rfl
  exact h

theorem unpacked_ofFloat_pack {x : UnpackedFloat} (h : Rounded x) :
    (ofFloat (.ofModel (.pack x))).isNaN = false ∧
      (ofFloat (.ofModel (.pack x))).unpacked = saturate x := by
  have hcanonical := canonical_saturate h
  have hfloat : (Float.ofModel (.pack x)).isNaN = false := by
    show (UnpackedFloat.unpack .binary64 (UnpackedFloat.pack .binary64 x)).isNaN = false
    rw [unpack_pack h]
    cases hsaturate : saturate x with
    | notANumber => exact absurd hsaturate (not_rounded_notANumber hcanonical.rounded)
    | _ => rfl
  have hunpacked : (ofFloat (.ofModel (.pack x))).unpacked = saturate x := by
    rw [ofFloat, hfloat]
    exact unpack_pack h
  exact ⟨isNaN_eq_false_of_canonical (hunpacked ▸ hcanonical), hunpacked⟩

theorem level_one : one.level = unitLevel := rfl

theorem level_ofFloat_pack {x : UnpackedFloat} (h : Rounded x) :
    (ofFloat (.ofModel (.pack x))).level =
      Max.max (-(infiniteUnits : Int)) (min (ZeroShot.level x) infiniteUnits) := by
  rw [level, (unpacked_ofFloat_pack h).2, level_saturate h]

theorem level_ofFloat_pack_le {x y : UnpackedFloat} (hx : Rounded x) (hy : Rounded y)
    (h : ZeroShot.level x ≤ ZeroShot.level y) :
    ofFloat (.ofModel (.pack x)) ≤ ofFloat (.ofModel (.pack y)) := by
  rw [le_iff, level_ofFloat_pack hx, level_ofFloat_pack hy]
  exact ⟨(unpacked_ofFloat_pack hx).1, (unpacked_ofFloat_pack hy).1, by omega⟩

theorem binary_eq {op : Float → Float → Float} {op' : UnpackedFloat → UnpackedFloat → UnpackedFloat}
    (hop : ∀ a b : Float, op a b = .ofModel (.pack (op' a.toModel.unpack b.toModel.unpack)))
    {x y : Binary64} (hx : x.isNaN = false) (hy : y.isNaN = false) :
    binary op x y = ofFloat (.ofModel (.pack (op' x.unpacked y.unpacked))) := by
  rw [binary, hx, hy, hop, unpack_toFloat, unpack_toFloat]
  rfl

theorem add_eq {x y : Binary64} (hx : x.isNaN = false) (hy : y.isNaN = false) :
    x.add y = ofFloat (.ofModel (.pack (UnpackedFloat.add .binary64 x.unpacked y.unpacked))) :=
  binary_eq (fun _ _ => rfl) hx hy

theorem sub_eq {x y : Binary64} (hx : x.isNaN = false) (hy : y.isNaN = false) :
    x.sub y = ofFloat (.ofModel (.pack (UnpackedFloat.sub .binary64 x.unpacked y.unpacked))) :=
  binary_eq (fun _ _ => rfl) hx hy

theorem div_eq {x y : Binary64} (hx : x.isNaN = false) (hy : y.isNaN = false) :
    x.div y = ofFloat (.ofModel (.pack (UnpackedFloat.div .binary64 x.unpacked y.unpacked))) :=
  binary_eq (fun _ _ => rfl) hx hy

theorem le_add {x y : Binary64} (hx : zero ≤ x) (hy : zero ≤ y) :
    x ≤ x.add y ∧ y ≤ x.add y := by
  obtain ⟨hxnan, hxlevel⟩ := zero_le_iff.1 hx
  obtain ⟨hynan, hylevel⟩ := zero_le_iff.1 hy
  obtain ⟨hrounded, hxle, hyle⟩ :=
    le_level_add (canonical_unpacked hxnan) (canonical_unpacked hynan) hxlevel hylevel
  have hxtop := level_le_infiniteUnits hxnan
  have hytop := level_le_infiniteUnits hynan
  have hnan := (unpacked_ofFloat_pack hrounded).1
  have hlevel := level_ofFloat_pack hrounded
  change x.level ≤ _ at hxle
  change y.level ≤ _ at hyle
  rw [add_eq hxnan hynan, le_iff, le_iff, hlevel]
  exact ⟨⟨hxnan, hnan, by omega⟩, hynan, hnan, by omega⟩

theorem isNaN_eq_false_of_isFinite {x : Binary64} (h : x.unpacked.isFinite = true) :
    x.isNaN = false := by
  rw [Bool.eq_false_iff]
  intro hnan
  rw [unpacked_of_isNaN hnan] at h
  cases h

theorem negInf_sub {x : Binary64} (h : x.unpacked.isFinite = true) : negInf.sub x = negInf := by
  have hunpacked : negInf.unpacked = .infinity .negative := rfl
  rw [sub_eq rfl (isNaN_eq_false_of_isFinite h), hunpacked, infinity_sub _ h]
  rfl

theorem posInf_sub {x : Binary64} (h : x.unpacked.isFinite = true) : posInf.sub x = posInf := by
  have hunpacked : posInf.unpacked = .infinity .positive := rfl
  rw [sub_eq rfl (isNaN_eq_false_of_isFinite h), hunpacked, infinity_sub _ h]
  rfl

theorem isNaN_sub {x y : Binary64} (hx : x.isNaN = false) (hy : y.unpacked.isFinite = true) :
    (x.sub y).isNaN = false := by
  have hynan := isNaN_eq_false_of_isFinite hy
  by_cases hneg : x = negInf
  · rw [hneg, negInf_sub hy]
    rfl
  by_cases hpos : x = posInf
  · rw [hpos, posInf_sub hy]
    rfl
  · have hdifference := level_sub (canonical_unpacked hx) (canonical_unpacked hynan)
      (isFinite_unpacked hx hpos hneg) hy
    rw [sub_eq hx hynan]
    exact (unpacked_ofFloat_pack hdifference.1).1

theorem sub_le_sub {x y z : Binary64} (h : x ≤ y) (hz : z.unpacked.isFinite = true) :
    x.sub z ≤ y.sub z := by
  obtain ⟨hx, hy, hlevels⟩ := le_iff.1 h
  have hznan := isNaN_eq_false_of_isFinite hz
  by_cases hxneg : x = negInf
  · rw [hxneg, negInf_sub hz]
    exact negInf_le (isNaN_sub hy hz)
  by_cases hypos : y = posInf
  · rw [hypos, posInf_sub hz]
    exact le_posInf (isNaN_sub hx hz)
  have hxpos : x ≠ posInf := fun heq => hypos (eq_posInf_of_le (heq ▸ h))
  have hyneg : y ≠ negInf := fun heq => hxneg (eq_negInf_of_le (heq ▸ h))
  obtain ⟨hxrounded, hxlevel⟩ := level_sub (canonical_unpacked hx) (canonical_unpacked hznan)
    (isFinite_unpacked hx hxpos hxneg) hz
  obtain ⟨hyrounded, hylevel⟩ := level_sub (canonical_unpacked hy) (canonical_unpacked hznan)
    (isFinite_unpacked hy hypos hyneg) hz
  rw [sub_eq hx hznan, sub_eq hy hznan]
  apply level_ofFloat_pack_le hxrounded hyrounded
  rw [hxlevel, hylevel]
  exact roundedLevel_mono (Int.sub_le_sub_right hlevels _)

theorem sub_self {x : Binary64} (hx : x.isNaN = false) (hpos : x ≠ posInf) (hneg : x ≠ negInf) :
    x.sub x = zero := by
  rw [sub_eq hx hx, sub_finite_self (isFinite_unpacked hx hpos hneg)]
  rfl

theorem sub_le_zero {x y : Binary64} (hle : x ≤ y) (hpos : y ≠ posInf) (hneg : y ≠ negInf) :
    x.sub y ≤ zero := by
  have hnumber := (le_iff.1 hle).2.1
  rw [← sub_self hnumber hpos hneg]
  exact sub_le_sub hle (isFinite_unpacked hnumber hpos hneg)

theorem isFinite_of_zero_le {x : Binary64} (hx : zero ≤ x) (hpos : x ≠ posInf) :
    x.unpacked.isFinite = true := by
  refine isFinite_unpacked (le_iff.1 hx).2.1 hpos ?_
  rintro rfl
  exact absurd hx (by decide)

theorem level_pos_of_one_le {x : Binary64} (h : one ≤ x) : 0 < x.level := by
  have hunit : 0 < unitLevel := units_pos (Nat.two_pow_pos 52) (-52)
  have hlevel := (le_iff.1 h).2.2
  rw [level_one] at hlevel
  omega

/-- Dividing by a common divisor that is at least one keeps the order of numbers that are not
negative. The divisor may be infinite. -/
theorem div_le_div {x y z : Binary64} (hx : zero ≤ x) (h : x ≤ y) (hy : y ≠ posInf)
    (hz : one ≤ z) : x.div z ≤ y.div z := by
  obtain ⟨hxnan, hynan, hlevels⟩ := le_iff.1 h
  have hznan := (le_iff.1 hz).2.1
  have hxpos : x ≠ posInf := fun heq => hy (eq_posInf_of_le (heq ▸ h))
  obtain ⟨hxrounded, hyrounded, hquotients⟩ := level_div_mono (canonical_unpacked hxnan)
    (canonical_unpacked hynan) (canonical_unpacked hznan) (isFinite_of_zero_le hx hxpos)
    (isFinite_of_zero_le (le_trans hx h) hy) (zero_le_iff.1 hx).2 hlevels (level_pos_of_one_le hz)
  rw [div_eq hxnan hznan, div_eq hynan hznan]
  exact level_ofFloat_pack_le hxrounded hyrounded hquotients

theorem div_le_one {x y : Binary64} (hx : zero ≤ x) (hle : x ≤ y) (hone : one ≤ y)
    (hfinite : x ≠ posInf) : zero ≤ x.div y ∧ x.div y ≤ one := by
  obtain ⟨hxnan, hynan, hlevels⟩ := le_iff.1 hle
  obtain ⟨hrounded, hlow, hhigh⟩ := level_div_between (canonical_unpacked hxnan)
    (canonical_unpacked hynan) (zero_le_iff.1 hx).2 hlevels (level_pos_of_one_le hone)
    (isFinite_of_zero_le hx hfinite)
  have hnan := (unpacked_ofFloat_pack hrounded).1
  have hlevel := level_ofFloat_pack hrounded
  rw [div_eq hxnan hynan, zero_le_iff, le_iff, hlevel, level_one]
  exact ⟨⟨hnan, by omega⟩, hnan, rfl, by omega⟩

theorem one_le_ofNat {n : Nat} (hn : 0 < n) : one ≤ ofNat n := by
  obtain ⟨hrounded, hround⟩ := level_round .positive hn (by decide : (-1074 : Int) ≤ 0)
  have hunpacked : (ofNat n).unpacked = saturate (UnpackedFloat.round .binary64 .positive n 0) := by
    rw [← unpack_pack hrounded]
    show UnpackedFloat.unpack .binary64 (UnpackedFloat.pack .binary64
      (UnpackedFloat.normalize .binary64 n 0 .positive)) = _
    rw [normalize_of_pos (Int.natCast_pos.2 hn)]
    rfl
  have hcanonical := hunpacked ▸ canonical_saturate hrounded
  have hunits : unitLevel ≤ units n 0 :=
    calc unitLevel = units 1 (-52 + 52) := (units_add 1 52 (by decide)).symm
      _ ≤ units n 0 := units_le_units_left hn 0
  have hlevel : unitLevel ≤ rounded (units n 0) := by
    rw [unitLevel, ← rounded_units fits_unitLevel]
    exact rounded_mono (Nat.cast_le.2 hunits)
  have htop : unitLevel < infiniteUnits := units_lt_infiniteUnits fits_unitLevel (by decide)
  rw [le_iff, level_one, level, hunpacked, level_saturate hrounded, hround]
  refine ⟨rfl, isNaN_eq_false_of_canonical hcanonical, ?_⟩
  rw [Sign.apply]
  omega

end Binary64

end ZeroShot
