import ZeroShot.Proofs.Number.Level

/-! Numbers and their bits.

Every bit pattern holds a NaN or a canonical number, and a rounded number is held as it is unless
its exponent is too great for that. -/

namespace ZeroShot

open Float.Model Float.Model.UnpackedFloat

theorem toNat_one_append (mantissa : BitVec 52) :
    (1#1 ++ mantissa).toNat = 2 ^ 52 + mantissa.toNat := by
  rw [BitVec.toNat_append, ← Nat.shiftLeft_add_eq_or_of_lt mantissa.isLt]
  rfl

theorem exponentBias_binary64 : Format.binary64.exponentBias = 1023 := rfl

theorem mantissaBits_binary64 : Format.binary64.mantissaBits = 53 := rfl

theorem canonical_unpack (bits : BitVec 64)
    (h : UnpackedFloat.unpack .binary64 bits ≠ .notANumber) :
    Canonical (UnpackedFloat.unpack .binary64 bits) := by
  have hmantissa : (@unpackMantissa .binary64 bits).toNat < 2 ^ 52 :=
    (@unpackMantissa .binary64 bits).isLt
  have hexponent : (@unpackExponent .binary64 bits).toNat < 2048 :=
    (@unpackExponent .binary64 bits).isLt
  revert h
  unfold UnpackedFloat.unpack
  dsimp only
  rw [exponentBias_binary64]
  split
  · split
    · exact fun _ => trivial
    · exact fun h => absurd rfl h
  · next hspecial =>
    intro _
    split
    · next hsubnormal =>
      split
      · exact trivial
      · rw [hsubnormal]
        exact ⟨⟨by omega, by decide, .inr rfl⟩, by decide⟩
    · next hnormal =>
      have hne : (@unpackExponent .binary64 bits).toNat ≠ 2047 :=
        fun h => hspecial (BitVec.eq_of_toNat_eq h)
      have hpos : (@unpackExponent .binary64 bits).toNat ≠ 0 :=
        fun h => hnormal (BitVec.eq_of_toNat_eq h)
      have hfull := toNat_one_append (@unpackMantissa .binary64 bits)
      exact ⟨⟨by omega, by omega, .inl (by omega)⟩, by omega⟩

theorem log2_add_one {m : Nat} (hlt : m < 2 ^ 53) (hle : 2 ^ 52 ≤ m) : m.log2 + 1 = 53 := by
  rw [(Nat.log2_eq_iff (by omega)).2 ⟨hle, hlt⟩]

def saturate : UnpackedFloat → UnpackedFloat
  | .finite sign m e hm => if e < 972 then .finite sign m e hm else .infinity sign
  | x => x

theorem unpack_pack_infinity (sign : Sign) :
    UnpackedFloat.unpack .binary64 (packedInfinity .binary64 sign) = .infinity sign := by
  cases sign <;> rfl

theorem unpack_pack_normal (sign : Sign) {m : Nat} {e : Int} (hm : 0 < m) (h : Fits m e)
    (he : e < 972) (hfull : 2 ^ 52 ≤ m) :
    UnpackedFloat.unpack .binary64 (packComponents .binary64 sign
      (BitVec.ofNat 11 (e + 1075).toNat) (BitVec.ofNat 52 m)) = .finite sign m e hm := by
  have hlt := h.lt
  have hle := h.le
  have hexponent : (BitVec.ofNat 11 (e + 1075).toNat).toNat = (e + 1075).toNat := by
    rw [BitVec.toNat_ofNat, Nat.mod_eq_of_lt (by omega)]
  have hspecial : BitVec.ofNat 11 (e + 1075).toNat ≠ -1#11 := by
    intro h
    have hnat := congrArg BitVec.toNat h
    rw [hexponent, show (-1#11).toNat = 2047 from rfl] at hnat
    omega
  have hsubnormal : BitVec.ofNat 11 (e + 1075).toNat ≠ 0#11 := by
    intro h
    have hnat := congrArg BitVec.toNat h
    rw [hexponent, show (0#11).toNat = 0 from rfl] at hnat
    omega
  unfold UnpackedFloat.unpack
  simp only [unpackExponent_packComponents, unpackMantissa_packComponents,
    unpackSign_packComponents, Sign.ofBitVec_toBitVec, exponentBias_binary64]
  rw [if_neg hspecial, if_neg hsubnormal]
  congr 1
  · rw [toNat_one_append, BitVec.toNat_ofNat]
    omega
  · rw [hexponent]
    omega

theorem unpack_pack_subnormal (sign : Sign) {m : Nat} (hm : 0 < m) (hlt : m < 2 ^ 52) :
    UnpackedFloat.unpack .binary64 (packComponents .binary64 sign 0#11 (BitVec.ofNat 52 m)) =
      .finite sign m (-1074) hm := by
  have hmantissa : (BitVec.ofNat 52 m).toNat = m := by
    rw [BitVec.toNat_ofNat, Nat.mod_eq_of_lt hlt]
  have hzero : BitVec.ofNat 52 m ≠ 0#52 := by
    intro h
    have hnat := congrArg BitVec.toNat h
    rw [hmantissa, show (0#52).toNat = 0 from rfl] at hnat
    omega
  unfold UnpackedFloat.unpack
  simp only [unpackExponent_packComponents, unpackMantissa_packComponents,
    unpackSign_packComponents, Sign.ofBitVec_toBitVec, exponentBias_binary64]
  rw [if_neg (by decide), if_pos trivial, dif_neg hzero]
  congr 1

theorem unpack_pack {x : UnpackedFloat} (h : Rounded x) :
    UnpackedFloat.unpack .binary64 (UnpackedFloat.pack .binary64 x) = saturate x := by
  cases x with
  | notANumber => exact h.elim
  | zero sign => cases sign <;> rfl
  | infinity sign => exact unpack_pack_infinity sign
  | finite sign m e hm =>
    have hlt := h.fits.lt
    have hle := h.fits.le
    have hbiased : e + (1023 : Nat) + (52 : Nat) = e + 1075 := by omega
    unfold UnpackedFloat.pack saturate
    simp only [exponentBias_binary64, mantissaBits_binary64, hbiased]
    by_cases he : e < 972
    · rw [if_neg (by omega), if_pos he]
      by_cases hfull : 2 ^ 52 ≤ m
      · rw [if_pos (log2_add_one hlt hfull)]
        exact unpack_pack_normal sign hm h he hfull
      · obtain rfl : e = -1074 := h.fits.full.resolve_left hfull
        have hlog : m.log2 < 52 := (Nat.log2_lt (by omega)).2 (by omega)
        rw [if_neg (by omega)]
        exact unpack_pack_subnormal sign hm (by omega)
    · rw [if_pos (by omega), if_neg he]
      exact unpack_pack_infinity sign

theorem saturate_of_lt {sign : Sign} {m : Nat} {e : Int} {hm : 0 < m} (he : e < 972) :
    saturate (.finite sign m e hm) = .finite sign m e hm := if_pos he

theorem saturate_of_le {sign : Sign} {m : Nat} {e : Int} {hm : 0 < m} (he : 972 ≤ e) :
    saturate (.finite sign m e hm) = .infinity sign := if_neg (by omega)

theorem canonical_saturate {x : UnpackedFloat} (h : Rounded x) : Canonical (saturate x) := by
  cases x with
  | finite sign m e hm =>
    rcases lt_or_ge e 972 with he | he
    · rw [saturate_of_lt he]
      exact ⟨h.fits, he⟩
    · rw [saturate_of_le he]
      trivial
  | _ => exact h

theorem level_saturate {x : UnpackedFloat} (h : Rounded x) :
    level (saturate x) = max (-(infiniteUnits : Int)) (min (level x) infiniteUnits) := by
  have htop := infiniteUnits_pos
  cases x with
  | notANumber => exact h.elim
  | zero sign =>
    show (0 : Int) = max (-(infiniteUnits : Int)) (min 0 infiniteUnits)
    omega
  | infinity sign => cases sign <;> simp only [saturate, level, Sign.apply] <;> omega
  | finite sign m e hm =>
    rcases lt_or_ge e 972 with he | he
    · have hlt := units_lt_infiniteUnits h.fits he
      rw [saturate_of_lt he]
      cases sign <;> simp only [level, Sign.apply] <;> omega
    · have hle := infiniteUnits_le_units h.fits he
      rw [saturate_of_le he]
      cases sign <;> simp only [level, Sign.apply] <;> omega

end ZeroShot
