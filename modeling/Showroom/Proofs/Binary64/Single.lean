import Showroom.Proofs.Binary64.Rounding

/-!
# Showroom.Proofs.Binary64.Single

Rounding to single precision, for positive numbers that are neither too small nor too large to keep
24 digits there. The digits that are dropped are 29, and a digit that is carried goes over into the
exponent, so that the bits are a sum.

* `Binary64.toNat_toSingle`: the bits of what a number is rounded to.
-/

namespace Showroom

namespace Binary64

open Float.Model (Format UnpackedFloat totalExponent)
open Float.Model.UnpackedFloat

variable {x : Binary64} {m r : Nat} {e t : Int}

theorem targetExponent_single (m : Nat) (e : Int) :
    Format.binary32.targetExponent (totalExponent m e) = max (m.log2 + e - 23) (-149) := by
  have hleast : Format.binary32.minExponent = -149 := by decide
  have hdigits : ((Format.binary32.mantissaBits : Nat) : Int) = 24 := by decide
  rw [Format.targetExponent, totalExponent, hleast, hdigits]
  omega

theorem toNat_pack_single (pos : 0 < r) (hlow : 8388608 ≤ r) (hhigh : r < 16777216)
    (least : -149 ≤ t) (most : t ≤ 104) :
    (pack Format.binary32 (.finite .positive r t pos)).toNat = (t + 149).toNat * 8388608 + r := by
  have hbias : ((Format.binary32.exponentBias : Nat) : Int) = 127 := by decide
  have hfull : r.log2 + 1 = Format.binary32.mantissaBits := by
    have hlog : r.log2 = 23 := (Nat.log2_eq_iff pos.ne').mpr ⟨hlow, hhigh⟩
    rw [hlog]
    rfl
  have hexponent : (t + 127 + (23 : Nat)).toNat = (t + 149).toNat + 1 := by omega
  unfold pack
  simp only [hbias, hfull]
  change BitVec.toNat (if 256 ≤ (t + 127 + (23 : Nat)).toNat + 1 then _ else _) = _
  rw [if_neg (by omega), if_pos trivial, packComponents, BitVec.toNat_append,
    ← Nat.shiftLeft_add_eq_or_of_lt (BitVec.isLt _), BitVec.toNat_append,
    ← Nat.shiftLeft_add_eq_or_of_lt (BitVec.isLt _), Nat.shiftLeft_eq, Nat.shiftLeft_eq,
    BitVec.toNat_ofNat, BitVec.toNat_ofNat, hexponent]
  change (0 * 256 + ((t + 149).toNat + 1) % 256) * 8388608 + r % 8388608 = _
  omega

theorem pack_carry (pos : 0 < r) (hlow : 8388608 ≤ r) (hhigh : r ≤ 16777216)
    (least : -149 ≤ t) (most : t ≤ 103) :
    let shifted := shiftToTargetExponent Format.binary32 r t .exact
    (pack Format.binary32 (ofDigits .positive shifted.1.mantissa shifted.2)).toNat =
      (t + 149).toNat * 8388608 + r := by
  simp only [shiftToTargetExponent, shiftToExponent, targetExponent_single, mantissa_shiftRight,
    mantissa_ofMantissaAndAccuracy]
  rcases Nat.lt_or_eq_of_le hhigh with hlt | rfl
  · have hlog : r.log2 = 23 := (Nat.log2_eq_iff pos.ne').mpr ⟨hlow, hlt⟩
    have hshift : (max ((r.log2 : Int) + t - 23) (-149) - t).toNat = 0 := by omega
    rw [hshift, pow_zero, Nat.div_one, Nat.cast_zero, add_zero, ofDigits, dif_neg pos.ne']
    exact toNat_pack_single pos hlow hlt least (by omega)
  · have hlog : Nat.log2 16777216 = 24 := by decide
    have hshift : (max (((24 : Nat) : Int) + t - 23) (-149) - t).toNat = 1 := by omega
    have hhalf : 16777216 / 2 ^ 1 = 8388608 := by decide
    rw [hlog, hshift, hhalf, ofDigits, dif_neg (by decide)]
    rw [toNat_pack_single (by decide) (by decide) (by decide) (by omega) (by omega)]
    omega

theorem toNat_pack_round (pos : 0 < m) (hlow : 2 ^ 52 ≤ m) (hhigh : m < 2 ^ 53) (least : -178 ≤ e)
    (most : e ≤ 74) :
    (pack Format.binary32 (round Format.binary32 .positive m e)).toNat =
      (e + 178).toNat * 8388608 + nearest m 29 .exact := by
  have hlog : m.log2 = 52 := (Nat.log2_eq_iff pos.ne').mpr ⟨hlow, hhigh⟩
  have htarget : Format.binary32.targetExponent (totalExponent m e) = e + 29 := by
    rw [targetExponent_single, hlog]
    omega
  have hkeep : (e - (e + 29)).toNat = 0 := by omega
  have hdrop : (e + 29 - e).toNat = 29 := by omega
  have hround : round Format.binary32 .positive m e =
      let digits := m <<< (e - Format.binary32.targetExponent (totalExponent m e)).toNat
      let exponent := e - (e - Format.binary32.targetExponent (totalExponent m e)).toNat
      let dropped := (Format.binary32.targetExponent (totalExponent digits exponent) - exponent).toNat
      let shifted := shiftToTargetExponent Format.binary32 (nearest digits dropped .exact)
        (exponent + dropped) .exact
      ofDigits .positive shifted.1.mantissa shifted.2 := rfl
  have hnearest : 8388608 ≤ nearest m 29 .exact :=
    le_trans (by omega) (div_le_nearest m 29 .exact)
  have hcarry : nearest m 29 .exact ≤ 16777216 :=
    nearest_le_of_le (by omega) fun _ => rfl
  rw [hround]
  simp only [htarget, hkeep, Nat.shiftLeft_zero, Nat.cast_zero, Int.sub_zero, hdrop]
  rw [pack_carry (by omega) hnearest hcarry (by omega) (by omega)]
  congr 3
  omega

theorem toNat_toSingle {pos : 0 < m} (hx : x.parts = .finite .positive m e pos) (hlow : 2 ^ 52 ≤ m)
    (hhigh : m < 2 ^ 53) (least : -178 ≤ e) (most : e ≤ 74) :
    x.toSingle.bits.toNat = (e + 178).toNat * 8388608 + nearest m 29 .exact := by
  have hnan : x.isNaN = false := by
    rw [Bool.eq_false_iff, Ne, isNaN_iff, hx]
    nofun
  have hparts : UnpackedFloat.unpack Format.binary64 x.bits.toBitVec = .finite .positive m e pos := hx
  rw [toSingle, if_neg (Bool.eq_false_iff.mp hnan)]
  simp only [hparts, shortened, UInt32.toNat_ofBitVec]
  exact toNat_pack_round pos hlow hhigh least most

end Binary64

end Showroom
