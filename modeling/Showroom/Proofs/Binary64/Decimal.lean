import Showroom.Binary64.Decimal
import Showroom.Proofs.Binary64.Sum

/-!
# Showroom.Proofs.Binary64.Decimal

Large whole numbers that are read as doubles and turned back into whole numbers. A number with more
than 53 binary digits is rounded to so many when it is read, and at the end there is no whole number
larger than the largest of 64 bits.

* `Binary64.quarters_eq`: a finite double in units.
* `Binary64.toNat_roundToUInt64_ofWhole`: what becomes of a large number.
* `Binary64.roundToUInt64_neg_ofWhole`: what becomes of one with a minus sign.
-/

namespace Showroom

namespace Binary64

open Float.Model (Format UnpackedFloat)
open Float.Model.UnpackedFloat

variable {x : Binary64} {n : Nat}

theorem twoTo_eq (n : Nat) : twoTo n = 2 ^ n := rfl

theorem twoTo_add_two (n : Nat) : twoTo (n + 2) = 4 * 2 ^ n := by
  rw [twoTo_eq, pow_succ, pow_succ]
  omega

theorem one_eq : one = 4 * 2 ^ 1074 := twoTo_add_two 1074

theorem fraction_eq (x : Binary64) : x.fraction = x.magnitude.toNat % 0x10000000000000 := by
  rw [fraction, toNat_magnitude]
  omega

theorem exponentBits_eq (x : Binary64) :
    x.exponentBits = x.magnitude.toNat / 0x10000000000000 := by
  have hbits := x.bits.toNat_lt
  rw [exponentBits, toNat_magnitude]
  omega

theorem quarters_eq (hx : x.isFinite = true) : x.quarters = 4 * x.units.natAbs := by
  have hparts := x.isParts
  have hfraction := x.fraction_eq
  have hexponent := x.exponentBits_eq
  rw [isFinite_eq] at hx
  rw [quarters, units, mantissa, shift, Nat.mul_assoc]
  congr 1
  generalize x.parts = u at hparts hx
  cases hparts with
  | zero h =>
    rw [h] at hfraction hexponent
    rw [hexponent, hfraction]
    rfl
  | subnormal pos h =>
    have hnone : x.exponentBits = 0 := by omega
    have hall : x.fraction = x.magnitude.toNat := by omega
    rw [hnone, if_pos rfl, hall, unitsOf, natAbs_apply]
    rfl
  | normal exponent fraction h small least most =>
    have hbits : x.exponentBits = exponent := by omega
    have hrest : x.fraction = fraction := by omega
    have hshift : ((exponent : Int) - 1075 + 1074).toNat = exponent - 1 := by omega
    rw [hbits, hrest, if_neg (by omega), unitsOf, natAbs_apply, hshift]
    rfl
  | infinite h => cases hx
  | nan h => cases hx

theorem unpacked_whole (pos : n ≠ 0) :
    UnpackedFloat.ofScientific Format.binary64 n 0 =
      roundWithAccuracy Format.binary64 .positive (n * 2 ^ 53) (-53) .exact := by
  have hbits : (2 : Int) ^ Format.binary64.exponentBits = 2048 := by decide
  rw [UnpackedFloat.ofScientific, dif_neg pos, if_neg (by decide), if_neg (by omega),
    if_pos (Int.le_refl 0), UnpackedFloat.mul, Nat.shiftLeft_eq, Int.toNat_zero, pow_zero,
    Nat.mul_one]
  rfl

theorem ofScientific_whole (large : 2 ^ 53 ≤ n) :
    ∃ u, ofScientific n 0 = ofParts u ∧ Rounded .positive (roundUnits n * 2 ^ 1074) u := by
  have hpos : n ≠ 0 := by
    rintro rfl
    exact absurd large (by decide)
  have hlog : 53 ≤ n.log2 := (Nat.le_log2 hpos).mpr large
  have hread : ofScientific n 0 = ofParts (UnpackedFloat.ofScientific Format.binary64 n 0) := by
    rw [ofScientific, if_neg hpos, if_neg (by decide), if_neg (by omega), Float.ofScientific,
      dif_neg (by omega)]
    rfl
  refine ⟨_, hread, ?_⟩
  have hdigits : (n * 2 ^ 53).log2 = n.log2 + 53 := log2_mul_two_pow hpos 53
  have hrounded := roundWithAccuracy_rounded (s := .positive) (m := n * 2 ^ 53) (e := -53)
    (t := n.log2 - 52) .exact (by decide) (by omega) (by omega)
  have hshift : ((n.log2 : Int) - 52 - -53).toNat = n.log2 - 52 + 53 := by omega
  have hscale : ((n.log2 : Int) - 52 + 1074).toNat = n.log2 - 52 + 1074 := by omega
  rw [hshift, hscale, nearest_mul_two_pow, pow_add, ← Nat.mul_assoc] at hrounded
  rw [unpacked_whole hpos]
  exact hrounded

theorem isNaN_ofParts {u : UnpackedFloat} (form : Canonical u) (number : u ≠ .notANumber) :
    (ofParts u).isNaN = false := by
  have hmagnitude := magnitude_ofParts form number
  have hle : (ofParts u).magnitude.toNat ≤ 0x7ff0000000000000 := by omega
  rw [isNaN, decide_eq_false_iff_not]
  exact UInt64.not_lt.mpr (UInt64.le_iff_toNat_le.mpr hle)

theorem sign_eq_positive_iff : x.sign = .positive ↔ x.isNegative = false := by
  rw [sign]
  cases x.isNegative <;> simp

/-- The nearest whole number of 64 bits to a double that has no places behind the point. -/
theorem toNat_roundToUInt64 {u : UnpackedFloat} {m : Nat}
    (h : Rounded .positive (m * 2 ^ 1074) u) :
    (ofParts u).roundToUInt64.toNat = min m (UInt64.size - 1) := by
  have hnumber : (ofParts u).isNaN = false := isNaN_ofParts h.canonical h.number
  have hsign : (ofParts u).isNegative = false := by
    rw [← sign_eq_positive_iff, sign_ofParts h.number, h.sign]
  rw [roundToUInt64, hnumber, hsign]
  simp only [Bool.or_self, Bool.false_eq_true, if_false]
  rcases Nat.lt_or_ge (m * 2 ^ 1074) beyond with hsmall | hlarge
  · have hrank := h.rank_lt_iff.mpr hsmall
    have hfinite := (isFinite_ofParts h.canonical h.number).mpr hrank
    have hunits : (ofParts u).units = (m * 2 ^ 1074 : Nat) := by
      rw [units, parts_ofParts h.canonical hrank, h.units]
      rfl
    have hquarters : (ofParts u).quarters = m * one := by
      rw [quarters_eq hfinite, hunits, Int.natAbs_natCast, Nat.mul_left_comm, one_eq]
    have hone : 0 < one := by
      rw [one_eq]
      exact Nat.mul_pos (by decide) (pow_pos two_pos _)
    have hhalf : one / 2 < one := Nat.div_lt_self hone (by decide)
    have hwhole : (m * one + one / 2) / one = m := by
      rw [Nat.mul_comm, Nat.mul_add_div hone, Nat.div_eq_of_lt hhalf, Nat.add_zero]
    rw [hfinite, if_neg (by decide), hquarters, hwhole]
    exact UInt64.toNat_ofNat_of_lt' (Nat.lt_of_le_of_lt (Nat.min_le_right _ _) (by decide))
  · have hinfinite : (ofParts u).isFinite = false := by
      rw [← Bool.not_eq_true, isFinite_ofParts h.canonical h.number, h.rank_lt_iff]
      exact Nat.not_lt.mpr hlarge
    have hsize : UInt64.size - 1 ≤ m := by
      by_contra hlt
      have hm : m ≤ 2 ^ 64 := (Nat.le_of_not_le hlt).trans (by decide)
      refine absurd (lt_beyond (a := 64 + 1074) ?_ (by decide)) (Nat.not_lt.mpr hlarge)
      rw [pow_add]
      exact Nat.mul_le_mul_right _ hm
    rw [hinfinite, if_pos (by decide), Nat.min_eq_right hsize]
    rfl

/-- **What becomes of a large whole number**: it is rounded to 53 digits, and what is too large for
64 bits becomes the largest number there. -/
theorem toNat_roundToUInt64_ofWhole (large : 2 ^ 53 ≤ n) :
    (ofScientific n 0).roundToUInt64.toNat = min (roundUnits n) (UInt64.size - 1) := by
  obtain ⟨u, hread, hrounded⟩ := ofScientific_whole large
  rw [hread, toNat_roundToUInt64 hrounded]

theorem isNegative_eq_testBit (x : Binary64) : x.isNegative = x.bits.toNat.testBit 63 := by
  have hbits := x.bits.toNat_lt
  rw [Bool.eq_iff_iff, isNegative_iff, Nat.testBit_eq_decide_div_mod_eq, decide_eq_true_eq]
  omega

theorem isNegative_neg (x : Binary64) : (neg x).isNegative = !x.isNegative := by
  have hsign : Nat.testBit 0x8000000000000000 63 = true := by decide
  rw [isNegative_eq_testBit, isNegative_eq_testBit, neg, UInt64.toNat_xor, Nat.testBit_xor]
  exact (congrArg _ hsign).trans (Bool.xor_true _)

theorem roundToUInt64_neg_ofWhole (large : 2 ^ 53 ≤ n) :
    (neg (ofScientific n 0)).roundToUInt64 = 0 := by
  obtain ⟨u, hread, hrounded⟩ := ofScientific_whole large
  have hsign : (ofParts u).isNegative = false := by
    rw [← sign_eq_positive_iff, sign_ofParts hrounded.number, hrounded.sign]
  rw [hread, roundToUInt64, isNegative_neg, hsign, Bool.not_false, Bool.or_true, if_pos rfl]

end Binary64

end Showroom
