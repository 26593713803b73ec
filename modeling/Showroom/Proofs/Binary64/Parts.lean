import Showroom.Binary64
import Mathlib

/-!
# Showroom.Proofs.Binary64.Parts

What the bits of a double stand for. Lean computes with doubles in parts: a sign, the digits and an
exponent. The parts are read off the magnitude, and packing them again gives the magnitude back, so
what is known of the parts is known of the bits.

* `Binary64.isParts`: the parts of a double, by its sign and its magnitude.
* `Binary64.parts_ofParts`, `Binary64.ofParts_infinite`: the parts of what is packed.
* `Binary64.add_eq`, `Binary64.div_eq`: arithmetic on doubles is arithmetic on their parts.
-/

namespace Showroom

namespace Binary64

open Float.Model (Format UnpackedFloat)
open Float.Model.UnpackedFloat

section Fields

variable (b : BitVec 64)

theorem toNat_unpackMantissa :
    (@unpackMantissa Format.binary64 b).toNat = b.toNat % 4503599627370496 := by
  simp [unpackMantissa]

theorem toNat_unpackExponent :
    (@unpackExponent Format.binary64 b).toNat = b.toNat / 4503599627370496 % 2048 := by
  simp [unpackExponent, Nat.shiftRight_eq_div_pow]

theorem toNat_unpackSign :
    (@unpackSign Format.binary64 b).toNat = b.toNat / 9223372036854775808 := by
  have hlt := b.isLt
  simp only [unpackSign, BitVec.toNat_cast, BitVec.extractLsb_toNat, Nat.shiftRight_eq_div_pow]
  omega

theorem toNat_implicit_append (f : BitVec 52) :
    (1#1 ++ f).toNat = 4503599627370496 + f.toNat := by
  rw [BitVec.toNat_append, ← Nat.shiftLeft_add_eq_or_of_lt f.isLt]
  rfl

theorem unpackMantissa_eq_zero_iff :
    @unpackMantissa Format.binary64 b = 0#_ ↔ b.toNat % 4503599627370496 = 0 := by
  rw [← BitVec.toNat_inj, toNat_unpackMantissa]
  rfl

theorem unpackExponent_eq_zero_iff :
    @unpackExponent Format.binary64 b = 0#_ ↔ b.toNat / 4503599627370496 % 2048 = 0 := by
  rw [← BitVec.toNat_inj, toNat_unpackExponent]
  rfl

theorem unpackExponent_eq_neg_one_iff :
    @unpackExponent Format.binary64 b = -1#_ ↔
      b.toNat / 4503599627370496 % 2048 = 2047 := by
  rw [← BitVec.toNat_inj, toNat_unpackExponent]
  rfl

end Fields

theorem toNat_magnitude (x : Binary64) :
    x.magnitude.toNat = x.bits.toNat % 9223372036854775808 := by
  rw [magnitude, UInt64.toNat_and]
  exact Nat.and_two_pow_sub_one_eq_mod x.bits.toNat 63

theorem isNegative_iff (x : Binary64) :
    x.isNegative = true ↔ 9223372036854775808 ≤ x.bits.toNat := by
  rw [isNegative, decide_eq_true_eq, UInt64.le_iff_toNat_le]
  rfl

def sign (x : Binary64) : Sign := if x.isNegative then .negative else .positive

def parts (x : Binary64) : UnpackedFloat := UnpackedFloat.unpack Format.binary64 x.bits.toBitVec

/-- What a double with this sign and this magnitude is. -/
inductive IsParts (s : Sign) (magnitude : Nat) : UnpackedFloat → Prop
  | zero (h : magnitude = 0) : IsParts s magnitude (.zero s)
  | subnormal (pos : 0 < magnitude) (h : magnitude < 4503599627370496) :
      IsParts s magnitude (.finite s magnitude (-1074) pos)
  | normal (exponent fraction : Nat) (h : magnitude = exponent * 4503599627370496 + fraction)
      (small : fraction < 4503599627370496) (least : 1 ≤ exponent) (most : exponent ≤ 2046) :
      IsParts s magnitude (.finite s (4503599627370496 + fraction) (exponent - 1075) (by omega))
  | infinite (h : magnitude = 0x7ff0000000000000) : IsParts s magnitude (.infinity s)
  | nan (h : 0x7ff0000000000000 < magnitude) : IsParts s magnitude .notANumber

theorem ofBitVec_unpackSign (x : Binary64) :
    Sign.ofBitVec (@unpackSign Format.binary64 x.bits.toBitVec) = x.sign := by
  have hsign : (@unpackSign Format.binary64 x.bits.toBitVec = 0#1) ↔
      ¬ x.isNegative = true := by
    rw [← BitVec.toNat_inj, toNat_unpackSign, isNegative_iff, UInt64.toNat_toBitVec]
    change _ = 0 ↔ _
    omega
  rw [Sign.ofBitVec, sign]
  simp only [hsign]
  cases x.isNegative <;> rfl

/-- The parts of a double are told by its exponent bits: all set, none set, or some. -/
theorem isParts (x : Binary64) : IsParts x.sign x.magnitude.toNat x.parts := by
  have hmagnitude := x.toNat_magnitude
  have hbits := x.bits.toNat_lt
  have hexponent := toNat_unpackExponent x.bits.toBitVec
  have hmantissa := toNat_unpackMantissa x.bits.toBitVec
  have hbias : ((Format.binary64.exponentBias : Nat) : Int) = 1023 := by decide
  rw [UInt64.toNat_toBitVec] at hexponent hmantissa
  unfold parts UnpackedFloat.unpack
  simp only [x.ofBitVec_unpackSign]
  split
  · rename_i hall
    rw [unpackExponent_eq_neg_one_iff, UInt64.toNat_toBitVec] at hall
    split
    · rename_i hzero
      rw [unpackMantissa_eq_zero_iff, UInt64.toNat_toBitVec] at hzero
      exact .infinite (by omega)
    · rename_i hzero
      rw [unpackMantissa_eq_zero_iff, UInt64.toNat_toBitVec] at hzero
      exact .nan (by omega)
  · rename_i hall
    rw [unpackExponent_eq_neg_one_iff, UInt64.toNat_toBitVec] at hall
    split
    · rename_i hnone
      rw [unpackExponent_eq_zero_iff, UInt64.toNat_toBitVec] at hnone
      split
      · rename_i hzero
        rw [unpackMantissa_eq_zero_iff, UInt64.toNat_toBitVec] at hzero
        exact .zero (by omega)
      · rename_i hzero
        rw [unpackMantissa_eq_zero_iff, UInt64.toNat_toBitVec] at hzero
        have hdigits : x.bits.toNat % 4503599627370496 = x.magnitude.toNat := by omega
        simp only [hmantissa, hexponent, hbias, hnone, hdigits]
        exact .subnormal (by omega) (by omega)
    · rename_i hnone
      rw [unpackExponent_eq_zero_iff, UInt64.toNat_toBitVec] at hnone
      simp only [toNat_implicit_append, hmantissa, hexponent, hbias]
      exact .normal _ _ (by omega) (by omega) (by omega) (by omega)

/-! ## Packing -/

/-- Numbers in the form that the parts of a double have: with 53 binary digits, or with fewer and the
least exponent. The exponent may be larger than that of any double. -/
def Canonical : UnpackedFloat → Prop
  | .finite _ m e _ =>
    m < 9007199254740992 ∧ -1074 ≤ e ∧ (4503599627370496 ≤ m ∨ e = -1074)
  | _ => True

/-- Where a number stands among those of its sign: the magnitude of the double that it is. -/
def rank : UnpackedFloat → Nat
  | .zero _ => 0
  | .finite _ m e _ => (e + 1074).toNat * 4503599627370496 + m
  | .infinity _ => 0x7ff0000000000000
  | .notANumber => 0x7ff8000000000000

def signOf : UnpackedFloat → Sign
  | .zero s | .finite s .. | .infinity s => s
  | .notANumber => .positive

theorem toNat_packComponents (s : Sign) (exponent : BitVec 11) (fraction : BitVec 52) :
    (packComponents Format.binary64 s exponent fraction).toNat =
      s.toBitVec.toNat * 9223372036854775808 + exponent.toNat * 4503599627370496 +
        fraction.toNat := by
  have hinner : (s.toBitVec ++ exponent).toNat = s.toBitVec.toNat * 2048 + exponent.toNat := by
    rw [BitVec.toNat_append, ← Nat.shiftLeft_add_eq_or_of_lt exponent.isLt, Nat.shiftLeft_eq]
  rw [packComponents, BitVec.toNat_append, ← Nat.shiftLeft_add_eq_or_of_lt fraction.isLt, hinner,
    Nat.shiftLeft_eq]
  omega

theorem le_toNat_packComponents_iff (s : Sign) (exponent : BitVec 11) (fraction : BitVec 52) :
    9223372036854775808 ≤ (packComponents Format.binary64 s exponent fraction).toNat ↔
      s = .negative := by
  have hexponent := exponent.isLt
  have hfraction := fraction.isLt
  rw [toNat_packComponents]
  cases s with
  | positive =>
    refine iff_of_false ?_ nofun
    change ¬ _ ≤ 0 * 9223372036854775808 + _ + _
    omega
  | negative =>
    refine iff_of_true ?_ rfl
    change _ ≤ 1 * 9223372036854775808 + _ + _
    omega

theorem le_toNat_pack_iff {u : UnpackedFloat} (number : u ≠ .notANumber) :
    9223372036854775808 ≤ (pack Format.binary64 u).toNat ↔ signOf u = .negative := by
  cases u with
  | notANumber => exact absurd rfl number
  | zero s => exact le_toNat_packComponents_iff s _ _
  | infinity s => exact le_toNat_packComponents_iff s _ _
  | finite s m e pos =>
    unfold pack
    simp only [signOf]
    split
    · exact le_toNat_packComponents_iff s _ _
    · split <;> exact le_toNat_packComponents_iff s _ _

theorem toNat_pack {u : UnpackedFloat} (form : Canonical u) (number : u ≠ .notANumber) :
    (pack Format.binary64 u).toNat =
      (signOf u).toBitVec.toNat * 9223372036854775808 + min (rank u) 0x7ff0000000000000 := by
  cases u with
  | notANumber => exact absurd rfl number
  | zero s =>
    rw [pack, packedZero, toNat_packComponents]
    simp [rank, signOf]
  | infinity s =>
    rw [pack, packedInfinity, toNat_packComponents]
    simp [rank, signOf]
  | finite s m e hpos =>
    obtain ⟨hdigits, hleast, hform⟩ := form
    have hbias : ((Format.binary64.exponentBias : Nat) : Int) = 1023 := by decide
    have hfull : m.log2 + 1 = Format.binary64.mantissaBits ↔ 4503599627370496 ≤ m := by
      have hlow : 52 ≤ m.log2 ↔ 2 ^ 52 ≤ m := Nat.le_log2 hpos.ne'
      have hhigh : m.log2 < 53 ↔ m < 2 ^ 53 := Nat.log2_lt hpos.ne'
      change m.log2 + 1 = 53 ↔ _
      omega
    unfold pack
    simp only [hbias, hfull, rank, signOf]
    split
    · rw [packedInfinity, toNat_packComponents]
      change _ * _ + 2047 * 4503599627370496 + 0 = _
      omega
    · split
      · rw [toNat_packComponents, BitVec.toNat_ofNat, BitVec.toNat_ofNat]
        omega
      · rw [toNat_packComponents, BitVec.toNat_ofNat, BitVec.toNat_ofNat]
        omega

namespace IsParts

variable {s : Sign} {magnitude : Nat} {u v : UnpackedFloat}

theorem canonical (h : IsParts s magnitude u) : Canonical u := by
  cases h with
  | subnormal pos h => exact ⟨by omega, by omega, .inr rfl⟩
  | normal exponent fraction h small least most => exact ⟨by omega, by omega, .inl (by omega)⟩
  | _ => trivial

theorem eq_notANumber_iff (h : IsParts s magnitude u) :
    u = .notANumber ↔ 0x7ff0000000000000 < magnitude := by
  cases h with
  | nan h => exact iff_of_true rfl h
  | _ => exact iff_of_false (by simp) (by omega)

theorem isFinite_iff (h : IsParts s magnitude u) :
    u.isFinite = true ↔ magnitude < 0x7ff0000000000000 := by
  cases h with
  | zero | subnormal | normal => exact iff_of_true rfl (by omega)
  | infinite | nan => exact iff_of_false (by simp [UnpackedFloat.isFinite]) (by omega)

theorem rank_eq (h : IsParts s magnitude u) (number : u ≠ .notANumber) : rank u = magnitude := by
  cases h with
  | nan => exact absurd rfl number
  | zero h => exact h.symm
  | infinite h => exact h.symm
  | subnormal pos h => simp [rank]
  | normal exponent fraction h small least most =>
    rw [rank]
    omega

theorem signOf_eq (h : IsParts s magnitude u) (number : u ≠ .notANumber) : signOf u = s := by
  cases h with
  | nan => exact absurd rfl number
  | _ => rfl

theorem eq_of_rank (h : IsParts (signOf u) (rank u) v) (form : Canonical u)
    (small : rank u < 0x7ff0000000000000) : v = u := by
  cases u with
  | notANumber => exact absurd small (by decide)
  | infinity s => exact absurd small (Nat.lt_irrefl _)
  | zero s =>
    simp only [rank, signOf] at h
    cases h with
    | zero => rfl
    | _ => omega
  | finite s m e pos =>
    obtain ⟨hdigits, hleast, hform⟩ := form
    simp only [rank, signOf] at h small
    cases h with
    | subnormal _ h =>
      congr
      · omega
      · omega
    | normal exponent fraction h =>
      congr
      · omega
      · omega
    | _ => omega

end IsParts

variable {x y : Binary64} {u : UnpackedFloat}

theorem isNaN_iff : x.isNaN = true ↔ x.parts = .notANumber := by
  rw [x.isParts.eq_notANumber_iff, isNaN, decide_eq_true_eq, UInt64.lt_iff_toNat_lt]
  rfl

theorem parts_ne_notANumber (h : x.isNaN = false) : x.parts ≠ .notANumber := by
  intro hparts
  rw [isNaN_iff.mpr hparts] at h
  cases h

theorem isFinite_eq (x : Binary64) : x.isFinite = x.parts.isFinite := by
  rw [Bool.eq_iff_iff, x.isParts.isFinite_iff, isFinite, decide_eq_true_eq,
    UInt64.lt_iff_toNat_lt]
  rfl

theorem isNaN_of_isFinite (h : x.isFinite = true) : x.isNaN = false := by
  rw [isFinite_eq] at h
  refine Bool.eq_false_iff.mpr fun hnan => ?_
  rw [isNaN_iff.mp hnan] at h
  cases h

theorem isNaN_of_infinite {s : Sign} (h : x.parts = .infinity s) : x.isNaN = false := by
  refine Bool.eq_false_iff.mpr fun hnan => ?_
  rw [isNaN_iff.mp hnan] at h
  cases h

theorem isFinite_of_infinite {s : Sign} (h : x.parts = .infinity s) : x.isFinite = false := by
  rw [isFinite_eq, h]
  rfl

/-- The double with these parts; an infinite one if the number is too large. -/
def ofParts (u : UnpackedFloat) : Binary64 := ⟨UInt64.ofBitVec (pack Format.binary64 u)⟩

theorem magnitude_ofParts (form : Canonical u) (number : u ≠ .notANumber) :
    (ofParts u).magnitude.toNat = min (rank u) 0x7ff0000000000000 := by
  have hbits : (ofParts u).bits.toNat = _ := toNat_pack form number
  rw [toNat_magnitude, hbits]
  omega

theorem sign_ofParts (number : u ≠ .notANumber) : (ofParts u).sign = signOf u := by
  have hbits : (ofParts u).isNegative = true ↔ signOf u = .negative := by
    rw [isNegative_iff]
    exact le_toNat_pack_iff number
  rw [sign]
  cases hs : signOf u with
  | negative => rw [if_pos (hbits.mpr hs)]
  | positive => rw [if_neg (mt hbits.mp (hs ▸ nofun))]

theorem isFinite_ofParts (form : Canonical u) (number : u ≠ .notANumber) :
    (ofParts u).isFinite = true ↔ rank u < 0x7ff0000000000000 := by
  rw [isFinite_eq, (ofParts u).isParts.isFinite_iff, magnitude_ofParts form number]
  omega

theorem parts_ofParts (form : Canonical u) (small : rank u < 0x7ff0000000000000) :
    (ofParts u).parts = u := by
  have number : u ≠ .notANumber := by
    rintro rfl
    exact absurd small (by decide)
  have hparts := (ofParts u).isParts
  rw [magnitude_ofParts form number, sign_ofParts number,
    Nat.min_eq_left (Nat.le_of_lt small)] at hparts
  exact hparts.eq_of_rank form small

theorem ofParts_infinite (form : Canonical u) (number : u ≠ .notANumber)
    (large : 0x7ff0000000000000 ≤ rank u) : (ofParts u).parts = .infinity (signOf u) := by
  have hparts := (ofParts u).isParts
  rw [magnitude_ofParts form number, sign_ofParts number, Nat.min_eq_right large] at hparts
  generalize (ofParts u).parts = v at hparts
  cases hparts with
  | infinite => rfl
  | _ => omega

theorem parts_ofParts_parts (x : Binary64) : (ofParts x.parts).parts = x.parts := by
  have hparts := x.isParts
  generalize x.parts = u at hparts
  cases u with
  | notANumber => rfl
  | infinity s => cases s <;> rfl
  | zero s => cases s <;> rfl
  | finite s m e pos =>
    refine parts_ofParts hparts.canonical ?_
    rw [hparts.rank_eq (by simp)]
    exact hparts.isFinite_iff.mp rfl

def toFloat (x : Binary64) : Float := Float.ofBits x.bits

theorem unpack_toFloat (x : Binary64) : x.toFloat.toModel.unpack = x.parts :=
  x.parts_ofParts_parts

theorem add_eq (x y : Binary64) :
    x.add y = ofParts (UnpackedFloat.add Format.binary64 x.parts y.parts) := by
  rw [← unpack_toFloat, ← unpack_toFloat]
  rfl

theorem div_eq (x y : Binary64) :
    x.div y = ofParts (UnpackedFloat.div Format.binary64 x.parts y.parts) := by
  rw [← unpack_toFloat, ← unpack_toFloat]
  rfl

end Binary64

end Showroom
