import Showroom.Proofs.Binary64.Decimal
import Showroom.Proofs.Binary64.Monotone

/-!
# Showroom.Proofs.Binary64.Product

Differences and products of doubles, as far as their signs go. A difference is a sum, so the rounding
of sums says on which side of zero it is. Of a product only the sign is needed, and rounding keeps it
whatever becomes of the digits.

* `Binary64.place_sub`: what is taken away from a larger number leaves something.
* `Binary64.place_mul`: a product of numbers that are not below zero is not below zero, or a NaN.
-/

namespace Showroom

namespace Binary64

open Float.Model (Format UnpackedFloat)
open Float.Model.UnpackedFloat

variable {x y : Binary64} {u v : UnpackedFloat}

/-! ## Differences -/

theorem apply_neg (s : Sign) (n : Int) : (-s).apply n = -(s.apply n) := by
  cases s with
  | positive => rfl
  | negative => exact (Int.neg_neg n).symm

theorem unpacked_sub_eq (u v : UnpackedFloat) :
    UnpackedFloat.sub Format.binary64 u v = UnpackedFloat.add Format.binary64 u v.neg := by
  cases u <;> cases v <;>
    simp [UnpackedFloat.sub, UnpackedFloat.add, UnpackedFloat.neg, apply_neg, Int.sub_eq_add_neg]

theorem rank_neg (u : UnpackedFloat) : rank u.neg = rank u := by
  cases u <;> rfl

theorem unitsOf_neg (u : UnpackedFloat) : unitsOf u.neg = -unitsOf u := by
  cases u with
  | finite s m e pos => exact apply_neg s _
  | _ => rfl

theorem sub_eq (x y : Binary64) :
    x.sub y = ofParts (UnpackedFloat.sub Format.binary64 x.parts y.parts) := by
  rw [← unpack_toFloat, ← unpack_toFloat]
  rfl

theorem exists_opposite (hy : y.isFinite = true) :
    ∃ z : Binary64, z.isFinite = true ∧ z.units = -y.units ∧ ∀ x : Binary64, x.sub y = x.add z := by
  have hform : Canonical y.parts.neg := by
    have hparts := y.isParts.canonical
    generalize y.parts = u at hparts
    cases u <;> exact hparts
  have hsmall : rank y.parts.neg < 0x7ff0000000000000 := by
    rw [rank_neg, y.isParts.rank_eq (parts_ne_notANumber (isNaN_of_isFinite hy))]
    exact y.isParts.isFinite_iff.mp (isFinite_eq y ▸ hy)
  have hnumber : y.parts.neg ≠ .notANumber := by
    intro h
    rw [h] at hsmall
    exact absurd hsmall (by decide)
  have hparts : (ofParts y.parts.neg).parts = y.parts.neg := parts_ofParts hform hsmall
  refine ⟨ofParts y.parts.neg, (isFinite_ofParts hform hnumber).mpr hsmall, ?_, fun x => ?_⟩
  · rw [units, hparts, unitsOf_neg, units]
  · rw [sub_eq, add_eq, hparts, unpacked_sub_eq]

theorem place_sub (hx : x.isFinite = true) (hy : y.isFinite = true) (h : y.place ≤ x.place) :
    (x.sub y).isNaN = false ∧ 0 ≤ (x.sub y).place := by
  obtain ⟨z, hz, hunits, hsub⟩ := exists_opposite hy
  have hexact : 0 ≤ roundInt (x.units + z.units) := by
    have hle : 0 ≤ x.units + z.units := by
      have := (units_le_iff hy hx).mpr h
      omega
    exact roundInt_mono hle
  rw [hsub]
  rcases add_roundInt hx hz with ⟨hadd, hrounded⟩ | ⟨hadd, -⟩ | ⟨-, hlow⟩
  · have hzero : zero.units ≤ (x.add z).units := hrounded ▸ hexact
    exact ⟨isNaN_of_isFinite hadd, (units_le_iff (by decide) hadd).mp hzero⟩
  · refine ⟨isNaN_of_infinite hadd, ?_⟩
    rw [place_of_infinite hadd]
    decide
  · have hpos : 0 < beyond := pow_pos two_pos _
    omega

theorem unpacked_add_comm (u v : UnpackedFloat) :
    UnpackedFloat.add Format.binary64 u v = UnpackedFloat.add Format.binary64 v u := by
  cases u with
  | finite s m e pos =>
    cases v with
    | finite t n f hn => simp only [UnpackedFloat.add, Int.min_comm e f, Int.add_comm (s.apply _)]
    | _ => rfl
  | notANumber => cases v <;> rfl
  | zero s => cases v with
    | zero t => cases s <;> cases t <;> rfl
    | _ => rfl
  | infinity s => cases v with
    | infinity t => cases s <;> cases t <;> rfl
    | _ => rfl

theorem add_comm (x y : Binary64) : x.add y = y.add x := by
  rw [add_eq, add_eq, unpacked_add_comm]

theorem isNaN_add_of_isNaN (h : x.isNaN = true) (y : Binary64) : (x.add y).isNaN = true := by
  rw [add_eq, isNaN_iff.mp h]
  change (ofParts .notANumber).isNaN = true
  decide

/-! ## Products -/

theorem mul_eq (x y : Binary64) :
    x.mul y = ofParts (UnpackedFloat.mul Format.binary64 x.parts y.parts) := by
  rw [← unpack_toFloat, ← unpack_toFloat]
  rfl

theorem signOf_ofDigits (s : Sign) (m : Nat) (e : Int) : signOf (ofDigits s m e) = s := by
  unfold ofDigits
  split <;> rfl

theorem ofDigits_ne_notANumber (s : Sign) (m : Nat) (e : Int) : ofDigits s m e ≠ .notANumber := by
  unfold ofDigits
  split <;> simp

theorem exists_ofDigits_eq_roundWithAccuracy (s : Sign) (m : Nat) (e : Int) (accuracy : Accuracy) :
    ∃ n f, roundWithAccuracy Format.binary64 s m e accuracy = ofDigits s n f :=
  ⟨_, _, rfl⟩

theorem signOf_of_placeOf (h : 0 ≤ placeOf u) : signOf u = .positive ∨ ∃ s, u = .zero s := by
  cases u with
  | notANumber => exact .inl rfl
  | zero s => exact .inr ⟨s, rfl⟩
  | infinity s =>
    cases s with
    | positive => exact .inl rfl
    | negative => exact absurd h (by decide)
  | finite s m e pos =>
    cases s with
    | positive => exact .inl rfl
    | negative =>
      have hpos : 0 < rank (.finite .negative m e pos) := rank_finite_pos
      rw [placeOf_finite_negative] at h
      omega

theorem unpacked_mul_cases (hu : signOf u = .positive ∨ ∃ s, u = .zero s)
    (hv : signOf v = .positive ∨ ∃ s, v = .zero s) :
    UnpackedFloat.mul Format.binary64 u v = .notANumber ∨
      (∃ s, UnpackedFloat.mul Format.binary64 u v = .zero s) ∨
      UnpackedFloat.mul Format.binary64 u v ≠ .notANumber ∧
        signOf (UnpackedFloat.mul Format.binary64 u v) = .positive := by
  cases u with
  | notANumber => exact .inl rfl
  | zero s =>
    cases v with
    | notANumber | infinity => exact .inl rfl
    | zero | finite => exact .inr (.inl ⟨_, rfl⟩)
  | infinity s =>
    obtain rfl : s = .positive := by simpa [signOf] using hu
    cases v with
    | notANumber | zero => exact .inl rfl
    | infinity t | finite t =>
      obtain rfl : t = .positive := by simpa [signOf] using hv
      exact .inr (.inr ⟨by simp [UnpackedFloat.mul], rfl⟩)
  | finite s m e pos =>
    obtain rfl : s = .positive := by simpa [signOf] using hu
    cases v with
    | notANumber => exact .inl rfl
    | zero t => exact .inr (.inl ⟨_, rfl⟩)
    | infinity t =>
      obtain rfl : t = .positive := by simpa [signOf] using hv
      exact .inr (.inr ⟨by simp [UnpackedFloat.mul], rfl⟩)
    | finite t n f hn =>
      obtain rfl : t = .positive := by simpa [signOf] using hv
      obtain ⟨k, g, hdigits⟩ :=
        exists_ofDigits_eq_roundWithAccuracy .positive (m * n) (e + f) .exact
      refine .inr (.inr ?_)
      change roundWithAccuracy Format.binary64 .positive (m * n) (e + f) .exact ≠ _ ∧ _
      rw [hdigits]
      exact ⟨ofDigits_ne_notANumber _ _ _, signOf_ofDigits _ _ _⟩

theorem signOf_parts (h : 0 ≤ x.place) : signOf x.parts = .positive ∨ ∃ s, x.parts = .zero s := by
  by_cases hnan : x.isNaN = true
  · rw [isNaN_iff.mp hnan]
    exact .inl rfl
  · refine signOf_of_placeOf ?_
    rwa [placeOf_parts (Bool.eq_false_iff.mpr hnan)]

theorem place_mul (hx : 0 ≤ x.place) (hy : 0 ≤ y.place) :
    (x.mul y).isNaN = true ∨ 0 ≤ (x.mul y).place := by
  rw [mul_eq]
  rcases unpacked_mul_cases (signOf_parts hx) (signOf_parts hy) with hnan | ⟨s, hzero⟩ |
    ⟨hnumber, hsign⟩
  · rw [hnan]
    exact .inl (by decide)
  · rw [hzero]
    exact .inr (by cases s <;> decide)
  · have hpositive :
        (ofParts (UnpackedFloat.mul Format.binary64 x.parts y.parts)).isNegative = false := by
      rw [← sign_eq_positive_iff, sign_ofParts hnumber, hsign]
    rw [place, hpositive]
    exact .inr (Int.natCast_nonneg _)

end Binary64

end Showroom
