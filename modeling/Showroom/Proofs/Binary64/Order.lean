import Showroom.Proofs.Binary64.Parts

/-!
# Showroom.Proofs.Binary64.Order

The order that is read off the bits is the IEEE-754 order, which is that of Lean's own doubles.

* `Binary64.compare_eq`: finite or infinite numbers are in the order of their places.
* `Binary64.toFloat_lt_iff`, `Binary64.toFloat_le_iff`: the comparisons of doubles, for all bits.
-/

namespace Showroom

namespace Binary64

open Float.Model (Format UnpackedFloat)
open Float.Model.UnpackedFloat

def placeOf (u : UnpackedFloat) : Int := (signOf u).apply (rank u)

section Parts

variable {u v : UnpackedFloat} {s t : Sign} {p q m n : Nat} {e f : Int} {hm : 0 < m} {hn : 0 < n}

@[simp] theorem placeOf_zero : placeOf (.zero s) = 0 := by cases s <;> rfl

@[simp] theorem placeOf_finite_positive :
    placeOf (.finite .positive m e hm) = rank (.finite .positive m e hm) := rfl

@[simp] theorem placeOf_finite_negative :
    placeOf (.finite .negative m e hm) = -rank (.finite .negative m e hm) := rfl

theorem rank_finite_pos : 0 < rank (.finite s m e hm) := Nat.add_pos_right _ hm

theorem IsParts.placeOf_bounds (h : IsParts s p u) (number : u ≠ .notANumber)
    (bounded : ∀ s, u ≠ .infinity s) :
    -0x7ff0000000000000 < placeOf u ∧ placeOf u < 0x7ff0000000000000 := by
  have hfinite : u.isFinite = true := by
    cases u with
    | notANumber => exact absurd rfl number
    | infinity s => exact absurd rfl (bounded s)
    | _ => rfl
  have hrank := h.rank_eq number
  have hsmall := h.isFinite_iff.mp hfinite
  rw [placeOf]
  cases signOf u with
  | positive =>
    rw [Sign.apply]
    omega
  | negative =>
    rw [Sign.apply]
    omega

/-- Numbers of one sign are in the order of their exponents, and of their digits for one exponent. -/
theorem compare_finite (hu : Canonical (.finite s m e hm)) (hv : Canonical (.finite t n f hn)) :
    (compare e f).then (compare m n) =
      compare (rank (.finite s m e hm) : Int) (rank (.finite t n f hn) : Int) := by
  obtain ⟨hmdigits, heleast, hmform⟩ := hu
  obtain ⟨hndigits, hfleast, hnform⟩ := hv
  have hp : rank (.finite s m e hm) = (e + 1074).toNat * 4503599627370496 + m := rfl
  have hq : rank (.finite t n f hn) = (f + 1074).toNat * 4503599627370496 + n := rfl
  generalize rank (.finite s m e hm) = p at *
  generalize rank (.finite t n f hn) = q at *
  rcases lt_trichotomy e f with h | rfl | h
  · have hplace : (p : Int) < q := by omega
    rw [compare_lt_iff_lt.mpr h, compare_lt_iff_lt.mpr hplace]
    rfl
  · rw [compare_eq_iff_eq.mpr rfl, Ordering.then]
    rcases lt_trichotomy m n with h | rfl | h
    · have hplace : (p : Int) < q := by omega
      rw [compare_lt_iff_lt.mpr h, compare_lt_iff_lt.mpr hplace]
    · have hplace : (p : Int) = q := by omega
      rw [compare_eq_iff_eq.mpr rfl, compare_eq_iff_eq.mpr hplace]
    · have hplace : (q : Int) < p := by omega
      rw [compare_gt_iff_gt.mpr h, compare_gt_iff_gt.mpr hplace]
  · have hplace : (q : Int) < p := by omega
    rw [compare_gt_iff_gt.mpr h, compare_gt_iff_gt.mpr hplace]
    rfl

theorem compare_neg_neg (a b : Int) : compare (-a) (-b) = compare b a := by
  rcases lt_trichotomy a b with h | rfl | h
  · rw [compare_gt_iff_gt.mpr h, compare_gt_iff_gt.mpr (Int.neg_lt_neg h)]
  · rw [compare_eq_iff_eq.mpr rfl, compare_eq_iff_eq.mpr rfl]
  · rw [compare_lt_iff_lt.mpr h, compare_lt_iff_lt.mpr (Int.neg_lt_neg h)]

theorem compare_eq (hu : IsParts s p u) (hv : IsParts t q v) (hnu : u ≠ .notANumber)
    (hnv : v ≠ .notANumber) : u.compare v = some (compare (placeOf u) (placeOf v)) := by
  have below {a b : Int} (h : a < b) : some .lt = some (compare a b) :=
    congrArg some (compare_lt_iff_lt.mpr h).symm
  have above {a b : Int} (h : b < a) : some .gt = some (compare a b) :=
    congrArg some (compare_gt_iff_gt.mpr h).symm
  -- The cases are those of the comparison: NaNs, infinities, zeros, and finite numbers by their signs.
  fun_cases UnpackedFloat.compare u v with
  | case1 => exact absurd rfl hnu
  | case2 => exact absurd rfl hnv
  | case3 a b => cases a <;> cases b <;> rfl
  | case4 v _ bounded => exact above (hv.placeOf_bounds hnv bounded).2
  | case5 v _ bounded => exact below (hv.placeOf_bounds hnv bounded).1
  | case6 u _ bounded => exact below (hu.placeOf_bounds hnu bounded).2
  | case7 u _ bounded => exact above (hu.placeOf_bounds hnu bounded).1
  | case8 => exact above (by simp [rank_finite_pos])
  | case9 => exact below (by simp [rank_finite_pos])
  | case10 => exact below (by simp [rank_finite_pos])
  | case11 => exact above (by simp [rank_finite_pos])
  | case12 => simp
  | case13 =>
    rw [compare_finite hu.canonical hv.canonical, Int.compare_swap, placeOf_finite_negative,
      placeOf_finite_negative, compare_neg_neg]
  | case14 m e hm n f hn =>
    have hu : 0 < rank (.finite .negative m e hm) := rank_finite_pos
    have hv : 0 < rank (.finite .positive n f hn) := rank_finite_pos
    rw [placeOf_finite_negative, placeOf_finite_positive]
    exact below (by omega)
  | case15 m e hm n f hn =>
    have hu : 0 < rank (.finite .positive m e hm) := rank_finite_pos
    have hv : 0 < rank (.finite .negative n f hn) := rank_finite_pos
    rw [placeOf_finite_negative, placeOf_finite_positive]
    exact above (by omega)
  | case16 => exact congrArg some (compare_finite hu.canonical hv.canonical)

end Parts

variable {x y : Binary64}

theorem placeOf_parts (number : x.isNaN = false) : placeOf x.parts = x.place := by
  have hnumber := parts_ne_notANumber number
  rw [placeOf, x.isParts.rank_eq hnumber, x.isParts.signOf_eq hnumber, sign, place]
  cases x.isNegative <;> rfl

theorem compare_toFloat :
    x.toFloat.toModel.compare y.toFloat.toModel =
      if x.isNaN || y.isNaN then none else some (compare x.place y.place) := by
  rw [Float.Model.compare, unpack_toFloat, unpack_toFloat]
  cases hx : x.isNaN with
  | true =>
    rw [isNaN_iff.mp hx]
    rfl
  | false =>
    cases hy : y.isNaN with
    | true =>
      rw [isNaN_iff.mp hy]
      cases x.parts <;> rfl
    | false =>
      rw [compare_eq x.isParts y.isParts (parts_ne_notANumber hx) (parts_ne_notANumber hy),
        placeOf_parts hx, placeOf_parts hy]
      rfl

theorem float_lt_iff {a b : Float} :
    a < b ↔ (a.toModel.compare b.toModel == some .lt) = true := by
  change decide (a.toModel < b.toModel) = true ↔ _
  rw [decide_eq_true_iff]
  rfl

theorem float_le_iff {a b : Float} :
    a ≤ b ↔ (a.toModel.compare b.toModel).any (·.isLE) = true := by
  change decide (a.toModel ≤ b.toModel) = true ↔ _
  rw [decide_eq_true_iff]
  rfl

/-- **The order of doubles is the IEEE-754 order**, for numbers of every kind. -/
theorem toFloat_lt_iff : x.toFloat < y.toFloat ↔ x.lt y = true := by
  rw [float_lt_iff, compare_toFloat, lt]
  cases x.isNaN with
  | true => simp
  | false =>
    cases y.isNaN with
    | true => simp
    | false => simp [Int.compare_eq_lt]

/-- A number that is not above another is at most as large, unless one of the two is a NaN. -/
theorem toFloat_le_iff :
    x.toFloat ≤ y.toFloat ↔ x.isNaN = false ∧ y.isNaN = false ∧ y.lt x = false := by
  rw [float_le_iff, compare_toFloat, lt]
  cases x.isNaN with
  | true => simp
  | false =>
    cases y.isNaN with
    | true => simp
    | false => simp [Int.isLE_compare]

end Binary64

end Showroom
