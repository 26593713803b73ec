import Showroom.Proofs.Binary64.Order
import Showroom.Proofs.Binary64.Sum

/-!
# Showroom.Proofs.Binary64.Monotone

Sums in the order of numbers. Rounding keeps the order and leaves doubles as they are, so a sum is not
below one of its numbers as long as the other is not below zero. Overflow goes to the infinity on its
own side, and an infinite number stays what it is.

* `Binary64.roundUnits_mono`: rounding keeps the order.
* `Binary64.units_le_iff`: finite doubles are in the order of their units.
* `Binary64.le_add`, `Binary64.add_le`: a sum beside one of its numbers.
-/

namespace Showroom

namespace Binary64

open Float.Model (UnpackedFloat)
open Float.Model.UnpackedFloat

/-! ## Rounding -/

section Rounding

variable {m n : Nat}

theorem nearest_mono (h : m ≤ n) (k : Nat) : nearest m k .exact ≤ nearest n k .exact := by
  have hdiv : m / 2 ^ k ≤ n / 2 ^ k := Nat.div_le_div_right h
  rcases Nat.lt_or_eq_of_le hdiv with hlt | heq
  · exact (nearest_le_succ m k _).trans (Nat.le_trans hlt (div_le_nearest n k _))
  · have hm := Nat.div_add_mod m (2 ^ k)
    have hn := Nat.div_add_mod n (2 ^ k)
    rw [heq] at hm
    rw [nearest_exact, nearest_exact, heq]
    have hmod : m % 2 ^ k ≤ n % 2 ^ k := by omega
    split
    · exact Nat.le_add_right _ _
    · split
      · split
        · omega
        · split <;> omega
      · split
        · omega
        · split <;> omega

theorem roundUnits_mono (h : m ≤ n) : roundUnits m ≤ roundUnits n := by
  rcases Nat.eq_zero_or_pos m with rfl | hm
  · have hnone : roundUnits 0 = 0 := by decide
    rw [hnone]
    exact Nat.zero_le _
  · have hn : n ≠ 0 := by omega
    have hlog : m.log2 ≤ n.log2 := (Nat.le_log2 hn).mpr ((Nat.log2_self_le hm.ne').trans h)
    rcases Nat.lt_or_eq_of_le hlog with hlt | heq
    -- A power of two is between them, and between what they are rounded to.
    · exact (roundUnits_le_two_pow ((Nat.log2_lt hm.ne').mp hlt)).trans
        (two_pow_le_roundUnits (Nat.log2_self_le hn))
    · rw [roundUnits, roundUnits, heq]
      exact Nat.mul_le_mul_right _ (nearest_mono h _)

end Rounding

/-! ## Units and places -/

section Parts

variable {u v : UnpackedFloat}

theorem natAbs_unitsOf_lt (hu : Canonical u) (hv : Canonical v) (ufinite : u.isFinite = true)
    (vfinite : v.isFinite = true) (h : rank u < rank v) :
    (unitsOf u).natAbs < (unitsOf v).natAbs := by
  cases v with
  | notANumber => cases vfinite
  | infinity t => cases vfinite
  | zero t => exact absurd h (Nat.not_lt_zero _)
  | finite t n f hn =>
    rw [unitsOf, natAbs_apply]
    cases u with
    | notANumber => cases ufinite
    | infinity s => cases ufinite
    | zero s => exact Nat.mul_pos hn (Nat.two_pow_pos _)
    | finite s m e hm =>
      obtain ⟨hmdigits, -, hmform⟩ := hu
      obtain ⟨hndigits, hfleast, hnform⟩ := hv
      rw [unitsOf, natAbs_apply]
      rw [rank, rank] at h
      rcases Nat.lt_trichotomy (e + 1074).toNat (f + 1074).toNat with hlt | heq | hgt
      · obtain ⟨a, ha⟩ := Nat.exists_eq_add_of_lt hlt
        have hfull : 2 ^ 52 ≤ n := by omega
        rw [ha]
        exact (scaled_lt_two_pow hmdigits (Nat.le_add_right _ a)).trans_le
          (two_pow_le_scaled hfull (Nat.lt_succ_self _))
      · rw [heq]
        exact Nat.mul_lt_mul_of_pos_right (by omega) (Nat.two_pow_pos _)
      · omega

theorem natAbs_unitsOf_eq (hu : Canonical u) (hv : Canonical v) (ufinite : u.isFinite = true)
    (vfinite : v.isFinite = true) (h : rank u = rank v) :
    (unitsOf u).natAbs = (unitsOf v).natAbs := by
  cases u with
  | notANumber => cases ufinite
  | infinity s => cases ufinite
  | zero s =>
    cases v with
    | notANumber => cases vfinite
    | infinity t => cases vfinite
    | zero t => rfl
    | finite t n f hn =>
      have hpos : 0 < rank (.finite t n f hn) := rank_finite_pos
      exact absurd h hpos.ne
  | finite s m e hm =>
    cases v with
    | notANumber => cases vfinite
    | infinity t => cases vfinite
    | zero t =>
      have hpos : 0 < rank (.finite s m e hm) := rank_finite_pos
      exact absurd h.symm hpos.ne
    | finite t n f hn =>
      obtain ⟨hmdigits, -, hmform⟩ := hu
      obtain ⟨hndigits, -, hnform⟩ := hv
      rw [rank, rank] at h
      have hexponent : (e + 1074).toNat = (f + 1074).toNat := by omega
      have hdigits : m = n := by omega
      rw [unitsOf, unitsOf, natAbs_apply, natAbs_apply, hexponent, hdigits]

theorem natAbs_unitsOf_lt_iff (hu : Canonical u) (hv : Canonical v) (ufinite : u.isFinite = true)
    (vfinite : v.isFinite = true) :
    (unitsOf u).natAbs < (unitsOf v).natAbs ↔ rank u < rank v := by
  refine ⟨fun h => ?_, natAbs_unitsOf_lt hu hv ufinite vfinite⟩
  by_contra hnot
  rcases Nat.lt_or_eq_of_le (Nat.not_lt.mp hnot) with hlt | heq
  · have hmore := natAbs_unitsOf_lt hv hu vfinite ufinite hlt
    omega
  · have hsame := natAbs_unitsOf_eq hv hu vfinite ufinite heq
    omega

theorem unitsOf_le_iff (hu : Canonical u) (hv : Canonical v) (ufinite : u.isFinite = true)
    (vfinite : v.isFinite = true) : unitsOf u ≤ unitsOf v ↔ placeOf u ≤ placeOf v := by
  -- Beside each other and beside zero, the units are in the order of the ranks.
  have huv := natAbs_unitsOf_lt_iff hu hv ufinite vfinite
  have hvu := natAbs_unitsOf_lt_iff hv hu vfinite ufinite
  have hzero : ∀ {w : UnpackedFloat}, Canonical w → w.isFinite = true →
      (0 < (unitsOf w).natAbs ↔ 0 < rank w) :=
    fun hw wfinite => natAbs_unitsOf_lt_iff (u := .zero .positive) trivial hw rfl wfinite
  have hu0 := hzero hu ufinite
  have hv0 := hzero hv vfinite
  rw [(rounded_self hu ufinite).units, (rounded_self hv vfinite).units, placeOf, placeOf]
  cases signOf u <;> cases signOf v <;> simp only [Sign.apply] <;> omega

end Parts

variable {x y : Binary64}

theorem units_le_iff (hx : x.isFinite = true) (hy : y.isFinite = true) :
    x.units ≤ y.units ↔ x.place ≤ y.place := by
  rw [← placeOf_parts (isNaN_of_isFinite hx), ← placeOf_parts (isNaN_of_isFinite hy)]
  rw [isFinite_eq] at hx hy
  exact unitsOf_le_iff x.isParts.canonical y.isParts.canonical hx hy

/-! ## Sums -/

def roundInt (z : Int) : Int :=
  if 0 ≤ z then (roundUnits z.natAbs : Int) else -(roundUnits z.natAbs : Int)

theorem roundInt_apply (s : Sign) (n : Nat) :
    roundInt (s.apply n) = s.apply (roundUnits n : Nat) := by
  have hnone : roundUnits 0 = 0 := by decide
  rw [roundInt, natAbs_apply]
  cases s with
  | positive => exact if_pos (Int.natCast_nonneg n)
  | negative =>
    rcases Nat.eq_zero_or_pos n with rfl | hpos
    · rw [hnone]
      rfl
    · exact if_neg (by simp only [Sign.apply]; omega)

theorem roundInt_mono {a b : Int} (h : a ≤ b) : roundInt a ≤ roundInt b := by
  have hab := roundUnits_mono (m := a.natAbs) (n := b.natAbs)
  have hba := roundUnits_mono (m := b.natAbs) (n := a.natAbs)
  rw [roundInt, roundInt]
  split
  · rw [if_pos (by omega)]
    omega
  · split <;> omega

theorem roundInt_units (x : Binary64) : roundInt x.units = x.units := by
  have hself : roundUnits x.units.natAbs = x.units.natAbs := roundUnits_unitsOf x.isParts.canonical
  rw [roundInt, hself]
  split <;> omega

/-- A sum is the exact one, rounded; it is infinite if no double is as large as that. -/
theorem add_roundInt (hx : x.isFinite = true) (hy : y.isFinite = true) :
    ((x.add y).isFinite = true ∧ (x.add y).units = roundInt (x.units + y.units)) ∨
      ((x.add y).parts = .infinity .positive ∧ (beyond : Int) ≤ roundInt (x.units + y.units)) ∨
      ((x.add y).parts = .infinity .negative ∧ roundInt (x.units + y.units) ≤ -(beyond : Int)) := by
  obtain ⟨s, n, hunits, hsmall, hlarge⟩ := add_units hx hy
  rw [hunits, roundInt_apply]
  rcases Nat.lt_or_ge (roundUnits n) beyond with hlt | hge
  · exact .inl (hsmall hlt)
  · cases s with
    | positive => exact .inr (.inl ⟨hlarge hge, Int.ofNat_le.mpr hge⟩)
    | negative => exact .inr (.inr ⟨hlarge hge, Int.neg_le_neg (Int.ofNat_le.mpr hge)⟩)

theorem place_of_infinite {s : Sign} (h : x.parts = .infinity s) :
    x.place = s.apply 0x7ff0000000000000 := by
  rw [← placeOf_parts (isNaN_of_infinite h), h]
  rfl

theorem natAbs_place_le (h : x.isNaN = false) : x.place.natAbs ≤ 0x7ff0000000000000 := by
  have hmagnitude : x.magnitude ≤ 0x7ff0000000000000 := UInt64.not_lt.mp (of_decide_eq_false h)
  have hle : x.magnitude.toNat ≤ 0x7ff0000000000000 := UInt64.le_iff_toNat_le.mp hmagnitude
  rw [place]
  split <;> omega

theorem place_le_add (hx : x.isNaN = false) (hy : y.isFinite = true) (h : 0 ≤ y.place) :
    x.place ≤ (x.add y).place := by
  rcases finite_or_infinite hx with hfinite | ⟨s, hs⟩
  · have hzero : zero.units ≤ y.units := (units_le_iff (by decide) hy).mpr h
    have hexact : x.units ≤ roundInt (x.units + y.units) :=
      calc x.units = roundInt x.units := (roundInt_units x).symm
        _ ≤ roundInt (x.units + y.units) := roundInt_mono (le_add_of_nonneg_right hzero)
    have hbelow := units_lt_beyond hfinite
    rcases add_roundInt hfinite hy with ⟨hadd, hunits⟩ | ⟨hadd, -⟩ | ⟨hadd, hlow⟩
    · exact (units_le_iff hfinite hadd).mp (hunits ▸ hexact)
    · have hplace := natAbs_place_le hx
      rw [place_of_infinite hadd, Sign.apply]
      omega
    · omega
  · rw [place_of_infinite hs, place_of_infinite (add_infinite hs hy)]

theorem add_place_le (hx : x.isNaN = false) (hy : y.isFinite = true) (h : y.place ≤ 0) :
    (x.add y).place ≤ x.place := by
  rcases finite_or_infinite hx with hfinite | ⟨s, hs⟩
  · have hzero : y.units ≤ zero.units := (units_le_iff hy (by decide)).mpr h
    have hexact : roundInt (x.units + y.units) ≤ x.units :=
      calc roundInt (x.units + y.units) ≤ roundInt x.units :=
            roundInt_mono (add_le_of_nonpos_right hzero)
        _ = x.units := roundInt_units x
    have hbelow := units_lt_beyond hfinite
    rcases add_roundInt hfinite hy with ⟨hadd, hunits⟩ | ⟨hadd, hhigh⟩ | ⟨hadd, -⟩
    · exact (units_le_iff hadd hfinite).mp (hunits ▸ hexact)
    · omega
    · have hplace := natAbs_place_le hx
      rw [place_of_infinite hadd, Sign.apply]
      omega
  · rw [place_of_infinite hs, place_of_infinite (add_infinite hs hy)]

theorem lt_eq_false_iff_place (hx : x.isNaN = false) (hy : y.isNaN = false) :
    y.lt x = false ↔ x.place ≤ y.place := by
  rw [lt, hx, hy, Bool.not_false, Bool.true_and, Bool.true_and, decide_eq_false_iff_not, Int.not_lt]

theorem toFloat_le_iff_place (hx : x.isNaN = false) (hy : y.isNaN = false) :
    x.toFloat ≤ y.toFloat ↔ x.place ≤ y.place := by
  rw [toFloat_le_iff, lt_eq_false_iff_place hx hy]
  exact ⟨fun h => h.2.2, fun h => ⟨hx, hy, h⟩⟩

/-- **A sum is not below one of its numbers** if the other is not below zero. -/
theorem toFloat_le_self (hx : x.isNaN = false) : x.toFloat ≤ x.toFloat :=
  (toFloat_le_iff_place hx hx).mpr (Int.le_refl _)

theorem le_add (hx : x.isNaN = false) (hy : y.isFinite = true) (h : y.lt zero = false) :
    x.toFloat ≤ (x.add y).toFloat := by
  have hplace : 0 ≤ y.place := (lt_eq_false_iff_place (by decide) (isNaN_of_isFinite hy)).mp h
  exact (toFloat_le_iff_place hx (isNaN_add hx hy)).mpr (place_le_add hx hy hplace)

theorem add_le (hx : x.isNaN = false) (hy : y.isFinite = true) (h : zero.lt y = false) :
    (x.add y).toFloat ≤ x.toFloat := by
  have hplace : y.place ≤ 0 := (lt_eq_false_iff_place (isNaN_of_isFinite hy) (by decide)).mp h
  exact (toFloat_le_iff_place (isNaN_add hx hy) hx).mpr (add_place_le hx hy hplace)

theorem le_foldl_add {ys : List Binary64} (finite : ∀ y ∈ ys, y.isFinite = true)
    (hx : x.isNaN = false) (h : ∀ y ∈ ys, y.lt zero = false) :
    x.toFloat ≤ (ys.foldl add x).toFloat := by
  rw [toFloat_le_iff_place hx (isNaN_foldl_add finite hx)]
  induction ys generalizing x with
  | nil => exact Int.le_refl _
  | cons y ys ih =>
    obtain ⟨hy, hys⟩ := List.forall_mem_cons.mp finite
    obtain ⟨hpos, hlater⟩ := List.forall_mem_cons.mp h
    have hplace : 0 ≤ y.place := (lt_eq_false_iff_place (by decide) (isNaN_of_isFinite hy)).mp hpos
    exact (place_le_add hx hy hplace).trans (ih hys (isNaN_add hx hy) hlater)

end Binary64

end Showroom
