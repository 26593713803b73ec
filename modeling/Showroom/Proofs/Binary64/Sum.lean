import Showroom.Proofs.Binary64.Rounding

/-!
# Showroom.Proofs.Binary64.Sum

When sums are finite. The exact sum of two finite doubles is a whole number of units, which is rounded
to 53 digits; it is beyond all doubles if it is at least `overflow`, and then the sum is infinite.
An infinite sum stays as it is whatever finite numbers are added to it, so it never becomes a NaN.

* `Binary64.add_units`: what the sum of two finite doubles is.
* `Binary64.add_cases`, `Binary64.add_infinite`: when a sum is finite.
* `Binary64.isNaN_foldl_add`: no sum of finite doubles is a NaN.
* `Binary64.add_small`: numbers of which any many can be added.
-/

namespace Showroom

namespace Binary64

open Float.Model (Format UnpackedFloat)
open Float.Model.UnpackedFloat

section Parts

variable {s t : Sign} {m n : Nat} {e : Int} {u v : UnpackedFloat}

theorem natAbs_apply (s : Sign) (n : Nat) : (s.apply n).natAbs = n := by
  cases s with
  | negative => exact (Int.natAbs_neg _).trans (Int.natAbs_natCast n)
  | positive => exact Int.natAbs_natCast n

theorem apply_mul (s : Sign) (m n : Nat) : s.apply m * n = s.apply (m * n : Nat) := by
  cases s with
  | negative =>
    rw [Sign.apply, Sign.apply]
    push_cast
    ring
  | positive => exact (Nat.cast_mul m n).symm

theorem rounded_zero (s : Sign) : Rounded s (roundUnits 0) (.zero s) := by
  have hnone : roundUnits 0 = 0 := by decide
  rw [hnone]
  exact ⟨trivial, by simp, by simp, rfl, by cases s <;> rfl⟩

theorem rounded_self (form : Canonical u) (finite : u.isFinite = true) :
    Rounded (signOf u) (unitsOf u).natAbs u := by
  cases u with
  | notANumber => cases finite
  | infinity s => cases finite
  | zero s => exact ⟨trivial, by simp, by simp, rfl, by cases s <;> rfl⟩
  | finite s m e pos =>
    refine ⟨form, by simp, by simp, rfl, ?_⟩
    rw [unitsOf, natAbs_apply]
    rfl

theorem roundUnits_unitsOf (form : Canonical u) :
    roundUnits (unitsOf u).natAbs = (unitsOf u).natAbs := by
  have hnone : roundUnits 0 = 0 := by decide
  cases u with
  | finite s m e pos =>
    obtain ⟨hdigits, hleast, hform⟩ := form
    have hlog : m.log2 < 53 := (Nat.log2_lt pos.ne').mpr hdigits
    rw [unitsOf, natAbs_apply]
    refine roundUnits_of_dvd ((Nat.pow_dvd_pow 2 ?_).trans (Nat.dvd_mul_left _ m))
    rw [log2_mul_two_pow pos.ne']
    omega
  | _ => exact hnone

theorem normalize_rounded (M : Int) (least : -1074 ≤ e) (z : Sign) :
    ∃ s n, M * (2 ^ (e + 1074).toNat : Nat) = s.apply (n : Nat) ∧
      Rounded s (roundUnits n) (UnpackedFloat.normalize Format.binary64 M e z) := by
  rcases lt_trichotomy M 0 with hneg | rfl | hpos
  · obtain ⟨m, rfl⟩ : ∃ m : Nat, M = -m := ⟨M.natAbs, by omega⟩
    have hround : UnpackedFloat.normalize Format.binary64 (-m) e z =
        round Format.binary64 .negative m e := by
      rw [UnpackedFloat.normalize, compare_lt_iff_lt.mpr hneg, Int.neg_neg, Int.toNat_natCast]
    rw [hround]
    exact ⟨.negative, _, apply_mul .negative m _, round_rounded (by omega) least⟩
  · exact ⟨z, 0, by cases z <;> simp [Sign.apply], rounded_zero z⟩
  · obtain ⟨m, rfl⟩ : ∃ m : Nat, M = m := ⟨M.natAbs, by omega⟩
    have hround : UnpackedFloat.normalize Format.binary64 m e z =
        round Format.binary64 .positive m e := by
      rw [UnpackedFloat.normalize, compare_gt_iff_gt.mpr hpos, Int.toNat_natCast]
    rw [hround]
    exact ⟨.positive, _, apply_mul .positive m _, round_rounded (by omega) least⟩

theorem decreaseExponent_units {f : Int} (h : f ≤ e) (least : -1074 ≤ f) :
    s.apply (decreaseExponent m e f).1 * (2 ^ (f + 1074).toNat : Nat) =
      s.apply (m * 2 ^ (e + 1074).toNat : Nat) := by
  rw [apply_mul, decreaseExponent, Nat.shiftLeft_eq, Nat.mul_assoc, ← pow_add]
  congr 4
  omega

theorem add_rounded (hu : Canonical u) (hv : Canonical v) (ufinite : u.isFinite = true)
    (vfinite : v.isFinite = true) :
    ∃ s n, unitsOf u + unitsOf v = s.apply (n : Nat) ∧
      Rounded s (roundUnits n) (UnpackedFloat.add Format.binary64 u v) := by
  cases u with
  | notANumber => cases ufinite
  | infinity s => cases ufinite
  | zero s =>
    cases v with
    | notANumber => cases vfinite
    | infinity t => cases vfinite
    | zero t =>
      cases s <;> cases t
      · exact ⟨.negative, 0, rfl, rounded_zero _⟩
      all_goals exact ⟨.positive, 0, rfl, rounded_zero _⟩
    | finite t n f hn =>
      refine ⟨_, _, (zero_add _).trans (rounded_self hv vfinite).units, ?_⟩
      rw [roundUnits_unitsOf hv]
      exact rounded_self hv vfinite
  | finite s m e hm =>
    cases v with
    | notANumber => cases vfinite
    | infinity t => cases vfinite
    | zero t =>
      refine ⟨_, _, (add_zero _).trans (rounded_self hu ufinite).units, ?_⟩
      rw [roundUnits_unitsOf hu]
      exact rounded_self hu ufinite
    | finite t n f hn =>
      have hleast : -1074 ≤ min e f := le_min hu.2.1 hv.2.1
      obtain ⟨sign, n, hunits, hrounded⟩ := normalize_rounded
        (s.apply (decreaseExponent m e (min e f)).1 + t.apply (decreaseExponent n f (min e f)).1)
        hleast .positive
      refine ⟨sign, n, ?_, hrounded⟩
      rw [← hunits, add_mul, decreaseExponent_units (min_le_left e f) hleast,
        decreaseExponent_units (min_le_right e f) hleast]
      rfl

theorem scaled_lt_two_pow {a p : Nat} (digits : m < 2 ^ 53) (h : a ≤ p) :
    m * 2 ^ a < 2 ^ (p + 53) :=
  calc m * 2 ^ a < 2 ^ 53 * 2 ^ a := Nat.mul_lt_mul_of_pos_right digits (Nat.two_pow_pos a)
    _ = 2 ^ (a + 53) := by rw [Nat.mul_comm, ← pow_add]
    _ ≤ 2 ^ (p + 53) := Nat.pow_le_pow_right (by decide) (by omega)

theorem two_pow_le_scaled {a p : Nat} (digits : 2 ^ 52 ≤ m) (h : p < a) :
    2 ^ (p + 53) ≤ m * 2 ^ a :=
  calc 2 ^ (p + 53) ≤ 2 ^ (a + 52) := Nat.pow_le_pow_right (by decide) (by omega)
    _ = 2 ^ 52 * 2 ^ a := by rw [Nat.mul_comm, ← pow_add]
    _ ≤ m * 2 ^ a := Nat.mul_le_mul_right _ digits

/-- The number of units of the first power of two beyond all doubles: those have at most 53 digits,
and the last of them stands for at most 2 to the power of 2045. -/
def beyond : Nat := 2 ^ (2045 + 53)

theorem lt_beyond {a : Nat} (h : n ≤ 2 ^ a) (ha : a < 2045 + 53) : n < beyond := by
  rw [beyond]
  exact h.trans_lt (pow_lt_pow_right₀ one_lt_two ha)

theorem Rounded.rank_lt_iff (h : Rounded s n u) : rank u < 0x7ff0000000000000 ↔ n < beyond := by
  obtain ⟨hform, hnumber, hbounded, -, hunits⟩ := h
  have habs : (unitsOf u).natAbs = n := by rw [hunits, natAbs_apply]
  cases u with
  | notANumber => exact absurd rfl hnumber
  | infinity t => exact absurd rfl (hbounded t)
  | zero t =>
    have hnone : n = 0 := habs.symm
    rw [hnone]
    exact iff_of_true (Nat.zero_lt_succ _) (pow_pos two_pos _)
  | finite t m e hm =>
    obtain ⟨hdigits, hleast, hform⟩ := hform
    rw [unitsOf, natAbs_apply] at habs
    rw [rank, ← habs, beyond]
    rcases Nat.lt_or_ge 2045 (e + 1074).toNat with hlarge | hsmall
    · exact iff_of_false (by omega) (Nat.not_lt.mpr (two_pow_le_scaled (by omega) hlarge))
    · exact iff_of_true (by omega) (scaled_lt_two_pow hdigits hsmall)

end Parts

/-- A finite double in units of the least one above zero; none if it is not finite. -/
def units (x : Binary64) : Int := unitsOf x.parts

variable {x y : Binary64}

theorem units_lt_beyond (hx : x.isFinite = true) : x.units.natAbs < beyond := by
  have hnumber := parts_ne_notANumber (isNaN_of_isFinite hx)
  rw [isFinite_eq] at hx
  refine (rounded_self x.isParts.canonical hx).rank_lt_iff.mp ?_
  rw [x.isParts.rank_eq hnumber]
  exact x.isParts.isFinite_iff.mp hx

/-- **What a sum is.** The exact sum of two finite doubles is rounded. If no double is as large as the
result, the sum is infinite, with its sign. -/
theorem add_units (hx : x.isFinite = true) (hy : y.isFinite = true) :
    ∃ s n, x.units + y.units = s.apply (n : Nat) ∧
      (roundUnits n < beyond → (x.add y).isFinite = true ∧
        (x.add y).units = s.apply (roundUnits n : Nat)) ∧
      (beyond ≤ roundUnits n → (x.add y).parts = .infinity s) := by
  rw [isFinite_eq] at hx hy
  obtain ⟨s, n, hunits, hrounded⟩ := add_rounded x.isParts.canonical y.isParts.canonical hx hy
  have hrank := hrounded.rank_lt_iff
  rw [add_eq]
  refine ⟨s, n, hunits, fun hsmall => ?_, fun hlarge => ?_⟩
  · have hlt := hrank.mpr hsmall
    refine ⟨(isFinite_ofParts hrounded.canonical hrounded.number).mpr hlt, ?_⟩
    rw [units, parts_ofParts hrounded.canonical hlt, hrounded.units]
  · have hge := Nat.not_lt.mp (mt hrank.mp (Nat.not_lt.mpr hlarge))
    rw [ofParts_infinite hrounded.canonical hrounded.number hge, hrounded.sign]

/-- The least number of units that is rounded to infinity: half of a last digit above the largest
double. -/
def overflow : Nat := (2 ^ 54 - 1) * 2 ^ 2044

theorem roundUnits_lt_beyond_iff {n : Nat} : roundUnits n < beyond ↔ n < overflow := by
  have hlast : 2 ^ 2045 = 2 * 2 ^ 2044 := by rw [← pow_succ']
  rw [beyond, overflow, roundUnits_lt_iff, hlast]
  generalize 2 ^ 2044 = p
  omega

theorem add_cases (hx : x.isFinite = true) (hy : y.isFinite = true) :
    ((x.units + y.units).natAbs < overflow ∧ (x.add y).isFinite = true) ∨
      (overflow ≤ (x.units + y.units).natAbs ∧ ∃ s, (x.add y).parts = .infinity s) := by
  obtain ⟨s, n, hunits, hsmall, hlarge⟩ := add_units hx hy
  have hoverflow := roundUnits_lt_beyond_iff (n := n)
  rw [hunits, natAbs_apply]
  rcases Nat.lt_or_ge (roundUnits n) beyond with hlt | hge
  · exact .inl ⟨hoverflow.mp hlt, (hsmall hlt).1⟩
  · exact .inr ⟨Nat.not_lt.mp (mt hoverflow.mpr (Nat.not_lt.mpr hge)), s, hlarge hge⟩

theorem add_infinite {s : Sign} (hx : x.parts = .infinity s) (hy : y.isFinite = true) :
    (x.add y).parts = .infinity s := by
  have hadd : UnpackedFloat.add Format.binary64 x.parts y.parts = .infinity s := by
    rw [hx]
    rw [isFinite_eq] at hy
    generalize y.parts = v at hy
    cases v with
    | notANumber => cases hy
    | infinity t => cases hy
    | zero t => rfl
    | finite t m e pos => rfl
  rw [add_eq, hadd]
  exact ofParts_infinite trivial (by simp) (Nat.le_refl _)

theorem finite_or_infinite (h : x.isNaN = false) :
    x.isFinite = true ∨ ∃ s, x.parts = .infinity s := by
  have hnumber := parts_ne_notANumber h
  rw [isFinite_eq]
  cases hx : x.parts with
  | notANumber => exact absurd hx hnumber
  | infinity s => exact .inr ⟨s, rfl⟩
  | zero | finite => exact .inl rfl

theorem isNaN_add (hx : x.isNaN = false) (hy : y.isFinite = true) : (x.add y).isNaN = false := by
  rcases finite_or_infinite hx with hfinite | ⟨s, hs⟩
  · rcases add_cases hfinite hy with ⟨-, hadd⟩ | ⟨-, s, hadd⟩
    · exact isNaN_of_isFinite hadd
    · exact isNaN_of_infinite hadd
  · exact isNaN_of_infinite (add_infinite hs hy)

theorem isNaN_foldl_add {ys : List Binary64} (finite : ∀ y ∈ ys, y.isFinite = true)
    (hx : x.isNaN = false) : (ys.foldl add x).isNaN = false := by
  induction ys generalizing x with
  | nil => exact hx
  | cons y ys ih =>
    obtain ⟨hy, hys⟩ := List.forall_mem_cons.mp finite
    exact ih hys (isNaN_add hx hy)

/-- A number is at most a power of two if its magnitude is that of the power at most. -/
theorem natAbs_units_le {a b : Nat} (h : x.magnitude.toNat ≤ (a + 1) * 2 ^ 52)
    (hb : a + 52 = b) : x.units.natAbs ≤ 2 ^ b := by
  subst hb
  have hparts := x.isParts
  rw [units]
  generalize x.parts = u at hparts
  cases hparts with
  | zero => exact Nat.zero_le _
  | infinite => exact Nat.zero_le _
  | nan => exact Nat.zero_le _
  | subnormal pos hsmall =>
    rw [unitsOf, natAbs_apply]
    calc x.magnitude.toNat * 2 ^ 0 ≤ 2 ^ 52 := by omega
      _ ≤ 2 ^ (a + 52) := Nat.pow_le_pow_right (by decide) (Nat.le_add_left 52 a)
  | normal exponent fraction hmagnitude hsmall least most =>
    have hscale : ((exponent : Int) - 1075 + 1074).toNat = exponent - 1 := by omega
    rw [unitsOf, natAbs_apply, hscale]
    rcases Nat.lt_or_ge a exponent with hlast | hbelow
    · -- Of the numbers with the largest exponent, only the power itself is small enough.
      have hfraction : fraction = 0 := by omega
      have hexponent : exponent - 1 = a := by omega
      rw [hfraction, hexponent, Nat.add_comm a, pow_add]
      exact Nat.le_refl _
    · refine (scaled_lt_two_pow (by omega) (Nat.le_refl _)).le.trans ?_
      exact Nat.pow_le_pow_right (by decide) (by omega)

/-- However many numbers up to 2 to the power of 970 are added, one after the other, the sum does not
go above 2 to the power of 1023, where they are at most half of the last digit. -/
theorem add_small (hx : x.isFinite = true) (hy : y.isFinite = true)
    (xsmall : x.units.natAbs ≤ 2 ^ (2044 + 53)) (ysmall : y.units.natAbs ≤ 2 ^ 2044) :
    (x.units + y.units).natAbs < overflow ∧ (x.add y).units.natAbs ≤ 2 ^ (2044 + 53) := by
  obtain ⟨s, n, hunits, hsmall, -⟩ := add_units hx hy
  have hn : n ≤ 2 ^ (2044 + 53) + 2 ^ 2044 := by
    have habs : (x.units + y.units).natAbs = n := by rw [hunits, natAbs_apply]
    exact habs ▸ (Int.natAbs_add_le _ _).trans (Nat.add_le_add xsmall ysmall)
  have hle : roundUnits n ≤ 2 ^ (2044 + 53) := roundUnits_le hn
  have hlt : roundUnits n < beyond := lt_beyond hle (by decide)
  rw [(hsmall hlt).2, natAbs_apply, hunits, natAbs_apply]
  exact ⟨roundUnits_lt_beyond_iff.mp hlt, hle⟩

end Binary64

end Showroom
