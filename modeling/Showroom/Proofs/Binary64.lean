import Showroom.Binary64

/-!
# Showroom.Proofs.Binary64

The order of doubles at its ends: nothing is above infinity, and below zero is every negative number
that is neither a NaN nor the negative zero.

* `not_infinity_lt`, `lt_zero_iff`: comparisons with these two numbers.
-/

namespace Showroom
namespace Binary64

variable {x : Binary64}

theorem not_infinity_lt (x : Binary64) : infinity.lt x = false := by
  have hinfinity : infinity.place = 0x7ff0000000000000 := by decide
  rw [lt, hinfinity]
  cases hnan : x.isNaN with
  | true => simp
  | false =>
    have hle : x.magnitude ≤ 0x7ff0000000000000 := UInt64.not_lt.mp (of_decide_eq_false hnan)
    have hmagnitude : x.magnitude.toNat ≤ 0x7ff0000000000000 := UInt64.le_iff_toNat_le.mp hle
    have hplace : ¬ (0x7ff0000000000000 : Int) < x.place := by
      unfold place
      split <;> omega
    simp [hplace]

theorem place_lt_zero_iff : x.place < 0 ↔ x.isNegative = true ∧ x.isZero = false := by
  have hzero : x.isZero = false ↔ x.magnitude.toNat ≠ 0 := by
    rw [isZero, decide_eq_false_iff_not, ← UInt64.toNat_inj]
    rfl
  rw [hzero, place]
  cases x.isNegative with
  | true =>
    simp only [if_true, true_and]
    omega
  | false =>
    simp only [Bool.false_eq_true, if_false, false_and, iff_false]
    omega

theorem lt_zero_iff :
    x.lt zero = true ↔ x.isNegative = true ∧ x.isNaN = false ∧ x.isZero = false := by
  have hzero : zero.place = 0 ∧ zero.isNaN = false := by decide
  rw [lt, hzero.1, hzero.2, Bool.and_eq_true, decide_eq_true_eq, place_lt_zero_iff]
  cases x.isNaN <;> simp

end Binary64
end Showroom
