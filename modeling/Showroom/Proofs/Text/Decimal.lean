import Mathlib.Algebra.Group.Nat.Defs
import Showroom.Proofs.Bytes
import Showroom.Text.Decimal

/-!
# Showroom.Proofs.Text.Decimal

Whole numbers in decimal digits stand for themselves, and no zero is written before other digits.

* `read?_eq_some_iff`: the texts that are read as numbers.
* `value_digits`: the digits of a number stand for it.
* `read?_digits`, `length_digits_le`: reading digits, and how many there are.
* `head?_digits`: only the digits of zero start with a zero.
* `ofText_digits`: digits take one byte each.
-/

namespace Showroom.Text.Decimal

theorem toNat_digitChar : ∀ d < 10, (digitChar d).toNat = 48 + d := by decide

theorem isDigit_digitChar : ∀ d < 10, isDigit (digitChar d) = true := by decide

theorem digits_ne_nil (n : Nat) : digits n ≠ [] := by
  rw [digits]
  split <;> simp

theorem isDigit_of_mem_digits (n : Nat) : ∀ c ∈ digits n, isDigit c = true := by
  induction n using digits.induct with
  | case1 n hn =>
    rw [digits, if_pos hn]
    intro c hc
    rw [List.mem_singleton.mp hc]
    exact isDigit_digitChar n hn
  | case2 n hn ih =>
    rw [digits, if_neg hn]
    intro c hc
    rcases List.mem_append.mp hc with hc | hc
    · exact ih c hc
    · rw [List.mem_singleton.mp hc]
      exact isDigit_digitChar _ (Nat.mod_lt n (by omega))

theorem read?_eq_some_iff {cs : List Char} {n : Nat} :
    read? cs = some n ↔ cs ≠ [] ∧ (∀ c ∈ cs, isDigit c = true) ∧ value cs = n := by
  rw [← List.all_eq_true, read?]
  cases cs with
  | nil => simp
  | cons c cs =>
    rw [List.isEmpty_cons]
    cases (c :: cs).all isDigit <;> simp

theorem value_digits (n : Nat) : value (digits n) = n := by
  induction n using digits.induct with
  | case1 n hn =>
    rw [digits, if_pos hn]
    simp [value, digitValue, toNat_digitChar n hn]
  | case2 n hn ih =>
    rw [value] at ih
    rw [digits, if_neg hn, value, List.foldl_append, ih]
    simp only [List.foldl_cons, List.foldl_nil, digitValue]
    rw [toNat_digitChar _ (Nat.mod_lt n (by omega))]
    omega

theorem head?_digits {n : Nat} (h : 0 < n) : (digits n).head? ≠ some '0' := by
  induction n using digits.induct with
  | case1 n hn =>
    rw [digits, if_pos hn]
    intro hc
    have hv := congrArg Char.toNat (Option.some.inj hc)
    rw [toNat_digitChar n hn] at hv
    have hz : '0'.toNat = 48 := rfl
    omega
  | case2 n hn ih =>
    rw [digits, if_neg hn, List.head?_append]
    cases hd : (digits (n / 10)).head? with
    | none => exact absurd (List.head?_eq_none_iff.mp hd) (digits_ne_nil _)
    | some c =>
      rw [← hd, Option.or_of_isSome (by rw [hd]; rfl)]
      exact ih (by omega)

theorem digits_zero : digits 0 = ['0'] := by
  rw [digits, if_pos (by decide)]
  rfl

theorem read?_digits (n : Nat) : read? (digits n) = some n :=
  read?_eq_some_iff.mpr ⟨digits_ne_nil n, isDigit_of_mem_digits n, value_digits n⟩

theorem not_mem_digits {c : Char} (h : isDigit c = false) (n : Nat) : c ∉ digits n := fun hmem =>
  absurd (isDigit_of_mem_digits n c hmem) (Bool.eq_false_iff.mp h)

theorem length_digits_le {n k : Nat} (hk : 0 < k) (h : n < 10 ^ k) : (digits n).length ≤ k := by
  induction n using digits.induct generalizing k with
  | case1 n hn =>
    rw [digits, if_pos hn]
    exact hk
  | case2 n hn ih =>
    obtain ⟨j, rfl⟩ := Nat.exists_eq_add_of_lt hk
    rw [Nat.zero_add, Nat.pow_succ] at h
    have hj : 0 < j := by
      rcases Nat.eq_zero_or_pos j with rfl | hj
      · omega
      · exact hj
    have hrest := ih hj (by omega)
    rw [digits, if_neg hn, List.length_append, List.length_singleton]
    omega

theorem toNat_lt_of_isDigit {c : Char} (h : isDigit c = true) : c.toNat < 128 := by
  simp only [isDigit, Bool.and_eq_true, decide_eq_true_eq] at h
  have hle : c.toNat ≤ 57 := h.2
  omega

theorem ofText_digits (n : Nat) :
    Bytes.ofText (String.ofList (digits n)) = (digits n).map fun c => UInt8.ofNat c.toNat :=
  Bytes.ofText_ascii fun c hc => toNat_lt_of_isDigit (isDigit_of_mem_digits n c hc)

end Showroom.Text.Decimal
