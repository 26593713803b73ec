import Showroom.Proofs.Binary64.Parts

/-!
# Showroom.Proofs.Binary64.Rounding

How results are rounded to 53 binary digits. Dropping digits keeps two bits about what is dropped: the
highest digit of it, and whether anything else of it is set. They tell whether the rest is below, at
or above a half, so that a number goes to the nearest one that is left, and to the even one of two.

* `Binary64.nearest_exact`: what is left when digits have been dropped.
* `Binary64.roundWithAccuracy_rounded`, `Binary64.round_rounded`: what is rounded keeps its sign and
  has the form of a double, and how large it is.
* `Binary64.roundUnits_lt_iff`, `Binary64.roundUnits_le`: when it is within a bound.
-/

namespace Showroom

namespace Binary64

open Float.Model (Format UnpackedFloat totalExponent)
open Float.Model.UnpackedFloat

/-- A number after `k` binary digits have been dropped from it, when those are considered. -/
def nearest (m k : Nat) (accuracy : Accuracy) : Nat :=
  (ExtendedMantissa.ofMantissaAndAccuracy m accuracy >>> k).roundedMantissa

section Nearest

variable {m k c : Nat} {accuracy : Accuracy}

theorem mantissa_ofMantissaAndAccuracy (m : Nat) (accuracy : Accuracy) :
    (ExtendedMantissa.ofMantissaAndAccuracy m accuracy).mantissa = m := by
  cases accuracy with
  | exact => rfl
  | inexact o => cases o <;> rfl

theorem shiftRight_succ (em : ExtendedMantissa) (k : Nat) :
    em >>> (k + 1) = (em >>> k).shiftRightOne := rfl

theorem mantissa_shiftRight (em : ExtendedMantissa) (k : Nat) :
    (em >>> k).mantissa = em.mantissa / 2 ^ k := by
  induction k with
  | zero => exact (Nat.div_one _).symm
  | succ k ih =>
    rw [shiftRight_succ, pow_succ, ← Nat.div_div_eq_div_mul, ← ih]
    rfl

theorem mantissa_le_roundedMantissa (em : ExtendedMantissa) : em.mantissa ≤ em.roundedMantissa := by
  obtain ⟨m, round, sticky⟩ := em
  cases round <;> cases sticky <;>
    simp [ExtendedMantissa.roundedMantissa, ExtendedMantissa.accuracy, Accuracy.roundToNearestEven]

theorem roundedMantissa_le (em : ExtendedMantissa) : em.roundedMantissa ≤ em.mantissa + 1 := by
  obtain ⟨m, round, sticky⟩ := em
  cases round <;> cases sticky <;>
    simp [ExtendedMantissa.roundedMantissa, ExtendedMantissa.accuracy, Accuracy.roundToNearestEven]
  omega

theorem div_le_nearest (m k : Nat) (accuracy : Accuracy) : m / 2 ^ k ≤ nearest m k accuracy := by
  have hle := mantissa_le_roundedMantissa
    (ExtendedMantissa.ofMantissaAndAccuracy m accuracy >>> k)
  rw [mantissa_shiftRight, mantissa_ofMantissaAndAccuracy] at hle
  exact hle

theorem nearest_le_succ (m k : Nat) (accuracy : Accuracy) :
    nearest m k accuracy ≤ m / 2 ^ k + 1 := by
  have hle := roundedMantissa_le (ExtendedMantissa.ofMantissaAndAccuracy m accuracy >>> k)
  rw [mantissa_shiftRight, mantissa_ofMantissaAndAccuracy] at hle
  exact hle

/-- What is known of the digits that have been dropped: how twice their value compares with the last
digit that is left. -/
structure Residue (em : ExtendedMantissa) (m k : Nat) : Prop where
  mantissa : em.mantissa = m / 2 ^ k
  round : em.roundBit = decide (2 ^ k ≤ 2 * (m % 2 ^ k))
  sticky : em.stickyBit = decide (2 * (m % 2 ^ k) ≠ 0 ∧ 2 * (m % 2 ^ k) ≠ 2 ^ k)

theorem residue_shiftRight (m k : Nat) :
    Residue (ExtendedMantissa.ofMantissaAndAccuracy m .exact >>> k) m k := by
  induction k with
  | zero =>
    refine ⟨(Nat.div_one m).symm, ?_, ?_⟩
    · rw [pow_zero, Nat.mod_one]
      rfl
    · rw [pow_zero, Nat.mod_one]
      rfl
  | succ k ih =>
    have hlt : m % 2 ^ k < 2 ^ k := Nat.mod_lt _ (Nat.two_pow_pos k)
    have hmod : m % 2 ^ (k + 1) = m % 2 ^ k + 2 ^ k * (m / 2 ^ k % 2) := Nat.mod_pow_succ
    rw [shiftRight_succ]
    generalize ExtendedMantissa.ofMantissaAndAccuracy m .exact >>> k = em at ih
    refine ⟨?_, ?_, ?_⟩
    · rw [pow_succ, ← Nat.div_div_eq_div_mul, ← ih.mantissa]
      rfl
    · change (em.mantissa % 2 != 0) = _
      rw [ih.mantissa, hmod, pow_succ]
      rcases Nat.mod_two_eq_zero_or_one (m / 2 ^ k) with h | h
      · rw [h, bne_self_eq_false, eq_comm, decide_eq_false_iff_not]
        omega
      · rw [h, eq_comm]
        refine decide_eq_true ?_
        omega
    · change (em.roundBit || em.stickyBit) = _
      rw [ih.round, ih.sticky, hmod, pow_succ, Bool.eq_iff_iff]
      simp only [Bool.or_eq_true, decide_eq_true_eq]
      rcases Nat.mod_two_eq_zero_or_one (m / 2 ^ k) with h | h
      · rw [h]
        omega
      · rw [h]
        omega

/-- Exact numbers go to the nearest one, and to the even one of two that are equally near. -/
theorem nearest_exact (m k : Nat) :
    nearest m k .exact = m / 2 ^ k +
      if 2 * (m % 2 ^ k) < 2 ^ k then 0 else if 2 * (m % 2 ^ k) = 2 ^ k then m / 2 ^ k % 2 else 1 := by
  obtain ⟨hmantissa, hround, hsticky⟩ := residue_shiftRight m k
  have hpos : 0 < 2 ^ k := Nat.two_pow_pos k
  rw [nearest]
  generalize ExtendedMantissa.ofMantissaAndAccuracy m .exact >>> k = em at *
  obtain ⟨q, round, sticky⟩ := em
  cases hmantissa
  dsimp only at hround hsticky
  rw [eq_comm] at hround hsticky
  split
  · rename_i hbelow
    cases round with
    | true =>
      rw [decide_eq_true_eq] at hround
      omega
    | false => cases sticky <;> rfl
  · split
    · rename_i htie
      cases round with
      | false =>
        rw [decide_eq_false_iff_not] at hround
        omega
      | true =>
        cases sticky with
        | true =>
          rw [decide_eq_true_eq] at hsticky
          exact absurd htie hsticky.2
        | false => rfl
    · cases round with
      | false =>
        rw [decide_eq_false_iff_not] at hround
        omega
      | true =>
        cases sticky with
        | true => rfl
        | false =>
          rw [decide_eq_false_iff_not] at hsticky
          omega

theorem nearest_of_dvd (h : 2 ^ k ∣ m) : nearest m k .exact = m / 2 ^ k := by
  rw [nearest_exact, Nat.mod_eq_zero_of_dvd h, if_pos (by simp), Nat.add_zero]

theorem nearest_mul_two_pow (m k b : Nat) :
    nearest (m * 2 ^ b) (k + b) .exact = nearest m k .exact := by
  have hpos : 0 < 2 ^ b := Nat.two_pow_pos b
  have hdiv : m * 2 ^ b / 2 ^ (k + b) = m / 2 ^ k := by
    rw [pow_add, Nat.mul_div_mul_right _ _ hpos]
  have hmod : 2 * (m * 2 ^ b % 2 ^ (k + b)) = 2 * (m % 2 ^ k) * 2 ^ b := by
    rw [pow_add, Nat.mul_mod_mul_right, Nat.mul_assoc]
  rw [nearest_exact, nearest_exact, hdiv, hmod, pow_add]
  simp only [Nat.mul_lt_mul_right hpos, Nat.mul_left_inj hpos.ne']

theorem nearest_le (h : 2 * m < (2 * c + 1) * 2 ^ k ∨ 2 * m = (2 * c + 1) * 2 ^ k ∧ c % 2 = 0) :
    nearest m k .exact ≤ c := by
  have hdiv := Nat.div_add_mod m (2 ^ k)
  have hlt : m % 2 ^ k < 2 ^ k := Nat.mod_lt _ (Nat.two_pow_pos k)
  rw [nearest_exact]
  generalize m / 2 ^ k = q at *
  generalize m % 2 ^ k = r at *
  rcases Nat.lt_trichotomy q c with hq | rfl | hq
  · split
    · omega
    · split
      · omega
      · omega
  · have hexpand : (2 * q + 1) * 2 ^ k = 2 * (2 ^ k * q) + 2 ^ k := by ring
    rw [hexpand] at h
    split
    · omega
    · split
      · omega
      · omega
  · have hmul : 2 ^ k * (c + 1) ≤ 2 ^ k * q := Nat.mul_le_mul_left _ hq
    have hexpand : (2 * c + 1) * 2 ^ k + 2 ^ k = 2 * (2 ^ k * (c + 1)) := by ring
    omega

theorem lt_nearest (h : (2 * c + 1) * 2 ^ k ≤ 2 * m) (odd : c % 2 = 1) :
    c < nearest m k .exact := by
  have hdiv := Nat.div_add_mod m (2 ^ k)
  have hlt : m % 2 ^ k < 2 ^ k := Nat.mod_lt _ (Nat.two_pow_pos k)
  rw [nearest_exact]
  generalize m / 2 ^ k = q at *
  generalize m % 2 ^ k = r at *
  rcases Nat.lt_trichotomy q c with hq | rfl | hq
  · have hmul : 2 ^ k * (q + 1) ≤ 2 ^ k * c := Nat.mul_le_mul_left _ hq
    have hexpand : (2 * c + 1) * 2 ^ k = 2 * (2 ^ k * c) + 2 ^ k := by ring
    have hsucc : 2 ^ k * (q + 1) = 2 ^ k * q + 2 ^ k := by ring
    omega
  · have hexpand : (2 * q + 1) * 2 ^ k = 2 * (2 ^ k * q) + 2 ^ k := by ring
    split
    · omega
    · split
      · omega
      · omega
  · omega

theorem nearest_le_of_le (h : m ≤ c * 2 ^ k) (hexact : m = c * 2 ^ k → accuracy = .exact) :
    nearest m k accuracy ≤ c := by
  rcases Nat.lt_or_eq_of_le h with hlt | rfl
  · have hq : m / 2 ^ k < c := (Nat.div_lt_iff_lt_mul (Nat.two_pow_pos k)).mpr hlt
    exact (nearest_le_succ m k accuracy).trans hq
  · rw [hexact rfl, nearest_of_dvd (Nat.dvd_mul_left _ _),
      Nat.mul_div_cancel _ (Nat.two_pow_pos k)]

end Nearest

/-! ## Numbers in units -/

/-- A finite number in units of the least double above zero, which is 2 to the power of -1074. -/
def unitsOf : UnpackedFloat → Int
  | .finite s m e _ => s.apply (m * 2 ^ (e + 1074).toNat : Nat)
  | _ => 0

/-- A finite number in the form of a double, with this sign and this number of units. -/
structure Rounded (s : Sign) (n : Nat) (u : UnpackedFloat) : Prop where
  canonical : Canonical u
  number : u ≠ .notANumber
  bounded : ∀ s, u ≠ .infinity s
  sign : signOf u = s
  units : unitsOf u = s.apply n

theorem targetExponent_eq (m : Nat) (e : Int) :
    Format.binary64.targetExponent (totalExponent m e) = max (m.log2 + e - 52) (-1074) := by
  have hleast : Format.binary64.minExponent = -1074 := by decide
  have hdigits : ((Format.binary64.mantissaBits : Nat) : Int) = 53 := by decide
  rw [Format.targetExponent, totalExponent, hleast, hdigits]
  omega

section Rounding

variable {s : Sign} {m r n : Nat} {e t : Int} {accuracy : Accuracy}

/-- The number with these digits, which may be zero. -/
def ofDigits (s : Sign) (m : Nat) (e : Int) : UnpackedFloat :=
  if h : m = 0 then .zero s else .finite s m e (Nat.pos_of_ne_zero h)

theorem ofDigits_rounded (digits : m < 9007199254740992) (least : -1074 ≤ e)
    (form : 4503599627370496 ≤ m ∨ e = -1074) :
    Rounded s (m * 2 ^ (e + 1074).toNat) (ofDigits s m e) := by
  rw [ofDigits]
  split
  · rename_i hzero
    have hnone : m * 2 ^ (e + 1074).toNat = 0 := by rw [hzero, Nat.zero_mul]
    rw [hnone]
    exact ⟨trivial, by simp, by simp, rfl, by cases s <;> rfl⟩
  · exact ⟨⟨digits, least, form⟩, by simp, by simp, rfl, rfl⟩

/-- Rounding may carry into one digit more than there are, and then the last digit is a zero that can
go. -/
theorem carry (small : r ≤ 9007199254740992) (least : -1074 ≤ t)
    (full : 4503599627370496 ≤ r ∨ t = -1074) :
    let shifted := shiftToTargetExponent Format.binary64 r t .exact
    shifted.1.mantissa < 9007199254740992 ∧ -1074 ≤ shifted.2 ∧
      (4503599627370496 ≤ shifted.1.mantissa ∨ shifted.2 = -1074) ∧
      shifted.1.mantissa * 2 ^ (shifted.2 + 1074).toNat = r * 2 ^ (t + 1074).toNat := by
  simp only [shiftToTargetExponent, shiftToExponent, targetExponent_eq, mantissa_shiftRight,
    mantissa_ofMantissaAndAccuracy]
  rcases Nat.lt_or_eq_of_le small with hlt | rfl
  · have hlog : r.log2 ≤ 52 := by
      rcases Nat.eq_zero_or_pos r with rfl | hpos
      · decide
      · exact Nat.le_of_lt_succ ((Nat.log2_lt hpos.ne').mpr hlt)
    have hshift : (max ((r.log2 : Int) + t - 52) (-1074) - t).toNat = 0 := by omega
    rw [hshift, pow_zero, Nat.div_one, Nat.cast_zero, add_zero]
    exact ⟨hlt, least, full, rfl⟩
  · have hlog : Nat.log2 9007199254740992 = 53 := by decide
    have hshift : (max (((53 : Nat) : Int) + t - 52) (-1074) - t).toNat = 1 := by omega
    have hscale : (t + (1 : Nat) + 1074).toNat = (t + 1074).toNat + 1 := by omega
    have hhalf : 9007199254740992 / 2 ^ 1 = 4503599627370496 := by decide
    rw [hlog, hshift, hscale, hhalf]
    refine ⟨by decide, by omega, .inl (by decide), ?_⟩
    rw [pow_succ]
    ring

/-- A number that is given with enough digits is rounded to the nearest one with 53 digits, or with
the least exponent. -/
theorem roundWithAccuracy_rounded (accuracy : Accuracy) (least : -1074 ≤ e)
    (ht : max (m.log2 + e - 52) (-1074) = t) (enough : e ≤ t) :
    Rounded s (nearest m (t - e).toNat accuracy * 2 ^ (t + 1074).toNat)
      (roundWithAccuracy Format.binary64 s m e accuracy) := by
  have hraised : e + (t - e).toNat = t := by omega
  -- The digits that are kept are at most 53, and rounding adds at most one unit to them.
  have hsmall : m / 2 ^ (t - e).toNat < 2 ^ 53 := by
    rw [Nat.div_lt_iff_lt_mul (Nat.two_pow_pos _), ← pow_add]
    exact Nat.lt_log2_self.trans_le (Nat.pow_le_pow_right (by decide) (by omega))
  have hfull : 2 ^ 52 ≤ m / 2 ^ (t - e).toNat ∨ t = -1074 := by
    rcases Nat.eq_zero_or_pos m with rfl | hpos
    · right
      rw [Nat.log2_zero] at ht
      omega
    · by_cases hleast : t = -1074
      · exact .inr hleast
      · left
        rw [Nat.le_div_iff_mul_le (Nat.two_pow_pos _), ← pow_add]
        refine (Nat.pow_le_pow_right (by decide) ?_).trans (Nat.log2_self_le hpos.ne')
        omega
  obtain ⟨hdigits, hleast, hform, hunits⟩ := carry (r := nearest m (t - e).toNat accuracy)
    ((nearest_le_succ _ _ _).trans hsmall) (by omega)
    (hfull.imp_left (·.trans (div_le_nearest _ _ _)))
  have hround : roundWithAccuracy Format.binary64 s m e accuracy =
      let shifted := shiftToTargetExponent Format.binary64
        (nearest m (Format.binary64.targetExponent (totalExponent m e) - e).toNat accuracy)
        (e + (Format.binary64.targetExponent (totalExponent m e) - e).toNat) .exact
      ofDigits s shifted.1.mantissa shifted.2 := rfl
  rw [hround, targetExponent_eq, ht, hraised, ← hunits]
  exact ofDigits_rounded hdigits hleast hform

/-- What is at most as large as a number with 53 digits is rounded to one that is, too. -/
theorem nearest_units_le {q : Nat} {g : Int} (ht : max (q.log2 + g - 52) (-1074) = t) (enough : g ≤ t)
    (least : -1074 ≤ g) (digits : m < 2 ^ 53) (eleast : -1074 ≤ e)
    (h : q * 2 ^ (g + 1074).toNat ≤ m * 2 ^ (e + 1074).toNat)
    (hexact : q * 2 ^ (g + 1074).toNat = m * 2 ^ (e + 1074).toNat → accuracy = .exact) :
    nearest q (t - g).toNat accuracy * 2 ^ (t + 1074).toNat ≤ m * 2 ^ (e + 1074).toNat := by
  have hte : t ≤ e := by
    by_contra hlarger
    have hpos : q ≠ 0 := by
      rintro rfl
      rw [Nat.log2_zero] at ht
      omega
    have hlarge : 2 ^ (q.log2 + (g + 1074).toNat) ≤ q * 2 ^ (g + 1074).toNat := by
      rw [pow_add]
      exact Nat.mul_le_mul_right _ (Nat.log2_self_le hpos)
    have hsmall : m * 2 ^ (e + 1074).toNat < 2 ^ (53 + (e + 1074).toNat) := by
      rw [pow_add]
      exact Nat.mul_lt_mul_of_pos_right digits (Nat.two_pow_pos _)
    have hpow : 2 ^ (53 + (e + 1074).toNat) ≤ 2 ^ (q.log2 + (g + 1074).toNat) :=
      Nat.pow_le_pow_right (by decide) (by omega)
    omega
  -- The bound can be written with the exponent that is rounded to.
  have hbound : m * 2 ^ (e + 1074).toNat = m * 2 ^ (e - t).toNat * 2 ^ (t + 1074).toNat := by
    rw [Nat.mul_assoc, ← pow_add]
    congr 2
    omega
  have hsplit : m * 2 ^ (e - t).toNat * 2 ^ (t + 1074).toNat =
      m * 2 ^ (e - t).toNat * 2 ^ (t - g).toNat * 2 ^ (g + 1074).toNat := by
    rw [Nat.mul_assoc _ (2 ^ (t - g).toNat), ← pow_add]
    congr 2
    omega
  have hpos : 0 < 2 ^ (g + 1074).toNat := Nat.two_pow_pos _
  rw [hbound] at h hexact ⊢
  rw [hsplit, Nat.mul_le_mul_right_iff hpos] at h
  rw [hsplit, Nat.mul_left_inj hpos.ne'] at hexact
  exact Nat.mul_le_mul_right _ (nearest_le_of_le h hexact)

theorem log2_mul_two_pow (h : m ≠ 0) (b : Nat) : (m * 2 ^ b).log2 = m.log2 + b := by
  have hpos : 0 < 2 ^ b := Nat.two_pow_pos b
  rw [Nat.log2_eq_iff (Nat.mul_ne_zero h hpos.ne'), Nat.add_right_comm, pow_add, pow_add]
  exact ⟨Nat.mul_le_mul_right _ (Nat.log2_self_le h),
    Nat.mul_lt_mul_of_pos_right Nat.lt_log2_self hpos⟩

/-- Whole units, rounded to 53 digits. -/
def roundUnits (n : Nat) : Nat := nearest n (n.log2 - 52) .exact * 2 ^ (n.log2 - 52)

/-- A number with any exponent is rounded to the nearest one, of the units that it has. -/
theorem round_rounded (pos : 0 < m) (least : -1074 ≤ e) :
    Rounded s (roundUnits (m * 2 ^ (e + 1074).toNat)) (round Format.binary64 s m e) := by
  obtain ⟨t, ht⟩ : ∃ t, max (m.log2 + e - 52) (-1074) = t := ⟨_, rfl⟩
  obtain ⟨a, ha⟩ : ∃ a, (e - t).toNat = a := ⟨_, rfl⟩
  have hround : round Format.binary64 s m e =
      roundWithAccuracy Format.binary64 s (m <<< (e - Format.binary64.targetExponent
        (totalExponent m e)).toNat)
        (e - (e - Format.binary64.targetExponent (totalExponent m e)).toNat) .exact := rfl
  have hlog : (m * 2 ^ a).log2 = m.log2 + a := log2_mul_two_pow pos.ne' a
  have hrounded := roundWithAccuracy_rounded (s := s) (m := m * 2 ^ a) (e := e - a) (t := t) .exact
    (by omega) (by rw [hlog, ← ht]; omega) (by omega)
  -- The units have as many digits as the number and its exponent say.
  have hdigits : (m * 2 ^ (e + 1074).toNat).log2 - 52 = (t + 1074).toNat := by
    rw [log2_mul_two_pow pos.ne']
    omega
  have hkept : nearest (m * 2 ^ (e + 1074).toNat) (t + 1074).toNat .exact =
      nearest (m * 2 ^ a) (t - (e - a)).toNat .exact := by
    have hunits : m * 2 ^ (e + 1074).toNat = m * 2 ^ a * 2 ^ (e - a + 1074).toNat := by
      rw [Nat.mul_assoc, ← pow_add]
      congr 2
      omega
    have hshift : (t + 1074).toNat = (t - (e - a)).toNat + (e - a + 1074).toNat := by omega
    rw [hunits, hshift, nearest_mul_two_pow]
  rw [hround, targetExponent_eq, ht, ha, Nat.shiftLeft_eq, roundUnits, hdigits, hkept]
  exact hrounded

theorem roundUnits_of_dvd (h : 2 ^ (n.log2 - 52) ∣ n) : roundUnits n = n := by
  rw [roundUnits, nearest_of_dvd h, Nat.div_mul_cancel h]

theorem roundUnits_le_two_pow {p : Nat} (h : n < 2 ^ p) : roundUnits n ≤ 2 ^ p := by
  rcases Nat.eq_zero_or_pos n with rfl | hpos
  · exact Nat.zero_le _
  · have hlog : n.log2 < p := (Nat.log2_lt hpos.ne').mpr h
    have hsplit : 2 ^ p = 2 ^ (p - (n.log2 - 52)) * 2 ^ (n.log2 - 52) := by
      rw [← pow_add]
      congr 1
      omega
    rw [hsplit] at h ⊢
    refine Nat.mul_le_mul_right _ ((nearest_le_succ _ _ _).trans ?_)
    exact (Nat.div_lt_iff_lt_mul (Nat.two_pow_pos _)).mpr h

theorem two_pow_le_roundUnits {p : Nat} (h : 2 ^ p ≤ n) : 2 ^ p ≤ roundUnits n := by
  have hpos : 0 < n := (Nat.two_pow_pos p).trans_le h
  have hlog : p ≤ n.log2 := (Nat.le_log2 hpos.ne').mpr h
  have hsplit : 2 ^ n.log2 = 2 ^ (n.log2 - (n.log2 - 52)) * 2 ^ (n.log2 - 52) := by
    rw [← pow_add]
    congr 1
    omega
  have hwhole := Nat.log2_self_le hpos.ne'
  rw [hsplit] at hwhole
  calc 2 ^ p ≤ 2 ^ n.log2 := Nat.pow_le_pow_right (by decide) hlog
    _ = 2 ^ (n.log2 - (n.log2 - 52)) * 2 ^ (n.log2 - 52) := hsplit
    _ ≤ roundUnits n := Nat.mul_le_mul_right _
        (((Nat.le_div_iff_mul_le (Nat.two_pow_pos _)).mpr hwhole).trans (div_le_nearest _ _ _))

/-- A number stays below a power of two if it is nearer to the last number with 53 digits there. -/
theorem roundUnits_lt_iff {j : Nat} :
    roundUnits n < 2 ^ (j + 53) ↔ 2 * n < (2 ^ 54 - 1) * 2 ^ j := by
  have hlow : 2 ^ (j + 52) = 2 ^ 52 * 2 ^ j := by rw [pow_add, Nat.mul_comm]
  have hhigh : 2 ^ (j + 53) = 2 ^ 53 * 2 ^ j := by rw [pow_add, Nat.mul_comm]
  have hpos : 0 < 2 ^ j := Nat.two_pow_pos j
  rcases Nat.lt_or_ge n (2 ^ (j + 52)) with hbelow | habove
  · have hle := roundUnits_le_two_pow hbelow
    exact iff_of_true (by omega) (by omega)
  · rcases Nat.lt_or_ge n (2 ^ (j + 53)) with hat | hbeyond
    · have hnpos : n ≠ 0 := by omega
      have hlog : n.log2 = j + 52 := (Nat.log2_eq_iff hnpos).mpr ⟨habove, hat⟩
      rw [roundUnits, hlog, Nat.add_sub_cancel, hhigh, Nat.mul_lt_mul_right hpos]
      constructor
      · intro h
        by_contra hcontra
        have hlt : 2 ^ 53 - 1 < nearest n j .exact :=
          lt_nearest (by omega) (by decide)
        omega
      · intro h
        have hle : nearest n j .exact ≤ 2 ^ 53 - 1 := nearest_le (.inl (by omega))
        omega
    · have hle := two_pow_le_roundUnits hbeyond
      exact iff_of_false (by omega) (by omega)

theorem roundUnits_le {j : Nat} (h : n ≤ 2 ^ (j + 53) + 2 ^ j) : roundUnits n ≤ 2 ^ (j + 53) := by
  have hpow : 2 ^ (j + 53) = 2 ^ 52 * 2 ^ (j + 1) := by
    rw [← pow_add]
    congr 1
    omega
  have hlast : 2 ^ (j + 1) = 2 * 2 ^ j := by rw [pow_succ, Nat.mul_comm]
  have hpos : 0 < 2 ^ j := Nat.two_pow_pos j
  rcases Nat.lt_or_ge n (2 ^ (j + 53)) with hbelow | habove
  · exact roundUnits_le_two_pow hbelow
  · have hnpos : n ≠ 0 := by omega
    have hdouble : 2 ^ (j + 53 + 1) = 2 * 2 ^ (j + 53) := by rw [pow_succ, Nat.mul_comm]
    have hlog : n.log2 = j + 53 := (Nat.log2_eq_iff hnpos).mpr ⟨habove, by omega⟩
    have hshift : n.log2 - 52 = j + 1 := by omega
    rw [roundUnits, hshift, hpow]
    refine Nat.mul_le_mul_right _ (nearest_le ?_)
    rcases Nat.lt_or_eq_of_le h with hlt | heq
    · exact .inl (by omega)
    · exact .inr ⟨by omega, by decide⟩

end Rounding

end Binary64

end Showroom
