import Showroom.Proofs.Binary64.Sum

/-!
# Showroom.Proofs.Binary64.Quotient

When means are finite. A finite double that is divided by a count does not grow, however the quotient
is rounded, and an infinite one stays infinite.

* `Binary64.div_rounded`: what is divided by at least one does not grow.
* `Binary64.exists_parts_ofUInt32`: a count as a double.
* `Binary64.isFinite_div_ofUInt32`, `Binary64.infinite_div_ofUInt32`: when a mean is finite.
-/

namespace Showroom

namespace Binary64

open Float.Model (Format UnpackedFloat totalExponent)
open Float.Model.UnpackedFloat

section Parts

variable {s t : Sign} {m n a : Nat} {e f g : Int} {hm : 0 < m}

theorem divCore_eq (hg : min (e - f) (max (m.log2 + e - (n.log2 + f) - 53) (-1074)) = g)
    (ha : (e - f - g).toNat = a) :
    divCore Format.binary64 m e n f =
      (m * 2 ^ a / n, g, accuracyOfFraction (m * 2 ^ a % n) n) := by
  have hleast : Format.binary64.minExponent = -1074 := by decide
  have hdigits : ((Format.binary64.mantissaBits : Nat) : Int) = 53 := by decide
  have htarget : min (e - f) (Format.binary64.targetExponent (totalExponent m e - totalExponent n f)) =
      g := by
    rw [Format.targetExponent, totalExponent, totalExponent, hleast, hdigits, ← hg]
    omega
  simp only [divCore, htarget, ha, Nat.shiftLeft_eq]

theorem quotient_enough (hm : 0 < m) (hn : 0 < n) (hlog : m.log2 < 53) (least : -1074 ≤ e - f)
    (hg : min (e - f) (max (m.log2 + e - (n.log2 + f) - 53) (-1074)) = g)
    (ha : (e - f - g).toNat = a) : g ≤ max ((m * 2 ^ a / n).log2 + g - 52) (-1074) := by
  by_cases hleast : g = -1074
  · omega
  · have hdigits : m.log2 + a = n.log2 + 53 := by omega
    have hquotient : 2 ^ 52 ≤ m * 2 ^ a / n := by
      rw [Nat.le_div_iff_mul_le hn]
      calc 2 ^ 52 * n ≤ 2 ^ 52 * 2 ^ (n.log2 + 1) := Nat.mul_le_mul_left _ Nat.lt_log2_self.le
        _ = 2 ^ (m.log2 + a) := by rw [hdigits, ← pow_add]; congr 1; omega
        _ = 2 ^ m.log2 * 2 ^ a := pow_add _ _ _
        _ ≤ m * 2 ^ a := Nat.mul_le_mul_right _ (Nat.log2_self_le hm.ne')
    have hlog : 52 ≤ (m * 2 ^ a / n).log2 := (Nat.le_log2 (by omega)).mpr hquotient
    omega

/-- A quotient by at least one has at most as many units, and as many only if it is exact. -/
theorem quotient_units_le (hg : g ≤ e - f) (least : -1074 ≤ g) (hf : f ≤ 0)
    (ha : (e - f - g).toNat = a) (hone : 2 ^ (-f).toNat ≤ n) (eleast : -1074 ≤ e) :
    m * 2 ^ a / n * 2 ^ (g + 1074).toNat ≤ m * 2 ^ (e + 1074).toNat ∧
      (m * 2 ^ a / n * 2 ^ (g + 1074).toNat = m * 2 ^ (e + 1074).toNat →
        accuracyOfFraction (m * 2 ^ a % n) n = .exact) := by
  obtain ⟨d, hd⟩ : ∃ d, (-f).toNat = d := ⟨_, rfl⟩
  obtain ⟨q, hq⟩ : ∃ q, m * 2 ^ a / n = q := ⟨_, rfl⟩
  obtain ⟨r, hr⟩ : ∃ r, m * 2 ^ a % n = r := ⟨_, rfl⟩
  have hdivision : n * q + r = m * 2 ^ a := by rw [← hq, ← hr]; exact Nat.div_add_mod _ _
  have hscale : (n * q + r) * 2 ^ (g + 1074).toNat = m * 2 ^ (e + 1074).toNat * 2 ^ d := by
    rw [hdivision, Nat.mul_assoc, Nat.mul_assoc, ← pow_add, ← pow_add]
    congr 2
    omega
  have hdivisor : q * 2 ^ (g + 1074).toNat * 2 ^ d ≤ n * q * 2 ^ (g + 1074).toNat :=
    calc q * 2 ^ (g + 1074).toNat * 2 ^ d = 2 ^ d * (q * 2 ^ (g + 1074).toNat) := Nat.mul_comm _ _
      _ ≤ n * (q * 2 ^ (g + 1074).toNat) := Nat.mul_le_mul_right _ (hd ▸ hone)
      _ = n * q * 2 ^ (g + 1074).toNat := (Nat.mul_assoc _ _ _).symm
  have hpos : 0 < 2 ^ (g + 1074).toNat := Nat.two_pow_pos _
  rw [hq, hr]
  rw [Nat.add_mul] at hscale
  refine ⟨?_, fun hsame => ?_⟩
  · refine Nat.le_of_mul_le_mul_right ?_ (Nat.two_pow_pos d)
    omega
  · rw [hsame] at hdivisor
    have hrest : r * 2 ^ (g + 1074).toNat = 0 := by omega
    have hnone : r = 0 := (Nat.mul_eq_zero.mp hrest).resolve_right hpos.ne'
    rw [hnone]
    rfl

theorem div_rounded (form : Canonical (.finite s m e hm)) (hn : 0 < n) (hf : f ≤ 0)
    (hone : 2 ^ (-f).toNat ≤ n) :
    ∃ q, q ≤ m * 2 ^ (e + 1074).toNat ∧
      Rounded (s / t) q
        (UnpackedFloat.div Format.binary64 (.finite s m e hm) (.finite t n f hn)) := by
  obtain ⟨hdigits, hleast, hform⟩ := form
  have hlog : m.log2 < 53 := (Nat.log2_lt hm.ne').mpr hdigits
  obtain ⟨g, hg⟩ : ∃ g, min (e - f) (max (m.log2 + e - (n.log2 + f) - 53) (-1074)) = g := ⟨_, rfl⟩
  obtain ⟨a, ha⟩ : ∃ a, (e - f - g).toNat = a := ⟨_, rfl⟩
  obtain ⟨t', ht⟩ : ∃ t', max ((m * 2 ^ a / n).log2 + g - 52) (-1074) = t' := ⟨_, rfl⟩
  have henough := quotient_enough hm hn hlog (by omega) hg ha
  obtain ⟨hle, hexact⟩ := quotient_units_le (m := m) (by omega) (by omega) hf ha hone hleast
  refine ⟨_, nearest_units_le ht (ht ▸ henough) (by omega) hdigits hleast hle hexact, ?_⟩
  rw [UnpackedFloat.div, divCore_eq hg ha]
  exact roundWithAccuracy_rounded _ (by omega) ht (ht ▸ henough)

/-- A whole number below a power of two, with any exponent, stays there when it is rounded. -/
theorem round_bounds {p : Nat} (pos : 0 < n) (small : n < 2 ^ p) (least : -1074 ≤ e) :
    ∃ c, 2 ^ (e + 1074).toNat ≤ c ∧ c ≤ 2 ^ (p + (e + 1074).toNat) ∧
      Rounded s c (round Format.binary64 s n e) := by
  refine ⟨_, two_pow_le_roundUnits ?_, roundUnits_le_two_pow ?_, round_rounded pos least⟩
  · exact Nat.le_mul_of_pos_left _ pos
  · rw [pow_add]
    exact Nat.mul_lt_mul_of_pos_right small (Nat.two_pow_pos _)

/-- A number that is not so large that its last digit would be above `e` has no larger exponent. -/
theorem Rounded.exists_finite {u : UnpackedFloat} {c p : Nat} (h : Rounded s c u)
    (least : 2 ^ (e + 1074).toNat ≤ c) (most : c ≤ 2 ^ (p + (e + 1074).toNat)) (hp : p ≤ 52)
    (he : -1074 ≤ e) :
    ∃ n f hn, u = .finite s n f hn ∧ f ≤ e ∧ 2 ^ (e - f).toNat ≤ n := by
  obtain ⟨hform, hnumber, hbounded, hsign, hunits⟩ := h
  have habs : (unitsOf u).natAbs = c := by rw [hunits, natAbs_apply]
  cases u with
  | notANumber => exact absurd rfl hnumber
  | infinity t => exact absurd rfl (hbounded t)
  | zero t =>
    have hnone : c = 0 := habs.symm
    rw [hnone] at least
    exact absurd least (Nat.not_le.mpr (Nat.two_pow_pos _))
  | finite t n f hn =>
    obtain ⟨hdigits, hleast, hform⟩ := hform
    cases hsign
    rw [unitsOf, natAbs_apply] at habs
    subst habs
    have hf : f ≤ e := by
      by_contra hlarge
      have hbeyond : 2 ^ ((e + 1074).toNat + 53) ≤ n * 2 ^ (f + 1074).toNat :=
        two_pow_le_scaled (by omega) (by omega)
      have hlt : 2 ^ (p + (e + 1074).toNat) < 2 ^ ((e + 1074).toNat + 53) :=
        Nat.pow_lt_pow_right (by decide) (by omega)
      omega
    refine ⟨n, f, hn, rfl, hf, ?_⟩
    have hsplit : (e + 1074).toNat = (e - f).toNat + (f + 1074).toNat := by omega
    rw [hsplit, pow_add] at least
    exact Nat.le_of_mul_le_mul_right least (Nat.two_pow_pos _)

end Parts

theorem ofUInt32_eq (n : UInt32) :
    ofUInt32 n = ofParts (UnpackedFloat.normalize Format.binary64 n.toNat 0 .positive) := rfl

theorem exists_parts_ofUInt32 {n : UInt32} (h : n ≠ 0) :
    ∃ m f hm, (ofUInt32 n).parts = .finite .positive m f hm ∧ f ≤ 0 ∧ 2 ^ (-f).toNat ≤ m := by
  have hpos : 0 < n.toNat := Nat.pos_of_ne_zero fun hzero => h (UInt32.toNat_inj.mp hzero)
  have hround : UnpackedFloat.normalize Format.binary64 n.toNat 0 .positive =
      round Format.binary64 .positive n.toNat 0 := by
    rw [UnpackedFloat.normalize, compare_gt_iff_gt.mpr (Int.natCast_pos.mpr hpos), Int.toNat_natCast]
  obtain ⟨c, hleast, hmost, hrounded⟩ := round_bounds (s := .positive) (e := 0) hpos n.toNat_lt
    (by decide)
  have hsmall : c < beyond := lt_beyond hmost (by decide)
  rw [ofUInt32_eq, hround, parts_ofParts hrounded.canonical (hrounded.rank_lt_iff.mpr hsmall)]
  obtain ⟨m, f, hm, hparts, hf, hone⟩ := hrounded.exists_finite hleast hmost (by decide) (by decide)
  rw [zero_sub] at hone
  exact ⟨m, f, hm, hparts, hf, hone⟩

variable {x : Binary64} {n : UInt32}

theorem infinite_div_ofUInt32 {s : Sign} (hx : x.parts = .infinity s) (hn : n ≠ 0) :
    (x.div (ofUInt32 n)).parts = .infinity s := by
  obtain ⟨m, f, hm, hparts, -, -⟩ := exists_parts_ofUInt32 hn
  have hdiv : UnpackedFloat.div Format.binary64 x.parts (ofUInt32 n).parts = .infinity s := by
    rw [hx, hparts]
    cases s <;> rfl
  rw [div_eq, hdiv]
  exact ofParts_infinite trivial (by simp) (Nat.le_refl _)

/-- **A mean is finite if what is divided is**, and not otherwise. -/
theorem isFinite_div_ofUInt32 (hn : n ≠ 0) : (x.div (ofUInt32 n)).isFinite = x.isFinite := by
  obtain ⟨m, f, hm, hparts, hf, hone⟩ := exists_parts_ofUInt32 hn
  rw [div_eq, hparts]
  cases hx : x.parts with
  | notANumber =>
    have hdiv : UnpackedFloat.div Format.binary64 .notANumber (.finite .positive m f hm) =
      .notANumber := rfl
    rw [hdiv, x.isFinite_eq, hx]
    decide
  | infinity s =>
    have hinfinite := infinite_div_ofUInt32 hx hn
    rw [div_eq, hparts, hx] at hinfinite
    rw [isFinite_of_infinite hinfinite, isFinite_of_infinite hx]
  | zero s =>
    have hdiv : UnpackedFloat.div Format.binary64 (.zero s) (.finite .positive m f hm) =
      .zero (s / .positive) := rfl
    rw [hdiv, x.isFinite_eq, hx]
    cases s <;> decide
  | finite s k e hk =>
    have hfinite : x.isFinite = true := by rw [x.isFinite_eq, hx]; rfl
    have hform : Canonical (.finite s k e hk) := hx ▸ x.isParts.canonical
    obtain ⟨q, hq, hrounded⟩ := div_rounded (t := .positive) hform hm hf hone
    have hsmall : k * 2 ^ (e + 1074).toNat < beyond := by
      have hunits := units_lt_beyond hfinite
      rw [units, hx, unitsOf, natAbs_apply] at hunits
      exact hunits
    rw [hfinite, isFinite_ofParts hrounded.canonical hrounded.number, hrounded.rank_lt_iff]
    exact hq.trans_lt hsmall

end Binary64

end Showroom
