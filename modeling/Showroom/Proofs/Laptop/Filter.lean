import Showroom.Laptop.Filter
import Showroom.Proofs.Binary64.Order

/-!
# Showroom.Proofs.Laptop.Filter

Which laptops pass a filter. A laptop that meets the filter, by the comparisons of doubles, passes. The
filter does not look for what meets it, though, but for what fails it, and no comparison with a NaN
fails: beside the laptops that meet it, a filter lets those pass that are compared with a NaN.

* `Filter.Meets`: what a filter asks for.
* `Filter.accepts_iff`: what it lets pass.
-/

namespace Showroom

theorem Binary64.lt_eq_false_iff {x y : Binary64} :
    y.lt x = false ↔ x.isNaN = true ∨ y.isNaN = true ∨ x.toFloat ≤ y.toFloat := by
  rw [toFloat_le_iff]
  cases hx : x.isNaN with
  | true => simp [lt, hx]
  | false =>
    cases hy : y.isNaN with
    | true => simp [lt, hy]
    | false => simp

namespace Filter

/-- What a filter asks for: a price that is at most the highest, and everything else at least. -/
def Meets (f : Filter) (l : Laptop) : Prop :=
  l.priceUsd.toFloat ≤ f.maxPriceUsd.toFloat ∧ f.minCpuCores ≤ (processor l).1 ∧
    f.minCpuGhz.toFloat ≤ (processor l).2.toFloat ∧ bits f.minRam ≤ bits l.ram

/-- Whether one of the doubles that are compared is a NaN. -/
def Unordered (f : Filter) (l : Laptop) : Prop :=
  (l.priceUsd.isNaN = true ∨ f.maxPriceUsd.isNaN = true) ∨
    f.minCpuGhz.isNaN = true ∨ (processor l).2.isNaN = true

variable (f : Filter) (l : Laptop)

theorem accepts_eq_true_iff :
    f.accepts l = true ↔ f.maxPriceUsd.lt l.priceUsd = false ∧ f.minCpuCores ≤ (processor l).1 ∧
      (processor l).2.lt f.minCpuGhz = false ∧ bits f.minRam ≤ bits l.ram := by
  rw [accepts]
  simp only [Bool.if_false_left, Bool.and_eq_true, Bool.not_eq_true', decide_eq_true_eq,
    Bool.decide_eq_true, decide_eq_false_iff_not, UInt32.not_lt]

/-- **What a filter lets pass.** A laptop passes if its cores and its memory are enough, its price is
at most the highest one or is compared with a NaN, and its clock rate is enough or is compared with a
NaN. So it meets the filter just if it passes and nothing is compared with a NaN. -/
theorem accepts_iff :
    (f.accepts l = true ↔
      (l.priceUsd.isNaN = true ∨ f.maxPriceUsd.isNaN = true ∨
        l.priceUsd.toFloat ≤ f.maxPriceUsd.toFloat) ∧
      f.minCpuCores ≤ (processor l).1 ∧
      (f.minCpuGhz.isNaN = true ∨ (processor l).2.isNaN = true ∨
        f.minCpuGhz.toFloat ≤ (processor l).2.toFloat) ∧
      bits f.minRam ≤ bits l.ram) ∧
    (f.Meets l ↔ f.accepts l = true ∧ ¬ f.Unordered l) := by
  constructor
  · rw [accepts_eq_true_iff, Binary64.lt_eq_false_iff, Binary64.lt_eq_false_iff]
  · have hprice := Binary64.toFloat_le_iff (x := l.priceUsd) (y := f.maxPriceUsd)
    have hclock := Binary64.toFloat_le_iff (x := f.minCpuGhz) (y := (processor l).2)
    rw [accepts_eq_true_iff, Meets, Unordered, hprice, hclock]
    simp only [not_or, Bool.not_eq_true]
    constructor
    · rintro ⟨⟨hnp, hnm, hp⟩, hcores, ⟨hng, hnc, hc⟩, hmemory⟩
      exact ⟨⟨hp, hcores, hc, hmemory⟩, ⟨hnp, hnm⟩, hng, hnc⟩
    · rintro ⟨⟨hp, hcores, hc, hmemory⟩, ⟨hnp, hnm⟩, hng, hnc⟩
      exact ⟨⟨hnp, hnm, hp⟩, hcores, ⟨hng, hnc, hc⟩, hmemory⟩

/-- A laptop whose price is no number, and one whose clock rate is none, pass a filter for prices up to
100 and rates from 3 on. -/
theorem accepts_unordered :
    let f : Filter := { maxPriceUsd := ⟨0x4059000000000000⟩, minCpuGhz := ⟨0x4008000000000000⟩ }
    let nan : Binary64 := ⟨0x7ff8000000000000⟩
    let unpriced : Laptop := { priceUsd := nan, cpu := some { minGhz := ⟨0x4010000000000000⟩ } }
    let unclocked : Laptop := { priceUsd := ⟨0x4049000000000000⟩, cpu := some { minGhz := nan } }
    (f.accepts unpriced = true ∧ ¬ f.Meets unpriced) ∧
      f.accepts unclocked = true ∧ ¬ f.Meets unclocked := by
  refine ⟨⟨by decide, fun h => ?_⟩, by decide, fun h => ?_⟩
  · exact absurd (Binary64.toFloat_le_iff.mp h.1).1 (by decide)
  · exact absurd (Binary64.toFloat_le_iff.mp h.2.2.1).2.1 (by decide)

end Filter

end Showroom
