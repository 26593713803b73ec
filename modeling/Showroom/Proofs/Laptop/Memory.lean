import Showroom.Proofs.Laptop.Filter

/-!
# Showroom.Proofs.Laptop.Memory

Amounts of memory compared by their bits. The bits of an amount are counted in 64 bits and stop at
the largest number there is. A comparison does not suffer from that as long as what is asked for can
be counted: an amount that is cut off is still more than that. And as the unit only matters by the
bits it has, an amount in the next smaller unit stands for the same.

* `Memory.toNat_bits`: the bits of an amount.
* `Memory.bits_of_rescaled`: an amount in the next smaller unit.
* `Filter.memory_decides`: which amounts are enough for a filter.
-/

namespace Showroom

theorem toNat_saturatingMul (a b : UInt64) :
    (saturatingMul a b).toNat = min (a.toNat * b.toNat) (UInt64.size - 1) := by
  rw [saturatingMul]
  split
  · rename_i hfits
    rw [UInt64.toNat_mul, Nat.mod_eq_of_lt hfits, Nat.min_eq_left (Nat.le_sub_one_of_lt hfits)]
  · rename_i hlarge
    rw [Nat.min_eq_right (Nat.le_trans (Nat.sub_le _ _) (Nat.le_of_not_lt hlarge))]
    decide

namespace MemoryUnit

/-- How many bits one of the unit with this code has: the first is the bit, the second the byte, and
each after that 1024 times as much as the one before. Other codes have no unit. -/
def size (code : Int) : Nat :=
  if code = 1 then 1
  else if 2 ≤ code ∧ code ≤ 6 then 8 * Nat.pow 1024 (code - 2).toNat
  else 0

/-- The next smaller unit, and how many of it a unit is. -/
def smaller? : MemoryUnit → Option (MemoryUnit × UInt64)
  | terabyte => some (gigabyte, 1024)
  | gigabyte => some (megabyte, 1024)
  | megabyte => some (kilobyte, 1024)
  | kilobyte => some (byte, 1024)
  | byte => some (bit, 8)
  | bit => none
  | unknown => none

theorem size_of_smaller? {unit smaller : MemoryUnit} {ratio : UInt64}
    (h : unit.smaller? = some (smaller, ratio)) :
    size unit.code.toInt = ratio.toNat * size smaller.code.toInt := by
  cases unit <;> cases h <;> decide

end MemoryUnit

namespace Memory

def size (m : Memory) : Nat := m.value.toNat * MemoryUnit.size m.unitCode.toInt

/-- Whether an amount is given in the next smaller unit, by a number that 64 bits can hold. -/
def Rescaled (m rescaled : Memory) : Prop :=
  ∃ unit smaller ratio, unit.smaller? = some (smaller, ratio) ∧
    m.value.toNat * ratio.toNat < UInt64.size ∧
    m = .of m.value unit ∧ rescaled = .of (m.value * ratio) smaller

theorem toNat_unit_bits (m : Memory) : m.unit.bits.toNat = MemoryUnit.size m.unitCode.toInt := by
  rw [unit, MemoryUnit.ofCode?]
  generalize m.unitCode.toInt = code
  split
  case h_8 =>
    simp only [imp_false] at *
    have hbit : code ≠ 1 := by assumption
    have hother : ¬ (2 ≤ code ∧ code ≤ 6) := by omega
    rw [MemoryUnit.size, if_neg hbit, if_neg hother]
    rfl
  all_goals decide

theorem toNat_bits (m : Memory) : m.bits.toNat = min m.size (UInt64.size - 1) := by
  rw [bits, toNat_saturatingMul, toNat_unit_bits, size]

theorem size_of_rescaled {m rescaled : Memory} (h : Rescaled m rescaled) :
    rescaled.size = m.size := by
  obtain ⟨unit, smaller, ratio, hsmaller, hfits, hm, rfl⟩ := h
  have hvalue : (m.value * ratio).toNat = m.value.toNat * ratio.toNat := by
    rw [UInt64.toNat_mul, Nat.mod_eq_of_lt hfits]
  calc (of (m.value * ratio) smaller).size
      = m.value.toNat * ratio.toNat * MemoryUnit.size smaller.code.toInt := by
        rw [← hvalue]
        rfl
    _ = m.value.toNat * MemoryUnit.size unit.code.toInt := by
        rw [MemoryUnit.size_of_smaller? hsmaller, Nat.mul_assoc]
    _ = m.size := by
        rw [hm]
        rfl

theorem bits_of_rescaled {m rescaled : Memory} (h : Rescaled m rescaled) :
    rescaled.bits = m.bits := by
  rw [← UInt64.toNat_inj, toNat_bits, toNat_bits, size_of_rescaled h]

end Memory

namespace Filter

/-- The bits of an amount that may be missing, however many they are. -/
def size (amount : Option Memory) : Nat := (amount.map Memory.size).getD 0

theorem toNat_bits (amount : Option Memory) :
    (bits amount).toNat = min (size amount) (UInt64.size - 1) := by
  cases amount with
  | none => rfl
  | some m => exact m.toNat_bits

/-- An amount is enough if it reaches what is asked for, or the largest number that is counted. -/
theorem bits_le_iff (asked given : Option Memory) :
    bits asked ≤ bits given ↔ min (size asked) (UInt64.size - 1) ≤ size given := by
  rw [UInt64.le_iff_toNat_le, toNat_bits, toNat_bits]
  omega

theorem accepts_iff_bits_le (f : Filter) (l : Laptop) :
    f.accepts l = true ↔
      { f with minRam := none }.accepts l = true ∧ bits f.minRam ≤ bits l.ram := by
  have hnone : bits none ≤ bits l.ram := UInt64.zero_le
  rw [accepts_eq_true_iff, accepts_eq_true_iff]
  constructor
  · rintro ⟨hprice, hcores, hclock, hmemory⟩
    exact ⟨⟨hprice, hcores, hclock, hnone⟩, hmemory⟩
  · rintro ⟨⟨hprice, hcores, hclock, -⟩, hmemory⟩
    exact ⟨hprice, hcores, hclock, hmemory⟩

theorem accepts_congr_bits (f : Filter) (l : Laptop) {m m' : Memory} (h : m'.bits = m.bits) :
    { f with minRam := some m' }.accepts l = { f with minRam := some m }.accepts l ∧
      f.accepts { l with ram := some m' } = f.accepts { l with ram := some m } := by
  have hbits : bits (some m') = bits (some m) := h
  constructor
  · rw [Bool.eq_iff_iff, accepts_eq_true_iff, accepts_eq_true_iff, hbits]
  · rw [Bool.eq_iff_iff, accepts_eq_true_iff, accepts_eq_true_iff, hbits]
    exact Iff.rfl

/-- **Which amounts are enough.** The bits of an amount are exact up to the largest number of 64 bits,
and stop there. If what a filter asks for is below 2 to the 64, a laptop's memory is enough just if it
has that many bits, however many it has. An amount that is given in the next smaller unit, in the
filter or in the laptop, makes no difference. -/
theorem memory_decides :
    (∀ m : Memory, m.bits.toNat = min m.size (UInt64.size - 1)) ∧
    (∀ (f : Filter) (l : Laptop), size f.minRam < UInt64.size →
      (bits f.minRam ≤ bits l.ram ↔ size f.minRam ≤ size l.ram) ∧
      (f.accepts l = true ↔
        { f with minRam := none }.accepts l = true ∧ size f.minRam ≤ size l.ram)) ∧
    ∀ m rescaled : Memory, m.Rescaled rescaled → ∀ (f : Filter) (l : Laptop),
      { f with minRam := some rescaled }.accepts l = { f with minRam := some m }.accepts l ∧
        f.accepts { l with ram := some rescaled } = f.accepts { l with ram := some m } := by
  refine ⟨Memory.toNat_bits, fun f l hasked => ?_, fun m rescaled h f l => ?_⟩
  · have hexact : bits f.minRam ≤ bits l.ram ↔ size f.minRam ≤ size l.ram := by
      rw [bits_le_iff, Nat.min_eq_left (Nat.le_sub_one_of_lt hasked)]
    exact ⟨hexact, by rw [accepts_iff_bits_le, hexact]⟩
  · exact accepts_congr_bits f l (Memory.bits_of_rescaled h)

/-- A filter that asks for almost 2 to the 64 bits, and a laptop that has that many and one terabyte
more, which cannot be counted. -/
theorem memory_decides_terabytes :
    let asked : Memory := .of 2097151 .terabyte
    let smaller : Memory := .of 2147482624 .gigabyte
    let f : Filter := { maxPriceUsd := .infinity, minRam := some asked }
    let l : Laptop := { ram := some (.of 2097152 .terabyte) }
    size f.minRam < UInt64.size ∧ size l.ram = UInt64.size ∧ f.accepts l = true ∧
      asked.Rescaled smaller ∧ { f with minRam := some smaller }.accepts l = true := by
  intro asked smaller f l
  have hasked : size f.minRam < UInt64.size := by decide
  have hgiven : size l.ram = UInt64.size := by decide
  have hrescaled : asked.Rescaled smaller :=
    ⟨.terabyte, .gigabyte, 1024, rfl, by decide, rfl, by decide⟩
  have henough : size f.minRam ≤ size l.ram := by
    rw [hgiven]
    exact Nat.le_of_lt hasked
  have haccepts : f.accepts l = true :=
    (memory_decides.2.1 f l hasked).2.mpr ⟨by decide, henough⟩
  have hsame := (memory_decides.2.2 asked smaller hrescaled f l).1
  exact ⟨hasked, hgiven, haccepts, hrescaled, hsame.trans haccepts⟩

end Filter
end Showroom
