import Showroom.Laptop.Parts

/-!
# Showroom.Laptop.Filter

Search filters. A laptop passes unless one of its figures fails a limit: it costs more than the
highest price, has fewer cores or a lower clock than asked, or less memory. A laptop without a
CPU or memory entry has zero of each.

A limit is failed only by a comparison that holds, so a price or a clock rate that is not a
number fails none.
-/

namespace Showroom

structure Filter where
  maxPriceUsd : Binary64 := .zero
  minCpuCores : UInt32 := 0
  minCpuGhz : Binary64 := .zero
  minRam : Option Memory := none
deriving DecidableEq, Inhabited

namespace Filter

def processor (l : Laptop) : UInt32 × Binary64 :=
  match l.cpu with
  | some cpu => (cpu.cores, cpu.minGhz)
  | none => (0, .zero)

/-- Bits of an amount that may be missing. -/
def bits (amount : Option Memory) : UInt64 := (amount.map Memory.bits).getD 0

def accepts (f : Filter) (l : Laptop) : Bool :=
  if f.maxPriceUsd.lt l.priceUsd then false
  else if (processor l).1 < f.minCpuCores then false
  else if (processor l).2.lt f.minCpuGhz then false
  else decide (bits f.minRam ≤ bits l.ram)

/-- What a search without a filter asks for: any price, and nothing at least. -/
def anything : Filter := { maxPriceUsd := .infinity }

end Filter

end Showroom
