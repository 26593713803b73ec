/-!
# Showroom.Laptop.Memory

Amounts of memory: a value and a unit. Amounts in different units are compared by their size in
bits, which stops at the largest 64-bit number instead of wrapping round.

A unit arrives as an integer code that need not name any unit; such an amount counts for nothing.
-/

namespace Showroom

/-- The units in which an amount of memory is given. -/
inductive MemoryUnit where
  | unknown
  | bit
  | byte
  | kilobyte
  | megabyte
  | gigabyte
  | terabyte
deriving DecidableEq, Inhabited

namespace MemoryUnit

def ofCode? (code : Int32) : Option MemoryUnit :=
  match code.toInt with
  | 0 => some unknown
  | 1 => some bit
  | 2 => some byte
  | 3 => some kilobyte
  | 4 => some megabyte
  | 5 => some gigabyte
  | 6 => some terabyte
  | _ => none

def code : MemoryUnit → Int32
  | unknown => 0
  | bit => 1
  | byte => 2
  | kilobyte => 3
  | megabyte => 4
  | gigabyte => 5
  | terabyte => 6

def name : MemoryUnit → String
  | unknown => "Unknown"
  | bit => "Bit"
  | byte => "Byte"
  | kilobyte => "Kilobyte"
  | megabyte => "Megabyte"
  | gigabyte => "Gigabyte"
  | terabyte => "Terabyte"

def bits : MemoryUnit → UInt64
  | unknown => 0
  | bit => 1
  | byte => 8
  | kilobyte => 8 * 1024
  | megabyte => 8 * 1024 * 1024
  | gigabyte => 8 * 1024 * 1024 * 1024
  | terabyte => 8 * 1024 * 1024 * 1024 * 1024

end MemoryUnit

/-- The product of two 64-bit numbers, or the largest such number where the product is larger. -/
def saturatingMul (a b : UInt64) : UInt64 :=
  if a.toNat * b.toNat < UInt64.size then a * b else UInt64.ofNat (UInt64.size - 1)

/-- An amount of memory. -/
structure Memory where
  value : UInt64 := 0
  unitCode : Int32 := 0
deriving DecidableEq, Inhabited

namespace Memory

def of (value : UInt64) (unit : MemoryUnit) : Memory := ⟨value, unit.code⟩

/-- The unit that the code names; a code without a unit is unknown. -/
def unit (m : Memory) : MemoryUnit := (MemoryUnit.ofCode? m.unitCode).getD .unknown

/-- The size in bits, at most the largest 64-bit number. -/
def bits (m : Memory) : UInt64 := saturatingMul m.value m.unit.bits

end Memory

end Showroom
