import Showroom.Bytes

/-!
# Showroom.Wire.Varint

Variable-length integers: groups of seven bits, least significant first, one to a byte, with the
top bit set on every byte but the last. A number of 64 bits takes at most ten bytes, and the
tenth holds a single bit.
-/

namespace Showroom.Wire

namespace Varint

def render (n : Nat) : Bytes :=
  if n < 128 then [UInt8.ofNat n] else UInt8.ofNat (n % 128 + 128) :: render (n / 128)
termination_by n

/-- Reads groups while at most `left` bytes may belong to the number. The last byte allowed must
be 0 or 1. -/
def readGroups : (left : Nat) → Bytes → Option (Nat × Bytes)
  | 0, _ => none
  | _ + 1, [] => none
  | left + 1, b :: bs =>
    if b < 128 then
      if left = 0 ∧ 2 ≤ b then none else some (b.toNat, bs)
    else
      match readGroups left bs with
      | some (high, rest) => some (b.toNat - 128 + 128 * high, rest)
      | none => none

/-- The number at the front of the bytes, and the bytes after it. -/
def read (bs : Bytes) : Option (Nat × Bytes) := readGroups 10 bs

end Varint

end Showroom.Wire
