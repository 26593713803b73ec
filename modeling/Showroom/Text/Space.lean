/-!
# Showroom.Text.Space

The white space of Unicode.
-/

namespace Showroom.Text

/-- Numbers of the white-space characters outside of two ranges. -/
def spaceNumbers : List Nat :=
  [0x20, 0x85, 0xa0, 0x1680, 0x2028, 0x2029, 0x202f, 0x205f, 0x3000]

def isSpace (c : Char) : Bool :=
  (9 ≤ c.toNat && c.toNat ≤ 13) || (0x2000 ≤ c.toNat && c.toNat ≤ 0x200a)
    || spaceNumbers.contains c.toNat

end Showroom.Text
