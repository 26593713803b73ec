/-!
# Showroom.Text.Range

Classes of characters that are given by ranges of their numbers.
-/

namespace Showroom.Text

/-- Whether the number of a character is in one of some ranges, both ends included. -/
def inRanges (ranges : List (Nat × Nat)) (c : Char) : Bool :=
  ranges.any fun r => r.1 ≤ c.toNat && c.toNat ≤ r.2

end Showroom.Text
