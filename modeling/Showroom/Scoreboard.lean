import Showroom.Rating
import Showroom.Table

/-!
# Showroom.Scoreboard

The ratings of all laptops, under the ids of the laptops.
-/

namespace Showroom

structure Scoreboard where
  ratings : Table Rating := {}
deriving DecidableEq, Inhabited

namespace Scoreboard

def find? (b : Scoreboard) (laptopId : String) : Option Rating := b.ratings.find? laptopId

/-- Adds a score to a laptop's rating; the outcome is the rating right after it. A score that cannot
be counted has none, and changes nothing. -/
def record (b : Scoreboard) (laptopId : String) (score : Binary64) : Option Rating × Scoreboard :=
  match ((b.find? laptopId).getD {}).add score with
  | none => (none, b)
  | some rating => (some rating, ⟨b.ratings.put laptopId rating⟩)

end Scoreboard

end Showroom
