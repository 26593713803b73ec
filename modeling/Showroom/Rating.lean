import Showroom.Binary64

/-!
# Showroom.Rating

What is kept of the scores given to one laptop: how many there were and their sum. The count is
a 32-bit number and the sum a double, added up in the order of arrival; the average is worked out
when it is asked for. There is no number behind the last of 32 bits: a score that would need one
stops the call that it came with.
-/

namespace Showroom

structure Rating where
  count : UInt32 := 0
  sum : Binary64 := .zero
deriving DecidableEq, Inhabited

namespace Rating

/-- The rating with one more score, unless there is no number left to count it with. -/
def add (r : Rating) (score : Binary64) : Option Rating :=
  if r.count.toNat + 1 < UInt32.size then some ⟨r.count + 1, r.sum.add score⟩ else none

def average (r : Rating) : Binary64 :=
  if r.count = 0 then .zero else r.sum.div (.ofUInt32 r.count)

end Rating

end Showroom
