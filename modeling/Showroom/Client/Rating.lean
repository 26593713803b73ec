import Showroom.Client.Failure
import Showroom.Service.Requests

/-!
# Showroom.Client.Rating

What a client sends to rate laptops.
-/

namespace Showroom

/-- The messages that give each laptop the score at the same place. -/
def ratingRequests (laptopIds : List String) (scores : List Binary64) :
    Except ClientFailure (List RateLaptopRequest) :=
  if laptopIds.length = scores.length then
    .ok ((laptopIds.zip scores).map fun pair => ⟨pair.1, pair.2⟩)
  else .error (.unpaired laptopIds.length scores.length)

end Showroom
