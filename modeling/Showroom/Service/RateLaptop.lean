import Showroom.Laptop.Catalog
import Showroom.Scoreboard
import Showroom.Service.Requests
import Showroom.Service.Status

/-!
# Showroom.Service.RateLaptop

Rating laptops, one score after the other. Each score is recorded and answered with the laptop's
count and average right after it. The first score that cannot be accepted ends the call, with
a status; the first that cannot be counted ends it too, with none. Those before it stay recorded.
-/

namespace Showroom.RateLaptop

/-- Why a score is not accepted. -/
inductive Refusal where
  | notReceived (message : String)
  | notFinite (score : Binary64)
  | unknownLaptop (id : String)
deriving DecidableEq, Inhabited

def Refusal.status : Refusal → Status
  | notReceived message => ⟨.unknown, "cannot receive stream request: " ++ message⟩
  | notFinite score =>
    ⟨.invalidArgument, "score must be a finite number, got " ++ score.specialName⟩
  | unknownLaptop id => ⟨.notFound, "laptop id " ++ id ++ " is not found"⟩

/-- The score in one item of the stream, if it is accepted. -/
def accept (c : Catalog) : Received RateLaptopRequest → Except Refusal RateLaptopRequest
  | .error status => .error (.notReceived status.message)
  | .ok request =>
    if !request.score.isFinite then .error (.notFinite request.score)
    else if !c.contains request.laptopId then .error (.unknownLaptop request.laptopId)
    else .ok request

/-- The response to a score that has just been recorded. -/
def respond (laptopId : String) (rating : Rating) : RateLaptopResponse :=
  ⟨laptopId, rating.count, rating.average⟩

/-- What comes of a stream of scores: the responses, what ended the call early, and the scores
kept. -/
structure Outcome where
  responses : List RateLaptopResponse
  refusal : Option Refusal
  scoreboard : Scoreboard
deriving DecidableEq, Inhabited

def answer (c : Catalog) : Scoreboard → List (Received RateLaptopRequest) → Outcome
  | b, [] => ⟨[], none, b⟩
  | b, item :: rest =>
    match accept c item with
    | .error refusal => ⟨[], some refusal, b⟩
    | .ok request =>
      match b.record request.laptopId request.score with
      | (none, b) => ⟨[], none, b⟩
      | (some rating, b) =>
        let later := answer c b rest
        { later with responses := respond request.laptopId rating :: later.responses }

end Showroom.RateLaptop
