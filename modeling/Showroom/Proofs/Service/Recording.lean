import Showroom.Proofs.Service.Frame
import Showroom.Proofs.Service.Scoring

/-!
# Showroom.Proofs.Service.Recording

The scores that a run records. They are those that are accepted in the calls to rate which are let
through, one after the other, each call up to the first that cannot be counted; what a run answers to
scores, and what becomes of the scoreboard, is the same as if they all came in one stream.

* `Server.recorded`: the scores that a run records.
* `Server.run_recorded`: what is answered to them, and what is made of them.
* `Server.countable_recorded`: that there is room for all of them.
-/

namespace Showroom

def Answer.ratings : Answer → List RateLaptopResponse
  | rated responses _ => responses
  | _ => []

namespace RateLaptop

theorem responsesTo_append (b : Scoreboard) (requests more : List RateLaptopRequest) :
    responsesTo b (requests ++ more) =
      responsesTo b requests ++ responsesTo (b.recordAll requests) more := by
  induction requests generalizing b with
  | nil => rfl
  | cons request requests ih =>
    rw [List.cons_append]
    by_cases h : (b.ratingOf request.laptopId).room = 0
    · rw [responsesTo_cons_of_full h, responsesTo_cons_of_full h, ih,
        Scoreboard.recordAll_cons_of_full h]
    · rw [responsesTo_cons_of_room h, responsesTo_cons_of_room h, ih]
      rfl

end RateLaptop

namespace Server

/-- The scores that a call records: those that are accepted, and can be counted, in a call to rate
that is let through. -/
def recordedBy (server : Server) (o : Circumstances) (call : Call) (s : State) :
    List RateLaptopRequest :=
  if server.admits o call = true ∧ call.path = Method.rateLaptop.path then
    RateLaptop.kept s.scoreboard
      (RateLaptop.accepted s.catalog (call.messages.map (decodeItem RateLaptopRequest)))
  else []

/-- The scores that a run records, in their order. -/
def recorded (server : Server) : List (Circumstances × Call) → State → List RateLaptopRequest
  | [], _ => []
  | (o, call) :: calls, s =>
    server.recordedBy o call s ++ server.recorded calls (server.serve o call s).2

section Calls

variable {server : Server} {o : Circumstances} {call : Call} {s : State} {context : CallContext}

theorem perform_unrated {method : Method} (h : method ≠ .rateLaptop) :
    (server.perform o call s context method).1.ratings = [] ∧
      (server.perform o call s context method).2.scoreboard = s.scoreboard := by
  cases method with
  | createLaptop =>
    simp only [perform, createLaptop]
    split
    · exact ⟨rfl, rfl⟩
    · split <;> exact ⟨rfl, rfl⟩
  | searchLaptop =>
    simp only [perform, searchLaptop]
    split <;> exact ⟨rfl, rfl⟩
  | uploadImage =>
    simp only [perform, uploadImage]
    split <;> exact ⟨rfl, rfl⟩
  | rateLaptop => exact absurd rfl h
  | login =>
    simp only [perform, login]
    split
    · exact ⟨rfl, rfl⟩
    · split <;> exact ⟨rfl, rfl⟩

/-- A call that is no accepted call to rate is not answered with scores, and records none. -/
theorem serve_unrecorded
    (h : ¬ (server.admits o call = true ∧ call.path = Method.rateLaptop.path)) :
    (server.serve o call s).1.ratings = [] ∧
      (server.serve o call s).2.scoreboard = s.scoreboard := by
  unfold admits at h
  unfold serve
  split
  · exact ⟨rfl, rfl⟩
  · rename_i admission hpass
    rw [hpass] at h
    split
    · rename_i method hmethod
      refine perform_unrated fun hrate => h ⟨rfl, ?_⟩
      rw [← hrate]
      exact Method.path_of_ofPath? hmethod
    · exact ⟨rfl, rfl⟩

theorem serve_rateLaptop (admitted : server.admits o call = true)
    (path : call.path = Method.rateLaptop.path) : server.serve o call s = rateLaptop call s := by
  obtain ⟨context, hserve⟩ := exists_serve_of_admits (s := s) admitted path
  exact hserve

theorem serve_recorded (server : Server) (o : Circumstances) (call : Call) (s : State) :
    (server.serve o call s).1.ratings =
        RateLaptop.responsesTo s.scoreboard (server.recordedBy o call s) ∧
      (server.serve o call s).2.scoreboard =
        s.scoreboard.recordAll (server.recordedBy o call s) := by
  rw [recordedBy]
  split
  · rename_i hrate
    rw [serve_rateLaptop hrate.1 hrate.2]
    exact RateLaptop.answer_kept _ _ _
  · rename_i hrate
    exact serve_unrecorded hrate

theorem run_recorded (server : Server) (calls : List (Circumstances × Call)) (s : State) :
    (server.run calls s).1.flatMap Answer.ratings =
        RateLaptop.responsesTo s.scoreboard (server.recorded calls s) ∧
      (server.run calls s).2.scoreboard = s.scoreboard.recordAll (server.recorded calls s) := by
  induction calls generalizing s with
  | nil => exact ⟨rfl, rfl⟩
  | cons c calls ih =>
    obtain ⟨hratings, hboard⟩ := serve_recorded server c.1 c.2 s
    obtain ⟨hlater, hlast⟩ := ih (server.serve c.1 c.2 s).2
    rw [run_cons, List.flatMap_cons, hratings, hlater, hboard, hlast, hboard, recorded,
      RateLaptop.responsesTo_append]
    exact ⟨rfl, (List.foldl_append ..).symm⟩

theorem countable_recordedBy (server : Server) (o : Circumstances) (call : Call) (s : State) :
    s.scoreboard.Countable (server.recordedBy o call s) := by
  rw [recordedBy]
  split
  · exact RateLaptop.countable_kept _ _
  · exact fun id => Nat.zero_le _

theorem countable_recorded (server : Server) (calls : List (Circumstances × Call)) (s : State) :
    s.scoreboard.Countable (server.recorded calls s) := by
  induction calls generalizing s with
  | nil => exact fun id => Nat.zero_le _
  | cons c calls ih =>
    have hlater := ih (server.serve c.1 c.2 s).2
    rw [(serve_recorded server c.1 c.2 s).2] at hlater
    exact Scoreboard.countable_append (countable_recordedBy server c.1 c.2 s) hlater

end Calls

end Server

end Showroom
