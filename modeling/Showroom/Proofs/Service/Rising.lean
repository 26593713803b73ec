import Showroom.Proofs.Binary64.Monotone
import Showroom.Proofs.Service.Averaging

/-!
# Showroom.Proofs.Service.Rising

How the rating of a laptop changes with the scores that are recorded. The count goes up with each of
them. The sum goes up with those above zero only: every finite score is recorded, and one below zero
takes the sum down.

* `Scoreboard.Rated`: what one recorded score changes.
* `Scoreboard.Rises`: how counts and sums change with many scores.
* `Server.ratings_rise`: how they change in a run, and with scores in any order.
-/

namespace Showroom

namespace Scoreboard

variable {b : Scoreboard} {requests : List RateLaptopRequest}

theorem recordAll_append (b : Scoreboard) (requests more : List RateLaptopRequest) :
    b.recordAll (requests ++ more) = (b.recordAll requests).recordAll more :=
  List.foldl_append

theorem isFinite_of_mem_scoresOf (finite : ∀ request ∈ requests, request.score.isFinite = true)
    (id : String) : ∀ score ∈ scoresOf id requests, score.isFinite = true := by
  intro score hscore
  obtain ⟨request, hrequest, rfl⟩ := List.mem_map.mp hscore
  exact finite request (List.mem_filter.mp hrequest).1

theorem isNaN_sum_recordAll (finite : ∀ request ∈ requests, request.score.isFinite = true)
    {id : String} (number : (b.ratingOf id).sum.isNaN = false) :
    ((b.recordAll requests).ratingOf id).sum.isNaN = false := by
  rw [ratingOf_recordAll, Rating.sum_foldl_plus_take]
  exact Binary64.isNaN_foldl_add
    (fun score h => isFinite_of_mem_scoresOf finite id score (List.mem_of_mem_take h)) number

theorem sum_le_recordAll (finite : ∀ request ∈ requests, request.score.isFinite = true)
    {id : String} (number : (b.ratingOf id).sum.isNaN = false)
    (h : ∀ score ∈ scoresOf id requests, score.lt .zero = false) :
    (b.ratingOf id).sum.toFloat ≤ ((b.recordAll requests).ratingOf id).sum.toFloat := by
  rw [ratingOf_recordAll, Rating.sum_foldl_plus_take]
  exact Binary64.le_foldl_add
    (fun score h => isFinite_of_mem_scoresOf finite id score (List.mem_of_mem_take h)) number
    fun score hscore => h score (List.mem_of_mem_take hscore)

/-! ## One score -/

/-- What a score changes that is recorded: the rating of its laptop. The count goes up by one as long
as it can be counted. The sum is at least what it was if the score is not below zero, and at most that
if the score is not above zero. -/
structure Rated (b : Scoreboard) (request : RateLaptopRequest) (b' : Scoreboard) : Prop where
  finite : request.score.isFinite = true
  counted : (b.ratingOf request.laptopId).count.toNat + 1 < UInt32.size →
    (b'.ratingOf request.laptopId).count.toNat = (b.ratingOf request.laptopId).count.toNat + 1
  notDown : request.score.lt .zero = false →
    (b.ratingOf request.laptopId).sum.toFloat ≤ (b'.ratingOf request.laptopId).sum.toFloat
  notUp : Binary64.zero.lt request.score = false →
    (b'.ratingOf request.laptopId).sum.toFloat ≤ (b.ratingOf request.laptopId).sum.toFloat
  others : ∀ other, other ≠ request.laptopId → b'.find? other = b.find? other

theorem rated_record {request : RateLaptopRequest} (finite : request.score.isFinite = true)
    (number : (b.ratingOf request.laptopId).sum.isNaN = false) :
    Rated b request (b.record request.laptopId request.score).2 where
  finite := finite
  counted few := by
    rw [ratingOf_record_self]
    exact Rating.toNat_count_plus (Rating.room_ne_zero_iff.mpr few)
  notDown h := by
    rw [ratingOf_record_self]
    rcases Rating.sum_plus_cases (b.ratingOf request.laptopId) request.score with hsum | hsum
    · rw [hsum]
      exact Binary64.toFloat_le_self number
    · rw [hsum]
      exact Binary64.le_add number finite h
  notUp h := by
    rw [ratingOf_record_self]
    rcases Rating.sum_plus_cases (b.ratingOf request.laptopId) request.score with hsum | hsum
    · rw [hsum]
      exact Binary64.toFloat_le_self number
    · rw [hsum]
      exact Binary64.add_le number finite h
  others other h := by rw [find?_record, if_neg h]

/-! ## Many scores -/

/-- The scoreboard after the first of some scores. -/
def after (b : Scoreboard) (requests : List RateLaptopRequest) (n : Nat) : Scoreboard :=
  b.recordAll (requests.take n)

theorem after_length (b : Scoreboard) (requests : List RateLaptopRequest) :
    b.after requests requests.length = b.recordAll requests := by
  rw [after, List.take_length]

theorem after_succ {n : Nat} {request : RateLaptopRequest} (h : requests[n]? = some request) :
    b.after requests (n + 1) =
      ((b.after requests n).record request.laptopId request.score).2 := by
  rw [after, List.take_add_one, h, recordAll_append]
  rfl

theorem after_of_le {i j : Nat} (h : i ≤ j) :
    b.after requests j = (b.after requests i).recordAll ((requests.take j).drop i) := by
  have hsplit := List.take_append_drop i (requests.take j)
  rw [List.take_take, Nat.min_eq_left h] at hsplit
  rw [after, after, ← recordAll_append, hsplit]

/-- How counts and sums change when scores are recorded one after the other. No sum becomes a NaN, and
each score changes the rating of its laptop as `Rated` says. While a laptop gets no score below zero,
its sum does not go down. -/
structure Rises (b : Scoreboard) (requests : List RateLaptopRequest) : Prop where
  numbers : ∀ n id, ((b.after requests n).ratingOf id).sum.isNaN = false
  each : ∀ n request, requests[n]? = some request →
    (b.after requests n).Rated request (b.after requests (n + 1))
  stretch : ∀ id i j, i ≤ j →
    (∀ score ∈ scoresOf id ((requests.take j).drop i), score.lt .zero = false) →
    ((b.after requests i).ratingOf id).sum.toFloat ≤ ((b.after requests j).ratingOf id).sum.toFloat

theorem rises (finite : ∀ request ∈ requests, request.score.isFinite = true)
    (numbers : ∀ id, (b.ratingOf id).sum.isNaN = false) : b.Rises requests := by
  have hnumbers : ∀ n id, ((b.after requests n).ratingOf id).sum.isNaN = false :=
    fun n id => isNaN_sum_recordAll (fun r hr => finite r (List.mem_of_mem_take hr)) (numbers id)
  refine ⟨hnumbers, fun n request hrequest => ?_, fun id i j hij hscores => ?_⟩
  · rw [after_succ hrequest]
    exact rated_record (finite request (List.mem_of_getElem? hrequest))
      (hnumbers n request.laptopId)
  · have hfinite : ∀ request ∈ (requests.take j).drop i, request.score.isFinite = true :=
      fun r hr => finite r (List.mem_of_mem_take (List.mem_of_mem_drop hr))
    rw [after_of_le hij]
    exact sum_le_recordAll hfinite (hnumbers i id) hscores

end Scoreboard

namespace Server

/-- **How counts and sums change**, from a scoreboard on which no sum is a NaN: with finite scores, in
whichever order those of several calls are recorded, and in a run. The scores that a run records are
finite, and the scoreboard after it is the one that they make. -/
theorem ratings_rise :
    (∀ (b : Scoreboard) (requests : List RateLaptopRequest),
      (∀ id, (b.ratingOf id).sum.isNaN = false) →
      (∀ request ∈ requests, request.score.isFinite = true) → b.Rises requests) ∧
    ∀ (server : Server) (calls : List (Circumstances × Call)) (s : State),
      (∀ id, (s.scoreboard.ratingOf id).sum.isNaN = false) →
      (∀ request ∈ server.recorded calls s, request.score.isFinite = true) ∧
      (server.run calls s).2.scoreboard =
        s.scoreboard.after (server.recorded calls s) (server.recorded calls s).length ∧
      s.scoreboard.Rises (server.recorded calls s) := by
  refine ⟨fun b requests numbers finite => Scoreboard.rises finite numbers,
    fun server calls s numbers => ?_⟩
  have hfinite : ∀ request ∈ server.recorded calls s, request.score.isFinite = true :=
    fun request h => isFinite_of_mem_recorded h
  refine ⟨hfinite, ?_, Scoreboard.rises hfinite numbers⟩
  rw [(run_recorded server calls s).2, Scoreboard.after_length]

/-- Scores of 8 and 7.5 take the sum up to 8 and to 15.5. -/
theorem ratings_rise_twice :
    let calls := scoring [⟨0x4020000000000000⟩, ⟨0x401e000000000000⟩]
    let requests := unguarded.recorded calls untouched
    let ratingAfter := fun n => (untouched.scoreboard.after requests n).ratingOf quiet.fresh.text
    (∀ id, (untouched.scoreboard.ratingOf id).sum.isNaN = false) ∧
      ratingAfter 1 = ⟨1, ⟨0x4020000000000000⟩⟩ ∧ ratingAfter 2 = ⟨2, ⟨0x402f000000000000⟩⟩ ∧
      (ratingAfter 1).sum.toFloat ≤ (ratingAfter 2).sum.toFloat ∧
      ({} : Scoreboard).Rises requests := by
  intro calls requests ratingAfter
  have numbers : ∀ id, (untouched.scoreboard.ratingOf id).sum.isNaN = false := by
    intro id
    have hnone : untouched.scoreboard.ratingOf id = {} := rfl
    rw [hnone]
    decide
  obtain ⟨hfinite, -, hrises⟩ := ratings_rise.2 unguarded calls untouched numbers
  exact ⟨numbers, by decide +kernel, by decide +kernel,
    hrises.stretch quiet.fresh.text 1 2 (by decide) (by decide +kernel),
    ratings_rise.1 _ _ numbers hfinite⟩

/-- A score of -1 is recorded like any other, and takes a sum of 5 down to 4. -/
theorem sum_goes_down :
    let id := quiet.fresh.text
    let calls := scoring [⟨0x4014000000000000⟩, ⟨0xbff0000000000000⟩]
    let requests := unguarded.recorded calls untouched
    let ratingAfter := fun n => (untouched.scoreboard.after requests n).ratingOf id
    requests = [⟨id, ⟨0x4014000000000000⟩⟩, ⟨id, ⟨0xbff0000000000000⟩⟩] ∧
      (unguarded.run calls untouched).1.map (fun answer => answer.ratings.length) = [0, 2] ∧
      (unguarded.run calls untouched).2.scoreboard.ratingOf id = ratingAfter 2 ∧
      ratingAfter 1 = ⟨1, ⟨0x4014000000000000⟩⟩ ∧ ratingAfter 2 = ⟨2, ⟨0x4010000000000000⟩⟩ ∧
      (ratingAfter 2).sum.lt (ratingAfter 1).sum = true := by
  decide +kernel

end Server

end Showroom
