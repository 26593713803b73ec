import Showroom.Proofs.Binary64.Quotient
import Showroom.Proofs.Service.Counting

/-!
# Showroom.Proofs.Service.Averaging

When the averages that scores are answered with are finite. Each score is, but the sum of a laptop's
scores has no other bound than that of doubles, and is not checked when it goes on: a sum that
overflows is infinite, and so is every later sum and average, but none of them ever is a NaN. Scores
that are not very large never come to that, however many there are.

* `Binary64.Fits`: that a sum goes on through some scores without overflow.
* `Rating.Averaged`: what is known of a laptop's averages when it gets finite scores.
* `Server.ratings_averaged`: when the sums and averages in a run are finite.
-/

namespace Showroom

namespace Binary64

/-- Whether no sum overflows when these scores are added one after the other. -/
def Fits : Binary64 → List Binary64 → Prop
  | _, [] => True
  | sum, score :: scores => (sum.units + score.units).natAbs < overflow ∧ Fits (sum.add score) scores

section Sums

variable {sum : Binary64} {scores : List Binary64} {s : Float.Model.UnpackedFloat.Sign}

theorem foldl_add_infinite (h : sum.parts = .infinity s)
    (finite : ∀ score ∈ scores, score.isFinite = true) :
    (scores.foldl add sum).parts = .infinity s := by
  induction scores generalizing sum with
  | nil => exact h
  | cons score scores ih =>
    exact ih (add_infinite h (finite score List.mem_cons_self)) fun later hlater =>
      finite later (List.mem_cons_of_mem _ hlater)

theorem foldl_add_cases (hsum : sum.isFinite = true)
    (finite : ∀ score ∈ scores, score.isFinite = true) :
    (sum.Fits scores ∧ (scores.foldl add sum).isFinite = true) ∨
      (¬ sum.Fits scores ∧ ∃ s, (scores.foldl add sum).parts = .infinity s) := by
  induction scores generalizing sum with
  | nil => exact .inl ⟨trivial, hsum⟩
  | cons score scores ih =>
    have hscore := finite score List.mem_cons_self
    have hlater : ∀ later ∈ scores, later.isFinite = true :=
      fun later hlater => finite later (List.mem_cons_of_mem _ hlater)
    rcases add_cases hsum hscore with ⟨hfits, hadd⟩ | ⟨hover, s, hadd⟩
    · rcases ih hadd hlater with ⟨hall, hfinite⟩ | ⟨hnot, hinfinite⟩
      · exact .inl ⟨⟨hfits, hall⟩, hfinite⟩
      · exact .inr ⟨fun h => hnot h.2, hinfinite⟩
    · have hinfinite : (scores.foldl add (sum.add score)).parts = .infinity s :=
        foldl_add_infinite hadd hlater
      exact .inr ⟨fun h => absurd h.1 (Nat.not_lt.mpr hover), s, hinfinite⟩

theorem fits_of_small (hsum : sum.isFinite = true) (small : sum.units.natAbs ≤ 2 ^ (2044 + 53))
    (finite : ∀ score ∈ scores, score.isFinite = true)
    (smalls : ∀ score ∈ scores, score.units.natAbs ≤ 2 ^ 2044) : sum.Fits scores := by
  induction scores generalizing sum with
  | nil => trivial
  | cons score scores ih =>
    have hscore := finite score List.mem_cons_self
    obtain ⟨hfits, hsmall⟩ := add_small hsum hscore small (smalls score List.mem_cons_self)
    have hadd : (sum.add score).isFinite = true := by
      rcases add_cases hsum hscore with ⟨-, hadd⟩ | ⟨hover, -⟩
      · exact hadd
      · exact absurd hfits (Nat.not_lt.mpr hover)
    exact ⟨hfits, ih hadd hsmall (fun later h => finite later (List.mem_cons_of_mem _ h))
      fun later h => smalls later (List.mem_cons_of_mem _ h)⟩

end Sums

end Binary64

namespace Rating

variable {r : Rating} {scores : List Binary64}

/-- An average is finite if the sum is, or if there is none because the counter is at zero. -/
theorem isFinite_average (r : Rating) :
    r.average.isFinite = true ↔ r.count = 0 ∨ r.sum.isFinite = true := by
  rw [average]
  split
  · rename_i hnone
    exact iff_of_true (by decide) (.inl hnone)
  · rename_i hsome
    rw [Binary64.isFinite_div_ofUInt32 hsome]
    simp [hsome]

theorem isNaN_average (h : r.sum.isNaN = false) : r.average.isNaN = false := by
  rcases Binary64.finite_or_infinite h with hfinite | ⟨s, hs⟩
  · exact Binary64.isNaN_of_isFinite ((isFinite_average r).mpr (.inr hfinite))
  · by_cases hcount : r.count = 0
    · exact Binary64.isNaN_of_isFinite ((isFinite_average r).mpr (.inl hcount))
    · rw [average, if_neg hcount]
      exact Binary64.isNaN_of_infinite (Binary64.infinite_div_ofUInt32 hs hcount)

def averages : Rating → List Binary64 → List Binary64
  | _, [] => []
  | r, score :: scores => (r.plus score).average :: averages (r.plus score) scores

theorem length_averages (r : Rating) (scores : List Binary64) :
    (r.averages scores).length = scores.length := by
  induction scores generalizing r with
  | nil => rfl
  | cons score scores ih => exact congrArg (· + 1) (ih (r.plus score))

theorem averages_getElem? (r : Rating) (scores : List Binary64) (k : Nat) :
    (r.averages scores)[k]? =
      scores[k]?.map fun _ => ((scores.take (k + 1)).foldl plus r).average := by
  induction scores generalizing r k with
  | nil => rfl
  | cons score scores ih =>
    cases k with
    | zero => rfl
    | succ k => exact ih (r.plus score) k

/-- What is known of a laptop's averages, when it gets finite scores that are few enough to be counted:
it is answered one average for each of them, which is finite as long as the scores up to it fit; and
its sum is finite if they all fit. Otherwise they are infinite, and never a NaN. Scores up to 2 to the
power of 970 always fit. -/
structure Averaged (r : Rating) (scores averages : List Binary64) (last : Rating) : Prop where
  finite : ∀ score ∈ scores, score.isFinite = true
  few : r.count.toNat + scores.length < UInt32.size
  oneEach : averages.length = scores.length
  average : ∀ k average, averages[k]? = some average →
    (average.isFinite = true ↔ r.sum.Fits (scores.take (k + 1)))
  sum : last.sum = scores.foldl Binary64.add r.sum ∧
    (last.sum.isFinite = true ↔ r.sum.Fits scores)
  number : last.sum.isNaN = false ∧ ∀ average ∈ averages, average.isNaN = false
  small : r.sum.magnitude ≤ 0x7fe0000000000000 →
    (∀ score ∈ scores, score.magnitude ≤ 0x7c90000000000000) → r.sum.Fits scores

section Averaged

variable (hr : r.sum.isFinite = true) (finite : ∀ score ∈ scores, score.isFinite = true)
  (few : scores.length ≤ r.room)

include hr finite few

theorem isFinite_sum_iff : (scores.foldl plus r).sum.isFinite = true ↔ r.sum.Fits scores := by
  rw [sum_foldl_plus few]
  rcases Binary64.foldl_add_cases hr finite with ⟨hfits, hfinite⟩ | ⟨hnot, s, hinfinite⟩
  · exact iff_of_true hfinite hfits
  · refine iff_of_false ?_ hnot
    rw [Binary64.isFinite_of_infinite hinfinite]
    exact Bool.false_ne_true

theorem isNaN_sum : (scores.foldl plus r).sum.isNaN = false := by
  rw [sum_foldl_plus few]
  exact Binary64.isNaN_foldl_add finite (Binary64.isNaN_of_isFinite hr)

theorem averaged : Averaged r scores (r.averages scores) (scores.foldl plus r) where
  finite := finite
  few := length_le_room.mp few
  oneEach := length_averages r scores
  average := by
    intro k average haverage
    rw [averages_getElem?] at haverage
    obtain ⟨score, hscore, rfl⟩ := Option.map_eq_some_iff.mp haverage
    have hlt : k < scores.length := (List.getElem?_eq_some_iff.mp hscore).1
    have htake : (scores.take (k + 1)).length = k + 1 := List.length_take_of_le hlt
    have hfew : (scores.take (k + 1)).length ≤ r.room := by omega
    have hcount := toNat_count_foldl_plus hfew
    have hfits := isFinite_sum_iff hr (fun score h => finite score (List.mem_of_mem_take h)) hfew
    rw [average_of_pos (by omega), Binary64.isFinite_div_ofUInt32 (ne_zero_of_pos (by omega)), hfits]
  sum := ⟨sum_foldl_plus few, isFinite_sum_iff hr finite few⟩
  number := by
    refine ⟨isNaN_sum hr finite few, fun average haverage => ?_⟩
    obtain ⟨k, hk⟩ := List.mem_iff_getElem?.mp haverage
    rw [averages_getElem?] at hk
    obtain ⟨-, -, rfl⟩ := Option.map_eq_some_iff.mp hk
    exact isNaN_average (isNaN_sum hr (fun score h => finite score (List.mem_of_mem_take h))
      (Nat.le_trans (List.length_take_le' _ _) few))
  small := by
    intro hsum hscores
    refine Binary64.fits_of_small hr (Binary64.natAbs_units_le (a := 2045) ?_ rfl) finite
      fun score hscore => Binary64.natAbs_units_le (a := 1992) ?_ rfl
    · exact UInt64.le_iff_toNat_le.mp hsum
    · exact UInt64.le_iff_toNat_le.mp (hscores score hscore)

end Averaged

end Rating

open Rating

/-- The averages in the responses about one laptop, in their order. -/
def averagesOf (id : String) (responses : List RateLaptopResponse) : List Binary64 :=
  (responses.filter (·.laptopId = id)).map (·.averageScore)

theorem averagesOf_cons (id laptopId : String) (rating : Rating)
    (responses : List RateLaptopResponse) :
    averagesOf id (RateLaptop.respond laptopId rating :: responses) =
      if laptopId = id then rating.average :: averagesOf id responses
      else averagesOf id responses := by
  simp only [averagesOf, RateLaptop.respond, List.filter_cons, decide_eq_true_eq]
  split <;> rfl

theorem RateLaptop.averagesOf_responsesTo {b : Scoreboard} {requests : List RateLaptopRequest}
    (h : b.Countable requests) (id : String) :
    averagesOf id (responsesTo b requests) = (b.ratingOf id).averages (scoresOf id requests) := by
  induction requests generalizing b with
  | nil => rfl
  | cons request requests ih =>
    obtain ⟨hroom, hlater⟩ := Scoreboard.countable_cons.mp h
    rw [responsesTo_cons_of_room hroom, averagesOf_cons, ih hlater, scoresOf_cons]
    by_cases hid : request.laptopId = id
    · subst hid
      rw [Scoreboard.ratingOf_record_self, if_pos rfl, if_pos rfl, averages]
    · rw [Scoreboard.ratingOf_record_of_ne _ _ (Ne.symm hid), if_neg hid, if_neg hid]

namespace Server

variable {server : Server} {o : Circumstances} {call : Call} {s : State}

theorem isFinite_of_mem_recorded {calls : List (Circumstances × Call)}
    {request : RateLaptopRequest} (h : request ∈ server.recorded calls s) :
    request.score.isFinite = true := by
  induction calls generalizing s with
  | nil => cases h
  | cons c calls ih =>
    rw [recorded, recordedBy] at h
    rcases List.mem_append.mp h with hhere | hlater
    · split at hhere
      · exact (RateLaptop.acceptable_of_mem_accepted (RateLaptop.mem_of_mem_kept hhere)).1
      · cases hhere
    · exact ih hlater

/-- **When averages are finite.** Where a laptop's sum is finite before a run, the averages that the
run answers for it are those of the scores that it records for the laptop, all of which are finite and
counted; the averages and the sum are as `Averaged` says. -/
theorem ratings_averaged (server : Server) (calls : List (Circumstances × Call)) (s : State)
    (id : String) (finite : (s.scoreboard.ratingOf id).sum.isFinite = true) :
    Averaged (s.scoreboard.ratingOf id) (scoresOf id (server.recorded calls s))
      (averagesOf id ((server.run calls s).1.flatMap Answer.ratings))
      ((server.run calls s).2.scoreboard.ratingOf id) := by
  obtain ⟨hratings, hboard⟩ := run_recorded server calls s
  have hcountable := countable_recorded server calls s
  rw [hratings, hboard, RateLaptop.averagesOf_responsesTo hcountable, Scoreboard.ratingOf_recordAll]
  refine averaged finite (fun score hscore => ?_) (hcountable id)
  obtain ⟨request, hrequest, rfl⟩ := List.mem_map.mp hscore
  exact isFinite_of_mem_recorded (List.mem_filter.mp hrequest).1

def scoring (scores : List Binary64) : List (Circumstances × Call) :=
  [(quiet, Client.creation { brand := "A" } {}),
    (quiet, ⟨Method.rateLaptop.path, {},
      scores.map fun score => .ok (Wire.encode (RateLaptopRequest.mk quiet.fresh.text score))⟩)]

/-- Scores of 8 and 7.5, which have the averages 8 and 7.75. -/
theorem ratings_averaged_twice :
    let id := quiet.fresh.text
    let calls := scoring [⟨0x4020000000000000⟩, ⟨0x401e000000000000⟩]
    let averages := averagesOf id ((unguarded.run calls untouched).1.flatMap Answer.ratings)
    (untouched.scoreboard.ratingOf id).sum.isFinite = true ∧
      averages = [⟨0x4020000000000000⟩, ⟨0x401f000000000000⟩] ∧
      Averaged (untouched.scoreboard.ratingOf id)
        (scoresOf id (unguarded.recorded calls untouched)) averages
        ((unguarded.run calls untouched).2.scoreboard.ratingOf id) :=
  ⟨by decide, by decide +kernel, ratings_averaged unguarded _ untouched _ (by decide)⟩

/-- The largest double is finite, and two such scores have an infinite average. -/
theorem averages_overflow :
    let largest : Binary64 := ⟨0x7fefffffffffffff⟩
    let run := unguarded.run (scoring [largest, largest]) untouched
    scoresOf quiet.fresh.text (unguarded.recorded (scoring [largest, largest]) untouched) =
        [largest, largest] ∧
      largest.isFinite = true ∧
      averagesOf quiet.fresh.text (run.1.flatMap Answer.ratings) = [largest, .infinity] ∧
      Binary64.infinity.isFinite = false ∧
      (run.2.scoreboard.ratingOf quiet.fresh.text).sum = .infinity := by
  decide +kernel

end Server

end Showroom
