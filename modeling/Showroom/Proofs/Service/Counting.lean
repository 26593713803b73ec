import Showroom.Proofs.Service.Creation
import Showroom.Proofs.Service.Recording

/-!
# Showroom.Proofs.Service.Counting

The counts that scores are answered with. The counter of a laptop has 32 bits: it goes through the
numbers one by one, so that the counts rise and no two are the same. Nothing keeps it from the last of
them, where it overflows with the next score. The call that brought this score ends with no response
to it and no status, and the rating stays as it is.

* `Rating.Tallied`: the numbers that a counter goes through.
* `Scoreboard.tallied_responsesTo`, `Server.run_tallied`: the counts of one laptop among scores that
  are recorded in any order, and in any run.
* `RateLaptop.Ends`: where a call ends.
* `Server.ratings_counted`: what the counts are, and when the counter overflows.
-/

namespace Showroom

namespace Rating

/-- The numbers that a counter goes through on its way from one number to another. -/
inductive Tallied : UInt32 → List UInt32 → UInt32 → Prop
  | done {start : UInt32} : Tallied start [] start
  | next {start last : UInt32} {counts : List UInt32} (few : start.toNat + 1 < UInt32.size)
      (later : Tallied (start + 1) counts last) : Tallied start ((start + 1) :: counts) last

/-- What is known of counts that a counter goes through from `start` to `last`. -/
structure Consecutive (start : UInt32) (counts : List UInt32) (last : UInt32) : Prop where
  each : ∀ k count, counts[k]? = some count → count.toNat = start.toNat + k + 1
  rising : (start :: counts).Pairwise (· < ·)
  distinct : counts.Nodup
  last : last.toNat = start.toNat + counts.length

theorem toNat_succ {n : UInt32} (h : n.toNat + 1 < UInt32.size) : (n + 1).toNat = n.toNat + 1 := by
  rw [UInt32.toNat_add, UInt32.toNat_one]
  exact Nat.mod_eq_of_lt h

namespace Tallied

variable {start last : UInt32} {counts : List UInt32}

theorem each (h : Tallied start counts last) {k : Nat} {count : UInt32}
    (hk : counts[k]? = some count) : count.toNat = start.toNat + k + 1 := by
  induction h generalizing k with
  | done => cases hk
  | @next start last counts few later ih =>
    cases k with
    | zero =>
      cases hk
      exact toNat_succ few
    | succ k =>
      rw [List.getElem?_cons_succ] at hk
      rw [ih hk, toNat_succ few]
      omega

theorem toNat_last (h : Tallied start counts last) : last.toNat = start.toNat + counts.length := by
  induction h with
  | done => rfl
  | @next start last counts few later ih =>
    rw [ih, toNat_succ few, List.length_cons]
    omega

theorem rising (h : Tallied start counts last) : (start :: counts).Pairwise (· < ·) := by
  induction h with
  | done => exact List.pairwise_singleton _ _
  | @next start last counts few later ih =>
    have hup : start < start + 1 := by
      rw [UInt32.lt_iff_toNat_lt, toNat_succ few]
      exact Nat.lt_succ_self _
    refine List.pairwise_cons.mpr ⟨fun count hcount => ?_, ih⟩
    rcases List.mem_cons.mp hcount with rfl | hcount
    · exact hup
    · exact UInt32.lt_trans hup (List.rel_of_pairwise_cons ih hcount)

theorem consecutive (h : Tallied start counts last) : Consecutive start counts last where
  each := fun _ _ => h.each
  rising := h.rising
  distinct := (List.pairwise_cons.mp h.rising).2.imp UInt32.ne_of_lt
  last := h.toNat_last

end Tallied

end Rating

open Rating

/-- The counts in the responses about one laptop, in their order. -/
def countsOf (id : String) (responses : List RateLaptopResponse) : List UInt32 :=
  (responses.filter (·.laptopId = id)).map (·.ratedCount)

theorem countsOf_cons (id laptopId : String) (rating : Rating)
    (responses : List RateLaptopResponse) :
    countsOf id (RateLaptop.respond laptopId rating :: responses) =
      if laptopId = id then rating.count :: countsOf id responses else countsOf id responses := by
  simp only [countsOf, RateLaptop.respond, List.filter_cons, decide_eq_true_eq]
  split <;> rfl

namespace Scoreboard

variable (b : Scoreboard) (requests : List RateLaptopRequest) (id : String)

/-- Scores that are recorded one after the other, in whichever order they come, tally the counter of
each laptop. -/
theorem tallied_responsesTo :
    Tallied (b.ratingOf id).count (countsOf id (RateLaptop.responsesTo b requests))
      ((b.recordAll requests).ratingOf id).count := by
  induction requests generalizing b with
  | nil => exact .done
  | cons request requests ih =>
    have hlater := ih (b.record request.laptopId request.score).2
    by_cases hroom : (b.ratingOf request.laptopId).room = 0
    · rw [RateLaptop.responsesTo_cons_of_full hroom]
      rwa [record_of_full _ hroom, ← recordAll_cons_of_full hroom] at hlater
    · rw [RateLaptop.responsesTo_cons_of_room hroom, countsOf_cons]
      split
      · rename_i hid
        subst hid
        rw [ratingOf_record_self, Rating.plus_of_room hroom] at hlater
        rw [Rating.plus_of_room hroom]
        exact .next (Rating.room_ne_zero_iff.mp hroom) hlater
      · rename_i hid
        rwa [ratingOf_record_of_ne _ _ (Ne.symm hid)] at hlater

theorem length_countsOf_responsesTo :
    (countsOf id (RateLaptop.responsesTo b requests)).length =
      min (scoresOf id requests).length (b.ratingOf id).room := by
  induction requests generalizing b with
  | nil => exact (Nat.zero_min _).symm
  | cons request requests ih =>
    rw [scoresOf_cons]
    by_cases hroom : (b.ratingOf request.laptopId).room = 0
    · rw [RateLaptop.responsesTo_cons_of_full hroom, ih]
      split
      · rename_i hid
        subst hid
        rw [hroom, Nat.min_zero, Nat.min_zero]
      · rfl
    · rw [RateLaptop.responsesTo_cons_of_room hroom, countsOf_cons]
      by_cases hid : request.laptopId = id
      · subst hid
        rw [if_pos rfl, if_pos rfl, List.length_cons, List.length_cons, ih, ratingOf_record_self,
          Rating.room_plus]
        omega
      · rw [if_neg hid, if_neg hid, ih, ratingOf_record_of_ne _ _ (Ne.symm hid)]

end Scoreboard

namespace RateLaptop

/-- Where a call ends: the scores that it accepts are answered and recorded up to the first that
would make a counter overflow, and then no status says so. There is such a score exactly if a laptop
gets more of them than its counter has numbers left. -/
structure Ends (c : Catalog) (b : Scoreboard) (items : List (Received RateLaptopRequest))
    (outcome : Outcome) (kept later : List RateLaptopRequest) : Prop where
  accepted : accepted c items = kept ++ later
  answered : outcome.responses = responsesTo b kept ∧ outcome.responses.length = kept.length
  recorded : outcome.scoreboard = b.recordAll kept
  overflow : ∀ request, later.head? = some request →
    (outcome.scoreboard.ratingOf request.laptopId).add request.score = none ∧
      outcome.refusal = none
  enough : later = [] ↔ ∀ id, (b.ratingOf id).count.toNat +
    (scoresOf id (RateLaptop.accepted c items)).length < UInt32.size

theorem ends (c : Catalog) (b : Scoreboard) (items : List (Received RateLaptopRequest)) :
    ∃ later, Ends c b items (answer c b items) (kept b (accepted c items)) later := by
  obtain ⟨later, hsplit, hfull⟩ := kept_cases b (accepted c items)
  obtain ⟨hresponses, hboard⟩ := answer_kept c b items
  have henough : later = [] ↔ b.Countable (accepted c items) := by
    constructor
    · intro hnone
      rw [hnone, List.append_nil] at hsplit
      rw [hsplit]
      exact countable_kept _ _
    · intro hcountable
      rw [kept_of_countable hcountable] at hsplit
      exact List.append_cancel_left (hsplit.symm.trans (List.append_nil _).symm)
  refine ⟨later, hsplit, ⟨hresponses, ?_⟩, hboard, fun request hfirst => ⟨?_, ?_⟩, ?_⟩
  · rw [hresponses, length_responsesTo (countable_kept _ _)]
  · rw [hboard]
    exact Rating.add_of_full (hfull request hfirst)
  · refine refusal_of_uncounted fun hcountable => ?_
    rw [henough.mpr hcountable] at hfirst
    cases hfirst
  · rw [henough]
    exact forall_congr' fun id => Rating.length_le_room

theorem accepted_replicate {c : Catalog} {request : RateLaptopRequest}
    (h : acceptable c (.ok request) = true) (n : Nat) :
    accepted c (List.replicate n (.ok request)) = List.replicate n request := by
  induction n with
  | zero => rfl
  | succ n ih => rw [List.replicate_succ, accepted_cons_ok h, ih, List.replicate_succ]

theorem kept_replicate (b : Scoreboard) (request : RateLaptopRequest) (n : Nat) :
    kept b (List.replicate n request) =
      List.replicate (min n (b.ratingOf request.laptopId).room) request := by
  induction n generalizing b with
  | zero => rw [Nat.zero_min]; rfl
  | succ n ih =>
    rw [List.replicate_succ]
    by_cases h : (b.ratingOf request.laptopId).room = 0
    · rw [kept_cons_of_full h, h, Nat.min_zero]
      rfl
    · obtain ⟨m, hm⟩ := Nat.exists_eq_succ_of_ne_zero h
      rw [kept_cons_of_room h, ih, Scoreboard.ratingOf_record_self, Rating.room_plus, hm,
        Nat.succ_min_succ, List.replicate_succ, Nat.succ_sub_one]

end RateLaptop

namespace Server

theorem run_tallied (server : Server) (calls : List (Circumstances × Call)) (s : State)
    (id : String) :
    Tallied (s.scoreboard.ratingOf id).count
      (countsOf id ((server.run calls s).1.flatMap Answer.ratings))
      ((server.run calls s).2.scoreboard.ratingOf id).count := by
  obtain ⟨hratings, hboard⟩ := run_recorded server calls s
  rw [hratings, hboard]
  exact Scoreboard.tallied_responsesTo _ _ id

/-- **How scores are counted.** Whether a laptop's scores are recorded one after the other, in
whichever order, or come in the calls of a run, the counts in the answers go up one by one from the
count before them: they rise, and no two are the same. The counter does not get beyond the last number
of 32 bits. It overflows with the score after that, and the call with this score ends there. -/
theorem ratings_counted (server : Server) :
    (∀ b requests id,
      Consecutive (b.ratingOf id).count (countsOf id (RateLaptop.responsesTo b requests))
          ((b.recordAll requests).ratingOf id).count ∧
        (countsOf id (RateLaptop.responsesTo b requests)).length =
          min (scoresOf id requests).length (UInt32.size - 1 - (b.ratingOf id).count.toNat)) ∧
    (∀ c b items, ∃ kept later,
      RateLaptop.Ends c b items (RateLaptop.answer c b items) kept later) ∧
    ∀ calls s id, Consecutive (s.scoreboard.ratingOf id).count
      (countsOf id ((server.run calls s).1.flatMap Answer.ratings))
      ((server.run calls s).2.scoreboard.ratingOf id).count := by
  refine ⟨fun b requests id => ⟨?_, ?_⟩, fun c b items => ?_, fun calls s id => ?_⟩
  · exact (b.tallied_responsesTo requests id).consecutive
  · exact b.length_countsOf_responsesTo requests id
  · exact ⟨_, RateLaptop.ends c b items⟩
  · exact (run_tallied server calls s id).consecutive

def zeros (id : String) (n : Nat) : Call :=
  ⟨Method.rateLaptop.path, {},
    List.replicate n (.ok (Wire.encode (RateLaptopRequest.mk id .zero)))⟩

def zeroing (n : Nat) : List (Circumstances × Call) :=
  [(quiet, Client.creation { brand := "A" } {}), (quiet, zeros quiet.fresh.text n)]

/-- The state in which a service starts that keeps its images in a folder `images`. -/
def untouched : State := { gallery := ⟨"images", {}⟩ }

def entered : State := (unguarded.serve quiet (Client.creation { brand := "A" } {}) untouched).2

theorem accepted_zeros (n : Nat) :
    RateLaptop.accepted entered.catalog
        ((zeros quiet.fresh.text n).messages.map (decodeItem RateLaptopRequest)) =
      List.replicate n ⟨quiet.fresh.text, .zero⟩ := by
  have hreceived : decodeItem RateLaptopRequest
      (.ok (Wire.encode (RateLaptopRequest.mk quiet.fresh.text .zero))) =
        .ok ⟨quiet.fresh.text, .zero⟩ := eq_ok_of_toOption (by decide +kernel)
  rw [zeros, List.map_replicate, hreceived]
  exact RateLaptop.accepted_replicate (by decide +kernel) n

theorem recorded_zeroing (n : Nat) :
    unguarded.recorded (zeroing n) untouched =
      List.replicate (min n (UInt32.size - 1)) ⟨quiet.fresh.text, .zero⟩ := by
  have hcreated : unguarded.recordedBy quiet (Client.creation { brand := "A" } {}) untouched = [] :=
    by decide +kernel
  have hboard : entered.scoreboard = {} := by decide +kernel
  have hrated : unguarded.recordedBy quiet (zeros quiet.fresh.text n) entered =
      RateLaptop.kept entered.scoreboard (RateLaptop.accepted entered.catalog
        ((zeros quiet.fresh.text n).messages.map (decodeItem RateLaptopRequest))) := if_pos ⟨rfl, rfl⟩
  rw [zeroing, recorded, recorded, recorded, hcreated, List.nil_append, List.append_nil, ← entered,
    hrated, accepted_zeros, RateLaptop.kept_replicate, hboard]
  rfl

theorem length_counts_zeroing (n : Nat) :
    (countsOf quiet.fresh.text
        ((unguarded.run (zeroing n) untouched).1.flatMap Answer.ratings)).length =
      min n (UInt32.size - 1) := by
  have hall : ∀ m, (scoresOf quiet.fresh.text
      (List.replicate m ⟨quiet.fresh.text, .zero⟩)).length = m := by
    intro m
    rw [scoresOf, List.length_map, List.filter_replicate, if_pos (decide_eq_true rfl),
      List.length_replicate]
  rw [(run_recorded _ _ _).1, Scoreboard.length_countsOf_responsesTo, recorded_zeroing, hall]
  exact Nat.min_eq_left (Nat.min_le_right _ _)

/-- Of as many scores as there are numbers of 32 bits, zero included, the last makes the counter
overflow: it is accepted like the others, but neither answered nor recorded. -/
theorem counter_overflows :
    let id := quiet.fresh.text
    let items := (zeros id UInt32.size).messages.map (decodeItem RateLaptopRequest)
    let run := unguarded.run (zeroing UInt32.size) untouched
    (RateLaptop.accepted entered.catalog items).length = 4294967296 ∧
      (countsOf id (run.1.flatMap Answer.ratings)).length = 4294967295 ∧
      (run.2.scoreboard.ratingOf id).count.toNat = 4294967295 ∧
      (run.2.scoreboard.ratingOf id).add .zero = none := by
  intro id items run
  have hlength : (countsOf id (run.1.flatMap Answer.ratings)).length = 4294967295 :=
    (length_counts_zeroing UInt32.size).trans (by decide)
  have hcount : (run.2.scoreboard.ratingOf id).count.toNat = 4294967295 := by
    have hlast := (run_tallied unguarded (zeroing UInt32.size) untouched id).toNat_last
    have hstart : (untouched.scoreboard.ratingOf id).count.toNat = 0 := rfl
    rw [hlast, hlength, hstart, Nat.zero_add]
  refine ⟨?_, hlength, hcount, Rating.add_of_full ?_⟩
  · rw [accepted_zeros, List.length_replicate]
  · rw [Rating.room, hcount, UInt32.size]

end Server

end Showroom
