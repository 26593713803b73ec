import Showroom.Proofs.Client.Sending
import Showroom.Proofs.Service.Creation
import Showroom.Proofs.Service.Recording

/-!
# Showroom.Proofs.Client.Rating

What comes of the scores that a client gives to laptops. Lists of different lengths are not sent.
Pairs are sent one after the other, and the server takes them up to the first that it does not
accept. The client gets either one response for each pair, or only the status of that one; the pairs
before it are recorded all the same.

* `RateLaptop.rateable_or_offends`: the first pair that is not accepted.
* `Client.rateLaptops_eq`: what the client makes of the server's answer.
* `Client.rateLaptops_decides`: what comes of laptops and scores.
-/

namespace Showroom

theorem Binary64.settled_of_not_finite {x : Binary64} (h : x.isFinite = false) : x.settled = x := by
  refine if_neg fun hzero => ?_
  rw [isFinite, of_decide_eq_true hzero] at h
  cases h

theorem Binary64.isFinite_settled (x : Binary64) : x.settled.isFinite = x.isFinite := by
  cases h : x.isFinite with
  | false => rw [settled_of_not_finite h, h]
  | true =>
    rw [settled]
    split
    · rfl
    · exact h

namespace RateLaptop

/-! ## Pairs -/

/-- The requests for pairs of laptops and scores, as they arrive. -/
def sent (pairs : List (String × Binary64)) : List RateLaptopRequest :=
  pairs.map fun pair => ⟨pair.1, pair.2.settled⟩

def arrived (pairs : List (String × Binary64)) : List (Received RateLaptopRequest) :=
  (sent pairs).map .ok

theorem arrived_append (front back : List (String × Binary64)) :
    arrived (front ++ back) = arrived front ++ arrived back := by
  rw [arrived, sent, List.map_append, List.map_append]
  rfl

/-- Whether a pair can be recorded. -/
structure Rateable (c : Catalog) (pair : String × Binary64) : Prop where
  known : c.contains pair.1 = true
  finite : pair.2.isFinite = true

variable {c : Catalog} {pair : String × Binary64} {status : Status}
  {front pairs : List (String × Binary64)}

theorem acceptable_sent (h : Rateable c pair) :
    acceptable c (.ok ⟨pair.1, pair.2.settled⟩) = true := by
  simp only [acceptable, Binary64.isFinite_settled, h.finite, h.known, Bool.and_self]

theorem offends_sent (h : Offends c (.ok ⟨pair.1, pair.2⟩) status) :
    Offends c (.ok ⟨pair.1, pair.2.settled⟩) status := by
  generalize hitem : (.ok ⟨pair.1, pair.2⟩ : Received RateLaptopRequest) = item at h
  cases h with
  | notReceived => cases hitem
  | notFinite request h =>
    cases hitem
    rw [Binary64.settled_of_not_finite h]
    exact .notFinite _ h
  | unknownLaptop request finite h =>
    cases hitem
    exact .unknownLaptop _ ((Binary64.isFinite_settled _).trans finite) h

theorem not_rateable_of_offends (h : Offends c (.ok ⟨pair.1, pair.2⟩) status) :
    ¬ Rateable c pair := by
  intro hrateable
  have hnot := not_acceptable_of_offends (offends_sent h)
  rw [acceptable_sent hrateable] at hnot
  cases hnot

theorem rateable_or_offends (c : Catalog) (pairs : List (String × Binary64)) :
    (∀ pair ∈ pairs, Rateable c pair) ∨
      ∃ front pair back status, pairs = front ++ pair :: back ∧ (∀ p ∈ front, Rateable c p) ∧
        Offends c (.ok ⟨pair.1, pair.2⟩) status := by
  induction pairs with
  | nil => exact .inl fun pair hpair => by cases hpair
  | cons first pairs ih =>
    rcases acceptable_or_offends c (.ok ⟨first.1, first.2⟩) with
      ⟨_, hrequest, hfirst⟩ | ⟨status, hoffends⟩
    · cases hrequest
      obtain ⟨hfinite, hknown⟩ := Bool.and_eq_true_iff.mp hfirst
      have hfirst : Rateable c first := ⟨hknown, hfinite⟩
      rcases ih with hall | ⟨front, pair, back, status, rfl, hfront, hoffends⟩
      · exact .inl (List.forall_mem_cons.mpr ⟨hfirst, hall⟩)
      · exact .inr ⟨first :: front, pair, back, status, rfl,
          List.forall_mem_cons.mpr ⟨hfirst, hfront⟩, hoffends⟩
    · exact .inr ⟨[], first, pairs, status, rfl, fun p hp => (by cases hp), hoffends⟩

theorem accepted_arrived (h : ∀ pair ∈ front, Rateable c pair)
    (items : List (Received RateLaptopRequest)) :
    accepted c (arrived front ++ items) = sent front ++ accepted c items := by
  induction front with
  | nil => rfl
  | cons pair front ih =>
    obtain ⟨hpair, hfront⟩ := List.forall_mem_cons.mp h
    rw [arrived, sent, List.map_cons, List.map_cons, ← sent, ← arrived, List.cons_append,
      accepted_cons_ok (acceptable_sent hpair), ih hfront, List.cons_append]

theorem accepted_arrived_all (h : ∀ pair ∈ pairs, Rateable c pair) :
    accepted c (arrived pairs) = sent pairs := by
  have hall := accepted_arrived h []
  rw [List.append_nil] at hall
  exact hall.trans (List.append_nil _)

/-! ## The server -/

theorem laptopIds_responsesTo {b : Scoreboard} {requests : List RateLaptopRequest}
    (h : b.Countable requests) :
    (responsesTo b requests).map (·.laptopId) = requests.map (·.laptopId) := by
  induction requests generalizing b with
  | nil => rfl
  | cons request requests ih =>
    obtain ⟨hroom, hlater⟩ := Scoreboard.countable_cons.mp h
    rw [responsesTo_cons_of_room hroom, List.map_cons, List.map_cons, ih hlater]
    rfl

/-- What becomes of a scoreboard when pairs are recorded one after the other. -/
structure Recorded (b : Scoreboard) (pairs : List (String × Binary64)) (b' : Scoreboard) :
    Prop where
  eachInTurn : b' = pairs.foldl (fun b pair => (b.record pair.1 pair.2.settled).2) b
  counted : ∀ id, (b'.ratingOf id).count.toNat =
    (b.ratingOf id).count.toNat + (scoresOf id (sent pairs)).length
  added : ∀ id, (b'.ratingOf id).sum =
    (scoresOf id (sent pairs)).foldl Binary64.add (b.ratingOf id).sum
  others : ∀ id, id ∉ pairs.map (·.1) → b'.find? id = b.find? id

/-- What is answered to pairs that are all recorded: to each, in its turn, how often its laptop has
been rated and how well on average, right after it. -/
structure Answered (b : Scoreboard) (pairs : List (String × Binary64))
    (responses : List RateLaptopResponse) : Prop where
  oneEach : responses.length = pairs.length
  inOrder : ∀ i pair, pairs[i]? = some pair →
    ∃ response, responses[i]? = some response ∧ response.laptopId = pair.1 ∧
      response.ratedCount.toNat = (b.ratingOf pair.1).count.toNat +
        (scoresOf pair.1 (sent (pairs.take (i + 1)))).length ∧
      response.averageScore =
        (((scoresOf pair.1 (sent (pairs.take (i + 1)))).foldl Binary64.add
          (b.ratingOf pair.1).sum).div (.ofUInt32 response.ratedCount)).settled

section Recording

variable {b : Scoreboard} (countable : b.Countable (sent pairs))

include countable

theorem recorded_sent : Recorded b pairs (b.recordAll (sent pairs)) where
  eachInTurn := by rw [Scoreboard.recordAll, sent, List.foldl_map]
  counted id := by
    rw [Scoreboard.ratingOf_recordAll]
    exact Rating.toNat_count_foldl_plus (countable id)
  added id := by
    rw [Scoreboard.ratingOf_recordAll]
    exact Rating.sum_foldl_plus (countable id)
  others id hid := by
    have hnone : scoresOf id (sent pairs) = [] := by
      rw [scoresOf, List.map_eq_nil_iff, List.filter_eq_nil_iff]
      intro request hrequest hsame
      obtain ⟨pair, hpair, rfl⟩ := List.mem_map.mp hrequest
      exact hid (List.mem_map.mpr ⟨pair, hpair, of_decide_eq_true hsame⟩)
    rw [Scoreboard.find?_recordAll, if_pos hnone]

theorem answered_sent :
    Answered b pairs ((responsesTo b (sent pairs)).map Wire.settled) where
  oneEach := by rw [List.length_map, length_responsesTo countable, sent, List.length_map]
  inOrder i pair hpair := by
    have hsent : (sent pairs)[i]? = some ⟨pair.1, pair.2.settled⟩ := by
      rw [sent, List.getElem?_map, hpair, Option.map_some]
    have htake : (sent pairs).take (i + 1) = sent (pairs.take (i + 1)) := List.map_take.symm
    have hmem : (⟨pair.1, pair.2.settled⟩ : RateLaptopRequest) ∈ sent (pairs.take (i + 1)) := by
      rw [← htake]
      exact List.mem_of_getElem? ((List.getElem?_take_of_lt (Nat.lt_succ_self i)).trans hsent)
    have hpos : 0 < (scoresOf pair.1 (sent (pairs.take (i + 1)))).length :=
      List.length_pos_iff.mpr (scoresOf_ne_nil hmem)
    have hfew := Nat.le_trans (length_scoresOf_take_le pair.1 (sent pairs) (i + 1))
      (countable pair.1)
    rw [htake] at hfew
    let rating := (scoresOf pair.1 (sent (pairs.take (i + 1)))).foldl Rating.plus (b.ratingOf pair.1)
    have hcount : rating.count.toNat = (b.ratingOf pair.1).count.toNat +
        (scoresOf pair.1 (sent (pairs.take (i + 1)))).length :=
      Rating.toNat_count_foldl_plus hfew
    refine ⟨Wire.settled (respond pair.1 rating), ?_, rfl, hcount, ?_⟩
    · rw [List.getElem?_map, responsesTo_getElem? countable, hsent, Option.map_some,
        Option.map_some, htake, Scoreboard.ratingOf_recordAll]
    · rw [← Rating.sum_foldl_plus hfew]
      exact congrArg Binary64.settled (Rating.average_of_pos (by omega))

end Recording

end RateLaptop

/-! ## The client -/

namespace Client

open RateLaptop

variable {client : Client} {o : Circumstances} {s : State} {m : Metadata} {ids : List String}
  {scores : List Binary64}

def rating (ids : List String) (scores : List Binary64) (m : Metadata) : Call :=
  ⟨Method.rateLaptop.path, m, (ids.zip scores).map fun pair =>
    .ok (Wire.encode (RateLaptopRequest.mk pair.1 pair.2))⟩

theorem rateLaptops_of_unpaired (h : ids.length ≠ scores.length) :
    client.rateLaptops o s ids scores = (.error (.unpaired ids.length scores.length), s) := by
  rw [rateLaptops, ratingRequests, if_neg h]

/-- What a client gets for pairs of laptops and scores, and what becomes of the scoreboard. It
succeeds exactly if every pair can be recorded, and then all of them are. Otherwise it gets the status
of the first pair that offends, and the pairs before this one are recorded. -/
structure Rated (c : Catalog) (b : Scoreboard) (pairs : List (String × Binary64))
    (result : Except ClientFailure (List RateLaptopResponse)) (b' : Scoreboard) : Prop where
  succeeds : (∃ responses, result = .ok responses) ↔ ∀ pair ∈ pairs, Rateable c pair
  answered : ∀ responses, result = .ok responses → Answered b pairs responses ∧ Recorded b pairs b'
  refused : ∀ failure, result = .error failure →
    ∃ front pair back status, pairs = front ++ pair :: back ∧ (∀ p ∈ front, Rateable c p) ∧
      Offends c (.ok ⟨pair.1, pair.2⟩) status ∧ failure = .refused status ∧ Recorded b front b'

section Ratings

variable (brief : ∀ id ∈ ids, Brief id)

include brief in
theorem received_rating :
    (rating ids scores m).messages.map (decodeItem RateLaptopRequest) =
      arrived (ids.zip scores) := by
  rw [rating, arrived, sent, List.map_map, List.map_map]
  refine List.map_congr_left fun pair hpair => ?_
  exact decodeItem_settled (length_encode_rateLaptopRequest (brief _ (List.of_mem_zip hpair).1))

variable (paired : ids.length = scores.length)
  (sendable : Credential.attach client.token metadata = some m)
  (admitted : client.server.admits o (rating ids scores m) = true)

include brief paired sendable admitted in
theorem rateLaptops_eq {front : List (String × Binary64)} {ended : Option Status}
    (haccepted : accepted s.catalog (arrived (ids.zip scores)) = sent front)
    (countable : s.scoreboard.Countable (sent front))
    (hended : (answer s.catalog s.scoreboard (arrived (ids.zip scores))).refusal.map
      Refusal.status = ended)
    (hsub : ∀ pair ∈ front, pair ∈ ids.zip scores) :
    client.rateLaptops o s ids scores =
      (ended.elim (.ok ((responsesTo s.scoreboard (sent front)).map Wire.settled))
          fun status => .error (.refused status),
        { s with scoreboard := s.scoreboard.recordAll (sent front) }) := by
  have hfits : ∀ response ∈ responsesTo s.scoreboard (sent front),
      (Wire.encode response).length < UInt64.size := by
    intro response hresponse
    have hid := List.mem_map_of_mem (f := (·.laptopId)) hresponse
    rw [laptopIds_responsesTo countable, sent, List.map_map] at hid
    obtain ⟨pair, hpair, hsame⟩ := List.mem_map.mp hid
    have hsent := (List.of_mem_zip (hsub pair hpair)).1
    exact length_encode_rateLaptopResponse (hsame ▸ brief _ hsent)
  obtain ⟨hresponses, hboard⟩ := answer_accepted (haccepted ▸ countable)
  rw [haccepted] at hresponses hboard
  have hcall : client.call o s .rateLaptop
      ((ids.zip scores).map fun pair => RateLaptopRequest.mk pair.1 pair.2) =
        Server.rateLaptop (rating ids scores m) s := by
    rw [call_eq sendable, List.map_map]
    exact Server.serve_rateLaptop admitted rfl
  rw [rateLaptops, ratingRequests, if_pos paired]
  simp only [hcall, Server.rateLaptop, received_rating brief, hresponses, hboard, hended,
    collect_eq hfits]

variable (countable : s.scoreboard.Countable (accepted s.catalog (arrived (ids.zip scores))))

include brief paired sendable admitted countable in
theorem rated_of_all (hall : ∀ pair ∈ ids.zip scores, Rateable s.catalog pair) :
    ∃ result scoreboard,
      client.rateLaptops o s ids scores = (result, { s with scoreboard := scoreboard }) ∧
      Rated s.catalog s.scoreboard (ids.zip scores) result scoreboard := by
  have haccepted := accepted_arrived_all hall
  have hcomplete : arrived (ids.zip scores) =
      (accepted s.catalog (arrived (ids.zip scores))).map .ok := by
    rw [haccepted, arrived]
  have hended : (answer s.catalog s.scoreboard (arrived (ids.zip scores))).refusal.map
      Refusal.status = none := by
    rw [refusal_of_complete countable hcomplete, Option.map_none]
  rw [haccepted] at countable
  refine ⟨_, _, rateLaptops_eq brief paired sendable admitted haccepted countable hended
    fun _ h => h, ?_⟩
  exact {
    succeeds := iff_of_true ⟨_, rfl⟩ hall
    answered := by
      rintro _ ⟨⟩
      exact ⟨answered_sent countable, recorded_sent countable⟩
    refused := fun _ h => by cases h }

include brief paired sendable admitted countable in
theorem rated_of_offends {front back : List (String × Binary64)} {pair : String × Binary64}
    {status : Status} (hsplit : ids.zip scores = front ++ pair :: back)
    (hfront : ∀ p ∈ front, Rateable s.catalog p)
    (hoffends : Offends s.catalog (.ok ⟨pair.1, pair.2⟩) status) :
    ∃ result scoreboard,
      client.rateLaptops o s ids scores = (result, { s with scoreboard := scoreboard }) ∧
      Rated s.catalog s.scoreboard (ids.zip scores) result scoreboard := by
  have hoffends' := offends_sent hoffends
  have hitems : arrived (ids.zip scores) =
      arrived front ++ .ok ⟨pair.1, pair.2.settled⟩ :: arrived back := by
    rw [hsplit, arrived_append]
    rfl
  have haccepted : accepted s.catalog (arrived (ids.zip scores)) = sent front := by
    rw [hitems, accepted_arrived hfront, accepted_cons_of_offends hoffends', List.append_nil]
  have hended := refusal_of_offends countable (hitems.trans (by rw [haccepted, arrived])) hoffends'
  have hsub : ∀ p ∈ front, p ∈ ids.zip scores := fun p hp => hsplit ▸ List.mem_append_left _ hp
  have hpair : pair ∈ ids.zip scores := hsplit ▸ List.mem_append_right _ List.mem_cons_self
  rw [haccepted] at countable
  refine ⟨_, _, rateLaptops_eq brief paired sendable admitted haccepted countable hended hsub, ?_⟩
  exact {
    succeeds := iff_of_false (fun ⟨_, h⟩ => by cases h) fun hall =>
      not_rateable_of_offends hoffends (hall pair hpair)
    answered := fun _ h => by cases h
    refused := by
      rintro _ ⟨⟩
      exact ⟨front, pair, back, status, hsplit, hfront, hoffends, rfl, recorded_sent countable⟩ }

end Ratings

/-- **What comes of laptops and scores**, for every catalog and scoreboard. Of lists of different
lengths nothing is sent. Pairs are sent in a call that is let through, and come to what is said of
them, as long as no laptop gets more scores than can be counted. -/
theorem rateLaptops_decides (client : Client) (o : Circumstances) (s : State) (ids : List String)
    (scores : List Binary64) :
    (ids.length ≠ scores.length →
      client.rateLaptops o s ids scores = (.error (.unpaired ids.length scores.length), s)) ∧
    (ids.length = scores.length → (∀ id ∈ ids, Brief id) →
      ∀ m, Credential.attach client.token metadata = some m →
      client.server.admits o (rating ids scores m) = true →
      (∀ id, (s.scoreboard.ratingOf id).count.toNat +
        (scoresOf id (accepted s.catalog (arrived (ids.zip scores)))).length <
          UInt32.size) →
      ∃ result scoreboard,
        client.rateLaptops o s ids scores = (result, { s with scoreboard := scoreboard }) ∧
        Rated s.catalog s.scoreboard (ids.zip scores) result scoreboard) := by
  refine ⟨rateLaptops_of_unpaired, fun paired brief m sendable admitted few => ?_⟩
  have hcountable := Scoreboard.countable_of_few few
  rcases rateable_or_offends s.catalog (ids.zip scores) with
    hall | ⟨front, pair, back, status, hsplit, hfront, hoffends⟩
  · exact rated_of_all brief paired sendable admitted hcountable hall
  · exact rated_of_offends brief paired sendable admitted hcountable hsplit hfront hoffends

/-- Three pairs, the second for a laptop that is not there, and a laptop without a score. -/
theorem rateLaptops_decides_unknown :
    let client : Client := ⟨Server.unguarded, ""⟩
    let s : State := { catalog := ({} : Catalog).withLaptop "known" {}, gallery := ⟨"images", {}⟩ }
    let ids := ["known", "unknown", "known"]
    let scores : List Binary64 := [⟨0x8000000000000000⟩, .zero, .infinity]
    client.rateLaptops Server.quiet s ["known"] [] = (.error (.unpaired 1 0), s) ∧
      ∃ failure scoreboard,
        client.rateLaptops Server.quiet s ids scores =
          (.error failure, { s with scoreboard := scoreboard }) ∧
        Rated s.catalog s.scoreboard (ids.zip scores) (.error failure) scoreboard := by
  intro client s ids scores
  have brief : ∀ id ∈ ids, Brief id := by
    have hlength : ∀ id ∈ ids, id.utf8ByteSize ≤ 7 := by decide
    exact fun id hid => Nat.lt_of_le_of_lt (hlength id hid) (by decide)
  have few : ∀ id, (s.scoreboard.ratingOf id).count.toNat +
      (scoresOf id (accepted s.catalog (arrived (ids.zip scores)))).length < UInt32.size := by
    intro id
    have hone : (accepted s.catalog (arrived (ids.zip scores))).length = 1 := by decide +kernel
    have hle := length_scoresOf_le id (accepted s.catalog (arrived (ids.zip scores)))
    have hzero : (s.scoreboard.ratingOf id).count.toNat = 0 := rfl
    rw [hone] at hle
    simp only [hzero, UInt32.size]
    omega
  have hunpaired := (rateLaptops_decides client Server.quiet s ["known"] []).1 (by decide)
  obtain ⟨result, scoreboard, hresult, hrated⟩ :=
    (rateLaptops_decides client Server.quiet s ids scores).2 rfl brief metadata (if_pos rfl) rfl few
  refine ⟨hunpaired, ?_⟩
  cases result with
  | error failure => exact ⟨failure, scoreboard, hresult, hrated⟩
  | ok responses =>
    have hall := hrated.succeeds.mp ⟨responses, rfl⟩
    have hunknown := (hall ("unknown", .zero) (by decide)).known
    exact absurd hunknown (by decide +kernel)

end Client

end Showroom
