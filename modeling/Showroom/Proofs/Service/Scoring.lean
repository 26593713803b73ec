import Showroom.Proofs.Scoreboard
import Showroom.Service.RateLaptop

/-!
# Showroom.Proofs.Service.Scoring

What comes of a stream of scores. Those before the first item that offends are accepted: each is
answered, in its turn, with the count and the average of its laptop right after it, and stays
recorded. The item that offends ends the call, and nothing after it matters. So does an accepted
score that cannot be counted, except that no status says so.

* `RateLaptop.Offends`, `RateLaptop.accepted`: what offends in a stream, and what comes before it.
* `RateLaptop.kept`: the accepted requests before the first that cannot be counted.
* `RateLaptop.answer_kept`: they are answered and recorded.
* `RateLaptop.rate_decides`: what a stream of scores comes to.
-/

namespace Showroom

namespace RateLaptop

/-! ## The accepted requests -/

/-- What offends in a stream of scores, with the status that it is refused with: an item that is not
received, a score that is not finite, and one for a laptop that is not in the catalog. The score is
looked at before the laptop. -/
inductive Offends (c : Catalog) : Received RateLaptopRequest → Status → Prop
  | notReceived (status : Status) :
      Offends c (.error status) ⟨.unknown, "cannot receive stream request: " ++ status.message⟩
  | notFinite (request : RateLaptopRequest) (h : request.score.isFinite = false) :
      Offends c (.ok request)
        ⟨.invalidArgument, "score must be a finite number, got " ++ request.score.specialName⟩
  | unknownLaptop (request : RateLaptopRequest) (finite : request.score.isFinite = true)
      (h : c.contains request.laptopId = false) :
      Offends c (.ok request)
        ⟨.notFound, "laptop id " ++ request.laptopId ++ " is not found"⟩

/-- A received score that is finite and for a known laptop. -/
def acceptable (c : Catalog) : Received RateLaptopRequest → Bool
  | .error _ => false
  | .ok request => request.score.isFinite && c.contains request.laptopId

/-- The requests before the first item that is not acceptable. -/
def accepted (c : Catalog) (items : List (Received RateLaptopRequest)) : List RateLaptopRequest :=
  (items.takeWhile (acceptable c)).filterMap Except.toOption

section Items

variable {c : Catalog} {item : Received RateLaptopRequest} {status : Status}

theorem accept_of_acceptable {request : RateLaptopRequest} (h : acceptable c (.ok request) = true) :
    accept c (.ok request) = .ok request := by
  obtain ⟨hfinite, hknown⟩ := Bool.and_eq_true_iff.mp h
  simp [accept, hfinite, hknown]

theorem accept_of_offends (h : Offends c item status) :
    ∃ refusal : Refusal, refusal.status = status ∧ accept c item = .error refusal := by
  cases h with
  | notReceived status => exact ⟨.notReceived status.message, rfl, rfl⟩
  | notFinite request h => exact ⟨.notFinite request.score, rfl, by simp [accept, h]⟩
  | unknownLaptop request finite h =>
    exact ⟨.unknownLaptop request.laptopId, rfl, by simp [accept, finite, h]⟩

theorem acceptable_or_offends (c : Catalog) (item : Received RateLaptopRequest) :
    (∃ request, item = .ok request ∧ acceptable c (.ok request) = true) ∨
      ∃ status, Offends c item status := by
  match item with
  | .error status => exact .inr ⟨_, .notReceived status⟩
  | .ok request =>
    cases hfinite : request.score.isFinite with
    | false => exact .inr ⟨_, .notFinite request hfinite⟩
    | true =>
      cases hknown : c.contains request.laptopId with
      | false => exact .inr ⟨_, .unknownLaptop request hfinite hknown⟩
      | true => exact .inl ⟨request, rfl, by simp [acceptable, hfinite, hknown]⟩

theorem not_acceptable_of_offends (h : Offends c item status) : acceptable c item = false := by
  cases h with
  | notReceived status => rfl
  | notFinite request h => simp [acceptable, h]
  | unknownLaptop request finite h => simp [acceptable, h]

end Items

section Accepted

variable {c : Catalog} {item : Received RateLaptopRequest} {status : Status}
  {items : List (Received RateLaptopRequest)}

theorem accepted_cons_ok {request : RateLaptopRequest} (h : acceptable c (.ok request) = true) :
    accepted c (.ok request :: items) = request :: accepted c items := by
  rw [accepted, List.takeWhile_cons_of_pos h]
  rfl

theorem accepted_cons_of_offends (h : Offends c item status) : accepted c (item :: items) = [] := by
  rw [accepted, List.takeWhile_cons_of_neg (by simp [not_acceptable_of_offends h])]
  rfl

theorem accepted_or_offends (c : Catalog) (items : List (Received RateLaptopRequest)) :
    items = (accepted c items).map .ok ∨
      ∃ item later status, items = (accepted c items).map .ok ++ item :: later ∧
        Offends c item status := by
  induction items with
  | nil => exact .inl rfl
  | cons item items ih =>
    rcases acceptable_or_offends c item with ⟨request, rfl, h⟩ | ⟨status, h⟩
    · rw [accepted_cons_ok h, List.map_cons]
      rcases ih with hall | ⟨item, later, status, hitems, hoffends⟩
      · exact .inl (congrArg _ hall)
      · exact .inr ⟨item, later, status, congrArg _ hitems, hoffends⟩
    · rw [accepted_cons_of_offends h]
      exact .inr ⟨item, items, status, rfl, h⟩

theorem acceptable_of_mem_accepted {request : RateLaptopRequest} (h : request ∈ accepted c items) :
    request.score.isFinite = true ∧ c.contains request.laptopId = true := by
  induction items with
  | nil => cases h
  | cons item items ih =>
    rcases acceptable_or_offends c item with ⟨first, rfl, hfirst⟩ | ⟨status, hoffends⟩
    · rw [accepted_cons_ok hfirst] at h
      rcases List.mem_cons.mp h with rfl | hlater
      · exact Bool.and_eq_true_iff.mp hfirst
      · exact ih hlater
    · rw [accepted_cons_of_offends hoffends] at h
      cases h

end Accepted

/-! ## Whole streams -/

/-- The responses to requests that are recorded one after the other. What cannot be counted is not
answered. -/
def responsesTo : Scoreboard → List RateLaptopRequest → List RateLaptopResponse
  | _, [] => []
  | b, request :: requests =>
    let later := responsesTo (b.record request.laptopId request.score).2 requests
    match (b.record request.laptopId request.score).1 with
    | none => later
    | some rating => respond request.laptopId rating :: later

/-- The requests before the first that cannot be counted. -/
def kept : Scoreboard → List RateLaptopRequest → List RateLaptopRequest
  | _, [] => []
  | b, request :: requests =>
    match (b.record request.laptopId request.score).1 with
    | none => []
    | some _ => request :: kept (b.record request.laptopId request.score).2 requests

section Requests

variable {b : Scoreboard} {request : RateLaptopRequest} {requests : List RateLaptopRequest}

theorem responsesTo_cons_of_full (h : (b.ratingOf request.laptopId).room = 0) :
    responsesTo b (request :: requests) = responsesTo b requests := by
  rw [responsesTo, Scoreboard.record_of_full _ h]

theorem responsesTo_cons_of_room (h : (b.ratingOf request.laptopId).room ≠ 0) :
    responsesTo b (request :: requests) =
      respond request.laptopId ((b.ratingOf request.laptopId).plus request.score) ::
        responsesTo (b.record request.laptopId request.score).2 requests := by
  rw [responsesTo, Scoreboard.record_of_room _ h]

theorem kept_cons_of_full (h : (b.ratingOf request.laptopId).room = 0) :
    kept b (request :: requests) = [] := by
  rw [kept, Scoreboard.record_of_full _ h]

theorem kept_cons_of_room (h : (b.ratingOf request.laptopId).room ≠ 0) :
    kept b (request :: requests) =
      request :: kept (b.record request.laptopId request.score).2 requests := by
  rw [kept, Scoreboard.record_of_room _ h]

theorem countable_kept (b : Scoreboard) (requests : List RateLaptopRequest) :
    b.Countable (kept b requests) := by
  induction requests generalizing b with
  | nil => exact fun id => Nat.zero_le _
  | cons request requests ih =>
    by_cases h : (b.ratingOf request.laptopId).room = 0
    · rw [kept_cons_of_full h]
      exact fun id => Nat.zero_le _
    · rw [kept_cons_of_room h]
      exact Scoreboard.countable_cons.mpr ⟨h, ih _⟩

theorem kept_of_countable (h : b.Countable requests) : kept b requests = requests := by
  induction requests generalizing b with
  | nil => rfl
  | cons request requests ih =>
    obtain ⟨hroom, hlater⟩ := Scoreboard.countable_cons.mp h
    rw [kept_cons_of_room hroom, ih hlater]

/-- They are the first of the requests, and after them comes one that there is no room for. -/
theorem kept_cases (b : Scoreboard) (requests : List RateLaptopRequest) :
    ∃ later, requests = kept b requests ++ later ∧ ∀ request, later.head? = some request →
      ((b.recordAll (kept b requests)).ratingOf request.laptopId).room = 0 := by
  induction requests generalizing b with
  | nil => exact ⟨[], rfl, fun _ h => by cases h⟩
  | cons request requests ih =>
    by_cases h : (b.ratingOf request.laptopId).room = 0
    · rw [kept_cons_of_full h]
      refine ⟨request :: requests, rfl, fun _ hfirst => ?_⟩
      cases hfirst
      exact h
    · obtain ⟨later, hrequests, hfull⟩ := ih (b.record request.laptopId request.score).2
      rw [kept_cons_of_room h]
      exact ⟨later, congrArg _ hrequests, hfull⟩

theorem mem_of_mem_kept (h : request ∈ kept b requests) : request ∈ requests := by
  obtain ⟨later, hrequests, -⟩ := kept_cases b requests
  rw [hrequests]
  exact List.mem_append_left _ h

theorem length_responsesTo (h : b.Countable requests) :
    (responsesTo b requests).length = requests.length := by
  induction requests generalizing b with
  | nil => rfl
  | cons request requests ih =>
    obtain ⟨hroom, hlater⟩ := Scoreboard.countable_cons.mp h
    rw [responsesTo_cons_of_room hroom, List.length_cons, ih hlater, List.length_cons]

theorem responsesTo_getElem? (h : b.Countable requests) (i : Nat) :
    (responsesTo b requests)[i]? = requests[i]?.map fun request =>
      respond request.laptopId
        ((b.recordAll (requests.take (i + 1))).ratingOf request.laptopId) := by
  induction requests generalizing b i with
  | nil => rfl
  | cons request requests ih =>
    obtain ⟨hroom, hlater⟩ := Scoreboard.countable_cons.mp h
    rw [responsesTo_cons_of_room hroom]
    cases i with
    | zero =>
      simp only [List.getElem?_cons_zero, Option.map_some, List.take_succ_cons, List.take_zero]
      rw [← Scoreboard.ratingOf_record_self]
      rfl
    | succ i =>
      rw [List.getElem?_cons_succ, List.getElem?_cons_succ, ih hlater]
      rfl

end Requests

section Streams

variable {c : Catalog} {b : Scoreboard} {item : Received RateLaptopRequest} {status : Status}
  {items : List (Received RateLaptopRequest)}

theorem answer_of_full {request : RateLaptopRequest} (h : acceptable c (.ok request) = true)
    (full : (b.ratingOf request.laptopId).room = 0) :
    answer c b (.ok request :: items) = ⟨[], none, b⟩ := by
  simp only [answer, accept_of_acceptable h, Scoreboard.record_of_full _ full]

theorem answer_of_room {request : RateLaptopRequest} (h : acceptable c (.ok request) = true)
    (room : (b.ratingOf request.laptopId).room ≠ 0) :
    answer c b (.ok request :: items) =
      let later := answer c (b.record request.laptopId request.score).2 items
      { later with
        responses := respond request.laptopId ((b.ratingOf request.laptopId).plus request.score) ::
          later.responses } := by
  simp only [answer, accept_of_acceptable h, Scoreboard.record_of_room _ room]

theorem answer_kept (c : Catalog) (b : Scoreboard) (items : List (Received RateLaptopRequest)) :
    (answer c b items).responses = responsesTo b (kept b (accepted c items)) ∧
      (answer c b items).scoreboard = b.recordAll (kept b (accepted c items)) := by
  induction items generalizing b with
  | nil => exact ⟨rfl, rfl⟩
  | cons item items ih =>
    rcases acceptable_or_offends c item with ⟨request, rfl, h⟩ | ⟨status, h⟩
    · rw [accepted_cons_ok h]
      by_cases hroom : (b.ratingOf request.laptopId).room = 0
      · rw [answer_of_full h hroom, kept_cons_of_full hroom]
        exact ⟨rfl, rfl⟩
      · obtain ⟨hresponses, hboard⟩ := ih (b.record request.laptopId request.score).2
        rw [answer_of_room h hroom, kept_cons_of_room hroom, responsesTo_cons_of_room hroom]
        exact ⟨congrArg _ hresponses, hboard⟩
    · obtain ⟨refusal, -, hrefusal⟩ := accept_of_offends h
      simp only [answer, hrefusal, accepted_cons_of_offends h]
      exact ⟨rfl, rfl⟩

theorem refusal_of_uncounted (h : ¬ b.Countable (accepted c items)) :
    (answer c b items).refusal = none := by
  induction items generalizing b with
  | nil => rfl
  | cons item items ih =>
    rcases acceptable_or_offends c item with ⟨request, rfl, haccept⟩ | ⟨status, hoffends⟩
    · by_cases hroom : (b.ratingOf request.laptopId).room = 0
      · rw [answer_of_full haccept hroom]
      · rw [answer_of_room haccept hroom]
        refine ih fun hlater => h ?_
        rw [accepted_cons_ok haccept]
        exact Scoreboard.countable_cons.mpr ⟨hroom, hlater⟩
    · rw [accepted_cons_of_offends hoffends] at h
      exact absurd (fun id => Nat.zero_le _) h

section Countable

variable (countable : b.Countable (accepted c items))

include countable

theorem answer_accepted :
    (answer c b items).responses = responsesTo b (accepted c items) ∧
      (answer c b items).scoreboard = b.recordAll (accepted c items) := by
  have hkept := answer_kept c b items
  rwa [kept_of_countable countable] at hkept

theorem response_accepted {request : RateLaptopRequest} {i : Nat}
    (h : (accepted c items)[i]? = some request) :
    (answer c b items).responses[i]? = some (respond request.laptopId
      ((scoresOf request.laptopId ((accepted c items).take (i + 1))).foldl Rating.plus
        (b.ratingOf request.laptopId))) := by
  rw [(answer_accepted countable).1, responsesTo_getElem? countable, h, Option.map_some,
    Scoreboard.ratingOf_recordAll]

theorem refusal_accepted_append (rest : List (Received RateLaptopRequest)) :
    (answer c b ((accepted c items).map .ok ++ rest)).refusal =
      (answer c (b.recordAll (accepted c items)) rest).refusal := by
  induction items generalizing b with
  | nil => rfl
  | cons item items ih =>
    rcases acceptable_or_offends c item with ⟨request, rfl, h⟩ | ⟨status, h⟩
    · rw [accepted_cons_ok h] at countable ⊢
      obtain ⟨hroom, hlater⟩ := Scoreboard.countable_cons.mp countable
      rw [List.map_cons, List.cons_append, answer_of_room h hroom]
      exact ih hlater
    · rw [accepted_cons_of_offends h]
      rfl

theorem refusal_of_complete (h : items = (accepted c items).map .ok) :
    (answer c b items).refusal = none := by
  have hall := refusal_accepted_append countable []
  rw [List.append_nil, ← h] at hall
  exact hall

theorem refusal_of_offends {later : List (Received RateLaptopRequest)}
    (h : items = (accepted c items).map .ok ++ item :: later) (hoffends : Offends c item status) :
    (answer c b items).refusal.map Refusal.status = some status := by
  have hrest := refusal_accepted_append countable (item :: later)
  obtain ⟨refusal, rfl, hrefusal⟩ := accept_of_offends hoffends
  rw [← h] at hrest
  simp only [hrest, answer, hrefusal, Option.map_some]

theorem refusal_eq_none_iff :
    (answer c b items).refusal = none ↔ items = (accepted c items).map .ok := by
  constructor
  · intro hnone
    rcases accepted_or_offends c items with hall | ⟨item, later, status, hitems, hoffends⟩
    · exact hall
    · have hsome := refusal_of_offends countable hitems hoffends
      rw [hnone] at hsome
      cases hsome
  · exact refusal_of_complete countable

theorem refusal_status_iff :
    (answer c b items).refusal.map Refusal.status = some status ↔
      ∃ item later, items = (accepted c items).map .ok ++ item :: later ∧
        Offends c item status := by
  constructor
  · intro hstatus
    rcases accepted_or_offends c items with hall | ⟨item, later, other, hitems, hoffends⟩
    · rw [refusal_of_complete countable hall] at hstatus
      cases hstatus
    · have hother := refusal_of_offends countable hitems hoffends
      rw [hstatus] at hother
      cases hother
      exact ⟨item, later, hitems, hoffends⟩
  · rintro ⟨item, later, hitems, hoffends⟩
    exact refusal_of_offends countable hitems hoffends

end Countable

theorem answer_offends_append (hoffends : Offends c item status)
    (front later other : List (Received RateLaptopRequest)) :
    answer c b (front ++ item :: later) = answer c b (front ++ item :: other) := by
  induction front generalizing b with
  | nil =>
    obtain ⟨refusal, -, hrefusal⟩ := accept_of_offends hoffends
    simp only [List.nil_append, answer, hrefusal]
  | cons first front ih =>
    simp only [List.cons_append, answer, ih]

end Streams

/-- What is answered to a stream of scores, and the scoreboard after it, where `accepted` are the
requests before the first item that offends. A response counts the scores of its laptop up to the one
that it answers; the average is worked out from the sum of the scores in their order. -/
structure Decided (c : Catalog) (b : Scoreboard) (items : List (Received RateLaptopRequest))
    (accepted : List RateLaptopRequest) (outcome : Outcome) : Prop where
  oneEach : outcome.responses.length = accepted.length
  response : ∀ i request, accepted[i]? = some request →
    ∃ response, outcome.responses[i]? = some response ∧
      response.laptopId = request.laptopId ∧
      response.ratedCount.toNat = (b.ratingOf request.laptopId).count.toNat +
        (scoresOf request.laptopId (accepted.take (i + 1))).length ∧
      response.averageScore =
        ((scoresOf request.laptopId (accepted.take (i + 1))).foldl Binary64.add
          (b.ratingOf request.laptopId).sum).div (.ofUInt32 response.ratedCount)
  complete : outcome.refusal = none ↔ items = accepted.map .ok
  refused : ∀ status, outcome.refusal.map Refusal.status = some status ↔
    ∃ item later, items = accepted.map .ok ++ item :: later ∧ Offends c item status
  unread : ∀ front item later status, items = front ++ item :: later → Offends c item status →
    ∀ other, answer c b (front ++ item :: other) = outcome
  rated : ∀ id, scoresOf id accepted ≠ [] →
    ∃ rating, outcome.scoreboard.find? id = some rating ∧
      rating.count.toNat = (b.ratingOf id).count.toNat + (scoresOf id accepted).length ∧
      rating.sum = (scoresOf id accepted).foldl Binary64.add (b.ratingOf id).sum
  unrated : ∀ id, scoresOf id accepted = [] → outcome.scoreboard.find? id = b.find? id

/-- **What a stream of scores comes to**, as long as no laptop gets more scores than can be counted:
one response for each accepted request, then the status for the item that offends, if there is one,
and every accepted score added to the rating of its laptop. -/
theorem rate_decides (c : Catalog) (b : Scoreboard) (items : List (Received RateLaptopRequest))
    (few : ∀ id, (b.ratingOf id).count.toNat + (scoresOf id (accepted c items)).length <
      UInt32.size) :
    Decided c b items (accepted c items) (answer c b items) where
  oneEach := by
    have hcountable := Scoreboard.countable_of_few few
    rw [(answer_accepted hcountable).1, length_responsesTo hcountable]
  response := by
    intro i request hrequest
    have hcountable := Scoreboard.countable_of_few few
    have hmem : request ∈ (accepted c items).take (i + 1) :=
      List.mem_of_getElem? ((List.getElem?_take_of_lt (Nat.lt_succ_self i)).trans hrequest)
    have hpos := List.length_pos_iff.mpr (scoresOf_ne_nil hmem)
    have hfew : (scoresOf request.laptopId ((accepted c items).take (i + 1))).length ≤
        (b.ratingOf request.laptopId).room :=
      Nat.le_trans (length_scoresOf_take_le _ _ _) (hcountable request.laptopId)
    have hcount := Rating.toNat_count_foldl_plus hfew
    refine ⟨_, response_accepted hcountable hrequest, rfl, hcount, ?_⟩
    rw [← Rating.sum_foldl_plus hfew]
    exact Rating.average_of_pos (by omega)
  complete := refusal_eq_none_iff (Scoreboard.countable_of_few few)
  refused := fun _ => refusal_status_iff (Scoreboard.countable_of_few few)
  unread := by
    rintro front item later status rfl hoffends other
    exact answer_offends_append hoffends front other later
  rated := by
    intro id hscores
    have hcountable := Scoreboard.countable_of_few few
    rw [(answer_accepted hcountable).2, Scoreboard.find?_recordAll, if_neg hscores]
    exact ⟨_, rfl, Rating.toNat_count_foldl_plus (hcountable id),
      Rating.sum_foldl_plus (hcountable id)⟩
  unrated := by
    intro id hscores
    rw [(answer_accepted (Scoreboard.countable_of_few few)).2, Scoreboard.find?_recordAll,
      if_pos hscores]

def twoLaptops : Catalog := ⟨⟨[("first", {}), ("second", {})]⟩⟩

/-- One score of 8 for the first laptop. -/
def onceRated : Scoreboard := ⟨⟨[("first", ⟨1, ⟨0x4020000000000000⟩⟩)]⟩⟩

/-- Scores of two laptops in turn, and one that offends twice before the last. -/
def interleaved : List (Received RateLaptopRequest) :=
  [.ok ⟨"first", ⟨0x401e000000000000⟩⟩, .ok ⟨"second", ⟨0x4024000000000000⟩⟩,
    .ok ⟨"first", ⟨0x4024000000000000⟩⟩, .ok ⟨"third", .infinity⟩,
    .ok ⟨"second", ⟨0x4020000000000000⟩⟩]

theorem rate_decides_interleaved :
    (accepted twoLaptops interleaved).map (·.laptopId) = ["first", "second", "first"] ∧
      Decided twoLaptops onceRated interleaved (accepted twoLaptops interleaved)
        (answer twoLaptops onceRated interleaved) := by
  refine ⟨by decide, rate_decides _ _ _ fun id => ?_⟩
  have hcount : (onceRated.ratingOf id).count.toNat ≤ 1 := by
    simp only [Scoreboard.ratingOf, Scoreboard.find?, onceRated, Table.find?, List.lookup_cons,
      List.lookup_nil]
    cases id == "first" <;> decide
  have hscores := length_scoresOf_le id (accepted twoLaptops interleaved)
  have hthree : (accepted twoLaptops interleaved).length = 3 := by decide
  rw [hthree] at hscores
  simp only [UInt32.size]
  omega

end RateLaptop

end Showroom
