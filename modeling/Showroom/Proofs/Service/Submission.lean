import Showroom.Proofs.Service.Creation

/-!
# Showroom.Proofs.Service.Submission

What comes of submitting a laptop. Five things can stand against it, and they are looked at one after
the other: there is no laptop, its id is no identifier, the call has been given up, its time is over,
and the id is taken. The first of them that holds is what the call is refused for, and nothing
changes; if none does, the laptop is put behind those in the catalog and its id is answered.

* `CallContext.GivenUp`, `CallContext.Overdue`: when a call should not go on.
* `CreateLaptop.Accepted`, `CreateLaptop.Prevented`: when a laptop is kept, and what prevents it.
* `Server.submission_decides`: what comes of a submission.
-/

namespace Showroom

namespace CallContext

/-- The flags that are raised when calls have been given up through these contexts. -/
def raisedThrough (givenUp : List CallContext) : RaisedFlags :=
  givenUp.foldl (fun raised context => context.cancel raised) []

/-- Whether a call has been given up, through its own context or through a copy of it. -/
def GivenUp (context : CallContext) (givenUp : List CallContext) : Prop :=
  ∃ copy ∈ givenUp, copy.flag = context.flag

def Overdue (context : CallContext) (now : Instant) : Prop :=
  ∃ deadline, context.deadline = some deadline ∧ deadline ≤ now

variable {context : CallContext} {givenUp : List CallContext} {now : Instant}

theorem mem_foldl_cancel {raised : RaisedFlags} {flag : Nat} :
    flag ∈ givenUp.foldl (fun raised context => context.cancel raised) raised ↔
      flag ∈ raised ∨ ∃ copy ∈ givenUp, copy.flag = flag := by
  induction givenUp generalizing raised with
  | nil => simp
  | cons copy givenUp ih =>
    rw [List.foldl_cons, ih, cancel, List.mem_cons, @eq_comm _ flag, or_assoc, or_left_comm]
    simp only [List.mem_cons, or_and_right, exists_or, exists_eq_left]

theorem isCancelled_iff :
    context.isCancelled (raisedThrough givenUp) = true ↔ context.GivenUp givenUp := by
  rw [isCancelled, List.contains_iff_mem, raisedThrough, mem_foldl_cancel, GivenUp]
  simp

theorem isExpired_iff : context.isExpired now = true ↔ context.Overdue now := by
  rw [isExpired, Option.any_eq_true, Overdue]
  simp

theorem stop?_of_givenUp (h : context.GivenUp givenUp) :
    context.stop? (raisedThrough givenUp) now = some .cancelled := by
  rw [stop?, if_pos (isCancelled_iff.mpr h)]

theorem stop?_of_overdue (going : ¬ context.GivenUp givenUp) (h : context.Overdue now) :
    context.stop? (raisedThrough givenUp) now = some .overdue := by
  rw [stop?, if_neg (going ∘ isCancelled_iff.mp), if_pos (isExpired_iff.mpr h)]

theorem stop?_of_going (going : ¬ context.GivenUp givenUp) (timely : ¬ context.Overdue now) :
    context.stop? (raisedThrough givenUp) now = none := by
  rw [stop?, if_neg (going ∘ isCancelled_iff.mp), if_neg (timely ∘ isExpired_iff.mp)]

end CallContext

namespace CreateLaptop

/-- The laptop that is submitted, and the id under which it is to be kept: a fresh one if it has none,
and its own, as it is written, if that denotes an identifier. -/
def Chosen (request : CreateLaptopRequest) (fresh : Uuid) (laptop : Laptop) (id : String) : Prop :=
  request.laptop = some laptop ∧
    (laptop.id = "" ∧ id = fresh.text ∨ (∃ u, Uuid.parse laptop.id = .ok u) ∧ id = laptop.id)

theorem chosen_iff {request : CreateLaptopRequest} {fresh : Uuid} {laptop : Laptop} {id : String} :
    Chosen request fresh laptop id ↔
      request.laptop = some laptop ∧ chooseId laptop.id fresh = .ok id := by
  rw [Chosen, chooseId_eq_ok_iff]
  refine and_congr_right fun _ => or_congr_right ?_
  constructor
  · rintro ⟨⟨u, hparse⟩, hid⟩
    refine ⟨fun hempty => ?_, hid, u, hparse⟩
    rw [hempty] at hparse
    cases hparse
  · rintro ⟨-, hid, hparse⟩
    exact ⟨hparse, hid⟩

theorem chooseId_eq_error_iff {submitted : String} {fresh : Uuid} {flaw : Uuid.Flaw} :
    chooseId submitted fresh = .error flaw ↔
      submitted ≠ "" ∧ Uuid.parse submitted = .error flaw := by
  rw [chooseId]
  by_cases hempty : submitted = ""
  · simp [hempty]
  · cases Uuid.parse submitted with
    | error other => simp [hempty]
    | ok u => simp [hempty]

section Decision

variable (c : Catalog) (request : CreateLaptopRequest) (fresh : Uuid) (context : CallContext)
  (givenUp : List CallContext) (now : Instant)

/-- When a laptop is kept, and under which id. -/
structure Accepted (laptop : Laptop) (id : String) : Prop where
  chosen : Chosen request fresh laptop id
  going : ¬ context.GivenUp givenUp
  timely : ¬ context.Overdue now
  free : c.find? id = none

/-- What prevents that a laptop is kept, with the status that it is refused with: the first thing that
stands against it. -/
inductive Prevented : Status → Prop
  | noLaptop (h : request.laptop = none) : Prevented ⟨.invalidArgument, "laptop is not provided"⟩
  | badId (laptop : Laptop) (flaw : Uuid.Flaw) (given : request.laptop = some laptop)
      (named : laptop.id ≠ "") (h : Uuid.parse laptop.id = .error flaw) :
      Prevented ⟨.invalidArgument, "laptop id is not a valid UUID: " ++ flaw.message⟩
  | cancelled (laptop : Laptop) (id : String) (chosen : Chosen request fresh laptop id)
      (h : context.GivenUp givenUp) : Prevented ⟨.cancelled, "request is canceled"⟩
  | overdue (laptop : Laptop) (id : String) (chosen : Chosen request fresh laptop id)
      (going : ¬ context.GivenUp givenUp) (h : context.Overdue now) :
      Prevented ⟨.deadlineExceeded, "deadline is exceeded"⟩
  | taken (laptop other : Laptop) (id : String) (chosen : Chosen request fresh laptop id)
      (going : ¬ context.GivenUp givenUp) (timely : ¬ context.Overdue now)
      (h : c.find? id = some other) :
      Prevented
        ⟨.alreadyExists, "cannot save laptop to store: laptop " ++ id ++ " already exists"⟩

end Decision

variable {c : Catalog} {request : CreateLaptopRequest} {fresh : Uuid} {context : CallContext}
  {givenUp : List CallContext} {now : Instant} {laptop : Laptop} {id : String} {status : Status}

theorem answer_of_accepted (h : Accepted c request fresh context givenUp now laptop id) :
    answer c request fresh (context.stop? (CallContext.raisedThrough givenUp) now) =
      .ok (⟨id⟩, c.withLaptop id laptop) := by
  obtain ⟨hgiven, hid⟩ := chosen_iff.mp h.chosen
  rw [CallContext.stop?_of_going h.going h.timely]
  exact answer_eq_ok_iff.mpr ⟨laptop, id, hgiven, hid, rfl, h.free, rfl, rfl⟩

theorem answer_of_prevented (h : Prevented c request fresh context givenUp now status) :
    ∃ refusal : Refusal, refusal.status = status ∧
      answer c request fresh (context.stop? (CallContext.raisedThrough givenUp) now) =
        .error refusal := by
  cases h with
  | noLaptop h => exact ⟨.noLaptop, rfl, by simp only [answer, h]⟩
  | badId laptop flaw given named h =>
    have hid : chooseId laptop.id fresh = .error flaw := chooseId_eq_error_iff.mpr ⟨named, h⟩
    exact ⟨.badId flaw, rfl, by simp only [answer, given, hid]⟩
  | cancelled laptop id chosen h =>
    obtain ⟨hgiven, hid⟩ := chosen_iff.mp chosen
    exact ⟨.stopped .cancelled, rfl,
      by simp only [answer, hgiven, hid, CallContext.stop?_of_givenUp h]⟩
  | overdue laptop id chosen going h =>
    obtain ⟨hgiven, hid⟩ := chosen_iff.mp chosen
    exact ⟨.stopped .overdue, rfl,
      by simp only [answer, hgiven, hid, CallContext.stop?_of_overdue going h]⟩
  | taken laptop other id chosen going timely h =>
    obtain ⟨hgiven, hid⟩ := chosen_iff.mp chosen
    have hadd : c.add { laptop with id := id } = none := by
      rw [Catalog.add, if_pos (Catalog.contains_iff.mpr ⟨other, h⟩)]
    exact ⟨.idTaken id, rfl,
      by simp only [answer, hgiven, hid, CallContext.stop?_of_going going timely, hadd]⟩

theorem accepted_or_prevented (c : Catalog) (request : CreateLaptopRequest) (fresh : Uuid)
    (context : CallContext) (givenUp : List CallContext) (now : Instant) :
    (∃ laptop id, Accepted c request fresh context givenUp now laptop id) ∨
      ∃ status, Prevented c request fresh context givenUp now status := by
  cases hgiven : request.laptop with
  | none => exact .inr ⟨_, .noLaptop hgiven⟩
  | some laptop =>
    cases hid : chooseId laptop.id fresh with
    | error flaw =>
      obtain ⟨hnamed, hparse⟩ := chooseId_eq_error_iff.mp hid
      exact .inr ⟨_, .badId laptop flaw hgiven hnamed hparse⟩
    | ok id =>
      have hchosen : Chosen request fresh laptop id := chosen_iff.mpr ⟨hgiven, hid⟩
      by_cases hgoing : context.GivenUp givenUp
      · exact .inr ⟨_, .cancelled laptop id hchosen hgoing⟩
      · by_cases htimely : context.Overdue now
        · exact .inr ⟨_, .overdue laptop id hchosen hgoing htimely⟩
        · cases hfree : c.find? id with
          | some other => exact .inr ⟨_, .taken laptop other id hchosen hgoing htimely hfree⟩
          | none => exact .inl ⟨laptop, id, hchosen, hgoing, htimely, hfree⟩

/-- What is answered to a submission, and the state after it. It is answered with an id just if a
laptop is kept under it, which is then the only change: one record behind those that were there. It
is refused just for what prevents it, and then nothing changes. -/
structure Decided (s : State) (request : CreateLaptopRequest) (fresh : Uuid) (context : CallContext)
    (givenUp : List CallContext) (now : Instant) (result : Answer × State) : Prop where
  created : ∀ id, result.1 = .created ⟨id⟩ ↔
    ∃ laptop, Accepted s.catalog request fresh context givenUp now laptop id
  kept : ∀ laptop id, Accepted s.catalog request fresh context givenUp now laptop id →
    result.2 = { s with catalog := result.2.catalog } ∧
      result.2.catalog.laptops.rows = s.catalog.laptops.rows ++ [(id, { laptop with id := id })]
  refused : ∀ status, result.1 = .refused status ↔
    Prevented s.catalog request fresh context givenUp now status
  unchanged : (∀ id, result.1 ≠ .created ⟨id⟩) →
    (∃ status, result.1 = .refused status) ∧ result.2 = s

end CreateLaptop

namespace Server

open CreateLaptop

variable {o : Circumstances} {call : Call} {s : State} {context : CallContext}
  {request : CreateLaptopRequest} {givenUp : List CallContext} {laptop : Laptop} {id : String}
  {status : Status}

theorem createLaptop_of_accepted
    (received : decodeOnly CreateLaptopRequest call.messages = .ok request)
    (raised : o.raised = CallContext.raisedThrough givenUp)
    (h : Accepted s.catalog request o.fresh context givenUp o.checked laptop id) :
    createLaptop o call s context =
      (.created ⟨id⟩, { s with catalog := s.catalog.withLaptop id laptop }) := by
  simp only [createLaptop, received, raised, answer_of_accepted h]

theorem createLaptop_of_prevented
    (received : decodeOnly CreateLaptopRequest call.messages = .ok request)
    (raised : o.raised = CallContext.raisedThrough givenUp)
    (h : Prevented s.catalog request o.fresh context givenUp o.checked status) :
    createLaptop o call s context = (.refused status, s) := by
  obtain ⟨refusal, rfl, hanswer⟩ := answer_of_prevented h
  simp only [createLaptop, received, raised, hanswer]

theorem createLaptop_created_iff
    (received : decodeOnly CreateLaptopRequest call.messages = .ok request)
    (raised : o.raised = CallContext.raisedThrough givenUp) :
    (createLaptop o call s context).1 = .created ⟨id⟩ ↔
      ∃ laptop, Accepted s.catalog request o.fresh context givenUp o.checked laptop id := by
  constructor
  · intro hanswer
    rcases accepted_or_prevented s.catalog request o.fresh context givenUp o.checked with
      ⟨laptop, other, h⟩ | ⟨status, h⟩
    · rw [createLaptop_of_accepted received raised h] at hanswer
      cases hanswer
      exact ⟨laptop, h⟩
    · rw [createLaptop_of_prevented received raised h] at hanswer
      cases hanswer
  · rintro ⟨laptop, h⟩
    rw [createLaptop_of_accepted received raised h]

theorem createLaptop_refused_iff
    (received : decodeOnly CreateLaptopRequest call.messages = .ok request)
    (raised : o.raised = CallContext.raisedThrough givenUp) :
    (createLaptop o call s context).1 = .refused status ↔
      Prevented s.catalog request o.fresh context givenUp o.checked status := by
  constructor
  · intro hanswer
    rcases accepted_or_prevented s.catalog request o.fresh context givenUp o.checked with
      ⟨laptop, id, h⟩ | ⟨other, h⟩
    · rw [createLaptop_of_accepted received raised h] at hanswer
      cases hanswer
    · rw [createLaptop_of_prevented received raised h] at hanswer
      cases hanswer
      exact h
  · intro h
    rw [createLaptop_of_prevented received raised h]

theorem createLaptop_decided
    (received : decodeOnly CreateLaptopRequest call.messages = .ok request)
    (raised : o.raised = CallContext.raisedThrough givenUp) :
    Decided s request o.fresh context givenUp o.checked (createLaptop o call s context) where
  created := fun _ => createLaptop_created_iff received raised
  kept := by
    intro laptop id h
    rw [createLaptop_of_accepted received raised h]
    exact ⟨rfl, Table.rows_put_of_free h.free⟩
  refused := fun _ => createLaptop_refused_iff received raised
  unchanged := by
    intro hnot
    rcases accepted_or_prevented s.catalog request o.fresh context givenUp o.checked with
      ⟨laptop, id, h⟩ | ⟨status, h⟩
    · exact absurd ((createLaptop_created_iff received raised).mpr ⟨laptop, h⟩) (hnot id)
    · rw [createLaptop_of_prevented received raised h]
      exact ⟨⟨status, rfl⟩, rfl⟩

/-- **What comes of a submission**, whatever is submitted to whichever catalog: the context of the call
may have been attached on its way in or be that of its metadata, and calls may have been given up
through any contexts. -/
theorem submission_decides (o : Circumstances) (call : Call) (s : State)
    (attached : Option CallContext) (givenUp : List CallContext) (request : CreateLaptopRequest)
    (received : decodeOnly CreateLaptopRequest call.messages = .ok request) :
    let context := contextOf attached call.metadata o.arrival o.flag
    Decided s request o.fresh context givenUp o.checked
      (createLaptop { o with raised := CallContext.raisedThrough givenUp } call s context) :=
  createLaptop_decided (o := { o with raised := CallContext.raisedThrough givenUp }) received rfl

/-- A laptop without an id is submitted twice. The first call goes through. The second one has been
given up through a copy of its context that has no deadline, when its own is over, and that is what
it is refused for. -/
theorem submission_decides_nameless :
    let nameless : Call := Client.creation { brand := "A" } {}
    let empty : State := { gallery := ⟨"images", {}⟩ }
    let context : CallContext := ⟨some 0, 7⟩
    let first := createLaptop quiet nameless empty (contextOf none {} 0 0)
    let again := createLaptop { quiet with raised := CallContext.raisedThrough [⟨none, 7⟩] } nameless
      first.2 (contextOf (some context) {} 0 0)
    first.1 = .created ⟨quiet.fresh.text⟩ ∧
      decodeOnly CreateLaptopRequest nameless.messages = .ok ⟨some { brand := "A" }⟩ ∧
      Decided first.2 ⟨some { brand := "A" }⟩ quiet.fresh context [⟨none, 7⟩] 0 again ∧
      again.1 = .refused ⟨.cancelled, "request is canceled"⟩ := by
  intro nameless empty context first again
  have hreceived : decodeOnly CreateLaptopRequest nameless.messages =
      .ok ⟨some { brand := "A" }⟩ := Client.decodeOnly_creation (by decide +kernel)
  exact ⟨by decide +kernel, hreceived,
    submission_decides quiet nameless first.2 (some context) [⟨none, 7⟩] _ hreceived,
    by decide +kernel⟩

end Server

end Showroom
