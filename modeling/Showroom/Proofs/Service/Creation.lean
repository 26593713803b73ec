import Showroom.Client.Calls
import Showroom.Proofs.Access.Isolation
import Showroom.Proofs.Service.Effect
import Showroom.Proofs.Wire.RoundTrip

/-!
# Showroom.Proofs.Service.Creation

Laptops stay as they were entered. No call takes a record out of the catalog or puts another in its
place, so an id that was given to a laptop is taken from then on: whoever tries to use it again is
told so, and changes nothing.

* `Server.run_keeps`: what every run leaves in the catalog.
* `Server.createLaptop_of_taken`, `Client.createLaptop_of_taken`: a second laptop with an id, as the
  service sees it and as a client does.
* `Server.created_once`: the life of an id.
-/

namespace Showroom

/-- Whether every record of one catalog is in another, as it is and under its id. -/
def Catalog.Keeps (c c' : Catalog) : Prop := ∀ id l, c.find? id = some l → c'.find? id = some l

namespace Server

section Keeping

variable {server : Server} {o : Circumstances} {call : Call} {s s' : State} {answer : Answer}
  {id : String}

theorem Effect.keeps (h : Effect server o call s answer s') : s.catalog.Keeps s'.catalog := by
  cases h with
  | idle => exact fun _ _ hf => hf
  | image => exact fun _ _ hf => hf
  | scores => exact fun _ _ hf => hf
  | laptop submitted chosen free =>
    -- The id that is entered was free, so it is not that of any record there.
    intro other kept hf
    have hne : other ≠ _ := fun h => by rw [h, free] at hf; cases hf
    rw [Catalog.find?_withLaptop, if_neg hne, hf]

theorem run_keeps (calls : List (Circumstances × Call)) (s : State) :
    s.catalog.Keeps (server.run calls s).2.catalog := by
  induction calls generalizing s with
  | nil => exact fun _ _ hf => hf
  | cons c calls ih =>
    intro id l hf
    exact ih _ id l ((serve_effect server c.1 c.2 s).keeps id l hf)

/-- An id that is answered was free, and the submitted laptop is under it after the call. -/
theorem Effect.of_createdId? (h : Effect server o call s answer s')
    (hid : answer.createdId? = some id) :
    s.catalog.find? id = none ∧
      ∃ laptop, decodeOnly CreateLaptopRequest call.messages = .ok ⟨some laptop⟩ ∧
        CreateLaptop.chooseId laptop.id o.fresh = .ok id ∧
        s'.catalog.find? id = some { laptop with id := id } := by
  cases h with
  | idle plain => rw [plain] at hid; cases hid
  | image => cases hid
  | scores => cases hid
  | laptop submitted chosen free =>
    cases hid
    exact ⟨free, _, submitted, chosen, by rw [Catalog.find?_withLaptop, if_pos rfl]⟩

theorem free_of_mem_run {calls : List (Circumstances × Call)}
    (h : id ∈ (server.run calls s).1.filterMap Answer.createdId?) : s.catalog.find? id = none := by
  induction calls generalizing s with
  | nil => cases h
  | cons c calls ih =>
    rw [run_cons] at h
    obtain ⟨answer, hanswer, hid⟩ := List.mem_filterMap.mp h
    have heffect := serve_effect server c.1 c.2 s
    rcases List.mem_cons.mp hanswer with rfl | hlater
    · exact (heffect.of_createdId? hid).1
    · have hfree := ih (List.mem_filterMap.mpr ⟨answer, hlater, hid⟩)
      cases hf : s.catalog.find? id with
      | none => rfl
      | some l => rw [heffect.keeps id l hf] at hfree; cases hfree

theorem nodup_createdIds (calls : List (Circumstances × Call)) (s : State) :
    ((server.run calls s).1.filterMap Answer.createdId?).Nodup := by
  induction calls generalizing s with
  | nil => exact List.nodup_nil
  | cons c calls ih =>
    rw [run_cons, List.filterMap_cons]
    split
    · exact ih _
    · rename_i id hid
      refine List.nodup_cons.mpr ⟨fun hmem => ?_, ih _⟩
      obtain ⟨-, laptop, -, -, hfound⟩ := (serve_effect server c.1 c.2 s).of_createdId? hid
      rw [free_of_mem_run hmem] at hfound
      cases hfound

end Keeping

section Again

variable {o : Circumstances} {call : Call} {s : State} {context : CallContext} {again : Laptop}

theorem createLaptop_of_taken
    (submitted : decodeOnly CreateLaptopRequest call.messages = .ok ⟨some again⟩)
    (good : CreateLaptop.chooseId again.id o.fresh = .ok again.id)
    (taken : ∃ l, s.catalog.find? again.id = some l)
    (going : context.stop? o.raised o.checked = none) :
    createLaptop o call s context =
      (.refused (CreateLaptop.Refusal.idTaken again.id).status, s) := by
  have hadd : s.catalog.add { again with id := again.id } = none := by
    rw [Catalog.add, if_pos (Catalog.contains_iff.mpr taken)]
  simp only [createLaptop, submitted, CreateLaptop.answer, good, going, hadd]

theorem serve_createLaptop {server : Server} (admitted : server.admits o call = true)
    (path : call.path = Method.createLaptop.path) :
    server.serve o call s =
      createLaptop o call s (.ofMetadata call.metadata o.arrival o.flag) := by
  have hmethod : Method.ofPath? call.path = some .createLaptop := by rw [path]; rfl
  simp only [admits, Guard.pass] at admitted
  simp only [serve, Guard.pass]
  cases hverdict : server.guard.authorize o.time call.path call.metadata with
  | error denial => rw [hverdict] at admitted; cases admitted
  | ok claims =>
    simp only [Except.map, hmethod]
    rfl

end Again

end Server

namespace Client

open Server

variable {client : Client} {o : Circumstances} {s : State} {again : Laptop} {m : Metadata}

def creation (again : Laptop) (m : Metadata) : Call :=
  ⟨Method.createLaptop.path, m, [.ok (Wire.encode (CreateLaptopRequest.mk (some again)))]⟩

theorem decodeOnly_creation
    (fits : (Wire.encode (CreateLaptopRequest.mk (some again))).length < UInt64.size) :
    decodeOnly CreateLaptopRequest (creation again m).messages =
      .ok ⟨some (Wire.settled again)⟩ := by
  have hread := (Wire.decode_encode_of_lossless _ fits).1
  simp only [creation, decodeOnly, List.mapM_cons, List.mapM_nil, decodeItem, hread]
  rfl

/-- A client who tries to create a laptop whose id is good but taken learns that it is there. -/
theorem createLaptop_of_taken (sendable : Credential.attach client.token metadata = some m)
    (admitted : client.server.admits o (creation again m) = true)
    (fits : (Wire.encode (CreateLaptopRequest.mk (some again))).length < UInt64.size)
    (good : CreateLaptop.chooseId again.id o.fresh = .ok again.id)
    (taken : ∃ l, s.catalog.find? again.id = some l)
    (going : (CallContext.ofMetadata m o.arrival o.flag).stop? o.raised o.checked = none) :
    client.createLaptop o s again = (.ok none, s) := by
  -- The laptop that arrives may differ from the one sent, but not in its id.
  have hrefused := Server.createLaptop_of_taken (decodeOnly_creation (m := m) fits) good taken going
  have hcall : client.call o s .createLaptop [CreateLaptopRequest.mk (some again)] =
      (.refused (CreateLaptop.Refusal.idTaken again.id).status, s) := by
    simp only [call, sendable]
    exact (serve_createLaptop admitted rfl).trans hrefused
  simp only [createLaptop, hcall]
  rfl

end Client

namespace Server

/-- What it means that a laptop is in the catalog under an id for good: it is found there, and a
further laptop with this id is refused as already existing by a service that does not stop the call
for another reason, which a client is told by getting no id. Nothing changes. -/
structure Entered (server : Server) (id : String) (laptop : Laptop) (s : State) : Prop where
  found : s.catalog.find? id = some { laptop with id := id }
  refused : ∀ o call context again,
    decodeOnly CreateLaptopRequest call.messages = .ok ⟨some again⟩ → again.id = id →
    context.stop? o.raised o.checked = none →
    createLaptop o call s context =
      (.refused ⟨.alreadyExists, "cannot save laptop to store: laptop " ++ id ++ " already exists"⟩,
        s)
  reported : ∀ (client : Client) o m again, client.server = server →
    Credential.attach client.token Client.metadata = some m →
    server.admits o (Client.creation again m) = true →
    (Wire.encode (CreateLaptopRequest.mk (some again))).length < UInt64.size → again.id = id →
    (CallContext.ofMetadata m o.arrival o.flag).stop? o.raised o.checked = none →
    client.createLaptop o s again = (.ok none, s)

theorem Entered.run {server : Server} {id submitted : String} {fresh : Uuid} {laptop : Laptop}
    {s : State} (chosen : CreateLaptop.chooseId submitted fresh = .ok id)
    (found : s.catalog.find? id = some { laptop with id := id })
    (after : List (Circumstances × Call)) :
    Entered server id laptop (server.run after s).2 := by
  have hkeeps : s.catalog.Keeps (server.run after s).2.catalog := run_keeps after s
  have hlater := hkeeps id _ found
  refine ⟨hlater, ?_, ?_⟩
  · rintro o call context again hsubmitted rfl hgoing
    exact createLaptop_of_taken hsubmitted (CreateLaptop.chooseId_self chosen) ⟨_, hlater⟩ hgoing
  · rintro client o m again rfl hsendable hadmitted hfits rfl hgoing
    exact Client.createLaptop_of_taken hsendable hadmitted hfits (CreateLaptop.chooseId_self chosen)
      ⟨_, hlater⟩ hgoing

/-- **An id is given to one laptop, for good.** In no run do two laptops get the same id. Once a call
was answered with the id of a laptop, in every state that the service comes to later this laptop is
entered under the id, as it was submitted: with that id, or with none and the fresh one. -/
theorem created_once (server : Server) (start : State) :
    (∀ calls, ((server.run calls start).1.filterMap Answer.createdId?).Nodup) ∧
    ∀ before o call id, (server.serve o call (server.run before start).2).1 = .created ⟨id⟩ →
      ∃ laptop, decodeOnly CreateLaptopRequest call.messages = .ok ⟨some laptop⟩ ∧
        (laptop.id = id ∨ laptop.id = "" ∧ id = o.fresh.text) ∧
        ∀ after, Entered server id laptop (server.run (before ++ (o, call) :: after) start).2 := by
  refine ⟨fun calls => nodup_createdIds calls start, fun before o call id hcreated => ?_⟩
  have hid : (server.serve o call (server.run before start).2).1.createdId? = some id := by
    rw [hcreated]
    rfl
  obtain ⟨-, laptop, hsubmitted, hchosen, hfound⟩ := (serve_effect server o call _).of_createdId? hid
  refine ⟨laptop, hsubmitted, ?_, fun after => ?_⟩
  · rcases CreateLaptop.chooseId_eq_ok_iff.mp hchosen with ⟨hempty, hid⟩ | ⟨-, hid, -⟩
    · exact .inr ⟨hempty, hid⟩
    · exact .inl hid.symm
  · rw [run_append, run_cons]
    exact Entered.run hchosen hfound after

def unguarded : Server := { usual with guard := { usual.guard with roles := {} } }

def quiet : Circumstances := ⟨0, 0, 0, 0, [], ⟨5⟩⟩

theorem created_once_nameless :
    let nameless : Call := Client.creation { brand := "A" } {}
    let start : State := { gallery := ⟨"images", {}⟩ }
    let id := quiet.fresh.text
    let later := (unguarded.run [(quiet, nameless), (quiet, nameless)] start).2
    (unguarded.serve quiet nameless start).1 = .created ⟨id⟩ ∧
      later.catalog.find? id = some { id := id, brand := "A" } ∧
      Client.createLaptop ⟨unguarded, ""⟩ quiet later { id := id, brand := "B" } =
        (.ok none, later) := by
  intro nameless start id later
  have hcreated : (unguarded.serve quiet nameless start).1 = .created ⟨id⟩ := by
    decide +kernel
  obtain ⟨laptop, hlaptop, -, hentered⟩ :=
    (created_once unguarded start).2 [] quiet nameless id hcreated
  have hsubmitted : decodeOnly CreateLaptopRequest nameless.messages =
      .ok ⟨some { brand := "A" }⟩ :=
    Client.decodeOnly_creation (by decide +kernel)
  rw [hsubmitted] at hlaptop
  cases hlaptop
  have hlater : Entered unguarded id { brand := "A" } later := hentered [(quiet, nameless)]
  have sendable : Credential.attach "" Client.metadata = some Client.metadata := if_pos rfl
  have admitted : unguarded.admits quiet
      (Client.creation { id := id, brand := "B" } Client.metadata) = true := rfl
  have fits : (Wire.encode (CreateLaptopRequest.mk (some { id := quiet.fresh.text, brand := "B" }))
      ).length < UInt64.size := by decide +kernel
  have going : (CallContext.ofMetadata Client.metadata quiet.arrival quiet.flag).stop? quiet.raised
      quiet.checked = none := by decide +kernel
  exact ⟨hcreated, hlater.found,
    hlater.reported ⟨unguarded, ""⟩ quiet _ _ rfl sendable admitted fits rfl going⟩

end Server

end Showroom
