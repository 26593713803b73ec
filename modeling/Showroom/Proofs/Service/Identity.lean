import Showroom.Proofs.Service.Creation
import Showroom.Proofs.Uuid.Spellings

/-!
# Showroom.Proofs.Service.Identity

Ids of laptops. An id has to denote an identifier, but it is kept and looked up as it is written, and
one identifier has many spellings. So the catalog has at most one record for each text, and it can
have several for one identifier. These are then told apart by how their ids are written: in different
forms, or with other letters in capitals.

* `Catalog.Created`: the catalogs that creating laptops leads to.
* `Server.created_of_run`: every run leads to one of them.
* `Catalog.distinguished_of_created`: what the ids in such a catalog have to do with each other.
-/

namespace Showroom

/-- The catalogs that come about by creating laptops, from the empty one on. A call that fails leaves
the catalog as it is. -/
inductive Catalog.Created : Catalog → Prop
  | empty : Created {}
  | create {c added : Catalog} {request : CreateLaptopRequest} {fresh : Uuid}
      {stop : Option CallStop} {response : CreateLaptopResponse} (before : Created c)
      (answered : CreateLaptop.answer c request fresh stop = .ok (response, added)) : Created added

namespace Server

variable {server : Server} {o : Circumstances} {call : Call} {s s' : State} {answer : Answer}

theorem Effect.created (h : Effect server o call s answer s') (hs : s.catalog.Created) :
    s'.catalog.Created := by
  cases h with
  | idle => exact hs
  | image => exact hs
  | scores => exact hs
  | @laptop laptop id submitted chosen free =>
    have answered : CreateLaptop.answer s.catalog ⟨some laptop⟩ o.fresh none =
        .ok (⟨id⟩, s.catalog.withLaptop id laptop) :=
      CreateLaptop.answer_eq_ok_iff.mpr ⟨laptop, id, rfl, chosen, rfl, free, rfl, rfl⟩
    exact .create hs answered

theorem created_of_run (calls : List (Circumstances × Call)) (hs : s.catalog.Created) :
    (server.run calls s).2.catalog.Created := by
  induction calls generalizing s with
  | nil => exact hs
  | cons c calls ih => exact ih ((serve_effect server c.1 c.2 s).created hs)

end Server

namespace Catalog

variable {c : Catalog}

theorem Created.filed (h : c.Created) : c.Filed := by
  induction h with
  | empty => exact filed_empty
  | create before answered ih =>
    obtain ⟨laptop, id, -, -, -, free, -, rfl⟩ := CreateLaptop.answer_eq_ok_iff.mp answered
    exact ih.withLaptop free

theorem Created.parse_id (h : c.Created) :
    ∀ l ∈ c.laptops.records, ∃ u, Uuid.parse l.id = .ok u := by
  induction h with
  | empty => simp [Table.records]
  | create before answered ih =>
    obtain ⟨laptop, id, -, chosen, -, free, -, rfl⟩ := CreateLaptop.answer_eq_ok_iff.mp answered
    rw [records_withLaptop free]
    intro l hl
    rcases List.mem_append.mp hl with hold | hnew
    · exact ih l hold
    · rw [List.mem_singleton.mp hnew]
      exact CreateLaptop.parse_of_chooseId chosen

/-- What the ids of the records in a catalog have to do with each other: every id denotes an
identifier, all ids are different texts, and two records whose ids denote the same identifier are one
record if these are written alike, with the same number of characters, which tells the form, and
capital letters at the same places. -/
structure Distinguished (c : Catalog) : Prop where
  denoting : ∀ l ∈ c.laptops.records, ∃ u, Uuid.parse l.id = .ok u
  texts : (c.laptops.records.map (·.id)).Nodup
  spellings : ∀ l ∈ c.laptops.records, ∀ l' ∈ c.laptops.records, ∀ u,
    Uuid.parse l.id = .ok u → Uuid.parse l'.id = .ok u →
    l.id.toList.map Char.isUpper = l'.id.toList.map Char.isUpper → l = l'

/-- **No id is there twice**, in any catalog that creating laptops leads to. -/
theorem distinguished_of_created (c : Catalog) (h : c.Created) : c.Distinguished := by
  refine ⟨h.parse_id, h.filed.nodup_ids, fun l hl l' hl' u hparse hparse' hcase => ?_⟩
  have hid : l.id = l'.id := Uuid.eq_of_parse hparse hparse' hcase
  have hfound := h.filed.mem_records_iff.mp hl
  rw [hid, h.filed.mem_records_iff.mp hl'] at hfound
  exact (Option.some.inj hfound).symm

end Catalog

namespace Server

/-- One identifier in two spellings, each submitted as the id of a laptop, and the first one again. -/
def spelledTwice : List (Circumstances × Call) :=
  [(quiet, Client.creation { id := "6ba7b810-9dad-41d1-80b4-00c04fd430c8", brand := "A" } {}),
    (quiet, Client.creation { id := "6BA7B810-9DAD-41D1-80B4-00C04FD430C8", brand := "B" } {}),
    (quiet, Client.creation { id := "6ba7b810-9dad-41d1-80b4-00c04fd430c8", brand := "C" } {})]

theorem distinguished_spelledTwice :
    let c := (unguarded.run spelledTwice { gallery := ⟨"images", {}⟩ }).2.catalog
    c.Created ∧ c.size = 2 ∧ c.Distinguished := by
  intro c
  have hcreated : c.Created := created_of_run spelledTwice .empty
  have hsize : c.size = 2 := by decide +kernel
  exact ⟨hcreated, hsize, Catalog.distinguished_of_created c hcreated⟩

/-- Two laptops whose ids denote the same identifier. -/
theorem spelledTwice_same_identifier :
    let c := (unguarded.run spelledTwice { gallery := ⟨"images", {}⟩ }).2.catalog
    let lower := "6ba7b810-9dad-41d1-80b4-00c04fd430c8"
    let upper := "6BA7B810-9DAD-41D1-80B4-00C04FD430C8"
    c.Created ∧ c.find? lower = some { id := lower, brand := "A" } ∧
      c.find? upper = some { id := upper, brand := "B" } ∧
      Uuid.parse lower = .ok ⟨0x6ba7b8109dad41d180b400c04fd430c8⟩ ∧
      Uuid.parse upper = .ok ⟨0x6ba7b8109dad41d180b400c04fd430c8⟩ := by
  intro c lower upper
  have hfound : c.find? lower = some { id := lower, brand := "A" } ∧
      c.find? upper = some { id := upper, brand := "B" } := by decide +kernel
  have hparse : Uuid.parse lower = .ok ⟨0x6ba7b8109dad41d180b400c04fd430c8⟩ ∧
      Uuid.parse upper = .ok ⟨0x6ba7b8109dad41d180b400c04fd430c8⟩ := by decide +kernel
  exact ⟨created_of_run spelledTwice .empty, hfound.1, hfound.2, hparse.1, hparse.2⟩

end Server

end Showroom
