import Showroom.Proofs.Except
import Showroom.Proofs.Gallery
import Showroom.Proofs.Laptop.Catalog
import Showroom.Proofs.Service.Frame
import Showroom.Proofs.Service.Scoring

/-!
# Showroom.Proofs.Service.Effect

What a call does, said once with all that is known when it is done: one laptop is entered under an
id that was free, one image of a known laptop is written and indexed, scores of known laptops are
recorded, or nothing happens at all.

* `CreateLaptop.answer_eq_ok_iff`, `UploadImage.answer_eq_ok_iff`: when these two methods succeed, and
  with what.
* `Server.serve_effect`: every call has one of the four effects.
-/

namespace Showroom

namespace CreateLaptop

/-- An id under which a laptop is kept is the submitted one, or a fresh one in place of none. -/
theorem chooseId_eq_ok_iff {submitted id : String} {fresh : Uuid} :
    chooseId submitted fresh = .ok id ↔
      (submitted = "" ∧ id = fresh.text) ∨
        (submitted ≠ "" ∧ id = submitted ∧ ∃ u, Uuid.parse submitted = .ok u) := by
  unfold chooseId
  by_cases hempty : submitted = ""
  · simp [hempty, eq_comm]
  · cases Uuid.parse submitted with
    | error flaw => simp [hempty]
    | ok u => simp [hempty, eq_comm]

theorem chooseId_self {submitted id : String} {fresh other : Uuid}
    (h : chooseId submitted fresh = .ok id) : chooseId id other = .ok id := by
  rw [chooseId_eq_ok_iff]
  rcases chooseId_eq_ok_iff.mp h with ⟨-, rfl⟩ | ⟨hne, rfl, hparse⟩
  · exact .inr ⟨fresh.text_ne_empty, rfl, fresh, fresh.parse_text⟩
  · exact .inr ⟨hne, rfl, hparse⟩

theorem parse_of_chooseId {submitted id : String} {fresh : Uuid}
    (h : chooseId submitted fresh = .ok id) : ∃ u, Uuid.parse id = .ok u := by
  rcases chooseId_eq_ok_iff.mp h with ⟨-, rfl⟩ | ⟨-, rfl, hparse⟩
  · exact ⟨fresh, fresh.parse_text⟩
  · exact hparse

theorem answer_eq_ok_iff {c added : Catalog} {request : CreateLaptopRequest}
    {fresh : Uuid} {stop : Option CallStop} {response : CreateLaptopResponse} :
    answer c request fresh stop = .ok (response, added) ↔
      ∃ laptop id, request.laptop = some laptop ∧ chooseId laptop.id fresh = .ok id ∧
        stop = none ∧ c.find? id = none ∧ response = ⟨id⟩ ∧ added = c.withLaptop id laptop := by
  constructor
  · intro h
    rw [answer] at h
    split at h
    · cases h
    · rename_i laptop hlaptop
      split at h
      · cases h
      · rename_i id hid
        split at h
        · cases h
        · split at h
          · rename_i added' hadd
            obtain ⟨hfree, rfl⟩ := Catalog.add_eq_some_iff.mp hadd
            cases h
            exact ⟨laptop, id, hlaptop, hid, rfl, hfree, rfl, rfl⟩
          · cases h
  · rintro ⟨laptop, id, hlaptop, hid, rfl, hfree, rfl, rfl⟩
    have hadd := Catalog.add_eq_some_iff (l := laptop).mpr ⟨hfree, rfl⟩
    simp only [answer, hlaptop, hid, hadd]

end CreateLaptop

namespace UploadImage

theorem gather_cons_eq_ok_iff {limit size : Nat} {item : Received UploadImageRequest}
    {rest : List (Received UploadImageRequest)} {data : Bytes} :
    gather limit size (item :: rest) = .ok data ↔
      ∃ chunk later, item = .ok ⟨some (.chunk chunk)⟩ ∧ size + chunk.length ≤ limit ∧
        gather limit (size + chunk.length) rest = .ok later ∧ data = chunk ++ later := by
  constructor
  · intro h
    match item, h with
    | .ok ⟨some (.chunk chunk)⟩, h =>
      rw [gather] at h
      split at h
      · cases h
      · rename_i hsize
        cases hlater : gather limit (size + chunk.length) rest with
        | error refusal =>
          rw [hlater] at h
          cases h
        | ok later =>
          rw [hlater] at h
          cases h
          exact ⟨chunk, later, rfl, Nat.le_of_not_lt hsize, hlater, rfl⟩
    | .ok ⟨some (.info _)⟩, h => cases h
    | .ok ⟨none⟩, h => cases h
    | .error _, h => cases h
  · rintro ⟨chunk, later, rfl, hsize, hlater, rfl⟩
    rw [gather, if_neg (Nat.not_lt.mpr hsize), hlater]
    rfl

/-- Chunks that are kept stay within the limit, together with what has come before them. -/
theorem length_le_of_gather {limit size : Nat} {items : List (Received UploadImageRequest)}
    {data : Bytes} (h : gather limit size items = .ok data) (hsize : size ≤ limit) :
    size + data.length ≤ limit := by
  induction items generalizing size data with
  | nil =>
    cases h
    exact hsize
  | cons item rest ih =>
    obtain ⟨chunk, later, -, hchunk, hlater, rfl⟩ := gather_cons_eq_ok_iff.mp h
    have := ih hlater hchunk
    rw [List.length_append]
    omega

theorem answer_eq_ok_iff {c : Catalog} {g g' : Gallery} {d d' : Disk} {limit : Nat} {fresh : Uuid}
    {messages : List (Received UploadImageRequest)} {response : UploadImageResponse} :
    answer c g d limit fresh messages = .ok (response, g', d') ↔
      ∃ info rest data id, readInfo messages = .ok (info, rest) ∧
        c.contains info.laptopId = true ∧ gather limit 0 rest = .ok data ∧
        data.length < UInt32.size ∧
        g.save d fresh info.laptopId info.imageType data = .ok (id, g', d') ∧
        response = ⟨id, UInt32.ofNat data.length⟩ := by
  unfold answer
  simp only [bind_eq_ok_iff, ite_throw_eq_ok_iff]
  constructor
  · rintro ⟨⟨info, rest⟩, hinfo, hknown, data, hdata, hsize, h⟩
    split at h
    · rename_i id gallery disk hsave
      cases h
      exact ⟨info, rest, data, id, hinfo, by simpa using hknown, hdata, Nat.lt_of_not_le hsize,
        hsave, rfl⟩
    · cases h
  · rintro ⟨info, rest, data, id, hinfo, hknown, hdata, hsize, hsave, rfl⟩
    refine ⟨⟨info, rest⟩, hinfo, by simp [hknown], data, hdata, Nat.not_le.mpr hsize, ?_⟩
    rw [hsave]
    rfl

end UploadImage

namespace Answer

def createdId? : Answer → Option String
  | created response => some response.id
  | _ => none

def scores : Answer → Nat
  | rated responses _ => responses.length
  | _ => 0

end Answer

namespace Server

/-- What a call can do to the state, with how it is answered. -/
inductive Effect (server : Server) (o : Circumstances) (call : Call) (s : State) :
    Answer → State → Prop
  | idle {answer : Answer} (plain : answer.createdId? = none) : Effect server o call s answer s
  | laptop {laptop : Laptop} {id : String}
      (submitted : decodeOnly CreateLaptopRequest call.messages = .ok ⟨some laptop⟩)
      (chosen : CreateLaptop.chooseId laptop.id o.fresh = .ok id)
      (free : s.catalog.find? id = none) :
      Effect server o call s (.created ⟨id⟩)
        { s with catalog := s.catalog.withLaptop id laptop }
  | image {info : ImageInfo} {data : Bytes} {disk : Disk}
      (known : s.catalog.contains info.laptopId = true)
      (bounded : data.length ≤ server.imageLimit)
      (plain : Gallery.isExtension info.imageType = true)
      (written : s.disk.write (Path.joinText s.gallery.folder (o.fresh.text ++ info.imageType)) data =
        .ok disk) :
      Effect server o call s (.uploaded ⟨o.fresh.text, UInt32.ofNat data.length⟩)
        { s with
          gallery := s.gallery.withImage o.fresh.text info.laptopId info.imageType data.length
          disk := disk }
  | scores {accepted : List RateLaptopRequest} {responses : List RateLaptopResponse}
      {ended : Option Status} (known : ∀ r ∈ accepted, s.catalog.contains r.laptopId = true)
      (counted : responses.length = accepted.length) :
      Effect server o call s (.rated responses ended)
        { s with scoreboard := s.scoreboard.recordAll accepted }

variable {server : Server} {o : Circumstances} {call : Call} {s : State} {context : CallContext}

theorem createLaptop_effect :
    Effect server o call s (createLaptop o call s context).1 (createLaptop o call s context).2 := by
  unfold createLaptop
  split
  · exact .idle rfl
  · rename_i request hrequest
    split
    · exact .idle rfl
    · rename_i response catalog hanswer
      obtain ⟨laptop, id, hlaptop, hid, -, hfree, rfl, rfl⟩ :=
        CreateLaptop.answer_eq_ok_iff.mp hanswer
      obtain ⟨_⟩ := request
      cases hlaptop
      exact .laptop hrequest hid hfree

theorem searchLaptop_effect :
    Effect server o call s (searchLaptop call s).1 (searchLaptop call s).2 := by
  unfold searchLaptop
  split
  · exact .idle rfl
  · exact .idle rfl

theorem uploadImage_effect :
    Effect server o call s (server.uploadImage o call s).1 (server.uploadImage o call s).2 := by
  unfold uploadImage
  split
  · exact .idle rfl
  · rename_i response gallery disk hanswer
    obtain ⟨info, rest, data, id, -, hknown, hdata, -, hsave, rfl⟩ :=
      UploadImage.answer_eq_ok_iff.mp hanswer
    obtain ⟨htype, rfl, hwrite, rfl⟩ := Gallery.save_eq_ok_iff.mp hsave
    have hlimit := UploadImage.length_le_of_gather hdata (Nat.zero_le _)
    rw [Nat.zero_add] at hlimit
    exact .image hknown hlimit htype hwrite

theorem rateLaptop_effect :
    Effect server o call s (rateLaptop call s).1 (rateLaptop call s).2 := by
  obtain ⟨hresponses, hboard⟩ := RateLaptop.answer_kept s.catalog s.scoreboard
    (call.messages.map (decodeItem RateLaptopRequest))
  simp only [rateLaptop, hresponses, hboard]
  exact .scores (fun _ h => (RateLaptop.acceptable_of_mem_accepted (RateLaptop.mem_of_mem_kept h)).2)
    (RateLaptop.length_responsesTo (RateLaptop.countable_kept _ _))

theorem login_effect :
    Effect server o call s (server.login o call s).1 (server.login o call s).2 := by
  unfold login
  split
  · exact .idle rfl
  · split
    · exact .idle rfl
    · exact .idle rfl

/-- **What a call can do.** -/
theorem serve_effect (server : Server) (o : Circumstances) (call : Call) (s : State) :
    Effect server o call s (server.serve o call s).1 (server.serve o call s).2 := by
  unfold serve
  split
  · exact .idle rfl
  · split
    · rename_i method _
      cases method with
      | createLaptop => exact createLaptop_effect
      | searchLaptop => exact searchLaptop_effect
      | uploadImage => exact uploadImage_effect
      | rateLaptop => exact rateLaptop_effect
      | login => exact login_effect
    · exact .idle rfl

end Server

end Showroom
