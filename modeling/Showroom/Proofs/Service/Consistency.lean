import Showroom.Proofs.Service.Creation

/-!
# Showroom.Proofs.Service.Consistency

What the catalog, the gallery, the scoreboard and the disk say about each other, in every state that
the service can come to. Each record is under its own id; images and ratings are of laptops in the
catalog; and the file of an image is in the image folder with the bytes that were sent. The invariant
that carries this says a little more than the statement: image ids are texts of identifiers, which
keeps the files apart, and no count exceeds the number of scores accepted so far, so that there is room
for one more.

* `Server.Reaches`: the states that the service can come to while others use the same disk.
* `Server.consistent_of_effect`: what one call preserves.
* `Server.sound_of_reaches`: what holds in every state.
-/

namespace Showroom

/-- What the stores of a service with this image folder and this limit say about each other. -/
structure State.Sound (folder : String) (limit : Nat) (s : State) : Prop where
  laptops : ∀ id laptop, s.catalog.find? id = some laptop →
    laptop.id = id ∧ ∃ u, Uuid.parse id = .ok u
  images : ∀ id image, s.gallery.find? id = some image →
    image.id = id ∧ s.catalog.contains image.laptopId = true ∧
      image.path = Path.joinText folder (id ++ image.imageType) ∧ image.size ≤ limit ∧
      ∃ data, s.disk.read (Path.ofText image.path) = .ok data ∧ data.length = image.size
  ratings : ∀ id rating, s.scoreboard.find? id = some rating →
    s.catalog.contains id = true ∧ 1 ≤ rating.count

/-! ## Scores -/

namespace Scoreboard

/-- Whether all ratings are of laptops with some property, and their counts between one and `n`. -/
def Counted (known : String → Prop) (n : Nat) (b : Scoreboard) : Prop :=
  ∀ id rating, b.find? id = some rating →
    known id ∧ 1 ≤ rating.count.toNat ∧ rating.count.toNat ≤ n

variable {known other : String → Prop} {n m : Nat} {b : Scoreboard}

theorem Counted.mono (h : Counted known n b) (hknown : ∀ id, known id → other id) (hn : n ≤ m) :
    Counted other m b := by
  intro id rating hfind
  obtain ⟨hid, hone, hmost⟩ := h id rating hfind
  exact ⟨hknown id hid, hone, Nat.le_trans hmost hn⟩

theorem Counted.record {laptopId : String} {score : Binary64} (h : Counted known n b)
    (hid : known laptopId) (few : n + 1 < UInt32.size) :
    Counted known (n + 1) (b.record laptopId score).2 := by
  -- The old count, zero if there is none, is at most `n`, so that one more fits.
  have hold : (b.ratingOf laptopId).count.toNat ≤ n := by
    rw [ratingOf]
    cases hfind : b.find? laptopId with
    | none => exact Nat.zero_le n
    | some rating => exact (h laptopId rating hfind).2.2
  have hroom : (b.ratingOf laptopId).room ≠ 0 := Rating.room_ne_zero_iff.mpr (by omega)
  have hnew : ((b.ratingOf laptopId).plus score).count.toNat =
      (b.ratingOf laptopId).count.toNat + 1 := Rating.toNat_count_plus hroom
  intro id rating hfind
  rw [find?_record] at hfind
  split at hfind
  · rename_i hsame
    cases hfind
    subst hsame
    exact ⟨hid, by omega, by omega⟩
  · obtain ⟨hknown, hone, hmost⟩ := h id rating hfind
    exact ⟨hknown, hone, by omega⟩

theorem Counted.recordAll {accepted : List RateLaptopRequest} (h : Counted known n b)
    (hids : ∀ r ∈ accepted, known r.laptopId) (few : n + accepted.length < UInt32.size) :
    Counted known (n + accepted.length) (b.recordAll accepted) := by
  induction accepted generalizing b n with
  | nil => exact h
  | cons request accepted ih =>
    obtain ⟨hid, hids⟩ := List.forall_mem_cons.mp hids
    rw [List.length_cons] at few ⊢
    have hone : Counted known (n + 1) (b.record request.laptopId request.score).2 :=
      h.record hid (by omega)
    have hall := ih hone hids (by omega)
    rw [Nat.add_right_comm, Nat.add_assoc] at hall
    exact hall

end Scoreboard

/-! ## The invariant -/

/-- What the gallery says about an image, and what is on the disk: the id is the text of an
identifier, and the file in the folder has the bytes. -/
structure State.HoldsImage (limit : Nat) (s : State) (id : String) (image : ImageRecord) :
    Prop where
  ofUuid : ∃ u : Uuid, id = u.text
  extension : Gallery.isExtension image.imageType = true
  sameId : image.id = id
  known : s.catalog.contains image.laptopId = true
  path : image.path = Path.joinText s.gallery.folder (id ++ image.imageType)
  bounded : image.size ≤ limit
  stored : ∃ data, s.disk.read (s.gallery.filePath (id ++ image.imageType)) = .ok data ∧
    data.length = image.size

structure State.Consistent (folder : String) (limit accepted : Nat) (s : State) : Prop where
  folder : s.gallery.folder = folder
  laptops : ∀ id laptop, s.catalog.find? id = some laptop →
    laptop.id = id ∧ ∃ u, Uuid.parse id = .ok u
  images : ∀ id image, s.gallery.find? id = some image → s.HoldsImage limit id image
  ratings : s.scoreboard.Counted (fun id => s.catalog.contains id = true) accepted

namespace Server

variable {server : Server} {o : Circumstances} {call : Call} {s s' : State} {answer : Answer}
  {folder : String} {accepted : Nat}

theorem Effect.contains (h : Effect server o call s answer s') {id : String}
    (hid : s.catalog.contains id = true) : s'.catalog.contains id = true := by
  obtain ⟨laptop, hfind⟩ := Catalog.contains_iff.mp hid
  exact Catalog.contains_iff.mpr ⟨laptop, h.keeps id laptop hfind⟩

theorem holdsImage_of_write {u : Uuid} {imageType : String} {data : Bytes} {disk : Disk}
    {limit : Nat} {index : Table ImageRecord} {id : String} {image : ImageRecord}
    (h : s.HoldsImage limit id image) (hne : id ≠ u.text)
    (plain : Gallery.isExtension imageType = true)
    (hwrite : s.disk.write (Path.joinText s.gallery.folder (u.text ++ imageType)) data = .ok disk) :
    State.HoldsImage limit { s with gallery := { s.gallery with index := index }, disk := disk } id
      image := by
  obtain ⟨v, rfl⟩ := h.ofUuid
  obtain ⟨kept, hread, hsize⟩ := h.stored
  refine ⟨h.ofUuid, h.extension, h.sameId, h.known, h.path, h.bounded, kept, ?_, hsize⟩
  -- All ids have one length, so files of different ids have different names, whatever the types.
  refine Disk.read_write_of_ne hwrite (fun hpath => ?_) hread
  rw [Gallery.ofText_joinText_fileName s.gallery u plain] at hpath
  exact hne (Gallery.filePath_inj hpath)

/-- **One call preserves the invariant**, and counts the scores that it accepts. -/
theorem consistent_of_effect (h : Effect server o call s answer s')
    (hs : s.Consistent folder server.imageLimit accepted)
    (few : accepted + answer.scores < UInt32.size) :
    s'.Consistent folder server.imageLimit (accepted + answer.scores) := by
  have hratings {catalog : Catalog}
      (hkeeps : ∀ id, s.catalog.contains id = true → catalog.contains id = true) :
      s.scoreboard.Counted (fun id => catalog.contains id = true) (accepted + answer.scores) :=
    hs.ratings.mono hkeeps (Nat.le_add_right _ _)
  have hcontains : ∀ id, s.catalog.contains id = true → s'.catalog.contains id = true :=
    fun id => h.contains
  cases h with
  | idle => exact ⟨hs.folder, hs.laptops, hs.images, hratings fun _ => id⟩
  | laptop submitted chosen free =>
    refine ⟨hs.folder, fun other kept hfind => ?_, fun id image hfind => ?_, hratings hcontains⟩
    · rw [Catalog.find?_withLaptop] at hfind
      split at hfind
      · rename_i hsame
        cases hfind
        exact ⟨hsame.symm, hsame ▸ CreateLaptop.parse_of_chooseId chosen⟩
      · exact hs.laptops other kept hfind
    · have himage := hs.images id image hfind
      exact { himage with known := hcontains _ himage.known }
  | @image info data disk known bounded plain written =>
    refine ⟨hs.folder, hs.laptops, fun id image hfind => ?_, hratings fun _ => id⟩
    have hput : (s.gallery.index.put o.fresh.text _).find? id = some image := hfind
    rw [Table.find?_put] at hput
    split at hput
    · rename_i hsame
      cases hput
      subst hsame
      have hread := Disk.read_write_self written
      rw [Gallery.ofText_joinText_fileName s.gallery o.fresh plain] at hread
      exact ⟨⟨o.fresh, rfl⟩, plain, rfl, known, rfl, bounded, data, hread, rfl⟩
    · rename_i hother
      exact holdsImage_of_write (hs.images id image hput) hother plain written
  | @scores requests responses ended known counted =>
    have hscores : (Answer.rated responses ended).scores = requests.length := counted
    rw [hscores] at few ⊢
    exact ⟨hs.folder, hs.laptops, fun id image hfind => { hs.images id image hfind with },
      hs.ratings.recordAll known few⟩

/-! ## All states -/

/-- The states that the service can come to, each with the number of scores accepted on the way: by
answering calls, and by what others do on the disk, who leave the files in the image folder as they
are. -/
inductive Reaches (server : Server) (start : State) : Nat → State → Prop
  | start : Reaches server start 0 start
  | serve {accepted : Nat} {s : State} (o : Circumstances) (call : Call)
      (before : Reaches server start accepted s) :
      Reaches server start (accepted + (server.serve o call s).1.scores) (server.serve o call s).2
  | others {accepted : Nat} {s : State} (disk : Disk)
      (apart : ∀ name data, s.disk.read (s.gallery.filePath name) = .ok data →
        disk.read (s.gallery.filePath name) = .ok data)
      (before : Reaches server start accepted s) :
      Reaches server start accepted { s with disk := disk }

theorem Reaches.run {start : State} (h : Reaches server start accepted s)
    (calls : List (Circumstances × Call)) :
    Reaches server start ((server.run calls s).1.foldl (fun n answer => n + answer.scores) accepted)
      (server.run calls s).2 := by
  induction calls generalizing accepted s with
  | nil => exact h
  | cons c calls ih =>
    rw [run_cons, List.foldl_cons]
    exact ih (h.serve c.1 c.2)

theorem consistent_of_reaches {start : State} (h : Reaches server start accepted s)
    (hstart : start.Consistent folder server.imageLimit 0) (few : accepted < UInt32.size) :
    s.Consistent folder server.imageLimit accepted := by
  induction h with
  | start => exact hstart
  | serve o call before ih =>
    exact consistent_of_effect (serve_effect server o call _) (ih (by omega)) few
  | others disk apart before ih =>
    have hs := ih few
    refine ⟨hs.folder, hs.laptops, fun id image hfind => ?_, hs.ratings⟩
    have himage := hs.images id image hfind
    obtain ⟨data, hread, hsize⟩ := himage.stored
    exact { himage with stored := ⟨data, apart _ data hread, hsize⟩ }

theorem sound_of_consistent {limit : Nat} (h : s.Consistent folder limit accepted) :
    s.Sound folder limit := by
  refine ⟨h.laptops, fun id image hfind => ?_, fun id rating hfind => ?_⟩
  · have himage := h.images id image hfind
    obtain ⟨u, rfl⟩ := himage.ofUuid
    obtain ⟨data, hread, hsize⟩ := himage.stored
    refine ⟨himage.sameId, himage.known, h.folder ▸ himage.path, himage.bounded, data, ?_, hsize⟩
    rw [himage.path, Gallery.ofText_joinText_fileName _ u himage.extension, hread]
  · obtain ⟨hknown, hone, -⟩ := h.ratings id rating hfind
    exact ⟨hknown, UInt32.le_iff_toNat_le.mpr hone⟩

/-- **The stores agree.** In every state that the service comes to from empty stores, whatever calls
it answers in whatever order and whatever others do outside of the image folder, as long as fewer
scores were accepted than a count can hold. -/
theorem sound_of_reaches (server : Server) (folder : String) (accounts : Accounts) (disk : Disk)
    (accepted : Nat) (s : State)
    (h : Reaches server { gallery := ⟨folder, {}⟩, accounts := accounts, disk := disk } accepted s)
    (few : accepted < UInt32.size) : s.Sound folder server.imageLimit := by
  refine sound_of_consistent (consistent_of_reaches h ⟨rfl, ?_, ?_, ?_⟩ few)
  · intro id laptop hfind
    cases hfind
  · intro id image hfind
    cases hfind
  · intro id rating hfind
    cases hfind

/-- A laptop, an image of it in two pieces, and a score. -/
def visit : List (Circumstances × Call) :=
  let id := quiet.fresh.text
  [(quiet, Client.creation { brand := "A" } {}),
    (quiet, ⟨Method.uploadImage.path, {},
      [.ok (Wire.encode (UploadImageRequest.mk (some (.info ⟨id, ".jpg"⟩)))),
        .ok (Wire.encode (UploadImageRequest.mk (some (.chunk [1, 2])))),
        .ok (Wire.encode (UploadImageRequest.mk (some (.chunk [3]))))]⟩),
    (quiet, ⟨Method.rateLaptop.path, {}, [.ok (Wire.encode (RateLaptopRequest.mk id .zero))]⟩)]

def opening : State := { gallery := ⟨"images", {}⟩, disk := ⟨[["images"]], []⟩ }

theorem sound_of_reaches_visit :
    let later := (unguarded.run visit opening).2
    unguarded.Reaches opening 1 later ∧ later.Sound "images" 1024 ∧ later.gallery.size = 1 := by
  intro later
  have hscores : (unguarded.run visit opening).1.foldl (fun n answer => n + answer.scores) 0 = 1 := by
    decide +kernel
  have hsize : (unguarded.run visit opening).2.gallery.size = 1 := by decide +kernel
  have hstart : unguarded.Reaches opening 0 opening := .start
  have hreaches := hstart.run visit
  rw [hscores] at hreaches
  have hsound := sound_of_reaches unguarded "images" {} opening.disk 1 later hreaches (by decide)
  exact ⟨hreaches, hsound, hsize⟩

end Server

end Showroom
