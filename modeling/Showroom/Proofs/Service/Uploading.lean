import Showroom.Proofs.Service.Effect

/-!
# Showroom.Proofs.Service.Uploading

What comes of an upload. The stream of an image is one message that says what it is and then chunks;
an upload succeeds for such a stream, if the laptop is in the catalog, the bytes stay within the limit
and fit the answer, the type is a plain extension and the file can be written. How the bytes are cut
into chunks makes no difference. Every other stream is refused for the first thing in it that offends,
and whatever is refused leaves the image store as it is.

* `Offends`, `Broken`: what offends in a stream, and the streams in which something does.
* `gather_chunks_append`: the chunks at the front of a stream.
* `upload_decides`: what an upload comes to, for every stream.
-/

namespace Showroom
namespace UploadImage

def piece (data : Bytes) : Received UploadImageRequest := .ok ⟨some (.chunk data)⟩

/-- The stream of an image: what it is, and its bytes in chunks. -/
def stream (info : ImageInfo) (chunks : List Bytes) : List (Received UploadImageRequest) :=
  .ok ⟨some (.info info)⟩ :: chunks.map piece

/-- What offends after `size` bytes of an image, with the status that it is refused with: a message
that is not received, one that is no chunk, and a chunk that crosses the limit. -/
inductive Offends (limit size : Nat) : Received UploadImageRequest → Status → Prop
  | notReceived (status : Status) :
      Offends limit size (.error status) ⟨.unknown, "cannot receive chunk data: " ++ status.message⟩
  | notChunk (message : UploadImageRequest) (h : ∀ data, message.data ≠ some (.chunk data)) :
      Offends limit size (.ok message) ⟨.unknown, "expected image chunk data"⟩
  | tooLarge (data : Bytes) (h : limit < size + data.length) :
      Offends limit size (piece data)
        ⟨.invalidArgument, s!"image is too large: {size + data.length} > {limit}"⟩

/-- The streams in which something offends, with the status for the first thing that does. What
follows it does not matter. -/
inductive Broken (c : Catalog) (limit : Nat) : List (Received UploadImageRequest) → Status → Prop
  | empty : Broken c limit [] ⟨.unknown, "stream closed before image info"⟩
  | infoNotReceived (status : Status) (rest : List (Received UploadImageRequest)) :
      Broken c limit (.error status :: rest)
        ⟨.unknown, "cannot receive image info: " ++ status.message⟩
  | notInfo (message : UploadImageRequest) (rest : List (Received UploadImageRequest))
      (h : ∀ info, message.data ≠ some (.info info)) :
      Broken c limit (.ok message :: rest) ⟨.unknown, "first message must carry the image info"⟩
  | unknownLaptop (info : ImageInfo) (rest : List (Received UploadImageRequest))
      (h : c.contains info.laptopId = false) :
      Broken c limit (.ok ⟨some (.info info)⟩ :: rest)
        ⟨.notFound, "cannot find laptop with id: " ++ info.laptopId⟩
  | chunk (info : ImageInfo) (chunks : List Bytes) (item : Received UploadImageRequest)
      (rest : List (Received UploadImageRequest)) (status : Status)
      (known : c.contains info.laptopId = true) (within : chunks.flatten.length ≤ limit)
      (h : Offends limit chunks.flatten.length item status) :
      Broken c limit (stream info chunks ++ item :: rest) status

/-! ## Chunks -/

section Chunks

variable {limit size : Nat} {item : Received UploadImageRequest} {status : Status}

theorem gather_of_offends (h : Offends limit size item status)
    (rest : List (Received UploadImageRequest)) :
    ∃ refusal : Refusal, refusal.status = status ∧
      gather limit size (item :: rest) = .error refusal := by
  cases h with
  | notReceived status => exact ⟨.chunkNotReceived status.message, rfl, rfl⟩
  | notChunk message h =>
    obtain ⟨_ | info | data⟩ := message
    · exact ⟨.notChunk, rfl, rfl⟩
    · exact ⟨.notChunk, rfl, rfl⟩
    · exact absurd rfl (h data)
  | tooLarge data h =>
    exact ⟨.tooLarge (size + data.length) limit, rfl, by rw [piece, gather, if_pos h]⟩

theorem chunk_or_offends (limit size : Nat) (item : Received UploadImageRequest) :
    (∃ data, item = piece data ∧ size + data.length ≤ limit) ∨
      ∃ status, Offends limit size item status := by
  match item with
  | .error status => exact .inr ⟨_, .notReceived status⟩
  | .ok ⟨none⟩ => exact .inr ⟨_, .notChunk _ (by simp)⟩
  | .ok ⟨some (.info info)⟩ => exact .inr ⟨_, .notChunk _ (by simp)⟩
  | .ok ⟨some (.chunk data)⟩ =>
    by_cases h : limit < size + data.length
    · exact .inr ⟨_, .tooLarge data h⟩
    · exact .inl ⟨data, rfl, Nat.le_of_not_lt h⟩

theorem gather_chunks_append (chunks : List Bytes) (rest : List (Received UploadImageRequest))
    (h : size + chunks.flatten.length ≤ limit) :
    gather limit size (chunks.map piece ++ rest) =
      (gather limit (size + chunks.flatten.length) rest).map (chunks.flatten ++ ·) := by
  induction chunks generalizing size with
  | nil =>
    cases hrest : gather limit size rest <;> simp [hrest, Except.map]
  | cons data chunks ih =>
    rw [List.flatten_cons, List.length_append, ← Nat.add_assoc] at h
    have hdata : ¬ limit < size + data.length := by omega
    rw [List.map_cons, List.cons_append, piece, gather, if_neg hdata, ih h, List.flatten_cons,
      List.length_append, ← Nat.add_assoc]
    cases gather limit (size + data.length + chunks.flatten.length) rest <;> simp [Except.map]

theorem gather_chunks (chunks : List Bytes) (rest : List (Received UploadImageRequest))
    (within : chunks.flatten.length ≤ limit) :
    gather limit 0 (chunks.map piece ++ rest) =
      (gather limit chunks.flatten.length rest).map (chunks.flatten ++ ·) := by
  have hwithin : 0 + chunks.flatten.length ≤ limit := by rwa [Nat.zero_add]
  have hall := gather_chunks_append chunks rest hwithin
  rwa [Nat.zero_add] at hall

/-- A stream is chunks within the limit, up to its end or to something that offends. -/
theorem chunks_or_offends (items : List (Received UploadImageRequest)) (h : size ≤ limit) :
    ∃ chunks : List Bytes, size + chunks.flatten.length ≤ limit ∧
      (items = chunks.map piece ∨ ∃ item rest status, items = chunks.map piece ++ item :: rest ∧
        Offends limit (size + chunks.flatten.length) item status) := by
  induction items generalizing size with
  | nil => exact ⟨[], by simpa, .inl rfl⟩
  | cons item items ih =>
    rcases chunk_or_offends limit size item with ⟨data, rfl, hdata⟩ | ⟨status, hoffends⟩
    · obtain ⟨chunks, hchunks, hitems⟩ := ih hdata
      refine ⟨data :: chunks, by simpa [Nat.add_assoc] using hchunks, ?_⟩
      rw [List.flatten_cons, List.length_append, ← Nat.add_assoc]
      rcases hitems with rfl | ⟨item, rest, status, rfl, hoffends⟩
      · exact .inl rfl
      · exact .inr ⟨item, rest, status, rfl, hoffends⟩
    · exact ⟨[], by simpa, .inr ⟨item, items, status, rfl, by simpa⟩⟩

end Chunks

/-! ## Whole streams -/

/-- Nothing, or a dot and one to fifteen ASCII letters and digits. -/
def PlainType (imageType : String) : Prop :=
  imageType = "" ∨ ∃ name : List Char, imageType.toList = '.' :: name ∧ 1 ≤ name.length ∧
    name.length ≤ 15 ∧ ∀ c ∈ name, Gallery.isAlphanumeric c = true

theorem isExtension_iff_plainType {imageType : String} :
    Gallery.isExtension imageType = true ↔ PlainType imageType := by
  simp only [Gallery.isExtension_iff, PlainType, Nat.lt_succ_iff, ← List.length_pos_iff,
    Nat.succ_le_iff]

section Streams

variable (s : State) (limit : Nat) (fresh : Uuid) (info : ImageInfo) (chunks : List Bytes)

def fileOf : Path := s.gallery.filePath (fresh.text ++ info.imageType)

def pathOf : String := Path.joinText s.gallery.folder (fresh.text ++ info.imageType)

/-- A stream of an image in which nothing offends. -/
structure Unbroken : Prop where
  known : s.catalog.contains info.laptopId = true
  within : chunks.flatten.length ≤ limit

/-- A stream whose image can be kept. -/
structure Accepted : Prop extends Unbroken s limit info chunks where
  fits : chunks.flatten.length < UInt32.size
  plain : PlainType info.imageType
  writable : ∃ disk, s.disk.write (pathOf s fresh info) chunks.flatten = .ok disk

/-- Why the image of an unbroken stream is refused all the same. Whether its size can be answered is
looked at first, then the type, and the disk last. -/
inductive Unfit : Status → Prop
  | unreportable (h : UInt32.size ≤ chunks.flatten.length) :
      Unfit ⟨.invalidArgument, "image size does not fit the response"⟩
  | badType (fits : chunks.flatten.length < UInt32.size) (h : ¬ PlainType info.imageType) :
      Unfit ⟨.invalidArgument,
        "image type " ++ Text.quoted info.imageType ++ " is not a plain file extension"⟩
  | notWritten (cause : DiskError) (fits : chunks.flatten.length < UInt32.size)
      (plain : PlainType info.imageType)
      (h : s.disk.write (pathOf s fresh info) chunks.flatten = .error cause) :
      Unfit ⟨.internal, "cannot save image to store: cannot write image file " ++
        pathOf s fresh info ++ ": " ++ cause.message⟩

/-- What is answered and changed when an image is kept: one image more, under the fresh id, whose file
has the bytes, and nothing else. -/
structure Kept (data : Bytes) (response : UploadImageResponse) (gallery : Gallery) (disk : Disk) :
    Prop where
  id : response.id = fresh.text
  size : response.size.toNat = data.length
  image : gallery.find? fresh.text = some ⟨fresh.text, info.laptopId, info.imageType,
    pathOf s fresh info, data.length⟩
  images : ∀ id, id ≠ fresh.text → gallery.find? id = s.gallery.find? id
  oneMore : s.gallery.find? fresh.text = none → gallery.size = s.gallery.size + 1
  folder : gallery.folder = s.gallery.folder
  file : disk.read (fileOf s fresh info) = .ok data
  path : Path.ofText (pathOf s fresh info) = fileOf s fresh info
  files : ∀ path, path ≠ fileOf s fresh info → disk.read? path = s.disk.read? path
  folders : disk.folders = s.disk.folders

end Streams

variable {s : State} {limit : Nat} {fresh : Uuid} {info : ImageInfo} {chunks : List Bytes}
  {messages : List (Received UploadImageRequest)} {status : Status}

/-- How an upload into a state ends: with an answer and what is changed, or with a status. -/
def outcome (s : State) (limit : Nat) (fresh : Uuid) (messages : List (Received UploadImageRequest)) :
    Except Status (UploadImageResponse × Gallery × Disk) :=
  (answer s.catalog s.gallery s.disk limit fresh messages).mapError Refusal.status

/-- After its first message, an upload of an image of a known laptop is decided by the rest. -/
theorem answer_of_known {c : Catalog} {g : Gallery} {d : Disk}
    {rest : List (Received UploadImageRequest)} (known : c.contains info.laptopId = true) :
    answer c g d limit fresh (.ok ⟨some (.info info)⟩ :: rest) =
      gather limit 0 rest >>= fun data =>
        if UInt32.size ≤ data.length then .error .tooLargeToReport
        else match g.save d fresh info.laptopId info.imageType data with
          | .ok (id, g, d) => .ok (⟨id, UInt32.ofNat data.length⟩, g, d)
          | .error error => .error (.notSaved error) := by
  simp only [answer, readInfo, known, bind, Except.bind]
  rfl

theorem outcome_of_broken (h : Broken s.catalog limit messages status) :
    outcome s limit fresh messages = .error status := by
  cases h with
  | empty => rfl
  | infoNotReceived status rest => rfl
  | notInfo message rest h =>
    obtain ⟨_ | info | data⟩ := message
    · rfl
    · exact absurd rfl (h info)
    · rfl
  | unknownLaptop info rest h =>
    simp only [outcome, answer, readInfo, h, bind, Except.bind]
    rfl
  | chunk info chunks item rest status known within h =>
    obtain ⟨refusal, rfl, hgather⟩ := gather_of_offends h rest
    rw [outcome, stream, List.cons_append, answer_of_known known,
      gather_chunks chunks (item :: rest) within, hgather]
    rfl

theorem answer_stream (h : Unbroken s limit info chunks) :
    answer s.catalog s.gallery s.disk limit fresh (stream info chunks) =
      if UInt32.size ≤ chunks.flatten.length then .error .tooLargeToReport
      else match s.gallery.save s.disk fresh info.laptopId info.imageType chunks.flatten with
        | .ok (id, g, d) => .ok (⟨id, UInt32.ofNat chunks.flatten.length⟩, g, d)
        | .error error => .error (.notSaved error) := by
  have hall := gather_chunks chunks [] h.within
  rw [List.append_nil, gather, Except.map, List.append_nil] at hall
  rw [stream, answer_of_known h.known, hall]
  rfl

theorem outcome_of_unfit (hunbroken : Unbroken s limit info chunks)
    (h : Unfit s fresh info chunks status) :
    outcome s limit fresh (stream info chunks) = .error status := by
  rw [outcome, answer_stream hunbroken]
  cases h with
  | unreportable h =>
    rw [if_pos h]
    rfl
  | badType fits h =>
    rw [if_neg (Nat.not_le.mpr fits), Gallery.save,
      if_neg (fun hext => h (isExtension_iff_plainType.mp hext))]
    rfl
  | notWritten cause fits plain h =>
    rw [pathOf] at h
    rw [if_neg (Nat.not_le.mpr fits), Gallery.save, if_pos (isExtension_iff_plainType.mpr plain)]
    simp only [h]
    rfl

theorem outcome_of_accepted (h : Accepted s limit fresh info chunks) :
    ∃ disk, s.disk.write (pathOf s fresh info) chunks.flatten = .ok disk ∧
      outcome s limit fresh (stream info chunks) =
        .ok (⟨fresh.text, UInt32.ofNat chunks.flatten.length⟩,
          s.gallery.withImage fresh.text info.laptopId info.imageType chunks.flatten.length,
          disk) := by
  obtain ⟨disk, hwrite⟩ := h.writable
  refine ⟨disk, hwrite, ?_⟩
  have hsave : s.gallery.save s.disk fresh info.laptopId info.imageType chunks.flatten =
      .ok (fresh.text,
        s.gallery.withImage fresh.text info.laptopId info.imageType chunks.flatten.length, disk) :=
    Gallery.save_eq_ok_iff.mpr ⟨isExtension_iff_plainType.mpr h.plain, rfl, hwrite, rfl⟩
  rw [outcome, answer_stream h.toUnbroken, if_neg (Nat.not_le.mpr h.fits), hsave]
  rfl

theorem broken_or_stream (s : State) (limit : Nat) (fresh : Uuid)
    (messages : List (Received UploadImageRequest)) :
    (∃ status, Broken s.catalog limit messages status) ∨
      ∃ info chunks, messages = stream info chunks ∧
        (Unbroken s limit info chunks ∧ (∃ status, Unfit s fresh info chunks status) ∨
          Accepted s limit fresh info chunks) := by
  match messages with
  | [] => exact .inl ⟨_, .empty⟩
  | .error status :: rest => exact .inl ⟨_, .infoNotReceived status rest⟩
  | .ok ⟨none⟩ :: rest => exact .inl ⟨_, .notInfo _ rest (by simp)⟩
  | .ok ⟨some (.chunk data)⟩ :: rest => exact .inl ⟨_, .notInfo _ rest (by simp)⟩
  | .ok ⟨some (.info info)⟩ :: rest =>
    cases hknown : s.catalog.contains info.laptopId with
    | false => exact .inl ⟨_, .unknownLaptop info rest hknown⟩
    | true =>
      obtain ⟨chunks, hwithin, hrest⟩ := chunks_or_offends rest (Nat.zero_le limit)
      rw [Nat.zero_add] at hwithin hrest
      rcases hrest with rfl | ⟨item, rest, status, rfl, hoffends⟩
      · refine .inr ⟨info, chunks, rfl, ?_⟩
        have hunbroken : Unbroken s limit info chunks := ⟨hknown, hwithin⟩
        by_cases hfits : chunks.flatten.length < UInt32.size
        · by_cases hplain : PlainType info.imageType
          · cases hwrite : s.disk.write (pathOf s fresh info) chunks.flatten with
            | error cause => exact .inl ⟨hunbroken, _, .notWritten cause hfits hplain hwrite⟩
            | ok disk => exact .inr ⟨hunbroken, hfits, hplain, disk, hwrite⟩
          · exact .inl ⟨hunbroken, _, .badType hfits hplain⟩
        · exact .inl ⟨hunbroken, _, .unreportable (Nat.le_of_not_lt hfits)⟩
      · exact .inl ⟨status, .chunk info chunks item rest status hknown hwithin hoffends⟩

theorem ofText_pathOf (plain : PlainType info.imageType) :
    Path.ofText (pathOf s fresh info) = fileOf s fresh info :=
  Gallery.ofText_joinText_fileName _ _ (isExtension_iff_plainType.mpr plain)

theorem kept_of_write {disk : Disk} (h : Accepted s limit fresh info chunks)
    (hwrite : s.disk.write (pathOf s fresh info) chunks.flatten = .ok disk) :
    Kept s fresh info chunks.flatten ⟨fresh.text, UInt32.ofNat chunks.flatten.length⟩
      (s.gallery.withImage fresh.text info.laptopId info.imageType chunks.flatten.length) disk where
  id := rfl
  size := UInt32.toNat_ofNat_of_lt' h.fits
  image := by rw [Gallery.find?_withImage, if_pos rfl, pathOf]
  images := fun id hne => by rw [Gallery.find?_withImage, if_neg hne]
  oneMore := Gallery.size_withImage
  folder := rfl
  file := ofText_pathOf h.plain ▸ Disk.read_write_self hwrite
  path := ofText_pathOf h.plain
  files := fun path hne => by rw [Disk.read?_write hwrite, ofText_pathOf h.plain, if_neg hne]
  folders := Disk.folders_write hwrite

theorem exists_outcome_eq_ok_iff :
    (∃ kept, outcome s limit fresh messages = .ok kept) ↔
      ∃ info chunks, messages = stream info chunks ∧ Accepted s limit fresh info chunks := by
  constructor
  · rintro ⟨kept, hkept⟩
    rcases broken_or_stream s limit fresh messages with
      ⟨status, h⟩ | ⟨info, chunks, rfl, ⟨hunbroken, status, h⟩ | haccepted⟩
    · rw [outcome_of_broken h] at hkept
      cases hkept
    · rw [outcome_of_unfit hunbroken h] at hkept
      cases hkept
    · exact ⟨info, chunks, rfl, haccepted⟩
  · rintro ⟨info, chunks, rfl, haccepted⟩
    obtain ⟨disk, -, houtcome⟩ := outcome_of_accepted haccepted
    exact ⟨_, houtcome⟩

theorem kept_of_outcome {response : UploadImageResponse} {gallery : Gallery} {disk : Disk}
    (h : outcome s limit fresh messages = .ok (response, gallery, disk)) :
    ∃ info chunks, messages = stream info chunks ∧
      Kept s fresh info chunks.flatten response gallery disk := by
  obtain ⟨info, chunks, rfl, haccepted⟩ := exists_outcome_eq_ok_iff.mp ⟨_, h⟩
  obtain ⟨disk, hwrite, houtcome⟩ := outcome_of_accepted haccepted
  rw [h] at houtcome
  cases houtcome
  exact ⟨info, chunks, rfl, kept_of_write haccepted hwrite⟩

theorem outcome_eq_error_iff :
    outcome s limit fresh messages = .error status ↔
      Broken s.catalog limit messages status ∨
        ∃ info chunks, messages = stream info chunks ∧ Unbroken s limit info chunks ∧
          Unfit s fresh info chunks status := by
  constructor
  · intro herror
    rcases broken_or_stream s limit fresh messages with
      ⟨status, h⟩ | ⟨info, chunks, rfl, ⟨hunbroken, status, h⟩ | haccepted⟩
    · rw [outcome_of_broken h] at herror
      cases herror
      exact .inl h
    · rw [outcome_of_unfit hunbroken h] at herror
      cases herror
      exact .inr ⟨info, chunks, rfl, hunbroken, h⟩
    · obtain ⟨disk, -, houtcome⟩ := outcome_of_accepted haccepted
      rw [houtcome] at herror
      cases herror
  · rintro (hbroken | ⟨info, chunks, rfl, hunbroken, hunfit⟩)
    · exact outcome_of_broken hbroken
    · exact outcome_of_unfit hunbroken hunfit

theorem uploadImage_eq (server : Server) (o : Circumstances) (call : Call) (s : State) :
    server.uploadImage o call s =
      match outcome s server.imageLimit o.fresh
        (call.messages.map (decodeItem UploadImageRequest)) with
      | .ok (response, gallery, disk) =>
        (.uploaded response, { s with gallery := gallery, disk := disk })
      | .error status => (.refused status, s) := by
  rw [Server.uploadImage, outcome]
  cases answer s.catalog s.gallery s.disk server.imageLimit o.fresh
    (call.messages.map (decodeItem UploadImageRequest)) <;> rfl

/-- **What an upload comes to**, for every stream of messages. It succeeds exactly for the stream of an
image that can be kept, and then adds this image. It is refused exactly if something in the stream
offends, for the first thing that does, or if the image is unfit when all of it has come. A service
that refuses an upload is as it was. -/
theorem upload_decides (server : Server) (s : State) (fresh : Uuid)
    (messages : List (Received UploadImageRequest)) :
    ((∃ kept, outcome s server.imageLimit fresh messages = .ok kept) ↔
      ∃ info chunks, messages = stream info chunks ∧
        Accepted s server.imageLimit fresh info chunks) ∧
    (∀ response gallery disk,
      outcome s server.imageLimit fresh messages = .ok (response, gallery, disk) →
      ∃ info chunks, messages = stream info chunks ∧
        Kept s fresh info chunks.flatten response gallery disk) ∧
    (∀ status, outcome s server.imageLimit fresh messages = .error status ↔
      Broken s.catalog server.imageLimit messages status ∨
        ∃ info chunks, messages = stream info chunks ∧
          Unbroken s server.imageLimit info chunks ∧ Unfit s fresh info chunks status) ∧
    ∀ o call, o.fresh = fresh → call.messages.map (decodeItem UploadImageRequest) = messages →
      server.uploadImage o call s =
        match outcome s server.imageLimit fresh messages with
        | .ok (response, gallery, disk) =>
          (.uploaded response, { s with gallery := gallery, disk := disk })
        | .error status => (.refused status, s) := by
  refine ⟨exists_outcome_eq_ok_iff, fun response gallery disk h => kept_of_outcome h,
    fun status => outcome_eq_error_iff, ?_⟩
  rintro o call rfl rfl
  exact uploadImage_eq server o call s

end UploadImage
end Showroom
