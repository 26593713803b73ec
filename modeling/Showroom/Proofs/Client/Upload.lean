import Showroom.Proofs.Client.ImageType
import Showroom.Proofs.Client.Sending
import Showroom.Proofs.Service.Creation
import Showroom.Proofs.Service.Uploading

/-!
# Showroom.Proofs.Client.Upload

What comes of a file that a client uploads. The client cuts the file into pieces, the messages arrive
as they were sent, and the server puts the pieces together again: it keeps the whole file, if that is
not too large and its path gives a plain type, and is left as it was otherwise.

* `ImageFile.Cut`, `ImageFile.cut_pieces`: how the file is cut.
* `UploadImage.outcome_of_known`: what comes of an image of a known laptop.
* `Client.uploadImage_decides`: what comes of a file.
-/

namespace Showroom

/-! ## Pieces -/

/-- Bytes in pieces: none is empty, none is too large, and there are as few of them as that allows. -/
structure ImageFile.Cut (data : Bytes) (chunks : List Bytes) : Prop where
  whole : chunks.flatten = data
  count : chunks.length = (data.length + (pieceSize - 1)) / pieceSize
  bounds : ∀ chunk ∈ chunks, chunk ≠ [] ∧ chunk.length ≤ pieceSize

theorem ImageFile.cut_pieces (data : Bytes) : Cut data (pieces data) := by
  induction data using pieces.induct with
  | case1 h =>
    rw [pieces, if_pos h, if_pos rfl]
    exact ⟨rfl, rfl, by simp⟩
  | case2 data h hne =>
    have hpos : 0 < data.length := List.length_pos_iff.mpr hne
    rw [pieces, if_pos h, if_neg hne]
    refine ⟨List.flatten_singleton, ?_, ?_⟩
    · rw [List.length_singleton]
      simp only [pieceSize] at h ⊢
      omega
    · intro chunk hchunk
      rw [List.mem_singleton.mp hchunk]
      exact ⟨hne, h⟩
  | case3 data h ih =>
    obtain ⟨hwhole, hcount, hbounds⟩ := ih
    rw [pieces, if_neg h]
    have htake : (data.take pieceSize).length = pieceSize :=
      List.length_take_of_le (Nat.le_of_not_le h)
    refine ⟨?_, ?_, ?_⟩
    · rw [List.flatten_cons, hwhole, List.take_append_drop]
    · rw [List.length_cons, hcount, List.length_drop]
      simp only [pieceSize] at h ⊢
      omega
    · rintro chunk (_ | ⟨_, hchunk⟩)
      · exact ⟨List.ne_nil_of_length_pos (htake.symm ▸ Nat.succ_pos 1023), Nat.le_of_eq htake⟩
      · exact hbounds chunk hchunk

/-! ## The server -/

namespace UploadImage

variable {s : State} {limit : Nat} {fresh : Uuid} {info : ImageInfo} {chunks : List Bytes}
  {status : Status}

/-- An image of a known laptop that is kept if its file can be written. -/
structure Storable (limit : Nat) (info : ImageInfo) (data : Bytes) : Prop where
  within : data.length ≤ limit
  reportable : data.length < UInt32.size
  plain : PlainType info.imageType

theorem stream_inj {info' : ImageInfo} {chunks' : List Bytes}
    (h : stream info chunks = stream info' chunks') : info = info' ∧ chunks = chunks' := by
  obtain ⟨hinfo, hchunks⟩ := List.cons.inj h
  refine ⟨by cases hinfo; rfl, List.map_inj_right ?_ |>.mp hchunks⟩
  rintro data data' ⟨⟩
  rfl

theorem code_of_broken (known : s.catalog.contains info.laptopId = true)
    (h : Broken s.catalog limit (stream info chunks) status) : status.code = .invalidArgument := by
  generalize hmessages : stream info chunks = messages at h
  cases h with
  | empty => cases hmessages
  | infoNotReceived => cases hmessages
  | notInfo message rest h =>
    cases hmessages
    exact absurd rfl (h info)
  | unknownLaptop other rest h =>
    cases hmessages
    rw [known] at h
    cases h
  | chunk other before item rest status _ _ hoffends =>
    have hitem : item ∈ chunks.map piece := by
      rw [(List.cons.inj hmessages).2]
      exact List.mem_append_right _ List.mem_cons_self
    obtain ⟨data, -, rfl⟩ := List.mem_map.mp hitem
    generalize hpiece : piece data = item at hoffends
    cases hoffends with
    | notReceived => cases hpiece
    | notChunk message h =>
      cases hpiece
      exact absurd rfl (h data)
    | tooLarge => rfl

/-- What comes of an image of a known laptop: it is kept if it is storable and can be written, and
refused as an invalid argument if it is not storable. -/
theorem outcome_of_known (known : s.catalog.contains info.laptopId = true) :
    (Storable limit info chunks.flatten → ∀ disk,
      s.disk.write (pathOf s fresh info) chunks.flatten = .ok disk →
      ∃ response gallery, outcome s limit fresh (stream info chunks) = .ok (response, gallery, disk) ∧
        Kept s fresh info chunks.flatten response gallery disk) ∧
    (¬ Storable limit info chunks.flatten → ∃ message,
      outcome s limit fresh (stream info chunks) = .error ⟨.invalidArgument, message⟩) := by
  constructor
  · rintro ⟨hwithin, hreportable, hplain⟩ disk hwrite
    have haccepted : Accepted s limit fresh info chunks :=
      ⟨⟨known, hwithin⟩, hreportable, hplain, disk, hwrite⟩
    obtain ⟨_, hwrite', houtcome⟩ := outcome_of_accepted haccepted
    obtain rfl := Except.ok.inj (hwrite.symm.trans hwrite')
    exact ⟨_, _, houtcome, kept_of_write haccepted hwrite⟩
  · intro hnot
    suffices h : ∃ status, status.code = .invalidArgument ∧
        outcome s limit fresh (stream info chunks) = .error status by
      obtain ⟨⟨code, message⟩, rfl, houtcome⟩ := h
      exact ⟨message, houtcome⟩
    rcases broken_or_stream s limit fresh (stream info chunks) with
      ⟨status, hbroken⟩ | ⟨info', chunks', hstream, hrest⟩
    · exact ⟨status, code_of_broken known hbroken, outcome_of_broken hbroken⟩
    · obtain ⟨rfl, rfl⟩ := stream_inj hstream
      rcases hrest with ⟨hunbroken, status, hunfit⟩ | haccepted
      · refine ⟨status, ?_, outcome_of_unfit hunbroken hunfit⟩
        cases hunfit with
        | unreportable => rfl
        | badType => rfl
        | notWritten _ hreportable hplain =>
          exact absurd ⟨hunbroken.within, hreportable, hplain⟩ hnot
      · exact absurd ⟨haccepted.within, haccepted.fits, haccepted.plain⟩ hnot

end UploadImage

/-! ## The way to the server -/

open Wire in
theorem decodeItem_encode {request : UploadImageRequest}
    (fits : (encode request).length < UInt64.size) :
    decodeItem UploadImageRequest (.ok (encode request)) = .ok request :=
  decodeItem_settled fits

open Wire in
theorem length_encode_chunk {data : Bytes} (h : data.length ≤ pieceSize) :
    (encode (UploadImageRequest.mk (some (.chunk data)))).length < UInt64.size := by
  have hlength := Varint.length_render_le (k := 2) (by decide)
    (Nat.lt_of_le_of_lt h (by decide : pieceSize < 128 ^ 2))
  have hencode : encode (UploadImageRequest.mk (some (.chunk data))) =
      Entry.key 2 .lengthDelimited ++ (Varint.render data.length ++ data) := List.append_nil _
  have hkey := Entry.length_key (by decide : 2 < 16) .lengthDelimited
  rw [hencode, List.length_append, List.length_append, hkey]
  simp only [pieceSize, UInt64.size] at h ⊢
  omega

namespace ImageFile

/-- A file that is kept for a known laptop if it can be written: it is within the limit, its size fits
the answer, and its path gives a plain type. -/
structure Storable (limit : Nat) (file : ImageFile) : Prop where
  within : file.data.length ≤ limit
  reportable : file.data.length < UInt32.size
  plain : PlainPath file.path

theorem storable_iff {limit : Nat} {file : ImageFile} (h : limit < UInt32.size) :
    file.Storable limit ↔ file.data.length ≤ limit ∧ PlainPath file.path :=
  ⟨fun ⟨hwithin, _, hplain⟩ => ⟨hwithin, hplain⟩,
    fun ⟨hwithin, hplain⟩ => ⟨hwithin, Nat.lt_of_le_of_lt hwithin h, hplain⟩⟩

end ImageFile

namespace Client

open ImageFile UploadImage

variable {client : Client} {o : Circumstances} {s : State} {id : String} {file : ImageFile}
  {m : Metadata}

def describing (id : String) (file : ImageFile) : ImageInfo := ⟨id, imageType file.path⟩

/-- The first message of an upload. -/
def opening (id : String) (file : ImageFile) : UploadImageRequest :=
  ⟨some (.info (describing id file))⟩

def uploading (id : String) (file : ImageFile) (m : Metadata) : Call :=
  ⟨Method.uploadImage.path, m, (file.requests id).map fun request => .ok (Wire.encode request)⟩

theorem storable_describing {limit : Nat} :
    file.Storable limit ↔ UploadImage.Storable limit (describing id file) file.data :=
  ⟨fun ⟨hwithin, hreportable, hplain⟩ =>
      ⟨hwithin, hreportable, (plainType_imageType file.path).mpr hplain⟩,
    fun ⟨hwithin, hreportable, hplain⟩ =>
      ⟨hwithin, hreportable, (plainType_imageType file.path).mp hplain⟩⟩

section Uploads

variable (sendable : Credential.attach client.token metadata = some m)
  (admitted : client.server.admits o (uploading id file m) = true)
  (fits : (Wire.encode (opening id file)).length < UInt64.size)

include fits in
theorem received_uploading :
    (uploading id file m).messages.map (decodeItem UploadImageRequest) =
      stream (describing id file) (pieces file.data) := by
  have hopening := decodeItem_encode fits
  rw [opening, describing] at hopening
  rw [uploading, requests, stream, List.map_cons, List.map_cons, hopening]
  simp only [List.map_map]
  refine congrArg _ (List.map_congr_left fun chunk hchunk => ?_)
  exact decodeItem_encode (length_encode_chunk ((cut_pieces file.data).bounds chunk hchunk).2)

include sendable admitted fits in
theorem uploadImage_eq :
    client.uploadImage o s id (.ok file) =
      match outcome s client.server.imageLimit o.fresh
        (stream (describing id file) (pieces file.data)) with
      | .ok (response, gallery, disk) => (.ok response, { s with gallery := gallery, disk := disk })
      | .error status => (.error (.refused status), s) := by
  have hpath : (uploading id file m).path = Method.uploadImage.path := rfl
  obtain ⟨context, hserve⟩ := Server.exists_serve_of_admits (s := s) admitted hpath
  have hcall : client.call o s .uploadImage (file.requests id) =
      client.server.uploadImage o (uploading id file m) s :=
    (call_eq sendable o s .uploadImage _).trans hserve
  rw [Client.uploadImage, hcall, UploadImage.uploadImage_eq, received_uploading fits]
  cases outcome s client.server.imageLimit o.fresh
    (stream (describing id file) (pieces file.data)) <;> rfl

end Uploads

/-- **What comes of a file that is uploaded** for a known laptop, in a call that is let through and
whose first message is not too long to be written. The client says first what the image is, and then
sends the file in pieces. A file that is storable, and can be written, is kept whole, and its length is
answered. A file that is not storable is refused as an invalid argument, and nothing is kept. -/
theorem uploadImage_decides (client : Client) (o : Circumstances) (s : State) (id : String)
    (file : ImageFile) (m : Metadata) (known : s.catalog.contains id = true)
    (sendable : Credential.attach client.token metadata = some m)
    (admitted : client.server.admits o (uploading id file m) = true)
    (fits : (Wire.encode (opening id file)).length < UInt64.size) :
    (∃ chunks, Cut file.data chunks ∧
      file.requests id = opening id file :: chunks.map fun chunk => ⟨some (.chunk chunk)⟩) ∧
    (client.server.imageLimit < UInt32.size → (file.Storable client.server.imageLimit ↔
      file.data.length ≤ client.server.imageLimit ∧ PlainPath file.path)) ∧
    (file.Storable client.server.imageLimit → ∀ disk,
      s.disk.write (pathOf s o.fresh (describing id file)) file.data = .ok disk →
      ∃ response gallery, client.uploadImage o s id (.ok file) =
          (.ok response, { s with gallery := gallery, disk := disk }) ∧
        Kept s o.fresh (describing id file) file.data response gallery disk) ∧
    (¬ file.Storable client.server.imageLimit → ∃ message,
      client.uploadImage o s id (.ok file) = (.error (.refused ⟨.invalidArgument, message⟩), s)) := by
  refine ⟨⟨_, cut_pieces file.data, rfl⟩, storable_iff, ?_⟩
  obtain ⟨hkept, hrefused⟩ := @outcome_of_known s client.server.imageLimit o.fresh
    (describing id file) (pieces file.data) known
  rw [(cut_pieces file.data).whole, ← storable_describing] at hkept hrefused
  rw [uploadImage_eq sendable admitted fits]
  constructor
  · intro hstorable disk hwrite
    obtain ⟨response, gallery, houtcome, hall⟩ := hkept hstorable disk hwrite
    exact ⟨response, gallery, by rw [houtcome], hall⟩
  · intro hnot
    obtain ⟨message, houtcome⟩ := hrefused hnot
    exact ⟨message, by rw [houtcome]⟩

/-- A file of 1025 bytes, in two pieces, and the same file under a name that ends with a dot. -/
theorem uploadImage_decides_photo :
    let id := Server.quiet.fresh.text
    let client : Client := ⟨{ Server.unguarded with imageLimit := 2048 }, ""⟩
    let s : State :=
      { catalog := ({} : Catalog).withLaptop id {}, gallery := ⟨"images", {}⟩,
        disk := { folders := [["images"]] } }
    let photo : ImageFile := ⟨Bytes.ofText "photos/a.b.jpg", List.replicate 1025 7⟩
    let dotted : ImageFile := ⟨Bytes.ofText "photos/a.", List.replicate 1025 7⟩
    (pieces photo.data).length = 2 ∧
      (∃ response gallery disk, client.uploadImage Server.quiet s id (.ok photo) =
          (.ok response, { s with gallery := gallery, disk := disk }) ∧
        Kept s Server.quiet.fresh ⟨id, ".jpg"⟩ photo.data response gallery disk) ∧
      ∃ message, client.uploadImage Server.quiet s id (.ok dotted) =
        (.error (.refused ⟨.invalidArgument, message⟩), s) := by
  intro id client s photo dotted
  have known : s.catalog.contains id = true := by decide +kernel
  have sendable : Credential.attach client.token metadata = some metadata := if_pos rfl
  have hjpg : extension? photo.path = some (Bytes.ofText "jpg") := by decide +kernel
  have hdotted : extension? dotted.path = some [] := by decide +kernel
  obtain ⟨-, -, hkept, -⟩ := uploadImage_decides client Server.quiet s id photo metadata
    known sendable rfl (by decide +kernel)
  obtain ⟨-, -, -, hrefused⟩ := uploadImage_decides client Server.quiet s id dotted metadata
    known sendable rfl (by decide +kernel)
  have hstorable : photo.Storable 2048 := by
    refine ⟨by decide +kernel, by decide +kernel, fun extension h => ?_⟩
    obtain rfl := Option.some.inj (hjpg.symm.trans (extension?_eq_some_iff.mpr h))
    decide +kernel
  have hnot : ¬ dotted.Storable 2048 := by
    intro h
    have hempty := (h.plain [] (extension?_eq_some_iff.mp hdotted)).1
    exact absurd hempty (by decide)
  have htype : describing id photo = ⟨id, ".jpg"⟩ :=
    congrArg (ImageInfo.mk id) (imageType_of_text (extension?_eq_some_iff.mp hjpg))
  have hwritable : (s.disk.write (pathOf s Server.quiet.fresh (describing id photo))
      photo.data).isOk = true := by decide +kernel
  cases hwrite : s.disk.write (pathOf s Server.quiet.fresh (describing id photo)) photo.data with
  | error cause =>
    rw [hwrite] at hwritable
    cases hwritable
  | ok disk =>
    obtain ⟨response, gallery, hanswer, hall⟩ := hkept hstorable disk hwrite
    rw [htype] at hall
    exact ⟨by decide +kernel, ⟨response, gallery, disk, hanswer, hall⟩, hrefused hnot⟩

end Client

end Showroom
