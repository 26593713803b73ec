import Showroom.Gallery
import Showroom.Laptop.Catalog
import Showroom.Service.Requests
import Showroom.Service.Status

/-!
# Showroom.Service.UploadImage

Receiving an image: first what it is, then its bytes in any number of chunks. The image is kept as
a whole, and only after its last chunk has come; how the bytes are cut into chunks does not
matter. Nothing is kept of a stream that breaks, grows beyond the limit or holds anything else.
-/

namespace Showroom.UploadImage

/-- Why an image is not kept. -/
inductive Refusal where
  | noMessage
  | infoNotReceived (message : String)
  | notInfo
  | unknownLaptop (id : String)
  | chunkNotReceived (message : String)
  | notChunk
  | tooLarge (size limit : Nat)
  | tooLargeToReport
  | notSaved (error : ImageError)
deriving DecidableEq, Inhabited

def Refusal.status : Refusal → Status
  | noMessage => ⟨.unknown, "stream closed before image info"⟩
  | infoNotReceived message => ⟨.unknown, "cannot receive image info: " ++ message⟩
  | notInfo => ⟨.unknown, "first message must carry the image info"⟩
  | unknownLaptop id => ⟨.notFound, "cannot find laptop with id: " ++ id⟩
  | chunkNotReceived message => ⟨.unknown, "cannot receive chunk data: " ++ message⟩
  | notChunk => ⟨.unknown, "expected image chunk data"⟩
  | tooLarge size limit => ⟨.invalidArgument, s!"image is too large: {size} > {limit}"⟩
  | tooLargeToReport => ⟨.invalidArgument, "image size does not fit the response"⟩
  | notSaved (.badType imageType) => ⟨.invalidArgument, (ImageError.badType imageType).message⟩
  | notSaved error => ⟨.internal, "cannot save image to store: " ++ error.message⟩

/-- What the first message says about the image. -/
def readInfo : List (Received UploadImageRequest) →
    Except Refusal (ImageInfo × List (Received UploadImageRequest))
  | [] => .error .noMessage
  | .error status :: _ => .error (.infoNotReceived status.message)
  | .ok ⟨some (.info info)⟩ :: rest => .ok (info, rest)
  | .ok _ :: _ => .error .notInfo

/-- The bytes of the chunks, after `size` bytes that have come already. -/
def gather (limit : Nat) : (size : Nat) → List (Received UploadImageRequest) →
    Except Refusal Bytes
  | _, [] => .ok []
  | _, .error status :: _ => .error (.chunkNotReceived status.message)
  | size, .ok ⟨some (.chunk data)⟩ :: rest =>
    if limit < size + data.length then .error (.tooLarge (size + data.length) limit)
    else (gather limit (size + data.length) rest).map (data ++ ·)
  | _, .ok _ :: _ => .error .notChunk

/-- Receives an image and keeps it under a fresh id. -/
def answer (c : Catalog) (g : Gallery) (d : Disk) (limit : Nat) (fresh : Uuid)
    (messages : List (Received UploadImageRequest)) :
    Except Refusal (UploadImageResponse × Gallery × Disk) := do
  let (info, rest) ← readInfo messages
  if !c.contains info.laptopId then throw (.unknownLaptop info.laptopId)
  let data ← gather limit 0 rest
  if UInt32.size ≤ data.length then throw .tooLargeToReport
  match g.save d fresh info.laptopId info.imageType data with
  | .ok (id, g, d) => return (⟨id, UInt32.ofNat data.length⟩, g, d)
  | .error error => throw (.notSaved error)

end Showroom.UploadImage
