import Showroom.Disk
import Showroom.Service.Requests
import Showroom.Text.Lossy

/-!
# Showroom.Client.Upload

What a client sends to upload an image: one message that says what the image is, and then its bytes
in pieces of at most 1024.

* `ImageFile.imageType`   the type, from the ending of the file's name.
* `ImageFile.requests`   the messages.
-/

namespace Showroom

/-- An image file: its path, which is not always text, and its bytes. -/
structure ImageFile where
  path : Bytes
  data : Bytes
deriving DecidableEq, Inhabited

/-- How many bytes a piece has at most. -/
def pieceSize : Nat := 1024

/-- Cuts bytes into pieces that are full, but perhaps the last. -/
def pieces (data : Bytes) : List Bytes :=
  if data.length ≤ pieceSize then (if data = [] then [] else [data])
  else data.take pieceSize :: pieces (data.drop pieceSize)
termination_by data.length
decreasing_by simp only [List.length_drop, pieceSize] at *; omega

namespace ImageFile

def slash : UInt8 := 0x2f

def dot : UInt8 := 0x2e

/-- The last name in a path that does not stay, unless it goes back. -/
def lastName? (path : Bytes) : Option Bytes :=
  ((path.splitOn slash).filter fun name => name ≠ [] ∧ name ≠ [dot]).getLast?.filter
    (· ≠ [dot, dot])

/-- What follows the last dot in a name. A dot at the very front does not count. -/
def ending? (name : Bytes) : Option Bytes :=
  let ending := (name.reverse.takeWhile (· ≠ dot)).reverse
  if ending.length + 1 < name.length then some ending else none

/-- The ending of the name to which a path leads, if it has one. -/
def extension? (path : Bytes) : Option Bytes := (lastName? path).bind ending?

/-- The ending of the file's name after a dot, and nothing if the name has none. -/
def imageType (path : Bytes) : String :=
  match extension? path with
  | some ending => "." ++ Text.ofBytes ending
  | none => ""

/-- The messages that upload an image of a laptop. -/
def requests (laptopId : String) (file : ImageFile) : List UploadImageRequest :=
  ⟨some (.info ⟨laptopId, imageType file.path⟩)⟩
    :: (pieces file.data).map fun piece => ⟨some (.chunk piece)⟩

end ImageFile

end Showroom
