import Showroom.Disk
import Showroom.Table
import Showroom.Text.Quoted
import Showroom.Uuid

/-!
# Showroom.Gallery

Images of laptops: their bytes in one folder of the disk, and what is known about them in an index
under their ids. An image is written to a file named by its id and its type, which is empty or a
plain file extension, so that the name never leaves the folder. It enters the index only after
its bytes have been written.

* `Gallery.save`   writes an image and indexes it.
-/

namespace Showroom

/-- What the index holds about an image. -/
structure ImageRecord where
  id : String
  laptopId : String
  imageType : String
  path : String
  size : Nat
deriving DecidableEq, Inhabited

structure Gallery where
  folder : String
  index : Table ImageRecord := {}
deriving DecidableEq, Inhabited

/-- Why an image was not kept. -/
inductive ImageError where
  | badType (imageType : String)
  | notWritten (path : String) (cause : DiskError)
deriving DecidableEq, Inhabited

namespace ImageError

def message : ImageError → String
  | badType imageType => "image type " ++ Text.quoted imageType ++ " is not a plain file extension"
  | notWritten path cause => "cannot write image file " ++ path ++ ": " ++ cause.message

end ImageError

namespace Gallery

def isAlphanumeric (c : Char) : Bool :=
  ('0' ≤ c && c ≤ '9') || ('a' ≤ c && c ≤ 'z') || ('A' ≤ c && c ≤ 'Z')

/-- Whether an image type is empty, or a dot and one to fifteen ASCII letters and digits. -/
def isExtension (imageType : String) : Bool :=
  match imageType.toList with
  | [] => true
  | c :: name => c = '.' && !name.isEmpty && name.length < 16 && name.all isAlphanumeric

def find? (g : Gallery) (id : String) : Option ImageRecord := g.index.find? id

def size (g : Gallery) : Nat := g.index.size

def filePath (g : Gallery) (name : String) : Path := Path.ofText g.folder ++ [name]

/-- Writes an image under a new id. The outcome is the image's id, and the gallery and the disk
afterwards. -/
def save (g : Gallery) (d : Disk) (newId : Uuid) (laptopId imageType : String) (data : Bytes) :
    Except ImageError (String × Gallery × Disk) :=
  if isExtension imageType then
    let id := newId.text
    let name := id ++ imageType
    let path := Path.joinText g.folder name
    match d.write path data with
    | .error cause => .error (.notWritten path cause)
    | .ok written =>
      .ok (id, { g with index := g.index.put id ⟨id, laptopId, imageType, path, data.length⟩ },
        written)
  else .error (.badType imageType)

end Gallery

end Showroom
