import Showroom.Bytes
import Showroom.Laptop.Filter

/-!
# Showroom.Service.Requests

What callers of the catalog send and what they are sent back.
-/

namespace Showroom

structure CreateLaptopRequest where
  laptop : Option Laptop := none
deriving DecidableEq, Inhabited

structure CreateLaptopResponse where
  id : String := ""
deriving DecidableEq, Inhabited

structure SearchLaptopRequest where
  filter : Option Filter := none
deriving DecidableEq, Inhabited

structure SearchLaptopResponse where
  laptop : Option Laptop := none
deriving DecidableEq, Inhabited

/-- Which laptop an image shows, and the file extension it is kept under. -/
structure ImageInfo where
  laptopId : String := ""
  imageType : String := ""
deriving DecidableEq, Inhabited

/-- One message of an upload: what the image is, or a piece of it. -/
inductive UploadPart where
  | info (info : ImageInfo)
  | chunk (data : Bytes)
deriving DecidableEq, Inhabited

structure UploadImageRequest where
  data : Option UploadPart := none
deriving DecidableEq, Inhabited

structure UploadImageResponse where
  id : String := ""
  size : UInt32 := 0
deriving DecidableEq, Inhabited

structure RateLaptopRequest where
  laptopId : String := ""
  score : Binary64 := .zero
deriving DecidableEq, Inhabited

structure RateLaptopResponse where
  laptopId : String := ""
  ratedCount : UInt32 := 0
  averageScore : Binary64 := .zero
deriving DecidableEq, Inhabited

structure LoginRequest where
  username : String := ""
  password : String := ""
deriving DecidableEq, Inhabited

structure LoginResponse where
  accessToken : String := ""
deriving DecidableEq, Inhabited

end Showroom
