/-!
# Showroom.Wire.Schema

The message types and their fields: for each field number of each type, the field's name and how
its value stands on the wire. Two cases of one alternative share a name.
-/

namespace Showroom.Wire

/-- Every kind of message. -/
inductive MessageType where
  | memory
  | cpu
  | gpu
  | storage
  | resolution
  | screen
  | keyboard
  | timestamp
  | laptop
  | filter
  | createLaptopRequest
  | createLaptopResponse
  | searchLaptopRequest
  | searchLaptopResponse
  | imageInfo
  | uploadImageRequest
  | uploadImageResponse
  | rateLaptopRequest
  | rateLaptopResponse
  | loginRequest
  | loginResponse
deriving DecidableEq, Inhabited

/-- How a field's value stands on the wire. -/
inductive FieldKind where
  /-- An integer, an enumeration code or a truth value. -/
  | varint
  /-- Eight bytes, least significant first. -/
  | fixed64
  /-- Four bytes, least significant first. -/
  | fixed32
  /-- UTF-8 after its length. -/
  | text
  | bytes
  /-- The fields of another message after their length. -/
  | message (type : MessageType)
deriving DecidableEq, Inhabited

structure Field where
  name : String
  kind : FieldKind
deriving DecidableEq, Inhabited

namespace MessageType

def name : MessageType → String
  | memory => "Memory"
  | cpu => "Cpu"
  | gpu => "Gpu"
  | storage => "Storage"
  | resolution => "Resolution"
  | screen => "Screen"
  | keyboard => "Keyboard"
  | timestamp => "Timestamp"
  | laptop => "Laptop"
  | filter => "Filter"
  | createLaptopRequest => "CreateLaptopRequest"
  | createLaptopResponse => "CreateLaptopResponse"
  | searchLaptopRequest => "SearchLaptopRequest"
  | searchLaptopResponse => "SearchLaptopResponse"
  | imageInfo => "ImageInfo"
  | uploadImageRequest => "UploadImageRequest"
  | uploadImageResponse => "UploadImageResponse"
  | rateLaptopRequest => "RateLaptopRequest"
  | rateLaptopResponse => "RateLaptopResponse"
  | loginRequest => "LoginRequest"
  | loginResponse => "LoginResponse"

def fields : MessageType → List (Nat × Field)
  | memory => [(1, ⟨"value", .varint⟩), (2, ⟨"unit", .varint⟩)]
  | cpu =>
    [(1, ⟨"brand", .text⟩),
     (2, ⟨"name", .text⟩),
     (3, ⟨"number_cores", .varint⟩),
     (4, ⟨"number_threads", .varint⟩),
     (5, ⟨"min_ghz", .fixed64⟩),
     (6, ⟨"max_ghz", .fixed64⟩)]
  | gpu =>
    [(1, ⟨"brand", .text⟩),
     (2, ⟨"name", .text⟩),
     (3, ⟨"min_ghz", .fixed64⟩),
     (4, ⟨"max_ghz", .fixed64⟩),
     (5, ⟨"memory", .message memory⟩)]
  | storage => [(1, ⟨"driver", .varint⟩), (2, ⟨"memory", .message memory⟩)]
  | resolution => [(1, ⟨"width", .varint⟩), (2, ⟨"height", .varint⟩)]
  | screen =>
    [(1, ⟨"size_inch", .fixed32⟩),
     (2, ⟨"resolution", .message resolution⟩),
     (3, ⟨"panel", .varint⟩),
     (4, ⟨"multitouch", .varint⟩)]
  | keyboard => [(1, ⟨"layout", .varint⟩), (2, ⟨"backlit", .varint⟩)]
  | timestamp => [(1, ⟨"seconds", .varint⟩), (2, ⟨"nanos", .varint⟩)]
  | laptop =>
    [(1, ⟨"id", .text⟩),
     (2, ⟨"brand", .text⟩),
     (3, ⟨"name", .text⟩),
     (4, ⟨"cpu", .message cpu⟩),
     (5, ⟨"ram", .message memory⟩),
     (6, ⟨"gpus", .message gpu⟩),
     (7, ⟨"storages", .message storage⟩),
     (8, ⟨"screen", .message screen⟩),
     (9, ⟨"keyboard", .message keyboard⟩),
     (10, ⟨"weight", .fixed64⟩),
     (11, ⟨"weight", .fixed64⟩),
     (12, ⟨"price_usd", .fixed64⟩),
     (13, ⟨"release_year", .varint⟩),
     (14, ⟨"updated_at", .message timestamp⟩)]
  | filter =>
    [(1, ⟨"max_price_usd", .fixed64⟩),
     (2, ⟨"min_cpu_cores", .varint⟩),
     (3, ⟨"min_cpu_ghz", .fixed64⟩),
     (4, ⟨"min_ram", .message memory⟩)]
  | createLaptopRequest => [(1, ⟨"laptop", .message laptop⟩)]
  | createLaptopResponse => [(1, ⟨"id", .text⟩)]
  | searchLaptopRequest => [(1, ⟨"filter", .message filter⟩)]
  | searchLaptopResponse => [(1, ⟨"laptop", .message laptop⟩)]
  | imageInfo => [(1, ⟨"laptop_id", .text⟩), (2, ⟨"image_type", .text⟩)]
  | uploadImageRequest => [(1, ⟨"data", .message imageInfo⟩), (2, ⟨"data", .bytes⟩)]
  | uploadImageResponse => [(1, ⟨"id", .text⟩), (2, ⟨"size", .varint⟩)]
  | rateLaptopRequest => [(1, ⟨"laptop_id", .text⟩), (2, ⟨"score", .fixed64⟩)]
  | rateLaptopResponse =>
    [(1, ⟨"laptop_id", .text⟩),
     (2, ⟨"rated_count", .varint⟩),
     (3, ⟨"average_score", .fixed64⟩)]
  | loginRequest => [(1, ⟨"username", .text⟩), (2, ⟨"password", .text⟩)]
  | loginResponse => [(1, ⟨"access_token", .text⟩)]

/-- The field with a number, if the type declares one. -/
def field? (type : MessageType) (number : Nat) : Option Field := type.fields.lookup number

end MessageType

end Showroom.Wire
