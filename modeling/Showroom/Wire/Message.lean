import Showroom.Service.Requests
import Showroom.Wire.Reader

/-!
# Showroom.Wire.Message

The typed messages and their fields. Written, the fields stand in the order of their numbers; a
plain number or text that has its default value is left out, while a part that is present is
written even when all of it is default. Read, the fields are taken in one after the other: a
number or text replaces the one before, the fields of a part are added to the part so far,
repeated parts are lined up, and one case of an alternative replaces another.

* `Message`   a type with a wire form: how it takes in a field, and which fields it is written as.
* `encode`, `decode`   between messages and bytes.
-/

namespace Showroom.Wire

/-- A type of messages: the empty message, how a message takes in one more field, and the fields
as which it is written. -/
class Message (α : Type) where
  type : MessageType
  blank : α
  add : α → Entry → α
  entries : α → List Entry

def extend {α : Type} [Message α] (m : α) (entries : List Entry) : α :=
  entries.foldl Message.add m

/-- A part with further fields; a missing part starts from the empty one. -/
def extendPart {α : Type} [Message α] (part : Option α) (entries : List Entry) : Option α :=
  some (extend (part.getD Message.blank) entries)

/-- A part that is written whenever it is present. -/
def partEntry {α : Type} [Message α] (number : Nat) : Option α → List Entry
  | some m => [.message number (Message.entries m)]
  | none => []

def partEntries {α : Type} [Message α] (number : Nat) (parts : List α) : List Entry :=
  parts.map fun m => .message number (Message.entries m)

def natEntry (number : Nat) (value : UInt64) : List Entry :=
  if value = 0 then [] else [.varint number value]

/-- An enumeration code or signed integer of 32 bits, written in 64; left out when zero. -/
def codeEntry (number : Nat) (code : Int32) : List Entry :=
  natEntry number code.toInt64.toUInt64

def flagEntry (number : Nat) (flag : Bool) : List Entry :=
  if flag then [.varint number 1] else []

/-- A double, left out when it is one of the zeros. -/
def doubleEntry (number : Nat) (x : Binary64) : List Entry :=
  if x.isZero then [] else [.fixed64 number x.bits]

def textEntry (number : Nat) (s : String) : List Entry :=
  if s = "" then [] else [.text number s]

/-- The low 32 bits of an integer as an enumeration code. -/
def codeOf (value : UInt64) : Int32 := value.toUInt32.toInt32

instance : Message Memory where
  type := .memory
  blank := {}
  add m
    | .varint 1 v => { m with value := v }
    | .varint 2 v => { m with unitCode := codeOf v }
    | _ => m
  entries m := natEntry 1 m.value ++ codeEntry 2 m.unitCode

instance : Message Cpu where
  type := .cpu
  blank := {}
  add m
    | .text 1 s => { m with brand := s }
    | .text 2 s => { m with name := s }
    | .varint 3 v => { m with cores := v.toUInt32 }
    | .varint 4 v => { m with threads := v.toUInt32 }
    | .fixed64 5 x => { m with minGhz := ⟨x⟩ }
    | .fixed64 6 x => { m with maxGhz := ⟨x⟩ }
    | _ => m
  entries m :=
    textEntry 1 m.brand ++ textEntry 2 m.name ++ natEntry 3 m.cores.toUInt64 ++
      natEntry 4 m.threads.toUInt64 ++ doubleEntry 5 m.minGhz ++ doubleEntry 6 m.maxGhz

instance : Message Gpu where
  type := .gpu
  blank := {}
  add m
    | .text 1 s => { m with brand := s }
    | .text 2 s => { m with name := s }
    | .fixed64 3 x => { m with minGhz := ⟨x⟩ }
    | .fixed64 4 x => { m with maxGhz := ⟨x⟩ }
    | .message 5 es => { m with memory := extendPart m.memory es }
    | _ => m
  entries m :=
    textEntry 1 m.brand ++ textEntry 2 m.name ++ doubleEntry 3 m.minGhz ++
      doubleEntry 4 m.maxGhz ++ partEntry 5 m.memory

instance : Message Storage where
  type := .storage
  blank := {}
  add m
    | .varint 1 v => { m with driveCode := codeOf v }
    | .message 2 es => { m with memory := extendPart m.memory es }
    | _ => m
  entries m := codeEntry 1 m.driveCode ++ partEntry 2 m.memory

instance : Message Resolution where
  type := .resolution
  blank := {}
  add m
    | .varint 1 v => { m with width := v.toUInt32 }
    | .varint 2 v => { m with height := v.toUInt32 }
    | _ => m
  entries m := natEntry 1 m.width.toUInt64 ++ natEntry 2 m.height.toUInt64

instance : Message Screen where
  type := .screen
  blank := {}
  add m
    | .fixed32 1 x => { m with sizeInch := ⟨x⟩ }
    | .message 2 es => { m with resolution := extendPart m.resolution es }
    | .varint 3 v => { m with panelCode := codeOf v }
    | .varint 4 v => { m with multitouch := v != 0 }
    | _ => m
  entries m :=
    (if m.sizeInch.isZero then [] else [.fixed32 1 m.sizeInch.bits]) ++
      partEntry 2 m.resolution ++ codeEntry 3 m.panelCode ++ flagEntry 4 m.multitouch

instance : Message Keyboard where
  type := .keyboard
  blank := {}
  add m
    | .varint 1 v => { m with layoutCode := codeOf v }
    | .varint 2 v => { m with backlit := v != 0 }
    | _ => m
  entries m := codeEntry 1 m.layoutCode ++ flagEntry 2 m.backlit

instance : Message Timestamp where
  type := .timestamp
  blank := {}
  add m
    | .varint 1 v => { m with seconds := v.toInt64 }
    | .varint 2 v => { m with nanos := codeOf v }
    | _ => m
  entries m := natEntry 1 m.seconds.toUInt64 ++ codeEntry 2 m.nanos

/-- A weight is written whenever it is present, zero or not. -/
def weightEntry : Option Weight → List Entry
  | some (.kilograms x) => [.fixed64 10 x.bits]
  | some (.pounds x) => [.fixed64 11 x.bits]
  | none => []

instance : Message Laptop where
  type := .laptop
  blank := {}
  add m
    | .text 1 s => { m with id := s }
    | .text 2 s => { m with brand := s }
    | .text 3 s => { m with name := s }
    | .message 4 es => { m with cpu := extendPart m.cpu es }
    | .message 5 es => { m with ram := extendPart m.ram es }
    | .message 6 es => { m with gpus := m.gpus ++ [extend Message.blank es] }
    | .message 7 es => { m with storages := m.storages ++ [extend Message.blank es] }
    | .message 8 es => { m with screen := extendPart m.screen es }
    | .message 9 es => { m with keyboard := extendPart m.keyboard es }
    | .fixed64 10 x => { m with weight := some (.kilograms ⟨x⟩) }
    | .fixed64 11 x => { m with weight := some (.pounds ⟨x⟩) }
    | .fixed64 12 x => { m with priceUsd := ⟨x⟩ }
    | .varint 13 v => { m with releaseYear := v.toUInt32 }
    | .message 14 es => { m with updatedAt := extendPart m.updatedAt es }
    | _ => m
  entries m :=
    textEntry 1 m.id ++ textEntry 2 m.brand ++ textEntry 3 m.name ++ partEntry 4 m.cpu ++
      partEntry 5 m.ram ++ partEntries 6 m.gpus ++ partEntries 7 m.storages ++
      partEntry 8 m.screen ++ partEntry 9 m.keyboard ++ weightEntry m.weight ++
      doubleEntry 12 m.priceUsd ++ natEntry 13 m.releaseYear.toUInt64 ++ partEntry 14 m.updatedAt

instance : Message Filter where
  type := .filter
  blank := {}
  add m
    | .fixed64 1 x => { m with maxPriceUsd := ⟨x⟩ }
    | .varint 2 v => { m with minCpuCores := v.toUInt32 }
    | .fixed64 3 x => { m with minCpuGhz := ⟨x⟩ }
    | .message 4 es => { m with minRam := extendPart m.minRam es }
    | _ => m
  entries m :=
    doubleEntry 1 m.maxPriceUsd ++ natEntry 2 m.minCpuCores.toUInt64 ++
      doubleEntry 3 m.minCpuGhz ++ partEntry 4 m.minRam

instance : Message CreateLaptopRequest where
  type := .createLaptopRequest
  blank := {}
  add m
    | .message 1 es => { m with laptop := extendPart m.laptop es }
    | _ => m
  entries m := partEntry 1 m.laptop

instance : Message CreateLaptopResponse where
  type := .createLaptopResponse
  blank := {}
  add m
    | .text 1 s => { m with id := s }
    | _ => m
  entries m := textEntry 1 m.id

instance : Message SearchLaptopRequest where
  type := .searchLaptopRequest
  blank := {}
  add m
    | .message 1 es => { m with filter := extendPart m.filter es }
    | _ => m
  entries m := partEntry 1 m.filter

instance : Message SearchLaptopResponse where
  type := .searchLaptopResponse
  blank := {}
  add m
    | .message 1 es => { m with laptop := extendPart m.laptop es }
    | _ => m
  entries m := partEntry 1 m.laptop

instance : Message ImageInfo where
  type := .imageInfo
  blank := {}
  add m
    | .text 1 s => { m with laptopId := s }
    | .text 2 s => { m with imageType := s }
    | _ => m
  entries m := textEntry 1 m.laptopId ++ textEntry 2 m.imageType

/-- Further fields of an image's description go to the one already there; a piece of the image is
replaced by a description. -/
def extendInfo (data : Option UploadPart) (es : List Entry) : Option UploadPart :=
  match data with
  | some (.info info) => some (.info (extend info es))
  | _ => some (.info (extend Message.blank es))

/-- An upload message is written whenever it holds something, an empty piece included. -/
def uploadEntry : Option UploadPart → List Entry
  | some (.info info) => [.message 1 (Message.entries info)]
  | some (.chunk data) => [.bytes 2 data]
  | none => []

instance : Message UploadImageRequest where
  type := .uploadImageRequest
  blank := {}
  add m
    | .message 1 es => { m with data := extendInfo m.data es }
    | .bytes 2 data => { m with data := some (.chunk data) }
    | _ => m
  entries m := uploadEntry m.data

instance : Message UploadImageResponse where
  type := .uploadImageResponse
  blank := {}
  add m
    | .text 1 s => { m with id := s }
    | .varint 2 v => { m with size := v.toUInt32 }
    | _ => m
  entries m := textEntry 1 m.id ++ natEntry 2 m.size.toUInt64

instance : Message RateLaptopRequest where
  type := .rateLaptopRequest
  blank := {}
  add m
    | .text 1 s => { m with laptopId := s }
    | .fixed64 2 x => { m with score := ⟨x⟩ }
    | _ => m
  entries m := textEntry 1 m.laptopId ++ doubleEntry 2 m.score

instance : Message RateLaptopResponse where
  type := .rateLaptopResponse
  blank := {}
  add m
    | .text 1 s => { m with laptopId := s }
    | .varint 2 v => { m with ratedCount := v.toUInt32 }
    | .fixed64 3 x => { m with averageScore := ⟨x⟩ }
    | _ => m
  entries m :=
    textEntry 1 m.laptopId ++ natEntry 2 m.ratedCount.toUInt64 ++ doubleEntry 3 m.averageScore

instance : Message LoginRequest where
  type := .loginRequest
  blank := {}
  add m
    | .text 1 s => { m with username := s }
    | .text 2 s => { m with password := s }
    | _ => m
  entries m := textEntry 1 m.username ++ textEntry 2 m.password

instance : Message LoginResponse where
  type := .loginResponse
  blank := {}
  add m
    | .text 1 s => { m with accessToken := s }
    | _ => m
  entries m := textEntry 1 m.accessToken

def encode {α : Type} [Message α] (m : α) : Bytes := Entry.renderAll (Message.entries m)

def decode (α : Type) [Message α] (bs : Bytes) : Except Fault α := do
  return extend Message.blank (← readMessage (Message.type α) bs)

end Showroom.Wire
