import Showroom.Wire.Message

/-!
# Showroom.Proofs.Wire.Settled

The values of every message type, and the message as which each of them arrives. All fields arrive
as they were sent but the plain numbers: a negative zero among them arrives as the positive one. An
alternative is no plain field, so a weight keeps its sign.

* `MessageType.Value`: the messages of a type.
* `settled`: a message as it arrives.
-/

namespace Showroom

/-- The number itself, and the positive zero for the negative one. -/
def Binary64.settled (x : Binary64) : Binary64 := if x.isZero then .zero else x

/-- The number itself, and the positive zero for the negative one. -/
def Binary32.settled (x : Binary32) : Binary32 := if x.isZero then .zero else x

theorem Binary64.isZero_settled (x : Binary64) : x.settled.isZero = x.isZero := by
  unfold settled
  split
  · rename_i h
    rw [h]
    rfl
  · rfl

theorem Binary32.isZero_settled (x : Binary32) : x.settled.isZero = x.isZero := by
  unfold settled
  split
  · rename_i h
    rw [h]
    rfl
  · rfl

namespace Wire

/-- How the messages of a type arrive. -/
class Settles (α : Type) where
  settled : α → α

export Settles (settled)

instance : Settles Memory := ⟨id⟩

instance : Settles Cpu :=
  ⟨fun c => { c with minGhz := c.minGhz.settled, maxGhz := c.maxGhz.settled }⟩

instance : Settles Gpu :=
  ⟨fun g => { g with minGhz := g.minGhz.settled, maxGhz := g.maxGhz.settled }⟩

instance : Settles Storage := ⟨id⟩

instance : Settles Resolution := ⟨id⟩

instance : Settles Screen := ⟨fun s => { s with sizeInch := s.sizeInch.settled }⟩

instance : Settles Keyboard := ⟨id⟩

instance : Settles Timestamp := ⟨id⟩

instance : Settles Laptop :=
  ⟨fun l =>
    { l with
      cpu := l.cpu.map settled
      gpus := l.gpus.map settled
      screen := l.screen.map settled
      priceUsd := l.priceUsd.settled }⟩

instance : Settles Filter :=
  ⟨fun f => { f with maxPriceUsd := f.maxPriceUsd.settled, minCpuGhz := f.minCpuGhz.settled }⟩

instance : Settles CreateLaptopRequest := ⟨fun r => { r with laptop := r.laptop.map settled }⟩

instance : Settles CreateLaptopResponse := ⟨id⟩

instance : Settles SearchLaptopRequest := ⟨fun r => { r with filter := r.filter.map settled }⟩

instance : Settles SearchLaptopResponse := ⟨fun r => { r with laptop := r.laptop.map settled }⟩

instance : Settles ImageInfo := ⟨id⟩

instance : Settles UploadImageRequest := ⟨id⟩

instance : Settles UploadImageResponse := ⟨id⟩

instance : Settles RateLaptopRequest := ⟨fun r => { r with score := r.score.settled }⟩

instance : Settles RateLaptopResponse :=
  ⟨fun r => { r with averageScore := r.averageScore.settled }⟩

instance : Settles LoginRequest := ⟨id⟩

instance : Settles LoginResponse := ⟨id⟩

/-! ## All types together -/

def MessageType.Value : MessageType → Type
  | memory => Memory
  | cpu => Cpu
  | gpu => Gpu
  | storage => Storage
  | resolution => Resolution
  | screen => Screen
  | keyboard => Keyboard
  | timestamp => Timestamp
  | laptop => Laptop
  | filter => Filter
  | createLaptopRequest => CreateLaptopRequest
  | createLaptopResponse => CreateLaptopResponse
  | searchLaptopRequest => SearchLaptopRequest
  | searchLaptopResponse => SearchLaptopResponse
  | imageInfo => ImageInfo
  | uploadImageRequest => UploadImageRequest
  | uploadImageResponse => UploadImageResponse
  | rateLaptopRequest => RateLaptopRequest
  | rateLaptopResponse => RateLaptopResponse
  | loginRequest => LoginRequest
  | loginResponse => LoginResponse

instance : (type : MessageType) → Message type.Value
  | .memory => inferInstanceAs (Message Memory)
  | .cpu => inferInstanceAs (Message Cpu)
  | .gpu => inferInstanceAs (Message Gpu)
  | .storage => inferInstanceAs (Message Storage)
  | .resolution => inferInstanceAs (Message Resolution)
  | .screen => inferInstanceAs (Message Screen)
  | .keyboard => inferInstanceAs (Message Keyboard)
  | .timestamp => inferInstanceAs (Message Timestamp)
  | .laptop => inferInstanceAs (Message Laptop)
  | .filter => inferInstanceAs (Message Filter)
  | .createLaptopRequest => inferInstanceAs (Message CreateLaptopRequest)
  | .createLaptopResponse => inferInstanceAs (Message CreateLaptopResponse)
  | .searchLaptopRequest => inferInstanceAs (Message SearchLaptopRequest)
  | .searchLaptopResponse => inferInstanceAs (Message SearchLaptopResponse)
  | .imageInfo => inferInstanceAs (Message ImageInfo)
  | .uploadImageRequest => inferInstanceAs (Message UploadImageRequest)
  | .uploadImageResponse => inferInstanceAs (Message UploadImageResponse)
  | .rateLaptopRequest => inferInstanceAs (Message RateLaptopRequest)
  | .rateLaptopResponse => inferInstanceAs (Message RateLaptopResponse)
  | .loginRequest => inferInstanceAs (Message LoginRequest)
  | .loginResponse => inferInstanceAs (Message LoginResponse)

theorem Message.type_value (type : MessageType) : Message.type type.Value = type := by
  cases type <;> rfl

instance : (type : MessageType) → Settles type.Value
  | .memory => inferInstanceAs (Settles Memory)
  | .cpu => inferInstanceAs (Settles Cpu)
  | .gpu => inferInstanceAs (Settles Gpu)
  | .storage => inferInstanceAs (Settles Storage)
  | .resolution => inferInstanceAs (Settles Resolution)
  | .screen => inferInstanceAs (Settles Screen)
  | .keyboard => inferInstanceAs (Settles Keyboard)
  | .timestamp => inferInstanceAs (Settles Timestamp)
  | .laptop => inferInstanceAs (Settles Laptop)
  | .filter => inferInstanceAs (Settles Filter)
  | .createLaptopRequest => inferInstanceAs (Settles CreateLaptopRequest)
  | .createLaptopResponse => inferInstanceAs (Settles CreateLaptopResponse)
  | .searchLaptopRequest => inferInstanceAs (Settles SearchLaptopRequest)
  | .searchLaptopResponse => inferInstanceAs (Settles SearchLaptopResponse)
  | .imageInfo => inferInstanceAs (Settles ImageInfo)
  | .uploadImageRequest => inferInstanceAs (Settles UploadImageRequest)
  | .uploadImageResponse => inferInstanceAs (Settles UploadImageResponse)
  | .rateLaptopRequest => inferInstanceAs (Settles RateLaptopRequest)
  | .rateLaptopResponse => inferInstanceAs (Settles RateLaptopResponse)
  | .loginRequest => inferInstanceAs (Settles LoginRequest)
  | .loginResponse => inferInstanceAs (Settles LoginResponse)

end Wire
end Showroom
