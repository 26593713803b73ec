import Showroom.Laptop.Parts
import Showroom.Sample.Draws

/-!
# Showroom.Sample.Laptop

Random laptops to fill a catalog with, and random scores to rate them. Each part is chosen within
what such parts can be.
-/

namespace Showroom.Sample

abbrev Models := List (String × List String)

def cpuModels : Models :=
  [("Intel", ["Xeon E-2286M", "Core i9-9980HK", "Core i7-9750H", "Core i5-9400F",
     "Core i3-1005G1"]),
   ("AMD", ["Ryzen 7 PRO 2700U", "Ryzen 5 PRO 3500U", "Ryzen 3 PRO 3200GE"])]

def gpuModels : Models :=
  [("NVIDIA", ["RTX 2060", "RTX 2070", "GTX 1660-Ti", "GTX 1070"]),
   ("AMD", ["RX 590", "RX 580", "RX 5700-XT", "RX Vega-56"])]

def laptopModels : Models :=
  [("Apple", ["Macbook Air", "Macbook Pro"]),
   ("Dell", ["Latitude", "Vostro", "XPS", "Alienware"]),
   ("Lenovo", ["Thinkpad X1", "Thinkpad P1", "Thinkpad P53"])]

def model (models : Models) : Sampler (String × String) := do
  let (brand, names) ← oneOf models
  let name ← oneOf names
  return (brand, name)

def halves (n : Nat) : Binary64 :=
  (Binary64.ofUInt32 (UInt32.ofNat n)).div (Binary64.ofUInt32 2)

/-- An amount of memory between two whole amounts of a unit. -/
def memoryBetween (first last : Nat) (unit : MemoryUnit) : Sampler Memory := do
  let n ← between first last
  return Memory.of (UInt64.ofNat n) unit

def keyboard : Sampler Keyboard := do
  let layout ← oneOf [KeyLayout.qwerty, KeyLayout.qwertz, KeyLayout.azerty]
  let backlit ← coin
  return ⟨layout.code, backlit⟩

/-- Two to eight cores, no fewer threads than cores, and 2 to 5 GHz. -/
def cpu : Sampler Cpu := do
  let (brand, name) ← model cpuModels
  let cores ← between 2 8
  let threads ← between cores 12
  let minGhz ← doubleBetween (halves 4) (halves 7)
  let maxGhz ← doubleBetween minGhz (halves 10)
  return ⟨brand, name, UInt32.ofNat cores, UInt32.ofNat threads, minGhz, maxGhz⟩

/-- One to 2 GHz, and two to six gigabytes. -/
def gpu : Sampler Gpu := do
  let (brand, name) ← model gpuModels
  let minGhz ← doubleBetween (halves 2) (halves 3)
  let maxGhz ← doubleBetween minGhz (halves 4)
  let memory ← memoryBetween 2 6 .gigabyte
  return ⟨brand, name, minGhz, maxGhz, some memory⟩

def ram : Sampler Memory := memoryBetween 4 64 .gigabyte

def ssd : Sampler Storage := do
  let memory ← memoryBetween 128 1024 .gigabyte
  return ⟨DriveKind.ssd.code, some memory⟩

def hdd : Sampler Storage := do
  let memory ← memoryBetween 1 6 .terabyte
  return ⟨DriveKind.hdd.code, some memory⟩

/-- A screen of 13 to 17 inches, sixteen to nine. -/
def screen : Sampler Screen := do
  let height ← between 1080 4320
  let panel ← oneOf [PanelKind.ips, PanelKind.oled]
  let size ← doubleBetween (halves 26) (halves 34)
  let multitouch ← coin
  return ⟨size.toSingle, some ⟨UInt32.ofNat (height * 16 / 9), UInt32.ofNat height⟩, panel.code,
    multitouch⟩

/-- A laptop with a random identifier, last changed at the given moment. -/
def laptop (now : Timestamp) : Sampler Laptop := do
  let (brand, name) ← model laptopModels
  let id ← identifier
  let cpu ← cpu
  let ram ← ram
  let gpu ← gpu
  let ssd ← ssd
  let hdd ← hdd
  let screen ← screen
  let keyboard ← keyboard
  let weight ← doubleBetween (halves 2) (halves 6)
  let price ← doubleBetween (halves 3000) (halves 7000)
  let year ← between 2015 2024
  return {
    id := id.text, brand := brand, name := name, cpu := some cpu, ram := some ram, gpus := [gpu],
    storages := [ssd, hdd], screen := some screen, keyboard := some keyboard,
    weight := some (.kilograms weight), priceUsd := price, releaseYear := UInt32.ofNat year,
    updatedAt := some now }

/-- A score from 1 to 10 in half steps. -/
def score : Sampler Binary64 := do
  let n ← between 2 20
  return halves n

def many {α : Type} (sampler : Sampler α) : (count : Nat) → Sampler (List α)
  | 0 => pure []
  | count + 1 => do
    let x ← sampler
    let xs ← many sampler count
    return x :: xs

end Showroom.Sample
