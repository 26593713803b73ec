import Showroom.Binary64
import Showroom.Laptop.Memory

/-!
# Showroom.Laptop.Parts

A laptop and the parts it is made of, as the catalog records them. A part that is an option may
be missing; the codes of drives, panels and layouts may lie outside the known ones, and then
stand for the unknown member.
-/

namespace Showroom

inductive DriveKind where
  | unknown
  | hdd
  | ssd
deriving DecidableEq, Inhabited

inductive PanelKind where
  | unknown
  | ips
  | oled
deriving DecidableEq, Inhabited

inductive KeyLayout where
  | unknown
  | qwerty
  | qwertz
  | azerty
deriving DecidableEq, Inhabited

namespace DriveKind

def ofCode? (code : Int32) : Option DriveKind :=
  match code.toInt with
  | 0 => some unknown
  | 1 => some hdd
  | 2 => some ssd
  | _ => none

def code : DriveKind → Int32
  | unknown => 0
  | hdd => 1
  | ssd => 2

def name : DriveKind → String
  | unknown => "Unknown"
  | hdd => "Hdd"
  | ssd => "Ssd"

end DriveKind

namespace PanelKind

def ofCode? (code : Int32) : Option PanelKind :=
  match code.toInt with
  | 0 => some unknown
  | 1 => some ips
  | 2 => some oled
  | _ => none

def code : PanelKind → Int32
  | unknown => 0
  | ips => 1
  | oled => 2

def name : PanelKind → String
  | unknown => "Unknown"
  | ips => "Ips"
  | oled => "Oled"

end PanelKind

namespace KeyLayout

def ofCode? (code : Int32) : Option KeyLayout :=
  match code.toInt with
  | 0 => some unknown
  | 1 => some qwerty
  | 2 => some qwertz
  | 3 => some azerty
  | _ => none

def code : KeyLayout → Int32
  | unknown => 0
  | qwerty => 1
  | qwertz => 2
  | azerty => 3

def name : KeyLayout → String
  | unknown => "Unknown"
  | qwerty => "Qwerty"
  | qwertz => "Qwertz"
  | azerty => "Azerty"

end KeyLayout

structure Cpu where
  brand : String := ""
  name : String := ""
  cores : UInt32 := 0
  threads : UInt32 := 0
  minGhz : Binary64 := .zero
  maxGhz : Binary64 := .zero
deriving DecidableEq, Inhabited

structure Gpu where
  brand : String := ""
  name : String := ""
  minGhz : Binary64 := .zero
  maxGhz : Binary64 := .zero
  memory : Option Memory := none
deriving DecidableEq, Inhabited

structure Storage where
  driveCode : Int32 := 0
  memory : Option Memory := none
deriving DecidableEq, Inhabited

structure Resolution where
  width : UInt32 := 0
  height : UInt32 := 0
deriving DecidableEq, Inhabited

structure Screen where
  sizeInch : Binary32 := .zero
  resolution : Option Resolution := none
  panelCode : Int32 := 0
  multitouch : Bool := false
deriving DecidableEq, Inhabited

structure Keyboard where
  layoutCode : Int32 := 0
  backlit : Bool := false
deriving DecidableEq, Inhabited

/-- A moment, in seconds since 1970 and nanoseconds within the second. -/
structure Timestamp where
  seconds : Int64 := 0
  nanos : Int32 := 0
deriving DecidableEq, Inhabited

inductive Weight where
  | kilograms (amount : Binary64)
  | pounds (amount : Binary64)
deriving DecidableEq, Inhabited

structure Laptop where
  id : String := ""
  brand : String := ""
  name : String := ""
  cpu : Option Cpu := none
  ram : Option Memory := none
  gpus : List Gpu := []
  storages : List Storage := []
  screen : Option Screen := none
  keyboard : Option Keyboard := none
  weight : Option Weight := none
  priceUsd : Binary64 := .zero
  releaseYear : UInt32 := 0
  updatedAt : Option Timestamp := none
deriving DecidableEq, Inhabited

def Storage.drive (s : Storage) : DriveKind := (DriveKind.ofCode? s.driveCode).getD .unknown

def Screen.panel (s : Screen) : PanelKind := (PanelKind.ofCode? s.panelCode).getD .unknown

def Keyboard.layout (k : Keyboard) : KeyLayout := (KeyLayout.ofCode? k.layoutCode).getD .unknown

end Showroom
