import Showroom.Binary64.Decimal
import Showroom.CommandLine.Arguments
import Showroom.Settings.Environment

/-!
# Showroom.CommandLine.Options

What a user of the catalog can ask for on the command line: whom to be, which service to call, and
what to do there.

* `Options.read`   reads it.
-/

namespace Showroom.CommandLine

/-- What to do. -/
inductive Command where
  | create (count : Nat)
  | search (maxPrice : Option Binary64) (minCores : UInt32) (minGhz : Binary64) (minRamGb : UInt64)
  /-- Create a random laptop and upload an image of it. -/
  | upload (image : String)
  /-- Create random laptops and give them random scores, some times over. -/
  | rate (count rounds : Nat)
deriving DecidableEq, Inhabited

structure Options where
  serverAddress : String := "http://127.0.0.1:8080"
  username : String := "admin1"
  password : String := "secret"
  refreshSeconds : Nat := 30
  command : Command
deriving DecidableEq, Inhabited

/-! ## Numbers -/

/-- A number of 64 bits. -/
def number? (s : String) : Option Nat :=
  (Text.Decimal.read? ((Text.dropText? ['+'] s.toList).getD s.toList)).filter (· < UInt64.size)

/-- A number of 32 bits. Zero may have a minus sign. -/
def smallNumber? (s : String) : Option Nat :=
  match s.toList with
  | '-' :: cs => (Text.Decimal.read? cs).filter (· = 0)
  | _ => (number? s).filter (· < UInt32.size)

/-- Gives something a value that it does not have yet. -/
def once {α : Type} (old new : Option α) : Option (Option α) :=
  match old, new with
  | none, some x => some (some x)
  | _, _ => none

/-! ## What stands before the command -/

/-- The general options that have been given. -/
structure General where
  serverAddress : Option String := none
  username : Option String := none
  password : Option String := none
  refreshSeconds : Option Nat := none
deriving DecidableEq, Inhabited

def General.set (name value : String) (g : General) : Option General :=
  match name with
  | "server-address" => (once g.serverAddress (some value)).map fun x => { g with serverAddress := x }
  | "username" => (once g.username (some value)).map fun x => { g with username := x }
  | "password" => (once g.password (some value)).map fun x => { g with password := x }
  | "refresh-secs" =>
    (once g.refreshSeconds (number? value)).map fun x => { g with refreshSeconds := x }
  | _ => none

/-! ## The commands -/

structure CreateOptions where
  count : Option Nat := none

def CreateOptions.set (name value : String) (o : CreateOptions) : Option CreateOptions :=
  match name with
  | "count" => (once o.count (number? value)).map fun x => { o with count := x }
  | _ => none

structure SearchOptions where
  maxPrice : Option Binary64 := none
  minCores : Option Nat := none
  minGhz : Option Binary64 := none
  minRamGb : Option Nat := none

def SearchOptions.set (name value : String) (o : SearchOptions) : Option SearchOptions :=
  match name with
  | "max-price" =>
    (once o.maxPrice (Binary64.ofDecimal? value.toList)).map fun x => { o with maxPrice := x }
  | "min-cores" => (once o.minCores (smallNumber? value)).map fun x => { o with minCores := x }
  | "min-ghz" =>
    (once o.minGhz (Binary64.ofDecimal? value.toList)).map fun x => { o with minGhz := x }
  | "min-ram-gb" => (once o.minRamGb (number? value)).map fun x => { o with minRamGb := x }
  | _ => none

structure UploadOptions where
  image : Option String := none

def UploadOptions.set (name value : String) (o : UploadOptions) : Option UploadOptions :=
  match name with
  | "image" =>
    (once o.image (if value = "" then none else some value)).map fun x => { o with image := x }
  | _ => none

structure RateOptions where
  count : Option Nat := none
  rounds : Option Nat := none

def RateOptions.set (name value : String) (o : RateOptions) : Option RateOptions :=
  match name with
  | "count" => (once o.count (number? value)).map fun x => { o with count := x }
  | "rounds" => (once o.rounds (number? value)).map fun x => { o with rounds := x }
  | _ => none

/-- Reads the options of a command, which nothing may follow. A command has no version. -/
def readAll {α : Type} (set : String → String → α → Option α) (start : α) (args : List String) :
    Except Stop α :=
  match readOptions set start args with
  | .ok (a, []) => .ok a
  | .error .help => .error .help
  | _ => .error .mistake

namespace Command

def names : List String := ["create", "search", "upload", "rate", "help"]

def read (name : String) (args : List String) : Except Stop Command :=
  match name with
  | "create" => do
    let o ← readAll CreateOptions.set {} args
    return .create (o.count.getD 10)
  | "search" => do
    let o ← readAll SearchOptions.set {} args
    return .search o.maxPrice (UInt32.ofNat (o.minCores.getD 0)) (o.minGhz.getD .zero)
      (UInt64.ofNat (o.minRamGb.getD 0))
  | "upload" => do
    let o ← readAll UploadOptions.set {} args
    match o.image with
    | some image => return .upload image
    | none => .error .mistake
  | "rate" => do
    let o ← readAll RateOptions.set {} args
    return .rate (o.count.getD 3) (o.rounds.getD 1)
  | "help" =>
    match args with
    | [] => .error .help
    | [topic] => .error (if topic ∈ names then .help else .mistake)
    | _ => .error .mistake
  | _ => .error .mistake

end Command

namespace Options

/-- The variables of the environment that stand for options which are not given. -/
def addressVariable : String := "CATALOG_SERVER_ADDRESS"
def usernameVariable : String := "CATALOG_USERNAME"
def passwordVariable : String := "CATALOG_PASSWORD"

def of (g : General) (e : Environment) (command : Command) : Options :=
  let usual : Options := { command := command }
  { serverAddress := (g.serverAddress.or (e.find? addressVariable)).getD usual.serverAddress
    username := (g.username.or (e.find? usernameVariable)).getD usual.username
    password := (g.password.or (e.find? passwordVariable)).getD usual.password
    refreshSeconds := g.refreshSeconds.getD usual.refreshSeconds
    command := command }

def read (e : Environment) (args : List String) : Except Stop Options :=
  match readOptions General.set {} args with
  | .error stop => .error stop
  | .ok (_, []) => .error .mistake
  | .ok (g, name :: args) => (Command.read name args).map (of g e)

end Options

end Showroom.CommandLine
