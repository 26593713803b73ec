import Showroom.CommandLine.Report
import Showroom.CommandLine.Run
import Showroom.Settings.Load
import Showroom.Startup
import Std.Time.DateTime.Timestamp

/-!
# Showroom.Main

The command line. The service is started from the settings in the working folder and lives as long
as the command, which reaches it at its own address. The images that it has been sent are written
to the image folder at the end.
-/

namespace Showroom.CommandLine

def variableNames : List String :=
  [Options.addressVariable, Options.usernameVariable, Options.passwordVariable,
   "CATALOG__APP_HOST", "CATALOG__APP_PORT", "CATALOG__AUTH__SECRET_KEY",
   "CATALOG__AUTH__TOKEN_DURATION_SECS", "CATALOG__IMAGES__FOLDER", "CATALOG__IMAGES__MAX_SIZE"]

def readEnvironment : IO Environment := do
  let mut entries := []
  for name in variableNames do
    if let some value := (← IO.getEnv name) then entries := entries ++ [(name, value)]
  return ⟨entries⟩

def readFile? (path : String) : IO (Option Bytes) := do
  try
    let data ← IO.FS.readBinFile path
    return some data.toList
  catch _ => return none

def readText? (path : String) : IO (Option String) := do
  return (← readFile? path).bind Bytes.toText?

def pathText (p : Path) : String := "/".intercalate p

/-- Writes the folders and files of a disk below the working folder. -/
def writeDisk (d : Disk) : IO Unit := do
  for folder in d.folders do IO.FS.createDirAll (pathText folder)
  for (path, data) in d.files do IO.FS.writeBinFile (pathText path) ⟨data.toArray⟩

def randomWord : IO UInt64 := do
  let bytes ← IO.getRandomBytes 8
  return UInt64.ofNat (Bytes.toNatLE bytes.toList)

/-- Carries out a command on a service that has just been started. -/
def carryOut (o : Options) (n : Network) (s : State) : IO UInt32 := do
  let now ← Std.Time.Timestamp.now
  let seconds : Int := now.toSecondsSinceUnixEpoch.val
  let instant ← IO.monoNanosNow
  let fresh := Draws.ofSeed (← randomWord)
  let file ← match o.command with
    | .upload image => readFile? image
    | _ => pure none
  let surroundings : Surroundings :=
    { circumstances := fun n =>
        ⟨seconds, instant, instant, n, [], (Sample.identifier { fresh with used := 2 * n }).1⟩
      moment := ⟨Int64.ofInt seconds, 0⟩
      file := fun _ => file.elim (.error .notFound) .ok }
  let (result, v) := o.run surroundings n { state := s, draws := Draws.ofSeed (← randomWord) }
  writeDisk v.state.disk
  IO.println (toString v.state.catalog.size ++ " laptops, " ++ toString v.state.gallery.size
    ++ " images")
  match result with
  | .ok _ => return 0
  | .error failure =>
    IO.eprintln (failureText failure.message)
    return 1

/-- What is reported of JSON and of settings that cannot be read. -/
def jsonFault (_ : Bytes) : String := "not what a token holds"
def yamlFault (_ : String) : String := "not a file of settings"

def startAndCarryOut (o : Options) (e : Environment) : IO UInt32 := do
  match Settings.load (← readText? "configuration.yaml") (← readText? ".env") e with
  | .error cause =>
    IO.eprintln (failureText (cause.message yamlFault))
    return 1
  | .ok settings =>
    let salts ← IO.getRandomBytes (16 * settings.seedUsers.length).toUSize
    let salt (n : Nat) : Bytes := (salts.toList.drop (16 * n)).take 16
    match settings.start jsonFault .standard salt {} with
    | (_, .error cause) =>
      IO.eprintln (failureText cause.message)
      return 1
    | (_, .ok (server, s)) => carryOut o (.ofService settings server) s

end Showroom.CommandLine

open Showroom.CommandLine in
def main (args : List String) : IO UInt32 := do
  let e ← readEnvironment
  match Options.read e args with
  | .error stop =>
    if stop.exitCode = 0 then IO.println stop.text else IO.eprintln stop.text
    return stop.exitCode
  | .ok o => startAndCarryOut o e
