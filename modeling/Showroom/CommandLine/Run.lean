import Showroom.Client.Calls
import Showroom.Client.Network
import Showroom.Client.Refresher
import Showroom.CommandLine.Options
import Showroom.Sample.Laptop

/-!
# Showroom.CommandLine.Run

Carrying out a command: connecting to the service, logging in, and making the calls. The first call
that fails ends it; what was done before stays done.

* `Options.run`   carries it out.
-/

namespace Showroom.CommandLine

/-- What a command can use: the circumstances of its `n`-th call, the present moment, and files. -/
structure Surroundings where
  circumstances : Nat → Circumstances
  moment : Timestamp
  file : String → Except DiskError Bytes
deriving Inhabited

/-- What changes on the way: the state of the service, the random words used, and the number of
calls made. -/
structure Visit where
  state : State
  draws : Draws
  calls : Nat := 0
deriving Inhabited

/-- Why a command has failed. -/
inductive Failure where
  | notConnected (message : String)
  | notLoggedIn (status : Status)
  | callFailed (cause : ClientFailure)
deriving DecidableEq, Inhabited

def Failure.message : Failure → String
  | notConnected message => message
  | notLoggedIn status => status.summary
  | callFailed cause => cause.message

/-- A part of a command. What it changes is kept even if it fails. -/
abbrev Errand := ExceptT Failure (StateM Visit)

variable (w : Surroundings) (client : Client)

def choose {α : Type} (sampler : Sampler α) : Errand α := fun v =>
  let (x, draws) := sampler v.draws
  (.ok x, { v with draws := draws })

def perform {ε α : Type} (fail : ε → Failure) (call : Circumstances → State → Except ε α × State) :
    Errand α := fun v =>
  let (result, state) := call (w.circumstances v.calls) v.state
  (result.mapError fail, { v with state := state, calls := v.calls + 1 })

/-- Creates a random laptop and gets the identifier that it has. -/
def createOne : Errand String := do
  let laptop ← choose (Sample.laptop w.moment)
  let id ← perform w .callFailed fun o s => client.createLaptop o s laptop
  return id.getD laptop.id

def createMany : (count : Nat) → Errand (List String)
  | 0 => pure []
  | count + 1 => do
    let id ← createOne w client
    let ids ← createMany count
    return id :: ids

def rateOnce (ids : List String) : Errand Unit := do
  let scores ← choose (Sample.many Sample.score ids.length)
  let _ ← perform w .callFailed fun o s => client.rateLaptops o s ids scores

/-- Gives each of some laptops a random score, some times over. -/
def rateOften (ids : List String) : (rounds : Nat) → Errand Unit
  | 0 => pure ()
  | rounds + 1 => do
    rateOnce w client ids
    rateOften ids rounds

def Command.run : Command → Errand Unit
  | .create count => do
    let _ ← createMany w client count
  | .search maxPrice minCores minGhz minRamGb => do
    let filter : Filter :=
      { maxPriceUsd := maxPrice.getD .infinity, minCpuCores := minCores, minCpuGhz := minGhz,
        minRam := some (Memory.of minRamGb .gigabyte) }
    let _ ← perform w .callFailed fun o s => client.searchLaptops o s filter
  | .upload image => do
    let id ← createOne w client
    let file := (w.file image).map fun data => ⟨Bytes.ofText image, data⟩
    let _ ← perform w .callFailed fun o s => client.uploadImage o s id file
  | .rate count rounds => do
    let ids ← createMany w client count
    rateOften w client ids rounds

/-- Logs in and gets the token that the calls share. -/
def Options.logIn (o : Options) (server : Server) : Errand SharedToken :=
  perform w .notLoggedIn fun c s =>
    let (login, s) := Client.logIn ⟨server, ""⟩ c s o.username o.password
    let (started, token) := Refresher.start o.refreshSeconds {} login
    (started.map fun _ => token, s)

/-- Connects, logs in and carries out the command, all of it before another login is due. -/
def Options.run (o : Options) (n : Network) : Errand Unit :=
  match n.connect o.serverAddress with
  | .error message => throw (.notConnected message)
  | .ok server => do
    let shared ← o.logIn w server
    o.command.run w ⟨server, shared.token⟩

end Showroom.CommandLine
