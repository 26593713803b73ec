import Showroom.Access.Guard
import Showroom.Service.CreateLaptop
import Showroom.Service.Login
import Showroom.Service.RateLaptop
import Showroom.Service.SearchLaptop
import Showroom.Service.UploadImage
import Showroom.Wire.Message

/-!
# Showroom.Service.Serve

The service as its callers meet it: calls go to a path, with metadata and encoded messages. The
guard decides first; only a call that it lets through is decoded and answered.

* `Server.serve`   answers one call.
* `Server.run`   answers calls one after the other.
-/

namespace Showroom

/-- All that calls can change. -/
structure State where
  catalog : Catalog := {}
  gallery : Gallery
  scoreboard : Scoreboard := {}
  accounts : Accounts := {}
  disk : Disk := {}
deriving DecidableEq, Inhabited

/-- What is fixed while the service runs. -/
structure Server where
  guard : Guard
  imageLimit : Nat

structure Call where
  path : String
  metadata : Metadata
  messages : List (Received Bytes)
deriving Inhabited

/-- What a call meets from outside: the time in seconds since 1970, the instants at which it
arrives and at which its deadline is looked at, its cancellation flag and those that have been
raised, and a fresh identifier. -/
structure Circumstances where
  time : Int
  arrival : Instant
  checked : Instant
  flag : Nat
  raised : RaisedFlags
  fresh : Uuid
deriving DecidableEq, Inhabited

inductive Answer where
  | refused (status : Status)
  | created (response : CreateLaptopResponse)
  | found (responses : List SearchLaptopResponse)
  | uploaded (response : UploadImageResponse)
  | rated (responses : List RateLaptopResponse) (ended : Option Status)
  | loggedIn (response : LoginResponse)
deriving DecidableEq, Inhabited

def decodeItem (α : Type) [Wire.Message α] : Received Bytes → Received α
  | .error status => .error status
  | .ok bs => (Wire.decode α bs).mapError fun fault => ⟨.internal, fault.message⟩

/-- How a call without any message is answered where one is needed. -/
def noMessage : Status := ⟨.internal, "Missing request message."⟩

/-- The message of a call that takes one. Messages after it are read but not used. -/
def decodeOnly (α : Type) [Wire.Message α] (messages : List (Received Bytes)) : Received α :=
  match messages.mapM (decodeItem α) with
  | .error status => .error status
  | .ok [] => .error noMessage
  | .ok (m :: _) => .ok m

namespace Server

variable (server : Server) (o : Circumstances) (call : Call) (s : State)

def createLaptop (context : CallContext) : Answer × State :=
  match decodeOnly CreateLaptopRequest call.messages with
  | .error status => (.refused status, s)
  | .ok request =>
    match CreateLaptop.answer s.catalog request o.fresh (context.stop? o.raised o.checked) with
    | .error refusal => (.refused refusal.status, s)
    | .ok (response, catalog) => (.created response, { s with catalog := catalog })

def searchLaptop : Answer × State :=
  match decodeOnly SearchLaptopRequest call.messages with
  | .error status => (.refused status, s)
  | .ok request => (.found (SearchLaptop.answer s.catalog request none), s)

def uploadImage : Answer × State :=
  match UploadImage.answer s.catalog s.gallery s.disk server.imageLimit o.fresh
      (call.messages.map (decodeItem UploadImageRequest)) with
  | .error refusal => (.refused refusal.status, s)
  | .ok (response, gallery, disk) => (.uploaded response, { s with gallery := gallery, disk := disk })

def rateLaptop : Answer × State :=
  let outcome := RateLaptop.answer s.catalog s.scoreboard
    (call.messages.map (decodeItem RateLaptopRequest))
  (.rated outcome.responses (outcome.refusal.map (·.status)),
    { s with scoreboard := outcome.scoreboard })

def login : Answer × State :=
  match decodeOnly LoginRequest call.messages with
  | .error status => (.refused status, s)
  | .ok request =>
    match Login.answer s.accounts server.guard.keeper o.time request with
    | .error refusal => (.refused refusal.status, s)
    | .ok response => (.loggedIn response, s)

/-- Answers a call to a method that has been let through. -/
def perform (context : CallContext) : Method → Answer × State
  | .createLaptop => createLaptop o call s context
  | .searchLaptop => searchLaptop call s
  | .uploadImage => server.uploadImage o call s
  | .rateLaptop => rateLaptop call s
  | .login => server.login o call s

/-- How a call to a path without a method is answered. -/
def noMethod : Status := ⟨.unimplemented, ""⟩

def serve : Answer × State :=
  match server.guard.pass o.time o.arrival o.flag call.path call.metadata with
  | .error denial => (.refused denial.status, s)
  | .ok admission =>
    match Method.ofPath? call.path with
    | some method => server.perform o call s admission.context method
    | none => (.refused noMethod, s)

def run (server : Server) : List (Circumstances × Call) → State → List Answer × State
  | [], s => ([], s)
  | (o, call) :: rest, s =>
    let (answer, s) := server.serve o call s
    let (answers, s) := server.run rest s
    (answer :: answers, s)

end Server

end Showroom
