import Showroom.Client.Rating
import Showroom.Client.Upload
import Showroom.Service.Serve

/-!
# Showroom.Client.Calls

A client of the service. It sends its token with every call and allows five seconds for it. A laptop
that is there already is no failure when it is created, but has no new identifier either. An answer
that is one message has only texts and whole numbers, which arrive as they were sent; the messages of
a stream are read as they come in, and the first that cannot be read ends it.

* `Client.call`   one call.
* `Client.collect`   the messages of a stream.
* `Client.logIn`, `Client.createLaptop`, `Client.searchLaptops`, `Client.uploadImage`,
  `Client.rateLaptops`   what can be called, each with its answer and the state it leaves.
-/

namespace Showroom

structure Client where
  server : Server
  token : String := ""

namespace Client

/-- The metadata of every call: the time allowed, in millionths of a second. -/
def metadata : Metadata := .ofList [(CallContext.timeoutName, Bytes.ofText "5000000u")]

def unexpected : Status := ⟨.internal, "unexpected answer"⟩

/-- The status of an answer that is not the wanted one. -/
def refusal : Answer → Status
  | .refused status => status
  | _ => unexpected

/-- What a stream of messages comes to, with how it ended: all of them, or the first status in it. -/
def collect {α : Type} [Wire.Message α] (messages : List α) (ended : Option Status) :
    Except ClientFailure (List α) :=
  match messages.mapM fun m => decodeItem α (.ok (Wire.encode m)), ended with
  | .error status, _ => .error (.refused status)
  | .ok _, some status => .error (.refused status)
  | .ok received, none => .ok received

variable (client : Client) (o : Circumstances) (s : State)

def call {α : Type} [Wire.Message α] (method : Method) (messages : List α) : Answer × State :=
  match Credential.attach client.token metadata with
  | none => (.refused Credential.unsendable, s)
  | some metadata =>
    client.server.serve o ⟨method.path, metadata, messages.map fun m => .ok (Wire.encode m)⟩ s

def logIn (username password : String) : Except Status String × State :=
  match client.call o s .login [LoginRequest.mk username password] with
  | (.loggedIn response, s) => (.ok response.accessToken, s)
  | (answer, s) => (.error (refusal answer), s)

/-- Creates a laptop and gets its identifier, or nothing if the laptop is there already. -/
def createLaptop (laptop : Laptop) : Except ClientFailure (Option String) × State :=
  match client.call o s .createLaptop [CreateLaptopRequest.mk (some laptop)] with
  | (.created response, s) => (.ok (some response.id), s)
  | (answer, s) =>
    if (refusal answer).code = .alreadyExists then (.ok none, s)
    else (.error (.refused (refusal answer)), s)

def searchLaptops (filter : Filter) : Except ClientFailure (List Laptop) × State :=
  match client.call o s .searchLaptop [SearchLaptopRequest.mk (some filter)] with
  | (.found responses, s) =>
    ((collect responses none).map fun received => received.filterMap (·.laptop), s)
  | (answer, s) => (.error (.refused (refusal answer)), s)

def uploadImage (laptopId : String) (file : Except DiskError ImageFile) :
    Except ClientFailure UploadImageResponse × State :=
  match file with
  | .error cause => (.error (.unreadable cause), s)
  | .ok file =>
    match client.call o s .uploadImage (file.requests laptopId) with
    | (.uploaded response, s) => (.ok response, s)
    | (answer, s) => (.error (.refused (refusal answer)), s)

/-- Gives each laptop the score at the same place. -/
def rateLaptops (laptopIds : List String) (scores : List Binary64) :
    Except ClientFailure (List RateLaptopResponse) × State :=
  match ratingRequests laptopIds scores with
  | .error failure => (.error failure, s)
  | .ok requests =>
    match client.call o s .rateLaptop requests with
    | (.rated responses ended, s) => (collect responses ended, s)
    | (answer, s) => (.error (.refused (refusal answer)), s)

end Client

end Showroom
