import Showroom.Access.Credential
import Showroom.Access.Roles
import Showroom.Call.Context
import Showroom.Text.Percent
import Showroom.Token

/-!
# Showroom.Access.Guard

The check that stands before every call. An open path needs nothing; any other path needs a token
that verifies now and whose role is among those of the path. Whether a call is let through is
decided once, by its path and metadata, before any of its messages is read.

* `Guard.authorize`   the decision.
* `Guard.pass`   what is attached to a call that is let through.
* `Denial.status`   how a call that is not let through is answered.
* `Guard.intercept`   the guard in front of any service.
-/

namespace Showroom

structure Guard where
  keeper : TokenKeeper
  roles : RoleTable

/-- Why a call is not let through. -/
inductive Denial where
  | badCredential (fault : Credential.Fault)
  | noToken
  | badToken (error : TokenError)
  | roleNotAllowed (role path : String)
deriving DecidableEq, Inhabited

def Denial.status : Denial → Status
  | badCredential fault => ⟨.unauthenticated, fault.message⟩
  | noToken => ⟨.unauthenticated, "authorization token is not provided"⟩
  | badToken error => ⟨.unauthenticated, "access token is invalid: " ++ error.message⟩
  | roleNotAllowed role path =>
    ⟨.permissionDenied, "role " ++ role ++ " is not allowed to access " ++ path⟩

/-- What a call carries on after it has been let through. -/
structure Admission where
  claims : Option Claims
  context : CallContext
deriving DecidableEq, Inhabited

namespace Guard

/-- The claims in the metadata of a call to a path with these roles. -/
def authorizeRoles (g : Guard) (roles : List String) (now : Int) (path : String) (m : Metadata) :
    Except Denial Claims :=
  match Credential.find m with
  | .error fault => .error (.badCredential fault)
  | .ok none => .error .noToken
  | .ok (some token) =>
    match g.keeper.verify now token with
    | .error error => .error (.badToken error)
    | .ok claims =>
      if roles.contains claims.role then .ok claims else .error (.roleNotAllowed claims.role path)

/-- Lets a call through, with claims unless its path is open. -/
def authorize (g : Guard) (now : Int) (path : String) (m : Metadata) :
    Except Denial (Option Claims) :=
  match g.roles.allowed? path with
  | none => .ok none
  | some roles => (g.authorizeRoles roles now path m).map some

/-- Lets a call through with its claims and its context. -/
def pass (g : Guard) (now : Int) (arrival : Instant) (flag : Nat) (path : String) (m : Metadata) :
    Except Denial Admission :=
  (g.authorize now path m).map fun claims => ⟨claims, .ofMetadata m arrival flag⟩

end Guard

/-- The head of an answer that consists of a status alone. -/
structure StatusReply where
  httpStatus : Nat
  contentType : String
  grpcStatus : String
  grpcMessage : Option String
deriving DecidableEq, Inhabited

/-- Puts a status into the head of an answer. Its message is left out if it is empty. -/
def Status.reply (s : Status) : StatusReply :=
  ⟨200, "application/grpc", String.ofList (Text.Decimal.digits s.code.number),
    if s.message = "" then none else some (Text.Percent.encode s.message)⟩

/-- The guard in front of a service. A call that is let through reaches the service as it came, with
what the guard attaches; any other call is answered by the guard alone. -/
def Guard.intercept {σ β : Type} (g : Guard) (now : Int) (arrival : Instant) (flag : Nat)
    (service : String → Metadata → Admission → σ → β × σ) (path : String) (m : Metadata) (s : σ) :
    Except StatusReply β × σ :=
  match g.pass now arrival flag path m with
  | .error denial => (.error denial.status.reply, s)
  | .ok admission =>
    let (answer, s) := service path m admission s
    (.ok answer, s)

end Showroom
