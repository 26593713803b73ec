import Showroom.Access.Credential

/-!
# Showroom.Client.SharedToken

The access token that the calls of a client share. It is set from time to time, and a call is made
with the token that is there by then. Until one has been set, and after an empty one has been, calls
are made as they are.

* `SharedToken.use`   sets the token, or makes a call with it.
* `SharedToken.run`   does so again and again.
-/

namespace Showroom

structure SharedToken where
  token : String := ""
deriving DecidableEq, Inhabited

namespace SharedToken

/-- What is done with the token. -/
inductive Use where
  | set (token : String)
  | call (m : Metadata)
deriving DecidableEq, Inhabited

/-- What comes of it: the metadata with which a call is sent, or the status with which it fails
before it is. -/
inductive Outcome where
  | kept
  | sent (m : Metadata)
  | failed (status : Status)
deriving DecidableEq, Inhabited

def call (t : SharedToken) (m : Metadata) : Outcome :=
  match Credential.attach t.token m with
  | some sent => .sent sent
  | none => .failed Credential.unsendable

def use (t : SharedToken) : Use → Outcome × SharedToken
  | .set token => (.kept, ⟨token⟩)
  | .call m => (t.call m, t)

/-- Uses of the token one after the other, each with its outcome. -/
def run : SharedToken → List Use → List Outcome × SharedToken
  | t, [] => ([], t)
  | t, u :: us =>
    let (outcome, t) := t.use u
    let (outcomes, t) := t.run us
    (outcome :: outcomes, t)

end SharedToken

end Showroom
