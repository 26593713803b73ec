import Showroom.Call.Metadata
import Showroom.Service.Status
import Showroom.Text.Trim

/-!
# Showroom.Access.Credential

The access token in the metadata of a call: the one value of `authorization`, as it is or after
the word `Bearer`. Blanks around it do not count, and nothing but blanks is no token.

* `Credential.find`   reads it on the server.
* `Credential.attach`   puts it in place on the client.
-/

namespace Showroom.Credential

/-- The name under which metadata holds the token. -/
def entryName : String := "authorization"

/-- Why the metadata of a call cannot be read. -/
inductive Fault where
  | several
  | unreadable
deriving DecidableEq, Inhabited

def Fault.message : Fault → String
  | several => "more than one authorization value provided"
  | unreadable => "metadata authorization can't be converted to string"

def isBlank (c : Char) : Bool := c = ' ' || c = '\t'

/-- The mark that may stand before a token. -/
def bearerMark : List Char := "Bearer ".toList

/-- The token in a value, without mark and blanks. -/
def strip (value : List Char) : List Char :=
  let token := Text.trim isBlank value
  Text.trim isBlank ((Text.dropText? bearerMark token).getD token)

/-- The token in the metadata of a call, if there is one. -/
def find (m : Metadata) : Except Fault (Option String) :=
  match m.values entryName with
  | [] => .ok none
  | [value] =>
    match Metadata.text? value with
    | some cs => .ok (if strip cs = [] then none else some (String.ofList (strip cs)))
    | none => .error .unreadable
  | _ => .error .several

/-- How a call is answered whose token cannot be sent. -/
def unsendable : Status := ⟨.unauthenticated, "access token is not valid metadata"⟩

/-- The metadata with a token, if it can be sent. An empty token changes nothing. -/
def attach (token : String) (m : Metadata) : Option Metadata :=
  if token = "" then some m
  else if Metadata.isValue (Bytes.ofText token) then some (m.set entryName (Bytes.ofText token))
  else none

end Showroom.Credential
