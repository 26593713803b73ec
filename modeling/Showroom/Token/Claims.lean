import Showroom.Json.Passage
import Showroom.Json.Writer
import Showroom.Text.Decimal

/-!
# Showroom.Token.Claims

What an access token says: who holds it, in which role, since when and until when. Written, the
claims are a JSON object of four members in this order. Read, the members may come in any order
and among others, but none of them twice.
-/

namespace Showroom

structure Claims where
  subject : String
  role : String
  issuedAt : Int
  expiresAt : Int
deriving DecidableEq, Inhabited

namespace Claims

def timeMax : Int := 0x7fffffffffffffff

def isTime (n : Int) : Bool := -timeMax - 1 ≤ n && n ≤ timeMax

def numberBytes (n : Int) : Bytes := Bytes.ofText (String.ofList (Text.Decimal.signed n))

def render (c : Claims) : Bytes :=
  Bytes.ofText "\x7b\"sub\":" ++ Json.writeString c.subject
    ++ Bytes.ofText ",\"role\":" ++ Json.writeString c.role
    ++ Bytes.ofText ",\"iat\":" ++ numberBytes c.issuedAt
    ++ Bytes.ofText ",\"exp\":" ++ numberBytes c.expiresAt
    ++ Bytes.ofText "\x7d"

def valuesOf (name : String) (members : List (String × Json)) : List Json :=
  (members.filter fun m => m.1 = name).map (·.2)

/-- The value of a member that must be there once. -/
def single (name : String) (members : List (String × Json)) : Option Json :=
  match valuesOf name members with
  | [v] => some v
  | _ => none

def readTime (v : Json) : Option Int :=
  match v.integer? with
  | some n => if isTime n then some n else none
  | none => none

def ofMembers (members : List (String × Json)) : Option Claims := do
  let subject ← (← single "sub" members).text?
  let role ← (← single "role" members).text?
  let issuedAt ← readTime (← single "iat" members)
  let expiresAt ← readTime (← single "exp" members)
  return ⟨subject, role, issuedAt, expiresAt⟩

/-- Members that are looked at beside the claims: a time before which a token is not to be used,
the issuer, and the audience. -/
def sideNames : List String := ["nbf", "iss", "aud"]

/-- Whether the members beside the claims are in order: none twice, and none in which the reader
gets stuck. -/
def sidesOk (members : List (String × Json)) : Bool :=
  (sideNames.all fun name => (valuesOf name members).length ≤ 1)
    && ((valuesOf "nbf" members).all fun v => v.timePassage ≠ .stuck)
    && ((valuesOf "iss" members ++ valuesOf "aud" members).all fun v =>
      v.passage Json.memberRoom ≠ .stuck)

/-- Whether a value names an audience: a string, or a list of strings. -/
def isAudience : Json → Bool
  | .string _ => true
  | .array items => items.all fun v => match v with
    | .string _ => true
    | _ => false
  | _ => false

/-- Whether an audience is named, so that it can be understood. -/
def hasAudience (members : List (String × Json)) : Bool :=
  (valuesOf "aud" members).any fun v => v.passage Json.memberRoom = .read && isAudience v

end Claims

end Showroom
