import Showroom.Digest.Sha256
import Showroom.Text.Base64
import Showroom.Token.Claims
import Showroom.Token.Header

/-!
# Showroom.Token

Access tokens: a header, the claims and a signature, each in URL-safe base64 and joined by dots.
The signature is the keyed hash of all that stands before its dot, and it is compared as text, so
no two tokens with the same claims text are both accepted.

* `TokenKeeper.issue`   the token for a user, valid from now for a fixed time.
* `TokenKeeper.verify`   the claims of a token, or why it is refused.
-/

namespace Showroom

/-- Why a token is refused, in the order in which it is looked at. -/
inductive TokenError where
  | malformed
  | badBase64 (fault : Text.Base64.Fault)
  | badJson (fault : String)
  | otherAlgorithm
  | badSignature
  | noExpiry
  | expired
  | hasAudience
deriving DecidableEq, Inhabited

namespace TokenError

def reason : TokenError → String
  | malformed => "InvalidToken"
  | badBase64 fault => "Base64 error: " ++ fault.message
  | badJson fault => "JSON error: " ++ fault
  | otherAlgorithm => "InvalidAlgorithm"
  | badSignature => "InvalidSignature"
  | noExpiry => "Missing required claim: exp"
  | expired => "ExpiredSignature"
  | hasAudience => "InvalidAudience"

def message (e : TokenError) : String := "invalid token: " ++ e.reason

end TokenError

namespace Token

def algorithm : String := "HS256"

def header : Bytes := Bytes.ofText "\x7b\"typ\":\"JWT\",\"alg\":\"HS256\"\x7d"

def dot : UInt8 := 46

/-- Splits at the last dot. -/
def splitLast (bs : Bytes) : Option (Bytes × Bytes) :=
  let back := bs.reverse
  match back.dropWhile (· ≠ dot) with
  | _ :: front => some (front.reverse, (back.takeWhile (· ≠ dot)).reverse)
  | [] => none

def decodePart (bs : Bytes) : Except TokenError Bytes :=
  (Text.Base64.decode Text.Base64.urlSafe bs).mapError .badBase64

/-- The claims in the payload of a token, and whether it is meant for an audience. -/
def readPayload (bs : Bytes) : Option (Claims × Bool) :=
  match Json.parse bs with
  | some (.object raw) => do
    let members ← Json.namedMembers raw
    let claims ← Claims.ofMembers members
    if Claims.sidesOk members then
      return (claims, Claims.hasAudience members)
    else none
  | _ => none

end Token

/-- The key with which tokens are signed, and how many seconds they last. -/
structure TokenKeeper where
  secret : String
  seconds : Nat
  secret_ne : secret ≠ ""
  /-- What is reported of bytes that are not the JSON which a part of a token has to be. -/
  jsonFault : Bytes → String

namespace TokenKeeper

/-- A keeper with this secret, which must not be empty. -/
def ofSecret? (secret : String) (seconds : Nat) (jsonFault : Bytes → String) :
    Option TokenKeeper :=
  if h : secret = "" then none else some ⟨secret, seconds, h, jsonFault⟩

def emptySecretMessage : String := "secret key must not be empty"

def signature (k : TokenKeeper) (signed : Bytes) : Bytes :=
  Text.Base64.encode Text.Base64.urlSafe (Digest.hmacSha256 (Bytes.ofText k.secret) signed)

def sign (k : TokenKeeper) (c : Claims) : Bytes :=
  let signed := Text.Base64.encode Text.Base64.urlSafe Token.header ++ Token.dot
    :: Text.Base64.encode Text.Base64.urlSafe c.render
  signed ++ Token.dot :: k.signature signed

/-- When a token issued now expires; times beyond the largest stop there. -/
def expiry (k : TokenKeeper) (now : Int) : Int :=
  min (now + min (k.seconds : Int) Claims.timeMax) Claims.timeMax

def issue (k : TokenKeeper) (now : Int) (username role : String) : String :=
  ((Bytes.toText? (k.sign ⟨username, role, now, k.expiry now⟩)).getD "")

def verify (k : TokenKeeper) (now : Int) (token : String) : Except TokenError Claims := do
  let some (signed, signature) := Token.splitLast (Bytes.ofText token) | throw .malformed
  let some (header, payload) := Token.splitLast signed | throw .malformed
  let header ← Token.decodePart header
  let some name := Token.Header.read header | throw (.badJson (k.jsonFault header))
  if name ≠ Token.algorithm then throw .otherAlgorithm
  if signature ≠ k.signature signed then throw .badSignature
  let payload ← Token.decodePart payload
  let some (claims, forAudience) := Token.readPayload payload
    | throw (.badJson (k.jsonFault payload))
  if claims.expiresAt < 0 then throw .noExpiry
  if claims.expiresAt < now then throw .expired
  if forAudience then throw .hasAudience
  return claims

end TokenKeeper

end Showroom
