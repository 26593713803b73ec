import Showroom.Json.Passage

/-!
# Showroom.Token.Header

The header of a token: which algorithm the signature is made with, and things about the key, none of
which is used. A header that is not in order is refused all the same. It is an object or a list of
its ten values, and may hold a key as an object: what is common to all keys, and the parts of a key
of some kind.

* `Header.read`   the algorithm that a header names.
-/

namespace Showroom.Token.Header

/-- The names of signature algorithms that a header may give. -/
def algorithms : List String :=
  ["HS256", "HS384", "HS512", "ES256", "ES384", "RS256", "RS384", "RS512", "PS256", "PS384",
   "PS512", "EdDSA"]

/-- The names of algorithms that a key may be for. -/
def keyAlgorithms : List String := algorithms ++ ["RSA1_5", "RSA-OAEP", "RSA-OAEP-256"]

/-- The names of curves that a key may be on. -/
def curves : List String := ["P-256", "P-384", "P-521", "Ed25519"]

/-- The members a header may have, in the order in which a list of values gives them. -/
def names : List String :=
  ["typ", "alg", "cty", "jku", "jwk", "kid", "x5u", "x5c", "x5t", "x5t#S256"]

/-- A name out of a few, alone or as the only member of an object. -/
def choice? : Json → Option String
  | .object [(name, .null)] => Json.textOf name
  | v => v.text?

def isChoice (options : List String) (v : Json) : Bool := (choice? v).any options.contains

def isText (v : Json) : Bool := v.text?.isSome

def isTexts : Json → Bool
  | .array items => items.all isText
  | _ => false

def isNull : Json → Bool
  | .null => true
  | _ => false

def valuesOf (name : String) (members : List (String × Json)) : List Json :=
  (members.filter fun m => m.1 = name).map Prod.snd

/-- Whether a member is there once, with a fitting value. -/
def has (members : List (String × Json)) (name : String) (fits : Json → Bool) : Bool :=
  match valuesOf name members with
  | [v] => fits v
  | _ => false

/-- Whether a member is missing or there once, with a fitting value or nothing. -/
def mayHave (members : List (String × Json)) (name : String) (fits : Json → Bool) : Bool :=
  match valuesOf name members with
  | [] => true
  | [v] => isNull v || fits v
  | _ => false

def isKeyAlgorithm : Json → Bool
  | .object [(name, .object [])] => (Json.textOf name).any keyAlgorithms.contains
  | v => isChoice keyAlgorithms v

/-- Whether what is common to all keys is in order. -/
def hasKeyFrame (members : List (String × Json)) : Bool :=
  (["use", "kid", "x5u", "x5t", "x5t#S256"].all fun name => mayHave members name isText)
    && (["key_ops", "x5c"].all fun name => mayHave members name isTexts)
    && mayHave members "alg" isKeyAlgorithm

/-- Whether a key is one of some kind: on an elliptic curve, of two factors, a secret, or a point on
a curve. -/
def hasKeyParts (members : List (String × Json)) : Bool :=
  let isKind (kind : String) : Bool := has members "kty" (isChoice [kind])
  let onCurve := has members "crv" (isChoice curves)
  let hasTexts (names : List String) : Bool := names.all fun name => has members name isText
  (isKind "EC" && onCurve && hasTexts ["x", "y"])
    || (isKind "RSA" && hasTexts ["n", "e"])
    || (isKind "oct" && hasTexts ["k"])
    || (isKind "OKP" && onCurve && hasTexts ["x"])

/-- Whether a value is a key. All of it has to be understood, members that are not used included. -/
def isKey (v : Json) : Bool :=
  v.passage Json.memberRoom = .read &&
    match v with
    | .object members =>
      (Json.namedMembers members).any fun members => hasKeyFrame members && hasKeyParts members
    | _ => false

/-- Whether a member of a header has a value that fits its name. -/
def isFitting (name : String) (v : Json) : Bool :=
  if name = "alg" then isChoice algorithms v
  else if name = "jwk" then isNull v || isKey v
  else if name = "x5c" then isNull v || isTexts v
  else isNull v || isText v

/-- The members of a header: those of an object, or ten values that go by their place. -/
def membersOf : Json → Option (List (String × Json))
  | .object members => Json.namedMembers members
  | .array items => if items.length = 10 then some (names.zip items) else none
  | _ => none

/-- The algorithm that a header names, if the header is in order. -/
def read (bs : Bytes) : Option String := do
  let members ← membersOf (← Json.parse bs)
  let known := members.filter fun m => names.contains m.1
  if (known.map Prod.fst).Nodup ∧ known.all fun m => isFitting m.1 m.2 then
    choice? (← members.lookup "alg")
  else none

end Showroom.Token.Header
