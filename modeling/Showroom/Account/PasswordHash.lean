import Showroom.Digest.Argon2
import Showroom.Text.Base64
import Showroom.Text.Decimal
import Showroom.Text.Trim

/-!
# Showroom.Account.PasswordHash

Stored passwords: a salt and the Argon2 hash of the password with that salt, together with all
that is needed to compute it again. The stored form is one line of text,
`$argon2id$v=19$m=19456,t=2,p=1$salt$hash`, with salt and hash in base64.

* `PasswordHash.create`, `PasswordHash.text`   for a new password.
* `PasswordHash.ofText?`   reads the stored form; what does not fit it exactly is no hash.
* `PasswordHash.accepts`   whether a password has this hash.
-/

namespace Showroom

structure PasswordHash where
  params : Digest.Argon2.Params
  salt : Bytes
  output : Bytes
deriving DecidableEq, Inhabited

namespace PasswordHash

open Digest (Argon2.Params)

def defaults : Argon2.Params :=
  { variant := .id, version := .second, memory := 19456, passes := 2, lanes := 1, size := 32,
    data := [] }

def create (salt : Bytes) (password : String) : PasswordHash :=
  ⟨defaults, salt, Digest.Argon2.hash defaults (Bytes.ofText password) salt⟩

def accepts (h : PasswordHash) (password : String) : Bool :=
  Digest.Argon2.hash h.params (Bytes.ofText password) h.salt = h.output

def variantName : Digest.Argon2.Variant → String
  | .d => "argon2d"
  | .i => "argon2i"
  | .id => "argon2id"

def variantOf (name : List Char) : Option Digest.Argon2.Variant :=
  [.d, .i, .id].find? fun v => (variantName v).toList = name

def base64Text (bs : Bytes) : List Char :=
  (Text.Base64.encode Text.Base64.standard bs).map fun b => Char.ofNat b.toNat

def base64Bytes? (cs : List Char) : Option Bytes :=
  (Text.Base64.decode Text.Base64.standard (Bytes.ofText (String.ofList cs))).toOption

def paramsText (p : Digest.Argon2.Params) : List Char :=
  "m=".toList ++ Text.Decimal.digits p.memory ++ ",t=".toList ++ Text.Decimal.digits p.passes
    ++ ",p=".toList ++ Text.Decimal.digits p.lanes

def text (h : PasswordHash) : String :=
  String.ofList ('$' :: (variantName h.params.variant).toList
    ++ "$v=".toList ++ Text.Decimal.digits h.params.version.number
    ++ '$' :: paramsText h.params
    ++ '$' :: base64Text h.salt ++ '$' :: base64Text h.output)

/-- A number below 2^32 in decimal digits without leading zeros. -/
def number? (cs : List Char) : Option Nat :=
  match Text.Decimal.read? cs with
  | some n => if (cs.head? ≠ some '0' ∨ cs.length = 1) ∧ n < UInt32.size then some n else none
  | none => none

def versionOf (cs : List Char) : Option Digest.Argon2.Version :=
  match number? cs with
  | some 16 => some .first
  | some 19 => some .second
  | _ => none

/-- Bytes given as a parameter, at most `most` of them. -/
def shortBytes? (most : Nat) (cs : List Char) : Option Bytes :=
  (base64Bytes? cs).filter fun bs => bs.length ≤ most

/-- Takes in one parameter. The id of a key is checked and otherwise ignored. -/
def setParam (p : Digest.Argon2.Params) (name value : List Char) : Option Digest.Argon2.Params :=
  if name = ['m'] then (number? value).map fun n => { p with memory := n }
  else if name = ['t'] then (number? value).map fun n => { p with passes := n }
  else if name = ['p'] then (number? value).map fun n => { p with lanes := n }
  else if name = "keyid".toList then (shortBytes? 8 value).map fun _ => p
  else if name = "data".toList then (shortBytes? 32 value).map fun bs => { p with data := bs }
  else none

def setParams (p : Digest.Argon2.Params) (cs : List Char) : Option Digest.Argon2.Params :=
  if 127 < cs.length then none
  else (cs.splitOn ',').foldlM (fun p pair =>
    match pair.splitOn '=' with
    | [name, value] => setParam p name value
    | _ => none) p

/-- Whether a hash can be computed with these parameters. -/
def areUsable (p : Digest.Argon2.Params) : Bool :=
  8 ≤ p.memory && 8 * p.lanes ≤ p.memory && 1 ≤ p.passes && 1 ≤ p.lanes && p.lanes < 0x1000000

def isSaltLength (n : Nat) : Bool := 4 ≤ n && n ≤ 64

/-- Salt and hash, when the parameters have been read. -/
def readBytes (p : Digest.Argon2.Params) (salt output : List Char) : Option PasswordHash :=
  match base64Bytes? salt, base64Bytes? output with
  | some saltBytes, some outputBytes =>
    if isSaltLength salt.length && 8 ≤ saltBytes.length && 10 ≤ outputBytes.length
        && outputBytes.length ≤ 64 && areUsable p then
      some ⟨{ p with size := outputBytes.length }, saltBytes, outputBytes⟩
    else none
  | _, _ => none

/-- The version field, if there is one, and the fields after it. -/
def readVersion (fields : List (List Char)) :
    Option (Digest.Argon2.Version × List (List Char)) :=
  match fields with
  | field :: rest =>
    match Text.dropText? ['v', '='] field with
    | some digits =>
      if digits.contains ',' then some (.second, fields)
      else (versionOf digits).map fun v => (v, rest)
    | none => some (.second, fields)
  | [] => some (.second, fields)

/-- The parameter field, if there is one, and the fields after it. -/
def readParams (p : Digest.Argon2.Params) (fields : List (List Char)) :
    Option (Digest.Argon2.Params × List (List Char)) :=
  match fields with
  | field :: rest =>
    if field.contains '=' then (setParams p field).map fun p => (p, rest) else some (p, fields)
  | [] => some (p, fields)

/-- Reads the stored form. Version and parameters may be missing. -/
def ofText? (s : String) : Option PasswordHash :=
  match s.toList.splitOn '$' with
  | [] :: name :: fields => do
    let variant ← variantOf name
    let (version, fields) ← readVersion fields
    let (params, fields) ← readParams { defaults with variant := variant, version := version } fields
    match fields with
    | [salt, output] => readBytes params salt output
    | _ => none
  | _ => none

end PasswordHash

end Showroom
