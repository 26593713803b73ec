import Showroom.Bytes

/-!
# Showroom.Json.Value

JSON texts as trees. Strings and numbers are kept as they are written, because many readers pass
over parts of a text without looking into its strings: a string has to be well-formed on the
outside, and only one that is asked for has to make sense as text.

* `Json.parse`   the tree of a whole text.
-/

namespace Showroom

inductive Json where
  | null
  | bool (value : Bool)
  | number (literal : Bytes)
  /-- A string, as it is written between its quotes. -/
  | string (raw : Bytes)
  | array (items : List Json)
  /-- Members in the order in which they are written, names as they are written. -/
  | object (members : List (Bytes × Json))
deriving Inhabited

namespace Json

def isBlank (b : UInt8) : Bool := b = 32 || b = 9 || b = 10 || b = 13

def skipBlank (bs : Bytes) : Bytes := bs.dropWhile isBlank

def isDigit (b : UInt8) : Bool := 48 ≤ b && b ≤ 57

def hexValue? (b : UInt8) : Option Nat := Bytes.hexValue? (Char.ofNat b.toNat)

def isHex (b : UInt8) : Bool := (hexValue? b).isSome

/-- Bytes that may follow a backslash by themselves: the quote, backslash, slash, b, f, n, r
and t. -/
def simpleEscapes : Bytes := [34, 92, 47, 98, 102, 110, 114, 116]

/-- Reads a string after its opening quote: what is written up to the closing quote, and the bytes
after it. -/
def readString : Bytes → Option (Bytes × Bytes)
  | [] => none
  | 34 :: rest => some ([], rest)
  | 92 :: 117 :: a :: b :: c :: d :: rest =>
    if isHex a && isHex b && isHex c && isHex d then
      (readString rest).map fun r => (92 :: 117 :: a :: b :: c :: d :: r.1, r.2)
    else none
  | 92 :: e :: rest =>
    if simpleEscapes.contains e then (readString rest).map fun r => (92 :: e :: r.1, r.2) else none
  | b :: rest => if b < 32 then none else (readString rest).map fun r => (b :: r.1, r.2)

def readDigits (bs : Bytes) : Option (Bytes × Bytes) :=
  match bs.takeWhile isDigit with
  | [] => none
  | ds => some (ds, bs.dropWhile isDigit)

/-- The digits before the point: a zero stands alone. -/
def readWhole (bs : Bytes) : Option (Bytes × Bytes) :=
  match readDigits bs with
  | some (48 :: _ :: _, _) => none
  | r => r

def readFraction : Bytes → Option (Bytes × Bytes)
  | 46 :: rest => (readDigits rest).map fun r => (46 :: r.1, r.2)
  | bs => some ([], bs)

def readSign : Bytes → Bytes × Bytes
  | 43 :: rest => ([43], rest)
  | 45 :: rest => ([45], rest)
  | bs => ([], bs)

def readExponent : Bytes → Option (Bytes × Bytes)
  | [] => some ([], [])
  | e :: rest =>
    if e = 101 ∨ e = 69 then
      let (sign, digits) := readSign rest
      (readDigits digits).map fun r => (e :: sign ++ r.1, r.2)
    else some ([], e :: rest)

/-- A number without its minus sign. -/
def readUnsigned (bs : Bytes) : Option (Bytes × Bytes) := do
  let (whole, rest) ← readWhole bs
  let (fraction, rest) ← readFraction rest
  let (exponent, rest) ← readExponent rest
  return (whole ++ fraction ++ exponent, rest)

def readNumber : Bytes → Option (Bytes × Bytes)
  | 45 :: rest => (readUnsigned rest).map fun r => (45 :: r.1, r.2)
  | bs => readUnsigned bs

/-- The bytes after a word that they have to start with. -/
def readWord (word bs : Bytes) : Option Bytes :=
  if bs.take word.length = word then some (bs.drop word.length) else none

mutual

/-- Reads a value. `fuel` bounds the number of values and separators; the number of bytes is
enough. -/
def readValue : (fuel : Nat) → Bytes → Option (Json × Bytes)
  | 0, _ => none
  | fuel + 1, bs =>
    match skipBlank bs with
    | 110 :: rest => (readWord [117, 108, 108] rest).map fun r => (null, r)
    | 116 :: rest => (readWord [114, 117, 101] rest).map fun r => (bool true, r)
    | 102 :: rest => (readWord [97, 108, 115, 101] rest).map fun r => (bool false, r)
    | 34 :: rest => (readString rest).map fun r => (string r.1, r.2)
    | 91 :: rest =>
      match skipBlank rest with
      | 93 :: rest => some (array [], rest)
      | rest => (readItems fuel rest).map fun r => (array r.1, r.2)
    | 123 :: rest =>
      match skipBlank rest with
      | 125 :: rest => some (object [], rest)
      | rest => (readMembers fuel rest).map fun r => (object r.1, r.2)
    | rest => (readNumber rest).map fun r => (number r.1, r.2)

def readItems : (fuel : Nat) → Bytes → Option (List Json × Bytes)
  | 0, _ => none
  | fuel + 1, bs => do
    let (item, rest) ← readValue fuel bs
    match skipBlank rest with
    | 93 :: rest => return ([item], rest)
    | 44 :: rest =>
      let (items, rest) ← readItems fuel rest
      return (item :: items, rest)
    | _ => none

def readMembers : (fuel : Nat) → Bytes → Option (List (Bytes × Json) × Bytes)
  | 0, _ => none
  | fuel + 1, bs => do
    let (name, rest) ← (match skipBlank bs with
      | 34 :: rest => readString rest
      | _ => none)
    let afterName := skipBlank rest
    let (value, rest) ← (match afterName with
      | 58 :: rest => readValue fuel rest
      | _ => none)
    match skipBlank rest with
    | 125 :: rest => return ([(name, value)], rest)
    | 44 :: rest =>
      let (members, rest) ← readMembers fuel rest
      return ((name, value) :: members, rest)
    | _ => none

end

/-- The tree of a text that holds one value, with blanks around it. -/
def parse (bs : Bytes) : Option Json :=
  match readValue (2 * bs.length + 2) bs with
  | some (value, rest) => if (skipBlank rest).isEmpty then some value else none
  | none => none

/-- The number that four hexadecimal digits write. -/
def hexQuad (a b c d : UInt8) : Nat :=
  [a, b, c, d].foldl (fun n x => 16 * n + (hexValue? x).getD 0) 0

/-- The byte that a letter after a backslash stands for. -/
def escapedByte (e : UInt8) : UInt8 :=
  if e = 98 then 8 else if e = 102 then 12 else if e = 110 then 10 else if e = 114 then 13
  else if e = 116 then 9 else e

/-- The UTF-8 bytes of a character given by number. -/
def charBytes (n : Nat) : Bytes := Bytes.ofText (Char.ofNat n).toString

/-- The bytes that a string written with escapes stands for. Characters beyond 16 bits are written
as two numbers; one without the other stands for nothing. -/
def unescape : Bytes → Option Bytes
  | [] => some []
  | 92 :: 117 :: a :: b :: c :: d :: rest =>
    let n := hexQuad a b c d
    if 0xd800 ≤ n ∧ n < 0xdc00 then
      match rest with
      | 92 :: 117 :: a :: b :: c :: d :: rest =>
        let m := hexQuad a b c d
        if 0xdc00 ≤ m ∧ m < 0xe000 then
          (unescape rest).map (charBytes (0x10000 + (n - 0xd800) * 0x400 + (m - 0xdc00)) ++ ·)
        else none
      | _ => none
    else if 0xdc00 ≤ n ∧ n < 0xe000 then none
    else (unescape rest).map (charBytes n ++ ·)
  | 92 :: e :: rest => (unescape rest).map (escapedByte e :: ·)
  | b :: rest => (unescape rest).map (b :: ·)

def textOf (raw : Bytes) : Option String := (unescape raw).bind Bytes.toText?

def text? : Json → Option String
  | string raw => textOf raw
  | _ => none

/-- The integer that a number is written as. A minus sign before a zero makes a fraction of it,
as a point or an exponent does. -/
def integer? : Json → Option Int
  | number literal =>
    match literal with
    | 45 :: digits =>
      if digits.all isDigit && digits != [48] then
        some (-(digits.foldl (fun n d => 10 * n + (d.toNat - 48)) 0 : Nat))
      else none
    | digits =>
      if digits.all isDigit then
        some (digits.foldl (fun n d => 10 * n + (d.toNat - 48)) 0 : Nat)
      else none
  | _ => none

/-- The members of an object under the texts of their names; none if a name stands for no
text. -/
def namedMembers : List (Bytes × Json) → Option (List (String × Json))
  | [] => some []
  | m :: ms => do
    let name ← textOf m.1
    return (name, m.2) :: (← namedMembers ms)

end Json

end Showroom
