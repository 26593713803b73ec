import Showroom.Binary64.Decimal
import Showroom.Json.Value

/-!
# Showroom.Json.Passage

How far a reader gets with a well-formed value that it has to understand. It does not understand a
number that is too large, a string that stands for no text, or a value in too many others. It can
still go on if it comes to rest behind the value, and that needs luck: what is not understood has to
be the last thing in everything around it.

* `Json.passage`       for a reader that wants all of a value.
* `Json.timePassage`   for one that wants a number.
-/

namespace Showroom.Json

/-- Whether a value is understood, and if not, whether the reader is past it all the same. -/
inductive Passage where
  | read
  | passed
  | stuck
deriving DecidableEq, Inhabited

/-- Appends digits to a number as long as it fits in 64 bits: the number, and the digits that are
left. -/
def takeDigits : (significand : Nat) → Bytes → Nat × Bytes
  | n, [] => (n, [])
  | n, d :: ds =>
    let next := 10 * n + (d.toNat - 48)
    if next < UInt64.size then takeDigits next ds else (n, d :: ds)

/-- Appends digits to an exponent as long as it fits in 31 bits: the exponent, and the digits that
are left. -/
def takeExponent : (exponent : Nat) → Bytes → Nat × Bytes
  | n, [] => (n, [])
  | n, d :: ds =>
    let next := 10 * n + (d.toNat - 48)
    if next < 0x80000000 then takeExponent next ds else (n, d :: ds)

/-- Whether `significand * 10 ^ exponent` goes beyond all doubles. -/
def isTooLarge (significand : Nat) (exponent : Int) : Bool :=
  significand ≠ 0 &&
    (308 < exponent || (0 ≤ exponent &&
      !((Binary64.ofScientific significand 0).mul (Binary64.ofScientific 1 exponent)).isFinite))

/-- The passage through a number without an exponent. -/
def scaledPassage (significand : Nat) (exponent : Int) : Passage :=
  if isTooLarge significand exponent then .passed else .read

/-- The passage through the exponent of a number, which is given up at the digit that makes it too
large. -/
def exponentPassage (significand : Nat) (exponent : Int) (bs : Bytes) : Passage :=
  let (sign, digits) := readSign bs
  let isNegative := sign == [45]
  match takeExponent 0 digits with
  | (n, []) => scaledPassage significand (if isNegative then exponent - n else exponent + n)
  | (_, left) =>
    if significand = 0 || isNegative then .read
    else if left.length = 1 then .passed
    else .stuck

def numberPassage (literal : Bytes) : Passage :=
  let digits := match literal with
    | 45 :: ds => ds
    | ds => ds
  let (significand, left) := takeDigits 0 (digits.takeWhile isDigit)
  let rest := digits.dropWhile isDigit
  let (significand, exponent, rest) := match rest with
    | 46 :: bs =>
      let places := bs.takeWhile isDigit
      let (n, unread) := takeDigits significand places
      (n, (left.length : Int) - (places.length - unread.length : Nat), bs.dropWhile isDigit)
    | bs => (significand, (left.length : Int), bs)
  match rest with
  | [] => scaledPassage significand exponent
  | _ :: bs => exponentPassage significand exponent bs

/-- The passage through the escapes of a string. One half of a character that is written as two
numbers takes the next byte with it, which at the end of the string is the closing quote. -/
def escapesPassage : Bytes → Passage
  | [] => .read
  | 92 :: 117 :: a :: b :: c :: d :: rest =>
    let n := hexQuad a b c d
    if 0xdc00 ≤ n ∧ n < 0xe000 then .stuck
    else if 0xd800 ≤ n ∧ n < 0xdc00 then
      match rest with
      | [] => .passed
      | 92 :: 117 :: a :: b :: c :: d :: rest =>
        let m := hexQuad a b c d
        if 0xdc00 ≤ m ∧ m < 0xe000 then escapesPassage rest else .stuck
      | _ => .stuck
    else escapesPassage rest
  | 92 :: _ :: rest => escapesPassage rest
  | _ :: rest => escapesPassage rest

def stringPassage (raw : Bytes) : Passage :=
  match escapesPassage raw with
  | .read => if (textOf raw).isSome then .read else .passed
  | p => p

/-- The passage through something that is the last of its kind or not. -/
def Passage.within (p : Passage) (isLast : Bool) (rest : Passage) : Passage :=
  match p with
  | read => rest
  | passed => if isLast then passed else stuck
  | stuck => stuck

mutual

/-- The passage through a value; `room` is how many lists and objects may still be opened. -/
def passage (room : Nat) : Json → Passage
  | number literal => numberPassage literal
  | string raw => stringPassage raw
  | array items => if room = 0 then .stuck else itemsPassage (room - 1) items
  | object members => if room = 0 then .stuck else membersPassage (room - 1) members
  | _ => .read

def itemsPassage (room : Nat) : List Json → Passage
  | [] => .read
  | v :: vs => (v.passage room).within vs.isEmpty (itemsPassage room vs)

def membersPassage (room : Nat) : List (Bytes × Json) → Passage
  | [] => .read
  | m :: ms =>
    if stringPassage m.1 = .read then (m.2.passage room).within ms.isEmpty (membersPassage room ms)
    else .stuck

end

/-- The passage through a value that should be a number. A list or an object is given up at its
first bracket. -/
def timePassage : Json → Passage
  | number literal => numberPassage literal
  | string raw => (stringPassage raw).within true .passed
  | array items => if items.isEmpty then .passed else .stuck
  | object members => if members.isEmpty then .passed else .stuck
  | _ => .passed

/-- How many lists and objects may be opened in a member of an object that is read. -/
def memberRoom : Nat := 126

end Showroom.Json
