import Showroom.Bytes

/-!
# Showroom.Text.Base64

Bytes written six bits to a symbol, without padding. Two alphabets are in use; they differ in the
last two symbols. Reading is strict: unused bits of the last symbol must be zero, so every byte
string has exactly one text.

* `Base64.encode`, `Base64.decode`   between bytes and symbols.
* `Base64.Fault`   the first thing wrong with a text that no byte string is written as.
-/

namespace Showroom.Text.Base64

/-- The symbols for 62 and 63; those below are the letters and the digits. -/
structure Alphabet where
  symbol62 : UInt8
  symbol63 : UInt8
deriving DecidableEq, Inhabited

/-- The alphabet that is safe in addresses and headers: `-` and `_`. -/
def urlSafe : Alphabet := ⟨45, 95⟩

def standard : Alphabet := ⟨43, 47⟩

/-- The padding byte `=`, which stands for nothing. -/
def padding : UInt8 := 61

namespace Alphabet

/-- The symbol for a value below 64. -/
def symbol (a : Alphabet) (n : Nat) : UInt8 :=
  if n < 26 then UInt8.ofNat (65 + n)
  else if n < 52 then UInt8.ofNat (71 + n)
  else if n < 62 then UInt8.ofNat (n - 4)
  else if n = 62 then a.symbol62
  else a.symbol63

def value? (a : Alphabet) (b : UInt8) : Option Nat :=
  if 65 ≤ b ∧ b ≤ 90 then some (b.toNat - 65)
  else if 97 ≤ b ∧ b ≤ 122 then some (b.toNat - 71)
  else if 48 ≤ b ∧ b ≤ 57 then some (b.toNat + 4)
  else if b = a.symbol62 then some 62
  else if b = a.symbol63 then some 63
  else none

end Alphabet

/-- Why symbols stand for no bytes. -/
inductive Fault where
  | badSymbol (symbol : UInt8) (offset : Nat)
  /-- Bits of the last symbol that belong to no byte are set. -/
  | badLastSymbol (symbol : UInt8) (offset : Nat)
  | badLength (length : Nat)
  | badPadding
deriving DecidableEq, Inhabited

namespace Fault

def message : Fault → String
  | badSymbol symbol offset =>
    "Invalid symbol " ++ toString symbol.toNat ++ ", offset " ++ toString offset ++ "."
  | badLastSymbol symbol offset =>
    "Invalid last symbol " ++ toString symbol.toNat ++ ", offset " ++ toString offset ++ "."
  | badLength length => "Invalid input length: " ++ toString length
  | badPadding => "Invalid padding"

end Fault

def encode (a : Alphabet) : Bytes → Bytes
  | [] => []
  | [x] => [a.symbol (x.toNat / 4), a.symbol (x.toNat % 4 * 16)]
  | [x, y] =>
    [a.symbol (x.toNat / 4), a.symbol (x.toNat % 4 * 16 + y.toNat / 16),
      a.symbol (y.toNat % 16 * 4)]
  | x :: y :: z :: rest =>
    a.symbol (x.toNat / 4) :: a.symbol (x.toNat % 4 * 16 + y.toNat / 16) ::
      a.symbol (y.toNat % 16 * 4 + z.toNat / 64) :: a.symbol (z.toNat % 64) :: encode a rest

/-- The value of the symbol at an offset; padding is no symbol. -/
def symbolAt (a : Alphabet) (offset : Nat) (b : UInt8) : Except Fault Nat :=
  match a.value? b with
  | some n => .ok n
  | none => .error (.badSymbol b offset)

/-- Splits the last group of up to four symbols into values and padding. Padding may only stand
at the end, and not before the third place. -/
def readLastGroup (a : Alphabet) (offset : Nat) (bs : Bytes) : Except Fault (List Nat × Nat) :=
  let symbols := bs.takeWhile (· ≠ padding)
  let rest := bs.dropWhile (· ≠ padding)
  match symbols.zipIdx.mapM fun p => symbolAt a (offset + p.2) p.1 with
  | .error f => .error f
  | .ok values =>
    if rest.isEmpty then .ok (values, 0)
    else if symbols.length < 2 then .error (.badSymbol padding (offset + symbols.length))
    else if rest.all (· = padding) then .ok (values, rest.length)
    else .error (.badSymbol padding (offset + symbols.length))

/-- The bytes of the last group, given the values of its symbols. -/
def lastBytes (offset : Nat) (last : UInt8) : List Nat → Except Fault Bytes
  | [a, b] =>
    if b % 16 = 0 then .ok [UInt8.ofNat (a * 4 + b / 16)]
    else .error (.badLastSymbol last (offset + 1))
  | [a, b, c] =>
    if c % 4 = 0 then .ok [UInt8.ofNat (a * 4 + b / 16), UInt8.ofNat (b % 16 * 16 + c / 4)]
    else .error (.badLastSymbol last (offset + 2))
  | [a, b, c, d] =>
    .ok [UInt8.ofNat (a * 4 + b / 16), UInt8.ofNat (b % 16 * 16 + c / 4),
      UInt8.ofNat (c % 4 * 64 + d)]
  | values => .error (.badLength (offset + values.length))

/-- Reads groups of four symbols up to the last group, which may be shorter. -/
def decodeFrom (a : Alphabet) (offset : Nat) : Bytes → Except Fault Bytes
  | w :: x :: y :: z :: next :: rest => do
    let w ← symbolAt a offset w
    let x ← symbolAt a (offset + 1) x
    let y ← symbolAt a (offset + 2) y
    let z ← symbolAt a (offset + 3) z
    let more ← decodeFrom a (offset + 4) (next :: rest)
    return UInt8.ofNat (w * 4 + x / 16) :: UInt8.ofNat (x % 16 * 16 + y / 4)
      :: UInt8.ofNat (y % 4 * 64 + z) :: more
  | [] => .ok []
  | group => do
    let (values, pads) ← readLastGroup a offset group
    if values.length < 2 then throw (.badLength (offset + values.length))
    if pads ≠ 0 then throw .badPadding
    lastBytes offset ((group.getLast?).getD 0) values

/-- The bytes that symbols stand for. A text with one symbol too many whose last byte is no symbol
is refused for that byte. -/
def decode (a : Alphabet) (bs : Bytes) : Except Fault Bytes :=
  match bs.getLast? with
  | some last =>
    if bs.length % 4 = 1 ∧ last ≠ padding ∧ a.value? last = none then
      .error (.badSymbol last (bs.length - 1))
    else decodeFrom a 0 bs
  | none => .ok []

end Showroom.Text.Base64
