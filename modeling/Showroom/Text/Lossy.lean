import Showroom.Bytes

/-!
# Showroom.Text.Lossy

Bytes as text, whatever they are. Where they are not UTF-8, a replacement character stands for the
longest piece that could have begun a character, or for one byte if there is none.
-/

namespace Showroom.Text

def replacement : Char := '\ufffd'

/-- A character of which some bytes have come: their bits, how many bytes are missing, and between
which bytes the next one has to be. -/
structure Begun where
  bits : Nat
  missing : Nat
  least : UInt8
  most : UInt8
deriving DecidableEq, Inhabited

/-- The first byte of a character that takes several. What the second may be excludes characters that
take fewer bytes, halves of surrogate pairs, and numbers above all characters. -/
def begun? (b : UInt8) : Option Begun :=
  if b < 0xc2 then none
  else if b < 0xe0 then some ⟨b.toNat - 0xc0, 1, 0x80, 0xbf⟩
  else if b < 0xf0 then
    some ⟨b.toNat - 0xe0, 2, if b = 0xe0 then 0xa0 else 0x80, if b = 0xed then 0x9f else 0xbf⟩
  else if b < 0xf5 then
    some ⟨b.toNat - 0xf0, 3, if b = 0xf0 then 0x90 else 0x80, if b = 0xf4 then 0x8f else 0xbf⟩
  else none

/-- Reads a byte with which a character begins: the characters that are complete with it, and one that
is not. -/
def readFirst (b : UInt8) : List Char × Option Begun :=
  if b < 0x80 then ([Char.ofNat b.toNat], none)
  else match begun? b with
    | some begun => ([], some begun)
    | none => ([replacement], none)

/-- Reads a byte after the first bytes of a character. If it does not belong to that character,
another one begins with it. -/
def readNext (begun : Begun) (b : UInt8) : List Char × Option Begun :=
  if begun.least ≤ b ∧ b ≤ begun.most then
    let bits := begun.bits * 64 + (b.toNat - 0x80)
    if begun.missing = 1 then ([Char.ofNat bits], none)
    else ([], some ⟨bits, begun.missing - 1, 0x80, 0xbf⟩)
  else (replacement :: (readFirst b).1, (readFirst b).2)

/-- Reads bytes, after the first bytes of a character or after none. -/
def readLossy : Option Begun → Bytes → List Char
  | none, [] => []
  | some _, [] => [replacement]
  | none, b :: bs => (readFirst b).1 ++ readLossy (readFirst b).2 bs
  | some begun, b :: bs => (readNext begun b).1 ++ readLossy (readNext begun b).2 bs

/-- The text that bytes are, with replacements where they are none. -/
def ofBytes (bs : Bytes) : String := String.ofList (readLossy none bs)

end Showroom.Text
