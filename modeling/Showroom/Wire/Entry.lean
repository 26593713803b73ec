import Showroom.Wire.Varint
import Showroom.Wire.Fault

/-!
# Showroom.Wire.Entry

A message as the list of its fields, in the order in which they stand on the wire. A field is
written as a key, made of its number and wire type, and then its value.

* `Entry.renderAll`   the bytes of a list of fields.
-/

namespace Showroom.Wire

/-- One field of a message: its number and its value. -/
inductive Entry where
  | varint (number : Nat) (value : UInt64)
  | fixed64 (number : Nat) (bits : UInt64)
  | fixed32 (number : Nat) (bits : UInt32)
  | text (number : Nat) (value : String)
  | bytes (number : Nat) (value : Bytes)
  | message (number : Nat) (entries : List Entry)
deriving Inhabited

namespace Entry

def key (number : Nat) (wire : WireType) : Bytes := Varint.render (8 * number + wire.code)

def delimited (bs : Bytes) : Bytes := Varint.render bs.length ++ bs

mutual

def render : Entry → Bytes
  | varint number value => key number .varint ++ Varint.render value.toNat
  | fixed64 number bits => key number .sixtyFourBit ++ Bytes.littleEndian 8 bits.toNat
  | fixed32 number bits => key number .thirtyTwoBit ++ Bytes.littleEndian 4 bits.toNat
  | text number value => key number .lengthDelimited ++ delimited (Bytes.ofText value)
  | bytes number value => key number .lengthDelimited ++ delimited value
  | message number entries => key number .lengthDelimited ++ delimited (renderAll entries)

def renderAll : List Entry → Bytes
  | [] => []
  | e :: es => render e ++ renderAll es

end

end Entry

end Showroom.Wire
