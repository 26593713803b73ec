import Showroom.Wire.Entry
import Showroom.Wire.Schema

/-!
# Showroom.Wire.Reader

Reads the fields of a message from bytes, by the fields that its type declares.

The length of a nested message does not cut its bytes out beforehand: its fields are read from
all that follows, and only then is it checked that they ended where the length says. A field that
the type does not declare is skipped. Nested messages and the fields of skipped groups use up
depth, of which there are a hundred levels.

* `readRecord`   one field, declared or skipped.
* `readMessage`   all fields of a message.
-/

namespace Showroom.Wire

/-- How many levels messages and skipped groups may nest. -/
def depthLimit : Nat := 100

def readVarint (bs : Bytes) : Except Fault (Nat × Bytes) :=
  match Varint.read bs with
  | some r => .ok r
  | none => .error { cause := .invalidVarint }

/-- Field number and wire type of the next record. -/
def readKey (bs : Bytes) : Except Fault ((Nat × WireType) × Bytes) := do
  let (key, rest) ← readVarint bs
  if UInt32.size ≤ key then throw { cause := .keyTooLarge key }
  match WireType.ofCode? (key % 8) with
  | none => throw { cause := .unknownWireType (key % 8) }
  | some wire =>
    if key / 8 = 0 then throw { cause := .zeroFieldNumber }
    return ((key / 8, wire), rest)

def take (n : Nat) (bs : Bytes) : Except Fault (Bytes × Bytes) :=
  if bs.length < n then .error { cause := .tooFewBytes } else .ok (bs.splitAt n)

/-- A length that the bytes left can serve, and those bytes. -/
def readLength (bs : Bytes) : Except Fault (Nat × Bytes) := do
  let (n, rest) ← readVarint bs
  if rest.length < n then throw { cause := .tooFewBytes }
  return (n, rest)

def readDelimited (bs : Bytes) : Except Fault (Bytes × Bytes) := do
  let (n, rest) ← readLength bs
  return rest.splitAt n

/-- Skips records up to the end of the group with this number. There are never more records than
bytes, so `fuel` is the number of bytes. -/
def skipGroup (skipValue : WireType → Nat → Bytes → Except Fault Bytes) (number : Nat) :
    (fuel : Nat) → Bytes → Except Fault Bytes
  | 0, _ => .error { cause := .invalidVarint }
  | fuel + 1, bs => do
    let ((inner, wire), rest) ← readKey bs
    match wire with
    | .endGroup =>
      if inner = number then return rest else throw { cause := .unexpectedEndGroup }
    | _ =>
      let after ← skipValue wire inner rest
      skipGroup skipValue number fuel after

/-- Skips the value of a record that is of no interest. -/
def skip : (depth : Nat) → WireType → Nat → Bytes → Except Fault Bytes
  | 0, _, _, _ => .error { cause := .tooDeep }
  | depth + 1, wire, number, bs =>
    match wire with
    | .varint => do return (← readVarint bs).2
    | .sixtyFourBit => do return (← take 8 bs).2
    | .lengthDelimited => do return (← readDelimited bs).2
    | .startGroup => skipGroup (skip depth) number bs.length bs
    | .endGroup => .error { cause := .unexpectedEndGroup }
    | .thirtyTwoBit => do return (← take 4 bs).2

def FieldKind.wire : FieldKind → WireType
  | varint => .varint
  | fixed64 => .sixtyFourBit
  | fixed32 => .thirtyTwoBit
  | text => .lengthDelimited
  | bytes => .lengthDelimited
  | message _ => .lengthDelimited

/-- Reads records until at most `limit` bytes are left. There are never more records than bytes,
so `fuel` is the number of bytes. -/
def readRecords (readOne : Bytes → Except Fault (List Entry × Bytes)) (limit : Nat) :
    (fuel : Nat) → Bytes → Except Fault (List Entry × Bytes)
  | 0, bs => .ok ([], bs)
  | fuel + 1, bs =>
    if bs.length ≤ limit then .ok ([], bs)
    else do
      let (entries, rest) ← readOne bs
      let (more, last) ← readRecords readOne limit fuel rest
      return (entries ++ more, last)

/-- Reads the fields of a nested message after its length, each with `readOne`. -/
def readNested (readOne : Bytes → Except Fault (List Entry × Bytes)) (bs : Bytes) :
    Except Fault (List Entry × Bytes) := do
  let (n, rest) ← readLength bs
  let limit := rest.length - n
  let (entries, last) ← readRecords readOne limit rest.length rest
  if last.length ≠ limit then throw { cause := .beyondLength }
  return (entries, last)

/-- Reads the value of a declared field; `readInner` reads a nested message. -/
def readValue (readInner : MessageType → Bytes → Except Fault (List Entry × Bytes)) (number : Nat) :
    FieldKind → Bytes → Except Fault (Entry × Bytes)
  | .varint, bs => do
    let (value, rest) ← readVarint bs
    return (.varint number (UInt64.ofNat value), rest)
  | .fixed64, bs => do
    let (bits, rest) ← take 8 bs
    return (.fixed64 number (UInt64.ofNat (Bytes.toNatLE bits)), rest)
  | .fixed32, bs => do
    let (bits, rest) ← take 4 bs
    return (.fixed32 number (UInt32.ofNat (Bytes.toNatLE bits)), rest)
  | .text, bs => do
    let (bytes, rest) ← readDelimited bs
    match Bytes.toText? bytes with
    | some value => return (.text number value, rest)
    | none => throw { cause := .notUtf8 }
  | .bytes, bs => do
    let (value, rest) ← readDelimited bs
    return (.bytes number value, rest)
  | .message inner, bs => do
    let (entries, rest) ← readInner inner bs
    return (.message number entries, rest)

/-- Reads the next record of a message: the field it holds, or none if it is skipped. -/
def readRecord (depth : Nat) (type : MessageType) (bs : Bytes) :
    Except Fault (List Entry × Bytes) := do
  let ((number, wire), rest) ← readKey bs
  match type.field? number with
  | none => return ([], ← skip depth wire number rest)
  | some field => Except.mapError (Fault.within type.name field.name) <|
    if wire ≠ field.kind.wire then .error { cause := .wrongWireType wire field.kind.wire }
    else do
      let readInner (inner : MessageType) (bs : Bytes) : Except Fault (List Entry × Bytes) :=
        match depth with
        | 0 => .error { cause := .tooDeep }
        | depth + 1 => readNested (readRecord depth inner) bs
      let (entry, rest) ← readValue readInner number field.kind rest
      return ([entry], rest)

/-- The fields of a message that takes up all the bytes. -/
def readMessage (type : MessageType) (bs : Bytes) : Except Fault (List Entry) := do
  return (← readRecords (readRecord depthLimit type) 0 bs.length bs).1

end Showroom.Wire
