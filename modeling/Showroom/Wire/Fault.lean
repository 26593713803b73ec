/-!
# Showroom.Wire.Fault

Why bytes are not a message, and in which field that was found.
-/

namespace Showroom.Wire

/-- How the value of a record is delimited. -/
inductive WireType where
  | varint
  | sixtyFourBit
  | lengthDelimited
  | startGroup
  | endGroup
  | thirtyTwoBit
deriving DecidableEq, Inhabited

namespace WireType

def ofCode? : Nat → Option WireType
  | 0 => some varint
  | 1 => some sixtyFourBit
  | 2 => some lengthDelimited
  | 3 => some startGroup
  | 4 => some endGroup
  | 5 => some thirtyTwoBit
  | _ => none

def code : WireType → Nat
  | varint => 0
  | sixtyFourBit => 1
  | lengthDelimited => 2
  | startGroup => 3
  | endGroup => 4
  | thirtyTwoBit => 5

def name : WireType → String
  | varint => "Varint"
  | sixtyFourBit => "SixtyFourBit"
  | lengthDelimited => "LengthDelimited"
  | startGroup => "StartGroup"
  | endGroup => "EndGroup"
  | thirtyTwoBit => "ThirtyTwoBit"

end WireType

inductive Cause where
  | invalidVarint
  | keyTooLarge (key : Nat)
  | unknownWireType (code : Nat)
  | zeroFieldNumber
  | wrongWireType (found expected : WireType)
  | tooFewBytes
  /-- The fields of a nested message end beyond its length. -/
  | beyondLength
  | notUtf8
  | unexpectedEndGroup
  | tooDeep
  | unknownEnumCode
deriving DecidableEq, Inhabited

/-- A cause, and the fields around it from the innermost out. -/
structure Fault where
  cause : Cause
  path : List (String × String) := []
deriving DecidableEq, Inhabited

namespace Cause

def message : Cause → String
  | invalidVarint => "invalid varint"
  | keyTooLarge key => s!"invalid key value: {key}"
  | unknownWireType code => s!"invalid wire type value: {code}"
  | zeroFieldNumber => "invalid tag value: 0"
  | wrongWireType found expected =>
    "invalid wire type: " ++ found.name ++ " (expected " ++ expected.name ++ ")"
  | tooFewBytes => "buffer underflow"
  | beyondLength => "delimited length exceeded"
  | notUtf8 => "invalid string value: data is not UTF-8 encoded"
  | unexpectedEndGroup => "unexpected end group tag"
  | tooDeep => "recursion limit reached"
  | unknownEnumCode => "invalid enumeration value"

end Cause

namespace Fault

/-- The same fault seen from the message whose field was being read. -/
def within (message field : String) (f : Fault) : Fault :=
  { f with path := f.path ++ [(message, field)] }

def message (f : Fault) : String :=
  "failed to decode Protobuf message: "
    ++ String.join (f.path.map fun place => place.1 ++ "." ++ place.2 ++ ": ")
    ++ f.cause.message

end Fault

end Showroom.Wire
