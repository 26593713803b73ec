import Showroom.Bytes

/-!
# Showroom.Call.Metadata

What accompanies a call beside its messages: named values, in the order in which they were added.
Names do not depend on case and are kept in lower case; a name may have several values. A value
is any byte string, and counts as text only if all its bytes are printable ASCII or tabs.

* `Metadata.set`   gives a name one value in place of all it had.
-/

namespace Showroom

structure Metadata where
  entries : List (String × Bytes) := []
deriving DecidableEq, Inhabited

namespace Metadata

def nameOf (name : String) : String := name.map Char.toLower

def ofList (entries : List (String × Bytes)) : Metadata :=
  ⟨entries.map fun e => (nameOf e.1, e.2)⟩

/-- The values of a name, in order. -/
def values (m : Metadata) (name : String) : List Bytes :=
  (m.entries.filter fun e => e.1 = name).map (·.2)

def size (m : Metadata) : Nat := m.entries.length

/-- Gives a name one value in place of all it had. -/
def set (m : Metadata) (name : String) (value : Bytes) : Metadata :=
  ⟨(m.entries.filter fun e => e.1 ≠ name) ++ [(name, value)]⟩

def isTextByte (b : UInt8) : Bool := b = 9 || (32 ≤ b && b < 127)

def text? (value : Bytes) : Option (List Char) :=
  if value.all isTextByte then some (value.map fun b => Char.ofNat b.toNat) else none

/-- Whether bytes can be sent as a value: no control byte but tab. -/
def isValue (bs : Bytes) : Bool := bs.all fun b => b = 9 || (32 ≤ b && b ≠ 127)

end Metadata

end Showroom
