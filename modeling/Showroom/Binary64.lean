/-!
# Showroom.Binary64

Double- and single-precision numbers as they are stored and sent: by their bits. Two NaNs with
different payloads are different values here, and a value read from the wire is written back
with the bits it came with.

* `Binary64.lt`   the IEEE-754 order, read off the bits; every comparison with a NaN is false.
* `Binary64.add`, `Binary64.sub`, `Binary64.mul`, `Binary64.div`   correctly rounded arithmetic.
-/

namespace Showroom

/-- A double-precision number, given by its sign, exponent and fraction bits. -/
structure Binary64 where
  bits : UInt64
deriving DecidableEq, Inhabited

/-- A single-precision number, given by its bits. -/
structure Binary32 where
  bits : UInt32
deriving DecidableEq, Inhabited

namespace Binary64

def zero : Binary64 := ⟨0⟩

def infinity : Binary64 := ⟨0x7ff0000000000000⟩

/-- The bits without the sign; on numbers of one sign they are ordered as the numbers are. -/
def magnitude (x : Binary64) : UInt64 := x.bits &&& 0x7fffffffffffffff

def isNegative (x : Binary64) : Bool := 0x8000000000000000 ≤ x.bits

def isNaN (x : Binary64) : Bool := 0x7ff0000000000000 < x.magnitude

/-- Neither infinite nor a NaN. -/
def isFinite (x : Binary64) : Bool := x.magnitude < 0x7ff0000000000000

/-- One of the two zeros. -/
def isZero (x : Binary64) : Bool := x.magnitude = 0

/-- Place on the number line: the two zeros share one, and on everything but NaNs the order of
places is the order of values. -/
def place (x : Binary64) : Int :=
  if x.isNegative then -(x.magnitude.toNat : Int) else (x.magnitude.toNat : Int)

/-- IEEE-754 less-than; false when either side is a NaN. -/
def lt (x y : Binary64) : Bool :=
  !x.isNaN && !y.isNaN && decide (x.place < y.place)

/-- The sum, rounded to nearest with ties to even. -/
def add (x y : Binary64) : Binary64 := ⟨(Float.ofBits x.bits + Float.ofBits y.bits).toBits⟩

/-- The difference, rounded to nearest with ties to even. -/
def sub (x y : Binary64) : Binary64 := ⟨(Float.ofBits x.bits - Float.ofBits y.bits).toBits⟩

/-- The product, rounded to nearest with ties to even. -/
def mul (x y : Binary64) : Binary64 := ⟨(Float.ofBits x.bits * Float.ofBits y.bits).toBits⟩

/-- The quotient, rounded to nearest with ties to even. -/
def div (x y : Binary64) : Binary64 := ⟨(Float.ofBits x.bits / Float.ofBits y.bits).toBits⟩

/-- The double equal to a 32-bit count. -/
def ofUInt32 (n : UInt32) : Binary64 := ⟨n.toFloat.toBits⟩

open Float.Model (Format UnpackedFloat) in
/-- The parts of a number with as many digits as single precision has. -/
def shortened : UnpackedFloat → UnpackedFloat
  | .finite sign digits exponent _ => .round Format.binary32 sign digits exponent
  | u => u

open Float.Model (Format UnpackedFloat) in
/-- The nearest single-precision number, ties to even. A NaN keeps its sign and the leading bits of
its fraction, and becomes quiet. -/
def toSingle (x : Binary64) : Binary32 :=
  if x.isNaN then
    let sign : UInt32 := (x.bits >>> 32).toUInt32 &&& 0x80000000
    let fraction : UInt32 := (x.bits >>> 29).toUInt32 &&& 0x7fffff
    ⟨sign ||| fraction ||| 0x7fc00000⟩
  else
    let parts := UnpackedFloat.unpack Format.binary64 x.bits.toBitVec
    ⟨UInt32.ofBitVec (UnpackedFloat.pack Format.binary32 (shortened parts))⟩

/-- How a number that is not finite is spelled in a message. -/
def specialName (x : Binary64) : String :=
  if x.isNaN then "NaN" else if x.isNegative then "-inf" else "inf"

end Binary64

namespace Binary32

def zero : Binary32 := ⟨0⟩

/-- One of the two zeros. -/
def isZero (x : Binary32) : Bool := x.bits &&& 0x7fffffff = 0

end Binary32

end Showroom
