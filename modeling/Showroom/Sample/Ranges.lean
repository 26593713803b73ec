import Showroom.Sample.Laptop

/-!
# Showroom.Sample.Ranges

What can be relied on in random parts: the ranges of their numbers.
-/

namespace Showroom.Sample

/-- Whether a number lies between two counts of halves, both included. -/
def isWithin (first last : Nat) (x : Binary64) : Bool :=
  !x.isNaN && !x.lt (halves first) && !(halves last).lt x

/-- Whether a range of clock rates is the right way round and lies between two counts of halves. -/
def clocksFit (first last : Nat) (minGhz maxGhz : Binary64) : Bool :=
  isWithin first last minGhz && isWithin first last maxGhz && !maxGhz.lt minGhz

def threadsFit (c : Cpu) : Bool := c.cores ≤ c.threads && c.threads ≤ 12

def ssdFits (s : Storage) : Bool := s.memory.any fun m => 128 ≤ m.value && m.value ≤ 1024

/-- Whether a screen has 13 to 17 inches. Positive numbers are ordered as their bits are. -/
def sizeFits (s : Screen) : Bool :=
  (halves 26).toSingle.bits ≤ s.sizeInch.bits && s.sizeInch.bits ≤ (halves 34).toSingle.bits

def resolutionFits (s : Screen) : Bool :=
  s.resolution.any fun r => 1080 ≤ r.height && r.height ≤ 4320 && r.width = r.height * 16 / 9

def priceFits (l : Laptop) : Bool := isWithin 3000 7000 l.priceUsd

def weightFits (l : Laptop) : Bool :=
  match l.weight with
  | some (.kilograms amount) => isWithin 2 6 amount
  | _ => false

end Showroom.Sample
