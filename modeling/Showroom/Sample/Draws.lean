import Showroom.Binary64
import Showroom.Uuid

/-!
# Showroom.Sample.Draws

Random choices. They are made from an endless supply of random words, of which each choice uses up
some; the same supply always leads to the same choices.

* `Draws.ofSeed`   a supply from one word.
* `below`, `between`, `oneOf`, `coin`, `doubleBetween`, `identifier`   the choices.
-/

namespace Showroom

/-- A supply of random words, and how many of them have been used. -/
structure Draws where
  word : Nat → UInt64
  used : Nat := 0
deriving Inhabited

abbrev Sampler := StateM Draws

def scatter (x : UInt64) : UInt64 :=
  let x := (x ^^^ (x >>> 30)) * 0xbf58476d1ce4e5b9
  let x := (x ^^^ (x >>> 27)) * 0x94d049bb133111eb
  x ^^^ (x >>> 31)

/-- A supply from one word: multiples of an odd number, scattered. -/
def Draws.ofSeed (seed : UInt64) : Draws :=
  { word := fun n => scatter (seed + (UInt64.ofNat n + 1) * 0x9e3779b97f4a7c15) }

namespace Sample

def word : Sampler UInt64 := fun d => (d.word d.used, { d with used := d.used + 1 })

/-- A number below another, and 0 if there is none. -/
def below (n : Nat) : Sampler Nat := do
  let w ← word
  return w.toNat * n / UInt64.size

/-- A number from the first to the second, both included. -/
def between (first last : Nat) : Sampler Nat := do
  let n ← below (last - first + 1)
  return first + n

def oneOf {α : Type} [Inhabited α] (xs : List α) : Sampler α := do
  let n ← below xs.length
  return xs.getD n default

def coin : Sampler Bool := do
  let n ← below 2
  return n = 1

/-- A number from 1, included, to 2, excluded: 52 bits of a word after the point. -/
def oneAnd (w : UInt64) : Binary64 := ⟨(0x3ff0000000000000 : UInt64) ||| (w >>> 12)⟩

/-- A number from 0, included, to 1, excluded. -/
def fraction : Sampler Binary64 := do
  let w ← word
  return (oneAnd w).sub (oneAnd 0)

/-- A number from the first, included, to the last, excluded; the first if there is none between
them. -/
def doubleBetween (first last : Binary64) : Sampler Binary64 :=
  if first.lt last then do
    let f ← fraction
    let x := (f.mul (last.sub first)).add first
    return if x.lt last then x else first
  else pure first

def identifier : Sampler Uuid := do
  let high ← word
  let low ← word
  return Uuid.random (high.toBitVec ++ low.toBitVec)

end Sample

end Showroom
