import Showroom.Binary64
import Showroom.Text.Decimal

/-!
# Showroom.Binary64.Decimal

Doubles in decimal. A double is written with the fewest digits that are read back as the same
double, of those with the digits nearest to it, and without an exponent. All work is done in whole
numbers: a finite double is `m * 2 ^ q`, and the numbers nearer to it than to its neighbours are
those between two halves of such numbers.

* `Binary64.decimal`   writes a double.
* `Binary64.ofDecimal?`   reads one.
* `Binary64.roundToUInt64`   the nearest 64-bit whole number.
-/

namespace Showroom.Binary64

def twoTo (n : Nat) : Nat := Nat.pow 2 n

def tenTo (n : Nat) : Nat := Nat.pow 10 n

def fraction (x : Binary64) : Nat := x.bits.toNat % 0x10000000000000

def exponentBits (x : Binary64) : Nat := x.bits.toNat / 0x10000000000000 % 2048

/-- The factor `m` of a finite number `m * 2 ^ q`. -/
def mantissa (x : Binary64) : Nat :=
  if x.exponentBits = 0 then x.fraction else 0x10000000000000 + x.fraction

/-- The exponent `q` of a finite number `m * 2 ^ q`, with 1074 added to it. -/
def shift (x : Binary64) : Nat := x.exponentBits - 1

/-- The magnitude of a finite number over `2 ^ 1076`: four times its units, so that the halves
between it and its neighbours are whole. -/
def quarters (x : Binary64) : Nat := 4 * x.mantissa * twoTo x.shift

/-- Half the way down to the next smaller magnitude. -/
def lowerHalf (x : Binary64) : Nat :=
  if x.fraction = 0 ∧ 1 < x.exponentBits then twoTo x.shift else 2 * twoTo x.shift

def upperHalf (x : Binary64) : Nat := 2 * twoTo x.shift

/-- What all of this counts in: quarters of the smallest double. -/
def one : Nat := twoTo 1076

/-- Whether `n * 10 ^ k / 10 ^ j` is read back as the number. The number itself wins a tie if its
last bit is zero. -/
def reads (x : Binary64) (n k j : Nat) : Bool :=
  let v := n * tenTo k * one
  let low := (x.quarters - x.lowerHalf) * tenTo j
  let high := (x.quarters + x.upperHalf) * tenTo j
  if x.mantissa % 2 = 0 then low ≤ v && v ≤ high else low < v && v < high

/-- The least place, up to `fuel`, at which ten to that power exceeds `n / d`. -/
def placesAbove : (fuel n d : Nat) → Nat
  | 0, _, _ => 0
  | fuel + 1, n, d => if n < d then 0 else 1 + placesAbove fuel n (10 * d)

/-- How many times `n / d` can be multiplied by ten, up to `fuel`, and stay below one. -/
def placesBelow : (fuel n d : Nat) → Nat
  | 0, _, _ => 0
  | fuel + 1, n, d => if 10 * n < d then 1 + placesBelow fuel (10 * n) d else 0

/-- The digits of a number as a whole number `n * 10 ^ k / 10 ^ j`. -/
structure Digits where
  number : Nat
  up : Nat
  down : Nat
deriving DecidableEq, Inhabited

/-- The better of the two numbers of `count` digits around a number, if one of them is read back; of
two equally good ones the larger.
The number is below ten to the power `above - below`. -/
def withDigits? (x : Binary64) (above below count : Nat) : Option Digits :=
  let up := above - below - count
  let down := below + count - above
  let scaled := x.quarters * tenTo down
  let unit := one * tenTo up
  let n := scaled / unit
  let upper := decide (unit ≤ 2 * (scaled % unit))
  let nearer := if upper then n + 1 else n
  let other := if upper then n else n + 1
  if x.reads nearer up down then some ⟨nearer, up, down⟩
  else if x.reads other up down then some ⟨other, up, down⟩
  else none

def shortest (x : Binary64) : Digits :=
  let above := placesAbove 400 x.quarters one
  let below := if above = 0 then placesBelow 400 x.quarters one else 0
  ((List.range 17).findSome? fun i => x.withDigits? above below (i + 1)).getD ⟨0, 0, 0⟩

/-- Digits in front of and behind a decimal point. -/
def Digits.text (d : Digits) : List Char :=
  if d.down = 0 then Text.Decimal.digits (d.number * tenTo d.up)
  else
    let whole := Text.Decimal.digits (d.number / tenTo d.down)
    let rest := Text.Decimal.digits (d.number % tenTo d.down)
    let places := (List.replicate (d.down - rest.length) '0' ++ rest).reverse.dropWhile (· = '0')
    if places.isEmpty then whole else whole ++ '.' :: places.reverse

def decimal (x : Binary64) : List Char :=
  if !x.isFinite then x.specialName.toList
  else
    (if x.isNegative then ['-'] else [])
      ++ (if x.isZero then ['0'] else x.shortest.text)

/-- The decimal text with a point even if nothing follows it. -/
def pointed (x : Binary64) : List Char :=
  if x.isFinite && !x.decimal.contains '.' then x.decimal ++ ['.', '0'] else x.decimal

def neg (x : Binary64) : Binary64 := ⟨x.bits ^^^ 0x8000000000000000⟩

def nan : Binary64 := ⟨0x7ff8000000000000⟩

/-- The double nearest to `n * 10 ^ e`. -/
def ofScientific (n : Nat) (e : Int) : Binary64 :=
  if n = 0 then zero
  else if 400 < e then infinity
  else if e + (Text.Decimal.digits n).length < -400 then zero
  else ⟨(Float.ofScientific n (e < 0) e.natAbs).toBits⟩

/-- A whole number with or without a sign. -/
def readExponent : List Char → Option Int
  | '-' :: cs => (Text.Decimal.read? cs).map fun n => -(n : Int)
  | '+' :: cs => (Text.Decimal.read? cs).map fun n => (n : Int)
  | cs => (Text.Decimal.read? cs).map fun n => (n : Int)

/-- A number without sign: digits with or without a point, and perhaps an exponent. -/
def readUnsigned (cs : List Char) : Option Binary64 :=
  let whole := cs.takeWhile Text.Decimal.isDigit
  let rest := cs.dropWhile Text.Decimal.isDigit
  let (places, rest) := match rest with
    | '.' :: rest => (rest.takeWhile Text.Decimal.isDigit, rest.dropWhile Text.Decimal.isDigit)
    | _ => ([], rest)
  if whole.isEmpty && places.isEmpty then none
  else
    let n := Text.Decimal.value (whole ++ places)
    match rest with
    | [] => some (ofScientific n (-(places.length : Int)))
    | c :: rest =>
      if c = 'e' ∨ c = 'E' then
        (readExponent rest).map fun e => ofScientific n (e - (places.length : Int))
      else none

/-- The names of numbers that are not finite, in any case. -/
def readName (cs : List Char) : Option Binary64 :=
  let name := String.ofList (cs.map Char.toLower)
  if name = "inf" ∨ name = "infinity" then some infinity
  else if name = "nan" then some nan
  else none

def ofDecimal? : List Char → Option Binary64
  | '-' :: cs => ((readName cs).or (readUnsigned cs)).map neg
  | '+' :: cs => (readName cs).or (readUnsigned cs)
  | cs => (readName cs).or (readUnsigned cs)

/-- The nearest 64-bit whole number, a half going up. Numbers below zero give zero, numbers that
are too large the largest one, and what is not a number zero. -/
def roundToUInt64 (x : Binary64) : UInt64 :=
  if x.isNaN || x.isNegative then 0
  else if !x.isFinite then UInt64.ofNat (UInt64.size - 1)
  else UInt64.ofNat (min ((x.quarters + one / 2) / one) (UInt64.size - 1))

end Showroom.Binary64
