/-!
# Showroom.Text.Decimal

Whole numbers written in decimal digits.

* `Decimal.digits`   the digits of a number, without leading zeros.
* `Decimal.value`   the number that digits stand for.
-/

namespace Showroom.Text.Decimal

def isDigit (c : Char) : Bool := '0' ≤ c && c ≤ '9'

def digitChar (d : Nat) : Char := Char.ofNat (48 + d)

def digitValue (c : Char) : Nat := c.toNat - 48

/-- The digits of a number, the most significant first. -/
def digits (n : Nat) : List Char :=
  if n < 10 then [digitChar n] else digits (n / 10) ++ [digitChar (n % 10)]
termination_by n

/-- The digits of a number after a minus sign if it is negative. -/
def signed (n : Int) : List Char :=
  if n < 0 then '-' :: digits n.natAbs else digits n.natAbs

def value (cs : List Char) : Nat := cs.foldl (fun n c => 10 * n + digitValue c) 0

/-- The number that a text of one or more digits stands for. -/
def read? (cs : List Char) : Option Nat :=
  if cs.isEmpty then none else if cs.all isDigit then some (value cs) else none

end Showroom.Text.Decimal
