import Showroom.Bytes

/-!
# Showroom.Text.Percent

Text made safe for a header: every byte that is not plain printable ASCII is written as a percent
sign and two upper-case hexadecimal digits. The percent sign itself stays as it is.
-/

namespace Showroom.Text.Percent

/-- Printable bytes that are escaped all the same: space and ``"#<>?`{}``. -/
def reserved : Bytes := [32, 34, 35, 60, 62, 63, 96, 123, 125]

def isPlain (b : UInt8) : Bool := 32 ≤ b && b < 127 && !reserved.contains b

/-- The upper-case digit of a value below sixteen. -/
def hexDigit (n : Nat) : Char := if n < 10 then Char.ofNat (48 + n) else Char.ofNat (55 + n)

def escape (b : UInt8) : List Char :=
  if isPlain b then [Char.ofNat b.toNat]
  else ['%', hexDigit (b.toNat / 16), hexDigit (b.toNat % 16)]

def encode (s : String) : String := String.ofList ((Bytes.ofText s).flatMap escape)

end Showroom.Text.Percent
