import Showroom.Bytes

/-!
# Showroom.Json.Writer

Strings as they are written in JSON: quote, backslash and the control characters are escaped, all
other characters stand for themselves.
-/

namespace Showroom.Json

/-- Lower-case digits of a value below sixteen. -/
def hexByte (n : Nat) : UInt8 := UInt8.ofNat (if n < 10 then 48 + n else 87 + n)

/-- How a byte of a text is written inside quotes. -/
def escapeByte (b : UInt8) : Bytes :=
  if b = 34 then [92, 34]
  else if b = 92 then [92, 92]
  else if b = 8 then [92, 98]
  else if b = 12 then [92, 102]
  else if b = 10 then [92, 110]
  else if b = 13 then [92, 114]
  else if b = 9 then [92, 116]
  else if b < 32 then [92, 117, 48, 48, hexByte (b.toNat / 16), hexByte (b.toNat % 16)]
  else [b]

def writeString (s : String) : Bytes := 34 :: (Bytes.ofText s).flatMap escapeByte ++ [34]

end Showroom.Json
