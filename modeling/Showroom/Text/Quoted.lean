import Showroom.Text.Hidden

/-!
# Showroom.Text.Quoted

Text in double quotes for messages. A quote, a backslash and the common control characters are
written with a backslash; every other character that would not show is written by its number.
-/

namespace Showroom.Text

/-- Lower-case hexadecimal digits of a number, without leading zeros. -/
def hexNumber (n : Nat) : List Char := Nat.toDigits 16 n

def quotedChar (c : Char) : List Char :=
  if c = '"' then ['\\', '"']
  else if c = '\\' then ['\\', '\\']
  else if c = '\n' then ['\\', 'n']
  else if c = '\r' then ['\\', 'r']
  else if c = '\t' then ['\\', 't']
  else if c = '\x00' then ['\\', '0']
  else if isHidden c then ['\\', 'u', '\x7b'] ++ hexNumber c.toNat ++ ['\x7d']
  else [c]

def quoted (s : String) : String :=
  String.ofList ('"' :: s.toList.flatMap quotedChar ++ ['"'])

end Showroom.Text
