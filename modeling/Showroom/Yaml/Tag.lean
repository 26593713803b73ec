import Showroom.Yaml.Scalar

/-!
# Showroom.Yaml.Tag

Tags, such as `!!int`, and the lines of directives in front of a document. A tag has a handle
between exclamation marks and a suffix, or is spelled out between angle brackets. A percent sign
and two hexadecimal digits stand for a byte of a character in UTF-8.

* `readTag`        a tag, from its exclamation mark on.
* `readDirective`  the rest of a line with a directive, after its percent sign.
-/

namespace Showroom.Yaml

def isNameChar (c : Char) : Bool := c.isAlphanum || c = '_' || c = '-'

def isTagChar (c : Char) : Bool := isNameChar c || ";/?:@&=+$,.!~*'()[]%".toList.contains c

/-- How many bytes a character takes of which this is the first byte. -/
def byteCount? (first : Nat) : Option Nat :=
  if first < 0x80 then some 1
  else if 0xC0 ≤ first ∧ first < 0xE0 then some 2
  else if 0xE0 ≤ first ∧ first < 0xF0 then some 3
  else if 0xF0 ≤ first ∧ first < 0xF8 then some 4
  else none

/-- The byte that a percent sign and two digits at the front of a text stand for. -/
def escapedByte? : List Char → Option Nat
  | '%' :: a :: b :: _ => do return 16 * (← Bytes.hexValue? a) + (← Bytes.hexValue? b)
  | _ => none

/-- Reads `n` more bytes of a character. The bytes of one character are put side by side. -/
def readTailBytes : (n : Nat) → (code : Nat) → List Char → Option Nat
  | 0, code, _ => some code
  | n + 1, code, cs => do
    let b ← escapedByte? cs
    if b < 0x80 ∨ 0xC0 ≤ b then none
    else readTailBytes n (256 * code + b) (cs.drop 3)

/-- Reads an escaped character: the character and how many characters it takes. -/
def readEscapedChar (cs : List Char) : Option (Char × Nat) := do
  let first ← escapedByte? cs
  let count ← byteCount? first
  let code ← readTailBytes (count - 1) first (cs.drop 3)
  return (← charOf? code, 3 * count)

def readTagChars : (fuel : Nat) → List Char → Cursor → Option (List Char × Cursor)
  | 0, _, _ => none
  | fuel + 1, text, c =>
    match c.rest with
    | '%' :: _ =>
      match readEscapedChar c.rest with
      | some (ch, n) => readTagChars fuel (text ++ [ch]) (c.skip n)
      | none => none
    | ch :: _ => if isTagChar ch then readTagChars fuel (text ++ [ch]) c.next else some (text, c)
    | [] => some (text, c)

/-- Reads the characters of a tag to its end, after those of its front. -/
def readSuffix (front : List Char) (c : Cursor) : Option (List Char × Cursor) :=
  readTagChars (c.rest.length + 1) front c

def readFilledSuffix (c : Cursor) : Option (List Char × Cursor) := do
  let r ← readSuffix [] c
  if r.1.isEmpty then none else return r

/-- Reads an exclamation mark, a name, and a second exclamation mark if there is one. -/
def readHandle (c : Cursor) : Option (List Char × Cursor) :=
  match c.rest with
  | '!' :: cs =>
    let handle := '!' :: cs.takeWhile isNameChar
    let c := c.skip handle.length
    if c.rest.head? = some '!' then some (handle ++ ['!'], c.next) else some (handle, c)
  | _ => none

/-- Whether a handle has both of its exclamation marks. -/
def isClosedHandle (handle : List Char) : Bool :=
  2 ≤ handle.length && handle.getLast? = some '!'

/-- Reads a tag: its handle, its suffix, and the place after it. -/
def readTag (c : Cursor) : Option (List Char × List Char × Cursor) := do
  let (handle, suffix, c) ←
    if c.rest.take 2 = ['!', '<'] then
      let (suffix, c) ← readFilledSuffix (c.skip 2)
      if c.rest.head? = some '>' then some ([], suffix, c.next) else none
    else
      let (handle, c) ← readHandle c
      if isClosedHandle handle then (readFilledSuffix c).map fun r => (handle, r)
      else
        let (suffix, c) ← readSuffix (handle.drop 1) c
        some (if suffix.isEmpty then ([], ['!'], c) else (['!'], suffix, c))
  if isOpen c.rest then return (handle, suffix, c) else none

/-- Skips a number of a version, which has one to nine digits. -/
def skipVersionNumber (c : Cursor) : Option Cursor :=
  let count := (c.rest.takeWhile Char.isDigit).length
  if count = 0 ∨ 9 < count then none else some (c.skip count)

/-- Skips the version behind the name of a directive. -/
def skipVersion (c : Cursor) : Option Cursor := do
  let c ← skipVersionNumber (c.skipWhile isBlank)
  if c.rest.head? = some '.' then skipVersionNumber c.next else none

/-- Skips the handle and the text it stands for behind the name of a directive. -/
def skipHandleMeaning (c : Cursor) : Option Cursor := do
  let (handle, c) ← readHandle (c.skipWhile isBlank)
  if handle ≠ ['!'] ∧ !isClosedHandle handle then none
  let (_, c) ← readFilledSuffix (c.skipWhile isBlank)
  if isOpen c.rest then return c else none

def Cursor.skipLine (c : Cursor) : Cursor := c.skipWhile fun ch => !isBreak ch

/-- Reads a directive and the line break after it. Those with unknown names may hold anything. -/
def readDirective (c : Cursor) : Option Cursor := do
  let name := c.rest.takeWhile isNameChar
  let c := c.skip name.length
  if name.isEmpty || !isOpen c.rest then none
  let c ← if name = "YAML".toList then skipVersion c
    else if name = "TAG".toList then skipHandleMeaning c
    else some c.skipLine
  let c := c.skipWhile isBlank
  let c := if c.rest.head? = some '#' then c.skipLine else c
  if c.rest.head?.any fun ch => !isBreak ch then none else return c.skipBreak

end Showroom.Yaml
