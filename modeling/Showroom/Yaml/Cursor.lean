/-!
# Showroom.Yaml.Cursor

A place in a text with its line and column, and the characters that matter there: blanks, line
breaks and the markers between documents.
-/

namespace Showroom.Yaml

def isBlank (c : Char) : Bool := c = ' ' || c = '\t'

def isBreak (c : Char) : Bool := c = '\n' || c = '\r'

/-- Whether a text is at its end, or starts with a blank or a line break. -/
def isOpen : List Char → Bool
  | [] => true
  | c :: _ => isBlank c || isBreak c

/-- What follows a place in a text, and where that place is. -/
structure Cursor where
  rest : List Char
  line : Nat := 0
  column : Nat := 0
  place : Nat := 0
deriving Inhabited

namespace Cursor

def next (c : Cursor) : Cursor :=
  match c.rest with
  | [] => c
  | '\n' :: cs => ⟨cs, c.line + 1, 0, c.place + 1⟩
  | _ :: cs => ⟨cs, c.line, c.column + 1, c.place + 1⟩

def skip (c : Cursor) : (n : Nat) → Cursor
  | 0 => c
  | n + 1 => c.next.skip n

def skipWhile (p : Char → Bool) (c : Cursor) : Cursor := c.skip (c.rest.takeWhile p).length

/-- The place after a line break, which may be of two characters. -/
def skipBreak (c : Cursor) : Cursor :=
  match c.rest with
  | '\r' :: '\n' :: _ => c.skip 2
  | ch :: _ => if isBreak ch then c.next else c
  | [] => c

/-- Whether this is the start of a line with a marker between documents. -/
def isAtMarker (c : Cursor) (mark : Char) : Bool :=
  c.column = 0 && c.rest.take 3 = [mark, mark, mark] && isOpen (c.rest.drop 3)

def isAtDocumentEdge (c : Cursor) : Bool := c.isAtMarker '-' || c.isAtMarker '.'

end Cursor

end Showroom.Yaml
