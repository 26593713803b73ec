import Showroom.Bytes
import Showroom.Yaml.Cursor

/-!
# Showroom.Yaml.Scalar

The scalars of a YAML text: quoted, plain, and in blocks of lines. Lines are folded: a single line
break inside a scalar stands for a space, and of several breaks the first is dropped.

Each reader returns the text of the scalar and the place after it.
-/

namespace Showroom.Yaml

/-- Blanks and line breaks between the words of a scalar. -/
structure Gap where
  blanks : List Char := []
  breaks : Nat := 0
  tabInIndent : Bool := false
  cursor : Cursor
deriving Inhabited

namespace Gap

/-- Reads on while there are blanks and line breaks. Tabs in front of column `indent` are noted. -/
def read (indent : Nat) : (fuel : Nat) → Gap → Gap
  | 0, g => g
  | fuel + 1, g =>
    match g.cursor.rest with
    | [] => g
    | c :: _ =>
      if isBlank c then
        read indent fuel { g with
          blanks := if g.breaks = 0 then g.blanks ++ [c] else g.blanks
          tabInIndent := g.tabInIndent || (g.breaks ≠ 0 && c = '\t' && g.cursor.column < indent)
          cursor := g.cursor.next }
      else if isBreak c then
        read indent fuel { g with breaks := g.breaks + 1, cursor := g.cursor.skipBreak }
      else g

def start (indent : Nat) (c : Cursor) : Gap := read indent c.rest.length { cursor := c }

def text (g : Gap) : List Char :=
  match g.breaks with
  | 0 => g.blanks
  | 1 => [' ']
  | n + 2 => List.replicate (n + 1) '\n'

/-- What a gap stands for after a line break that was escaped. -/
def textEscaped (g : Gap) : List Char := List.replicate g.breaks '\n'

end Gap

/-- The character for which a letter after a backslash stands. -/
def escaped? : Char → Option Char
  | '0' => some '\x00'
  | 'a' => some '\x07'
  | 'b' => some '\x08'
  | 't' => some '\t'
  | '\t' => some '\t'
  | 'n' => some '\n'
  | 'v' => some '\x0b'
  | 'f' => some '\x0c'
  | 'r' => some '\r'
  | 'e' => some '\x1b'
  | ' ' => some ' '
  | '"' => some '"'
  | '\'' => some '\''
  | '\\' => some '\\'
  | 'N' => some '\u0085'
  | '_' => some '\u00a0'
  | 'L' => some '\u2028'
  | 'P' => some '\u2029'
  | _ => none

/-- How many hexadecimal digits follow a letter after a backslash. -/
def escapeLength? : Char → Option Nat
  | 'x' => some 2
  | 'u' => some 4
  | 'U' => some 8
  | _ => none

def charOf? (n : Nat) : Option Char := if n.isValidChar then some (Char.ofNat n) else none

/-- The character that `n` hexadecimal digits at the front of a text stand for. -/
def numberedChar? (n : Nat) (cs : List Char) : Option Char :=
  if cs.length < n then none
  else ((cs.take n).mapM Bytes.hexValue?).bind fun ds => charOf? (ds.foldl (fun v d => 16 * v + d) 0)

/-- Reads an escape after its backslash: the character and how many characters it takes. -/
def readEscape : List Char → Option (Char × Nat)
  | [] => none
  | c :: cs =>
    match escapeLength? c with
    | some n => (numberedChar? n cs).map fun ch => (ch, n + 1)
    | none => (escaped? c).map fun ch => (ch, 1)

/-- Reads the rest of a quoted scalar. The text read so far is in reverse. -/
def readQuoted (single : Bool) : (fuel : Nat) → List Char → Cursor → Option (List Char × Cursor)
  | 0, _, _ => none
  | fuel + 1, text, c =>
    if c.isAtDocumentEdge then none
    else match c.rest with
    | [] => none
    | ch :: cs =>
      if isBlank ch || isBreak ch then
        let g := Gap.start 0 c
        readQuoted single fuel (g.text.reverse ++ text) g.cursor
      else if single then
        if ch = '\'' then
          if cs.head? = some '\'' then readQuoted single fuel (ch :: text) (c.skip 2)
          else some (text.reverse, c.next)
        else readQuoted single fuel (ch :: text) c.next
      else if ch = '"' then some (text.reverse, c.next)
      else if ch = '\\' then
        if cs.head?.any isBreak then
          let g := Gap.start 0 c.next.skipBreak
          readQuoted single fuel (g.textEscaped.reverse ++ text) g.cursor
        else match readEscape cs with
          | some (e, n) => readQuoted single fuel (e :: text) (c.skip (n + 1))
          | none => none
      else readQuoted single fuel (ch :: text) c.next

def isFlowMark (c : Char) : Bool := c = ',' || c = '[' || c = ']' || c = '\x7b' || c = '\x7d'

/-- The next word of a plain scalar. A colon ends it where it could end a key. -/
def plainWord (inFlow : Bool) : List Char → List Char
  | [] => []
  | c :: cs =>
    if isBlank c || isBreak c then []
    else if c = ':' && (isOpen cs || (inFlow && cs.head?.any isFlowMark)) then []
    else if inFlow && isFlowMark c then []
    else c :: plainWord inFlow cs

/-- A plain scalar, and whether a new line has begun after it. -/
structure Plain where
  text : List Char
  newLine : Bool
  cursor : Cursor
deriving Inhabited

/-- Reads the rest of a plain scalar. Outside of flow collections it ends with a line that starts in
front of column `indent`. -/
def readPlain (inFlow : Bool) (indent : Nat) : (fuel : Nat) → List Char → Cursor → Option Plain
  | 0, _, _ => none
  | fuel + 1, text, c =>
    let g := Gap.start indent c
    let rest := g.cursor.rest
    let isOver := g.cursor.place ≠ c.place && !inFlow && g.cursor.column < indent
      || g.cursor.isAtDocumentEdge || rest.head? = some '#'
    let word := if isOver then [] else plainWord inFlow rest
    let after := g.cursor.skip word.length
    if g.tabInIndent then none
    else if word.isEmpty then some ⟨text, g.breaks ≠ 0, g.cursor⟩
    else if after.rest.isEmpty || !isOpen after.rest then some ⟨text ++ g.text ++ word, false, after⟩
    else readPlain inFlow indent fuel (text ++ g.text ++ word) after

/-- What becomes of the line breaks at the end of a block. -/
inductive Chomp where
  | strip
  | clip
  | keep
deriving DecidableEq, Inhabited

/-- Reads what stands after the mark of a block: how its end is chomped, and how far it is indented
if that is given. -/
def readBlockHead (c : Cursor) : Option (Chomp × Nat × Cursor) :=
  let sign (ch : Char) : Chomp := if ch = '+' then .keep else .strip
  let isSign (ch : Char) : Bool := ch = '+' || ch = '-'
  let isDigit (ch : Char) : Bool := '0' ≤ ch && ch ≤ '9'
  match c.rest with
  | a :: b :: _ =>
    if isSign a then
      if b = '0' then none
      else if isDigit b then some (sign a, b.toNat - 48, c.skip 2)
      else some (sign a, 0, c.next)
    else if a = '0' then none
    else if isDigit a then
      if isSign b then some (sign b, a.toNat - 48, c.skip 2) else some (.clip, a.toNat - 48, c.next)
    else some (.clip, 0, c)
  | [a] =>
    if isSign a then some (sign a, 0, c.next)
    else if a = '0' then none
    else if isDigit a then some (.clip, a.toNat - 48, c.next)
    else some (.clip, 0, c)
  | [] => some (.clip, 0, c)

/-- The indentation and the empty lines in front of the next line of a block. -/
structure BlockBreaks where
  breaks : Nat := 0
  deepest : Nat := 0
  cursor : Cursor
deriving Inhabited

/-- Skips empty lines and indentation, up to column `indent` if that is known. A tab must not stand
in the indentation. -/
def readBreaks (indent : Nat) : (fuel : Nat) → BlockBreaks → Option BlockBreaks
  | 0, b => some b
  | fuel + 1, b =>
    let spaces := (b.cursor.rest.takeWhile (· = ' ')).length
    let c := b.cursor.skip (if indent = 0 then spaces else min spaces (indent - b.cursor.column))
    let deepest := max b.deepest c.column
    match c.rest with
    | [] => some { b with deepest := deepest, cursor := c }
    | ch :: _ =>
      if ch = '\t' && (indent = 0 || c.column < indent) then none
      else if isBreak ch then readBreaks indent fuel ⟨b.breaks + 1, deepest, c.skipBreak⟩
      else some { b with deepest := deepest, cursor := c }

/-- The lines of a block read so far. -/
structure BlockLines where
  text : List Char := []
  openBreak : Bool := false
  breaks : Nat := 0
  afterBlank : Bool := false
  cursor : Cursor
deriving Inhabited

/-- What stands between the lines read so far and the next one. -/
def BlockLines.joint (b : BlockLines) (literal startsBlank : Bool) : List Char :=
  let first :=
    if !b.openBreak then []
    else if literal || b.afterBlank || startsBlank then ['\n']
    else if b.breaks = 0 then [' ']
    else []
  first ++ List.replicate b.breaks '\n'

/-- Reads the lines of a block that start at column `indent`. -/
def readLines (literal : Bool) (indent : Nat) : (fuel : Nat) → BlockLines → Option BlockLines
  | 0, b => some b
  | fuel + 1, b =>
    if b.cursor.column ≠ indent || b.cursor.rest.isEmpty then some b
    else
      let startsBlank := b.cursor.rest.head?.any isBlank
      let line := b.cursor.rest.takeWhile fun c => !isBreak c
      let text := b.text ++ b.joint literal startsBlank ++ line
      let c := b.cursor.skip line.length
      if c.rest.isEmpty then some { text := text, afterBlank := startsBlank, cursor := c }
      else match readBreaks indent c.rest.length { cursor := c.skipBreak } with
        | none => none
        | some gap =>
          readLines literal indent fuel
            { text := text, openBreak := true, breaks := gap.breaks, afterBlank := startsBlank,
              cursor := gap.cursor }

def BlockLines.chomped (b : BlockLines) (chomp : Chomp) : List Char :=
  match chomp with
  | .strip => b.text
  | .clip => b.text ++ (if b.openBreak then ['\n'] else [])
  | .keep => b.text ++ (if b.openBreak then ['\n'] else []) ++ List.replicate b.breaks '\n'

/-- Reads a block after its mark. The collection around it is indented to column `outer`. -/
def readBlock (literal : Bool) (outer : Int) (c : Cursor) : Option (List Char × Cursor) := do
  let (chomp, increment, c) ← readBlockHead c
  let c := c.skipWhile isBlank
  let c := if c.rest.head? = some '#' then c.skipWhile fun ch => !isBreak ch else c
  if c.rest.head?.any fun ch => !isBreak ch then none
  let c := c.skipBreak
  let given := if increment = 0 then 0 else outer.toNat + increment
  let gap ← readBreaks given (c.rest.length + 1) { cursor := c }
  let indent := if given = 0 then max gap.deepest (max (outer + 1).toNat 1) else given
  let lines ← readLines literal indent (c.rest.length + 1)
    { breaks := gap.breaks, cursor := gap.cursor }
  return (lines.chomped chomp, lines.cursor)

end Showroom.Yaml
