import Showroom.Text.Alphanumeric
import Showroom.Text.Space
import Showroom.Text.Trim

/-!
# Showroom.Settings.Environment

The variables of the environment, and files that add to them. A file has one variable a line, as in
`NAME=value`, with comments after `#`. Values can be quoted: between single quotes everything stands
for itself; elsewhere a backslash escapes the next character, and `$NAME` stands for the value of a
variable. A line goes on as long as a quote is open.

A variable that is set already keeps its value, and reading stops at the first line that is in no
such form.
-/

namespace Showroom

structure Environment where
  entries : List (String × String) := []
deriving DecidableEq, Inhabited

namespace Environment

def find? (e : Environment) (name : String) : Option String := e.entries.lookup name

/-- Sets a variable unless it is set. -/
def offer (e : Environment) (name value : String) : Environment :=
  if (e.find? name).isSome then e else ⟨e.entries ++ [(name, value)]⟩

/-- What a line has to go on with, as far as it has been read. -/
inductive LineState where
  | plain
  | blank
  | escape
  | single
  | singleEscape
  | double
  | doubleEscape
deriving DecidableEq, Inhabited

def LineState.ofOutside (c : Char) : LineState :=
  if c = '\\' then escape else if c = '"' then double else if c = '\'' then single else plain

def LineState.next (s : LineState) (c : Char) : LineState :=
  match s with
  | plain => if Text.isSpace c && c ≠ '\n' && c ≠ '\r' then blank else ofOutside c
  | blank => ofOutside c
  | escape => plain
  | single => if c = '\\' then singleEscape else if c = '\'' then plain else single
  | singleEscape => single
  | double => if c = '\\' then doubleEscape else if c = '"' then plain else double
  | doubleEscape => double

/-- Reads a line up to a comment. The outcome is what stands in front of it, and the state at the
end unless there is a comment. -/
def scanLine : LineState → List Char → List Char × Option LineState
  | s, [] => ([], some s)
  | s, c :: cs =>
    if s = .blank && c = '#' then ([], none)
    else
      let (front, last) := scanLine (s.next c) cs
      (c :: front, last)

/-- The lines of a text, each with its line break. -/
def linesOf : List Char → List (List Char)
  | [] => []
  | c :: cs =>
    if c = '\n' then [c] :: linesOf cs
    else match linesOf cs with
      | line :: lines => (c :: line) :: lines
      | [] => [[c]]

/-- A line without its line break. -/
def dropBreak (cs : List Char) : List Char :=
  match cs.reverse with
  | '\n' :: '\r' :: rest => rest.reverse
  | '\n' :: rest => rest.reverse
  | _ => cs

/-- Joins lines that belong together, without comments. The last one is missing if something in it
is left open. -/
def joinLines : LineState → List Char → List (List Char) → List (Option (List Char))
  | s, _, [] => if s = .plain then [] else [none]
  | s, before, line :: lines =>
    if ((before ++ line).dropWhile Text.isSpace).head? = some '#' then
      some [] :: joinLines .plain [] lines
    else match scanLine s line with
      | (front, none) => some (before ++ front) :: joinLines .plain [] lines
      | (_, some .plain) => some (dropBreak (before ++ line)) :: joinLines .plain [] lines
      | (_, some s) => joinLines s (before ++ line) lines

/-- A reference to a variable that is being read. -/
inductive Reference where
  | bare (name : List Char)
  | braced (name : List Char)
deriving DecidableEq, Inhabited

/-- How far a value has been read. -/
structure ValueState where
  isSingle : Bool := false
  isDouble : Bool := false
  isEscaped : Bool := false
  isOver : Bool := false
  reference : Option Reference := none
  output : List Char := []
deriving Inhabited

namespace ValueState

def put (s : ValueState) (cs : List Char) : ValueState := { s with output := s.output ++ cs }

/-- Puts in the value of a variable, which is empty if it is not set. -/
def putVariable (e : Environment) (s : ValueState) (name : List Char) : ValueState :=
  { s with reference := none }.put ((e.find? (String.ofList name)).getD "").toList

def stepReference (e : Environment) (s : ValueState) (c : Char) : Reference → ValueState
  | .bare name =>
    if Text.isAlphanumeric c then { s with reference := some (.bare (name ++ [c])) }
    else if c = '\x7b' ∧ name = [] then { s with reference := some (.braced []) }
    else if c = '$' then { s.putVariable e name with reference := some (.bare []) }
    else (s.putVariable e name).put [c]
  | .braced name =>
    if c = '\x7d' then s.putVariable e name
    else { s with reference := some (.braced (name ++ [c])) }

/-- Reads one more character outside of references, or fails. -/
def stepPlain (s : ValueState) (c : Char) : ValueState :=
  if c = '$' then { s with reference := some (.bare []) }
  else if s.isDouble then
    if c = '"' then { s with isDouble := false }
    else if c = '\\' then { s with isEscaped := true }
    else s.put [c]
  else if c = '\'' then { s with isSingle := true }
  else if c = '"' then { s with isDouble := true }
  else if c = '\\' then { s with isEscaped := true }
  else if c = ' ' || c = '\t' then { s with isOver := true }
  else s.put [c]

/-- The character for which an escaped character stands. -/
def unescape? (c : Char) : Option Char :=
  if ['\\', '\'', '"', '$', ' '].contains c then some c else if c = 'n' then some '\n' else none

end ValueState

/-- The value that has been read, unless something in it is left open. -/
def endValue (e : Environment) (s : ValueState) : Option String :=
  if s.isSingle || s.isDouble then none
  else match s.reference with
    | some (.braced _) => none
    | some (.bare name) => some (String.ofList (s.putVariable e name).output)
    | none => some (String.ofList s.output)

/-- Reads a value. Behind its end there can only be blanks and a comment. -/
def readValue (e : Environment) : ValueState → List Char → Option String
  | s, [] => endValue e s
  | s, c :: cs =>
    if s.isOver then
      if c = ' ' || c = '\t' then readValue e s cs
      else if c = '#' then endValue e s
      else none
    else if s.isEscaped then
      match ValueState.unescape? c with
      | some ch => readValue e ({ s with isEscaped := false }.put [ch]) cs
      | none => none
    else if s.isSingle then
      readValue e (if c = '\'' then { s with isSingle := false } else s.put [c]) cs
    else match s.reference with
      | some r => readValue e (s.stepReference e c r) cs
      | none => readValue e (s.stepPlain c) cs

/-- The name at the front of a text, and what follows it. -/
def readName (cs : List Char) : Option (List Char × List Char) :=
  let isPart (c : Char) : Bool := c.isAlphanum || c = '_' || c = '.'
  if cs.head?.any fun c => c.isAlpha || c = '_' then
    some (cs.takeWhile isPart, (cs.dropWhile isPart).dropWhile Text.isSpace)
  else none

/-- The name in a line, and what follows the equals sign. The word `export` may stand before it. -/
def readLeft (line : List Char) : Option (List Char × List Char) := do
  let (name, rest) ← readName line
  match rest with
  | '=' :: value => return (name, value)
  | _ =>
    if name ≠ "export".toList then none
    let (name, rest) ← readName rest
    match rest with
    | '=' :: value => return (name, value)
    | _ => none

/-- What a line without comments and line breaks does. -/
def readLine (e : Environment) (line : List Char) : Option Environment :=
  let line := (line.reverse.dropWhile Text.isSpace).reverse.dropWhile Text.isSpace
  if line.isEmpty || line.head? = some '#' then some e
  else match readLeft line with
    | none => none
    | some (name, value) =>
      let value := value.dropWhile Text.isSpace
      if value.isEmpty || value.head? = some '#' then some (e.offer (String.ofList name) "")
      else (readValue e {} value).map fun v => e.offer (String.ofList name) v

/-- What lines do, up to the first that is in no known form. -/
def readLines (e : Environment) : List (Option (List Char)) → Environment
  | some line :: lines =>
    match e.readLine line with
    | some e => readLines e lines
    | none => e
  | _ => e

def addFile (e : Environment) (text : String) : Environment :=
  e.readLines (joinLines .plain [] (linesOf (Text.withoutMark text)))

end Environment

end Showroom
