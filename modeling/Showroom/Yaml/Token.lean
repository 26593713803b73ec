import Showroom.Yaml.Tag

/-!
# Showroom.Yaml.Token

The tokens of a YAML text. Indentation becomes tokens of its own: a block collection is opened by
the first entry that is indented further than all around it, and closed by the first line that is
not. That a scalar is the key of a map shows only at the colon behind it, so the places where a key
could have started are remembered, one for each level of flow collections.

* `Token.scan`   the tokens of a text, unless it breaks a rule on the way.
-/

namespace Showroom.Yaml

inductive Token where
  | directive
  | documentStart
  | documentEnd
  | listStart
  | mapStart
  | blockEnd
  | flowListStart
  | flowListEnd
  | flowMapStart
  | flowMapEnd
  | entry
  | comma
  | key
  | value
  | alias (name : List Char)
  | anchor (name : List Char)
  | tag (handle suffix : List Char)
  | scalar (isPlain : Bool) (text : List Char)
deriving DecidableEq, Inhabited

/-- A place where a key could have started, and the number of its first token. A key is required
where nothing else can stand. -/
structure KeyPlace where
  token : Nat
  line : Nat
  column : Nat
  place : Nat
  isRequired : Bool
deriving Inhabited

/-- What has been read of a text. `quotedEnd` is where the latest quoted scalar ended. -/
structure Scanner where
  cursor : Cursor
  indent : Int := -1
  outer : List Int := []
  flow : Nat := 0
  keyAllowed : Bool := true
  keys : List (Option KeyPlace) := [none]
  quotedEnd : Option Nat := none
  tokens : List Token := []
deriving Inhabited

namespace Scanner

def push (s : Scanner) (t : Token) : Scanner := { s with tokens := s.tokens ++ [t] }

/-- Adds a token in front of the token with a number. -/
def insert (s : Scanner) (number : Nat) (t : Token) : Scanner :=
  { s with tokens := s.tokens.take number ++ t :: s.tokens.drop number }

def skip (s : Scanner) (n : Nat) : Scanner := { s with cursor := s.cursor.skip n }

def allowKey (s : Scanner) (allowed : Bool) : Scanner := { s with keyAllowed := allowed }

def inFlow (s : Scanner) : Bool := s.flow ≠ 0

/-- Closes the block collections that are indented further than a column. -/
def unroll (column : Int) : (outer : List Int) → Scanner → Scanner
  | [], s => s
  | o :: outer, s =>
    if s.flow = 0 ∧ column < s.indent then
      unroll column outer { s with indent := o, outer := outer, tokens := s.tokens ++ [.blockEnd] }
    else s

def closeBlocks (s : Scanner) (column : Int) : Scanner := unroll column s.outer s

/-- Opens a block collection at a column, if it is indented further than the one around it. -/
def openBlock (s : Scanner) (column : Nat) (number : Nat) (t : Token) : Scanner :=
  if s.flow = 0 ∧ s.indent < column then
    { s.insert number t with indent := column, outer := s.indent :: s.outer }
  else s

/-- Gives up the place where a key could have started on this level. -/
def dropKey (s : Scanner) : Option Scanner :=
  match s.keys with
  | some k :: rest => if k.isRequired then none else some { s with keys := none :: rest }
  | _ => some s

def saveKey (s : Scanner) : Option Scanner :=
  if s.keyAllowed then
    s.dropKey.map fun s =>
      { s with keys := some ⟨s.tokens.length, s.cursor.line, s.cursor.column, s.cursor.place,
        s.inFlow && s.indent = s.cursor.column⟩ :: s.keys.drop 1 }
  else some s

/-- A place where a key could have started, if it still can: a key has to stand on one line, and in
1024 characters. -/
def keepKey (c : Cursor) : Option KeyPlace → Option (Option KeyPlace)
  | some k =>
    if k.line < c.line ∨ k.place + 1024 < c.place then
      if k.isRequired then none else some none
    else some (some k)
  | none => some none

/-- Gives up the places on all levels from which no key can reach here. -/
def dropStaleKeys (s : Scanner) : Option Scanner :=
  (s.keys.mapM (keepKey s.cursor)).map fun keys => { s with keys := keys }

/-- Skips blanks, comments and line breaks in front of the next token. A tab may not stand where a
key could. -/
def skipToToken : (fuel : Nat) → Scanner → Scanner
  | 0, s => s
  | fuel + 1, s =>
    match s.cursor.rest with
    | [] => s
    | c :: _ =>
      if c = ' ' || (c = '\t' && (s.inFlow || !s.keyAllowed)) then skipToToken fuel (s.skip 1)
      else if isBreak c then
        skipToToken fuel
          { s with cursor := s.cursor.skipBreak, keyAllowed := s.keyAllowed || !s.inFlow }
      else if c = '#' then
        skipToToken fuel { s with cursor := s.cursor.skipWhile fun ch => !isBreak ch }
      else s

def marker (s : Scanner) (t : Token) : Option Scanner :=
  (s.closeBlocks (-1)).dropKey.map fun s => ((s.allowKey false).skip 3).push t

def directive (s : Scanner) : Option Scanner := do
  let s ← (s.closeBlocks (-1)).dropKey
  let c ← readDirective s.cursor.next
  return { (s.allowKey false).push .directive with cursor := c }

def flowStart (s : Scanner) (t : Token) : Option Scanner :=
  if s.flow = 255 then none
  else s.saveKey.map fun s =>
    ({ s with flow := s.flow + 1, keys := none :: s.keys, keyAllowed := true }.skip 1).push t

def flowEnd (s : Scanner) (t : Token) : Option Scanner :=
  s.dropKey.map fun s =>
    let s := if s.flow = 0 then s else { s with flow := s.flow - 1, keys := s.keys.drop 1 }
    ((s.allowKey false).skip 1).push t

def comma (s : Scanner) : Option Scanner :=
  s.dropKey.map fun s => ((s.allowKey true).skip 1).push .comma

def entry (s : Scanner) : Option Scanner :=
  if s.inFlow || !s.keyAllowed then none
  else (s.openBlock s.cursor.column s.tokens.length .listStart).dropKey.map fun s =>
    ((s.allowKey true).skip 1).push .entry

def key (s : Scanner) : Option Scanner :=
  if !s.inFlow && !s.keyAllowed then none
  else (s.openBlock s.cursor.column s.tokens.length .mapStart).dropKey.map fun s =>
    ((s.allowKey (!s.inFlow)).skip 1).push .key

def value (s : Scanner) : Option Scanner :=
  match s.keys with
  | some k :: rest =>
    let s := (s.insert k.token .key).openBlock k.column k.token .mapStart
    some (({ s with keys := none :: rest, keyAllowed := false }.skip 1).push .value)
  | _ =>
    if !s.inFlow && !s.keyAllowed then none
    else
      let s := s.openBlock s.cursor.column s.tokens.length .mapStart
      some (((s.allowKey (!s.inFlow)).skip 1).push .value)

def named (s : Scanner) (token : List Char → Token) : Option Scanner := do
  let s ← s.saveKey
  let s := (s.allowKey false).skip 1
  let name := s.cursor.rest.takeWhile isNameChar
  let after := s.cursor.rest.drop name.length
  if name.isEmpty || !(isOpen after || after.head?.any "?:,]\x7d%@`".toList.contains) then none
  return (s.skip name.length).push (token name)

def tag (s : Scanner) : Option Scanner := do
  let s ← s.saveKey
  let (handle, suffix, c) ← readTag s.cursor
  return { (s.allowKey false).push (.tag handle suffix) with cursor := c }

def quoted (s : Scanner) (single : Bool) : Option Scanner := do
  let s ← s.saveKey
  let (text, cursor) ← readQuoted single s.cursor.rest.length [] s.cursor.next
  return { (s.allowKey false).push (.scalar false text) with
    cursor := cursor, quotedEnd := some cursor.place }

def plain (s : Scanner) : Option Scanner := do
  let s ← s.saveKey
  let p ← readPlain s.inFlow (s.indent + 1).toNat (s.cursor.rest.length + 1) [] s.cursor
  return { s.push (.scalar true p.text) with cursor := p.cursor, keyAllowed := p.newLine }

def block (s : Scanner) (literal : Bool) : Option Scanner := do
  let s ← s.saveKey
  let (text, cursor) ← readBlock literal s.indent s.cursor.next
  return { (s.allowKey true).push (.scalar false text) with cursor := cursor }

/-- Whether a colon here separates a key from its value. It does in front of a blank. In a flow
collection it does so also in front of a mark of the collection, and right behind a quoted scalar. -/
def isSeparator (s : Scanner) (rest : List Char) : Bool :=
  isOpen rest
    || s.inFlow && (rest.head?.any isFlowMark || s.quotedEnd = some s.cursor.place)

/-- Reads the next token, of which the first character is `c`, followed by `rest`. -/
def read (s : Scanner) (c : Char) (rest : List Char) : Option Scanner :=
  if s.cursor.column = 0 && c = '%' then s.directive
  else if s.cursor.isAtMarker '-' then s.marker .documentStart
  else if s.cursor.isAtMarker '.' then s.marker .documentEnd
  else match c with
    | '[' => s.flowStart .flowListStart
    | ']' => s.flowEnd .flowListEnd
    | '\x7b' => s.flowStart .flowMapStart
    | '\x7d' => s.flowEnd .flowMapEnd
    | ',' => s.comma
    | '*' => s.named .alias
    | '&' => s.named .anchor
    | '!' => s.tag
    | '\'' => s.quoted true
    | '"' => s.quoted false
    | '%' => none
    | '@' => none
    | '`' => none
    | '-' => if isOpen rest then s.entry else s.plain
    | '?' => if isOpen rest then s.key else s.plain
    | ':' => if s.isSeparator rest then s.value else s.plain
    | '|' => if s.inFlow then s.plain else s.block true
    | '>' => if s.inFlow then s.plain else s.block false
    | _ => s.plain

def readAll : (fuel : Nat) → Scanner → Option (List Token)
  | 0, _ => none
  | fuel + 1, s => do
    let s ← (skipToToken (s.cursor.rest.length + 1) s).dropStaleKeys
    let s := s.closeBlocks s.cursor.column
    match s.cursor.rest with
    | [] => return (← (s.closeBlocks (-1)).dropKey).tokens
    | c :: rest => readAll fuel (← s.read c rest)

end Scanner

/-- The tokens of a text, which ends at the first null character. -/
def Token.scan (text : List Char) : Option (List Token) :=
  let text := text.takeWhile fun c => c ≠ '\x00'
  Scanner.readAll (text.length + 1) { cursor := { rest := text } }

end Showroom.Yaml
