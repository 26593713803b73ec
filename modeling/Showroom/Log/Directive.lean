import Showroom.Binary64.Decimal
import Showroom.Log.Level
import Showroom.Text.Pattern.Reader

/-!
# Showroom.Log.Directive

One part of a log filter: `target[span{field=value}]=limit`, where every part may be missing. A
limit alone holds for all targets, and a target alone lets everything from it through. A value is a
pattern, unless it is a truth value or a number.

The places of the parts are found in the text without the blanks around it, but the parts are cut
out of the text with them.

* `Directive.ofText?`   reads one.
-/

namespace Showroom.Log

/-- What a field has to hold. No text is equal to a truth value or a number. -/
inductive FieldValue where
  | literal (text : String)
  | pattern (text : String) (pattern : Text.Pattern)
deriving DecidableEq, Inhabited

namespace FieldValue

def isLiteral (cs : List Char) : Bool :=
  cs = "true".toList || cs = "false".toList || (Binary64.ofDecimal? cs).isSome

def ofText? (cs : List Char) : Option FieldValue :=
  if isLiteral cs then some (literal (String.ofList cs))
  else (Text.Pattern.ofText? cs).map (pattern (String.ofList cs))

def accepts : FieldValue → String → Bool
  | literal _, _ => false
  | pattern _ p, text => p.endsIn text.toList

end FieldValue

/-- What is let through, and from where. -/
structure Directive where
  target : String := ""
  /-- The name of the span that a record has to be in. -/
  span : Option String := none
  /-- The fields that the span has to have, some with their values. -/
  fields : List (String × Option FieldValue) := []
  limit : Nat := Level.trace.detail
deriving DecidableEq, Inhabited

namespace Directive

/-- Whether a directive may begin with a character. -/
def isFirst (c : Char) : Bool :=
  Text.isAlphanumeric c || c = '-' || c = ':' || c = '_'

/-- The part of a directive that is being read, and where it starts. -/
inductive Part where
  | front (start : Nat)
  | span (start : Nat)
  | field (start : Nat)
  | fieldsEnd
  | spanEnd
  | limit (start : Nat)
deriving DecidableEq, Inhabited

def cut? (text : Bytes) (start stop : Nat) : Option String :=
  Bytes.toText? ((text.drop start).take (stop - start))

/-- A field's name with its value, if one is given. -/
def field? (s : String) : Option (String × Option FieldValue) :=
  match s.toList.splitOn '=' with
  | [] => none
  | [name] => if name.isEmpty then none else some (String.ofList name, none)
  | name :: value :: _ => (FieldValue.ofText? value).map fun v => (String.ofList name, some v)

def step? (text : Bytes) (place : Nat) (c : Char) (d : Directive) :
    Option Part → Option (Part × Directive)
  | none =>
    if c = '[' then some (.span (place + 1), d)
    else if isFirst c then some (.front place, d)
    else none
  | some (.front start) => do
    if c = '=' then return (.limit (place + 1), { d with target := ← cut? text start place })
    else if c = '[' then return (.span (place + 1), { d with target := ← cut? text start place })
    else return (.front start, d)
  | some (.span start) => do
    if c = ']' then return (.spanEnd, { d with span := some (← cut? text start place) })
    else if c = '\x7b' then
      let name ← cut? text start place
      return (.field (place + 1), { d with span := if name = "" then none else some name })
    else return (.span start, d)
  | some (.field start) => do
    if c = '\x7d' then
      return (.fieldsEnd, { d with fields := d.fields ++ [← field? (← cut? text start place)] })
    else return (.field start, d)
  | some .fieldsEnd => if c = ']' then some (.spanEnd, d) else none
  | some .spanEnd => if c = '=' then some (.limit (place + 1), d) else none
  | some (.limit start) => some (.limit start, d)

def steps? (text : Bytes) : (place : Nat) → Option Part → Directive → List Char →
    Option (Option Part × Directive)
  | _, part, d, [] => some (part, d)
  | place, part, d, c :: cs => do
    let (part, d) ← step? text place c d part
    steps? text (place + c.utf8Size) (some part) d cs

def finish? (text : Bytes) (d : Directive) : Option Part → Option Directive
  | some (.front start) => do
    let front ← cut? text start text.length
    match limit? front.toList with
    | some limit => return { d with limit := limit }
    | none => return { d with target := front }
  | some (.limit start) => do
    let last ← cut? text start text.length
    if last = "" then return d else return { d with limit := ← limit? last.toList }
  | some .spanEnd => some d
  | _ => none

def ofText? (cs : List Char) : Option Directive := do
  let text := Bytes.ofText (String.ofList cs)
  let (part, d) ← steps? text 0 none {} (Text.trim Text.isSpace cs)
  finish? text d part

/-- Whether it asks for a span: for its name or for one of its fields. -/
def isScoped (d : Directive) : Bool := d.span.isSome || !d.fields.isEmpty

def hasValue (d : Directive) : Bool := d.fields.any fun f => f.2.isSome

def isGeneral (d : Directive) : Bool := d.span.isNone && !d.hasValue

def sameScope (a b : Directive) : Bool :=
  a.target = b.target && a.span = b.span && a.fields = b.fields

end Directive

end Showroom.Log
