import Showroom.Log.Directive

/-!
# Showroom.Log.Filter

Which log records are kept. A filter is a list of directives, separated by commas in its text. For
a record the most specific directive decides: the longest target that the record's target begins
with, of those the one with the most fields, of those the one whose fields come last by name, and of
those the last. A directive that asks for a span also keeps what happens inside such a span.

* `Filter.ofText`, `Filter.ofText?`   read one, without and with regard to faults.
* `Filter.keepsSpan`, `Filter.keepsEvent`   decide.
-/

namespace Showroom.Log

/-- A stretch of work, in which events happen. -/
structure Span where
  name : String
  target : String
  level : Level
  fields : List (String × String) := []
deriving DecidableEq, Inhabited

structure Event where
  target : String
  level : Level
  message : String
  span : Option Span := none
deriving DecidableEq, Inhabited

structure Filter where
  directives : List Directive
deriving DecidableEq, Inhabited

namespace Filter

/-- The texts of the directives. Between two commas in a row there is none. -/
def pieces (text : String) : List (List Char) :=
  (text.toList.splitOn ',').filter fun cs => !cs.isEmpty

/-- Reads a filter and leaves out the directives that cannot be read. Without any directive only
errors are kept. -/
def ofText (text : String) : Filter :=
  match (pieces text).filterMap Directive.ofText? with
  | [] => ⟨[{ limit := Level.error.detail }]⟩
  | directives => ⟨directives⟩

/-- Reads a filter whose directives can all be read. Without any directive nothing is kept. -/
def ofText? (text : String) : Option Filter :=
  ((pieces text).mapM Directive.ofText?).map fun directives => ⟨directives⟩

/-- The filter in force: the one that is imposed from outside, if it can be read, or else the
program's own. -/
def choose (imposed : Option String) (own : String) : Filter :=
  (imposed.bind ofText?).getD (ofText own)

/-- Whether a directive's target covers another. -/
def covers (d : Directive) (target : String) : Bool := d.target.toList.isPrefixOf target.toList

/-- Of two directives the more specific one, the second if neither is. -/
def moreSpecific (a b : Directive) : Directive :=
  if b.target.utf8ByteSize < a.target.utf8ByteSize then a
  else if a.target = b.target && b.fields.length < a.fields.length then a
  else if a.target = b.target && a.fields.length = b.fields.length
      && b.fields.map Prod.fst < a.fields.map Prod.fst then a
  else b

/-- The limit that the most specific of some directives sets. -/
def decisive : List Directive → Nat
  | [] => 0
  | d :: ds => (ds.foldl moreSpecific d).limit

/-- Whether a directive covers a span, the values of its fields apart. -/
def fits (s : Span) (d : Directive) : Bool :=
  covers d s.target && d.span.all (· = s.name) &&
    d.fields.all fun f => s.fields.any fun g => g.1 = f.1

/-- Whether the fields of a span have the values that a directive asks for. -/
def agrees (s : Span) (d : Directive) : Bool :=
  d.fields.all fun f => f.2.all fun value =>
    s.fields.any fun g => g.1 = f.1 && value.accepts g.2

/-- Directives without those for which a later one holds instead. -/
def latest : List Directive → List Directive
  | [] => []
  | d :: ds => if ds.any d.sameScope then latest ds else d :: latest ds

variable (filter : Filter)

/-- The highest limit of all directives; a value that is asked for lifts it. -/
def ceiling : Nat :=
  if filter.directives.any Directive.hasValue then Level.trace.detail
  else (filter.directives.map Directive.limit).foldl max 0

/-- The limit inside a span that directives ask for. -/
def limitInside (s : Span) : Nat :=
  (((latest filter.directives).filter fun d => d.isScoped && fits s d && agrees s d).map
    Directive.limit).foldl max 0

/-- Whether a span is followed. One that some directive asks for is followed at any limit, as what
happens inside depends on it. -/
def keepsSpan (s : Span) : Bool :=
  s.level.detail ≤ filter.ceiling &&
    (filter.directives.any (fun d => d.isScoped && fits s d) ||
      s.level.detail ≤ decisive (filter.directives.filter fun d =>
        d.isGeneral && covers d s.target))

/-- Whether an event is kept, in a span that is followed or in none. An event has no field but its
message. -/
def keepsEvent (s : Option Span) (e : Event) : Bool :=
  s.any (fun s => e.level.detail ≤ filter.limitInside s) ||
    e.level.detail ≤ decisive (filter.directives.filter fun d =>
      d.isGeneral && covers d e.target && d.fields.all fun f => f.1 = "message")

end Filter

end Showroom.Log
