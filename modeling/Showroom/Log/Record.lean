import Showroom.Log.Filter

/-!
# Showroom.Log.Record

The log records of a program. A span that is followed leaves a record when it begins and one when
it ends, and marks the events inside it.

* `records`   the records of a list of events.
-/

namespace Showroom.Log

structure Record where
  program : String
  level : Level
  message : String
  target : String
  fields : List (String × String) := []
deriving DecidableEq, Inhabited

def Record.version : Nat := 0

/-- The mark of a span: its name in capitals, and what happens in it. -/
def Span.mark (s : Span) (what : String) : String :=
  "[" ++ String.ofList (s.name.toList.map Char.toUpper) ++ " - " ++ what ++ "]"

/-- The record of the beginning or the end of a span. -/
def Span.record (program : String) (s : Span) (what : String) : Record :=
  ⟨program, s.level, s.mark what, s.target, s.fields⟩

/-- The record of an event, in a span that is followed or in none. -/
def Event.record (program : String) (s : Option Span) (e : Event) : Record :=
  match s with
  | none => ⟨program, e.level, e.message, e.target, []⟩
  | some s => ⟨program, e.level, s.mark "EVENT" ++ " " ++ e.message, e.target, s.fields⟩

def Event.kept (program : String) (filter : Filter) (s : Option Span) (e : Event) : List Record :=
  if filter.keepsEvent s e then [e.record program s] else []

/-- The records of an event and of the span around it. -/
def Event.records (program : String) (filter : Filter) (e : Event) : List Record :=
  match e.span.filter filter.keepsSpan with
  | none => e.kept program filter none
  | some s =>
    s.record program "START" :: e.kept program filter (some s) ++ [s.record program "END"]

def records (program : String) (filter : Filter) (events : List Event) : List Record :=
  events.flatMap (Event.records program filter)

end Showroom.Log
