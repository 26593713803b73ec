import Showroom.Text.Decimal
import Showroom.Text.Trim

/-!
# Showroom.Log.Level

How serious a log record is. The detail of a level is its place from the most serious to the
least; a record passes a limit on detail when its own detail is not above it, and the limit 0 stops
everything.
-/

namespace Showroom.Log

inductive Level where
  | error
  | warn
  | info
  | debug
  | trace
deriving DecidableEq, Inhabited

namespace Level

def all : List Level := [error, warn, info, debug, trace]

def name : Level → String
  | error => "error"
  | warn => "warn"
  | info => "info"
  | debug => "debug"
  | trace => "trace"

def ofName? (name : String) : Option Level := all.find? fun l => l.name = name

def detail : Level → Nat
  | error => 1
  | warn => 2
  | info => 3
  | debug => 4
  | trace => 5

end Level

/-- The limit on detail that a text stands for: a level's name in any case, `off`, or the limit
itself in digits. -/
def limit? (cs : List Char) : Option Nat :=
  match Text.Decimal.read? ((Text.dropText? ['+'] cs).getD cs) with
  | some n => if n ≤ Level.trace.detail then some n else none
  | none =>
    let name := String.ofList (cs.map Char.toLower)
    if name = "off" then some 0 else (Level.ofName? name).map Level.detail

end Showroom.Log
