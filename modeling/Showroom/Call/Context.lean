import Showroom.Call.Metadata
import Showroom.Service.Status
import Showroom.Text.Decimal

/-!
# Showroom.Call.Context

How long a call may take, and whether its caller has given it up. The deadline counts from the
arrival of the call and is read from its metadata: up to eight digits and a unit, as in `250m`.
Instants are nanoseconds on a clock that only goes forward.

A call is given up by raising its cancellation flag. Every copy of a context names the same flag,
so raising it through one copy is seen through all of them.

* `CallContext.ofMetadata`   the context of a call that has just arrived.
* `CallContext.stop?`   why a call should not go on, if it should not.
-/

namespace Showroom

abbrev Instant := Nat

abbrev RaisedFlags := List Nat

structure CallContext where
  deadline : Option Instant := none
  flag : Nat := 0
deriving DecidableEq, Inhabited

/-- Why a call should not go on. -/
inductive CallStop where
  | cancelled
  | overdue
deriving DecidableEq, Inhabited

def CallStop.status : CallStop → Status
  | cancelled => ⟨.cancelled, "request is canceled"⟩
  | overdue => ⟨.deadlineExceeded, "deadline is exceeded"⟩

namespace CallContext

/-- The name under which metadata holds the time allowed. -/
def timeoutName : String := "grpc-timeout"

/-- Nanoseconds in a unit of time: hours, minutes, seconds, and their thousandth, millionth and
billionth parts. -/
def unitLength : Char → Option Nat
  | 'H' => some (3600 * 1000000000)
  | 'M' => some (60 * 1000000000)
  | 'S' => some 1000000000
  | 'm' => some 1000000
  | 'u' => some 1000
  | 'n' => some 1
  | _ => none

/-- The time that a text allows, in nanoseconds: one to eight digits and a unit. -/
def readTimeout (cs : List Char) : Option Nat :=
  match cs.getLast? with
  | some unit =>
    if cs.dropLast.length ≤ 8 then
      match Text.Decimal.read? cs.dropLast, unitLength unit with
      | some amount, some length => some (amount * length)
      | _, _ => none
    else none
  | none => none

/-- The time that metadata allows. Only the first value counts. -/
def timeout? (m : Metadata) : Option Nat :=
  match (m.values timeoutName).head? with
  | some value => (Metadata.text? value).bind readTimeout
  | none => none

/-- The context of a call with this metadata that arrives now. -/
def ofMetadata (m : Metadata) (arrival : Instant) (flag : Nat) : CallContext :=
  ⟨(timeout? m).map (arrival + ·), flag⟩

def cancel (c : CallContext) (raised : RaisedFlags) : RaisedFlags := c.flag :: raised

def isCancelled (c : CallContext) (raised : RaisedFlags) : Bool := raised.contains c.flag

def isExpired (c : CallContext) (now : Instant) : Bool :=
  c.deadline.any fun deadline => deadline ≤ now

/-- Why a call should not go on. A call that was given up counts as such even past its deadline. -/
def stop? (c : CallContext) (raised : RaisedFlags) (now : Instant) : Option CallStop :=
  if c.isCancelled raised then some .cancelled
  else if c.isExpired now then some .overdue
  else none

end CallContext

end Showroom
