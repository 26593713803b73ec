import Showroom.Client.SharedToken

/-!
# Showroom.Client.Refresher

Keeping the token fresh that the calls of a client share. A refresher logs in when it starts. From
then on a task of its own logs in again at every tick of a clock, and sets the token to each new
one. The first login that fails ends the task.

Whoever started a refresher can stop it, which takes until the task has ended, or let go of it.
Either way the task is told to end. It does not listen while it logs in, and if there is a tick as
well, it may go by the tick first.

* `Refresher.start`   the first login.
* `Refresher.step`, `Refresher.run`   what can happen afterwards.
-/

namespace Showroom

namespace Refresher

/-- What the task is doing. -/
inductive Task where
  | waiting
  | loggingIn
  | ended
deriving DecidableEq, Inhabited

/-- What has become of the refresher in the hands of whoever started it. -/
inductive Handle where
  | held
  | stopping
  | stopped
  | dropped
deriving DecidableEq, Inhabited

end Refresher

structure Refresher where
  task : Refresher.Task := .waiting
  handle : Refresher.Handle := .held
deriving DecidableEq, Inhabited

namespace Refresher

/-- How a login went: with a token, or with the status of its refusal. -/
abbrev Login := Except Status String

inductive Event where
  /-- The task goes by a tick, and begins to log in. -/
  | tick
  | answered (login : Login)
  | heard
  | stop
  | stopped
  /-- Somebody lets go of the refresher, or no longer waits for it to stop. -/
  | drop
  | other (use : SharedToken.Use)
deriving Inhabited

def isRunning (r : Refresher) : Bool := r.task != .ended

/-- Starts a refresher, unless the first login fails. There is no clock whose ticks are no time
apart: then the task ends at once. -/
def start (period : Nat) (t : SharedToken) : Login → Except Status Refresher × SharedToken
  | .ok fresh => (.ok { task := if period = 0 then .ended else .waiting }, (t.use (.set fresh)).2)
  | .error status => (.error status, t)

/-- What an event makes of a refresher and its token, if it can happen. -/
def step (r : Refresher) (t : SharedToken) : Event → Option (Refresher × SharedToken)
  | .tick => if r.task = .waiting then some ({ r with task := .loggingIn }, t) else none
  | .answered (.ok fresh) =>
    if r.task = .loggingIn then some ({ r with task := .waiting }, (t.use (.set fresh)).2) else none
  | .answered (.error _) =>
    if r.task = .loggingIn then some ({ r with task := .ended }, t) else none
  | .heard =>
    if r.task = .waiting ∧ r.handle ≠ .held then some ({ r with task := .ended }, t) else none
  | .stop => if r.handle = .held then some ({ r with handle := .stopping }, t) else none
  | .stopped =>
    if r.handle = .stopping ∧ r.task = .ended then some ({ r with handle := .stopped }, t) else none
  | .drop =>
    if r.handle = .held ∨ r.handle = .stopping then some ({ r with handle := .dropped }, t)
    else none
  | .other use => some (r, (t.use use).2)

/-- What events make of them one after the other, if they can happen in this order. -/
def run : Refresher → SharedToken → List Event → Option (Refresher × SharedToken)
  | r, t, [] => some (r, t)
  | r, t, e :: events =>
    match r.step t e with
    | none => none
    | some (r, t) => run r t events

end Refresher

end Showroom
