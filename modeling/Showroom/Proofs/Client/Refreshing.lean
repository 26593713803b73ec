import Mathlib.Data.List.Basic
import Showroom.Client.Refresher
import Showroom.Proofs.Client.SharedToken

/-!
# Showroom.Proofs.Client.Refreshing

The token under a refresher, in whatever order ticks, logins, stopping and what others do come. The
task sets it to the token of each login that succeeds, and never again once it has ended; and it has
ended when a login has failed, or when stopping the refresher is over.

* `Refresher.Stepped`, `Refresher.stepped`: what one event changes.
* `Refresher.Ran`, `Refresher.ran`: what many change.
* `Refresher.run_rounds`, `Refresher.exists_run_stopped`: what can go on.
* `Refresher.refresh_decides`: the token from the first login on.
-/

namespace Showroom

theorem SharedToken.run_filterMap_cons {α : Type} (f : α → Option Use) (t : SharedToken) (x : α)
    (xs : List α) :
    (t.run ((x :: xs).filterMap f)).2 = ((t.run (f x).toList).2.run (xs.filterMap f)).2 := by
  rw [List.filterMap_cons]
  cases f x with
  | none => rfl
  | some use => rfl

namespace Refresher

/-! ## One event -/

/-- What an event does to the token, whoever is behind it. -/
def Event.use? : Event → Option SharedToken.Use
  | .answered (.ok fresh) => some (.set fresh)
  | .other use => some use
  | _ => none

def Event.otherUse? : Event → Option SharedToken.Use
  | .other use => some use
  | _ => none

def Event.login? : Event → Option Login
  | .answered login => some login
  | _ => none

section Steps

variable {r r' : Refresher} {t t' : SharedToken} {e : Event} {events more : List Event}

theorem Event.use?_of_login?_eq_none (h : e.login? = none) : e.use? = e.otherUse? := by
  cases e with
  | answered login => cases h
  | _ => rfl

def Settled (r : Refresher) : Prop := r.handle = .stopped → r.isRunning = false

/-- What an event changes that can happen. -/
structure Stepped (r : Refresher) (t : SharedToken) (e : Event) (r' : Refresher)
    (t' : SharedToken) : Prop where
  token : t' = (t.run e.use?.toList).2
  ended : r.isRunning = false → r'.isRunning = false ∧ e.login? = none
  failed : ∀ status, e = .answered (.error status) → r'.isRunning = false
  settled : r.Settled → r'.Settled

theorem Stepped.of_task (token : t' = (t.run e.use?.toList).2) (running : r.isRunning = true)
    (handle : r'.handle = r.handle)
    (failed : ∀ status, e = .answered (.error status) → r'.isRunning = false) :
    Stepped r t e r' t' := by
  refine ⟨token, ?_, failed, ?_⟩
  · intro hended
    rw [running] at hended
    cases hended
  · intro hsettled hstopped
    rw [handle] at hstopped
    have hended := hsettled hstopped
    rw [running] at hended
    cases hended

theorem Stepped.of_others (token : t' = (t.run e.use?.toList).2) (task : r'.task = r.task)
    (login : e.login? = none)
    (stopped : r'.handle = .stopped → r.handle = .stopped ∨ r.isRunning = false) :
    Stepped r t e r' t' := by
  have hrunning : r'.isRunning = r.isRunning := by rw [isRunning, isRunning, task]
  refine ⟨token, ?_, ?_, ?_⟩
  · intro hended
    exact ⟨hrunning.trans hended, login⟩
  · intro status hevent
    rw [hevent] at login
    cases login
  · intro hsettled hstopped
    rw [hrunning]
    rcases stopped hstopped with hbefore | hended
    · exact hsettled hbefore
    · exact hended

theorem stepped (h : r.step t e = some (r', t')) : Stepped r t e r' t' := by
  cases e with
  | tick =>
    simp only [step, Option.ite_none_right_eq_some] at h
    obtain ⟨htask, h⟩ := h
    cases h
    exact .of_task rfl (by simp [isRunning, htask]) rfl (by simp)
  | answered login =>
    cases login with
    | ok fresh =>
      simp only [step, Option.ite_none_right_eq_some] at h
      obtain ⟨htask, h⟩ := h
      cases h
      exact .of_task rfl (by simp [isRunning, htask]) rfl (by simp)
    | error status =>
      simp only [step, Option.ite_none_right_eq_some] at h
      obtain ⟨htask, h⟩ := h
      cases h
      exact .of_task rfl (by simp [isRunning, htask]) rfl (by simp [isRunning])
  | heard =>
    simp only [step, Option.ite_none_right_eq_some] at h
    obtain ⟨⟨htask, -⟩, h⟩ := h
    cases h
    exact .of_task rfl (by simp [isRunning, htask]) rfl (by simp)
  | stop =>
    simp only [step, Option.ite_none_right_eq_some] at h
    obtain ⟨-, h⟩ := h
    cases h
    exact .of_others rfl rfl rfl (by simp)
  | stopped =>
    simp only [step, Option.ite_none_right_eq_some] at h
    obtain ⟨⟨-, htask⟩, h⟩ := h
    cases h
    exact .of_others rfl rfl rfl (by simp [isRunning, htask])
  | drop =>
    simp only [step, Option.ite_none_right_eq_some] at h
    obtain ⟨-, h⟩ := h
    cases h
    exact .of_others rfl rfl rfl (by simp)
  | other use =>
    cases h
    exact .of_others rfl rfl rfl .inl

/-! ## Many events -/

theorem run_cons_eq_some_iff :
    r.run t (e :: events) = some (r', t') ↔
      ∃ r₁ t₁, r.step t e = some (r₁, t₁) ∧ r₁.run t₁ events = some (r', t') := by
  rw [run]
  cases r.step t e with
  | none => simp
  | some s =>
    obtain ⟨r₁, t₁⟩ := s
    constructor
    · intro hrun
      exact ⟨r₁, t₁, rfl, hrun⟩
    · rintro ⟨_, _, ⟨⟩, hrun⟩
      exact hrun

theorem run_append :
    r.run t (events ++ more) = (r.run t events).bind fun s => s.1.run s.2 more := by
  induction events generalizing r t with
  | nil => rfl
  | cons e events ih =>
    rw [List.cons_append, run, run]
    cases r.step t e with
    | none => rfl
    | some s => exact ih

/-- What events change that can happen in this order. -/
structure Ran (r : Refresher) (t : SharedToken) (events : List Event) (r' : Refresher)
    (t' : SharedToken) : Prop where
  token : t' = (t.run (events.filterMap Event.use?)).2
  ended : r.isRunning = false → r'.isRunning = false ∧ events.filterMap Event.login? = [] ∧
    t' = (t.run (events.filterMap Event.otherUse?)).2
  failed : ∀ status, .answered (.error status) ∈ events → r'.isRunning = false
  settled : r.Settled → r'.Settled

theorem ran (h : r.run t events = some (r', t')) : Ran r t events r' t' := by
  -- By induction on the events: what an event may no longer change, no later one may.
  induction events generalizing r t with
  | nil =>
    cases h
    refine ⟨rfl, ?_, ?_, id⟩
    · intro hended
      exact ⟨hended, rfl, rfl⟩
    · intro status hmem
      cases hmem
  | cons e events ih =>
    obtain ⟨r₁, t₁, hstep, hrun⟩ := run_cons_eq_some_iff.mp h
    have hfirst := stepped hstep
    have hrest := ih hrun
    refine ⟨?_, ?_, ?_, ?_⟩
    · rw [SharedToken.run_filterMap_cons, ← hfirst.token]
      exact hrest.token
    · intro hended
      obtain ⟨hended₁, hlogin⟩ := hfirst.ended hended
      obtain ⟨hended', hlogins, htoken⟩ := hrest.ended hended₁
      refine ⟨hended', by simp [hlogin, hlogins], ?_⟩
      rw [SharedToken.run_filterMap_cons, ← Event.use?_of_login?_eq_none hlogin, ← hfirst.token]
      exact htoken
    · intro status hmem
      rcases List.mem_cons.mp hmem with hhere | hlater
      · exact (hrest.ended (hfirst.failed status hhere.symm)).1
      · exact hrest.failed status hlater
    · intro hsettled
      exact hrest.settled (hfirst.settled hsettled)

end Steps

/-! ## What can go on -/

def rounds (logins : List Login) : List Event :=
  logins.flatMap fun login => [.tick, .answered login]

section Rounds

variable {r : Refresher} {t : SharedToken} {first : String} {tokens : List String}

theorem run_rounds (waiting : r.task = .waiting) :
    r.run ⟨first⟩ (rounds (tokens.map .ok)) = some (r, ⟨tokens.getLast?.getD first⟩) := by
  induction tokens generalizing first with
  | nil => rfl
  | cons fresh tokens ih =>
    have hround : r.run ⟨first⟩ [.tick, .answered (.ok fresh)] = some (r, ⟨fresh⟩) := by
      obtain ⟨task, handle⟩ := r
      cases waiting
      rfl
    have hcons : rounds ((fresh :: tokens).map .ok) =
      [.tick, .answered (.ok fresh)] ++ rounds (tokens.map .ok) := rfl
    rw [hcons, run_append, hround, Option.bind_some, ih, List.getLast?_cons]
    rfl

theorem run_rounds_failing (waiting : r.task = .waiting) (status : Status) :
    r.run ⟨first⟩ (rounds (tokens.map .ok ++ [.error status])) =
      some ({ r with task := .ended }, ⟨tokens.getLast?.getD first⟩) := by
  have hrounds : rounds (tokens.map .ok ++ [.error status]) =
      rounds (tokens.map .ok) ++ [.tick, .answered (.error status)] := by
    simp [rounds]
  rw [hrounds, run_append, run_rounds waiting, Option.bind_some]
  obtain ⟨task, handle⟩ := r
  cases waiting
  rfl

theorem exists_run_stopped (stopping : r.handle = .stopping) (t : SharedToken) (login : Login) :
    ∃ events t', r.run t events = some (⟨.ended, .stopped⟩, t') ∧ .tick ∉ events ∧
      ∀ other ∈ events.filterMap Event.login?, other = login := by
  obtain ⟨task, handle⟩ := r
  cases stopping
  cases task with
  | waiting => exact ⟨[.heard, .stopped], t, rfl, by simp, by simp [Event.login?]⟩
  | loggingIn =>
    cases login with
    | ok fresh =>
      exact ⟨[.answered (.ok fresh), .heard, .stopped], ⟨fresh⟩, rfl, by simp,
        by simp [Event.login?]⟩
    | error status =>
      exact ⟨[.answered (.error status), .stopped], t, rfl, by simp, by simp [Event.login?]⟩
  | ended => exact ⟨[.stopped], t, rfl, by simp, by simp [Event.login?]⟩

end Rounds

/-! ## From the first login on -/

def succeeded (events : List Event) : List String :=
  events.filterMap fun e => e.login?.bind Except.toOption

theorem tokens_of_uses {events : List Event} (alone : ∀ token, .other (.set token) ∉ events) :
    (events.filterMap Event.use?).filterMap SharedToken.Use.token? = succeeded events := by
  rw [List.filterMap_filterMap]
  apply List.filterMap_congr
  intro e he
  cases e with
  | answered login => cases login <;> rfl
  | other use =>
    cases use with
    | set token => exact absurd he (alone token)
    | call m => rfl
  | _ => rfl

/-- Where a refresher is, and the token that it shares, after its first login and some events. -/
structure Refreshed (first : String) (events : List Event) (r : Refresher) (t : SharedToken) :
    Prop where
  latest : t.token = SharedToken.latest (.set first :: events.filterMap Event.use?)
  alone : (∀ token, .other (.set token) ∉ events) →
    t.token = (succeeded events).getLast?.getD first
  failing : ∀ status r' t', r.step t (.answered (.error status)) = some (r', t') →
    r'.isRunning = false ∧ t' = t
  failed : ∀ status, .answered (.error status) ∈ events → r.isRunning = false
  stopped : r.handle = .stopped → r.isRunning = false
  ended : r.isRunning = false → ∀ more r' t', r.run t more = some (r', t') →
    r'.isRunning = false ∧ more.filterMap Event.login? = [] ∧
      t' = (t.run (more.filterMap Event.otherUse?)).2
  stopping : r.handle = .stopping → ∀ login, ∃ more t',
    r.run t more = some (⟨.ended, .stopped⟩, t') ∧ .tick ∉ more ∧
      ∀ other ∈ more.filterMap Event.login?, other = login

theorem refreshed {first : String} {events : List Event} {r r' : Refresher} {t' : SharedToken}
    (held : r.handle = .held) (h : r.run ⟨first⟩ events = some (r', t')) :
    Refreshed first events r' t' := by
  have hran := ran h
  have htoken : t'.token =
      (((events.filterMap Event.use?).filterMap SharedToken.Use.token?).getLast?).getD first := by
    rw [hran.token, SharedToken.token_run]
  refine ⟨?_, ?_, ?_, hran.failed, ?_, ?_, ?_⟩
  · rw [htoken, SharedToken.latest, List.filterMap_cons]
    simp [SharedToken.Use.token?, List.getLast?_cons]
  · intro halone
    rw [htoken, tokens_of_uses halone]
  · intro status r'' t'' hstep
    have hstepped := stepped hstep
    exact ⟨hstepped.failed status rfl, hstepped.token⟩
  · apply hran.settled
    intro hstopped
    rw [held] at hstopped
    cases hstopped
  · intro hended more r'' t'' hmore
    exact (ran hmore).ended hended
  · intro hstopping login
    exact exists_run_stopped hstopping t' login

/-- **A token that is kept fresh.** If the first login fails there is no refresher, and the token
stays as it is. Otherwise, whatever happens, the refresher is as `Refreshed` says. The token is what
was set last, by a login that succeeded or by somebody else; a login that fails leaves it alone and
ends the task; and from then on, as from when stopping the refresher is over, it is set by others
only. With a clock that ticks, each tick is good for a login until one fails. -/
theorem refresh_decides (period : Nat) (t : SharedToken) :
    (∀ status, start period t (.error status) = (.error status, t)) ∧
    ∀ first, ∃ r, start period t (.ok first) = (.ok r, ⟨first⟩) ∧
      (∀ events r' t', r.run ⟨first⟩ events = some (r', t') → Refreshed first events r' t') ∧
      (0 < period → ∀ (tokens : List String) (status : Status),
        r.run ⟨first⟩ (rounds (tokens.map .ok)) = some (r, ⟨tokens.getLast?.getD first⟩) ∧
        r.run ⟨first⟩ (rounds (tokens.map .ok ++ [.error status])) =
          some ({ r with task := .ended }, ⟨tokens.getLast?.getD first⟩)) := by
  constructor
  · intro status
    rfl
  · intro first
    refine ⟨_, rfl, ?_, ?_⟩
    · intro events r' t' hrun
      exact refreshed rfl hrun
    · intro hperiod tokens status
      have hwaiting : (if period = 0 then Task.ended else Task.waiting) = Task.waiting :=
        if_neg (Nat.ne_of_gt hperiod)
      exact ⟨run_rounds hwaiting, run_rounds_failing hwaiting status⟩

/-- A refresher that is stopped in the middle of its second login. -/
def course : List Event :=
  [.tick, .answered (.ok "b"), .other (.call {}), .tick, .stop, .answered (.ok "c"), .heard,
    .stopped]

def outage : Status := ⟨.unavailable, "no route"⟩

/-- The course, what somebody else does after it, and a login that fails. -/
theorem refresh_decides_course :
    let r : Refresher := {}
    let final : Refresher := ⟨.ended, .stopped⟩
    start 30 ⟨"old"⟩ (.error outage) = (.error outage, ⟨"old"⟩) ∧
    start 30 ⟨"old"⟩ (.ok "a") = (.ok r, ⟨"a"⟩) ∧
    r.run ⟨"a"⟩ course = some (final, ⟨"c"⟩) ∧ "c" = (succeeded course).getLast?.getD "a" ∧
    final.isRunning = false ∧
    final.run ⟨"c"⟩ [.other (.set "d")] = some (final, ⟨"d"⟩) ∧
    (⟨"d"⟩ : SharedToken) = (SharedToken.run ⟨"c"⟩ [.set "d"]).2 ∧
    r.run ⟨"a"⟩ (rounds [.ok "b", .error outage]) = some (⟨.ended, .held⟩, ⟨"b"⟩) ∧
    (Refresher.mk .ended .held).isRunning = false ∧
    ∃ more t', Refresher.run ⟨.loggingIn, .stopping⟩ ⟨"b"⟩ more = some (final, t') := by
  intro r final
  obtain ⟨hfailed, hstarted⟩ := refresh_decides 30 ⟨"old"⟩
  obtain ⟨first, hstart, hruns, hrounds⟩ := hstarted "a"
  have hfirst : start 30 ⟨"old"⟩ (.ok "a") = (.ok r, ⟨"a"⟩) := rfl
  rw [hfirst] at hstart
  cases hstart
  have hcourse : r.run ⟨"a"⟩ course = some (final, ⟨"c"⟩) := rfl
  have hlater : final.run ⟨"c"⟩ [.other (.set "d")] = some (final, ⟨"d"⟩) := rfl
  have hstopping : r.run ⟨"a"⟩ (course.take 5) = some (⟨.loggingIn, .stopping⟩, ⟨"b"⟩) := rfl
  have hrefreshed := hruns course final ⟨"c"⟩ hcourse
  have hended := hrefreshed.stopped rfl
  have hfailing := (hrounds (by decide) ["b"] outage).2
  obtain ⟨more, t', hstopped, -⟩ := (hruns _ _ _ hstopping).stopping rfl (.ok "c")
  refine ⟨hfailed outage, hfirst, hcourse, hrefreshed.alone ?_, hended, hlater, ?_, hfailing, ?_,
    more, t', hstopped⟩
  · intro token
    simp [course]
  · exact (hrefreshed.ended hended _ _ _ hlater).2.2
  · exact (hruns _ _ _ hfailing).failed outage (by simp [rounds])

end Refresher

end Showroom
