import Showroom.Proofs.Access.Credential
import Showroom.Proofs.Access.Isolation
import Showroom.Proofs.Access.Roles

/-!
# Showroom.Proofs.Access.Admission

Who gets past the guard, and what becomes of everybody else. A call reaches the service behind the
guard if its path is open, or if it shows the token of somebody whose role is among those of the
path. It reaches it once and unchanged, with its time limit and, on a gated path, the claims of the
token. Any other call is answered with a status alone.

* `Guard.authorize_eq_ok_iff`, `Guard.code_of_authorize`: the two ways a decision can go.
* `Guard.intercept_decides`: what the guard does with a call, whatever the service behind it.
-/

namespace Showroom

theorem Denial.message_ne (d : Denial) : d.status.message ≠ "" := by
  have nonempty {front back : String} (h : front ≠ "") : front ++ back ≠ "" :=
    fun h' => h (String.append_eq_empty_iff.mp h').1
  cases d with
  | badCredential fault => cases fault <;> decide
  | noToken => decide
  | badToken error => exact nonempty (by decide)
  | roleNotAllowed role path =>
    exact nonempty fun h => absurd (String.append_eq_empty_iff.mp h).2 (by decide)

theorem Status.reply_of_message_ne {s : Status} (h : s.message ≠ "") :
    s.reply = ⟨200, "application/grpc", String.ofList (Text.Decimal.digits s.code.number),
      some (Text.Percent.encode s.message)⟩ := by
  rw [reply, if_neg h]

namespace Guard

/-- Which calls may reach the service under a table made from rows, and with which claims: any call
to a path that no row names, and to a path that is named, a call whose one token verifies for a role
of the path. -/
inductive Passes (keeper : TokenKeeper) (rows : List (String × List String)) (now : Int)
    (path : String) (m : Metadata) : Option Claims → Prop
  | openPath (unnamed : ∀ row ∈ rows, row.1 ≠ path) : Passes keeper rows now path m none
  | bearer {value : Bytes} {token : String} {claims : Claims}
      (one : m.values Credential.entryName = [value])
      (printable : ∀ b ∈ value, Metadata.Printable b)
      (found : Credential.find m = .ok (some token))
      (verified : keeper.verify now token = .ok claims)
      (named : ∃ row ∈ rows, row.1 = path ∧ claims.role ∈ row.2) :
      Passes keeper rows now path m (some claims)

/-- Whether a call shows a token that verifies, but for a role that the path is not open to. -/
def LacksRole (keeper : TokenKeeper) (rows : List (String × List String)) (now : Int)
    (path : String) (m : Metadata) : Prop :=
  ∃ token claims, Credential.find m = .ok (some token) ∧ keeper.verify now token = .ok claims ∧
    ∀ row ∈ rows, row.1 = path → claims.role ∉ row.2

section Decision

variable {keeper : TokenKeeper} {rows : List (String × List String)} {now : Int} {path : String}
  {m : Metadata}

theorem authorize_eq_ok_iff {claims : Option Claims} :
    (Guard.mk keeper (.ofRows rows)).authorize now path m = .ok claims ↔
      Passes keeper rows now path m claims := by
  rw [authorize]
  cases hroles : (RoleTable.ofRows rows).allowed? path with
  | none =>
    have unnamed := RoleTable.allowed?_ofRows_eq_none_iff.mp hroles
    constructor
    · intro h
      cases h
      exact .openPath unnamed
    · intro h
      cases h with
      | openPath => rfl
      | bearer _ _ _ _ named =>
        obtain ⟨row, hrow, hpath, -⟩ := named
        exact absurd hpath (unnamed row hrow)
  | some roles =>
    constructor
    · intro h
      cases hverdict : authorizeRoles ⟨keeper, .ofRows rows⟩ roles now path m with
      | error denial =>
        simp only [hverdict] at h
        cases h
      | ok verified =>
        simp only [hverdict] at h
        cases h
        obtain ⟨token, hfind, hverify, hrole⟩ := authorizeRoles_eq_ok_iff.mp hverdict
        obtain ⟨value, hvalue, hprintable⟩ := Credential.printable_of_find hfind
        exact .bearer hvalue hprintable hfind hverify ((RoleTable.mem_allowed?_ofRows hroles).mp hrole)
    · intro h
      cases h with
      | openPath unnamed =>
        rw [RoleTable.allowed?_ofRows_eq_none_iff.mpr unnamed] at hroles
        cases hroles
      | @bearer value token verified _ _ hfind hverify named =>
        have hrole := (RoleTable.mem_allowed?_ofRows hroles).mpr named
        have hverdict : authorizeRoles ⟨keeper, .ofRows rows⟩ roles now path m = .ok verified :=
          authorizeRoles_eq_ok_iff.mpr ⟨token, hfind, hverify, hrole⟩
        simp only [hverdict]
        rfl

theorem not_lacksRole
    (h : ∀ token claims, Credential.find m = .ok (some token) → keeper.verify now token ≠ .ok claims) :
    ¬ LacksRole keeper rows now path m :=
  fun ⟨token, claims, hfind, hverified, _⟩ => h token claims hfind hverified

/-- A denial blames the role exactly when the token verifies for one that is not named. -/
theorem code_of_authorize {denial : Denial}
    (h : (Guard.mk keeper (.ofRows rows)).authorize now path m = .error denial) :
    (denial.status.code = .permissionDenied ∧ LacksRole keeper rows now path m) ∨
      (denial.status.code = .unauthenticated ∧ ¬ LacksRole keeper rows now path m) := by
  rw [authorize] at h
  split at h
  · cases h
  · rename_i roles hroles
    cases hverdict : authorizeRoles ⟨keeper, .ofRows rows⟩ roles now path m with
    | ok claims =>
      rw [hverdict] at h
      cases h
    | error reason =>
      rw [hverdict] at h
      cases h
      unfold authorizeRoles at hverdict
      split at hverdict
      · rename_i fault hfind
        cases hverdict
        exact .inr ⟨rfl, not_lacksRole fun token claims h => by rw [hfind] at h; cases h⟩
      · rename_i hfind
        cases hverdict
        exact .inr ⟨rfl, not_lacksRole fun token claims h => by rw [hfind] at h; cases h⟩
      · rename_i token hfind
        split at hverdict
        · rename_i error hverify
          cases hverdict
          refine .inr ⟨rfl, not_lacksRole fun other claims h hverified => ?_⟩
          rw [hfind] at h
          cases h
          rw [hverify] at hverified
          cases hverified
        · rename_i claims hverify
          split at hverdict
          · cases hverdict
          · rename_i hrole
            cases hverdict
            refine .inl ⟨rfl, token, claims, hfind, hverify, fun row hrow hpath hnamed => hrole ?_⟩
            exact List.contains_iff_mem.mpr
              ((RoleTable.mem_allowed?_ofRows hroles).mpr ⟨row, hrow, hpath, hnamed⟩)

end Decision

section Intercept

variable {g : Guard} {now : Int} {arrival : Instant} {flag : Nat} {path : String} {m : Metadata}
  {σ β : Type} {service : String → Metadata → Admission → σ → β × σ} {s : σ}

theorem intercept_of_authorize_ok {claims : Option Claims}
    (h : g.authorize now path m = .ok claims) :
    g.intercept now arrival flag service path m s =
      (.ok (service path m ⟨claims, .ofMetadata m arrival flag⟩ s).1,
        (service path m ⟨claims, .ofMetadata m arrival flag⟩ s).2) := by
  rw [intercept, pass, h]
  rfl

theorem intercept_of_authorize_error {denial : Denial}
    (h : g.authorize now path m = .error denial) :
    g.intercept now arrival flag service path m s = (.error denial.status.reply, s) := by
  rw [intercept, pass, h]
  rfl

end Intercept

/-- **The guard's verdict.** Under a table made from any rows, a call that may pass reaches the
service behind the guard, whatever that service is, once and as it came, with the claims of its token
and a context that has a deadline exactly if the first time limit in the metadata is well formed. Any
other call leaves the service alone and is answered with a status: permission denied if its token
verifies but lacks the role, unauthenticated otherwise, with a message of printable ASCII. -/
theorem intercept_decides (keeper : TokenKeeper) (rows : List (String × List String)) (now : Int)
    (arrival : Instant) (flag : Nat) (path : String) (m : Metadata) :
    (∀ claims, Passes keeper rows now path m claims →
      ∃ context : CallContext,
        (context.deadline.isSome = true ↔
          ∃ value, (m.values CallContext.timeoutName).head? = some value ∧
            CallContext.IsTimeout value) ∧
        ∀ {σ β : Type} (service : String → Metadata → Admission → σ → β × σ) (s : σ),
          (Guard.mk keeper (.ofRows rows)).intercept now arrival flag service path m s =
            (.ok (service path m ⟨claims, context⟩ s).1, (service path m ⟨claims, context⟩ s).2)) ∧
    ((∀ claims, ¬ Passes keeper rows now path m claims) →
      ∃ (code : StatusCode) (message : String),
        ((code = .permissionDenied ∧ LacksRole keeper rows now path m) ∨
          (code = .unauthenticated ∧ ¬ LacksRole keeper rows now path m)) ∧
        (∀ c ∈ message.toList, 0x20 ≤ c.toNat ∧ c.toNat ≤ 0x7e) ∧
        ∀ {σ β : Type} (service : String → Metadata → Admission → σ → β × σ) (s : σ),
          (Guard.mk keeper (.ofRows rows)).intercept now arrival flag service path m s =
            (.error ⟨200, "application/grpc", String.ofList (Text.Decimal.digits code.number),
              some message⟩, s)) := by
  constructor
  · intro claims hpasses
    refine ⟨.ofMetadata m arrival flag, ?_, fun service s => ?_⟩
    · rw [← CallContext.timeout?_isSome_iff, CallContext.ofMetadata, Option.isSome_map]
    · exact intercept_of_authorize_ok (authorize_eq_ok_iff.mpr hpasses)
  · intro hnone
    cases hverdict : (Guard.mk keeper (.ofRows rows)).authorize now path m with
    | ok claims => exact absurd (authorize_eq_ok_iff.mp hverdict) (hnone claims)
    | error denial =>
      refine ⟨denial.status.code, Text.Percent.encode denial.status.message,
        code_of_authorize hverdict, fun c hc => ?_, fun service s => ?_⟩
      · obtain ⟨hlow, hhigh⟩ := Text.Percent.printable_encode _ c hc
        exact ⟨by omega, hhigh⟩
      · rw [intercept_of_authorize_error hverdict, Status.reply_of_message_ne denial.message_ne]

def oneGate : List (String × List String) := [("/rate", ["admin"])]

def twoTokens : Metadata :=
  .ofList [("authorization", Bytes.ofText "a"), ("grpc-timeout", Bytes.ofText "10S"),
    ("authorization", Bytes.ofText "b")]

def tally (_ : String) (_ : Metadata) (_ : Admission) (n : Nat) : Unit × Nat := ((), n + 1)

theorem intercept_decides_twoTokens :
    let keeper := Server.usual.guard.keeper
    let guard : Guard := ⟨keeper, .ofRows oneGate⟩
    Passes keeper oneGate 0 "/find" twoTokens none ∧
      (guard.intercept 0 0 0 tally "/find" twoTokens 0).2 = 1 ∧
      (∀ claims, ¬ Passes keeper oneGate 0 "/rate" twoTokens claims) ∧
      (guard.intercept 0 0 0 tally "/rate" twoTokens 0).2 = 0 := by
  intro keeper guard
  have hopen : Passes keeper oneGate 0 "/find" twoTokens none := .openPath (by decide)
  have hgated : ∀ claims, ¬ Passes keeper oneGate 0 "/rate" twoTokens claims := by
    intro claims h
    cases h with
    | openPath unnamed => exact absurd rfl (unnamed _ List.mem_cons_self)
    | bearer one =>
      have htwo : (twoTokens.values Credential.entryName).length = 2 := by decide +kernel
      rw [one] at htwo
      cases htwo
  obtain ⟨context, -, hpass⟩ :=
    (intercept_decides keeper oneGate 0 0 0 "/find" twoTokens).1 none hopen
  obtain ⟨code, message, -, -, hdeny⟩ :=
    (intercept_decides keeper oneGate 0 0 0 "/rate" twoTokens).2 hgated
  exact ⟨hopen, by rw [hpass]; rfl, hgated, by rw [hdeny]⟩

end Guard

namespace Server

def route (server : Server) (o : Circumstances) (call : Call) (path : String) (_ : Metadata)
    (admission : Admission) (s : State) : Answer × State :=
  match Method.ofPath? path with
  | some method => server.perform o call s admission.context method
  | none => (.refused noMethod, s)

theorem serve_eq_intercept (server : Server) (o : Circumstances) (call : Call) (s : State) :
    let outcome := server.guard.intercept o.time o.arrival o.flag (server.route o call) call.path
      call.metadata s
    (server.serve o call s).2 = outcome.2 ∧
      match outcome.1 with
      | .ok answer => (server.serve o call s).1 = answer
      | .error head => ∃ status, (server.serve o call s).1 = .refused status ∧
          status.reply = head := by
  simp only [serve, Guard.intercept, route]
  cases server.guard.pass o.time o.arrival o.flag call.path call.metadata with
  | error denial => exact ⟨rfl, denial.status, rfl, rfl⟩
  | ok admission => exact ⟨rfl, rfl⟩

end Server

end Showroom
