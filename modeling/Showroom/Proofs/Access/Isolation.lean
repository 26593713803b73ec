import Showroom.Proofs.Service.Frame

/-!
# Showroom.Proofs.Access.Isolation

The guard and runs of calls. A call that is turned away might as well not have been made: the other
calls of a run are answered as they would be without it, and nothing that the service keeps is
different afterwards. A call that does change something has shown a token that verified then, with
a role that the usual table names.

* `Guard.authorizeRoles_eq_ok_iff`: who is let through to a path with roles.
* `Server.run_filter_admits`: a run without the calls that were turned away.
* `Server.run_confined`: both statements for every run under the usual table.
-/

namespace Showroom

namespace Guard

variable {g : Guard} {now : Int} {path : String} {m : Metadata} {roles : List String}
  {claims : Claims}

theorem authorizeRoles_eq_ok_iff :
    g.authorizeRoles roles now path m = .ok claims ↔
      ∃ token, Credential.find m = .ok (some token) ∧ g.keeper.verify now token = .ok claims ∧
        claims.role ∈ roles := by
  unfold authorizeRoles
  constructor
  · intro h
    split at h
    · cases h
    · cases h
    · rename_i token hf
      split at h
      · cases h
      · rename_i verified hv
        split at h
        · rename_i hr
          cases h
          exact ⟨token, hf, hv, List.contains_iff_mem.mp hr⟩
        · cases h
  · rintro ⟨token, hf, hv, hr⟩
    simp [hf, hv, hr]

/-- A call let through to a path with roles shows a token that verifies, with one of them. -/
theorem token_of_pass {arrival : Instant} {flag : Nat} (hg : g.roles.allowed? path = some roles)
    (h : (g.pass now arrival flag path m).isOk = true) :
    ∃ token claims, Credential.find m = .ok (some token) ∧
      g.keeper.verify now token = .ok claims ∧ claims.role ∈ roles := by
  simp only [pass, authorize, hg] at h
  cases ha : g.authorizeRoles roles now path m with
  | error denial => rw [ha] at h; cases h
  | ok claims =>
    obtain ⟨token, hf, hv, hr⟩ := authorizeRoles_eq_ok_iff.mp ha
    exact ⟨token, claims, hf, hv, hr⟩

end Guard

namespace RoleTable

theorem allowed?_standard_createLaptop :
    standard.allowed? Method.createLaptop.path = some [admin] := by decide

theorem allowed?_standard_uploadImage :
    standard.allowed? Method.uploadImage.path = some [admin] := by decide

theorem allowed?_standard_rateLaptop :
    standard.allowed? Method.rateLaptop.path = some [admin, user] := by decide

end RoleTable

namespace Server

/-- Whether a call shows a token that verifies when the call is made, with this role. -/
def Bears (server : Server) (o : Circumstances) (call : Call) (role : String) : Prop :=
  ∃ token claims, Credential.find call.metadata = .ok (some token) ∧
    server.guard.keeper.verify o.time token = .ok claims ∧ claims.role = role

section Runs

variable {server : Server}

/-- A run without the calls that were turned away: the same answers to the calls that are left, and
the same state at the end. -/
theorem run_filter_admits (calls : List (Circumstances × Call)) (s : State) :
    server.run (calls.filter fun c => server.admits c.1 c.2) s =
      ((((calls.zip (server.run calls s).1).filter fun p => server.admits p.1.1 p.1.2).map
        Prod.snd), (server.run calls s).2) := by
  induction calls generalizing s with
  | nil => rfl
  | cons c calls ih =>
    obtain ⟨o, call⟩ := c
    by_cases ha : server.admits o call = true
    · simp only [List.filter_cons, ha, if_true, run_cons, List.zip_cons_cons, List.map_cons, ih]
    · have hs := serve_state_of_not_admits (s := s) (Bool.eq_false_iff.mpr ha)
      simp only [List.filter_cons, ha, run_cons, List.zip_cons_cons, hs]
      exact ih s

end Runs

/-- What a call has to show to take the service from one state to another: an admin's token to
change laptops or images, an admin's or a user's to change ratings. Logging in and searching change
nothing, and no call changes the accounts. -/
structure Confined (server : Server) (o : Circumstances) (call : Call) (s₁ s₂ : State) : Prop where
  laptops : s₂.catalog ≠ s₁.catalog → server.Bears o call RoleTable.admin
  images : s₂.gallery ≠ s₁.gallery ∨ s₂.disk ≠ s₁.disk → server.Bears o call RoleTable.admin
  ratings : s₂.scoreboard ≠ s₁.scoreboard →
    server.Bears o call RoleTable.admin ∨ server.Bears o call RoleTable.user
  readers : call.path = Method.login.path ∨ call.path = Method.searchLaptop.path → s₂ = s₁
  users : s₂.accounts = s₁.accounts

section Writes

variable {server : Server} (standard : server.guard.roles = RoleTable.standard)
  (o : Circumstances) (call : Call) (s : State)

include standard

theorem serve_writes :
    (server.serve o call s).2 = s ∨
    (call.path = Method.createLaptop.path ∧ server.Bears o call RoleTable.admin ∧
      ∃ catalog, (server.serve o call s).2 = { s with catalog := catalog }) ∨
    (call.path = Method.uploadImage.path ∧ server.Bears o call RoleTable.admin ∧
      ∃ gallery disk, (server.serve o call s).2 = { s with gallery := gallery, disk := disk }) ∨
    (call.path = Method.rateLaptop.path ∧
      (server.Bears o call RoleTable.admin ∨ server.Bears o call RoleTable.user) ∧
      ∃ scoreboard, (server.serve o call s).2 = { s with scoreboard := scoreboard }) := by
  by_cases hs : (server.serve o call s).2 = s
  · exact .inl hs
  obtain ⟨ha, method, context, hpath, hserve⟩ := exists_method_of_state_ne hs
  have bears {roles : List String} (hg : RoleTable.standard.allowed? method.path = some roles) :
      ∃ role ∈ roles, server.Bears o call role := by
    obtain ⟨token, claims, hf, hv, hr⟩ := Guard.token_of_pass (by rw [standard, hpath]; exact hg) ha
    exact ⟨claims.role, hr, token, claims, hf, hv, rfl⟩
  rw [hserve] at hs ⊢
  cases method with
  | createLaptop =>
    obtain ⟨role, hr, hb⟩ := bears RoleTable.allowed?_standard_createLaptop
    rw [List.mem_singleton.mp hr] at hb
    exact .inr (.inl ⟨hpath, hb, createLaptop_state⟩)
  | searchLaptop => exact absurd searchLaptop_state hs
  | uploadImage =>
    obtain ⟨role, hr, hb⟩ := bears RoleTable.allowed?_standard_uploadImage
    rw [List.mem_singleton.mp hr] at hb
    exact .inr (.inr (.inl ⟨hpath, hb, uploadImage_state⟩))
  | rateLaptop =>
    obtain ⟨role, hr, hb⟩ := bears RoleTable.allowed?_standard_rateLaptop
    simp only [List.mem_cons, List.not_mem_nil, or_false] at hr
    rcases hr with rfl | rfl
    · exact .inr (.inr (.inr ⟨hpath, .inl hb, rateLaptop_state⟩))
    · exact .inr (.inr (.inr ⟨hpath, .inr hb, rateLaptop_state⟩))
  | login => exact absurd login_state hs

theorem serve_confined : server.Confined o call s (server.serve o call s).2 := by
  rcases serve_writes standard o call s with
    h | ⟨hp, hb, _, h⟩ | ⟨hp, hb, _, _, h⟩ | ⟨hp, hb, _, h⟩
  · rw [h]
    exact ⟨fun hc => absurd rfl hc, fun hi => by simp at hi, fun hr => absurd rfl hr, fun _ => rfl,
      rfl⟩
  · rw [h]
    refine ⟨fun _ => hb, fun hi => by simp at hi, fun hr => absurd rfl hr, fun ho => ?_, rfl⟩
    rw [hp] at ho
    exact absurd ho (by decide)
  · rw [h]
    refine ⟨fun hc => absurd rfl hc, fun _ => hb, fun hr => absurd rfl hr, fun ho => ?_, rfl⟩
    rw [hp] at ho
    exact absurd ho (by decide)
  · rw [h]
    refine ⟨fun hc => absurd rfl hc, fun hi => by simp at hi, fun _ => hb, fun ho => ?_, rfl⟩
    rw [hp] at ho
    exact absurd ho (by decide)

/-- **Only admitted calls count, and only bearers write.** Under the usual table, a run without the
calls that were turned away answers the other calls as the whole run does and ends in the same
state; and each call of the run changes the catalog or the images only for a bearer of an admin's
token, the ratings only for an admin's or a user's, and nothing at all if it logs in or
searches. -/
theorem run_confined (calls : List (Circumstances × Call)) (s : State) :
    server.run (calls.filter fun c => server.admits c.1 c.2) s =
      ((((calls.zip (server.run calls s).1).filter fun p => server.admits p.1.1 p.1.2).map
        Prod.snd), (server.run calls s).2) ∧
    ∀ before o call after, calls = before ++ (o, call) :: after →
      server.Confined o call (server.run before s).2 (server.run (before ++ [(o, call)]) s).2 := by
  refine ⟨run_filter_admits calls s, ?_⟩
  intro before o call _ _
  simp only [run_append, run_cons, run_nil]
  exact serve_confined standard o call _

end Writes

theorem secret_ne : "secret" ≠ "" := by decide

def usual : Server :=
  ⟨⟨⟨"secret", 60, secret_ne, fun _ => "expected value"⟩, RoleTable.standard⟩, 1024⟩

/-- A laptop submitted without a token. -/
def intrusion : Call := ⟨Method.createLaptop.path, {}, [.ok []]⟩

def inquiry : Call := ⟨Method.searchLaptop.path, {}, [.ok []]⟩

theorem run_confined_intrusion :
    usual.guard.roles = RoleTable.standard ∧
    usual.run [(default, inquiry)] default =
      ((usual.run [(default, intrusion), (default, inquiry)] default).1.tail,
        (usual.run [(default, intrusion), (default, inquiry)] default).2) ∧
    usual.Confined default inquiry (usual.run [(default, intrusion)] default).2
      (usual.run [(default, intrusion), (default, inquiry)] default).2 := by
  have standard : usual.guard.roles = RoleTable.standard := rfl
  have h := run_confined standard [(default, intrusion), (default, inquiry)] default
  exact ⟨standard, h.1, h.2 [(default, intrusion)] default inquiry [] rfl⟩

end Server

end Showroom
