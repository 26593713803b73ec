import Showroom.Account.Seeding
import Showroom.Proofs.Access.Admission
import Showroom.Proofs.Account.PasswordHash
import Showroom.Proofs.Token.Verify
import Showroom.Service.Login

/-!
# Showroom.Proofs.Access.Login

From a login to a gated method. Users who are there from the start get a token for their own
password and for no other. A token is made of symbols that go through a header as they are and cannot
be taken for the mark or the blanks before it, so a client that puts it in place of whatever it sent
before has it read as it was issued, and the guard lets the call through if the user's role is among
those of the path.

* `Accounts.seed_of_free`: the accounts that users are registered in.
* `TokenKeeper.grants_issue`: what a token that was issued is good for.
* `Login.login_decides`: from the list of users to the guard's decision.
-/

namespace Showroom

/-! ## Users from the start -/

namespace Accounts

theorem add_of_free {a : Accounts} {u : User} (free : a.find? u.username = none) :
    a.add u = .ok ⟨a.users.put u.username u⟩ := by
  have hfree : a.users.contains u.username = false := by
    rw [Table.contains, ← find?, free]
    rfl
  rw [add, hfree]
  rfl

/-- Users whose names differ from each other, and from those that are there, are all registered. -/
theorem seed_of_free {a : Accounts} {users : List (NewUser × Bytes)}
    (distinct : (users.map (·.1.username)).Nodup)
    (free : ∀ u ∈ users, a.find? u.1.username = none) :
    ∃ accounts, a.seed users = (accounts, none) ∧
      ∀ name user, accounts.find? name = some user ↔
        a.find? name = some user ∨ ∃ u ∈ users, u.1.username = name ∧
          user = .register u.2 u.1.username u.1.password u.1.role := by
  -- By induction on the users: the next name is still free once one of them is registered.
  induction users generalizing a with
  | nil => exact ⟨a, rfl, by simp⟩
  | cons first rest ih =>
    obtain ⟨u, salt⟩ := first
    rw [List.map_cons, List.nodup_cons] at distinct
    obtain ⟨hfree, hlater⟩ := List.forall_mem_cons.mp free
    let user := User.register salt u.username u.password u.role
    let added : Accounts := ⟨a.users.put u.username user⟩
    have hadd : a.add user = .ok added := add_of_free hfree
    have hfind : ∀ name, added.find? name = if name = u.username then some user else a.find? name :=
      fun _ => Table.find?_put
    have hrest : ∀ v ∈ rest, added.find? v.1.username = none := by
      intro v hv
      have hne : v.1.username ≠ u.username := fun h => distinct.1 (List.mem_map.mpr ⟨v, hv, h⟩)
      rw [hfind, if_neg hne, hlater v hv]
    obtain ⟨accounts, hseed, haccounts⟩ := ih distinct.2 hrest
    refine ⟨accounts, by rw [seed, hadd]; exact hseed, fun name other => ?_⟩
    rw [haccounts, hfind, List.exists_mem_cons_iff, ← or_assoc]
    refine or_congr_left ?_
    by_cases hname : name = u.username
    · subst hname
      rw [if_pos rfl, hfree]
      simp [user, eq_comm]
    · rw [if_neg hname]
      simp [Ne.symm hname]

end Accounts

/-! ## What a token is good for -/

theorem Guard.authorize_of_verify {g : Guard} {time : Int} {path : String} {sent : Metadata}
    {roles : List String} {token : String} {claims : Claims}
    (gated : g.roles.allowed? path = some roles) (found : Credential.find sent = .ok (some token))
    (verified : g.keeper.verify time token = .ok claims) :
    g.authorize time path sent =
      if claims.role ∈ roles then .ok (some claims)
      else .error (.roleNotAllowed claims.role path) := by
  simp only [authorize, gated, authorizeRoles, found, verified]
  by_cases hrole : claims.role ∈ roles
  · rw [if_pos (List.contains_iff_mem.mpr hrole), if_pos hrole]
    rfl
  · rw [if_neg (mt List.contains_iff_mem.mp hrole), if_neg hrole]
    rfl

namespace TokenKeeper

/-- What a token that was issued now is good for. A client can attach it to any metadata, in place
of all tokens there and of nothing else; it is what the server finds there; and until it expires, a
path with roles lets it through with what is known of the user exactly if the user's role is among
them. -/
structure Grants (k : TokenKeeper) (now : Int) (user : User) (token : String) : Prop where
  attached : ∀ m, ∃ sent, Credential.attach token m = some sent ∧
    sent.values Credential.entryName = [Bytes.ofText token] ∧
    ∀ name, name ≠ Credential.entryName → sent.values name = m.values name
  found : ∀ m sent, Credential.attach token m = some sent →
    Credential.find sent = .ok (some token)
  decided : ∀ m sent table path roles time, Credential.attach token m = some sent →
    RoleTable.allowed? table path = some roles → time ≤ k.expiry now →
    (Guard.mk k table).authorize time path sent =
      if user.role ∈ roles then .ok (some ⟨user.username, user.role, now, k.expiry now⟩)
      else .error (.roleNotAllowed user.role path)

variable {k : TokenKeeper} {now : Int}

theorem plain_issue (now : Int) (username role : String) :
    Credential.Plain (k.issue now username role) := by
  rw [issue_eq_tokenOf]
  generalize Claims.render ⟨username, role, now, k.expiry now⟩ = payload
  constructor
  · intro hempty
    have hne : k.sealed Token.header payload ≠ [] := by simp [sealed]
    rw [← ofText_tokenOf, hempty] at hne
    exact hne rfl
  · rw [ofText_tokenOf]
    exact forall_mem_sealed (by decide) (by decide)

theorem grants_of_plain {user : User} {token : String} (plain : Credential.Plain token)
    (verified : ∀ time, time ≤ k.expiry now →
      k.verify time token = .ok ⟨user.username, user.role, now, k.expiry now⟩) :
    Grants k now user token := by
  have hfound : ∀ m sent, Credential.attach token m = some sent →
      Credential.find sent = .ok (some token) := by
    intro m sent hsent
    rw [Credential.attach_of_plain plain] at hsent
    cases hsent
    exact Credential.find_of_values plain (Metadata.values_set_self _ _ _)
  refine ⟨fun m => ?_, hfound, ?_⟩
  · exact ⟨_, Credential.attach_of_plain plain m, Metadata.values_set_self _ _ _,
      fun name hname => Metadata.values_set_of_ne _ _ _ hname⟩
  · intro m sent table path roles time hsent hgated htime
    exact Guard.authorize_of_verify (g := ⟨k, table⟩) hgated (hfound m sent hsent)
      (verified time htime)

theorem grants_issue (h : 0 ≤ now) (hmax : now ≤ Claims.timeMax) (user : User) :
    Grants k now user (k.issue now user.username user.role) :=
  grants_of_plain (plain_issue now user.username user.role) fun time htime =>
    (verify_issued h hmax user.username user.role time).trans (if_pos htime)

end TokenKeeper

/-! ## Logging in -/

namespace Login

variable {a : Accounts} {k : TokenKeeper} {now : Int} {request : LoginRequest}

theorem answer_eq_ok_iff {response : LoginResponse} :
    answer a k now request = .ok response ↔
      ∃ user, a.find? request.username = some user ∧ user.hasPassword request.password = true ∧
        ⟨k.issue now user.username user.role⟩ = response := by
  rw [answer, Accounts.authenticate]
  cases a.find? request.username with
  | none => simp
  | some user =>
    rw [Option.filter_some]
    cases hpassword : user.hasPassword request.password <;> simp [hpassword]

/-- **From a login to a gated method.** Users with different names are all registered, each under
its own name. Whoever asks for a token gets one exactly if the name is that of a user and the
password fits what is stored for this user. By a clock that counts from 1970 in 64 bits, the token is
good for what `Grants` says of this user. Everybody else gets one and the same status. -/
theorem login_decides (k : TokenKeeper) {users : List (NewUser × Bytes)}
    (distinct : (users.map (·.1.username)).Nodup) :
    ∃ accounts, Accounts.seed {} users = (accounts, none) ∧
      (∀ name user, accounts.find? name = some user ↔ ∃ u ∈ users, u.1.username = name ∧
        user = .register u.2 u.1.username u.1.password u.1.role) ∧
      ∀ now request,
        ((∃ response, answer accounts k now request = .ok response) ↔
          ∃ user, accounts.find? request.username = some user ∧
            user.hasPassword request.password = true) ∧
        (∀ response, answer accounts k now request = .ok response → 0 ≤ now → now ≤ Claims.timeMax →
          ∃ user, accounts.find? request.username = some user ∧ user.username = request.username ∧
            k.Grants now user response.accessToken) ∧
        ∀ refusal, answer accounts k now request = .error refusal →
          refusal.status = ⟨.notFound, "invalid username or password"⟩ := by
  have hnone : ∀ name, Accounts.find? {} name = none := fun _ => rfl
  obtain ⟨accounts, hseed, hfind⟩ := Accounts.seed_of_free distinct fun u _ => hnone u.1.username
  have hfind : ∀ name user, accounts.find? name = some user ↔ ∃ u ∈ users, u.1.username = name ∧
      user = .register u.2 u.1.username u.1.password u.1.role := by
    intro name user
    rw [hfind, hnone, or_iff_right (by simp)]
  refine ⟨accounts, hseed, hfind, fun now request => ⟨?_, ?_, ?_⟩⟩
  · simp only [answer_eq_ok_iff]
    constructor
    · rintro ⟨response, user, huser, hpassword, -⟩
      exact ⟨user, huser, hpassword⟩
    · rintro ⟨user, huser, hpassword⟩
      exact ⟨_, user, huser, hpassword, rfl⟩
  · intro response hresponse hnow hmax
    obtain ⟨user, huser, -, rfl⟩ := answer_eq_ok_iff.mp hresponse
    obtain ⟨u, -, hname, hregistered⟩ := (hfind _ _).mp huser
    have husername : user.username = request.username := by
      rw [hregistered, ← hname]
      rfl
    dsimp only
    exact ⟨user, huser, husername, TokenKeeper.grants_issue hnow hmax user⟩
  · rintro ⟨⟩ -
    rfl

def saltOf (b : UInt8) : Bytes := List.replicate 16 b

/-- Two users; the first logs in and calls with metadata that has two other tokens. -/
theorem login_decides_seeded :
    ((["ä.\"b", "user1"] : List String)).Nodup ∧ ∃ accounts response sent,
      Accounts.seed {} [(⟨"ä.\"b", "secret", "rôle"⟩, saltOf 7), (⟨"user1", "", "user"⟩, saltOf 9)] =
        (accounts, none) ∧
      answer accounts TokenKeeper.lastingKeeper 1 ⟨"ä.\"b", "secret"⟩ = .ok response ∧
      Credential.attach response.accessToken Guard.twoTokens = some sent ∧
      Credential.find sent = .ok (some response.accessToken) ∧
      (Guard.mk TokenKeeper.lastingKeeper (({} : RoleTable).allow "/rate" ["rôle"])).authorize 5
          "/rate" sent = .ok (some ⟨"ä.\"b", "rôle", 1, Claims.timeMax⟩) := by
  have distinct : ([((⟨"ä.\"b", "secret", "rôle"⟩ : NewUser), saltOf 7),
      (⟨"user1", "", "user"⟩, saltOf 9)].map (·.1.username)).Nodup := by decide
  obtain ⟨accounts, hseed, hfind, hlogin⟩ := login_decides TokenKeeper.lastingKeeper distinct
  let user := User.register (saltOf 7) "ä.\"b" "secret" "rôle"
  have huser : accounts.find? "ä.\"b" = some user :=
    (hfind _ _).mpr ⟨_, List.mem_cons_self, rfl, rfl⟩
  have hpassword : user.hasPassword "secret" = true :=
    (User.hasPassword_register_iff (by decide) (by decide)).mpr rfl
  obtain ⟨hiff, htoken, -⟩ := hlogin 1 ⟨"ä.\"b", "secret"⟩
  obtain ⟨response, hresponse⟩ := hiff.mpr ⟨user, huser, hpassword⟩
  obtain ⟨found, hfound, -, hgrants⟩ := htoken response hresponse (by decide) (by decide)
  obtain rfl : user = found := Option.some.inj (huser.symm.trans hfound)
  obtain ⟨sent, hsent, -⟩ := hgrants.attached Guard.twoTokens
  have hdecided := hgrants.decided Guard.twoTokens sent (({} : RoleTable).allow "/rate" ["rôle"])
    "/rate" ["rôle"] 5 hsent (by decide) (by decide)
  exact ⟨by decide, accounts, response, sent, hseed, hresponse, hsent, hgrants.found _ _ hsent,
    hdecided.trans (if_pos List.mem_cons_self)⟩

end Login

end Showroom
