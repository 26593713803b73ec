import Mathlib.Data.List.Induction
import Mathlib.Data.List.Nodup
import Showroom.Proofs.Access.Login
import Showroom.Proofs.Disk.Folders
import Showroom.Startup

/-!
# Showroom.Proofs.Startup

Starting the service. What can be wrong is looked at in a fixed order: the size limit, the secret,
the image folder, and the names of the users one after the other. A service that starts has its
folder and its users, and nothing else; one that does not says what was wrong first.

* `Accounts.seed_of_repeated`: the first name that comes up again is the one that is reported.
* `Settings.start_decides`: when the service starts, with what, and how it fails otherwise.
-/

namespace Showroom

/-- The first member of a list for which a function has a value that it had before, and what is
around it. -/
structure FirstRepeat {α β : Type} (f : α → β) (xs before : List α) (x : α) (after : List α) :
    Prop where
  split : xs = before ++ x :: after
  distinct : (before.map f).Nodup
  repeated : f x ∈ before.map f

theorem exists_firstRepeat {α β : Type} {f : α → β} {xs : List α} (h : ¬ (xs.map f).Nodup) :
    ∃ before x after, FirstRepeat f xs before x after := by
  -- By induction from the end of the list: a repeat among the members before the last is also one
  -- of all, and otherwise it can only be the last that repeats one of them.
  induction xs using List.reverseRecOn with
  | nil => exact absurd List.nodup_nil h
  | append_singleton xs x ih =>
    by_cases hxs : (xs.map f).Nodup
    · refine ⟨xs, x, [], rfl, hxs, ?_⟩
      by_contra hnew
      refine h ?_
      rw [List.map_append, List.map_singleton, ← List.concat_eq_append]
      exact hxs.concat hnew
    · obtain ⟨before, y, after, rfl, hdistinct, hrepeated⟩ := ih hxs
      exact ⟨before, y, after ++ [x], by simp, hdistinct, hrepeated⟩

theorem FirstRepeat.not_nodup {α β : Type} {f : α → β} {xs before after : List α} {x : α}
    (h : FirstRepeat f xs before x after) : ¬ (xs.map f).Nodup := by
  intro hnodup
  rw [h.split, List.map_append, List.map_cons] at hnodup
  exact (List.nodup_append.mp hnodup).2.2 _ h.repeated _ List.mem_cons_self rfl

namespace Accounts

variable {a accounts : Accounts} {users before after : List (NewUser × Bytes)}

theorem seed_append (h : a.seed before = (accounts, none)) :
    a.seed (before ++ after) = accounts.seed after := by
  induction before generalizing a with
  | nil =>
    cases h
    rfl
  | cons first rest ih =>
    obtain ⟨u, salt⟩ := first
    rw [seed] at h
    rw [List.cons_append, seed]
    split at h
    · exact ih h
    · cases h

theorem seed_of_repeated {u : NewUser × Bytes}
    (h : FirstRepeat (·.1.username) users before u after) :
    (Accounts.seed {} users).2 = some ⟨u.1.username⟩ := by
  obtain ⟨accounts, hseed, hfind⟩ := seed_of_free (a := {}) h.distinct fun _ _ => rfl
  obtain ⟨v, hv, hname⟩ := List.mem_map.mp h.repeated
  have htaken : accounts.users.contains u.1.username = true :=
    Table.contains_iff.mpr ⟨_, (hfind _ _).mpr (.inr ⟨v, hv, hname, rfl⟩)⟩
  obtain ⟨new, salt⟩ := u
  have hadd : accounts.add (.register salt new.username new.password new.role) =
      .error ⟨new.username⟩ := if_pos htaken
  rw [h.split, seed_append hseed, seed, hadd]

end Accounts

namespace Settings

def salted (s : Settings) (salt : Nat → Bytes) : List (NewUser × Bytes) :=
  s.seedUsers.zipIdx.map fun u => (u.1, salt u.2)

/-- A user as one of the settings was registered: with the role from there and a hash of the
password from there, so that with a salt of the usual length the passwords that have this hash are
accepted, this one among them. -/
structure Registered (salt : Bytes) (u : NewUser) (user : User) : Prop where
  username : user.username = u.username
  role : user.role = u.role
  stored : user.storedPassword = (PasswordHash.create salt u.password).text
  accepted : 8 ≤ salt.length → salt.length ≤ 48 → ∀ password, user.hasPassword password = true ↔
    Digest.Argon2.hash PasswordHash.defaults (Bytes.ofText password) salt =
      Digest.Argon2.hash PasswordHash.defaults (Bytes.ofText u.password) salt

/-- A service that was made from settings: its folder is there and its users are those of the
settings, and nothing has been kept in it yet. -/
structure Ready (s : Settings) (roles : RoleTable) (salt : Nat → Bytes) (d : Disk) (server : Server)
    (state : State) : Prop where
  limit : server.imageLimit = s.imageLimit.toNat
  secret : server.guard.keeper.secret = s.secret
  seconds : server.guard.keeper.seconds = s.tokenSeconds.toNat
  roles : server.guard.roles = roles
  folder : d.hasFolder s.imageFolder = true
  disk : state.disk = d
  laptops : state.catalog = {}
  images : state.gallery = ⟨s.imageFolder, {}⟩
  ratings : state.scoreboard = {}
  users : ∀ name user, state.accounts.find? name = some user ↔
    ∃ i u, s.seedUsers[i]? = some u ∧ u.username = name ∧ Registered (salt i) u user

section Start

variable (s : Settings) (roles : RoleTable) (salt : Nat → Bytes) (d : Disk)

/-- How starting ends, with what is on the disk by then. What is wrong is what is wrong first. -/
inductive Starts : Disk × Except StartupError (Server × State) → Prop where
  | tooLarge (limit : UInt32.size ≤ s.imageLimit.toNat) :
      Starts (d, .error (.imageLimit s.imageLimit.toNat))
  | noSecret (limit : s.imageLimit.toNat < UInt32.size) (secret : s.secret = "") :
      Starts (d, .error .emptySecret)
  | noFolder (limit : s.imageLimit.toNat < UInt32.size) (secret : s.secret ≠ "") {d' : Disk}
      {cause : DiskError} (folder : d.makeFolders s.imageFolder = (d', some cause))
      (missing : d'.hasFolder s.imageFolder = false) :
      Starts (d', .error (.noFolder cause))
  | nameTaken (limit : s.imageLimit.toNat < UInt32.size) (secret : s.secret ≠ "") {d' : Disk}
      (folder : d.makeFolders s.imageFolder = (d', none)) {before after : List NewUser}
      {u : NewUser} (taken : FirstRepeat (·.username) s.seedUsers before u after) :
      Starts (d', .error (.userExists ⟨u.username⟩))
  | started (limit : s.imageLimit.toNat < UInt32.size) (secret : s.secret ≠ "") {d' : Disk}
      (folder : d.makeFolders s.imageFolder = (d', none))
      (distinct : (s.seedUsers.map (·.username)).Nodup) {server : Server} {state : State}
      (ready : Ready s roles salt d' server state) :
      Starts (d', .ok (server, state))

end Start

variable {s : Settings} {roles : RoleTable} {salt : Nat → Bytes} {d d' : Disk}

theorem map_fst_salted (s : Settings) (salt : Nat → Bytes) :
    (s.salted salt).map (·.1) = s.seedUsers := by
  rw [salted, List.map_map]
  exact List.zipIdx_map_fst 0 s.seedUsers

theorem mem_salted {u : NewUser × Bytes} :
    u ∈ s.salted salt ↔ ∃ i, s.seedUsers[i]? = some u.1 ∧ u.2 = salt i := by
  simp only [salted, List.mem_map, Prod.exists, List.mem_zipIdx_iff_getElem?]
  constructor
  · rintro ⟨new, i, hi, rfl⟩
    exact ⟨i, hi, rfl⟩
  · rintro ⟨i, hi, hsalt⟩
    exact ⟨u.1, i, hi, Prod.ext rfl hsalt.symm⟩

theorem registered_iff {salt : Bytes} {u : NewUser} {user : User} :
    Registered salt u user ↔ user = .register salt u.username u.password u.role := by
  constructor
  · rintro ⟨husername, hrole, hstored, -⟩
    obtain ⟨username, stored, role⟩ := user
    cases husername
    cases hrole
    cases hstored
    rfl
  · rintro rfl
    exact ⟨rfl, rfl, rfl, fun hsalt hsalt' _ => User.hasPassword_register_iff hsalt hsalt'⟩

theorem seed_salted (salt : Nat → Bytes) (distinct : (s.seedUsers.map (·.username)).Nodup) :
    ∃ accounts, Accounts.seed {} (s.salted salt) = (accounts, none) ∧
      ∀ name user, accounts.find? name = some user ↔
        ∃ i u, s.seedUsers[i]? = some u ∧ u.username = name ∧ Registered (salt i) u user := by
  have hdistinct : ((s.salted salt).map (·.1.username)).Nodup := by
    rw [← map_fst_salted s salt, List.map_map] at distinct
    exact distinct
  obtain ⟨accounts, hseed, hfind⟩ := Accounts.seed_of_free (a := {}) hdistinct fun _ _ => rfl
  refine ⟨accounts, hseed, fun name user => ?_⟩
  rw [hfind]
  constructor
  · rintro (hnone | ⟨u, hu, hname, hregistered⟩)
    · cases hnone
    · obtain ⟨i, hi, hsalt⟩ := mem_salted.mp hu
      exact ⟨i, u.1, hi, hname, registered_iff.mpr (hsalt ▸ hregistered)⟩
  · rintro ⟨i, u, hi, hname, hregistered⟩
    exact .inr ⟨(u, salt i), mem_salted.mpr ⟨i, hi, rfl⟩, hname, registered_iff.mp hregistered⟩

theorem seed_salted_of_repeated (salt : Nat → Bytes)
    (same : ¬ (s.seedUsers.map (·.username)).Nodup) :
    ∃ before u after, FirstRepeat (·.username) s.seedUsers before u after ∧
      (Accounts.seed {} (s.salted salt)).2 = some ⟨u.username⟩ := by
  rw [← map_fst_salted s salt, List.map_map] at same
  obtain ⟨before, u, after, hrepeat⟩ := exists_firstRepeat same
  refine ⟨before.map (·.1), u.1, after.map (·.1), ⟨?_, ?_, ?_⟩, Accounts.seed_of_repeated hrepeat⟩
  · rw [← map_fst_salted s salt, hrepeat.split, List.map_append, List.map_cons]
  · rw [List.map_map]
    exact hrepeat.distinct
  · rw [List.map_map]
    exact hrepeat.repeated

theorem starts_start (s : Settings) (jsonFault : Bytes → String) (roles : RoleTable)
    (salt : Nat → Bytes) (d : Disk) :
    Starts s roles salt d (s.start jsonFault roles salt d) := by
  rw [start]
  split
  · rename_i hlimit
    exact .tooLarge hlimit
  · rename_i hlimit
    have hlimit : s.imageLimit.toNat < UInt32.size := Nat.lt_of_not_le hlimit
    rw [TokenKeeper.ofSecret?]
    split
    · rename_i hsecret
      split at hsecret
      · rename_i hempty
        exact .noSecret hlimit hempty
      · cases hsecret
    · rename_i keeper hkeeper
      split at hkeeper
      · cases hkeeper
      · rename_i hsecret
        cases hkeeper
        have hfolder := d.makeFolders_eq_none_iff s.imageFolder
        split
        · rename_i d' cause hmake
          rw [hmake] at hfolder
          exact .noFolder hlimit hsecret hmake (by simpa using hfolder)
        · rename_i d' hmake
          rw [hmake] at hfolder
          have hthere := hfolder.mp rfl
          by_cases hdistinct : (s.seedUsers.map (·.username)).Nodup
          · obtain ⟨accounts, hseed, hfind⟩ := seed_salted salt hdistinct
            rw [salted] at hseed
            rw [hseed]
            exact .started hlimit hsecret hmake hdistinct
              ⟨rfl, rfl, rfl, rfl, hthere, rfl, rfl, rfl, rfl, hfind⟩
          · obtain ⟨before, u, after, hrepeat, hseed⟩ := seed_salted_of_repeated salt hdistinct
            rw [salted] at hseed
            split
            · rename_i taken hresult
              rw [hresult] at hseed
              cases hseed
              exact .nameTaken hlimit hsecret hmake hrepeat
            · rename_i accounts hresult
              rw [hresult] at hseed
              cases hseed

/-- **Starting the service.** It starts exactly if the size limit is below 2^32, the secret is not
empty, the folder can be made and no two users have one name; and then it is as `Ready` says. What
`Starts` adds is how it ends otherwise: with the first of these that is wrong, the disk as it was
if that is the limit or the secret, and the first name that comes up again if that is the users. -/
theorem start_decides (s : Settings) (jsonFault : Bytes → String) (roles : RoleTable)
    (salt : Nat → Bytes) (d : Disk) :
    ((∃ d' server state, s.start jsonFault roles salt d = (d', .ok (server, state))) ↔
      s.imageLimit.toNat < UInt32.size ∧ s.secret ≠ "" ∧ (d.makeFolders s.imageFolder).2 = none ∧
        (s.seedUsers.map (·.username)).Nodup) ∧
    Starts s roles salt d (s.start jsonFault roles salt d) := by
  have hstarts := starts_start s jsonFault roles salt d
  refine ⟨?_, hstarts⟩
  generalize s.start jsonFault roles salt d = result at hstarts
  constructor
  · rintro ⟨d', server, state, rfl⟩
    cases hstarts with
    | started limit secret folder distinct ready =>
      exact ⟨limit, secret, congrArg Prod.snd folder, distinct⟩
  · rintro ⟨limit, secret, folder, distinct⟩
    cases hstarts with
    | tooLarge large => exact absurd limit (Nat.not_lt.mpr large)
    | noSecret _ empty => exact absurd empty secret
    | noFolder _ _ failed _ =>
      rw [failed] at folder
      cases folder
    | nameTaken _ _ _ taken => exact absurd distinct taken.not_nodup
    | started _ _ _ _ _ => exact ⟨_, _, _, rfl⟩

end Settings

end Showroom
