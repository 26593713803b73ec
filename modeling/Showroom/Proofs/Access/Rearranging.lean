import Showroom.Proofs.Access.Login

/-!
# Showroom.Proofs.Access.Rearranging

The same rows of a table in another arrangement. A table knows no more of its rows than which paths
they name and which roles each of these paths has in all of them together. So rows can be put in
another order, repeated or cut into pieces, and the guard answers every call as before, as long as
every path that was named still is. A path that is named without any role is not open, but closed to
everybody.

* `RoleTable.Rearranged`: arrangements of the same rows.
* `RoleTable.agree_of_rearranged`: what they have in common.
* `Guard.authorize_congr`: tables that the guard cannot tell apart.
* `Guard.rows_decide`: what a table has of its rows, and how the guard answers.
-/

namespace Showroom

namespace RoleTable

variable {path : String} {roles : List String} {rows more : List (String × List String)}

/-! ## Every role once -/

theorem nodup_join (h : roles.Nodup) (added : List String) : (join roles added).Nodup := by
  induction added generalizing roles with
  | nil => exact h
  | cons role added ih =>
    simp only [join, List.foldl_cons] at ih ⊢
    apply ih
    split
    · exact h
    · rename_i hnew
      rw [List.contains_iff_mem] at hnew
      rw [List.nodup_append]
      refine ⟨h, by simp, ?_⟩
      intro old hold new hmem hsame
      rw [List.mem_singleton.mp hmem] at hsame
      exact hnew (hsame ▸ hold)

theorem nodup_allowed?_addRows {t : RoleTable}
    (h : ∀ path roles, t.allowed? path = some roles → roles.Nodup) :
    ∀ path roles, (t.addRows rows).allowed? path = some roles → roles.Nodup := by
  induction rows generalizing t with
  | nil => exact h
  | cons row rows ih =>
    rw [addRows, List.foldl_cons, ← addRows]
    apply ih
    intro path roles hroles
    rw [allowed?_allow] at hroles
    split at hroles
    · cases hroles
      apply nodup_join
      cases hold : t.allowed? row.1 with
      | none => simp
      | some old => exact h row.1 old hold
    · exact h path roles hroles

theorem nodup_allowed?_ofRows (h : (ofRows rows).allowed? path = some roles) : roles.Nodup := by
  refine nodup_allowed?_addRows ?_ path roles h
  intro path roles hroles
  cases hroles

/-! ## Arrangements -/

/-- Arrangements of the same rows. The pieces of a row are rows for its path that have its roles
between them. A row without roles may have no pieces at all, as long as another names its path. -/
inductive Rearranged : List (String × List String) → List (String × List String) → Prop where
  | reordered {rows more : List (String × List String)} (h : rows.Perm more) : Rearranged rows more
  | repeated {row : String × List String} {rows : List (String × List String)} (h : row ∈ rows) :
      Rearranged rows (row :: rows)
  | split {path : String} {roles : List String} {pieces : List (List String)}
      {rows : List (String × List String)}
      (whole : ∀ role, role ∈ roles ↔ ∃ piece ∈ pieces, role ∈ piece)
      (named : pieces ≠ [] ∨ ∃ row ∈ rows, row.1 = path) :
      Rearranged ((path, roles) :: rows) (pieces.map (fun piece => (path, piece)) ++ rows)
  | symm {rows more : List (String × List String)} (h : Rearranged rows more) : Rearranged more rows
  | trans {rows more others : List (String × List String)} (first : Rearranged rows more)
      (second : Rearranged more others) : Rearranged rows others

/-- Whether rows name the same paths, and give each of them the same roles. -/
structure Agree (rows more : List (String × List String)) : Prop where
  named : ∀ path, (∃ row ∈ rows, row.1 = path) ↔ ∃ row ∈ more, row.1 = path
  granted : ∀ path role,
    (∃ row ∈ rows, row.1 = path ∧ role ∈ row.2) ↔ ∃ row ∈ more, row.1 = path ∧ role ∈ row.2

theorem agree_of_split {pieces : List (List String)}
    (whole : ∀ role, role ∈ roles ↔ ∃ piece ∈ pieces, role ∈ piece)
    (named : pieces ≠ [] ∨ ∃ row ∈ rows, row.1 = path) :
    Agree ((path, roles) :: rows) (pieces.map (fun piece => (path, piece)) ++ rows) := by
  constructor
  · intro other
    simp only [List.exists_mem_cons_iff, List.mem_append, List.mem_map, or_and_right, exists_or]
    constructor
    · rintro (rfl | hother)
      · rcases named with hpieces | hrow
        · obtain ⟨piece, hpiece⟩ := List.exists_mem_of_ne_nil pieces hpieces
          exact .inl ⟨_, ⟨piece, hpiece, rfl⟩, rfl⟩
        · exact .inr hrow
      · exact .inr hother
    · rintro (⟨_, ⟨piece, _, rfl⟩, rfl⟩ | hother)
      · exact .inl rfl
      · exact .inr hother
  · intro other role
    simp only [List.exists_mem_cons_iff, List.mem_append, List.mem_map, or_and_right, exists_or,
      whole]
    refine or_congr_left ?_
    constructor
    · rintro ⟨rfl, piece, hpiece, hrole⟩
      exact ⟨_, ⟨piece, hpiece, rfl⟩, rfl, hrole⟩
    · rintro ⟨_, ⟨piece, hpiece, rfl⟩, rfl, hrole⟩
      exact ⟨rfl, piece, hpiece, hrole⟩

theorem agree_of_rearranged (h : Rearranged rows more) : Agree rows more := by
  induction h with
  | reordered h =>
    constructor
    · intro path
      simp only [h.mem_iff]
    · intro path role
      simp only [h.mem_iff]
  | @repeated row rows h =>
    constructor
    · intro path
      rw [List.exists_mem_cons_iff]
      exact (or_iff_right_of_imp fun hpath => ⟨row, h, hpath⟩).symm
    · intro path role
      rw [List.exists_mem_cons_iff]
      exact (or_iff_right_of_imp fun hrole => ⟨row, h, hrole⟩).symm
  | split whole named => exact agree_of_split whole named
  | symm _ ih =>
    exact ⟨fun path => (ih.named path).symm, fun path role => (ih.granted path role).symm⟩
  | trans _ _ ih₁ ih₂ =>
    exact ⟨fun path => (ih₁.named path).trans (ih₂.named path),
      fun path role => (ih₁.granted path role).trans (ih₂.granted path role)⟩

/-- Tables with the same roles for every path: with none at all, or with these in some order. -/
def Alike (t u : RoleTable) : Prop :=
  ∀ path, Option.Rel (fun roles others => ∀ role, role ∈ roles ↔ role ∈ others) (t.allowed? path)
    (u.allowed? path)

theorem alike_of_agree (h : Agree rows more) : Alike (ofRows rows) (ofRows more) := by
  intro path
  have hnone : (ofRows rows).allowed? path = none ↔ (ofRows more).allowed? path = none := by
    have hnamed := not_congr (h.named path)
    push Not at hnamed
    rw [allowed?_ofRows_eq_none_iff, allowed?_ofRows_eq_none_iff, hnamed]
  cases hrows : (ofRows rows).allowed? path with
  | none =>
    rw [hnone.mp hrows]
    exact .none
  | some roles =>
    cases hmore : (ofRows more).allowed? path with
    | none =>
      rw [hnone.mpr hmore] at hrows
      cases hrows
    | some others =>
      apply Option.Rel.some
      intro role
      rw [mem_allowed?_ofRows hrows, mem_allowed?_ofRows hmore]
      exact h.granted path role

theorem allowed?_ofRows_of_bare (named : ∃ row ∈ rows, row.1 = path)
    (bare : ∀ row ∈ rows, row.1 = path → row.2 = []) : (ofRows rows).allowed? path = some [] := by
  cases hroles : (ofRows rows).allowed? path with
  | none =>
    obtain ⟨row, hrow, hpath⟩ := named
    exact absurd hpath (allowed?_ofRows_eq_none_iff.mp hroles row hrow)
  | some roles =>
    rw [Option.some.injEq, List.eq_nil_iff_forall_not_mem]
    intro role hrole
    obtain ⟨row, hrow, hpath, hmem⟩ := (mem_allowed?_ofRows hroles).mp hrole
    rw [bare row hrow hpath] at hmem
    exact absurd hmem List.not_mem_nil

end RoleTable

/-! ## The guard's answers -/

namespace Guard

variable {k : TokenKeeper} {t u : RoleTable} {path : String}

theorem authorizeRoles_congr {roles others : List String}
    (h : ∀ role, role ∈ roles ↔ role ∈ others) (now : Int) (path : String) (m : Metadata) :
    (Guard.mk k t).authorizeRoles roles now path m =
      (Guard.mk k u).authorizeRoles others now path m := by
  have hcontains : ∀ role, roles.contains role = others.contains role := by
    intro role
    rw [Bool.eq_iff_iff, List.contains_iff_mem, List.contains_iff_mem, h]
  simp only [authorizeRoles, hcontains]

theorem authorize_congr (h : t.Alike u) (now : Int) (path : String) (m : Metadata) :
    (Guard.mk k t).authorize now path m = (Guard.mk k u).authorize now path m := by
  have hpath := h path
  revert hpath
  simp only [authorize]
  generalize t.allowed? path = roles
  generalize u.allowed? path = others
  intro hpath
  cases hpath with
  | none => rfl
  | some hroles => simp only [authorizeRoles_congr (u := u) hroles]

theorem authorize_closed (h : t.allowed? path = some []) (now : Int) (m : Metadata) :
    ∃ denial, (Guard.mk k t).authorize now path m = .error denial ∧
      ∀ token claims, Credential.find m = .ok (some token) → k.verify now token = .ok claims →
        denial = .roleNotAllowed claims.role path := by
  cases hverdict : (Guard.mk k t).authorizeRoles [] now path m with
  | ok claims =>
    obtain ⟨_, _, _, hrole⟩ := authorizeRoles_eq_ok_iff.mp hverdict
    exact absurd hrole List.not_mem_nil
  | error denial =>
    have hdenied : (Guard.mk k t).authorize now path m = .error denial := by
      simp only [authorize, h, hverdict]
      rfl
    refine ⟨denial, hdenied, ?_⟩
    intro token claims hfind hverify
    have hlacking := authorize_of_verify (g := ⟨k, t⟩) h hfind hverify
    rw [if_neg List.not_mem_nil, hdenied] at hlacking
    exact Except.error.inj hlacking

open RoleTable (ofRows Rearranged)

/-- **What a table has of its rows.** A path is open exactly if no row names it, and otherwise has
the roles of all rows that name it, each of them once. With the rows in any other arrangement the
guard gives the same answer to every call. A path that is only named without roles is closed: every
call to it is turned away, and one whose token verifies, for the role in it. -/
theorem rows_decide (rows : List (String × List String)) :
    (∀ path, (ofRows rows).allowed? path = none ↔ ∀ row ∈ rows, row.1 ≠ path) ∧
    (∀ path roles, (ofRows rows).allowed? path = some roles →
      roles.Nodup ∧ ∀ role, role ∈ roles ↔ ∃ row ∈ rows, row.1 = path ∧ role ∈ row.2) ∧
    (∀ more, Rearranged rows more → ∀ (k : TokenKeeper) (now : Int) (path : String) (m : Metadata),
      (Guard.mk k (ofRows rows)).authorize now path m =
        (Guard.mk k (ofRows more)).authorize now path m) ∧
    ∀ path, (∃ row ∈ rows, row.1 = path) → (∀ row ∈ rows, row.1 = path → row.2 = []) →
      ∀ (k : TokenKeeper) (now : Int) (m : Metadata),
        ∃ denial, (Guard.mk k (ofRows rows)).authorize now path m = .error denial ∧
          ∀ token claims, Credential.find m = .ok (some token) → k.verify now token = .ok claims →
            denial.status = ⟨.permissionDenied,
              "role " ++ claims.role ++ " is not allowed to access " ++ path⟩ := by
  refine ⟨?_, ?_, ?_, ?_⟩
  · intro path
    exact RoleTable.allowed?_ofRows_eq_none_iff
  · intro path roles hroles
    exact ⟨RoleTable.nodup_allowed?_ofRows hroles, fun role => RoleTable.mem_allowed?_ofRows hroles⟩
  · intro more hmore k now path m
    have halike := RoleTable.alike_of_agree (RoleTable.agree_of_rearranged hmore)
    exact authorize_congr halike now path m
  · intro path named bare k now m
    have hclosed := RoleTable.allowed?_ofRows_of_bare named bare
    obtain ⟨denial, hdenied, hlacking⟩ := authorize_closed (k := k) hclosed now m
    refine ⟨denial, hdenied, ?_⟩
    intro token claims hfind hverify
    rw [hlacking token claims hfind hverify]
    rfl

example : RoleTable.standard = ofRows [(Method.createLaptop.path, [RoleTable.admin]),
    (Method.uploadImage.path, [RoleTable.admin]),
    (Method.rateLaptop.path, [RoleTable.admin, RoleTable.user])] := rfl

/-- Rows that let admins and users rate, and nobody close. -/
def gathered : List (String × List String) := [("/rate", ["admin", "user"]), ("/close", [])]

/-- The same rows, the first in pieces and the second twice. -/
def scattered : List (String × List String) :=
  [("/close", []), ("/rate", ["user"]), ("/rate", []), ("/close", []), ("/rate", ["user", "admin"])]

theorem rearranged_scattered : Rearranged gathered scattered := by
  let pieces := [["user"], [], ["user", "admin"]]
  let cut := pieces.map (fun piece => ("/rate", piece)) ++ [("/close", [])]
  have hcut : Rearranged gathered cut := by
    refine .split ?_ (.inl (by decide))
    intro role
    simp [pieces]
    tauto
  have htwice : Rearranged cut (("/close", []) :: cut) := .repeated (by decide)
  exact hcut.trans (htwice.trans (.reordered (by decide)))

theorem rows_decide_scattered :
    ∃ m, Rearranged gathered scattered ∧
      Credential.find m = .ok (some (TokenKeeper.lastingKeeper.issue 1 "a" "user")) ∧
      (ofRows scattered).allowed? "/rate" = some ["user", "admin"] ∧ ["user", "admin"].Nodup ∧
      (Guard.mk TokenKeeper.lastingKeeper (ofRows gathered)).authorize 5 "/rate" m =
        (Guard.mk TokenKeeper.lastingKeeper (ofRows scattered)).authorize 5 "/rate" m ∧
      ∃ denial,
        (Guard.mk TokenKeeper.lastingKeeper (ofRows scattered)).authorize 5 "/close" m =
          .error denial ∧
        denial.status = ⟨.permissionDenied, "role user is not allowed to access /close"⟩ := by
  have hgrants := TokenKeeper.grants_issue (k := TokenKeeper.lastingKeeper)
    (by decide : (0 : Int) ≤ 1) (by decide) ⟨"a", "", "user"⟩
  obtain ⟨m, hattached, -⟩ := hgrants.attached {}
  have hfind : Credential.find m = .ok (some (TokenKeeper.lastingKeeper.issue 1 "a" "user")) :=
    hgrants.found {} m hattached
  have hverify := (TokenKeeper.verify_issued (k := TokenKeeper.lastingKeeper)
    (by decide : (0 : Int) ≤ 1) (by decide) "a" "user" 5).trans (if_pos (by decide))
  have hrate : (ofRows scattered).allowed? "/rate" = some ["user", "admin"] := by decide
  obtain ⟨denial, hdenied, hlacking⟩ := (rows_decide scattered).2.2.2 "/close" (by decide)
    (by decide) TokenKeeper.lastingKeeper 5 m
  exact ⟨m, rearranged_scattered, hfind, hrate, ((rows_decide scattered).2.1 _ _ hrate).1,
    (rows_decide gathered).2.2.1 scattered rearranged_scattered _ 5 "/rate" m, denial, hdenied,
    hlacking _ _ hfind hverify⟩

end Guard

end Showroom
