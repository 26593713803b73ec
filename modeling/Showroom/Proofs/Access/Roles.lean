import Showroom.Access.Roles
import Showroom.Proofs.Table

/-!
# Showroom.Proofs.Access.Roles

What a table of roles holds after any rows have been added to it: a path is gated as soon as one row
names it, and then the roles of all its rows may call it. The order of the rows and their repetitions
do not matter.

* `RoleTable.ofRows`: the table made from rows.
* `RoleTable.allowed?_ofRows_eq_none_iff`, `RoleTable.mem_allowed?_ofRows`: what it allows.
-/

namespace Showroom
namespace RoleTable

theorem mem_join {roles more : List String} {role : String} :
    role ∈ join roles more ↔ role ∈ roles ∨ role ∈ more := by
  induction more generalizing roles with
  | nil => simp [join]
  | cons r more ih =>
    simp only [join, List.foldl_cons] at ih ⊢
    rw [ih]
    split
    · rename_i hr
      have hmem := List.contains_iff_mem.mp hr
      constructor
      · rintro (h | h)
        · exact .inl h
        · exact .inr (List.mem_cons_of_mem r h)
      · rintro (h | h)
        · exact .inl h
        · rcases List.mem_cons.mp h with rfl | h
          · exact .inl hmem
          · exact .inr h
    · simp [or_assoc]

def addRows (t : RoleTable) (rows : List (String × List String)) : RoleTable :=
  rows.foldl (fun t row => t.allow row.1 row.2) t

/-- The table made from rows: paths, each with roles that may call it. -/
def ofRows (rows : List (String × List String)) : RoleTable := addRows {} rows

variable {t : RoleTable} {path other : String} {roles : List String} {role : String}
  {rows : List (String × List String)}

theorem allowed?_allow :
    (t.allow path roles).allowed? other =
      if other = path then some (join ((t.allowed? path).getD []) roles) else t.allowed? other :=
  Table.find?_put

theorem allowed?_addRows_eq_none_iff :
    (t.addRows rows).allowed? path = none ↔
      t.allowed? path = none ∧ ∀ row ∈ rows, row.1 ≠ path := by
  induction rows generalizing t with
  | nil => simp [addRows]
  | cons row rows ih =>
    rw [addRows, List.foldl_cons, ← addRows, ih, allowed?_allow, List.forall_mem_cons]
    by_cases h : path = row.1
    · simp [h]
    · simp [h, Ne.symm h]

/-- Whether a role may call a path. -/
def Names (t : RoleTable) (path role : String) : Prop :=
  ∃ roles, t.allowed? path = some roles ∧ role ∈ roles

theorem names_allow :
    (t.allow path roles).Names other role ↔ t.Names other role ∨ (path = other ∧ role ∈ roles) := by
  rw [Names, Names, allowed?_allow]
  by_cases h : other = path
  · subst h
    simp only [if_true, Option.some.injEq, true_and, exists_eq_left', mem_join]
    cases t.allowed? other with
    | none => simp
    | some old => simp
  · simp [h, Ne.symm h]

theorem names_addRows :
    (t.addRows rows).Names path role ↔
      t.Names path role ∨ ∃ row ∈ rows, row.1 = path ∧ role ∈ row.2 := by
  induction rows generalizing t with
  | nil => simp [addRows]
  | cons row rows ih =>
    rw [addRows, List.foldl_cons, ← addRows, ih, names_allow, or_assoc]
    simp

theorem allowed?_ofRows_eq_none_iff :
    (ofRows rows).allowed? path = none ↔ ∀ row ∈ rows, row.1 ≠ path := by
  rw [ofRows, allowed?_addRows_eq_none_iff]
  exact and_iff_right rfl

theorem mem_allowed?_ofRows (h : (ofRows rows).allowed? path = some roles) :
    role ∈ roles ↔ ∃ row ∈ rows, row.1 = path ∧ role ∈ row.2 := by
  have hempty : ¬ ({} : RoleTable).Names path role := by
    rintro ⟨roles, hroles, -⟩
    cases hroles
  have hnames : (ofRows rows).Names path role ↔ ∃ row ∈ rows, row.1 = path ∧ role ∈ row.2 :=
    names_addRows.trans (or_iff_right hempty)
  rw [← hnames, Names, h]
  simp

end RoleTable
end Showroom
