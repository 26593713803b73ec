import Showroom.Table

/-!
# Showroom.Proofs.Table

A table as a map from names to records: after a record is set, its name leads to it and every other
name leads where it led before.

* `find?_put`: reading after writing.
* `rows_put_of_free`: a record under a name that was free is added at the end.
* `mem_rows_iff`: what is found is what is there, as long as no name is there twice.
-/

namespace Showroom

section Rows

variable {κ α : Type} {key other : κ} {record : α}

theorem nodup_keys_concat {rows : List (κ × α)} (distinct : (rows.map (·.1)).Nodup)
    (free : key ∉ rows.map (·.1)) : ((rows ++ [(key, record)]).map (·.1)).Nodup := by
  rw [List.map_append, List.map_singleton, List.nodup_append]
  refine ⟨distinct, by simp, ?_⟩
  rintro other hother new hnew rfl
  cases List.mem_singleton.mp hnew
  exact free hother

variable [BEq κ] [LawfulBEq κ] [DecidableEq κ]

theorem lookup_cons_eq_ite (row : κ × α) (rows : List (κ × α)) :
    (row :: rows).lookup key = if key = row.1 then some row.2 else rows.lookup key := by
  rw [List.lookup_cons]
  by_cases h : key = row.1
  · simp [h]
  · rw [beq_eq_false_iff_ne.mpr h, if_neg h]

/-- Reading after writing, for any way of writing a record in place of the first with its key, or at
the end. -/
theorem lookup_of_put {f : List (κ × α) → List (κ × α)} (hnil : f [] = [(key, record)])
    (hcons : ∀ row rows, f (row :: rows) =
      if row.1 = key then (key, record) :: rows else row :: f rows)
    (rows : List (κ × α)) :
    (f rows).lookup other = if other = key then some record else rows.lookup other := by
  induction rows with
  | nil => rw [hnil, lookup_cons_eq_ite]
  | cons row rows ih =>
    rw [hcons, lookup_cons_eq_ite row]
    split
    · rename_i hrow
      rw [lookup_cons_eq_ite, hrow]
      by_cases h : other = key
      · rw [if_pos h, if_pos h]
      · rw [if_neg h, if_neg h, if_neg h]
    · rename_i hrow
      rw [lookup_cons_eq_ite, ih]
      by_cases h : other = row.1
      · rw [if_pos h, if_pos h, if_neg (fun hkey => hrow (h.symm.trans hkey))]
      · rw [if_neg h, if_neg h]

theorem lookup_eq_none_iff_not_mem {rows : List (κ × α)} :
    rows.lookup key = none ↔ key ∉ rows.map (·.1) := by
  induction rows with
  | nil => simp
  | cons row rows ih =>
    rw [lookup_cons_eq_ite, List.map_cons, List.mem_cons, not_or, ← ih]
    split
    · rename_i hrow
      simp [hrow]
    · rename_i hrow
      simp [hrow]

end Rows

namespace Table

variable {α : Type} {t : Table α} {name other : String} {record : α}

theorem find?_put :
    (t.put name record).find? other = if other = name then some record else t.find? other :=
  lookup_of_put (f := putRow name record) rfl (fun _ _ => rfl) t.rows

theorem contains_iff : t.contains name = true ↔ ∃ record, t.find? name = some record := by
  rw [contains, Option.isSome_iff_exists]

theorem find?_eq_none_iff : t.find? name = none ↔ name ∉ t.names :=
  lookup_eq_none_iff_not_mem

theorem putRow_of_not_mem {rows : List (String × α)} (free : name ∉ rows.map (·.1)) :
    putRow name record rows = rows ++ [(name, record)] := by
  induction rows with
  | nil => rfl
  | cons row rows ih =>
    rw [List.map_cons, List.mem_cons, not_or] at free
    rw [putRow, if_neg (Ne.symm free.1), ih free.2, List.cons_append]

theorem rows_put_of_free (free : t.find? name = none) :
    (t.put name record).rows = t.rows ++ [(name, record)] :=
  putRow_of_not_mem (find?_eq_none_iff.mp free)

theorem mem_rows_iff (distinct : t.names.Nodup) :
    (name, record) ∈ t.rows ↔ t.find? name = some record := by
  obtain ⟨rows⟩ := t
  rw [find?]
  rw [names] at distinct
  induction rows with
  | nil => simp
  | cons row rows ih =>
    rw [List.map_cons, List.nodup_cons] at distinct
    rw [lookup_cons_eq_ite, List.mem_cons, ih distinct.2]
    by_cases hname : name = row.1
    · -- The name of the first row is not that of a later one.
      have hlater : rows.lookup name ≠ some record := fun hfound =>
        distinct.1 (hname ▸ List.mem_map.mpr ⟨_, (ih distinct.2).mpr hfound, rfl⟩)
      rw [if_pos hname, Option.some.injEq]
      constructor
      · rintro (rfl | hfound)
        · rfl
        · exact absurd hfound hlater
      · rintro rfl
        exact .inl (by rw [hname])
    · rw [if_neg hname]
      constructor
      · rintro (rfl | hfound)
        · exact absurd rfl hname
        · exact hfound
      · exact .inr

end Table
end Showroom
