import Showroom.Laptop.Catalog
import Showroom.Proofs.Table

/-!
# Showroom.Proofs.Laptop.Catalog

The catalog as a collection of records. A laptop that is entered goes behind those that are there,
and none of them changes. So each record is under its own id, and no id is there twice.

* `add_eq_some_iff`: when a laptop is entered, and what the catalog is then.
* `Filed.withLaptop`: entering a laptop keeps the catalog in order.
* `Filed.mem_records_iff`: the records of a catalog in order are those that are found under their ids.
-/

namespace Showroom

namespace Catalog

variable {c added : Catalog} {l : Laptop} {id : String}

def withLaptop (c : Catalog) (id : String) (l : Laptop) : Catalog :=
  ⟨c.laptops.put id { l with id := id }⟩

theorem find?_withLaptop {other : String} :
    (c.withLaptop id l).find? other =
      if other = id then some { l with id := id } else c.find? other :=
  Table.find?_put

theorem contains_iff : c.contains id = true ↔ ∃ l, c.find? id = some l := Table.contains_iff

theorem add_eq_some_iff :
    c.add { l with id := id } = some added ↔ c.find? id = none ∧ added = c.withLaptop id l := by
  have hnone : c.contains id = false ↔ c.find? id = none := Option.isSome_eq_false_iff.trans
    Option.isNone_iff_eq_none
  rw [add, ← hnone]
  cases c.contains id with
  | true => simp
  | false =>
    simp only [Bool.false_eq_true, if_false, Option.some.injEq, true_and]
    exact eq_comm

theorem records_withLaptop (free : c.find? id = none) :
    (c.withLaptop id l).laptops.records = c.laptops.records ++ [{ l with id := id }] := by
  rw [withLaptop, Table.records, Table.rows_put_of_free free, List.map_append]
  rfl

/-- Whether each record is under its own id, and no id is there twice. -/
structure Filed (c : Catalog) : Prop where
  underId : ∀ row ∈ c.laptops.rows, row.2.id = row.1
  distinct : c.laptops.names.Nodup

theorem filed_empty : Filed {} := ⟨by simp, List.nodup_nil⟩

theorem Filed.withLaptop (h : c.Filed) (free : c.find? id = none) : (c.withLaptop id l).Filed := by
  have hrows : (c.withLaptop id l).laptops.rows = c.laptops.rows ++ [(id, { l with id := id })] :=
    Table.rows_put_of_free free
  refine ⟨?_, ?_⟩
  · rw [hrows]
    intro row hrow
    rcases List.mem_append.mp hrow with hold | hnew
    · exact h.underId row hold
    · rw [List.mem_singleton.mp hnew]
  · rw [Table.names, hrows]
    exact nodup_keys_concat h.distinct (Table.find?_eq_none_iff.mp free)

theorem Filed.ids_eq_names (h : c.Filed) : c.laptops.records.map (·.id) = c.laptops.names := by
  rw [Table.records, List.map_map]
  exact List.map_congr_left h.underId

theorem Filed.nodup_ids (h : c.Filed) : (c.laptops.records.map (·.id)).Nodup :=
  h.ids_eq_names ▸ h.distinct

theorem Filed.mem_records_iff (h : c.Filed) :
    l ∈ c.laptops.records ↔ c.find? l.id = some l := by
  rw [find?, ← Table.mem_rows_iff h.distinct, Table.records, List.mem_map]
  constructor
  · rintro ⟨row, hrow, rfl⟩
    rwa [h.underId row hrow]
  · exact fun hrow => ⟨_, hrow, rfl⟩

end Catalog

end Showroom
