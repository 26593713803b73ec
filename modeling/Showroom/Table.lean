/-!
# Showroom.Table

Tables of named records, kept in the order in which the names were first used. A name has at most
one record.

* `Table.put`   sets the record of a name: in place if the name is there, at the end otherwise.
-/

namespace Showroom

structure Table (α : Type) where
  rows : List (String × α) := []
deriving DecidableEq, Inhabited

namespace Table

variable {α : Type}

def find? (t : Table α) (name : String) : Option α := t.rows.lookup name

def contains (t : Table α) (name : String) : Bool := (t.find? name).isSome

def putRow (name : String) (record : α) : List (String × α) → List (String × α)
  | [] => [(name, record)]
  | row :: rows =>
    if row.1 = name then (name, record) :: rows else row :: putRow name record rows

def put (t : Table α) (name : String) (record : α) : Table α := ⟨putRow name record t.rows⟩

def names (t : Table α) : List String := t.rows.map (·.1)

def records (t : Table α) : List α := t.rows.map (·.2)

def size (t : Table α) : Nat := t.rows.length

def isEmpty (t : Table α) : Bool := t.rows.isEmpty

end Table

end Showroom
