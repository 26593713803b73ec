import Showroom.Laptop.Filter
import Showroom.Table

/-!
# Showroom.Laptop.Catalog

The catalog of laptops, kept under their ids. A record is written once: a second laptop with an
id that is taken is refused, and nothing ever replaces a record.

* `Catalog.add`   keeps a new laptop.
* `Catalog.search`   shows every laptop that passes a filter to a visitor, who may stop the search.
-/

namespace Showroom

structure Catalog where
  laptops : Table Laptop := {}
deriving DecidableEq, Inhabited

namespace Catalog

def find? (c : Catalog) (id : String) : Option Laptop := c.laptops.find? id

def contains (c : Catalog) (id : String) : Bool := c.laptops.contains id

def size (c : Catalog) : Nat := c.laptops.size

/-- The catalog with a new laptop, unless its id is taken. -/
def add (c : Catalog) (l : Laptop) : Option Catalog :=
  if c.contains l.id then none else some ⟨c.laptops.put l.id l⟩

def matching (c : Catalog) (f : Filter) : List Laptop := c.laptops.records.filter f.accepts

/-- Shows laptops to a visitor one after the other until one visit fails. A visit may change the
visitor's own state, also when it fails. -/
def visitAll {σ ε : Type} (visit : Laptop → σ → σ × Except ε Unit) :
    List Laptop → σ → σ × Except ε Unit
  | [], s => (s, .ok ())
  | l :: ls, s =>
    match visit l s with
    | (s, .ok ()) => visitAll visit ls s
    | (s, .error e) => (s, .error e)

/-- Shows the laptops that pass a filter to a visitor. -/
def search {σ ε : Type} (c : Catalog) (f : Filter) (visit : Laptop → σ → σ × Except ε Unit)
    (s : σ) : σ × Except ε Unit :=
  visitAll visit (c.matching f) s

end Catalog

end Showroom
