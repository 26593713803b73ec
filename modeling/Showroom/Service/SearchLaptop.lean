import Showroom.Laptop.Catalog
import Showroom.Service.Requests
import Showroom.Service.Status

/-!
# Showroom.Service.SearchLaptop

Searching the catalog. Every laptop that passes the filter is sent, one response each, until there
are no more or the caller stops reading.
-/

namespace Showroom.SearchLaptop

/-- What a search ends with when its caller stops reading. -/
def closed : Status := ⟨.cancelled, "client closed the search stream"⟩

/-- Sends one laptop to a caller who reads at most so many responses. -/
def send (most : Option Nat) (laptop : Laptop) (sent : List SearchLaptopResponse) :
    List SearchLaptopResponse × Except Status Unit :=
  if most.any fun n => n ≤ sent.length then (sent, .error closed)
  else (sent ++ [⟨some laptop⟩], .ok ())

/-- The filter of a request; without one, it asks for everything. -/
def filterOf (request : SearchLaptopRequest) : Filter := request.filter.getD .anything

def answer (c : Catalog) (request : SearchLaptopRequest) (most : Option Nat) :
    List SearchLaptopResponse :=
  (c.search (filterOf request) (send most) []).1

end Showroom.SearchLaptop
