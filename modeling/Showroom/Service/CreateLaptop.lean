import Showroom.Call.Context
import Showroom.Laptop.Catalog
import Showroom.Service.Requests
import Showroom.Uuid

/-!
# Showroom.Service.CreateLaptop

Adding a laptop to the catalog. A submitted id has to denote an identifier and is kept as it is
written; an empty one is replaced by a fresh identifier. Nothing is kept for a caller who has
gone away, and an id that is taken is refused.
-/

namespace Showroom.CreateLaptop

/-- Why a laptop is not added, in the order in which it is looked at. -/
inductive Refusal where
  | noLaptop
  | badId (flaw : Uuid.Flaw)
  | stopped (stop : CallStop)
  | idTaken (id : String)
deriving DecidableEq, Inhabited

def takenMessage (id : String) : String := "laptop " ++ id ++ " already exists"

def Refusal.status : Refusal → Status
  | noLaptop => ⟨.invalidArgument, "laptop is not provided"⟩
  | badId flaw => ⟨.invalidArgument, "laptop id is not a valid UUID: " ++ flaw.message⟩
  | stopped stop => stop.status
  | idTaken id => ⟨.alreadyExists, "cannot save laptop to store: " ++ takenMessage id⟩

/-- The context of a call: the one attached on its way in, or else that of its metadata. -/
def contextOf (attached : Option CallContext) (m : Metadata) (arrival : Instant) (flag : Nat) :
    CallContext :=
  attached.getD (.ofMetadata m arrival flag)

/-- The id under which a laptop with a submitted id is kept. -/
def chooseId (submitted : String) (fresh : Uuid) : Except Uuid.Flaw String :=
  if submitted = "" then .ok fresh.text
  else match Uuid.parse submitted with
    | .ok _ => .ok submitted
    | .error flaw => .error flaw

/-- Adds the laptop of a request, unless the call should stop. -/
def answer (c : Catalog) (request : CreateLaptopRequest) (fresh : Uuid) (stop : Option CallStop) :
    Except Refusal (CreateLaptopResponse × Catalog) :=
  match request.laptop with
  | none => .error .noLaptop
  | some laptop =>
    match chooseId laptop.id fresh with
    | .error flaw => .error (.badId flaw)
    | .ok id =>
      match stop with
      | some stop => .error (.stopped stop)
      | none =>
        match c.add { laptop with id := id } with
        | some added => .ok (⟨id⟩, added)
        | none => .error (.idTaken id)

end Showroom.CreateLaptop
