import Showroom.Service.Method
import Showroom.Table

/-!
# Showroom.Access.Roles

Which roles may make which calls. A path that the table does not name is open to everybody; a
path named without any role is open to nobody.

* `RoleTable.allow`   adds roles to those that a path already has.
-/

namespace Showroom

structure RoleTable where
  rows : Table (List String) := {}
deriving DecidableEq, Inhabited

namespace RoleTable

/-- The roles that may call a path; none at all when the path is open. -/
def allowed? (t : RoleTable) (path : String) : Option (List String) := t.rows.find? path

def join (roles more : List String) : List String :=
  more.foldl (fun rs r => if rs.contains r then rs else rs ++ [r]) roles

/-- Adds roles to those that may call a path. -/
def allow (t : RoleTable) (path : String) (roles : List String) : RoleTable :=
  ⟨t.rows.put path (join ((t.allowed? path).getD []) roles)⟩

def admin : String := "admin"

def user : String := "user"

/-- The usual table: admins keep the catalog, users may rate, and search and login are open. -/
def standard : RoleTable :=
  (({} : RoleTable).allow Method.createLaptop.path [admin]
    |>.allow Method.uploadImage.path [admin])
    |>.allow Method.rateLaptop.path [admin, user]

end RoleTable

end Showroom
