import Showroom.Account.PasswordHash
import Showroom.Table

/-!
# Showroom.Account.Accounts

Who may log in: users with their stored password and their role, under their names.

* `Accounts.authenticate`   the user with a name and a password. An unknown name and a wrong
  password have the same outcome.
-/

namespace Showroom

/-- A user. The password is only ever held in its stored form. -/
structure User where
  username : String
  storedPassword : String
  role : String
deriving DecidableEq, Inhabited

namespace User

/-- A new user, whose password is hashed with a fresh salt. -/
def register (salt : Bytes) (username password role : String) : User :=
  ⟨username, (PasswordHash.create salt password).text, role⟩

/-- Whether a password is the user's. No password fits a stored form that cannot be read. -/
def hasPassword (u : User) (password : String) : Bool :=
  match PasswordHash.ofText? u.storedPassword with
  | some h => h.accepts password
  | none => false

end User

structure Accounts where
  users : Table User := {}
deriving DecidableEq, Inhabited

/-- The name of a user that is there already. -/
structure UserExists where
  username : String
deriving DecidableEq, Inhabited

def UserExists.message (e : UserExists) : String := "user " ++ e.username ++ " already exists"

namespace Accounts

def find? (a : Accounts) (username : String) : Option User := a.users.find? username

/-- The accounts with a new user, unless the name is taken. -/
def add (a : Accounts) (u : User) : Except UserExists Accounts :=
  if a.users.contains u.username then .error ⟨u.username⟩
  else .ok ⟨a.users.put u.username u⟩

def authenticate (a : Accounts) (username password : String) : Option User :=
  (a.find? username).filter fun u => u.hasPassword password

end Accounts

end Showroom
