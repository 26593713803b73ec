import Showroom.Account.Accounts
import Showroom.Text.Quoted

/-!
# Showroom.Account.Seeding

Users that are there from the start. They are registered in the order of their list, each with a
salt of its own, until a name comes up that is taken; those before it stay.
-/

namespace Showroom

/-- A user who is to be registered. -/
structure NewUser where
  username : String
  password : String
  role : String
deriving DecidableEq, Inhabited

/-- A user who is to be registered, for people to read: without the password. -/
def NewUser.summary (u : NewUser) : String :=
  "SeedUser \x7b username: " ++ Text.quoted u.username ++ ", password: " ++ Text.quoted "***"
    ++ ", role: " ++ Text.quoted u.role ++ " \x7d"

namespace Accounts

/-- Registers users. The outcome is the accounts, and the name that was taken if there was one. -/
def seed : Accounts → List (NewUser × Bytes) → Accounts × Option UserExists
  | a, [] => (a, none)
  | a, (u, salt) :: rest =>
    match a.add (.register salt u.username u.password u.role) with
    | .ok a => seed a rest
    | .error e => (a, some e)

end Accounts

end Showroom
