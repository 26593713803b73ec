import Showroom.Account.Accounts
import Showroom.Service.Requests
import Showroom.Service.Status
import Showroom.Token

/-!
# Showroom.Service.Login

Exchanging a name and a password for an access token. Whether the name or the password was wrong
is not told.
-/

namespace Showroom.Login

/-- The one reason for not logging in. -/
inductive Refusal where
  | badCredentials
deriving DecidableEq, Inhabited

def Refusal.status : Refusal → Status
  | badCredentials => ⟨.notFound, "invalid username or password"⟩

/-- A token for the user with this name and password. -/
def answer (a : Accounts) (k : TokenKeeper) (now : Int) (request : LoginRequest) :
    Except Refusal LoginResponse :=
  match a.authenticate request.username request.password with
  | some user => .ok ⟨k.issue now user.username user.role⟩
  | none => .error .badCredentials

end Showroom.Login
