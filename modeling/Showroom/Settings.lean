import Showroom.Account.Seeding
import Showroom.Text.Decimal

/-!
# Showroom.Settings

What can be set from outside: where the service listens, how tokens are signed and how long they
last, where images are kept and how large they may be, and the users that are there from the
start.
-/

namespace Showroom

structure Settings where
  host : String
  port : UInt16
  secret : String
  tokenSeconds : UInt64
  imageFolder : String
  imageLimit : UInt64
  seedUsers : List NewUser
deriving DecidableEq, Inhabited

namespace Settings

/-- How long tokens last unless it is set, in seconds. -/
def defaultTokenSeconds : UInt64 := 15 * 60

/-- Where images are kept unless it is set. -/
def defaultImageFolder : String := "img"

/-- How large images may be unless it is set, in bytes. -/
def defaultImageLimit : UInt64 := 1024 * 1024

def address (s : Settings) : String :=
  s.host ++ ":" ++ String.ofList (Text.Decimal.digits s.port.toNat)

end Settings

end Showroom
