import Showroom.Service.Serve
import Showroom.Settings

/-!
# Showroom.Client.Network

Which services a client can reach, and at which addresses. Nothing is sent to an address that cannot
be reached.
-/

namespace Showroom

/-- The services that can be reached, with their addresses. -/
structure Network where
  servers : List (String × Server) := []

namespace Network

def noConnection : String := "transport error"

def connect (n : Network) (address : String) : Except String Server :=
  match n.servers.lookup address with
  | some server => .ok server
  | none => .error noConnection

def ownHosts : List String := ["127.0.0.1", "localhost"]

/-- The network in which one service can be reached from its own machine. The host `0.0.0.0` stands
for all hosts of the machine. -/
def ofService (settings : Settings) (server : Server) : Network :=
  let hosts := settings.host :: if settings.host = "0.0.0.0" then ownHosts else []
  ⟨hosts.map fun host => ("http://" ++ { settings with host := host }.address, server)⟩

end Network

end Showroom
