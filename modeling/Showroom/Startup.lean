import Showroom.Service.Serve
import Showroom.Settings

/-!
# Showroom.Startup

Making the service from its settings. The size limit and the secret are looked at before anything
is changed; then the image folder is made, and last the users are registered.
-/

namespace Showroom

/-- Why the service cannot start, in the order in which it is looked at. -/
inductive StartupError where
  | imageLimit (limit : Nat)
  | emptySecret
  | noFolder (cause : DiskError)
  | userExists (user : UserExists)
deriving DecidableEq, Inhabited

def StartupError.message : StartupError → String
  | imageLimit limit => s!"images.max_size {limit} does not fit in 32 bits"
  | emptySecret => "token manager: " ++ TokenKeeper.emptySecretMessage
  | noFolder cause => "image folder: " ++ cause.message
  | userExists user => "seed user: " ++ user.message

namespace Settings

/-- Makes the service. The `n`-th user is given the salt `salt n`. The disk may have been changed
even if something else then fails. -/
def start (s : Settings) (jsonFault : Bytes → String) (roles : RoleTable) (salt : Nat → Bytes)
    (d : Disk) : Disk × Except StartupError (Server × State) :=
  if UInt32.size ≤ s.imageLimit.toNat then (d, .error (.imageLimit s.imageLimit.toNat))
  else match TokenKeeper.ofSecret? s.secret s.tokenSeconds.toNat jsonFault with
    | none => (d, .error .emptySecret)
    | some keeper =>
      match d.makeFolders s.imageFolder with
      | (d, some cause) => (d, .error (.noFolder cause))
      | (d, none) =>
        match Accounts.seed {} (s.seedUsers.zipIdx.map fun u => (u.1, salt u.2)) with
        | (_, some user) => (d, .error (.userExists user))
        | (accounts, none) =>
          (d, .ok (⟨⟨keeper, roles⟩, s.imageLimit.toNat⟩,
            { gallery := ⟨s.imageFolder, {}⟩, accounts := accounts, disk := d }))

end Settings

end Showroom
