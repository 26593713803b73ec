import Showroom.Disk
import Showroom.Service.Status
import Showroom.Text.Decimal
import Showroom.Text.Quoted

/-!
# Showroom.Client.Failure

Why something that a client set out to do has failed.
-/

namespace Showroom

inductive ClientFailure where
  | refused (status : Status)
  | unreadable (cause : DiskError)
  | unpaired (laptops scores : Nat)
deriving DecidableEq, Inhabited

def Status.summary (s : Status) : String :=
  "status: " ++ s.code.name ++ ", message: " ++ Text.quoted s.message
    ++ ", details: [], metadata: MetadataMap \x7b headers: \x7b\x7d \x7d"

def ClientFailure.message : ClientFailure → String
  | refused status => "rpc failed: " ++ status.summary
  | unreadable cause => "cannot read image file: " ++ cause.message
  | unpaired laptops scores =>
    String.ofList (Text.Decimal.digits laptops) ++ " laptop ids but "
      ++ String.ofList (Text.Decimal.digits scores) ++ " scores"

end Showroom
