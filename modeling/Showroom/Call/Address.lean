import Showroom.Text.Trim

/-!
# Showroom.Call.Address

The path in the address of a call, which may be given alone or after a scheme and a host. Query
and fragment are no part of it.
-/

namespace Showroom.Address

def endsPath (c : Char) : Bool := c = '?' || c = '#'

def endsHost (c : Char) : Bool := c = '/' || endsPath c

def afterScheme? : List Char → Option (List Char)
  | [] => none
  | c :: cs => (Text.dropText? "://".toList (c :: cs)).or (afterScheme? cs)

/-- The path up to query and fragment; nothing stands for the topmost path. -/
def cut (cs : List Char) : List Char :=
  match cs.takeWhile fun c => !endsPath c with
  | [] => ['/']
  | path => path

/-- The path in an address. A host by itself has none. -/
def path (address : String) : String :=
  let cs := address.toList
  if cs.head? = some '/' ∨ cs = ['*'] then String.ofList (cut cs)
  else match afterScheme? cs with
    | some rest => String.ofList (cut (rest.dropWhile fun c => !endsHost c))
    | none => ""

end Showroom.Address
