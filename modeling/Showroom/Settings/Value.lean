import Showroom.Text.Trim
import Showroom.Yaml.Node

/-!
# Showroom.Settings.Value

Settings before they have been checked: a tree of named values, each with the place it comes from.
Trees from several sources are laid over each other. A table is merged into the table that is there,
row by row; any other value takes the place of what is there.

* `Value.place`   lays a value over the one with its name.
* `KeyPath.set`   does so at a path such as `auth.secret_key` or `users[0].name`.
-/

namespace Showroom.Settings

/-- Where a value comes from. -/
inductive Origin where
  | file
  | environment
deriving DecidableEq, Inhabited

def Origin.text : Origin → String
  | file => "configuration.yaml"
  | environment => "the environment"

/-- A value. Tables and lists that were made to hold other values come from nowhere. -/
inductive Value where
  | nothing (origin : Option Origin)
  | flag (origin : Option Origin) (value : Bool)
  | whole (origin : Option Origin) (value : Int)
  | real (origin : Option Origin) (value : Binary64)
  | text (origin : Option Origin) (value : String)
  | list (origin : Option Origin) (items : List Value)
  | table (origin : Option Origin) (rows : List (String × Value))
deriving Inhabited

abbrev Rows := List (String × Value)

/-- Sets the row of a name in its place, or adds it at the end. -/
def putRow (name : String) (v : Value) : Rows → Rows
  | [] => [(name, v)]
  | row :: rows => if row.1 = name then (name, v) :: rows else row :: putRow name v rows

namespace Value

/-- The rows of a value that is a table; anything else has to make room for them. -/
def rows : Value → Rows
  | table _ rows => rows
  | _ => []

def withRows (v : Value) (rows : Rows) : Value :=
  match v with
  | table origin _ => table origin rows
  | _ => table none rows

mutual

def place (name : String) : Value → Rows → Rows
  | .table _ incoming, rows =>
    match rows.lookup name with
    | some (.table origin there) => putRow name (.table origin (placeAll incoming there)) rows
    | some _ => if incoming.isEmpty then rows else putRow name (.table none (placeAll incoming [])) rows
    | none => putRow name (.table none (placeAll incoming [])) rows
  | v, rows => putRow name v rows

def placeAll : Rows → Rows → Rows
  | [], rows => rows
  | (name, v) :: rest, rows => placeAll rest (place name v rows)

end

mutual

/-- The value that a node of a settings file stands for. -/
def ofNode? : Yaml.Node → Option Value
  | .blank => some (.nothing (some .file))
  | .nothing => some (.nothing (some .file))
  | .flag b => some (.flag (some .file) b)
  | .whole n => some (.whole (some .file) n)
  | .real cs => (Binary64.ofDecimal? cs).map (.real (some .file))
  | .text cs => some (.text (some .file) (String.ofList cs))
  | .list items => (ofNodes? items).map (.list (some .file))
  | .map pairs => (ofPairs? pairs []).map (.table (some .file))

def ofNodes? : List Yaml.Node → Option (List Value)
  | [] => some []
  | n :: ns => do return (← ofNode? n) :: (← ofNodes? ns)

/-- Rows with the pairs of a map. Of two pairs with one key the later counts, and a pair whose key is
no text is left out. -/
def ofPairs? : List (Yaml.Node × Yaml.Node) → Rows → Option Rows
  | [], rows => some rows
  | (.text cs, v) :: pairs, rows => do
    if pairs.any fun p => p.1.isText cs then ofPairs? pairs rows
    else ofPairs? pairs (putRow (String.ofList cs) (← ofNode? v) rows)
  | (_, _) :: pairs, rows => ofPairs? pairs rows

end

end Value

/-- One step from a value to a value in it. -/
inductive PathStep where
  | child (name : String)
  | item (index : Int)
deriving DecidableEq, Inhabited

/-- The way to a value: the name of a row, and steps from there. -/
structure KeyPath where
  name : String
  steps : List PathStep := []
deriving DecidableEq, Inhabited

namespace KeyPath

def isNameChar (c : Char) : Bool := c.isAlphanum || c = ' ' || c = '_' || c = '-'

/-- The number of 64 bits in brackets, which may have a minus sign and blanks around it. -/
def readIndex (cs : List Char) : Option Int :=
  let isPad (c : Char) : Bool := c = ' ' || c = '\t'
  let index : Option Int := match Text.trim isPad cs with
    | '-' :: digits => (Text.Decimal.read? digits).map fun n => -(n : Int)
    | digits => (Text.Decimal.read? digits).map fun n => (n : Int)
  index.filter fun n => -0x8000000000000000 ≤ n && n < 0x8000000000000000

/-- The steps that a text describes: names after dots, and numbers in brackets. -/
def readSteps : (fuel : Nat) → List Char → Option (List PathStep)
  | _, [] => some []
  | 0, _ => none
  | fuel + 1, '.' :: cs =>
    let name := cs.takeWhile isNameChar
    if name.isEmpty then none
    else (readSteps fuel (cs.dropWhile isNameChar)).map (.child (String.ofList name) :: ·)
  | fuel + 1, '[' :: cs =>
    match readIndex (cs.takeWhile (· ≠ ']')), cs.dropWhile (· ≠ ']') with
    | some i, _ :: rest => (readSteps fuel rest).map (.item i :: ·)
    | _, _ => none
  | _ + 1, _ => none

/-- The path that a text describes. A text in any other form is a name as a whole. -/
def ofText (s : String) : KeyPath :=
  let name := s.toList.takeWhile isNameChar
  let rest := s.toList.dropWhile isNameChar
  match readSteps rest.length rest with
  | some steps => if name.isEmpty then ⟨s, []⟩ else ⟨String.ofList name, steps⟩
  | none => ⟨s, []⟩

/-- The place of an index in a list, counted from the end if it is negative. -/
def placeOf (index : Int) (length : Nat) : Nat :=
  if index < 0 then length - index.natAbs else index.toNat

def padTo (place : Nat) (items : List Value) : List Value :=
  items ++ List.replicate (place + 1 - items.length) (.nothing none)

/-- Sets a value at the end of some steps. What is in the way of a step makes room for it. -/
def setIn (v : Value) : List PathStep → Value → Value
  | [], _ => v
  | [.child name], there => there.withRows (v.place name there.rows)
  | .child name :: steps, there =>
    there.withRows
      (putRow name (setIn v steps ((there.rows.lookup name).getD (.nothing none))) there.rows)
  | .item index :: steps, there =>
    let (origin, items) := match there with
      | .list origin items => (origin, items)
      | _ => (none, [])
    let place := placeOf index items.length
    let items := padTo place items
    .list origin (items.set place (setIn v steps ((items[place]?).getD (.nothing none))))

def set (p : KeyPath) (v : Value) (rows : Rows) : Rows :=
  if p.steps.isEmpty then v.place p.name rows
  else putRow p.name (setIn v p.steps ((rows.lookup p.name).getD (.nothing none))) rows

end KeyPath

end Showroom.Settings
