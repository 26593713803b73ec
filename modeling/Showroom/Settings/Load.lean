import Showroom.Settings
import Showroom.Settings.Environment
import Showroom.Settings.Value
import Showroom.Text.Quoted

/-!
# Showroom.Settings.Load

Reading the settings from `configuration.yaml` and, on top of it, from variables of the environment
whose names start with `CATALOG__`, as in `CATALOG__AUTH__SECRET_KEY`. Variables may also stand in a
file `.env`.

Values are converted to what is wanted where that makes sense: texts to numbers, numbers to texts,
truth values to both. A port keeps the low 16 bits of its number.

* `Settings.load`   the settings in files and environment, or what is wrong with them.
-/

namespace Showroom

namespace Settings

/-- A value that was found where something else was wanted. -/
inductive Found where
  | nothing
  | flag (value : Bool)
  | whole (value : Int)
  | real (value : Binary64)
  | text (value : String)
  | list
  | table
deriving DecidableEq, Inhabited

/-- How a value that was found is called. Whole numbers are called by `wholeName`. -/
def Found.describe (wholeName : String) : Found → String
  | nothing => "unit value"
  | flag b => "boolean `" ++ toString b ++ "`"
  | whole n => wholeName ++ " `" ++ String.ofList (Text.Decimal.signed n) ++ "`"
  | real x => "floating point `" ++ String.ofList x.pointed ++ "`"
  | text s => "string " ++ Text.quoted s
  | list => "sequence"
  | table => "map"

/-- What can be wanted of a value. -/
inductive Wanted where
  | integer
  | unsigned
  | text
  | list
  | auth
  | images
  | user
deriving DecidableEq, Inhabited

def Wanted.describe : Wanted → String
  | integer => "an integer"
  | unsigned => "an unsigned 64 bit or less integer"
  | text => "a string"
  | list => "a sequence"
  | auth => "struct AuthSettings"
  | images => "struct ImageSettings"
  | user => "struct SeedUser"

def Wanted.fieldCount : Wanted → Nat
  | user => 3
  | _ => 2

/-- Why settings cannot be loaded. Where a value cannot be converted, the path to it and its source
are known; where a group of settings has the wrong shape, they are not. -/
inductive LoadError where
  | noFile
  | badFile (text : String)
  | notConverted (found : Found) (wanted : Wanted) (key : Option String) (origin : Option Origin)
  | badShape (found : Found) (wanted : Wanted)
  | tooShort (count : Nat) (wanted : Wanted)
  | missing (field : String)
deriving DecidableEq, Inhabited

namespace LoadError

/-- How the error is reported; `yamlFault` says what is wrong with the text of a file. -/
def message (yamlFault : String → String) : LoadError → String
  | noFile => "configuration file " ++ Text.quoted "configuration" ++ " not found"
  | badFile text => yamlFault text ++ " in " ++ Origin.file.text
  | notConverted found wanted key origin =>
    "invalid type: " ++ found.describe "integer 64 bit" ++ ", expected " ++ wanted.describe
      ++ (key.elim "" fun k => " for key `" ++ k ++ "`")
      ++ (origin.elim "" fun o => " in " ++ o.text)
  | badShape found wanted =>
    "invalid type: " ++ found.describe "integer" ++ ", expected " ++ wanted.describe
  | tooShort count wanted =>
    s!"invalid length {count}, expected {wanted.describe} with {wanted.fieldCount} elements"
  | missing field => "missing field `" ++ field ++ "`"

/-- Puts the name of a row in front of the path to a value. -/
def inRow (name : String) : LoadError → LoadError
  | notConverted found wanted key origin =>
    let rest := key.getD ""
    let joint := if rest = "" ∨ rest.front = '[' then "" else "."
    notConverted found wanted (some (name ++ joint ++ rest)) origin
  | e => e

/-- Puts the place of an item in front of the path to a value. -/
def inItem (index : Nat) : LoadError → LoadError
  | notConverted found wanted key origin =>
    notConverted found wanted (some (s!"[{index}]" ++ key.getD "")) origin
  | e => e

end LoadError

namespace Value

def origin : Value → Option Origin
  | nothing origin => origin
  | flag origin _ => origin
  | whole origin _ => origin
  | real origin _ => origin
  | text origin _ => origin
  | list origin _ => origin
  | table origin _ => origin

def found : Value → Found
  | nothing _ => .nothing
  | flag _ b => .flag b
  | whole _ n => .whole n
  | real _ x => .real x
  | text _ s => .text s
  | list _ _ => .list
  | table _ _ => .table

def notConverted (v : Value) (wanted : Wanted) : LoadError :=
  .notConverted v.found wanted none v.origin

/-- The error that a value is no group of settings. -/
def badShape (v : Value) (wanted : Wanted) : LoadError := .badShape v.found wanted

def asText (v : Value) : Except LoadError String :=
  match v with
  | text _ s => .ok s
  | flag _ b => .ok (toString b)
  | whole _ n => .ok (String.ofList (Text.Decimal.signed n))
  | real _ x => .ok (String.ofList x.decimal)
  | v => .error (v.notConverted .text)

/-- The number that a text stands for: a truth value, or decimal digits with or without a plus
sign. -/
def numberOf (s : String) : Option UInt64 :=
  let lower := s.map Char.toLower
  if ["true", "on", "yes"].contains lower then some 1
  else if ["false", "off", "no"].contains lower then some 0
  else
    let digits := match s.toList with
      | '+' :: cs => cs
      | cs => cs
    match Text.Decimal.read? digits with
    | some n => if n < UInt64.size then some (UInt64.ofNat n) else none
    | none => none

def asNumber (v : Value) : Except LoadError UInt64 :=
  match v with
  | whole _ n => if 0 ≤ n then .ok (UInt64.ofInt n) else .error (v.notConverted .unsigned)
  | real _ x => .ok x.roundToUInt64
  | flag _ b => .ok (if b then 1 else 0)
  | text _ s =>
    match numberOf s with
    | some n => .ok n
    | none => .error (v.notConverted .integer)
  | v => .error (v.notConverted .integer)

end Value

def readRow {α : Type} (rows : Rows) (name : String) (convert : Value → Except LoadError α) :
    Except LoadError (Option α) :=
  match rows.lookup name with
  | some v => ((convert v).mapError (.inRow name)).map some
  | none => .ok none

def readItem {α : Type} (items : List Value) (index : Nat) (convert : Value → Except LoadError α) :
    Except LoadError (Option α) :=
  match items[index]? with
  | some v => ((convert v).mapError (.inItem index)).map some
  | none => .ok none

def require {α : Type} (name : String) : Option α → Except LoadError α
  | some v => .ok v
  | none => .error (.missing name)

def requireItem {α : Type} (index : Nat) (wanted : Wanted) : Option α → Except LoadError α
  | some v => .ok v
  | none => .error (.tooShort index wanted)

/-- Secret and lifetime of tokens. Groups of settings can also be given as lists of their fields. -/
def readAuth (v : Value) : Except LoadError (String × UInt64) :=
  match v with
  | .table _ rows => do
    let secret ← readRow rows "secret_key" Value.asText
    let seconds ← readRow rows "token_duration_secs" Value.asNumber
    return (← require "secret_key" secret, seconds.getD defaultTokenSeconds)
  | .list _ items => do
    let secret ← requireItem 0 .auth (← readItem items 0 Value.asText)
    let seconds ← readItem items 1 Value.asNumber
    return (secret, seconds.getD defaultTokenSeconds)
  | v => .error (v.badShape .auth)

def readImages (v : Value) : Except LoadError (String × UInt64) :=
  match v with
  | .table _ rows => do
    let folder ← readRow rows "folder" Value.asText
    let limit ← readRow rows "max_size" Value.asNumber
    return (folder.getD defaultImageFolder, limit.getD defaultImageLimit)
  | .list _ items => do
    let folder ← readItem items 0 Value.asText
    let limit ← readItem items 1 Value.asNumber
    return (folder.getD defaultImageFolder, limit.getD defaultImageLimit)
  | v => .error (v.badShape .images)

def readUser (v : Value) : Except LoadError NewUser :=
  match v with
  | .table _ rows => do
    let username ← readRow rows "username" Value.asText
    let password ← readRow rows "password" Value.asText
    let role ← readRow rows "role" Value.asText
    return ⟨← require "username" username, ← require "password" password, ← require "role" role⟩
  | .list _ items => do
    let username ← requireItem 0 .user (← readItem items 0 Value.asText)
    let password ← requireItem 1 .user (← readItem items 1 Value.asText)
    let role ← requireItem 2 .user (← readItem items 2 Value.asText)
    return ⟨username, password, role⟩
  | v => .error (v.badShape .user)

def readUsers (v : Value) : Except LoadError (List NewUser) :=
  match v with
  | .list _ items => items.zipIdx.mapM fun u => (readUser u.1).mapError (.inItem u.2)
  | v => .error (v.badShape .list)

/-- The settings in the rows of a table. What is there is converted before anything that is missing
is reported. -/
def ofRows (rows : Rows) : Except LoadError Settings := do
  let host ← readRow rows "app_host" Value.asText
  let port ← readRow rows "app_port" Value.asNumber
  let auth ← readRow rows "auth" readAuth
  let images ← readRow rows "images" readImages
  let users ← readRow rows "seed_users" readUsers
  let host ← require "app_host" host
  let port ← require "app_port" port
  let auth ← require "auth" auth
  let images ← require "images" images
  return ⟨host, port.toUInt16, auth.1, auth.2, images.1, images.2, users.getD []⟩

/-- The rows of a settings file. A file without a table has none. -/
def ofFile (text : String) : Except LoadError Rows :=
  match Yaml.Node.documents (Text.withoutMark text) with
  | some [] => .ok []
  | some [document] =>
    match Value.ofNode? document with
    | some v => .ok v.rows
    | none => .error (.badFile text)
  | _ => .error (.badFile text)

/-- Sets the values of rows whose names are paths. -/
def setAll (named rows : Rows) : Rows :=
  named.foldl (fun rows row => (KeyPath.ofText row.1).set row.2 rows) rows

def variableMark : List Char := "catalog__".toList

/-- Two underscores in the name of a variable stand for one step of a path. -/
def dotted : List Char → List Char
  | '_' :: '_' :: cs => '.' :: dotted cs
  | c :: cs => c :: dotted cs
  | [] => []

/-- The small letter of a letter in the name of a variable. The Kelvin sign is a K; no other
character outside of ASCII has a small letter that can be in the name of a setting. -/
def smallLetter (c : Char) : Char := if c = '\u212a' then 'k' else c.toLower

/-- The path that a variable sets, if it is one of ours. Its case does not matter. -/
def variablePath? (name : String) : Option String :=
  (Text.dropText? variableMark (name.toList.map smallLetter)).map fun cs =>
    String.ofList (dotted cs)

def ofEnvironment (e : Environment) : Rows :=
  e.entries.foldl (fun rows entry =>
    match variablePath? entry.1 with
    | some path => putRow path (.text (some .environment) entry.2) rows
    | none => rows) []

/-- The settings in the texts of `configuration.yaml` and `.env`, and in the environment. -/
def load (file envFile : Option String) (e : Environment) : Except LoadError Settings :=
  let e := envFile.elim e e.addFile
  match file with
  | none => .error .noFile
  | some text =>
    match ofFile text with
    | .error cause => .error cause
    | .ok named => ofRows (setAll (ofEnvironment e) (setAll named []))

end Settings

end Showroom
