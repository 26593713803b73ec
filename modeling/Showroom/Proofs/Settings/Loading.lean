import Showroom.Proofs.Except
import Showroom.Settings.Load

/-!
# Showroom.Proofs.Settings.Loading

What loaded settings are made of. Files and environment give one tree of values, and settings are
loaded from it if each value that is wanted is there, or can be left out, and can be converted.

* `Settings.load_eq`: the tree, and what is made of it.
* `Settings.ofRows_eq_ok_iff`: the settings that are made of a tree.
* `Settings.readAuth_eq_ok_iff`, `Settings.readImages_eq_ok_iff`: the groups in it.
-/

namespace Showroom

namespace Settings

section Reading

variable {α : Type}

/-- A value is there, and this is what it is converted to. -/
def Given (found : Option Value) (convert : Value → Except LoadError α) (a : α) : Prop :=
  ∃ v, found = some v ∧ convert v = .ok a

/-- The same, where something else counts if no value is there. -/
def GivenOr (fallback : α) (found : Option Value) (convert : Value → Except LoadError α) (a : α) :
    Prop :=
  (found = none ∧ a = fallback) ∨ Given found convert a

variable {convert : Value → Except LoadError α} {rows : Rows} {items : List Value} {name : String}
  {index : Nat} {wanted : Wanted} {found : Option Value} {o : Option α} {a fallback : α}

theorem given_some_iff {v : Value} : Given (some v) convert a ↔ convert v = .ok a := by
  constructor
  · rintro ⟨w, hw, h⟩
    cases hw
    exact h
  · intro h
    exact ⟨v, rfl, h⟩

theorem map_mapError_eq_ok_iff {v : Value} {place : LoadError → LoadError} :
    ((convert v).mapError place).map some = .ok o ↔ o.elim False (Given (some v) convert) := by
  cases hv : convert v with
  | error cause =>
    refine iff_of_false (fun h => by cases h) ?_
    cases o with
    | none => exact id
    | some a =>
      rw [Option.elim_some, given_some_iff, hv]
      intro h
      cases h
  | ok b =>
    have hmap : ((Except.ok b : Except LoadError α).mapError place).map some = .ok (some b) := rfl
    rw [hmap, Except.ok.injEq]
    cases o with
    | none => simp
    | some a => rw [Option.elim_some, given_some_iff, hv, Except.ok.injEq, Option.some_inj]

theorem readRow_eq_ok_iff : readRow rows name convert = .ok o ↔
    o.elim (rows.lookup name = none) (Given (rows.lookup name) convert) := by
  rw [readRow]
  cases rows.lookup name with
  | none => cases o <;> simp [Given]
  | some v => cases o <;> simp [map_mapError_eq_ok_iff]

theorem readItem_eq_ok_iff : readItem items index convert = .ok o ↔
    o.elim (items[index]? = none) (Given items[index]? convert) := by
  rw [readItem]
  cases items[index]? with
  | none => cases o <;> simp [Given]
  | some v => cases o <;> simp [map_mapError_eq_ok_iff]

theorem require_eq_ok_iff : require name o = .ok a ↔ o = some a := by
  cases o <;> simp [require]

theorem requireItem_eq_ok_iff : requireItem index wanted o = .ok a ↔ o = some a := by
  cases o <;> simp [requireItem]

theorem givenOr_iff : GivenOr fallback found convert a ↔
    ∃ o : Option α, o.elim (found = none) (Given found convert) ∧ o.getD fallback = a := by
  constructor
  · rintro (⟨hfound, rfl⟩ | h)
    · exact ⟨none, hfound, rfl⟩
    · exact ⟨some a, h, rfl⟩
  · rintro ⟨_ | b, h, rfl⟩
    · exact .inl ⟨h, rfl⟩
    · exact .inr h

end Reading

/-- A field of a group of settings, which is a table with its names or a list in their order. -/
def Value.field? (name : String) (index : Nat) : Value → Option Value
  | .table _ rows => rows.lookup name
  | .list _ items => items[index]?
  | _ => none

def Value.IsGroup : Value → Prop
  | .table _ _ => True
  | .list _ _ => True
  | _ => False

variable {v : Value} {rows : Rows} {s : Settings}

theorem readAuth_eq_ok_iff {secret : String} {seconds : UInt64} :
    readAuth v = .ok (secret, seconds) ↔ v.IsGroup ∧
      Given (v.field? "secret_key" 0) Value.asText secret ∧
      GivenOr defaultTokenSeconds (v.field? "token_duration_secs" 1) Value.asNumber seconds := by
  rw [givenOr_iff]
  cases v with
  | table origin rows =>
    simp only [readAuth, bind_eq_ok_iff, readRow_eq_ok_iff, require_eq_ok_iff, Value.IsGroup,
      Value.field?]
    constructor
    · rintro ⟨_, hsecret, o, hseconds, _, rfl, hboth⟩
      cases hboth
      exact ⟨trivial, hsecret, o, hseconds, rfl⟩
    · rintro ⟨-, hsecret, o, hseconds, rfl⟩
      exact ⟨some secret, hsecret, o, hseconds, secret, rfl, rfl⟩
  | list origin items =>
    simp only [readAuth, bind_eq_ok_iff, readItem_eq_ok_iff, requireItem_eq_ok_iff, Value.IsGroup,
      Value.field?]
    constructor
    · rintro ⟨_, hsecret, _, rfl, o, hseconds, hboth⟩
      cases hboth
      exact ⟨trivial, hsecret, o, hseconds, rfl⟩
    · rintro ⟨-, hsecret, o, hseconds, rfl⟩
      exact ⟨some secret, hsecret, secret, rfl, o, hseconds, rfl⟩
  | _ => simp [readAuth, Value.IsGroup]

theorem readImages_eq_ok_iff {folder : String} {limit : UInt64} :
    readImages v = .ok (folder, limit) ↔ v.IsGroup ∧
      GivenOr defaultImageFolder (v.field? "folder" 0) Value.asText folder ∧
      GivenOr defaultImageLimit (v.field? "max_size" 1) Value.asNumber limit := by
  rw [givenOr_iff, givenOr_iff]
  cases v with
  | table origin rows =>
    simp only [readImages, bind_eq_ok_iff, readRow_eq_ok_iff, Value.IsGroup, Value.field?]
    constructor
    · rintro ⟨o, hfolder, o', hlimit, hboth⟩
      cases hboth
      exact ⟨trivial, ⟨o, hfolder, rfl⟩, o', hlimit, rfl⟩
    · rintro ⟨-, ⟨o, hfolder, rfl⟩, o', hlimit, rfl⟩
      exact ⟨o, hfolder, o', hlimit, rfl⟩
  | list origin items =>
    simp only [readImages, bind_eq_ok_iff, readItem_eq_ok_iff, Value.IsGroup, Value.field?]
    constructor
    · rintro ⟨o, hfolder, o', hlimit, hboth⟩
      cases hboth
      exact ⟨trivial, ⟨o, hfolder, rfl⟩, o', hlimit, rfl⟩
    · rintro ⟨-, ⟨o, hfolder, rfl⟩, o', hlimit, rfl⟩
      exact ⟨o, hfolder, o', hlimit, rfl⟩
  | _ => simp [readImages, Value.IsGroup]

/-- Settings with what was found for them in the rows of a tree. -/
structure Loaded (rows : Rows) (s : Settings) : Prop where
  host : Given (rows.lookup "app_host") Value.asText s.host
  port : ∃ n, Given (rows.lookup "app_port") Value.asNumber n ∧ s.port = n.toUInt16
  auth : Given (rows.lookup "auth") readAuth (s.secret, s.tokenSeconds)
  images : Given (rows.lookup "images") readImages (s.imageFolder, s.imageLimit)
  users : GivenOr [] (rows.lookup "seed_users") readUsers s.seedUsers

/-- **Settings are loaded exactly if what they need is there and can be converted.** -/
theorem ofRows_eq_ok_iff : ofRows rows = .ok s ↔ Loaded rows s := by
  simp only [ofRows, bind_eq_ok_iff, readRow_eq_ok_iff, require_eq_ok_iff]
  constructor
  · rintro ⟨_, hhost, _, hport, _, hauth, _, himages, o, husers, _, rfl, n, rfl, _, rfl, _, rfl, hs⟩
    cases hs
    exact ⟨hhost, ⟨n, hport, rfl⟩, hauth, himages, givenOr_iff.mpr ⟨o, husers, rfl⟩⟩
  · obtain ⟨host, port, secret, seconds, folder, limit, users⟩ := s
    rintro ⟨hhost, ⟨n, hport, rfl⟩, hauth, himages, husers⟩
    obtain ⟨o, ho, rfl⟩ := givenOr_iff.mp husers
    exact ⟨some host, hhost, some n, hport, some (secret, seconds), hauth, some (folder, limit),
      himages, o, ho, host, rfl, n, rfl, _, rfl, _, rfl, rfl⟩

def tree (file envFile : Option String) (e : Environment) : Except LoadError Rows :=
  match file with
  | none => .error .noFile
  | some text => (ofFile text).map fun named =>
    setAll (ofEnvironment (envFile.elim e e.addFile)) (setAll named [])

theorem load_eq (file envFile : Option String) (e : Environment) :
    load file envFile e = tree file envFile e >>= ofRows := by
  cases file with
  | none => rfl
  | some text =>
    rw [load, tree]
    cases ofFile text <;> rfl

end Settings

end Showroom
