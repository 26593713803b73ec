import Showroom.Proofs.Settings.Tree

/-!
# Showroom.Proofs.Settings.Sources

Where each setting comes from. For a file whose document is a map with plain names, in which `auth`
and `images` are maps, each leaf is taken from its variable, else from the first line of `.env` that
sets this variable, else from its node in the document, and else it is the default if it has one.
The users are those of the document.

Lines of `.env` behind the first in no known form set nothing, and a value there may refer to
variables. So another variable can be set in any way without a change to a leaf, as long as `.env`
does not refer to it.

* `Settings.load_determined`: the settings from their sources.
* `Settings.load_brokenLine_referringLine`: two files `.env` whose lines do more than set their
  variables.
-/

namespace Showroom

namespace Settings

/-! ## Sources -/

def Leaf.node? (pairs : List (Yaml.Node × Yaml.Node)) (l : Leaf) : Option Yaml.Node :=
  match l.group? with
  | none => Settings.node? pairs l.key
  | some g =>
    match Settings.node? pairs g with
    | some (.map fields) => Settings.node? fields l.key
    | _ => none

/-- What the lines of `.env` set, if there is such a file. -/
def fileLines (e : Environment) (envFile : Option String) : List (String × String) :=
  envFile.elim [] e.fileAssignments

/-- The value of a leaf in the first of its sources that has one. -/
def Leaf.source? (pairs : List (Yaml.Node × Yaml.Node)) (envFile : Option String) (e : Environment)
    (l : Leaf) : Option Value :=
  match (e.find? l.envName).or ((fileLines e envFile).lookup l.envName) with
  | some t => some (.text (some .environment) t)
  | none => (l.node? pairs).bind Value.ofNode?

/-- Settings that are made of the values of their leaves, and of the users. -/
structure Determined (found : Leaf → Option Value) (users : Option Value) (s : Settings) :
    Prop where
  host : Given (found .host) Value.asText s.host
  port : ∃ n, Given (found .port) Value.asNumber n ∧ s.port = n.toUInt16
  secret : Given (found .secret) Value.asText s.secret
  tokenSeconds : GivenOr defaultTokenSeconds (found .tokenSeconds) Value.asNumber s.tokenSeconds
  folder : GivenOr defaultImageFolder (found .folder) Value.asText s.imageFolder
  imageLimit : GivenOr defaultImageLimit (found .imageLimit) Value.asNumber s.imageLimit
  users : GivenOr [] users readUsers s.seedUsers

def Leaf.Same (s s' : Settings) : Leaf → Prop
  | host => s.host = s'.host
  | port => s.port = s'.port
  | secret => s.secret = s'.secret
  | tokenSeconds => s.tokenSeconds = s'.tokenSeconds
  | folder => s.imageFolder = s'.imageFolder
  | imageLimit => s.imageLimit = s'.imageLimit

def isMap : Yaml.Node → Bool
  | .map _ => true
  | _ => false

/-- Whether a key is no path to something in a group. -/
def isPlain : Yaml.Node → Bool
  | .text cs => !cs.contains '.' && !cs.contains '['
  | _ => true

/-- A document with plain names whose groups are maps, and an environment and a file `.env` that set
nothing else of the settings than leaves. -/
structure Covered (text : String) (envFile : Option String) (e : Environment)
    (pairs : List (Yaml.Node × Yaml.Node)) : Prop where
  document : Yaml.Node.documents (Text.withoutMark text) = some [.map pairs]
  plain : ∀ p ∈ pairs, isPlain p.1 = true
  groups : ∀ g ∈ ["auth", "images"], (node? pairs g).any isMap = true
  distinct : e.names.Nodup
  environment : OnlyLeaves e.names
  lines : OnlyLeaves ((fileLines e envFile).map (·.1))

variable {found : Leaf → Option Value} {users : Option Value} {s s' : Settings} {rows named : Rows}
  {pairs : List (Yaml.Node × Yaml.Node)} {text : String} {envFile : Option String}
  {e e' : Environment}

/-! ## Conversion -/

section Fresh

variable {α : Type} {convert : Value → Except LoadError α} {a fallback : α} {o : Option Value}

theorem given_map_fresh (h : ∀ origin rows, convert (.table origin rows) ≠ .ok a) :
    Given (o.map fresh) convert a ↔ Given o convert a := by
  cases o with
  | none => exact Iff.rfl
  | some v =>
    rw [Option.map_some, given_some_iff, given_some_iff]
    cases v with
    | table origin incoming => exact iff_of_false (h _ _) (h _ _)
    | _ => exact Iff.rfl

theorem givenOr_map_fresh (h : ∀ origin rows, convert (.table origin rows) ≠ .ok a) :
    GivenOr fallback (o.map fresh) convert a ↔ GivenOr fallback o convert a := by
  rw [GivenOr, GivenOr, given_map_fresh h, Option.map_eq_none_iff]

end Fresh

theorem asText_table (origin : Option Origin) (rows : Rows) (a : String) :
    Value.asText (.table origin rows) ≠ .ok a := by
  intro h
  cases h

theorem asNumber_table (origin : Option Origin) (rows : Rows) (n : UInt64) :
    Value.asNumber (.table origin rows) ≠ .ok n := by
  intro h
  cases h

theorem readUsers_table (origin : Option Origin) (rows : Rows) (users : List NewUser) :
    readUsers (.table origin rows) ≠ .ok users := by
  intro h
  cases h

theorem determined_map_fresh :
    Determined (fun l => (found l).map fresh) (users.map fresh) s ↔ Determined found users s := by
  have htext : ∀ {o : Option Value} {a : String},
      Given (o.map fresh) Value.asText a ↔ Given o Value.asText a :=
    given_map_fresh fun origin rows => asText_table origin rows _
  have hnumber : ∀ {o : Option Value} {n : UInt64},
      Given (o.map fresh) Value.asNumber n ↔ Given o Value.asNumber n :=
    given_map_fresh fun origin rows => asNumber_table origin rows _
  have hnumberOr : ∀ {fallback n : UInt64} {o : Option Value},
      GivenOr fallback (o.map fresh) Value.asNumber n ↔ GivenOr fallback o Value.asNumber n :=
    givenOr_map_fresh fun origin rows => asNumber_table origin rows _
  have htextOr : ∀ {fallback a : String} {o : Option Value},
      GivenOr fallback (o.map fresh) Value.asText a ↔ GivenOr fallback o Value.asText a :=
    givenOr_map_fresh fun origin rows => asText_table origin rows _
  have husers : ∀ {o : Option Value} {us : List NewUser},
      GivenOr [] (o.map fresh) readUsers us ↔ GivenOr [] o readUsers us :=
    givenOr_map_fresh fun origin rows => readUsers_table origin rows _
  constructor
  · rintro ⟨h1, ⟨n, h2, hport⟩, h3, h4, h5, h6, h7⟩
    exact ⟨htext.mp h1, ⟨n, hnumber.mp h2, hport⟩, htext.mp h3, hnumberOr.mp h4, htextOr.mp h5,
      hnumberOr.mp h6, husers.mp h7⟩
  · rintro ⟨h1, ⟨n, h2, hport⟩, h3, h4, h5, h6, h7⟩
    exact ⟨htext.mpr h1, ⟨n, hnumber.mpr h2, hport⟩, htext.mpr h3, hnumberOr.mpr h4, htextOr.mpr h5,
      hnumberOr.mpr h6, husers.mpr h7⟩

theorem loaded_iff (h : HasGroups rows) :
    Loaded rows s ↔ Determined (fun l => l.find? rows) (rows.lookup "seed_users") s := by
  obtain ⟨_, auth, hauth⟩ := h .secret "auth" rfl
  obtain ⟨_, images, himages⟩ := h .folder "images" rfl
  have hfind : ∀ {l : Leaf} {g : String} {origin : Option Origin} {there : Rows},
      l.group? = some g → rows.lookup g = some (.table origin there) →
      l.find? rows = there.lookup l.key := by
    intro l g origin there hgroup hthere
    rw [Leaf.find?_of_group hgroup, Leaf.groupIn, hthere]
    rfl
  constructor
  · rintro ⟨hhost, hport, hgroup, hgroup', husers⟩
    rw [hauth, given_some_iff, readAuth_eq_ok_iff] at hgroup
    rw [himages, given_some_iff, readImages_eq_ok_iff] at hgroup'
    obtain ⟨-, hsecret, hseconds⟩ := hgroup
    obtain ⟨-, hfolder, hlimit⟩ := hgroup'
    refine ⟨hhost, hport, ?_, ?_, ?_, ?_, husers⟩
    · rw [hfind rfl hauth]; exact hsecret
    · rw [hfind rfl hauth]; exact hseconds
    · rw [hfind rfl himages]; exact hfolder
    · rw [hfind rfl himages]; exact hlimit
  · rintro ⟨hhost, hport, hsecret, hseconds, hfolder, hlimit, husers⟩
    rw [hfind rfl hauth] at hsecret hseconds
    rw [hfind rfl himages] at hfolder hlimit
    refine ⟨hhost, hport, ?_, ?_, husers⟩
    · rw [hauth, given_some_iff, readAuth_eq_ok_iff]
      exact ⟨trivial, hsecret, hseconds⟩
    · rw [himages, given_some_iff, readImages_eq_ok_iff]
      exact ⟨trivial, hfolder, hlimit⟩

/-! ## The tree of a document -/

theorem exists_map {node : Option Yaml.Node} (h : node.any isMap = true) :
    ∃ fields, node = some (.map fields) := by
  cases node with
  | none => cases h
  | some node =>
    cases node with
    | map fields => exact ⟨fields, rfl⟩
    | _ => cases h

section Document

variable (hplain : ∀ p ∈ pairs, isPlain p.1 = true)
  (hnamed : Value.ofPairs? pairs [] = some named)

include hplain hnamed

theorem setAll_document : setAll named [] = Value.placeAll named [] := by
  refine setAll_of_plain ?_
  intro row hrow
  have hmem : row.1 ∈ named.map (·.1) := List.mem_map.mpr ⟨row, hrow, rfl⟩
  obtain ⟨hlookup, -, -⟩ := lookup_ofPairs? row.1 hnamed
  cases hnode : node? pairs row.1 with
  | none =>
    rw [hnode] at hlookup
    exact absurd hmem (lookup_eq_none_iff_not_mem.mp hlookup)
  | some node =>
    obtain ⟨p, hp, htext, -⟩ := exists_of_node? hnode
    have hkey := hplain p hp
    rw [htext] at hkey
    simp only [isPlain, Bool.and_eq_true, Bool.not_eq_true', List.contains_eq_mem,
      decide_eq_false_iff_not] at hkey
    exact ofText_of_plain hkey.1 hkey.2

theorem lookup_document (name : String) : (setAll named []).lookup name =
    ((node? pairs name).bind Value.ofNode?).map fresh := by
  obtain ⟨hlookup, -, hdistinct⟩ := lookup_ofPairs? name hnamed
  rw [setAll_document hplain hnamed, lookup_placeAll (hdistinct List.nodup_nil) (by simp), hlookup]
  cases node? pairs name with
  | none => rfl
  | some node => exact Option.or_none

theorem hasGroups_document
    (hgroups : ∀ g ∈ ["auth", "images"], (node? pairs g).any isMap = true) :
    HasGroups (setAll named []) ∧
      ∀ l : Leaf, l.find? (setAll named []) = ((l.node? pairs).bind Value.ofNode?).map fresh := by
  have hgroup : ∀ (l : Leaf) (g : String), l.group? = some g → ∃ fields inner,
      node? pairs g = some (.map fields) ∧ Value.ofPairs? fields [] = some inner ∧
      (setAll named []).lookup g = some (.table none (Value.placeAll inner [])) := by
    intro l g hl
    have hg : g ∈ ["auth", "images"] := by cases l <;> cases hl <;> simp
    obtain ⟨fields, hfields⟩ := exists_map (hgroups g hg)
    obtain ⟨-, hnodes, -⟩ := lookup_ofPairs? g hnamed
    obtain ⟨v, hv⟩ := hnodes _ hfields
    rw [Value.ofNode?] at hv
    obtain ⟨inner, hinner, rfl⟩ := Option.map_eq_some_iff.mp hv
    refine ⟨fields, inner, hfields, hinner, ?_⟩
    rw [lookup_document hplain hnamed, hfields, Option.bind_some, Value.ofNode?, hinner]
    rfl
  refine ⟨?_, ?_⟩
  · intro l g hl
    obtain ⟨fields, inner, -, -, hlookup⟩ := hgroup l g hl
    exact ⟨none, _, hlookup⟩
  · intro l
    cases hl : l.group? with
    | none =>
      rw [Leaf.find?, Leaf.node?, hl]
      exact lookup_document hplain hnamed l.key
    | some g =>
      obtain ⟨fields, inner, hfields, hinner, hlookup⟩ := hgroup l g hl
      obtain ⟨hfield, -, hdistinct⟩ := lookup_ofPairs? l.key hinner
      have hnode : l.node? pairs = Settings.node? fields l.key := by
        rw [Leaf.node?, hl]
        dsimp only
        rw [hfields]
      rw [Leaf.find?_of_group hl, Leaf.groupIn, hlookup, hnode]
      dsimp only [Option.getD_some, Value.rows]
      rw [lookup_placeAll (hdistinct List.nodup_nil) (by simp), hfield]
      cases node? fields l.key with
      | none => rfl
      | some node => exact Option.or_none

end Document

/-! ## Loading -/

theorem find?_withFile (e : Environment) (envFile : Option String) (name : String) :
    (envFile.elim e e.addFile).find? name =
      (e.find? name).or ((fileLines e envFile).lookup name) := by
  cases envFile with
  | none => exact Option.or_none.symm
  | some text => exact e.find?_addFile text name

theorem Covered.withFile (h : Covered text envFile e pairs) :
    (envFile.elim e e.addFile).names.Nodup ∧ OnlyLeaves (envFile.elim e e.addFile).names := by
  cases envFile with
  | none => exact ⟨h.distinct, h.environment⟩
  | some text =>
    refine ⟨Environment.nodup_addFile h.distinct text, ?_⟩
    intro name hname hours
    rcases Environment.mem_names_addFile hname with hset | ⟨a, ha, rfl⟩
    · exact h.environment name hset hours
    · exact h.lines a.1 (List.mem_map.mpr ⟨a, ha, rfl⟩) hours

theorem Covered.find?_tree (h : Covered text envFile e pairs)
    (hnamed : Value.ofPairs? pairs [] = some named) :
    HasGroups (setAll (ofEnvironment (envFile.elim e e.addFile)) (setAll named [])) ∧
    (∀ l : Leaf, l.find? (setAll (ofEnvironment (envFile.elim e e.addFile)) (setAll named [])) =
      (l.source? pairs envFile e).map fresh) ∧
    (setAll (ofEnvironment (envFile.elim e e.addFile)) (setAll named [])).lookup "seed_users" =
      ((node? pairs "seed_users").bind Value.ofNode?).map fresh := by
  obtain ⟨hdistinct, hours⟩ := h.withFile
  obtain ⟨hgroups, hfile⟩ := hasGroups_document h.plain hnamed h.groups
  obtain ⟨hrows, hvariables⟩ := ofEnvironment_leaves hdistinct hours
  obtain ⟨hall, hfind, hother⟩ := setAll_leaves hrows hgroups
  refine ⟨hall, ?_, ?_⟩
  · intro l
    rw [hfind, hvariables, hfile, Leaf.source?, find?_withFile]
    cases (e.find? l.envName).or ((fileLines e envFile).lookup l.envName) with
    | none => rfl
    | some t => rfl
  · rw [hother, lookup_document h.plain hnamed]
    intro l
    cases l <;> decide

theorem Covered.load_iff (h : Covered text envFile e pairs) :
    load (some text) envFile e = .ok s ↔ (Value.ofNode? (.map pairs)).isSome ∧
      Determined (Leaf.source? pairs envFile e)
        ((node? pairs "seed_users").bind Value.ofNode?) s := by
  rw [load_eq, tree, Value.ofNode?]
  cases hnamed : Value.ofPairs? pairs [] with
  | none =>
    have hfile : ofFile text = .error (.badFile text) := by
      simp only [ofFile, h.document, Value.ofNode?, hnamed, Option.map_none]
    rw [hfile]
    constructor
    · intro hload
      cases hload
    · rintro ⟨hsome, -⟩
      cases hsome
  | some named =>
    have hfile : ofFile text = .ok named := by
      simp only [ofFile, h.document, Value.ofNode?, hnamed, Option.map_some, Value.rows]
    obtain ⟨hgroups, hfind, husers⟩ := h.find?_tree hnamed
    rw [hfile]
    change ofRows (setAll (ofEnvironment (envFile.elim e e.addFile)) (setAll named [])) = .ok s ↔ _
    rw [ofRows_eq_ok_iff, loaded_iff hgroups, husers, funext hfind, determined_map_fresh]
    exact (and_iff_right rfl).symm

/-! ## Other variables -/

section Unique

variable {α : Type} {convert : Value → Except LoadError α} {a b fallback : α} {o : Option Value}

theorem given_unique (ha : Given o convert a) (hb : Given o convert b) : a = b := by
  obtain ⟨v, rfl, ha⟩ := ha
  rw [given_some_iff] at hb
  exact Except.ok.inj (ha.symm.trans hb)

theorem givenOr_unique (ha : GivenOr fallback o convert a) (hb : GivenOr fallback o convert b) :
    a = b := by
  rcases ha with ⟨rfl, rfl⟩ | ha
  · rcases hb with ⟨-, rfl⟩ | ⟨v, hv, -⟩
    · rfl
    · cases hv
  · rcases hb with ⟨rfl, -⟩ | hb
    · obtain ⟨v, hv, -⟩ := ha
      cases hv
    · exact given_unique ha hb

end Unique

theorem Determined.same {found' : Leaf → Option Value} {users' : Option Value} {l : Leaf}
    (h : Determined found users s) (h' : Determined found' users' s') (hl : found l = found' l) :
    l.Same s s' := by
  cases l with
  | host => exact given_unique h.host (hl ▸ h'.host)
  | port =>
    obtain ⟨n, hn, hport⟩ := h.port
    obtain ⟨n', hn', hport'⟩ := h'.port
    rw [← hl] at hn'
    rw [Leaf.Same, hport, hport', given_unique hn hn']
  | secret => exact given_unique h.secret (hl ▸ h'.secret)
  | tokenSeconds => exact givenOr_unique h.tokenSeconds (hl ▸ h'.tokenSeconds)
  | folder => exact givenOr_unique h.folder (hl ▸ h'.folder)
  | imageLimit => exact givenOr_unique h.imageLimit (hl ▸ h'.imageLimit)

theorem Leaf.marked_envName (l : Leaf) : Environment.Marked l.envName :=
  ⟨'_', by cases l <;> decide, by decide +kernel⟩

section Change

variable {l : Leaf} (hagree : Environment.AgreeOff l.envName e e')
  (hfree : ∀ lines, envFile = some lines → ¬ Environment.reference l.envName <:+: lines.toList)

include hagree hfree

theorem fileLines_congr : fileLines e envFile = fileLines e' envFile := by
  cases envFile with
  | none => rfl
  | some lines =>
    exact Environment.fileAssignments_congr hagree l.marked_envName (hfree lines rfl)

theorem source?_congr {l' : Leaf} (hother : l' ≠ l) :
    l'.source? pairs envFile e = l'.source? pairs envFile e' := by
  have hname : l'.envName ≠ l.envName := fun h => hother (Leaf.envName_inj.mp h)
  rw [Leaf.source?, Leaf.source?, hagree _ hname, fileLines_congr hagree hfree]

theorem Covered.congr (h : Covered text envFile e pairs) (hdistinct : e'.names.Nodup) :
    Covered text envFile e' pairs := by
  refine ⟨h.document, h.plain, h.groups, hdistinct, ?_, ?_⟩
  · intro name hname hours
    by_cases hsame : name = l.envName
    · exact ⟨l, hsame⟩
    · refine h.environment name ?_ hours
      refine Decidable.byContradiction fun hunset => ?_
      rw [← Environment.find?_eq_none_iff, hagree name hsame,
        Environment.find?_eq_none_iff] at hunset
      exact hunset hname
  · rw [← fileLines_congr hagree hfree]
    exact h.lines

end Change

/-- **Each leaf is determined by its own sources.** Settings are loaded exactly if the document can
be converted and each leaf has the value in the first of its sources that has one, or its default,
and the users those of the document. Where two environments differ in the variable of one leaf, to
which `.env` does not refer, no other leaf differs, and neither do the users. -/
theorem load_determined (h : Covered text envFile e pairs) :
    (∀ s, load (some text) envFile e = .ok s ↔ (Value.ofNode? (.map pairs)).isSome ∧
      Determined (Leaf.source? pairs envFile e)
        ((node? pairs "seed_users").bind Value.ofNode?) s) ∧
    (∀ (l : Leaf) (e' : Environment), Environment.AgreeOff l.envName e e' → e'.names.Nodup →
      (∀ lines, envFile = some lines → ¬ Environment.reference l.envName <:+: lines.toList) →
      ∀ s s', load (some text) envFile e = .ok s → load (some text) envFile e' = .ok s' →
        (∀ l', l' ≠ l → l'.Same s s') ∧ s.seedUsers = s'.seedUsers) := by
  refine ⟨fun s => h.load_iff, ?_⟩
  intro l e' hagree hdistinct hfree s s' hs hs'
  have h' := h.congr hagree hfree hdistinct
  obtain ⟨-, hmade⟩ := h.load_iff.mp hs
  obtain ⟨-, hmade'⟩ := h'.load_iff.mp hs'
  refine ⟨?_, givenOr_unique hmade.users hmade'.users⟩
  intro l' hother
  exact hmade.same hmade' (source?_congr hagree hfree hother)

/-! ## Three files -/

def documentPairs (text : String) : List (Yaml.Node × Yaml.Node) :=
  match Yaml.Node.documents (Text.withoutMark text) with
  | some [.map pairs] => pairs
  | _ => []

theorem documents_eq (h : (Yaml.Node.documents (Text.withoutMark text)).map
    (fun documents => documents.map isMap) = some [true]) :
    Yaml.Node.documents (Text.withoutMark text) = some [.map (documentPairs text)] := by
  obtain ⟨documents, hdocuments, hmaps⟩ := Option.map_eq_some_iff.mp h
  obtain ⟨document, rest, rfl, hmap, hrest⟩ := List.map_eq_cons_iff.mp hmaps
  have hmap : (some document).any isMap = true := hmap
  obtain ⟨pairs, hpairs⟩ := exists_map hmap
  cases hpairs
  cases List.map_eq_nil_iff.mp hrest
  rw [documentPairs, hdocuments]

def usersFile : String :=
  "app_host: h\napp_port: 1\nauth:\n  secret_key: k\n  token_duration_secs: 60\n" ++
    "images: \x7b\x7d\nseed_users:\n- [ada, pw, admin]\n"

def twoLines : String := "CATALOG__APP_HOST=x\nCATALOG__APP_HOST=y\n"

def withSecret (secret : String) : Environment :=
  ⟨[("HOME", "/"), ("CATALOG__AUTH__SECRET_KEY", secret)]⟩

theorem covered_usersFile :
    Covered usersFile (some twoLines) (withSecret "s") (documentPairs usersFile) := by
  have hlines : fileLines (withSecret "s") (some twoLines) =
      [("CATALOG__APP_HOST", "x"), ("CATALOG__APP_HOST", "y")] := by decide +kernel
  have hvariables : ∀ name ∈ (withSecret "s").names, (variablePath? name).isSome →
      ∃ l ∈ [Leaf.secret], name = l.envName := by decide +kernel
  have hset : ∀ a ∈ (fileLines (withSecret "s") (some twoLines)).map (·.1),
      a = Leaf.host.envName := by
    rw [hlines]
    decide
  refine ⟨documents_eq (by decide +kernel), by decide +kernel, by decide +kernel,
    by decide +kernel, ?_, ?_⟩
  · intro name hname hours
    obtain ⟨l, -, hl⟩ := hvariables name hname hours
    exact ⟨l, hl⟩
  · intro name hname _
    exact ⟨.host, hset name hname⟩

theorem load_determined_usersFile :
    ∃ s s', load (some usersFile) (some twoLines) (withSecret "s") = .ok s ∧
      load (some usersFile) (some twoLines) (withSecret "t") = .ok s' ∧
      Determined (Leaf.source? (documentPairs usersFile) (some twoLines) (withSecret "s"))
        ((node? (documentPairs usersFile) "seed_users").bind Value.ofNode?) s ∧
      (∀ l' : Leaf, l' ≠ .secret → l'.Same s s') ∧ s.seedUsers = s'.seedUsers := by
  have hload : load (some usersFile) (some twoLines) (withSecret "s") =
      .ok ⟨"x", 1, "s", 60, "img", 1048576, [⟨"ada", "pw", "admin"⟩]⟩ := by decide +kernel
  have hload' : load (some usersFile) (some twoLines) (withSecret "t") =
      .ok ⟨"x", 1, "t", 60, "img", 1048576, [⟨"ada", "pw", "admin"⟩]⟩ := by decide +kernel
  have hagree : Environment.AgreeOff Leaf.secret.envName (withSecret "s") (withSecret "t") := by
    intro name hname
    have hother : name ≠ "CATALOG__AUTH__SECRET_KEY" := hname
    simp only [Environment.find?, withSecret, lookup_cons_eq_ite, if_neg hother]
  have hfree : ∀ lines, some twoLines = some lines →
      ¬ Environment.reference Leaf.secret.envName <:+: lines.toList := by
    intro lines hlines
    cases hlines
    decide +kernel
  obtain ⟨hmade, hframe⟩ := load_determined covered_usersFile
  obtain ⟨hsame, husers⟩ := hframe .secret _ hagree (by decide +kernel) hfree _ _ hload hload'
  exact ⟨_, _, hload, hload', (hmade _ |>.mp hload).2, hsame, husers⟩

/-- Two files `.env`. In the first one a blank in a value keeps the line behind it from being read,
although this line alone sets the host. In the second one a reference to the secret makes the host
change with it. -/
theorem load_brokenLine_referringLine :
    Environment.assigned? {} "CATALOG__APP_HOST=x".toList = some (some ("CATALOG__APP_HOST", "x")) ∧
    load (some usersFile) (some "CATALOG__AUTH__SECRET_KEY=a b\nCATALOG__APP_HOST=x\n") {} =
      .ok ⟨"h", 1, "k", 60, "img", 1048576, [⟨"ada", "pw", "admin"⟩]⟩ ∧
    load (some usersFile) (some "CATALOG__APP_HOST=$\x7bCATALOG__AUTH__SECRET_KEY\x7d\n") {} =
      .ok ⟨"", 1, "k", 60, "img", 1048576, [⟨"ada", "pw", "admin"⟩]⟩ ∧
    load (some usersFile) (some "CATALOG__APP_HOST=$\x7bCATALOG__AUTH__SECRET_KEY\x7d\n")
        ⟨[("CATALOG__AUTH__SECRET_KEY", "s")]⟩ =
      .ok ⟨"s", 1, "s", 60, "img", 1048576, [⟨"ada", "pw", "admin"⟩]⟩ := by
  decide +kernel

end Settings

end Showroom
