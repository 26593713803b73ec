import Showroom.Proofs.Settings.Environment
import Showroom.Proofs.Settings.Loading

/-!
# Showroom.Proofs.Settings.Tree

How the tree of values comes about. A file gives rows, of which the last counts where a name is
there more than once. The variables are then set one by one, each at its path, and that changes what
is at this path and nothing else: a group keeps its other fields.

* `Settings.Leaf`: what can be set by a variable.
* `Settings.Leaf.find?_set`: one variable is set.
* `Settings.lookup_ofPairs?`, `Settings.lookup_placeAll`: the rows of a file.
* `Settings.setAll_leaves`: all variables are set.
-/

namespace Showroom

namespace Settings

variable {name other : String} {v : Value} {rows named : Rows}

/-! ## Rows -/

theorem lookup_putRow :
    (putRow name v rows).lookup other = if other = name then some v else rows.lookup other :=
  lookup_of_put (f := putRow name v) rfl (fun _ _ => rfl) rows

theorem putRow_eq : putRow name v rows = Table.putRow name v rows := by
  induction rows with
  | nil => rfl
  | cons row rows ih => rw [putRow, Table.putRow, ih]

theorem nodup_putRow (h : (rows.map (·.1)).Nodup) : ((putRow name v rows).map (·.1)).Nodup := by
  by_cases hmem : name ∈ rows.map (·.1)
  · have hsame : (putRow name v rows).map (·.1) = rows.map (·.1) := by
      clear h
      induction rows with
      | nil => cases hmem
      | cons row rows ih =>
        rw [putRow]
        split
        · rename_i hrow
          rw [List.map_cons, List.map_cons, hrow]
        · rename_i hrow
          rw [List.map_cons, List.mem_cons] at hmem
          rw [List.map_cons, List.map_cons, ih (hmem.resolve_left (Ne.symm hrow))]
    rwa [hsame]
  · rw [putRow_eq, Table.putRow_of_not_mem hmem]
    exact nodup_keys_concat h hmem

theorem mem_putRow {row : String × Value} (h : row ∈ putRow name v rows) :
    row = (name, v) ∨ row ∈ rows := by
  induction rows with
  | nil => exact .inl (List.mem_singleton.mp h)
  | cons first rows ih =>
    rw [putRow] at h
    split at h
    · rcases List.mem_cons.mp h with h | h
      · exact .inl h
      · exact .inr (List.mem_cons_of_mem _ h)
    · rcases List.mem_cons.mp h with h | h
      · exact .inr (h ▸ List.mem_cons_self)
      · rcases ih h with h | h
        · exact .inl h
        · exact .inr (List.mem_cons_of_mem _ h)

/-! ## Rows of a file -/

/-- A value that is laid where nothing is. A table is made anew. -/
def fresh : Value → Value
  | .table _ incoming => .table none (Value.placeAll incoming [])
  | v => v

theorem lookup_place (free : rows.lookup name = none) :
    (v.place name rows).lookup other =
      if other = name then some (fresh v) else rows.lookup other := by
  cases v with
  | table origin incoming =>
    rw [Value.place, free]
    exact lookup_putRow
  | _ =>
    rw [Value.place]
    · exact lookup_putRow
    · simp

theorem lookup_placeAll (distinct : (named.map (·.1)).Nodup)
    (free : ∀ name ∈ named.map (·.1), rows.lookup name = none) :
    (Value.placeAll named rows).lookup other =
      ((named.lookup other).map fresh).or (rows.lookup other) := by
  induction named generalizing rows with
  | nil =>
    rw [Value.placeAll]
    rfl
  | cons row named ih =>
    obtain ⟨name, v⟩ := row
    rw [List.map_cons, List.nodup_cons] at distinct
    have hfree := free name List.mem_cons_self
    have hlater : ∀ later ∈ named.map (·.1), (v.place name rows).lookup later = none := by
      intro later hmem
      rw [lookup_place hfree, if_neg]
      · exact free later (List.mem_cons_of_mem _ hmem)
      · rintro rfl
        exact distinct.1 hmem
    rw [Value.placeAll, ih distinct.2 hlater, lookup_place hfree, lookup_cons_eq_ite]
    dsimp only
    split
    · rename_i hsame
      have hnone : named.lookup other = none :=
        lookup_eq_none_iff_not_mem.mpr (hsame ▸ distinct.1)
      rw [hnone]
      rfl
    · rfl

/-- The node of a name in a map. Of several the last counts. -/
def node? (pairs : List (Yaml.Node × Yaml.Node)) (name : String) : Option Yaml.Node :=
  (pairs.reverse.find? fun p => p.1.isText name.toList).map (·.2)

variable {pairs : List (Yaml.Node × Yaml.Node)}

theorem node?_cons (p : Yaml.Node × Yaml.Node) (pairs : List (Yaml.Node × Yaml.Node)) :
    node? (p :: pairs) name =
      (node? pairs name).or (if p.1.isText name.toList then some p.2 else none) := by
  rw [node?, node?, List.reverse_cons, List.find?_append, List.find?_singleton]
  cases pairs.reverse.find? fun p => p.1.isText name.toList with
  | none => split <;> rfl
  | some _ => rfl

theorem node?_eq_none_iff :
    node? pairs name = none ↔ ∀ p ∈ pairs, p.1.isText name.toList = false := by
  rw [node?, Option.map_eq_none_iff, List.find?_eq_none]
  simp

theorem exists_of_node? {node : Yaml.Node} (h : node? pairs name = some node) :
    ∃ p ∈ pairs, p.1 = .text name.toList ∧ p.2 = node := by
  obtain ⟨p, hp, rfl⟩ := Option.map_eq_some_iff.mp h
  refine ⟨p, List.mem_reverse.mp (List.mem_of_find?_eq_some hp), ?_, rfl⟩
  have htext := List.find?_some hp
  cases hkey : p.1 with
  | text cs =>
    rw [hkey] at htext
    rw [of_decide_eq_true htext]
  | _ =>
    rw [hkey] at htext
    cases htext

/-- **The rows of a map.** They have different names, and there is one for each key that is a text,
with the value of its last node. -/
theorem lookup_ofPairs? (name : String) (h : Value.ofPairs? pairs rows = some named) :
    named.lookup name = (node? pairs name).elim (rows.lookup name) Value.ofNode? ∧
      (∀ node, node? pairs name = some node → ∃ v, Value.ofNode? node = some v) ∧
      ((rows.map (·.1)).Nodup → (named.map (·.1)).Nodup) := by
  induction pairs generalizing rows with
  | nil =>
    rw [Value.ofPairs?] at h
    cases h
    exact ⟨rfl, by simp [node?], id⟩
  | cons p pairs ih =>
    obtain ⟨key, node⟩ := p
    rw [node?_cons]
    cases key with
    | text cs =>
      rw [Value.ofPairs?] at h
      split at h
      · rename_i hany
        obtain ⟨hlookup, hnodes, hnodup⟩ := ih h
        rw [hlookup]
        by_cases hsame : cs = name.toList
        · -- A later pair with the same key counts.
          obtain ⟨q, hq, htext⟩ := List.any_eq_true.mp hany
          cases hfound : node? pairs name with
          | none =>
            rw [hsame, node?_eq_none_iff.mp hfound q hq] at htext
            cases htext
          | some n =>
            rw [hfound] at hnodes
            exact ⟨rfl, hnodes, hnodup⟩
        · simpa [Yaml.Node.isText, hsame] using ⟨hnodes, hnodup⟩
      · rename_i hany
        obtain ⟨w, hw, h⟩ := Option.bind_eq_some_iff.mp h
        obtain ⟨hlookup, hnodes, hnodup⟩ := ih h
        rw [hlookup, lookup_putRow]
        by_cases hsame : cs = name.toList
        · have hnone : node? pairs name = none := by
            rw [node?_eq_none_iff]
            intro q hq
            rw [← hsame]
            simpa using fun htext => hany (List.any_eq_true.mpr ⟨q, hq, htext⟩)
          simpa [hnone, Yaml.Node.isText, hsame, hw] using fun hrows => hnodup (nodup_putRow hrows)
        · have hother : name ≠ String.ofList cs := by
            rintro rfl
            exact hsame String.toList_ofList.symm
          simpa [Yaml.Node.isText, hsame, hother] using
            ⟨hnodes, fun hrows => hnodup (nodup_putRow hrows)⟩
    | _ =>
      rw [Value.ofPairs?] at h
      · simpa [Yaml.Node.isText] using ih h
      · simp

/-! ## Paths -/

theorem ofText_of_plain (h : '.' ∉ name.toList) (h' : '[' ∉ name.toList) :
    KeyPath.ofText name = ⟨name, []⟩ := by
  have hsplit := List.takeWhile_append_dropWhile (p := KeyPath.isNameChar) (l := name.toList)
  rw [KeyPath.ofText]
  cases hrest : name.toList.dropWhile KeyPath.isNameChar with
  | nil =>
    rw [hrest, List.append_nil] at hsplit
    simp only [KeyPath.readSteps, hsplit, String.ofList_toList]
    split <;> rfl
  | cons c rest =>
    have hmem : c ∈ name.toList := by
      rw [← hsplit, hrest]
      simp
    have hnone : KeyPath.readSteps (c :: rest).length (c :: rest) = none := by
      rw [List.length_cons, KeyPath.readSteps]
      · simp
      · rintro cs heq
        cases heq
        exact h hmem
      · rintro cs heq
        cases heq
        exact h' hmem
    simp only [hnone]

theorem setAll_of_plain (h : ∀ row ∈ named, KeyPath.ofText row.1 = ⟨row.1, []⟩) :
    setAll named rows = Value.placeAll named rows := by
  induction named generalizing rows with
  | nil => rw [Value.placeAll]; rfl
  | cons row named ih =>
    obtain ⟨name, v⟩ := row
    have hname := h _ List.mem_cons_self
    have hstep : setAll ((name, v) :: named) rows = setAll named (v.place name rows) := by
      rw [setAll, List.foldl_cons, hname]
      rfl
    rw [hstep, Value.placeAll, ih fun row hrow => h row (List.mem_cons_of_mem _ hrow)]

/-! ## Leaves -/

/-- What can be set by a variable of its own. -/
inductive Leaf where
  | host
  | port
  | secret
  | tokenSeconds
  | folder
  | imageLimit
deriving DecidableEq

namespace Leaf

def group? : Leaf → Option String
  | host => none
  | port => none
  | secret => some "auth"
  | tokenSeconds => some "auth"
  | folder => some "images"
  | imageLimit => some "images"

def key : Leaf → String
  | host => "app_host"
  | port => "app_port"
  | secret => "secret_key"
  | tokenSeconds => "token_duration_secs"
  | folder => "folder"
  | imageLimit => "max_size"

def path (l : Leaf) : KeyPath := l.group?.elim ⟨l.key, []⟩ fun g => ⟨g, [.child l.key]⟩

def pathText (l : Leaf) : String := l.group?.elim l.key fun g => g ++ "." ++ l.key

def envName : Leaf → String
  | host => "CATALOG__APP_HOST"
  | port => "CATALOG__APP_PORT"
  | secret => "CATALOG__AUTH__SECRET_KEY"
  | tokenSeconds => "CATALOG__AUTH__TOKEN_DURATION_SECS"
  | folder => "CATALOG__IMAGES__FOLDER"
  | imageLimit => "CATALOG__IMAGES__MAX_SIZE"

variable {l l' : Leaf}

theorem ofText_pathText (l : Leaf) : KeyPath.ofText l.pathText = l.path := by
  cases l <;> decide

theorem variablePath?_envName (l : Leaf) : variablePath? l.envName = some l.pathText := by
  cases l <;> decide

theorem pathText_inj : l.pathText = l'.pathText ↔ l = l' := by
  cases l <;> cases l' <;> decide

theorem key_inj : l.key = l'.key ↔ l = l' := by
  cases l <;> cases l' <;> decide

theorem envName_inj : l.envName = l'.envName ↔ l = l' := by
  cases l <;> cases l' <;> decide

def find? (rows : Rows) (l : Leaf) : Option Value :=
  match l.group? with
  | none => rows.lookup l.key
  | some g => (rows.lookup g).bind fun v => v.rows.lookup l.key

/-- The group of a leaf, as it is or with nothing in it. -/
def groupIn (rows : Rows) (g : String) : Value := (rows.lookup g).getD (.nothing none)

theorem rows_withRows (v : Value) (rows : Rows) : (v.withRows rows).rows = rows := by
  cases v <;> rfl

theorem find?_of_group {g : String} (h : l.group? = some g) :
    l.find? rows = (groupIn rows g).rows.lookup l.key := by
  rw [find?, h, groupIn]
  dsimp only
  cases rows.lookup g with
  | none => rfl
  | some v => rfl

variable {origin : Option Origin} {t : String}

theorem place_text :
    Value.place name (.text origin t) rows = putRow name (.text origin t) rows := by
  rw [Value.place]
  simp

theorem set_of_top (h : l.group? = none) :
    l.path.set (.text origin t) rows = putRow l.key (.text origin t) rows := by
  rw [path, h, Option.elim_none, ← place_text]
  rfl

theorem set_of_group {g : String} (h : l.group? = some g) :
    l.path.set (.text origin t) rows = putRow g ((groupIn rows g).withRows
      (putRow l.key (.text origin t) (groupIn rows g).rows)) rows := by
  rw [path, h, Option.elim_some, ← place_text]
  rfl

theorem key_ne_group {g : String} (h : l.group? = some g) (l' : Leaf) : l'.key ≠ g := by
  cases l <;> cases h <;> cases l' <;> decide

theorem lookup_set (h : other ≠ l.group?.getD l.key) :
    (l.path.set (.text origin t) rows).lookup other = rows.lookup other := by
  cases hgroup : l.group? with
  | none =>
    rw [hgroup, Option.getD_none] at h
    rw [set_of_top hgroup, lookup_putRow, if_neg h]
  | some g =>
    rw [hgroup, Option.getD_some] at h
    rw [set_of_group hgroup, lookup_putRow, if_neg h]

theorem find?_of_top (h : l.group? = none) : l.find? rows = rows.lookup l.key := by
  rw [find?, h]

theorem ne_of_group?_ne (h : l.group? ≠ l'.group?) : l ≠ l' := by
  rintro rfl
  exact h rfl

theorem groupIn_set {g : String} (h : l'.group? = some g) :
    (groupIn (l.path.set (.text origin t) rows) g).rows =
      if l.group? = some g then putRow l.key (.text origin t) (groupIn rows g).rows
      else (groupIn rows g).rows := by
  split
  · rename_i hgroup
    rw [set_of_group hgroup, groupIn, lookup_putRow, if_pos rfl, Option.getD_some, rows_withRows]
  · rename_i hgroup
    rw [groupIn, lookup_set, groupIn]
    cases hl : l.group? with
    | none => exact (key_ne_group h l).symm
    | some g' =>
      rintro rfl
      exact hgroup hl

/-- **One variable is set**: its leaf has the value, and every other leaf the one it had. -/
theorem find?_set : l'.find? (l.path.set (.text origin t) rows) =
    if l' = l then some (.text origin t) else l'.find? rows := by
  cases hgroup' : l'.group? with
  | none =>
    rw [find?_of_top hgroup', find?_of_top hgroup']
    cases hgroup : l.group? with
    | none =>
      rw [set_of_top hgroup, lookup_putRow]
      simp only [key_inj]
    | some g =>
      rw [if_neg (ne_of_group?_ne (by simp [hgroup, hgroup'])), lookup_set]
      rw [hgroup]
      exact key_ne_group hgroup l'
  | some g =>
    rw [find?_of_group hgroup', find?_of_group hgroup', groupIn_set hgroup']
    split
    · rw [lookup_putRow]
      simp only [key_inj]
    · rename_i hgroup
      rw [if_neg (ne_of_group?_ne (hgroup' ▸ Ne.symm hgroup))]

end Leaf

def HasGroups (rows : Rows) : Prop :=
  ∀ (l : Leaf) (g : String), l.group? = some g →
    ∃ origin there, rows.lookup g = some (.table origin there)

theorem HasGroups.set {l : Leaf} {origin : Option Origin} {t : String} (h : HasGroups rows) :
    HasGroups (l.path.set (.text origin t) rows) := by
  intro l' g' hgroup'
  obtain ⟨origin', there, hthere⟩ := h l' g' hgroup'
  cases hgroup : l.group? with
  | none =>
    rw [Leaf.lookup_set]
    · exact ⟨origin', there, hthere⟩
    · rw [hgroup]
      exact (Leaf.key_ne_group hgroup' l).symm
  | some g =>
    rw [Leaf.set_of_group hgroup, lookup_putRow]
    by_cases hsame : g' = g
    · subst hsame
      rw [if_pos rfl, Leaf.groupIn, hthere]
      exact ⟨_, _, rfl⟩
    · rw [if_neg hsame]
      exact ⟨origin', there, hthere⟩

/-! ## Variables -/

/-- A row for each variable that is set, under the path of its leaf. -/
structure LeafRows (named : Rows) : Prop where
  distinct : (named.map (·.1)).Nodup
  leaves : ∀ row ∈ named, ∃ (l : Leaf) (t : String), row = (l.pathText, .text (some .environment) t)

/-- **All variables are set.** -/
theorem setAll_leaves (hnamed : LeafRows named) (h : HasGroups rows) :
    HasGroups (setAll named rows) ∧
    (∀ l : Leaf, l.find? (setAll named rows) = (named.lookup l.pathText).or (l.find? rows)) ∧
    (∀ other, (∀ l : Leaf, other ≠ l.group?.getD l.key) →
      (setAll named rows).lookup other = rows.lookup other) := by
  induction named generalizing rows with
  | nil => exact ⟨h, fun _ => rfl, fun _ _ => rfl⟩
  | cons row named ih =>
    obtain ⟨l, t, rfl⟩ := hnamed.leaves row List.mem_cons_self
    have hdistinct := hnamed.distinct
    rw [List.map_cons, List.nodup_cons] at hdistinct
    have hlater : LeafRows named :=
      ⟨hdistinct.2, fun row hrow => hnamed.leaves row (List.mem_cons_of_mem _ hrow)⟩
    have hstep : setAll ((l.pathText, .text (some .environment) t) :: named) rows =
        setAll named (l.path.set (.text (some .environment) t) rows) := by
      rw [setAll, List.foldl_cons, Leaf.ofText_pathText]
      rfl
    obtain ⟨hgroups, hfind, hother⟩ := ih hlater h.set
    rw [hstep]
    refine ⟨hgroups, ?_, ?_⟩
    · intro l'
      rw [hfind, Leaf.find?_set, lookup_cons_eq_ite]
      simp only [Leaf.pathText_inj]
      by_cases hsame : l' = l
      · have hnone : named.lookup l'.pathText = none :=
          lookup_eq_none_iff_not_mem.mpr (hsame ▸ hdistinct.1)
        rw [if_pos hsame, if_pos hsame, hnone]
        rfl
      · rw [if_neg hsame, if_neg hsame]
    · intro other hleaf
      rw [hother other hleaf, Leaf.lookup_set (hleaf l)]

theorem LeafRows.nil : LeafRows [] := ⟨List.nodup_nil, by simp⟩

theorem LeafRows.put (h : LeafRows rows) (l : Leaf) (t : String) :
    LeafRows (putRow l.pathText (.text (some .environment) t) rows) := by
  refine ⟨nodup_putRow h.distinct, ?_⟩
  intro row hrow
  rcases mem_putRow hrow with hrow | hrow
  · exact ⟨l, t, hrow⟩
  · exact h.leaves row hrow

/-- Those of the names that are for settings are for leaves. -/
def OnlyLeaves (names : List String) : Prop :=
  ∀ name ∈ names, (variablePath? name).isSome → ∃ l : Leaf, name = l.envName

def addVariable (rows : Rows) (entry : String × String) : Rows :=
  match variablePath? entry.1 with
  | some path => putRow path (.text (some .environment) entry.2) rows
  | none => rows

theorem foldl_addVariable {entries : List (String × String)} (h : LeafRows rows)
    (distinct : (entries.map (·.1)).Nodup) (ours : OnlyLeaves (entries.map (·.1))) :
    LeafRows (entries.foldl addVariable rows) ∧
    ∀ l : Leaf, (entries.foldl addVariable rows).lookup l.pathText =
      ((entries.lookup l.envName).map (.text (some .environment))).or (rows.lookup l.pathText) := by
  induction entries generalizing rows with
  | nil => exact ⟨h, fun _ => rfl⟩
  | cons entry entries ih =>
    obtain ⟨name, t⟩ := entry
    rw [List.map_cons, List.nodup_cons] at distinct
    have hours : OnlyLeaves (entries.map (·.1)) :=
      fun name hname => ours name (List.mem_cons_of_mem _ hname)
    rw [List.foldl_cons, addVariable]
    cases hpath : variablePath? name with
    | none =>
      obtain ⟨hrows, hlookup⟩ := ih h distinct.2 hours
      refine ⟨hrows, ?_⟩
      intro l
      have hother : l.envName ≠ name := by
        rintro rfl
        rw [Leaf.variablePath?_envName] at hpath
        cases hpath
      rw [hlookup, lookup_cons_eq_ite, if_neg hother]
    | some path =>
      obtain ⟨l', rfl⟩ := ours name List.mem_cons_self (by rw [hpath]; rfl)
      rw [Leaf.variablePath?_envName] at hpath
      cases hpath
      obtain ⟨hrows, hlookup⟩ := ih (h.put l' t) distinct.2 hours
      refine ⟨hrows, ?_⟩
      intro l
      rw [hlookup, lookup_cons_eq_ite, lookup_putRow]
      simp only [Leaf.pathText_inj, Leaf.envName_inj]
      by_cases hsame : l = l'
      · have hnone : entries.lookup l.envName = none :=
          lookup_eq_none_iff_not_mem.mpr (hsame ▸ distinct.1)
        rw [if_pos hsame, if_pos hsame, hnone]
        rfl
      · rw [if_neg hsame, if_neg hsame]

theorem ofEnvironment_leaves {e : Environment} (distinct : e.names.Nodup)
    (ours : OnlyLeaves e.names) :
    LeafRows (ofEnvironment e) ∧ ∀ l : Leaf, (ofEnvironment e).lookup l.pathText =
      (e.find? l.envName).map (.text (some .environment)) := by
  obtain ⟨hrows, hlookup⟩ := foldl_addVariable .nil distinct ours
  refine ⟨hrows, ?_⟩
  intro l
  rw [← Option.or_none (o := (e.find? l.envName).map _)]
  exact hlookup l

end Settings

end Showroom
