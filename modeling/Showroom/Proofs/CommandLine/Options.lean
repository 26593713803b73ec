import Mathlib.Data.List.Perm.Basic
import Mathlib.Data.List.TakeWhile
import Showroom.CommandLine.Options

/-!
# Showroom.Proofs.CommandLine.Options

Options are read as they are written, in either form and in any order. Each of them can be given once.

* `CommandLine.readOptions_words`: reading options that are written out.
* `CommandLine.Options.read_words`: the whole command line.
* `CommandLine.Options.read_perm`: the order of options makes no difference.
-/

namespace Showroom.CommandLine

/-- An option with a value, in one word or in two. -/
structure Given where
  name : List Char
  value : String
  joined : Bool

namespace Given

def key (g : Given) : String := String.ofList g.name

def words (g : Given) : List String :=
  if g.joined then [String.ofList ('-' :: '-' :: (g.name ++ '=' :: g.value.toList))]
  else [String.ofList ('-' :: '-' :: g.name), g.value]

/-- Whether an option is none of the words that are not options, and its value does not look like
one if it stands by itself. -/
structure Plain (g : Given) : Prop where
  named : g.name ≠ []
  equals : '=' ∉ g.name
  help : g.name ≠ "help".toList
  version : g.name ≠ "version".toList
  value : g.joined = false → Argument.ofText g.value = .word

end Given

variable {α : Type} {set : String → String → α → Option α} {g : Given} {a : α} {rest : List String}

theorem ofLong_name (h : g.Plain) : Argument.ofLong g.name = .option g.key none := by
  have hname : g.name.takeWhile (· ≠ '=') = g.name :=
    List.takeWhile_eq_self_iff.mpr fun c hc => decide_eq_true fun heq => h.equals (heq ▸ hc)
  have hrest : g.name.dropWhile (· ≠ '=') = [] :=
    List.dropWhile_eq_nil_iff.mpr fun c hc => decide_eq_true fun heq => h.equals (heq ▸ hc)
  rw [Argument.ofLong, if_neg h.named, if_neg h.help, if_neg h.version, hname, hrest]
  rfl

theorem ofLong_joined (h : g.Plain) :
    Argument.ofLong (g.name ++ '=' :: g.value.toList) = .option g.key (some g.value) := by
  have hne : ∀ {cs : List Char}, '=' ∉ cs → g.name ++ '=' :: g.value.toList ≠ cs := by
    intro cs hcs heq
    exact hcs (heq ▸ by simp)
  have hplain : ∀ c ∈ g.name, decide (c ≠ '=') = true :=
    fun c hc => decide_eq_true fun heq => h.equals (heq ▸ hc)
  rw [Argument.ofLong, if_neg (hne (by simp)), if_neg (hne (by decide)), if_neg (hne (by decide)),
    List.takeWhile_append_of_pos hplain, List.dropWhile_append_of_pos hplain]
  simp [Given.key]

/-- What becomes of reading when an option has been given. -/
def next (set : String → String → α → Option α) (rest : List String) :
    Option α → Except Stop (α × List String)
  | some a => readOptions set a rest
  | none => .error .mistake

theorem ofText_long (cs : List Char) :
    Argument.ofText (String.ofList ('-' :: '-' :: cs)) = Argument.ofLong cs := by
  rw [Argument.ofText, String.toList_ofList]
  rfl

theorem readOptions_given (h : g.Plain) :
    readOptions set a (g.words ++ rest) = next set rest (set g.key g.value a) := by
  unfold Given.words
  cases hjoined : g.joined with
  | true =>
    simp only [if_true, List.singleton_append, readOptions, ofText_long, ofLong_joined h]
    cases set g.key g.value a <;> rfl
  | false =>
    simp only [Bool.false_eq_true, if_false, List.cons_append, List.nil_append, readOptions,
      ofText_long, ofLong_name h, h.value hjoined, if_true]
    cases set g.key g.value a <;> rfl

def setAll (set : String → String → α → Option α) (gs : List Given) (a : α) : Option α :=
  gs.foldlM (fun a g => set g.key g.value a) a

variable {gs hs : List Given}

/-- **Options that are written out are read one after the other.** -/
theorem readOptions_words (h : ∀ g ∈ gs, g.Plain) :
    readOptions set a (gs.flatMap Given.words ++ rest) =
      next set rest (setAll set gs a) := by
  induction gs generalizing a with
  | nil => rfl
  | cons g gs ih =>
    obtain ⟨hg, hgs⟩ := List.forall_mem_cons.mp h
    rw [List.flatMap_cons, List.append_assoc, readOptions_given hg, setAll, List.foldlM_cons]
    cases set g.key g.value a with
    | none => rfl
    | some a => exact ih hgs

/-! ## Any order, and once -/

/-- Whether options can be given in any order, but none of them twice. -/
structure Independent (set : String → String → α → Option α) : Prop where
  exchange : ∀ m n v w a, (set m v a).bind (set n w) = (set n w a).bind (set m v)
  once : ∀ n v w a, (set n v a).bind (set n w) = none

theorem setAll_cons : setAll set (g :: gs) a = (set g.key g.value a).bind (setAll set gs) :=
  List.foldlM_cons

theorem setAll_perm (h : Independent set) (hperm : gs.Perm hs) (a : α) :
    setAll set gs a = setAll set hs a := by
  induction hperm generalizing a with
  | nil => rfl
  | cons g _ ih =>
    rw [setAll_cons, setAll_cons]
    exact congrArg _ (funext fun a => ih a)
  | swap g g' gs =>
    have hboth : ∀ x y : Given, setAll set (x :: y :: gs) a =
        ((set x.key x.value a).bind (set y.key y.value)).bind (setAll set gs) := by
      intro x y
      rw [setAll_cons, Option.bind_assoc]
      exact congrArg _ (funext fun _ => setAll_cons)
    rw [hboth, hboth, h.exchange]
  | trans _ _ ih ih' => exact (ih a).trans (ih' a)

theorem setAll_of_repeated (h : Independent set) (hrepeated : ¬ (gs.map Given.key).Nodup) (a : α) :
    setAll set gs a = none := by
  induction gs generalizing a with
  | nil => exact absurd List.nodup_nil hrepeated
  | cons g gs ih =>
    by_cases hmem : g.key ∈ gs.map Given.key
    · -- The second of the two is brought to the front, where it meets the first.
      obtain ⟨g', hg', hkey⟩ := List.mem_map.mp hmem
      obtain ⟨front, back, rfl⟩ := List.append_of_mem hg'
      have hperm : (g :: (front ++ g' :: back)).Perm (g :: g' :: (front ++ back)) :=
        List.perm_middle.cons g
      have hnone : (set g.key g.value a).bind (set g'.key g'.value) = none := by
        rw [hkey]
        exact h.once g.key g.value g'.value a
      rw [setAll_perm h hperm, setAll_cons]
      rw [Option.bind_eq_none_iff] at hnone ⊢
      intro b hb
      rw [setAll_cons, hnone b hb, Option.bind_none]
    · have hrest : ¬ (gs.map Given.key).Nodup := fun hnodup =>
        hrepeated (List.nodup_cons.mpr ⟨hmem, hnodup⟩)
      rw [setAll_cons, Option.bind_eq_none_iff]
      exact fun b _ => ih hrest b

theorem once_twice {β γ : Type} (old x y : Option β) (f : Option β → γ) :
    (once old x).bind (fun o => (once o y).map f) = none := by
  cases old <;> cases x <;> rfl

theorem bind_map_comm {β γ : Type} (x : Option β) (y : Option γ) (f : β → γ → α) :
    (x.bind fun b => y.map fun c => f b c) = y.bind fun c => x.map fun b => f b c := by
  cases x <;> cases y <;> rfl

theorem independent_general : Independent General.set := by
  constructor
  · intro m n v w a
    unfold General.set
    split <;> split <;>
      simp only [Option.bind_map, Option.bind_none, Function.comp_def, once_twice, Option.bind_fun_none]
    all_goals exact bind_map_comm _ _ _
  · intro n v w a
    unfold General.set
    split <;> simp only [Option.bind_map, Option.bind_none, Function.comp_def, once_twice]

theorem independent_search : Independent SearchOptions.set := by
  constructor
  · intro m n v w a
    unfold SearchOptions.set
    split <;> split <;>
      simp only [Option.bind_map, Option.bind_none, Function.comp_def, once_twice, Option.bind_fun_none]
    all_goals exact bind_map_comm _ _ _
  · intro n v w a
    unfold SearchOptions.set
    split <;> simp only [Option.bind_map, Option.bind_none, Function.comp_def, once_twice]

theorem readAll_words (h : ∀ g ∈ gs, g.Plain) :
    readAll set a (gs.flatMap Given.words) =
      match setAll set gs a with
      | some a => .ok a
      | none => .error .mistake := by
  have hread : readOptions set a (gs.flatMap Given.words ++ []) = next set [] (setAll set gs a) :=
    readOptions_words h
  rw [List.append_nil] at hread
  rw [readAll, hread]
  cases setAll set gs a with
  | none => rfl
  | some a => simp only [next, readOptions]

theorem read_search_perm (h : ∀ g ∈ gs, g.Plain) (hperm : gs.Perm hs) :
    Command.read "search" (gs.flatMap Given.words) =
      Command.read "search" (hs.flatMap Given.words) := by
  have hother : ∀ g ∈ hs, g.Plain := fun g hg => h g (hperm.mem_iff.mpr hg)
  simp only [Command.read, readAll_words h, readAll_words hother,
    setAll_perm independent_search hperm]

/-! ## The command line -/

namespace Options

variable {e : Environment} {name : String} {args : List String}

/-- **The command line**: options, and the name of a command with what follows it. -/
theorem read_words (h : ∀ g ∈ gs, g.Plain) (hname : Argument.ofText name = .word) :
    read e (gs.flatMap Given.words ++ name :: args) =
      match setAll General.set gs {} with
      | some g => (Command.read name args).map (of g e)
      | none => .error .mistake := by
  have hstop : ∀ g : General, readOptions General.set g (name :: args) = .ok (g, name :: args) := by
    intro g
    rw [readOptions, hname]
  rw [read, readOptions_words h]
  cases setAll General.set gs {} with
  | none => rfl
  | some g => simp only [next, hstop]

theorem read_perm (h : ∀ g ∈ gs, g.Plain) (hperm : gs.Perm hs)
    (hname : Argument.ofText name = .word) :
    read e (gs.flatMap Given.words ++ name :: args) =
      read e (hs.flatMap Given.words ++ name :: args) := by
  have hother : ∀ g ∈ hs, g.Plain := fun g hg => h g (hperm.mem_iff.mpr hg)
  rw [read_words h hname, read_words hother hname, setAll_perm independent_general hperm]

theorem read_of_repeated (h : ∀ g ∈ gs, g.Plain) (hname : Argument.ofText name = .word)
    (hrepeated : ¬ (gs.map Given.key).Nodup) :
    read e (gs.flatMap Given.words ++ name :: args) = .error .mistake := by
  rw [read_words h hname, setAll_of_repeated independent_general hrepeated]

end Options

end Showroom.CommandLine
