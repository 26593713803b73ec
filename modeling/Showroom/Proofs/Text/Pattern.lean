import Mathlib.Data.List.Nodup
import Mathlib.Data.List.Perm.Subperm
import Mathlib.Data.List.TakeWhile
import Mathlib.Logic.Relation
import Showroom.Text.Pattern

/-!
# Showroom.Proofs.Text.Pattern

What a search of a text finds. `Takes` says what a pattern can take of a text, without threads and
without preference, and `Finds` what may lie behind it wherever it stands.

* `finds_of_endsIn`: a match that is found to go to the end is one.
* `endsIn_iff`: where no match stops before the end, one is found as soon as there is one.
* `endsIn_anchored`: in particular if the pattern asks for the end of the text.
-/

namespace Showroom.Text.Pattern

/-- A place in a text, by the character before it and what lies behind it. -/
structure Place where
  before : Option Char
  rest : List Char

namespace Place

def holds (s : Place) : Edge → Bool := Edge.holds s.before s.rest.head?

end Place

/-- A pattern takes what lies between two places. -/
inductive Takes : Pattern → Place → Place → Prop where
  | nothing {s : Place} : Takes nothing s s
  | one {set : CharSet} {b : Option Char} {c : Char} {cs : List Char} :
      set.has c = true → Takes (one set) ⟨b, c :: cs⟩ ⟨some c, cs⟩
  | edge {e : Edge} {s : Place} : s.holds e = true → Takes (edge e) s s
  | both {p q : Pattern} {s t u : Place} : Takes p s t → Takes q t u → Takes (both p q) s u
  | left {p q : Pattern} {s t : Place} : Takes p s t → Takes (either p q) s t
  | right {p q : Pattern} {s t : Place} : Takes q s t → Takes (either p q) s t
  | stop {isGreedy : Bool} {p : Pattern} {s : Place} : Takes (again isGreedy p) s s
  | more {isGreedy : Bool} {p : Pattern} {s t u : Place} :
      Takes p s t → Takes (again isGreedy p) t u → Takes (again isGreedy p) s u

/-- A pattern stands somewhere in a text, in front of its last characters. -/
def Finds (p : Pattern) (text rest : List Char) : Prop :=
  ∃ front back last, text = front ++ back ∧ Takes p ⟨front.getLast?, back⟩ ⟨last, rest⟩

variable {p q root : Pattern} {k t u : Thread} {todo seen threads : List Thread}
  {holds : Edge → Bool} {isGreedy : Bool} {before : Option Char} {c : Char} {cs text : List Char}
  {s s' s'' start : Place} {fuel : Nat}

/-! ## Skipping -/

theorem getLast?_cons_or (b : Option Char) (c : Char) (front : List Char) :
    (c :: front).getLast?.or b = front.getLast?.or (some c) := by
  rw [List.getLast?_cons]
  cases front.getLast? <;> rfl

theorem Takes.skip (front : List Char) :
    Takes (again isGreedy (Pattern.one .all))
      ⟨before, front ++ cs⟩ ⟨front.getLast?.or before, cs⟩ := by
  induction front generalizing before with
  | nil => exact .stop
  | cons c front ih =>
    rw [getLast?_cons_or]
    exact .more (.one (by simp [CharSet.has, CharSet.all, CharSet.empty, inRanges])) ih

theorem Takes.skipped (h : Takes (again isGreedy (Pattern.one .all)) s s') :
    ∃ front, s.rest = front ++ s'.rest ∧ s'.before = front.getLast?.or s.before := by
  generalize hp : again isGreedy (Pattern.one .all) = p at h
  induction h with
  | stop => exact ⟨[], rfl, rfl⟩
  | more hone _ _ ih =>
    cases hp
    cases hone with
    | @one _ _ c =>
      obtain ⟨front, hrest, hbefore⟩ := ih rfl
      exact ⟨c :: front, congrArg (c :: ·) hrest, by rw [hbefore, getLast?_cons_or]⟩
  | nothing => cases hp
  | one _ => cases hp
  | edge _ => cases hp
  | both _ _ => cases hp
  | left _ => cases hp
  | right _ => cases hp

theorem finds_iff_somewhere {rest : List Char} :
    Finds p text rest ↔ ∃ last, Takes p.somewhere ⟨none, text⟩ ⟨last, rest⟩ := by
  constructor
  · rintro ⟨front, back, last, rfl, h⟩
    refine ⟨last, .both (Takes.skip front) ?_⟩
    rwa [Option.or_none]
  · rintro ⟨last, h⟩
    cases h with
    | @both _ _ _ s _ hskip h =>
      obtain ⟨front, htext, hbefore⟩ := hskip.skipped
      rw [Option.or_none] at hbefore
      exact ⟨front, s.rest, last, htext, hbefore ▸ h⟩

/-! ## Threads -/

/-- What is left of a thread after its first part, if this is no character. -/
def next (holds : Edge → Bool) : Thread → List Thread
  | nothing :: k => [k]
  | edge e :: k => if holds e then [k] else []
  | both p q :: k => [p :: q :: k]
  | either p q :: k => [p :: k, q :: k]
  | again isGreedy p :: k =>
    if isGreedy then [p :: again isGreedy p :: k, k] else [k, p :: again isGreedy p :: k]
  | _ => []

theorem expand_cons : expand holds (fuel + 1) (t :: todo) seen =
    if t ∈ seen then expand holds fuel todo seen
    else expand holds fuel (next holds t ++ todo) (t :: seen) := by
  rw [expand.eq_def]
  simp only [List.contains_eq_mem, decide_eq_true_eq]
  congr 1
  match t with
  | [] => rfl
  | nothing :: _ => rfl
  | one _ :: _ => rfl
  | edge e :: _ => cases h : holds e <;> simp [next, h]
  | both _ _ :: _ => rfl
  | either _ _ :: _ => rfl
  | again isGreedy _ :: _ => cases isGreedy <;> rfl

theorem mem_next_either :
    u ∈ next holds (either p q :: k) ↔ u = p :: k ∨ u = q :: k := by
  simp [next]

theorem mem_next_again :
    u ∈ next holds (again isGreedy p :: k) ↔ u = p :: again isGreedy p :: k ∨ u = k := by
  cases isGreedy with
  | false => simp [next, or_comm]
  | true => simp [next]

theorem length_next_le (holds : Edge → Bool) (t : Thread) : (next holds t).length ≤ 2 := by
  unfold next
  split <;> first | exact Nat.le_refl _ | (try split) <;> simp

/-- A thread goes on at its place, or by a character to the next. -/
inductive Step : Thread × Place → Thread × Place → Prop where
  | stay {t u : Thread} {s : Place} : u ∈ next s.holds t → Step (t, s) (u, s)
  | move {t u : Thread} {b : Option Char} {c : Char} {cs : List Char} :
      advance? c t = some u → Step (t, ⟨b, c :: cs⟩) (u, ⟨some c, cs⟩)

abbrev Path : Thread × Place → Thread × Place → Prop := Relation.ReflTransGen Step

theorem Takes.path (h : Takes p s s') (k : Thread) : Path (p :: k, s) (k, s') := by
  induction h generalizing k with
  | nothing => exact .single (.stay (by simp [next]))
  | one h => exact .single (.move (by simp [advance?, h]))
  | edge h => exact .single (.stay (by simp [next, h]))
  | both _ _ ihp ihq => exact .head (.stay (by simp [next])) ((ihp _).trans (ihq k))
  | left _ ih => exact .head (.stay (mem_next_either.mpr (.inl rfl))) (ih k)
  | right _ ih => exact .head (.stay (mem_next_either.mpr (.inr rfl))) (ih k)
  | stop => exact .single (.stay (mem_next_again.mpr (.inr rfl)))
  | more _ _ ihp ih =>
    exact .head (.stay (mem_next_again.mpr (.inl rfl))) ((ihp _).trans (ih k))

/-- The parts of a thread take what lies between two places, one behind the other. -/
inductive Runs : Thread → Place → Place → Prop where
  | done {s : Place} : Runs [] s s
  | part {p : Pattern} {k : Thread} {s t u : Place} : Takes p s t → Runs k t u → Runs (p :: k) s u

theorem Runs.of_next (hu : u ∈ next s.holds t) (h : Runs u s s') : Runs t s s' := by
  match t with
  | [] => simp [next] at hu
  | one _ :: _ => simp [next] at hu
  | nothing :: k =>
    obtain rfl := List.mem_singleton.mp hu
    exact .part .nothing h
  | edge e :: k =>
    by_cases he : s.holds e = true
    · simp only [next, he, if_true, List.mem_singleton] at hu
      subst hu
      exact .part (.edge he) h
    · simp [next, he] at hu
  | both p q :: k =>
    obtain rfl := List.mem_singleton.mp hu
    cases h with
    | part hp h =>
      cases h with
      | part hq h => exact .part (.both hp hq) h
  | either p q :: k =>
    obtain rfl | rfl := mem_next_either.mp hu
    · cases h with
      | part hp h => exact .part (.left hp) h
    · cases h with
      | part hq h => exact .part (.right hq) h
  | again isGreedy p :: k =>
    obtain rfl | rfl := mem_next_again.mp hu
    · cases h with
      | part hp h =>
        cases h with
        | part hagain h => exact .part (.more hp hagain) h
    · exact .part .stop h

theorem advance?_eq_some_iff : advance? c t = some u ↔
    ∃ set, t = one set :: u ∧ set.has c = true := by
  constructor
  · intro h
    unfold advance? at h
    split at h
    · next set k =>
      split at h
      · next hset =>
        cases h
        exact ⟨set, rfl, hset⟩
      · cases h
    · cases h
  · rintro ⟨set, rfl, hset⟩
    simp [advance?, hset]

theorem Runs.of_path (h : Path (t, s) ([], s')) : Runs t s s' := by
  generalize hfrom : (t, s) = x at h
  induction h using Relation.ReflTransGen.head_induction_on generalizing t s with
  | refl => cases hfrom; exact .done
  | head hstep _ ih =>
    cases hstep with
    | stay hu => cases hfrom; exact .of_next hu (ih rfl)
    | move hu =>
      cases hfrom
      obtain ⟨set, rfl, hset⟩ := advance?_eq_some_iff.mp hu
      exact .part (.one hset) (ih rfl)

theorem path_iff_takes : Path ([p], s) ([], s') ↔ Takes p s s' := by
  constructor
  · intro h
    cases Runs.of_path h with
    | part hp h => cases h; exact hp
  · intro h
    exact h.path []

/-! ## Following threads to the next character -/

theorem mem_expand_of_seen (h : t ∈ seen) : t ∈ expand holds fuel todo seen := by
  induction fuel generalizing todo seen with
  | zero => exact h
  | succ fuel ih =>
    cases todo with
    | nil => exact h
    | cons u todo =>
      rw [expand_cons]
      split
      · exact ih h
      · exact ih (List.mem_cons_of_mem _ h)

/-- What holds of the threads to begin with and goes on from each to the next holds of all that are
seen. -/
theorem of_mem_expand {P : Thread → Prop} (hnext : ∀ t, P t → ∀ u ∈ next holds t, P u)
    (htodo : ∀ t ∈ todo, P t) (hseen : ∀ t ∈ seen, P t)
    (h : t ∈ expand holds fuel todo seen) : P t := by
  induction fuel generalizing todo seen with
  | zero => exact hseen t h
  | succ fuel ih =>
    cases todo with
    | nil => exact hseen t h
    | cons u todo =>
      obtain ⟨hu, htodo⟩ := List.forall_mem_cons.mp htodo
      rw [expand_cons] at h
      split at h
      · exact ih htodo hseen h
      · refine ih ?_ (List.forall_mem_cons.mpr ⟨hu, hseen⟩) h
        intro v hv
        exact (List.mem_append.mp hv).elim (hnext u hu v) (htodo v)

theorem nodup_expand (h : seen.Nodup) : (expand holds fuel todo seen).Nodup := by
  induction fuel generalizing todo seen with
  | zero => exact h
  | succ fuel ih =>
    cases todo with
    | nil => exact h
    | cons u todo =>
      rw [expand_cons]
      split
      · exact ih h
      · next hu => exact ih (List.nodup_cons.mpr ⟨hu, h⟩)

/-- Threads that are still to be followed and those that have been, where `all` has whatever there can
be. -/
structure Explored (holds : Edge → Bool) (all todo seen : List Thread) : Prop where
  closed : ∀ t ∈ all, ∀ u ∈ next holds t, u ∈ all
  todoWithin : todo ⊆ all
  seenWithin : seen ⊆ all
  nodup : seen.Nodup
  done : ∀ t ∈ seen, ∀ u ∈ next holds t, u ∈ seen ∨ u ∈ todo

namespace Explored

variable {all : List Thread}

theorem skip (h : Explored holds all (t :: todo) seen) (hmem : t ∈ seen) :
    Explored holds all todo seen where
  closed := h.closed
  todoWithin := (List.cons_subset.mp h.todoWithin).2
  seenWithin := h.seenWithin
  nodup := h.nodup
  done := by
    intro u hu v hv
    rcases h.done u hu v hv with hv | hv
    · exact .inl hv
    · rcases List.mem_cons.mp hv with rfl | hv
      · exact .inl hmem
      · exact .inr hv

theorem visit (h : Explored holds all (t :: todo) seen) (hmem : t ∉ seen) :
    Explored holds all (next holds t ++ todo) (t :: seen) where
  closed := h.closed
  todoWithin := by
    obtain ⟨ht, htodo⟩ := List.cons_subset.mp h.todoWithin
    exact List.append_subset.mpr ⟨h.closed t ht, htodo⟩
  seenWithin := List.cons_subset.mpr ⟨(List.cons_subset.mp h.todoWithin).1, h.seenWithin⟩
  nodup := List.nodup_cons.mpr ⟨hmem, h.nodup⟩
  done := by
    intro u hu v hv
    rcases List.mem_cons.mp hu with rfl | hu
    · exact .inr (List.mem_append_left _ hv)
    · rcases h.done u hu v hv with hv | hv
      · exact .inl (List.mem_cons_of_mem _ hv)
      · rcases List.mem_cons.mp hv with rfl | hv
        · exact .inl List.mem_cons_self
        · exact .inr (List.mem_append_right _ hv)

theorem length_le (h : Explored holds all todo seen) : seen.length ≤ all.length :=
  (List.subperm_of_subset h.nodup h.seenWithin).length_le

theorem closed_of_nil (h : Explored holds all [] seen) :
    ∀ t ∈ seen, ∀ u ∈ next holds t, u ∈ seen :=
  fun t ht u hu => (h.done t ht u hu).resolve_right List.not_mem_nil

/-- With fuel for every thread there can be, all that is to do is done, and what follows as well. -/
theorem expand (h : Explored holds all todo seen)
    (hfuel : todo.length + 2 * (all.length - seen.length) ≤ fuel) :
    (∀ t ∈ todo, t ∈ Pattern.expand holds fuel todo seen) ∧
      ∀ t ∈ Pattern.expand holds fuel todo seen, ∀ u ∈ next holds t,
        u ∈ Pattern.expand holds fuel todo seen := by
  induction fuel generalizing todo seen with
  | zero =>
    obtain rfl : todo = [] := List.length_eq_zero_iff.mp (by omega)
    exact ⟨by simp, h.closed_of_nil⟩
  | succ fuel ih =>
    cases todo with
    | nil => exact ⟨by simp, h.closed_of_nil⟩
    | cons t todo =>
      rw [expand_cons]
      rw [List.length_cons] at hfuel
      by_cases hmem : t ∈ seen
      · rw [if_pos hmem]
        obtain ⟨hall, hclosed⟩ := ih (h.skip hmem) (by omega)
        exact ⟨List.forall_mem_cons.mpr ⟨mem_expand_of_seen hmem, hall⟩, hclosed⟩
      · rw [if_neg hmem]
        have hroom := (h.visit hmem).length_le
        have htwo := length_next_le holds t
        rw [List.length_cons] at hroom
        obtain ⟨hall, hclosed⟩ := ih (h.visit hmem) (by
          rw [List.length_append, List.length_cons]
          omega)
        refine ⟨List.forall_mem_cons.mpr ⟨mem_expand_of_seen List.mem_cons_self, ?_⟩, hclosed⟩
        exact fun u hu => hall u (List.mem_append_right _ hu)

end Explored

/-! ## How many threads there can be -/

/-- What a pattern in front of a thread can become before the thread itself is left. -/
def continuations : Pattern → Thread → List Thread
  | both p q, k => (both p q :: k) :: (continuations p (q :: k) ++ continuations q k)
  | either p q, k => (either p q :: k) :: (continuations p k ++ continuations q k)
  | again isGreedy p, k => (again isGreedy p :: k) :: continuations p (again isGreedy p :: k)
  | p, k => [p :: k]

theorem length_continuations (p : Pattern) (k : Thread) :
    (continuations p k).length = p.size := by
  induction p generalizing k with
  | both p q ihp ihq => simp [continuations, size, ihp, ihq]
  | either p q ihp ihq => simp [continuations, size, ihp, ihq]
  | again isGreedy p ih => simp [continuations, size, ih]
  | nothing => rfl
  | one _ => rfl
  | edge _ => rfl

theorem mem_continuations_self (p : Pattern) (k : Thread) : p :: k ∈ continuations p k := by
  cases p <;> simp [continuations]

theorem follows_mono {us ts ts' : List Thread} {k' : Thread} (h : us ⊆ ts ∧ (u = k' ∨ u ∈ ts))
    (hsub : ts ⊆ ts') (hk : k' = k ∨ k' ∈ ts') : us ⊆ ts' ∧ (u = k ∨ u ∈ ts') := by
  refine ⟨fun t ht => hsub (h.1 ht), ?_⟩
  rcases h.2 with rfl | hu
  · exact hk
  · exact .inr (hsub hu)

theorem follows_self (h : q :: u = p :: k) :
    continuations q u ⊆ continuations p k ∧ (u = k ∨ u ∈ continuations p k) := by
  cases h
  exact ⟨List.Subset.refl _, .inl rfl⟩

/-- What comes after a thread that a pattern can become is one of them too, or what is left. -/
theorem of_mem_continuations (h : q :: u ∈ continuations p k) :
    continuations q u ⊆ continuations p k ∧ (u = k ∨ u ∈ continuations p k) := by
  induction p generalizing k with
  | both a b iha ihb =>
    have hleft : continuations a (b :: k) ⊆ continuations (both a b) k :=
      fun t ht => .tail _ (List.mem_append_left _ ht)
    have hright : continuations b k ⊆ continuations (both a b) k :=
      fun t ht => .tail _ (List.mem_append_right _ ht)
    rw [continuations, List.mem_cons, List.mem_append] at h
    rcases h with h | h | h
    · exact follows_self h
    · exact follows_mono (iha h) hleft (.inr (hright (mem_continuations_self b k)))
    · exact follows_mono (ihb h) hright (.inl rfl)
  | either a b iha ihb =>
    rw [continuations, List.mem_cons, List.mem_append] at h
    rcases h with h | h | h
    · exact follows_self h
    · exact follows_mono (iha h) (fun t ht => .tail _ (List.mem_append_left _ ht)) (.inl rfl)
    · exact follows_mono (ihb h) (fun t ht => .tail _ (List.mem_append_right _ ht)) (.inl rfl)
  | again isGreedy a ih =>
    rw [continuations, List.mem_cons] at h
    rcases h with h | h
    · exact follows_self h
    · exact follows_mono (ih h) (fun t ht => .tail _ ht) (.inr (.head _))
  | nothing => exact follows_self (List.mem_singleton.mp h)
  | one _ => exact follows_self (List.mem_singleton.mp h)
  | edge _ => exact follows_self (List.mem_singleton.mp h)

theorem next_mem_continuations (h : u ∈ next holds (p :: k)) : u = k ∨ u ∈ continuations p k := by
  cases p with
  | nothing => exact .inl (List.mem_singleton.mp h)
  | one _ => simp [next] at h
  | edge e =>
    cases he : holds e with
    | false => simp [next, he] at h
    | true => exact .inl (by simpa [next, he] using h)
  | both p q =>
    obtain rfl := List.mem_singleton.mp h
    exact .inr (.tail _ (List.mem_append_left _ (mem_continuations_self _ _)))
  | either p q =>
    obtain rfl | rfl := mem_next_either.mp h
    · exact .inr (.tail _ (List.mem_append_left _ (mem_continuations_self _ _)))
    · exact .inr (.tail _ (List.mem_append_right _ (mem_continuations_self _ _)))
  | again isGreedy p =>
    obtain rfl | rfl := mem_next_again.mp h
    · exact .inr (.tail _ (mem_continuations_self _ _))
    · exact .inl rfl

def threadsOf (root : Pattern) : List Thread := [] :: continuations root []

theorem length_threadsOf (root : Pattern) : (threadsOf root).length = root.size + 1 := by
  rw [threadsOf, List.length_cons, length_continuations]

theorem step_mem_threadsOf (h : Step (t, s) (u, s')) (ht : t ∈ threadsOf root) :
    u ∈ threadsOf root := by
  cases t with
  | nil =>
    cases h with
    | stay hu => simp [next] at hu
    | move hu => simp [advance?] at hu
  | cons q v =>
    obtain ⟨hsub, htail⟩ := of_mem_continuations ((List.mem_cons.mp ht).resolve_left (by simp))
    have hv : v ∈ threadsOf root := List.mem_cons.mpr htail
    cases h with
    | stay hu =>
      rcases next_mem_continuations hu with rfl | hu
      · exact hv
      · exact .tail _ (hsub hu)
    | move hu =>
      obtain ⟨set, heq, -⟩ := advance?_eq_some_iff.mp hu
      cases heq
      exact hv

/-! ## The search -/

/-- The threads of a search at a place: they are threads of its pattern, and lead there from its
start. -/
structure Search (root : Pattern) (start : Place) (threads : List Thread) (s : Place) : Prop where
  few : threads.length ≤ root.size + 1
  within : threads ⊆ threadsOf root
  reached : ∀ t ∈ threads, Path ([root], start) (t, s)

namespace Search

theorem initial (root : Pattern) (start : Place) : Search root start [[root]] start where
  few := by simp
  within := by
    intro t ht
    obtain rfl := List.mem_singleton.mp ht
    exact .tail _ (mem_continuations_self root [])
  reached := by
    intro t ht
    obtain rfl := List.mem_singleton.mp ht
    exact .refl

theorem settled (h : Search root start threads s) :
    Search root start (settled root.size s.before s.rest.head? threads) s := by
  have hwithin : Pattern.settled root.size s.before s.rest.head? threads ⊆ threadsOf root := by
    intro t ht
    refine of_mem_expand (fun t ht u hu => ?_) h.within (by simp) (List.mem_reverse.mp ht)
    exact step_mem_threadsOf (.stay hu) ht
  have hnodup : (Pattern.settled root.size s.before s.rest.head? threads).Nodup :=
    List.nodup_reverse.mpr (nodup_expand List.nodup_nil)
  refine ⟨?_, hwithin, fun t ht => ?_⟩
  · rw [← length_threadsOf]
    exact (List.subperm_of_subset hnodup hwithin).length_le
  · refine of_mem_expand (fun t ht u hu => ?_) h.reached (by simp) (List.mem_reverse.mp ht)
    exact ht.tail (.stay hu)

theorem closed_settled (h : Search root start threads s) :
    (∀ t ∈ threads, t ∈ Pattern.settled root.size s.before s.rest.head? threads) ∧
      ∀ t ∈ Pattern.settled root.size s.before s.rest.head? threads, ∀ u ∈ next s.holds t,
        u ∈ Pattern.settled root.size s.before s.rest.head? threads := by
  have hfuel : threads.length + 2 * ((threadsOf root).length - ([] : List Thread).length) ≤
      4 * (root.size + 4) := by
    have hfew := h.few
    rw [length_threadsOf, List.length_nil]
    omega
  have hexplored : Explored s.holds (threadsOf root) threads [] :=
    ⟨fun t ht u hu => step_mem_threadsOf (.stay hu) ht, h.within, List.nil_subset _,
      List.nodup_nil, by simp⟩
  simp only [Pattern.settled, List.mem_reverse]
  exact hexplored.expand hfuel

theorem advance (h : Search root start threads ⟨before, c :: cs⟩) {live : List Thread}
    (hlive : live <+: threads) :
    Search root start (live.filterMap (advance? c)) ⟨some c, cs⟩ := by
  have hmove : ∀ u ∈ live.filterMap (advance? c), ∃ t ∈ threads,
      Step (t, ⟨before, c :: cs⟩) (u, ⟨some c, cs⟩) := by
    intro u hu
    obtain ⟨t, ht, hadvance⟩ := List.mem_filterMap.mp hu
    exact ⟨t, hlive.subset ht, .move hadvance⟩
  refine ⟨?_, fun u hu => ?_, fun u hu => ?_⟩
  · exact Nat.le_trans (List.length_filterMap_le _ _) (Nat.le_trans hlive.length_le h.few)
  · obtain ⟨t, ht, hstep⟩ := hmove u hu
    exact step_mem_threadsOf hstep (h.within ht)
  · obtain ⟨t, ht, hstep⟩ := hmove u hu
    exact (h.reached t ht).tail hstep

theorem of_finish (h : Search root start threads ⟨before, cs⟩)
    (hfinish : finish root.size before threads cs = true) :
    ∃ last, Path ([root], start) ([], ⟨last, []⟩) := by
  induction cs generalizing before threads with
  | nil =>
    rw [finish, List.contains_iff_mem] at hfinish
    exact ⟨before, h.settled.reached [] hfinish⟩
  | cons c cs ih =>
    rw [finish] at hfinish
    exact ih (h.settled.advance (List.takeWhile_prefix _)) hfinish

theorem finish_of_path (h : Search root start threads s) {last : Option Char}
    (hstop : ∀ b c cs, ¬ Path ([root], start) ([], ⟨b, c :: cs⟩))
    (ht : t ∈ Pattern.settled root.size s.before s.rest.head? threads)
    (hpath : Path (t, s) ([], ⟨last, []⟩)) :
    finish root.size s.before threads s.rest = true := by
  generalize hfrom : (t, s) = x at hpath
  induction hpath using Relation.ReflTransGen.head_induction_on generalizing t s threads with
  | refl =>
    cases hfrom
    exact List.contains_iff_mem.mpr ht
  | head hstep _ ih =>
    cases hstep with
    | stay hu =>
      cases hfrom
      exact ih h (h.closed_settled.2 _ ht _ hu) rfl
    | @move _ u b c cs hu =>
      cases hfrom
      have hall : (Pattern.settled root.size b (some c) threads).takeWhile (!·.isEmpty) =
          Pattern.settled root.size b (some c) threads := by
        refine List.takeWhile_eq_self_iff.mpr fun v hv => ?_
        cases v with
        | nil => exact absurd (h.settled.reached [] hv) (hstop b c cs)
        | cons _ _ => rfl
      have hnext := h.settled.advance (List.prefix_refl _)
      rw [finish, hall]
      exact ih hnext (hnext.closed_settled.1 _ (List.mem_filterMap.mpr ⟨t, ht, hu⟩)) rfl

end Search

theorem finds_of_endsIn (h : p.endsIn text = true) : Finds p text [] := by
  obtain ⟨last, hpath⟩ := (Search.initial p.somewhere ⟨none, text⟩).of_finish h
  exact finds_iff_somewhere.mpr ⟨last, path_iff_takes.mp hpath⟩

theorem endsIn_iff (hstop : ∀ c cs, ¬ Finds p text (c :: cs)) :
    p.endsIn text = true ↔ Finds p text [] := by
  refine ⟨finds_of_endsIn, fun h => ?_⟩
  obtain ⟨last, htakes⟩ := finds_iff_somewhere.mp h
  have hinitial := Search.initial p.somewhere ⟨none, text⟩
  refine hinitial.finish_of_path (fun b c cs hpath => ?_)
    (hinitial.closed_settled.1 _ List.mem_cons_self) (path_iff_takes.mpr htakes)
  exact hstop c cs (finds_iff_somewhere.mpr ⟨b, path_iff_takes.mp hpath⟩)

theorem finds_anchored_iff {rest : List Char} :
    Finds (both p (edge .textEnd)) text rest ↔ rest = [] ∧ Finds p text [] := by
  constructor
  · rintro ⟨front, back, last, htext, h⟩
    cases h with
    | both hp hend =>
      cases hend with
      | edge hend =>
        cases rest with
        | nil => exact ⟨rfl, front, back, last, htext, hp⟩
        | cons c cs => simp [Place.holds, Edge.holds] at hend
  · rintro ⟨rfl, front, back, last, htext, hp⟩
    exact ⟨front, back, last, htext, .both hp (.edge rfl)⟩

theorem endsIn_anchored :
    (both p (edge .textEnd)).endsIn text = true ↔ Finds p text [] := by
  rw [endsIn_iff fun c cs h => List.cons_ne_nil _ _ (finds_anchored_iff.mp h).1]
  rw [finds_anchored_iff, and_iff_right rfl]

end Showroom.Text.Pattern
