import Showroom.Proofs.Text.Pattern
import Showroom.Text.Pattern.Reader

/-!
# Showroom.Proofs.Text.Pattern.Reader

Reading a text in which every letter stands for itself. With a `$` behind it, what is read accepts
just the texts that end with it.

* `ofText?_plain`: what is read.
* `exists_ofText?_endsIn`: what it accepts.
-/

namespace Showroom.Text.Pattern

variable {c : Char} {cs text : List Char} {ps : List Pattern} {s t : Place}
  {before : Option Char} {fuel : Nat}

def IsPlain (c : Char) : Prop :=
  c ∉ ['\\', '.', '+', '*', '?', '(', ')', '|', '[', '\x7b', '^', '$']

instance : DecidablePred IsPlain := fun _ => inferInstanceAs (Decidable (¬ _))

theorem takes_row_iff : Takes (row (ps.reverse.map some)) s t ↔ Runs ps s t := by
  rw [row, List.map_reverse, List.foldl_reverse]
  induction ps generalizing s with
  | nil =>
    constructor
    · intro h; cases h; exact .done
    · intro h; cases h; exact .nothing
  | cons p ps ih =>
    rw [List.map_cons, List.foldr_cons, Option.elim_some]
    split
    · next hnothing =>
      rw [hnothing] at ih
      constructor
      · intro h
        exact .part h (ih.mp .nothing)
      · intro h
        cases h with
        | part hp h => cases ih.mpr h; exact hp
    · constructor
      · intro h
        cases h with
        | both hp h => exact .part hp (ih.mp h)
      · intro h
        cases h with
        | part hp h => exact .both hp (ih.mpr h)

def ending (cs : List Char) : List Pattern :=
  cs.map (fun c => one (.single c)) ++ [edge .textEnd]

theorem has_single_iff {d : Char} : (CharSet.single c).has d = true ↔ d = c := by
  rw [← Char.toNat_inj]
  simp only [CharSet.single, CharSet.has, inRanges, List.any_cons, List.any_nil, Bool.or_false,
    Bool.and_eq_true, decide_eq_true_eq]
  omega

theorem runs_ending_iff : Runs (ending cs) ⟨before, text⟩ t ↔
    text = cs ∧ t = ⟨cs.getLast?.or before, []⟩ := by
  induction cs generalizing before text t with
  | nil =>
    constructor
    · intro h
      cases h with
      | part hend h =>
        cases h
        cases hend with
        | edge hend =>
          obtain rfl : text = [] := by simpa [Place.holds, Edge.holds] using hend
          exact ⟨rfl, rfl⟩
    · rintro ⟨rfl, rfl⟩
      exact .part (.edge rfl) .done
  | cons c cs ih =>
    constructor
    · intro h
      cases h with
      | part hc h =>
        cases hc with
        | one hc =>
          obtain ⟨rfl, rfl⟩ := ih.mp h
          obtain rfl := has_single_iff.mp hc
          exact ⟨rfl, by rw [getLast?_cons_or]⟩
    · rintro ⟨rfl, rfl⟩
      have h : Runs (ending cs) ⟨some c, cs⟩ ⟨cs.getLast?.or (some c), []⟩ := ih.mpr ⟨rfl, rfl⟩
      rw [getLast?_cons_or]
      exact .part (.one (has_single_iff.mpr rfl)) h

theorem finds_ending_iff {rest : List Char} :
    Finds (row ((ending cs).reverse.map some)) text rest ↔ rest = [] ∧ cs <:+ text := by
  constructor
  · rintro ⟨front, back, last, rfl, h⟩
    obtain ⟨hback, hlast⟩ := runs_ending_iff.mp (takes_row_iff.mp h)
    cases hback
    cases hlast
    exact ⟨rfl, List.suffix_append _ _⟩
  · rintro ⟨rfl, front, rfl⟩
    exact ⟨front, cs, _, rfl, takes_row_iff.mpr (runs_ending_iff.mpr ⟨rfl, rfl⟩)⟩

/-! ## Reading -/

theorem readSign_plain (hc : IsPlain c) (cs : List Char) :
    readSign {} (c :: cs) = some (one (.single c), cs) := by
  unfold readSign
  split <;> rename_i heq <;> cases heq <;> first | rfl | exact absurd hc (by decide)

theorem repetition?_plain (hc : IsPlain c) : repetition? c = none := by
  unfold repetition?
  split <;> first | rfl | exact absurd hc (by decide)

theorem readRow_cons (read : List Pattern) (hc : IsPlain c) (cs : List Char) :
    readRow (fuel + 1) (read.reverse.map some) ⟨{}, [], c :: cs⟩ =
      readRow fuel ((read ++ [one (.single c)]).reverse.map some) ⟨{}, [], cs⟩ := by
  rw [readRow]
  simp only [Mode.skip, Bool.false_eq_true, if_false]
  split <;> rename_i heq <;> cases heq
  case h_6.refl =>
    rw [repetition?_plain hc, readSign_plain hc, List.reverse_append]
    rfl
  all_goals exact absurd hc (by decide)

theorem readRow_plain (read : List Pattern) (hcs : ∀ c ∈ cs, IsPlain c)
    (hfuel : cs.length + 2 ≤ fuel) :
    readRow fuel (read.reverse.map some) ⟨{}, [], cs ++ ['$']⟩ =
      some (row ((read ++ ending cs).reverse.map some), ⟨{}, [], []⟩) := by
  induction cs generalizing read fuel with
  | nil =>
    rw [List.length_nil] at hfuel
    obtain ⟨fuel, rfl⟩ : ∃ n, fuel = n + 2 := ⟨fuel - 2, by omega⟩
    rw [ending, List.map_nil, List.nil_append, List.nil_append, List.reverse_append]
    rfl
  | cons c cs ih =>
    obtain ⟨hc, hcs⟩ := List.forall_mem_cons.mp hcs
    rw [List.length_cons] at hfuel
    obtain ⟨fuel, rfl⟩ : ∃ n, fuel = n + 1 := ⟨fuel - 1, by omega⟩
    rw [List.cons_append, readRow_cons read hc, ih _ hcs (by omega), List.append_assoc]
    rfl

theorem ofText?_plain (hcs : ∀ c ∈ cs, IsPlain c) :
    ofText? (cs ++ ['$']) = some (row ((ending cs).reverse.map some)) := by
  have hrow : readRow (2 * (cs ++ ['$']).length + 1) [] ⟨{}, [], cs ++ ['$']⟩ =
      some (row ((ending cs).reverse.map some), ⟨{}, [], []⟩) :=
    readRow_plain [] hcs (by rw [List.length_append, List.length_singleton]; omega)
  rw [ofText?, readAlternatives, hrow]
  rfl

/-- A text of such letters with a `$` behind it is found at the end of a text and nowhere else. -/
theorem exists_ofText?_endsIn (hcs : ∀ c ∈ cs, IsPlain c) :
    ∃ p, ofText? (cs ++ ['$']) = some p ∧
      ∀ text, p.endsIn text = true ↔ cs <:+ text := by
  refine ⟨_, ofText?_plain hcs, fun text => ?_⟩
  rw [endsIn_iff fun c rest h => List.cons_ne_nil _ _ (finds_ending_iff.mp h).1]
  rw [finds_ending_iff, and_iff_right rfl]

end Showroom.Text.Pattern
