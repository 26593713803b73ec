import Mathlib.Data.List.TakeWhile
import Showroom.Text.Trim

/-!
# Showroom.Proofs.Text.Split

Cutting at a separator. The pieces are what is between the separators: none of them has one in it, and
with one after each but the last they are the text again. Trimming takes off what stands at the ends
and nothing else.

* `splitOn_joined`: the pieces again from what they are joined to.
* `eq_of_splitOn`, `not_mem_of_mem_splitOn`: the text again from its pieces.
* `trim_append`, `eq_append_trim`: what trimming leaves, and the text again from that.
-/

namespace Showroom.Text

variable {α : Type} {separator : α}

theorem intercalate_append_cons (front : List (List α)) (piece : List α) (back : List (List α)) :
    [separator].intercalate (front ++ piece :: back) =
      front.flatMap (· ++ [separator]) ++ piece ++ back.flatMap (separator :: ·) := by
  induction front with
  | nil =>
    induction back generalizing piece with
    | nil => simp
    | cons next back ih =>
      have hnext := ih next
      rw [List.nil_append] at hnext ⊢
      rw [List.intercalate_cons_cons, hnext]
      simp
  | cons first front ih =>
    rw [List.cons_append, List.intercalate_cons_of_ne_nil (List.append_ne_nil_of_right_ne_nil _
      (List.cons_ne_nil _ _)), ih]
    simp

variable [BEq α] [LawfulBEq α]

theorem splitOn_joined {piece : List α} {pieces : List (List α)} (hpiece : separator ∉ piece)
    (hpieces : ∀ p ∈ pieces, separator ∉ p) :
    (piece ++ pieces.flatMap (separator :: ·)).splitOn separator = piece :: pieces := by
  have hjoined : [separator].intercalate (piece :: pieces) =
      piece ++ pieces.flatMap (separator :: ·) := intercalate_append_cons [] piece pieces
  rw [← hjoined]
  exact List.splitOn_intercalate separator (List.forall_mem_cons.mpr ⟨hpiece, hpieces⟩)
    (List.cons_ne_nil _ _)

theorem not_mem_of_mem_splitOn {cs piece : List α} (h : piece ∈ cs.splitOn separator) :
    separator ∉ piece := by
  induction cs generalizing piece with
  | nil =>
    rw [List.splitOn_nil, List.mem_singleton] at h
    rw [h]
    exact List.not_mem_nil
  | cons c cs ih =>
    rw [List.splitOn_cons_eq_if_modifyHead] at h
    split at h
    · rcases List.mem_cons.mp h with rfl | hlater
      · exact List.not_mem_nil
      · exact ih hlater
    · rename_i hc
      -- The first piece begins with a symbol that is no separator, and the others are as before.
      cases hcs : cs.splitOn separator with
      | nil => exact absurd hcs (List.splitOn_ne_nil separator cs)
      | cons first pieces =>
        rw [hcs] at h ih
        rcases List.mem_cons.mp h with rfl | hlater
        · intro hmem
          rcases List.mem_cons.mp hmem with rfl | hfirst
          · exact hc BEq.rfl
          · exact ih List.mem_cons_self hfirst
        · exact ih (List.mem_cons_of_mem _ hlater)

/-- A text from the pieces before one of its pieces, this one, and the pieces after it. -/
theorem eq_of_splitOn {cs piece : List α} {front back : List (List α)}
    (h : cs.splitOn separator = front ++ piece :: back) :
    cs = front.flatMap (· ++ [separator]) ++ piece ++ back.flatMap (separator :: ·) := by
  rw [← intercalate_append_cons, ← h, List.intercalate_splitOn]

theorem dropText?_eq_some_iff {front cs rest : List Char} :
    dropText? front cs = some rest ↔ cs = front ++ rest := by
  rw [dropText?, Option.ite_none_right_eq_some, Option.some.injEq]
  constructor
  · rintro ⟨htake, rfl⟩
    exact (List.take_append_drop front.length cs).symm.trans (by rw [htake])
  · rintro rfl
    exact ⟨List.take_left, List.drop_left⟩

/-! ## Trimming -/

section Trimming

variable {p : Char → Bool} {front cs back : List Char}

/-- Whether a text has no character of a class at its ends. -/
structure Trimmed (p : Char → Bool) (cs : List Char) : Prop where
  first : ∀ c ∈ cs.head?, p c = false
  last : ∀ c ∈ cs.getLast?, p c = false

theorem trimmed_of_forall (h : ∀ c ∈ cs, p c = false) : Trimmed p cs :=
  ⟨fun c hc => h c (List.mem_of_mem_head? hc), fun c hc => h c (List.mem_of_getLast? hc)⟩

theorem dropWhile_of_head? (h : ∀ c ∈ cs.head?, p c = false) : cs.dropWhile p = cs := by
  cases cs with
  | nil => rfl
  | cons c cs => exact List.dropWhile_cons_of_neg (by simp [h c rfl])

theorem trim_append (hfront : ∀ c ∈ front, p c = true) (h : Trimmed p cs)
    (hback : ∀ c ∈ back, p c = true) : trim p (front ++ cs ++ back) = cs := by
  rw [trim, List.append_assoc, List.dropWhile_append_of_pos hfront]
  cases cs with
  | nil =>
    rw [List.nil_append, List.dropWhile_eq_nil_iff.mpr hback]
    rfl
  | cons c cs =>
    have hback : ∀ c ∈ back.reverse, p c = true := fun c hc => hback c (List.mem_reverse.mp hc)
    have hfirst : ∀ x ∈ (c :: cs ++ back).head?, p x = false := h.first
    have hlast : ∀ x ∈ (c :: cs).reverse.head?, p x = false := by
      rw [List.head?_reverse]
      exact h.last
    rw [dropWhile_of_head? hfirst, List.reverse_append, List.dropWhile_append_of_pos hback,
      dropWhile_of_head? hlast, List.reverse_reverse]

theorem trim_of_trimmed (h : Trimmed p cs) : trim p cs = cs := by
  have hcs : trim p ([] ++ cs ++ []) = cs := trim_append (by simp) h (by simp)
  rwa [List.nil_append, List.append_nil] at hcs

theorem trim_append_takeWhile (p : Char → Bool) (cs : List Char) :
    trim p cs ++ ((cs.dropWhile p).reverse.takeWhile p).reverse = cs.dropWhile p := by
  rw [trim, ← List.reverse_append, List.takeWhile_append_dropWhile, List.reverse_reverse]

theorem eq_append_trim (p : Char → Bool) (cs : List Char) :
    ∃ front back, cs = front ++ trim p cs ++ back ∧ (∀ c ∈ front, p c = true) ∧
      ∀ c ∈ back, p c = true := by
  refine ⟨cs.takeWhile p, ((cs.dropWhile p).reverse.takeWhile p).reverse, ?_, ?_, ?_⟩
  · rw [List.append_assoc, trim_append_takeWhile, List.takeWhile_append_dropWhile]
  · exact fun c hc => List.mem_takeWhile_imp hc
  · exact fun c hc => List.mem_takeWhile_imp (List.mem_reverse.mp hc)

theorem trim_eq_nil_iff : trim p cs = [] ↔ ∀ c ∈ cs, p c = true := by
  constructor
  · intro h
    obtain ⟨front, back, hcs, hfront, hback⟩ := eq_append_trim p cs
    rw [h, List.append_nil] at hcs
    rw [hcs]
    exact List.forall_mem_append.mpr ⟨hfront, hback⟩
  · intro h
    have hcs : trim p (cs ++ [] ++ []) = [] :=
      trim_append h (trimmed_of_forall (by simp)) (by simp)
    rwa [List.append_nil, List.append_nil] at hcs

theorem trimmed_trim (p : Char → Bool) (cs : List Char) : Trimmed p (trim p cs) := by
  have hfirst : ∀ (cs : List Char), ∀ c ∈ (cs.dropWhile p).head?, p c = false := by
    intro cs c hc
    have hnot := List.head?_dropWhile_not p cs
    rw [Option.mem_def.mp hc] at hnot
    exact hnot
  constructor
  · intro c hc
    refine hfirst cs c ?_
    rw [← trim_append_takeWhile, List.head?_append, Option.mem_def.mp hc]
    rfl
  · intro c hc
    rw [trim, List.getLast?_reverse] at hc
    exact hfirst _ c hc

end Trimming

end Showroom.Text
