import Showroom.Proofs.Binary64.Product
import Showroom.Sample.Laptop

/-!
# Showroom.Proofs.Sample.Draws

What random choices come to, whatever the words are that they are made from. A choice that is put
together from others has a property if each of them has one that leads to it.

* `Sample.Always`: that every choice has a property.
* `Sample.always_between`, `Sample.always_oneOf`, `Sample.always_doubleBetween`: the bounds of the
  choices that all others consist of.
-/

namespace Showroom.Sample

variable {α β : Type} {s : Sampler α} {f : α → Sampler β} {P : α → Prop} {Q : β → Prop}

/-- Whatever words there are, what is chosen has a property. -/
def Always (s : Sampler α) (P : α → Prop) : Prop := ∀ d, P (s d).1

theorem Always.mono {P' : α → Prop} (hs : Always s P) (h : ∀ x, P x → P' x) : Always s P' :=
  fun d => h _ (hs d)

theorem always_true : Always s fun _ => True := fun _ => trivial

theorem always_pure {x : α} (h : P x) : Always (pure x) P := fun _ => h

theorem Always.bind (hs : Always s P) (hf : ∀ x, P x → Always (f x) Q) : Always (s >>= f) Q := by
  intro d
  exact hf _ (hs d) _

theorem always_many (hs : Always s P) (n : Nat) :
    Always (many s n) fun xs => xs.length = n ∧ ∀ x ∈ xs, P x := by
  induction n with
  | zero => exact always_pure ⟨rfl, by simp⟩
  | succ n ih =>
    refine hs.bind fun x hx => ih.bind fun xs ⟨hlength, hxs⟩ => always_pure ⟨?_, ?_⟩
    · rw [List.length_cons, hlength]
    · exact List.forall_mem_cons.mpr ⟨hx, hxs⟩

/-! ## Whole numbers -/

theorem always_below {n : Nat} (h : 0 < n) : Always (below n) (· < n) := by
  intro d
  change (d.word d.used).toNat * n / UInt64.size < n
  rw [Nat.div_lt_iff_lt_mul (by decide), Nat.mul_comm n]
  exact Nat.mul_lt_mul_of_pos_right (UInt64.toNat_lt_size _) h

theorem always_between {first last : Nat} (h : first ≤ last) :
    Always (between first last) fun n => first ≤ n ∧ n ≤ last := by
  refine (always_below (by omega)).bind fun n hn => always_pure ?_
  omega

theorem always_oneOf [Inhabited α] {xs : List α} (h : xs ≠ []) : Always (oneOf xs) (· ∈ xs) := by
  refine (always_below (List.length_pos_of_ne_nil h)).bind fun n hn => always_pure ?_
  rw [List.getD_eq_getElem _ _ hn]
  exact List.getElem_mem hn

/-! ## Doubles -/

/-- Not a NaN, and from one number to another. -/
structure Between (first last x : Binary64) : Prop where
  number : x.isNaN = false
  above : first.place ≤ x.place
  below : x.place ≤ last.place

theorem isFinite_iff_place {x : Binary64} :
    x.isFinite = true ↔ x.place.natAbs < 0x7ff0000000000000 := by
  rw [Binary64.isFinite, decide_eq_true_eq, UInt64.lt_iff_toNat_lt, Binary64.place]
  change x.magnitude.toNat < 9218868437227405312 ↔ _
  split <;> omega

theorem Between.isFinite {first last x : Binary64} (hx : Between first last x)
    (hfirst : first.isFinite = true) (hlast : last.isFinite = true) : x.isFinite = true := by
  obtain ⟨-, habove, hbelow⟩ := hx
  rw [isFinite_iff_place] at hfirst hlast ⊢
  omega

theorem toNat_oneAnd (w : UInt64) :
    (oneAnd w).bits.toNat = 0x3ff0000000000000 + w.toNat / 4096 := by
  have hlow : w.toNat / 4096 < 2 ^ 52 := by
    have hw := w.toNat_lt
    omega
  have hone : (0x3ff0000000000000 : UInt64).toNat = 0x3ff <<< 52 := by decide
  have hshift : (w >>> 12).toNat = w.toNat / 4096 := by
    rw [UInt64.toNat_shiftRight, Nat.shiftRight_eq_div_pow]
    rfl
  rw [oneAnd, UInt64.toNat_or, hshift, hone, ← Nat.shiftLeft_add_eq_or_of_lt hlow]
  rfl

theorem place_oneAnd (w : UInt64) :
    (oneAnd w).place = (0x3ff0000000000000 + w.toNat / 4096 : Nat) := by
  have hbits := toNat_oneAnd w
  have hw := w.toNat_lt
  have hpositive : ¬ (oneAnd w).isNegative = true := by
    rw [Binary64.isNegative_iff, hbits]
    omega
  rw [Binary64.place, if_neg hpositive, Binary64.toNat_magnitude, hbits]
  omega

theorem isFinite_oneAnd (w : UInt64) : (oneAnd w).isFinite = true := by
  have hw := w.toNat_lt
  rw [isFinite_iff_place, place_oneAnd]
  omega

theorem always_fraction : Always fraction fun x => x.isNaN = false ∧ 0 ≤ x.place := by
  intro d
  refine Binary64.place_sub (isFinite_oneAnd _) (isFinite_oneAnd 0) ?_
  rw [place_oneAnd, place_oneAnd]
  exact Int.ofNat_le.mpr (Nat.add_le_add_left (Nat.zero_le _) _)

/-- A part of the way that is not a number, or leads beyond the end, is never taken. -/
theorem Between.of_add {first last p : Binary64} (hfirst : first.isFinite = true)
    (hp : p.isNaN = true ∨ 0 ≤ p.place) (hlt : (p.add first).lt last = true) :
    Between first last (p.add first) := by
  have hstart : first.isNaN = false := Binary64.isNaN_of_isFinite hfirst
  simp only [Binary64.lt, Bool.and_eq_true, Bool.not_eq_true', decide_eq_true_eq] at hlt
  obtain ⟨⟨hnumber, -⟩, hbelow⟩ := hlt
  refine ⟨hnumber, ?_, hbelow.le⟩
  by_cases hnan : p.isNaN = true
  · rw [Binary64.isNaN_add_of_isNaN hnan] at hnumber
    cases hnumber
  · have hpos : 0 ≤ p.place := hp.resolve_left hnan
    rcases Binary64.finite_or_infinite (Bool.eq_false_iff.mpr hnan) with hfinite | ⟨s, hs⟩
    · rw [Binary64.add_comm]
      exact Binary64.place_le_add hstart hfinite hpos
    · have hplace := Binary64.natAbs_place_le hstart
      rw [Binary64.place_of_infinite hs] at hpos
      rw [Binary64.place_of_infinite (Binary64.add_infinite hs hfirst)]
      cases s with
      | negative => exact absurd hpos (by decide)
      | positive =>
        change _ ≤ (0x7ff0000000000000 : Int)
        omega

theorem always_doubleBetween {first last : Binary64} (hfirst : first.isFinite = true)
    (hlast : last.isFinite = true) (h : first.place ≤ last.place) :
    Always (doubleBetween first last) (Between first last) := by
  have hnumber : first.isNaN = false := Binary64.isNaN_of_isFinite hfirst
  unfold doubleBetween
  split
  · have hd := Binary64.place_sub hlast hfirst h
    refine always_fraction.bind fun f hf => always_pure ?_
    split
    · rename_i hlt
      exact .of_add hfirst (Binary64.place_mul hf.2 hd.2) hlt
    · exact ⟨hnumber, le_refl _, h⟩
  · exact always_pure ⟨hnumber, le_refl _, h⟩

end Showroom.Sample
