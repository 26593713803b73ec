import Mathlib.Data.List.Nodup
import Showroom.Proofs.Uuid

/-!
# Showroom.Proofs.Uuid.Spellings

The texts that denote one identifier. Without regard to the case of letters there are four of them,
of 32, 36, 38 and 45 characters. So a text is known by what it denotes, its length and the places of
its capital letters.

* `mem_spellings_of_parse`: a text that denotes an identifier is one of its spellings.
* `eq_of_parse`: two texts of one identifier with capital letters at the same places are the same.
-/

namespace Showroom

/-! ## Letters -/

/-- A character is known by its form in lower case and by whether it is a capital letter. -/
theorem eq_of_toLower {c d : Char} (hlower : c.toLower = d.toLower) (hcase : c.isUpper = d.isUpper) :
    c = d := by
  have hiff := decide_eq_decide.mp hcase
  delta Char.toLower at hlower
  by_cases hc : c.val ≥ 'A'.val ∧ c.val ≤ 'Z'.val
  · rw [dif_pos hc, dif_pos (hiff.mp hc)] at hlower
    exact Char.ext ((UInt32.add_left_inj _).mp (congrArg Char.val hlower))
  · rwa [dif_neg hc, dif_neg (fun hd => hc (hiff.mpr hd))] at hlower

namespace Bytes

theorem toNat_lt_of_hexValue? {c : Char} {d : Nat} (h : hexValue? c = some d) : c.toNat < 128 := by
  have below : ∀ top : Char, c ≤ top → top.toNat < 128 → c.toNat < 128 := fun top hle htop =>
    Nat.lt_of_le_of_lt hle htop
  unfold hexValue? at h
  split at h
  · rename_i hrange
    exact below '9' hrange.2 (by decide)
  · split at h
    · rename_i hrange
      exact below 'f' hrange.2 (by decide)
    · split at h
      · rename_i hrange
        exact below 'F' hrange.2 (by decide)
      · cases h

theorem toLower_of_hexValue? {c : Char} {d : Nat} (h : hexValue? c = some d) :
    d < 16 ∧ c.toLower = hexDigit d := by
  have table : ∀ n < 128, ∀ d ∈ hexValue? (Char.ofNat n),
      d < 16 ∧ (Char.ofNat n).toLower = hexDigit d := by decide +kernel
  have hc := table c.toNat (toNat_lt_of_hexValue? h) d
  rw [Char.ofNat_toNat] at hc
  exact hc h

end Bytes

namespace Uuid

@[simp] theorem lowerAscii_nil : lowerAscii [] = [] := rfl

@[simp] theorem lowerAscii_append (cs ds : List Char) :
    lowerAscii (cs ++ ds) = lowerAscii cs ++ lowerAscii ds := List.map_append

@[simp] theorem lowerAscii_cons (c : Char) (cs : List Char) :
    lowerAscii (c :: cs) = c.toLower :: lowerAscii cs := rfl

@[simp] theorem length_lowerAscii (cs : List Char) : (lowerAscii cs).length = cs.length :=
  List.length_map _

theorem eq_of_lowerAscii {cs ds : List Char} (hlower : lowerAscii cs = lowerAscii ds)
    (hcase : cs.map Char.isUpper = ds.map Char.isUpper) : cs = ds := by
  induction cs generalizing ds with
  | nil => exact (List.map_eq_nil_iff.mp hlower.symm).symm
  | cons c cs ih =>
    cases ds with
    | nil => cases hlower
    | cons d ds =>
      obtain ⟨hc, hcs⟩ := List.cons.inj hlower
      obtain ⟨hupper, huppers⟩ := List.cons.inj hcase
      rw [eq_of_toLower hc hupper, ih hcs huppers]

/-! ## Digits -/

/-- Digits of either case with these values are, in lower case, those written for the values. -/
theorem lowerAscii_of_mapM_hexValue? {cs : List Char} {ds : List Nat}
    (h : cs.mapM Bytes.hexValue? = some ds) :
    lowerAscii cs = ds.map Bytes.hexDigit ∧ ∀ d ∈ ds, d < 16 := by
  induction cs generalizing ds with
  | nil =>
    cases h
    exact ⟨rfl, by simp⟩
  | cons c cs ih =>
    rw [List.mapM_cons] at h
    obtain ⟨d, hd, later, hlater, rfl⟩ : ∃ d, Bytes.hexValue? c = some d ∧
        ∃ later, cs.mapM Bytes.hexValue? = some later ∧ d :: later = ds := by
      simpa [Option.bind_eq_some_iff] using h
    obtain ⟨hsmall, hlower⟩ := Bytes.toLower_of_hexValue? hd
    obtain ⟨hlowers, hall⟩ := ih hlater
    rw [lowerAscii_cons, hlower, hlowers, List.map_cons]
    exact ⟨rfl, List.forall_mem_cons.mpr ⟨hsmall, hall⟩⟩

/-- The digits of a number written by digits to the base sixteen are these, from the last one on. -/
theorem digitValues_foldl {ds : List Nat} (h : ∀ d ∈ ds, d < 16) :
    (List.range ds.length).map (fun i =>
        (ds.foldl (fun total d => 16 * total + d) 0 >>> (4 * (ds.length - 1 - i))) % 16) = ds ∧
      ds.foldl (fun total d => 16 * total + d) 0 < Nat.pow 16 ds.length := by
  generalize hn : ds.length = n
  induction n generalizing ds with
  | zero =>
    rw [List.length_eq_zero_iff.mp hn]
    exact ⟨rfl, by decide⟩
  | succ n ih =>
    have hne : ds ≠ [] := List.ne_nil_of_length_eq_add_one hn
    obtain ⟨front, last, rfl⟩ : ∃ front last, ds = front ++ [last] :=
      ⟨ds.dropLast, ds.getLast hne, (List.dropLast_concat_getLast hne).symm⟩
    have hlast : last < 16 := h last (by simp)
    have hsmall : ∀ d ∈ front, d < 16 := fun d hd => h d (List.mem_append_left _ hd)
    have hlength : front.length = n := by simpa using hn
    obtain ⟨hfront, hbound⟩ := ih hsmall hlength
    rw [List.foldl_append, List.foldl_cons, List.foldl_nil, digitValues_succ]
    have hquotient : (16 * front.foldl (fun total d => 16 * total + d) 0 + last) / 16 =
        front.foldl (fun total d => 16 * total + d) 0 := by omega
    have hremainder : (16 * front.foldl (fun total d => 16 * total + d) 0 + last) % 16 = last := by
      omega
    have hpow : Nat.pow 16 (n + 1) = 16 * Nat.pow 16 n := Nat.mul_comm _ _
    rw [hquotient, hremainder, hfront, hpow]
    exact ⟨rfl, by omega⟩

theorem lowerAscii_of_readDigits {cs : List Char} {value : BitVec 128}
    (h : readDigits cs = some value) : lowerAscii cs = digits value := by
  rw [readDigits] at h
  split at h
  · rename_i hlength
    obtain ⟨ds, hds, rfl⟩ := Option.map_eq_some_iff.mp h
    obtain ⟨hlower, hsmall⟩ := lowerAscii_of_mapM_hexValue? hds
    have hwidth : ds.length = 32 := by
      rw [← List.length_map Bytes.hexDigit, ← hlower, length_lowerAscii, hlength]
    obtain ⟨hdigits, hbound⟩ := digitValues_foldl hsmall
    rw [hwidth] at hdigits hbound
    have hvalue : (BitVec.ofNat 128 (ds.foldl (fun n d => 16 * n + d) 0)).toNat =
        ds.foldl (fun n d => 16 * n + d) 0 := Nat.mod_eq_of_lt hbound
    calc lowerAscii cs = ds.map Bytes.hexDigit := hlower
      _ = ((List.range 32).map _).map Bytes.hexDigit := congrArg (List.map Bytes.hexDigit) hdigits.symm
      _ = digits _ := by
        rw [digits, hvalue, List.map_map]
        rfl
  · cases h

/-! ## Groups -/

/-- A list of enough characters has one at any place, with those before and behind it. -/
theorem exists_cut {cs : List Char} {n : Nat} (h : n < cs.length) :
    ∃ front mark back, cs = front ++ mark :: back ∧ front.length = n :=
  ⟨cs.take n, cs[n], cs.drop (n + 1), by simp, List.length_take_of_le (Nat.le_of_lt h)⟩

theorem length_of_readGroups {cs : List Char} {value : BitVec 128}
    (h : readGroups cs = some value) : cs.length = 36 := by
  simp only [readGroups, List.partition_eq_filter_filter] at h
  split at h
  · rename_i hmarks
    have hfour := congrArg List.length hmarks
    have hdigits := congrArg List.length (lowerAscii_of_readDigits h)
    rw [length_lowerAscii, length_digits, List.length_map] at hdigits
    rw [List.length_map] at hfour
    calc cs.length = cs.zipIdx.length := (List.length_zipIdx).symm
      _ = 4 + 32 := by
        rw [List.length_eq_length_filter_add fun p => hyphenPlaces.contains p.2]
        exact congr (congrArg _ hfour) hdigits
  · cases h

theorem hyphenate_append {a b c d e : List Char} (ha : a.length = 8) (hb : b.length = 4)
    (hc : c.length = 4) (hd : d.length = 4) :
    let ds := a ++ (b ++ (c ++ (d ++ e)))
    hyphenate (ds.take 8) ((ds.drop 8).take 4) ((ds.drop 12).take 4) ((ds.drop 16).take 4)
      (ds.drop 20) = hyphenate a b c d e := by
  intro ds
  have h8 : ds.drop 8 = b ++ (c ++ (d ++ e)) := List.drop_left' ha
  have h12 : ds.drop 12 = c ++ (d ++ e) := by
    rw [← List.drop_drop (i := 4) (j := 8), h8, List.drop_left' hb]
  have h16 : ds.drop 16 = d ++ e := by
    rw [← List.drop_drop (i := 4) (j := 12), h12, List.drop_left' hc]
  have h20 : ds.drop 20 = e := by
    rw [← List.drop_drop (i := 4) (j := 16), h16, List.drop_left' hd]
  rw [h8, h12, h16, h20, List.take_left' ha, List.take_left' hb, List.take_left' hc,
    List.take_left' hd]

theorem lowerAscii_of_readGroups {cs : List Char} {value : BitVec 128}
    (h : readGroups cs = some value) : lowerAscii cs = (Uuid.mk value).text.toList := by
  have hlength := length_of_readGroups h
  obtain ⟨a, m₁, rest, rfl, ha⟩ := exists_cut (show 8 < cs.length by omega)
  obtain ⟨b, m₂, rest, rfl, hb⟩ := exists_cut (show 4 < rest.length by simp at hlength; omega)
  obtain ⟨c, m₃, rest, rfl, hc⟩ := exists_cut (show 4 < rest.length by simp at hlength; omega)
  obtain ⟨d, m₄, e, rfl, hd⟩ := exists_cut (show 4 < rest.length by simp at hlength; omega)
  have hjoin : a ++ m₁ :: (b ++ m₂ :: (c ++ m₃ :: (d ++ m₄ :: e))) =
      a ++ m₁ :: b ++ m₂ :: c ++ m₃ :: d ++ m₄ :: e := by simp
  rw [hjoin, readGroups_joined ha hb hc hd] at h
  split at h
  · rename_i hmarks
    have hdigits := lowerAscii_of_readDigits h
    obtain ⟨rfl, rfl, rfl, rfl⟩ : m₁ = '-' ∧ m₂ = '-' ∧ m₃ = '-' ∧ m₄ = '-' := by
      simpa using hmarks
    simp only [lowerAscii_append, List.append_assoc] at hdigits
    rw [text_eq, ← hdigits, hyphenate_append (by simpa) (by simpa) (by simpa) (by simpa)]
    simp [hyphenate]
  · cases h

/-! ## Whole texts -/

/-- The texts that denote an identifier, in lower case. -/
def spellings (u : Uuid) : List (List Char) :=
  [digits u.value, u.text.toList, '{' :: u.text.toList ++ ['}'], urnMark ++ u.text.toList]

theorem eq_of_inBraces? {cs inner : List Char} (h : inBraces? cs = some inner) :
    cs = '{' :: inner ++ ['}'] := by
  unfold inBraces? at h
  split at h
  · rename_i rest
    split at h
    · rename_i hlast
      cases h
      obtain ⟨front, rfl⟩ := List.getLast?_eq_some_iff.mp hlast
      simp
    · cases h
  · cases h

theorem lowerAscii_of_afterUrn? {cs inner : List Char} (h : afterUrn? cs = some inner) :
    lowerAscii cs = urnMark ++ lowerAscii inner := by
  unfold afterUrn? at h
  split at h
  · rename_i hmark
    cases h
    rw [← hmark, ← lowerAscii_append, List.take_append_drop]
  · cases h

/-- **A text that denotes an identifier is one of its spellings**, in letters of either case. -/
theorem mem_spellings_of_parse {s : String} {u : Uuid} (h : parse s = .ok u) :
    lowerAscii s.toList ∈ spellings u := by
  unfold parse at h
  dsimp only at h
  split at h
  · rename_i inner hgroups
    split at h
    · rename_i value hread
      cases h
      have hinner := lowerAscii_of_readGroups hread
      unfold groupsOf? at hgroups
      split at hgroups
      · cases hgroups
        simp [spellings, hinner]
      · split at hgroups
        · rw [eq_of_inBraces? hgroups]
          simp [spellings, hinner]
        · split at hgroups
          · rw [lowerAscii_of_afterUrn? hgroups]
            simp [spellings, hinner]
          · cases hgroups
    · cases h
  · split at h
    · rename_i value hread
      cases h
      simp [spellings, lowerAscii_of_readDigits hread]
    · cases h

theorem eq_of_mem_spellings {u : Uuid} {cs ds : List Char} (hcs : cs ∈ spellings u)
    (hds : ds ∈ spellings u) (hlength : cs.length = ds.length) : cs = ds := by
  have hlengths : (spellings u).map List.length = [32, 36, 38, 45] := by
    have hmark : urnMark.length = 9 := by decide
    simp only [spellings, List.map_cons, List.map_nil, List.length_cons, List.length_append,
      List.length_nil, length_digits, length_text, hmark]
  have hdistinct : ((spellings u).map List.length).Nodup := by
    rw [hlengths]
    decide
  exact List.inj_on_of_nodup_map hdistinct hcs hds hlength

/-- **A text is known by its identifier, its length and the places of its capital letters.** -/
theorem eq_of_parse {s t : String} {u : Uuid} (hs : parse s = .ok u) (ht : parse t = .ok u)
    (hcase : s.toList.map Char.isUpper = t.toList.map Char.isUpper) : s = t := by
  have hlength : s.toList.length = t.toList.length := by
    simpa using congrArg List.length hcase
  have hlower : lowerAscii s.toList = lowerAscii t.toList :=
    eq_of_mem_spellings (mem_spellings_of_parse hs) (mem_spellings_of_parse ht) (by simpa)
  exact String.toList_inj.mp (eq_of_lowerAscii hlower hcase)

end Uuid
end Showroom
