import Showroom.Uuid

/-!
# Showroom.Proofs.Uuid

The text of an identifier denotes it. The proof goes the way of the text back: a number is what its
32 digits add up to, and the reader of groups finds the digits between the hyphens.

* `parse_text`: reading the text of an identifier gives the identifier.
* `text_inj`: no two identifiers have one text.
-/

namespace Showroom

theorem Bytes.hexValue?_hexDigit : ∀ d < 16, hexValue? (hexDigit d) = some d := by decide

theorem Bytes.hexDigit_ne_slash : ∀ d < 16, '/' ≠ hexDigit d := by decide

theorem Bytes.utf8Size_hexDigit : ∀ d < 16, (hexDigit d).utf8Size = 1 := by decide

namespace Uuid

/-! ## Digits -/

@[simp] theorem length_digits (value : BitVec 128) : (digits value).length = 32 := by
  simp [digits]

/-- The values of the lowest digits of a number to the base sixteen: those of its sixteenth part, and
then the last one. -/
theorem digitValues_succ (width n : Nat) :
    ((List.range (width + 1)).map fun i => (n >>> (4 * (width + 1 - 1 - i))) % 16) =
      ((List.range width).map fun i => ((n / 16) >>> (4 * (width - 1 - i))) % 16) ++ [n % 16] := by
  have shift : ∀ i ∈ List.range width,
      (n >>> (4 * (width + 1 - 1 - i))) % 16 = ((n / 16) >>> (4 * (width - 1 - i))) % 16 := by
    intro i hi
    have hsum : 4 * (width + 1 - 1 - i) = 4 + 4 * (width - 1 - i) := by
      have := List.mem_range.mp hi
      omega
    rw [hsum, Nat.shiftRight_add, Nat.shiftRight_eq_div_pow n 4]
  rw [List.range_succ, List.map_append, List.map_congr_left shift]
  simp

/-- The lowest `width` digits of a number to the base sixteen add up to it, as far as they go. -/
theorem foldl_digits (width n : Nat) :
    ((List.range width).map fun i => (n >>> (4 * (width - 1 - i))) % 16).foldl
      (fun total d => 16 * total + d) 0 = n % Nat.pow 16 width := by
  induction width generalizing n with
  | zero => simp [Nat.mod_one]
  | succ width ih =>
    have hlast : n % Nat.pow 16 (width + 1) = n % 16 + 16 * (n / 16 % Nat.pow 16 width) :=
      (congrArg (n % ·) (Nat.mul_comm _ 16)).trans Nat.mod_mul
    rw [digitValues_succ, List.foldl_append, ih, hlast]
    simp [Nat.add_comm]

theorem mapM_hexValue?_digits (ds : List Nat) (h : ∀ d ∈ ds, d < 16) :
    (ds.map Bytes.hexDigit).mapM Bytes.hexValue? = some ds := by
  induction ds with
  | nil => rfl
  | cons d ds ih =>
    obtain ⟨hd, hds⟩ := List.forall_mem_cons.mp h
    rw [List.map_cons, List.mapM_cons, Bytes.hexValue?_hexDigit d hd, ih hds]
    rfl

theorem readDigits_digits (value : BitVec 128) : readDigits (digits value) = some value := by
  have hsplit : digits value = ((List.range 32).map fun i =>
      (value.toNat >>> (4 * (32 - 1 - i))) % 16).map Bytes.hexDigit := by
    rw [List.map_map]
    rfl
  have hsmall : ∀ d ∈ (List.range 32).map fun i => (value.toNat >>> (4 * (32 - 1 - i))) % 16,
      d < 16 := by
    intro d hd
    obtain ⟨i, -, rfl⟩ := List.mem_map.mp hd
    exact Nat.mod_lt _ (by decide)
  have hvalue : value.toNat % Nat.pow 16 32 = value.toNat := Nat.mod_eq_of_lt value.isLt
  rw [readDigits, if_pos (length_digits value), hsplit, mapM_hexValue?_digits _ hsmall,
    Option.map_some, foldl_digits, hvalue, BitVec.ofNat_toNat, BitVec.setWidth_eq]

/-! ## Groups -/

def hyphenate (a b c d e : List Char) : List Char :=
  a ++ '-' :: b ++ '-' :: c ++ '-' :: d ++ '-' :: e

theorem partition_group {cs : List Char} {start : Nat}
    (h : ∀ place ∈ hyphenPlaces, place < start ∨ start + cs.length ≤ place) :
    (cs.zipIdx start).filter (fun p => hyphenPlaces.contains p.2) = [] ∧
      (cs.zipIdx start).filter (fun p => !hyphenPlaces.contains p.2) = cs.zipIdx start := by
  have outside : ∀ p ∈ cs.zipIdx start, hyphenPlaces.contains p.2 = false := by
    intro p hp
    have hrange := List.mem_zipIdx hp
    refine Bool.eq_false_iff.mpr fun hplace => ?_
    have := h p.2 (List.contains_iff_mem.mp hplace)
    omega
  constructor
  · exact List.filter_eq_nil_iff.mpr fun p hp => by rw [outside p hp]; decide
  · exact List.filter_eq_self.mpr fun p hp => by rw [outside p hp]; rfl

/-- What the reader of groups makes of five groups with single characters between them. -/
theorem readGroups_joined {a b c d e : List Char} {m₁ m₂ m₃ m₄ : Char} (ha : a.length = 8)
    (hb : b.length = 4) (hc : c.length = 4) (hd : d.length = 4) :
    readGroups (a ++ m₁ :: b ++ m₂ :: c ++ m₃ :: d ++ m₄ :: e) =
      if [m₁, m₂, m₃, m₄] = ['-', '-', '-', '-'] then readDigits (a ++ b ++ c ++ d ++ e)
      else none := by
  have pa := @partition_group a 0 (by simp [hyphenPlaces, ha])
  have pb := @partition_group b 9 (by simp [hyphenPlaces, hb])
  have pc := @partition_group c 14 (by simp [hyphenPlaces, hc])
  have pd := @partition_group d 19 (by simp [hyphenPlaces, hd])
  have pe := @partition_group e 24 (by simp [hyphenPlaces])
  have split : (a ++ m₁ :: b ++ m₂ :: c ++ m₃ :: d ++ m₄ :: e).zipIdx =
      a.zipIdx ++ ((m₁, 8) :: b.zipIdx 9) ++ ((m₂, 13) :: c.zipIdx 14) ++
        ((m₃, 18) :: d.zipIdx 19) ++ ((m₄, 23) :: e.zipIdx 24) := by
    simp [List.zipIdx_append, ha, hb, hc, hd]
  have marks : (a ++ m₁ :: b ++ m₂ :: c ++ m₃ :: d ++ m₄ :: e).zipIdx.filter
      (fun p => hyphenPlaces.contains p.2) = [(m₁, 8), (m₂, 13), (m₃, 18), (m₄, 23)] := by
    simp only [split, List.filter_append, List.filter_cons, pa.1, pb.1, pc.1, pd.1, pe.1]
    rfl
  have others : (a ++ m₁ :: b ++ m₂ :: c ++ m₃ :: d ++ m₄ :: e).zipIdx.filter
      (fun p => !hyphenPlaces.contains p.2) =
        a.zipIdx ++ b.zipIdx 9 ++ c.zipIdx 14 ++ d.zipIdx 19 ++ e.zipIdx 24 := by
    simp only [split, List.filter_append, List.filter_cons, pa.2, pb.2, pc.2, pd.2, pe.2]
    rfl
  have unmarked : ((a ++ m₁ :: b ++ m₂ :: c ++ m₃ :: d ++ m₄ :: e).zipIdx.filter
      fun p => !hyphenPlaces.contains p.2).map (·.1) = a ++ b ++ c ++ d ++ e := by
    simp only [others, List.map_append, List.zipIdx_map_fst]
  simp only [readGroups, List.partition_eq_filter_filter, marks]
  exact congrArg (if [m₁, m₂, m₃, m₄] = ['-', '-', '-', '-'] then readDigits · else none) unmarked

theorem readGroups_hyphenate {a b c d e : List Char} (ha : a.length = 8) (hb : b.length = 4)
    (hc : c.length = 4) (hd : d.length = 4) :
    readGroups (hyphenate a b c d e) = readDigits (a ++ b ++ c ++ d ++ e) :=
  (readGroups_joined ha hb hc hd).trans (if_pos rfl)

/-! ## The whole text -/

theorem append_groups (ds : List Char) :
    ds.take 8 ++ (ds.drop 8).take 4 ++ (ds.drop 12).take 4 ++ (ds.drop 16).take 4 ++ ds.drop 20 =
      ds := by
  have h12 : ds.drop 12 = (ds.drop 8).drop 4 := by rw [List.drop_drop]
  have h16 : ds.drop 16 = (ds.drop 12).drop 4 := by rw [List.drop_drop]
  have h20 : ds.drop 20 = (ds.drop 16).drop 4 := by rw [List.drop_drop]
  simp only [List.append_assoc]
  rw [h20, List.take_append_drop, h16, List.take_append_drop, h12, List.take_append_drop,
    List.take_append_drop]

theorem text_eq (u : Uuid) :
    u.text = String.ofList (hyphenate ((digits u.value).take 8) (((digits u.value).drop 8).take 4)
      (((digits u.value).drop 12).take 4) (((digits u.value).drop 16).take 4)
      ((digits u.value).drop 20)) := rfl

theorem byteLength_of_ascii {cs : List Char} (h : ∀ c ∈ cs, c.utf8Size = 1) :
    byteLength cs = cs.length := by
  induction cs with
  | nil => rfl
  | cons c cs ih =>
    obtain ⟨hc, hcs⟩ := List.forall_mem_cons.mp h
    have hlength : byteLength cs = cs.length := ih hcs
    calc byteLength (c :: cs) = c.utf8Size + byteLength cs := rfl
      _ = (c :: cs).length := by rw [hc, hlength, List.length_cons, Nat.add_comm]

theorem length_text (u : Uuid) : u.text.toList.length = 36 := by
  simp [text_eq, hyphenate]

theorem mem_text {u : Uuid} {c : Char} (h : c ∈ u.text.toList) :
    c = '-' ∨ ∃ d < 16, c = Bytes.hexDigit d := by
  have hdigit : ∀ c ∈ digits u.value, ∃ d < 16, c = Bytes.hexDigit d := by
    intro c hc
    obtain ⟨i, -, rfl⟩ := List.mem_map.mp hc
    exact ⟨_, Nat.mod_lt _ (by decide), rfl⟩
  simp only [text_eq, hyphenate, String.toList_ofList, List.mem_append, List.mem_cons] at h
  rcases h with ((((h | h | h) | h | h) | h | h) | h | h)
  · exact .inr (hdigit c (List.mem_of_mem_take h))
  · exact .inl h
  · exact .inr (hdigit c (List.mem_of_mem_drop (List.mem_of_mem_take h)))
  · exact .inl h
  · exact .inr (hdigit c (List.mem_of_mem_drop (List.mem_of_mem_take h)))
  · exact .inl h
  · exact .inr (hdigit c (List.mem_of_mem_drop (List.mem_of_mem_take h)))
  · exact .inl h
  · exact .inr (hdigit c (List.mem_of_mem_drop h))

theorem text_ne_empty (u : Uuid) : u.text ≠ "" := by
  intro h
  have := length_text u
  rw [h] at this
  cases this

/-- **The text of an identifier denotes it.** -/
theorem parse_text (u : Uuid) : parse u.text = .ok u := by
  have hsize : byteLength u.text.toList = 36 := by
    rw [byteLength_of_ascii, length_text]
    intro c hc
    rcases mem_text hc with rfl | ⟨d, hd, rfl⟩
    · decide
    · exact Bytes.utf8Size_hexDigit d hd
  have hgroups : groupsOf? u.text.toList = some u.text.toList := by rw [groupsOf?, if_pos hsize]
  have hread : readGroups u.text.toList = some u.value := by
    rw [text_eq, String.toList_ofList, readGroups_hyphenate (by simp) (by simp) (by simp) (by simp),
      append_groups, readDigits_digits]
  simp only [parse, hgroups, hread]

theorem text_inj {u v : Uuid} (h : u.text = v.text) : u = v := by
  have hu := parse_text u
  rw [h, parse_text] at hu
  cases hu
  rfl

end Uuid
end Showroom
