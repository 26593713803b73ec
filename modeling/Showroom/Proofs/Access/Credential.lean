import Showroom.Access.Credential
import Showroom.Proofs.Call.Headers
import Showroom.Proofs.Text.Split

/-!
# Showroom.Proofs.Access.Credential

The token of a call, read from its metadata. Blanks around a token and around the mark do not count,
whatever their number, and nothing but blanks is no token. The mark goes with the blank that ends it:
where only blanks follow, they are taken off first, and what is left of the mark is read as a token.

* `strip_plain`, `strip_marked`, `strip_bareMark`: a text with and without the mark.
* `strip_eq_nil_iff`: the texts without a token.
* `find_decides`: what is found in metadata.
* `find_of_values`: a token is read as a client sent it.
-/

namespace Showroom
namespace Credential

def Blank (cs : List Char) : Prop := ∀ c ∈ cs, c = ' ' ∨ c = '\t'

def TokenText (cs : List Char) : Prop :=
  ∀ c ∈ cs, c.isAlphanum = true ∨ c = '-' ∨ c = '_' ∨ c = '.'

instance (cs : List Char) : Decidable (Blank cs) := List.decidableBAll _ cs

instance (cs : List Char) : Decidable (TokenText cs) := List.decidableBAll _ cs

/-- Metadata in which a text is the only value for the token. -/
def Carries (m : Metadata) (cs : List Char) : Prop :=
  m.values entryName = [Bytes.ofText (String.ofList cs)]

instance (m : Metadata) (cs : List Char) : Decidable (Carries m cs) :=
  inferInstanceAs (Decidable (m.values entryName = [Bytes.ofText (String.ofList cs)]))

/-- The mark without the blank at its end. -/
def bareMark : List Char := "Bearer".toList

theorem isBlank_iff {c : Char} : isBlank c = true ↔ c = ' ' ∨ c = '\t' := by
  simp [isBlank]

theorem blank_iff {cs : List Char} : Blank cs ↔ ∀ c ∈ cs, isBlank c = true := by
  simp only [Blank, isBlank_iff]

theorem bearerMark_append (cs : List Char) : bearerMark ++ cs = bareMark ++ ' ' :: cs := rfl

theorem isBlank_of_visible {c : Char} (h : 0x21 ≤ c.toNat) : isBlank c = false := by
  refine Bool.eq_false_iff.mpr fun hblank => ?_
  rcases isBlank_iff.mp hblank with rfl | rfl
  · exact absurd h (by decide)
  · exact absurd h (by decide)

theorem Blank.readable {cs : List Char} (h : Blank cs) : Metadata.Readable cs := by
  intro c hc
  rcases h c hc with rfl | rfl
  · exact .inr (by decide)
  · exact .inl rfl

theorem TokenText.visible {cs : List Char} (h : TokenText cs) :
    ∀ c ∈ cs, 0x21 ≤ c.toNat ∧ c.toNat ≤ 0x7e := by
  intro c hc
  rcases h c hc with halphanum | rfl | rfl | rfl
  · unfold Char.isAlphanum Char.isAlpha Char.isUpper Char.isLower Char.isDigit at halphanum
    simp only [Bool.or_eq_true, Bool.and_eq_true, decide_eq_true_eq,
      UInt32.le_iff_toNat_le] at halphanum
    have hranges : ((65 ≤ c.toNat ∧ c.toNat ≤ 90) ∨ (97 ≤ c.toNat ∧ c.toNat ≤ 122)) ∨
        (48 ≤ c.toNat ∧ c.toNat ≤ 57) := halphanum
    omega
  · decide
  · decide
  · decide

theorem TokenText.not_isBlank {cs : List Char} (h : TokenText cs) :
    ∀ c ∈ cs, isBlank c = false :=
  fun c hc => isBlank_of_visible (h.visible c hc).1

/-! ## Taking off blanks and the mark -/

section Strip

variable {cs before between after : List Char}

theorem dropText?_bearerMark (h : ∀ c ∈ cs, isBlank c = false) :
    Text.dropText? bearerMark cs = none := by
  refine Option.eq_none_iff_forall_ne_some.mpr fun rest hrest => ?_
  have hblank : ' ' ∈ cs := by
    rw [Text.dropText?_eq_some_iff.mp hrest]
    exact List.mem_append_left _ (by decide)
  exact absurd (h ' ' hblank) (by decide)

theorem strip_plain (hbefore : Blank before) (trimmed : Text.Trimmed isBlank cs)
    (unmarked : Text.dropText? bearerMark cs = none) (hafter : Blank after) :
    strip (before ++ cs ++ after) = cs := by
  rw [strip, Text.trim_append (blank_iff.mp hbefore) trimmed (blank_iff.mp hafter), unmarked,
    Option.getD_none, Text.trim_of_trimmed trimmed]

theorem strip_of_forall (h : ∀ c ∈ cs, isBlank c = false) : strip cs = cs := by
  have hnone : Blank [] := fun _ hc => absurd hc List.not_mem_nil
  have hcs : strip ([] ++ cs ++ []) = cs :=
    strip_plain hnone (Text.trimmed_of_forall h) (dropText?_bearerMark h) hnone
  rwa [List.nil_append, List.append_nil] at hcs

theorem strip_marked (hbefore : Blank before) (hbetween : Blank between) (nonempty : cs ≠ [])
    (trimmed : Text.Trimmed isBlank cs) (hafter : Blank after) :
    strip (before ++ bearerMark ++ between ++ cs ++ after) = cs := by
  have hgrouped : before ++ bearerMark ++ between ++ cs ++ after =
      before ++ (bearerMark ++ between ++ cs) ++ after := by
    simp only [List.append_assoc]
  have hmarked : Text.Trimmed isBlank (bearerMark ++ between ++ cs) := by
    constructor
    · rintro _ ⟨⟩
      decide
    · rw [List.getLast?_append, List.getLast?_eq_some_getLast nonempty, Option.some_or,
        ← List.getLast?_eq_some_getLast nonempty]
      exact trimmed.last
  have hrest : Text.trim isBlank (between ++ cs) = cs := by
    have hcs : Text.trim isBlank (between ++ cs ++ []) = cs :=
      Text.trim_append (blank_iff.mp hbetween) trimmed (by simp)
    rwa [List.append_nil] at hcs
  have hdrop : Text.dropText? bearerMark (bearerMark ++ between ++ cs) = some (between ++ cs) :=
    Text.dropText?_eq_some_iff.mpr (List.append_assoc _ _ _)
  rw [strip, hgrouped, Text.trim_append (blank_iff.mp hbefore) hmarked (blank_iff.mp hafter), hdrop,
    Option.getD_some, hrest]

/-- With nothing but blanks behind it, the mark loses the blank by which it is known. -/
theorem strip_bareMark (hbefore : Blank before) (hafter : Blank after) :
    strip (before ++ bearerMark ++ after) = bareMark := by
  have hblanks : Blank (' ' :: after) :=
    fun c hc => (List.mem_cons.mp hc).elim .inl (hafter c)
  have hword : ∀ c ∈ bareMark, isBlank c = false :=
    TokenText.not_isBlank (by decide : TokenText bareMark)
  rw [List.append_assoc, bearerMark_append, ← List.append_assoc]
  exact strip_plain hbefore (Text.trimmed_of_forall hword) (dropText?_bearerMark hword) hblanks

theorem strip_eq_nil_iff : strip cs = [] ↔ Blank cs := by
  constructor
  · intro h
    rw [strip] at h
    cases hdrop : Text.dropText? bearerMark (Text.trim isBlank cs) with
    | none =>
      rw [hdrop, Option.getD_none, Text.trim_of_trimmed (Text.trimmed_trim isBlank cs)] at h
      exact blank_iff.mpr (Text.trim_eq_nil_iff.mp h)
    | some rest =>
      -- Then what was trimmed would end in a blank: one behind the mark, or the mark's own.
      rw [hdrop, Option.getD_some, Text.trim_eq_nil_iff] at h
      have hblank : ∀ c ∈ ' ' :: rest, isBlank c = true := List.forall_mem_cons.mpr ⟨rfl, h⟩
      have hlast := (Text.trimmed_trim isBlank cs).last
      rw [Text.dropText?_eq_some_iff.mp hdrop, bearerMark_append, List.getLast?_append,
        List.getLast?_eq_some_getLast (List.cons_ne_nil ' ' rest), Option.some_or] at hlast
      have hnot := hlast _ rfl
      rw [hblank _ (List.getLast_mem _)] at hnot
      cases hnot
  · intro h
    have hcs : strip (cs ++ [] ++ []) = [] :=
      strip_plain h (Text.trimmed_of_forall (by simp)) (by decide) (by simp [Blank])
    rwa [List.append_nil, List.append_nil] at hcs

end Strip

/-! ## Reading a token -/

section Find

variable {m : Metadata} {cs before between after token : List Char}

theorem find_cases (m : Metadata) :
    (m.values entryName = [] ∧ find m = .ok none) ∨
      (∃ value cs, m.values entryName = [value] ∧ Metadata.text? value = some cs ∧
        find m = .ok (if strip cs = [] then none else some (String.ofList (strip cs)))) ∨
      (∃ value, m.values entryName = [value] ∧ Metadata.text? value = none ∧
        find m = .error .unreadable) ∨
      (2 ≤ (m.values entryName).length ∧ find m = .error .several) := by
  rw [find]
  cases hvalues : m.values entryName with
  | nil => exact .inl ⟨rfl, rfl⟩
  | cons value values =>
    cases values with
    | nil =>
      dsimp only
      cases htext : Metadata.text? value with
      | some cs => exact .inr (.inl ⟨value, cs, rfl, htext, rfl⟩)
      | none => exact .inr (.inr (.inl ⟨value, rfl, htext, rfl⟩))
    | cons => exact .inr (.inr (.inr ⟨Nat.le_add_left 2 _, rfl⟩))

theorem find_of_carries (h : Carries m cs) (readable : Metadata.Readable cs) :
    find m = .ok (if strip cs = [] then none else some (String.ofList (strip cs))) := by
  simp only [find, show m.values entryName = _ from h, Metadata.text?_ofText readable]

theorem printable_of_find {token : String} (h : find m = .ok (some token)) :
    ∃ value, m.values entryName = [value] ∧ ∀ b ∈ value, Metadata.Printable b := by
  rcases find_cases m with ⟨-, hfind⟩ | ⟨value, cs, hvalues, htext, -⟩ | ⟨_, -, -, hfind⟩ |
    ⟨-, hfind⟩
  · rw [hfind] at h
    cases h
  · exact ⟨value, hvalues, (Metadata.text?_eq_some_iff.mp htext).1⟩
  · rw [hfind] at h
    cases h
  · rw [hfind] at h
    cases h

theorem find_eq_none_iff :
    find m = .ok none ↔ m.values entryName = [] ∨ ∃ cs, Blank cs ∧ Carries m cs := by
  constructor
  · intro h
    rcases find_cases m with ⟨hvalues, -⟩ | ⟨value, cs, hvalues, htext, hfind⟩ |
      ⟨_, -, -, hfind⟩ | ⟨-, hfind⟩
    · exact .inl hvalues
    · obtain ⟨hprintable, rfl⟩ := Metadata.text?_eq_some_iff.mp htext
      have hnil : strip (value.map fun b => Char.ofNat b.toNat) = [] := by
        by_contra hne
        rw [hfind, if_neg hne] at h
        cases h
      refine .inr ⟨_, strip_eq_nil_iff.mp hnil, ?_⟩
      rw [Carries, hvalues, Bytes.ofText_map_char fun b hb =>
        UInt8.lt_iff_toNat_lt.mp (hprintable b hb).lt]
    · rw [hfind] at h
      cases h
    · rw [hfind] at h
      cases h
  · rintro (hvalues | ⟨cs, hblank, hcarries⟩)
    · rw [find, hvalues]
    · rw [find_of_carries hcarries hblank.readable, if_pos (strip_eq_nil_iff.mpr hblank)]

theorem find_eq_several_iff :
    find m = .error .several ↔ 2 ≤ (m.values entryName).length := by
  rcases find_cases m with ⟨hvalues, hfind⟩ | ⟨_, _, hvalues, -, hfind⟩ |
    ⟨_, hvalues, -, hfind⟩ | ⟨htwo, hfind⟩
  · simp [hvalues, hfind]
  · simp [hvalues, hfind]
  · simp [hvalues, hfind]
  · simp [htwo, hfind]

theorem find_eq_unreadable_iff :
    find m = .error .unreadable ↔
      ∃ value, m.values entryName = [value] ∧ ∃ b ∈ value, ¬ Metadata.Printable b := by
  simp only [← Metadata.text?_eq_none_iff]
  rcases find_cases m with ⟨hvalues, hfind⟩ | ⟨value, cs, hvalues, htext, hfind⟩ |
    ⟨value, hvalues, htext, hfind⟩ | ⟨htwo, hfind⟩
  · simp [hvalues, hfind]
  · simp [hvalues, hfind, htext]
  · simp [hvalues, hfind, htext]
  · have hne : ∀ value, m.values entryName ≠ [value] := by
      intro value hvalue
      rw [hvalue] at htwo
      exact Nat.not_succ_le_self 1 htwo
    simp [hfind, hne]

theorem find_plain (hbefore : Blank before) (h : TokenText token) (hafter : Blank after)
    (carries : Carries m (before ++ token ++ after)) :
    find m = .ok (if token = [] then none else some (String.ofList token)) := by
  have hreadable : Metadata.Readable (before ++ token ++ after) := by
    simp only [Metadata.Readable, List.forall_mem_append]
    exact ⟨⟨hbefore.readable, Metadata.readable_of_visible h.visible⟩, hafter.readable⟩
  rw [find_of_carries carries hreadable,
    strip_plain hbefore (Text.trimmed_of_forall h.not_isBlank) (dropText?_bearerMark h.not_isBlank)
      hafter]

theorem find_marked (hbefore : Blank before) (hbetween : Blank between) (h : TokenText token)
    (hafter : Blank after)
    (carries : Carries m (before ++ bearerMark ++ between ++ token ++ after)) :
    find m = .ok (some (String.ofList (if token = [] then bareMark else token))) := by
  have hmark : Metadata.Readable bearerMark := by decide
  have hreadable : Metadata.Readable (before ++ bearerMark ++ between ++ token ++ after) := by
    simp only [Metadata.Readable, List.forall_mem_append]
    exact ⟨⟨⟨⟨hbefore.readable, hmark⟩, hbetween.readable⟩,
      Metadata.readable_of_visible h.visible⟩, hafter.readable⟩
  rw [find_of_carries carries hreadable]
  by_cases hempty : token = []
  · have hblanks : Blank (between ++ after) := List.forall_mem_append.mpr ⟨hbetween, hafter⟩
    rw [hempty, List.append_nil, List.append_assoc _ between, strip_bareMark hbefore hblanks]
    rfl
  · rw [strip_marked hbefore hbetween hempty (Text.trimmed_of_forall h.not_isBlank) hafter,
      if_neg hempty, if_neg hempty]

/-- **The token of a call.** Behind the mark or without it, a token is found as it is, however many
blanks are around it. There is none exactly if there is no value, or one of nothing but blanks; a
mark with nothing but blanks behind it is itself found as a token. Several values, and one that is not
text, are errors, whatever else the metadata holds. -/
theorem find_decides (m : Metadata) :
    (∀ before token after, Blank before → TokenText token → Blank after →
      Carries m (before ++ token ++ after) →
      find m = .ok (if token = [] then none else some (String.ofList token))) ∧
    (∀ before between token after, Blank before → Blank between → TokenText token → Blank after →
      Carries m (before ++ bearerMark ++ between ++ token ++ after) →
      find m = .ok (some (String.ofList (if token = [] then bareMark else token)))) ∧
    (find m = .ok none ↔ m.values entryName = [] ∨ ∃ cs, Blank cs ∧ Carries m cs) ∧
    (find m = .error .several ↔ 2 ≤ (m.values entryName).length) ∧
    (find m = .error .unreadable ↔
      ∃ value, m.values entryName = [value] ∧ ∃ b ∈ value, ¬ Metadata.Printable b) :=
  ⟨fun _ _ _ => find_plain, fun _ _ _ _ => find_marked, find_eq_none_iff, find_eq_several_iff,
    find_eq_unreadable_iff⟩

def mixedHeaders (values : List Bytes) : Metadata :=
  ⟨("te", Bytes.ofText "trailers") :: (values.map fun value => (entryName, value)) ++
    [("x-trace", [0xff])]⟩

/-- A token with blanks around it, behind the mark and without it, one that is cut in two, and one
that is followed by the byte of no character. -/
theorem find_decides_padded :
    (Blank ['\t', ' '] ∧ Blank [' ', ' '] ∧ TokenText "aZ.b-c_9".toList ∧ Blank [' ']) ∧
    find (mixedHeaders [Bytes.ofText "\t aZ.b-c_9 "]) = .ok (some "aZ.b-c_9") ∧
    find (mixedHeaders [Bytes.ofText "\t Bearer   aZ.b-c_9 "]) = .ok (some "aZ.b-c_9") ∧
    find (mixedHeaders [Bytes.ofText "\t  "]) = .ok none ∧
    find (mixedHeaders [Bytes.ofText "aZ.", Bytes.ofText "b-c_9"]) = .error .several ∧
    find (mixedHeaders [Bytes.ofText "aZ.b-c_9" ++ [0xff]]) = .error .unreadable := by
  have hbefore : Blank ['\t', ' '] := by decide
  have hbetween : Blank [' ', ' '] := by decide
  have htoken : TokenText "aZ.b-c_9".toList := by decide
  have hafter : Blank [' '] := by decide
  obtain ⟨hplain, -⟩ := find_decides (mixedHeaders [Bytes.ofText "\t aZ.b-c_9 "])
  obtain ⟨-, hmarked, -⟩ := find_decides (mixedHeaders [Bytes.ofText "\t Bearer   aZ.b-c_9 "])
  obtain ⟨-, -, hnone, -⟩ := find_decides (mixedHeaders [Bytes.ofText "\t  "])
  obtain ⟨-, -, -, hseveral, -⟩ :=
    find_decides (mixedHeaders [Bytes.ofText "aZ.", Bytes.ofText "b-c_9"])
  obtain ⟨-, -, -, -, hunreadable⟩ := find_decides (mixedHeaders [Bytes.ofText "aZ.b-c_9" ++ [0xff]])
  refine ⟨⟨hbefore, hbetween, htoken, hafter⟩, ?_, ?_, ?_, ?_, ?_⟩
  · exact hplain _ _ _ hbefore htoken hafter (by decide)
  · exact hmarked _ _ _ _ hbefore hbetween htoken hafter (by decide)
  · exact hnone.mpr (.inr ⟨['\t', ' ', ' '], by decide, by decide⟩)
  · exact hseveral.mpr (by decide)
  · exact hunreadable.mpr ⟨_, rfl, 0xff, by decide, by decide⟩

/-- A mark with blanks behind it and no token. -/
theorem bareMark_found :
    Blank [] ∧ TokenText [] ∧ Blank ['\t', ' '] ∧
    Carries (mixedHeaders [Bytes.ofText "Bearer \t "])
      ([] ++ bearerMark ++ [] ++ [] ++ ['\t', ' ']) ∧
    find (mixedHeaders [Bytes.ofText "Bearer \t "]) = .ok (some "Bearer") ∧
    find (mixedHeaders [Bytes.ofText "Bearer \t "]) ≠ .ok none := by
  decide

end Find

/-! ## Sending a token -/

/-- A text that a header carries as it is, with no blank in it. -/
structure Plain (token : String) : Prop where
  nonempty : token ≠ ""
  visible : ∀ b ∈ Bytes.ofText token, 0x21 ≤ b.toNat ∧ b.toNat ≤ 0x7e

variable {token : String} {m sent : Metadata}

theorem attach_of_plain (h : Plain token) (m : Metadata) :
    attach token m = some (m.set entryName (Bytes.ofText token)) := by
  have hvalue : Metadata.isValue (Bytes.ofText token) = true := by
    refine List.all_eq_true.mpr fun b hb => ?_
    obtain ⟨hlow, hhigh⟩ := h.visible b hb
    have hne : b ≠ 127 := by
      rintro rfl
      exact absurd hhigh (by decide)
    have hle : 32 ≤ b := UInt8.le_iff_toNat_le.mpr (Nat.le_of_succ_le hlow)
    simp [hne, hle]
  rw [attach, if_neg h.nonempty, if_pos hvalue]

theorem find_of_values (h : Plain token) (hvalues : sent.values entryName = [Bytes.ofText token]) :
    find sent = .ok (some token) := by
  let cs := (Bytes.ofText token).map fun b => Char.ofNat b.toNat
  have htoken : String.ofList cs = token := by
    refine Bytes.ofText_inj (Bytes.ofText_map_char fun b hb => ?_)
    exact Nat.lt_of_le_of_lt (h.visible b hb).2 (by decide)
  have hvisible : ∀ c ∈ cs, 0x21 ≤ c.toNat ∧ c.toNat ≤ 0x7e := by
    intro c hc
    obtain ⟨b, hb, rfl⟩ := List.mem_map.mp hc
    rw [Bytes.toNat_char]
    exact h.visible b hb
  have hcarries : Carries sent cs := by rw [Carries, htoken, hvalues]
  have hne : cs ≠ [] := by
    intro hnil
    rw [hnil] at htoken
    exact h.nonempty htoken.symm
  -- Neither blanks nor the mark, which ends in one, can be taken off.
  rw [find_of_carries hcarries (Metadata.readable_of_visible hvisible),
    strip_of_forall fun c hc => isBlank_of_visible (hvisible c hc).1, if_neg hne, htoken]

end Credential

end Showroom
