import Showroom.Proofs.Bytes
import Showroom.Text.Lossy

/-!
# Showroom.Proofs.Text.Lossy

Bytes that are read as text, whatever they are. The bytes of a text are read as that text. ASCII comes
of nothing but ASCII: a character that takes several bytes is beyond it, and so is a replacement.

* `Begun.Sound`: what is known of a character before all of its bytes have come.
* `ascii_of_readLossy`: which bytes are read as ASCII.
* `ofBytes_ofText`: what the bytes of a text are read as.
-/

namespace Showroom.Text

theorem toNat_ofNat_of_valid {n : Nat} (h : n.isValidChar) : (Char.ofNat n).toNat = n := by
  rw [Char.ofNat, dif_pos h]
  rfl

namespace Begun

/-- How many numbers there are for each next byte, when some bytes are missing. -/
def room : Nat → Nat
  | k + 2 => 64 * room (k + 1)
  | _ => 1

/-- The least number that the character can have. -/
def low (x : Begun) : Nat := (x.bits * 64 + (x.least.toNat - 0x80)) * room x.missing

/-- The number above all those that the character can have. -/
def high (x : Begun) : Nat := (x.bits * 64 + (x.most.toNat - 0x80) + 1) * room x.missing

/-- What is known of a character that has begun, whatever bytes are to come: one to three are missing,
and it is going to be a character beyond ASCII. -/
structure Sound (x : Begun) : Prop where
  missing : 1 ≤ x.missing ∧ x.missing ≤ 3
  least : 0x80 ≤ x.least.toNat
  most : x.most.toNat < 0xc0
  beyond : 0x80 ≤ x.low
  character : x.high ≤ 0xd800 ∨ 0xe000 ≤ x.low ∧ x.high ≤ 0x110000

variable {x : Begun} {b : UInt8}

theorem sound_of_begun? (h : begun? b = some x) : x.Sound := by
  have hb : b.toNat < 256 := b.toNat_lt
  unfold begun? at h
  simp only [UInt8.lt_iff_toNat_lt, ← UInt8.toNat_inj, UInt8.reduceToNat] at h
  -- The bounds of the second byte depend on the first, which leaves only arithmetic in each case.
  split at h
  · cases h
  split at h
  · obtain rfl := Option.some.inj h
    constructor <;> simp [low, high, room] <;> omega
  split at h
  · obtain rfl := Option.some.inj h
    constructor <;> simp [low, high, room, apply_ite UInt8.toNat] <;> grind
  split at h
  · obtain rfl := Option.some.inj h
    constructor <;> simp [low, high, room, apply_ite UInt8.toNat] <;> grind
  · cases h

section Next

variable {bits : Nat} (hlow : x.bits * 64 + (x.least.toNat - 0x80) ≤ bits)
  (hhigh : bits ≤ x.bits * 64 + (x.most.toNat - 0x80))

include hlow hhigh

theorem Sound.complete (h : x.Sound) (last : x.missing = 1) : 0x80 ≤ (Char.ofNat bits).toNat := by
  have hbeyond := h.beyond
  have hchar := h.character
  simp only [low, high, last, room, Nat.mul_one] at hbeyond hchar
  rw [toNat_ofNat_of_valid]
  · omega
  · rw [Nat.isValidChar]
    omega

theorem Sound.next (h : x.Sound) (more : x.missing ≠ 1) :
    Sound ⟨bits, x.missing - 1, 0x80, 0xbf⟩ := by
  obtain ⟨⟨hsome, hfew⟩, -, -, hbeyond, hchar⟩ := h
  obtain ⟨k, hk⟩ : ∃ k, x.missing = k + 2 := ⟨x.missing - 2, by omega⟩
  have hlow' : x.low ≤ low ⟨bits, k + 1, 0x80, 0xbf⟩ := by
    simp only [low, hk, room, UInt8.reduceToNat, Nat.sub_self, Nat.add_zero, Nat.mul_assoc]
    exact Nat.mul_le_mul_right _ hlow
  have hhigh' : high ⟨bits, k + 1, 0x80, 0xbf⟩ ≤ x.high := by
    simp only [high, hk, room, UInt8.reduceToNat, Nat.reduceSub, ← Nat.mul_assoc]
    exact Nat.mul_le_mul_right _ (by omega)
  have hfew' : k + 1 ≤ 3 := by omega
  rw [hk, Nat.add_one_sub_one]
  exact ⟨⟨Nat.le_add_left 1 k, hfew'⟩, Nat.le_refl _, Nat.lt_succ_self _, by omega, by omega⟩

end Next

end Begun

/-! ## ASCII -/

theorem readFirst_of_lt {b : UInt8} (h : b.toNat < 0x80) :
    readFirst b = ([Char.ofNat b.toNat], none) := if_pos (UInt8.lt_iff_toNat_lt.mpr h)

theorem readFirst_cases (b : UInt8) :
    b.toNat < 0x80 ∨ (∃ x : Begun, x.Sound ∧ readFirst b = ([], some x)) ∨
      readFirst b = ([replacement], none) := by
  by_cases hascii : b < 0x80
  · exact .inl (UInt8.lt_iff_toNat_lt.mp hascii)
  · rw [readFirst, if_neg hascii]
    cases hbegun : begun? b with
    | some x => exact .inr (.inl ⟨x, Begun.sound_of_begun? hbegun, rfl⟩)
    | none => exact .inr (.inr rfl)

/-- A byte after the first ones of a character leads to a character beyond ASCII, now or later. -/
theorem readNext_cases {x : Begun} (h : x.Sound) (b : UInt8) :
    (∃ c ∈ (readNext x b).1, 0x80 ≤ c.toNat) ∨
      ∃ y : Begun, y.Sound ∧ readNext x b = ([], some y) := by
  rw [readNext]
  split
  · rename_i hrange
    obtain ⟨hleast, hmost⟩ := hrange
    rw [UInt8.le_iff_toNat_le] at hleast hmost
    have hfirst := h.least
    have hlow : x.bits * 64 + (x.least.toNat - 0x80) ≤ x.bits * 64 + (b.toNat - 0x80) := by omega
    have hhigh : x.bits * 64 + (b.toNat - 0x80) ≤ x.bits * 64 + (x.most.toNat - 0x80) := by omega
    by_cases hlast : x.missing = 1
    · rw [if_pos hlast]
      exact .inl ⟨_, List.mem_singleton_self _, h.complete hlow hhigh hlast⟩
    · rw [if_neg hlast]
      exact .inr ⟨_, h.next hlow hhigh hlast, rfl⟩
  · exact .inl ⟨replacement, List.mem_cons_self, by decide⟩

theorem readLossy_ascii {bs : Bytes} (h : ∀ b ∈ bs, b.toNat < 0x80) :
    readLossy none bs = bs.map fun b => Char.ofNat b.toNat := by
  induction bs with
  | nil => rfl
  | cons b bs ih =>
    obtain ⟨hb, hbs⟩ := List.forall_mem_cons.mp h
    rw [readLossy, readFirst_of_lt hb, ih hbs]
    rfl

theorem ascii_of_readLossy {bs : Bytes} {begun : Option Begun} (sound : ∀ x ∈ begun, x.Sound)
    (h : ∀ c ∈ readLossy begun bs, c.toNat < 0x80) :
    begun = none ∧ ∀ b ∈ bs, b.toNat < 0x80 := by
  -- Induction on the bytes; where a character has begun before them, it is going to be one beyond
  -- ASCII.
  induction bs generalizing begun with
  | nil =>
    cases begun with
    | none => exact ⟨rfl, fun b hb => by cases hb⟩
    | some x => exact absurd (h replacement (List.mem_singleton_self _)) (by decide)
  | cons b bs ih =>
    cases begun with
    | none =>
      rw [readLossy] at h
      rcases readFirst_cases b with hb | ⟨x, hx, hfirst⟩ | hfirst
      · rw [readFirst_of_lt hb] at h
        have hlater := ih (by simp) fun c hc => h c (List.mem_append_right _ hc)
        exact ⟨rfl, List.forall_mem_cons.mpr ⟨hb, hlater.2⟩⟩
      · rw [hfirst] at h
        have hlater := ih (by simpa using hx) fun c hc => h c (List.mem_append_right _ hc)
        cases hlater.1
      · rw [hfirst] at h
        exact absurd (h replacement List.mem_cons_self) (by decide)
    | some x =>
      rw [readLossy] at h
      rcases readNext_cases (sound x rfl) b with ⟨c, hc, hbeyond⟩ | ⟨y, hy, hnext⟩
      · exact absurd (h c (List.mem_append_left _ hc)) (Nat.not_lt.mpr hbeyond)
      · rw [hnext] at h
        have hlater := ih (by simpa using hy) fun c hc => h c (List.mem_append_right _ hc)
        cases hlater.1

/-! ## UTF-8 -/

section Continuation

variable {bits n : Nat} {least most : UInt8} (hleast : least.toNat ≤ n % 64 + 128)
  (hmost : n % 64 + 128 ≤ most.toNat)

include hleast hmost

theorem readLossy_more (missing : Nat) (bs : Bytes) :
    readLossy (some ⟨bits, missing + 2, least, most⟩) (UInt8.ofNat (n % 64 + 128) :: bs) =
      readLossy (some ⟨bits * 64 + n % 64, missing + 1, 0x80, 0xbf⟩) bs := by
  have hn : (UInt8.ofNat (n % 64 + 128)).toNat = n % 64 + 128 := by simp; omega
  have hmore : missing + 2 ≠ 1 := by omega
  rw [readLossy, readNext, if_pos (by simp only [UInt8.le_iff_toNat_le, hn]; exact ⟨hleast, hmost⟩)]
  simp only [hn, Nat.add_sub_cancel, if_neg hmore]
  rfl

theorem readLossy_last (bs : Bytes) :
    readLossy (some ⟨bits, 1, least, most⟩) (UInt8.ofNat (n % 64 + 128) :: bs) =
      Char.ofNat (bits * 64 + n % 64) :: readLossy none bs := by
  have hn : (UInt8.ofNat (n % 64 + 128)).toNat = n % 64 + 128 := by simp; omega
  rw [readLossy, readNext, if_pos (by simp only [UInt8.le_iff_toNat_le, hn]; exact ⟨hleast, hmost⟩)]
  simp only [hn, Nat.add_sub_cancel, if_pos]
  rfl

end Continuation

theorem readLossy_begun {b : UInt8} {x : Begun} (h : begun? b = some x) (bs : Bytes) :
    readLossy none (b :: bs) = readLossy (some x) bs := by
  have hb : ¬ b < 0x80 := by
    intro hascii
    rw [begun?, if_pos (UInt8.lt_trans hascii (by decide))] at h
    cases h
  rw [readLossy, readFirst, if_neg hb, h]
  rfl

theorem begun?_two : ∀ n < 32, 2 ≤ n →
    begun? (UInt8.ofNat (n + 192)) = some ⟨n, 1, 0x80, 0xbf⟩ := by decide

theorem begun?_three : ∀ n < 16, begun? (UInt8.ofNat (n + 224)) =
    some ⟨n, 2, if n = 0 then 0xa0 else 0x80, if n = 13 then 0x9f else 0xbf⟩ := by decide

theorem begun?_four : ∀ n < 5, begun? (UInt8.ofNat (n + 240)) =
    some ⟨n, 3, if n = 0 then 0x90 else 0x80, if n = 4 then 0x8f else 0xbf⟩ := by decide

theorem readLossy_utf8 (c : Char) (bs : Bytes) :
    readLossy none (String.utf8EncodeChar c ++ bs) = c :: readLossy none bs := by
  have hc : Char.ofNat c.val.toNat = c := Char.ofNat_toNat c
  have hvalid : c.val.toNat.isValidChar := c.valid
  rw [Nat.isValidChar] at hvalid
  dsimp only [String.utf8EncodeChar]
  generalize c.val.toNat = v at hc hvalid
  -- The bits that have come are the number without the six bits of each missing byte.
  have hlast : v / 64 * 64 + v % 64 = v := Nat.div_add_mod' v 64
  have hthird : v / 4096 * 64 + v / 64 % 64 = v / 64 := by omega
  have hsecond : v / 262144 * 64 + v / 4096 % 64 = v / 4096 := by omega
  split
  · rename_i hone
    have hv : (UInt8.ofNat v).toNat = v :=
      UInt8.toNat_ofNat_of_lt' (Nat.lt_of_le_of_lt hone (by decide))
    have hascii : (UInt8.ofNat v).toNat < 0x80 := by omega
    rw [List.singleton_append, readLossy, readFirst_of_lt hascii, hv, hc]
    rfl
  split
  · have hfirst : v / 64 % 32 = v / 64 := Nat.mod_eq_of_lt (by omega)
    rw [hfirst]
    simp only [List.cons_append, List.nil_append]
    rw [readLossy_begun (begun?_two (v / 64) (by omega) (by omega)),
      readLossy_last (by simp) (by simp; omega), hlast, hc]
  split
  · have hfirst : v / 4096 % 16 = v / 4096 := Nat.mod_eq_of_lt (by omega)
    have hleast : (if v / 4096 = 0 then (0xa0 : UInt8) else 0x80).toNat ≤ v / 64 % 64 + 128 := by
      rw [apply_ite UInt8.toNat]
      grind
    have hmost : v / 64 % 64 + 128 ≤ (if v / 4096 = 13 then (0x9f : UInt8) else 0xbf).toNat := by
      rw [apply_ite UInt8.toNat]
      grind
    rw [hfirst]
    simp only [List.cons_append, List.nil_append]
    rw [readLossy_begun (begun?_three (v / 4096) (by omega)),
      readLossy_more hleast hmost, hthird,
      readLossy_last (by simp) (by simp; omega), hlast, hc]
  · have hfirst : v / 262144 % 8 = v / 262144 := Nat.mod_eq_of_lt (by omega)
    have hleast : (if v / 262144 = 0 then (0x90 : UInt8) else 0x80).toNat ≤
        v / 4096 % 64 + 128 := by
      rw [apply_ite UInt8.toNat]
      grind
    have hmost : v / 4096 % 64 + 128 ≤
        (if v / 262144 = 4 then (0x8f : UInt8) else 0xbf).toNat := by
      rw [apply_ite UInt8.toNat]
      grind
    rw [hfirst]
    simp only [List.cons_append, List.nil_append]
    rw [readLossy_begun (begun?_four (v / 262144) (by omega)),
      readLossy_more hleast hmost, hsecond,
      readLossy_more (by simp) (by simp; omega), hthird,
      readLossy_last (by simp) (by simp; omega), hlast, hc]

theorem ofBytes_ofText (s : String) : ofBytes (Bytes.ofText s) = s := by
  have hall : ∀ cs : List Char, readLossy none (cs.flatMap String.utf8EncodeChar) = cs := by
    intro cs
    induction cs with
    | nil => rfl
    | cons c cs ih => rw [List.flatMap_cons, readLossy_utf8, ih]
  have hs := Bytes.ofText_ofList s.toList
  rw [String.ofList_toList] at hs
  rw [ofBytes, hs, hall, String.ofList_toList]

end Showroom.Text
