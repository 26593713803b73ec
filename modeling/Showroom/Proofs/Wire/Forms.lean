import Showroom.Proofs.Wire.Slices

/-!
# Showroom.Proofs.Wire.Forms

The forms that parts of a record can have on the wire, more of them than are written: a number may
have groups of seven bits beyond its last bit, as long as there are at most ten.

* `IsVarint`, `IsKey`, `IsDelimited`: the forms of numbers, of keys, and of bytes after their length.
* `readVarint_eq_ok_iff_isVarint`, `readKey_eq_ok_iff`, `readDelimited_eq_ok_iff_isDelimited`: they
  are what is read, with anything behind them.
-/

namespace Showroom.Wire

/-! ## Numbers -/

namespace Varint

/-- Groups of seven bits, the least significant first, and the number that they spell. -/
inductive Spells : Nat → Bytes → Prop
  | last {b : UInt8} (h : b.toNat < 128) : Spells b.toNat [b]
  | more {b : UInt8} {n : Nat} {bs : Bytes} (h : 128 ≤ b.toNat) (rest : Spells n bs) :
      Spells (b.toNat - 128 + 128 * n) (b :: bs)

theorem Spells.length_pos {n : Nat} {bs : Bytes} (h : Spells n bs) : 0 < bs.length := by
  cases h <;> simp

theorem toNat_lt_iff {b : UInt8} : b < 128 ↔ b.toNat < 128 := UInt8.lt_iff_toNat_lt

theorem readGroups_of_spells {n : Nat} {form : Bytes} (h : Spells n form) {left : Nat}
    (hlen : form.length ≤ left + 1) (hn : n < 2 * Nat.pow 128 left) (rest : Bytes) :
    readGroups (left + 1) (form ++ rest) = some (n, rest) := by
  induction h generalizing left with
  | @last b hb =>
    have hlast : ¬ (left = 0 ∧ 2 ≤ b) := by
      rintro ⟨rfl, htwo⟩
      have htwo : 2 ≤ b.toNat := UInt8.le_iff_toNat_le.mp htwo
      have hpow : Nat.pow 128 0 = 1 := rfl
      omega
    simp [readGroups, toNat_lt_iff.mpr hb, hlast]
  | @more b n bs hb hrest ih =>
    have hbig : ¬ b < 128 := fun h => absurd (toNat_lt_iff.mp h) (by omega)
    have hpos := hrest.length_pos
    rw [List.length_cons] at hlen
    obtain ⟨left, rfl⟩ : ∃ fewer, left = fewer + 1 := ⟨left - 1, by omega⟩
    have hpow : Nat.pow 128 (left + 1) = Nat.pow 128 left * 128 := rfl
    have hlater : readGroups (left + 1) (bs ++ rest) = some (n, rest) := ih (by omega) (by omega)
    rw [List.cons_append, readGroups, if_neg hbig, hlater]

theorem spells_of_readGroups {left n : Nat} {bs rest : Bytes}
    (h : readGroups (left + 1) bs = some (n, rest)) :
    ∃ form, bs = form ++ rest ∧ Spells n form ∧ form.length ≤ left + 1 ∧
      n < 2 * Nat.pow 128 left := by
  -- By induction on the groups that are still allowed; the last of them holds a single bit.
  induction left generalizing n bs with
  | zero =>
    cases bs with
    | nil => cases h
    | cons b bs =>
      rw [readGroups] at h
      split at h
      · rename_i hb
        split at h
        · cases h
        · rename_i hlast
          cases h
          have hone : ¬ 2 ≤ b := fun h => hlast ⟨rfl, h⟩
          rw [UInt8.le_iff_toNat_le] at hone
          have hone : b.toNat < 2 := Nat.not_le.mp hone
          exact ⟨[b], rfl, .last (toNat_lt_iff.mp hb), by simp, hone⟩
      · cases h
  | succ left ih =>
    have hpow : Nat.pow 128 (left + 1) = Nat.pow 128 left * 128 := rfl
    have hpos : 0 < Nat.pow 128 left := Nat.pow_pos (by decide)
    cases bs with
    | nil => cases h
    | cons b bs =>
      rw [readGroups] at h
      split at h
      · rename_i hb
        rw [if_neg (by omega)] at h
        cases h
        have hb := toNat_lt_iff.mp hb
        exact ⟨[b], rfl, .last hb, by simp, by omega⟩
      · rename_i hb
        have hb : 128 ≤ b.toNat := Nat.not_lt.mp fun h => hb (toNat_lt_iff.mpr h)
        split at h
        · rename_i high after hread
          cases h
          obtain ⟨form, rfl, hspells, hlen, hbound⟩ := ih hread
          have hbyte := b.toNat_lt
          refine ⟨b :: form, rfl, .more hb hspells, by simpa using hlen, by omega⟩
        · cases h

end Varint

/-- The forms of a number of 64 bits: up to ten groups. -/
structure IsVarint (n : Nat) (bs : Bytes) : Prop where
  spells : Varint.Spells n bs
  short : bs.length ≤ 10
  fits : n < UInt64.size

theorem readVarint_eq_ok_iff_isVarint {bs rest : Bytes} {n : Nat} :
    readVarint bs = .ok (n, rest) ↔ ∃ form, bs = form ++ rest ∧ IsVarint n form := by
  rw [readVarint_eq_ok_iff, Varint.read]
  constructor
  · intro h
    obtain ⟨form, hbs, hspells, hlen, hbound⟩ := Varint.spells_of_readGroups h
    exact ⟨form, hbs, hspells, hlen, hbound⟩
  · rintro ⟨form, rfl, hform⟩
    exact Varint.readGroups_of_spells hform.spells hform.short hform.fits rest

theorem IsVarint.read {n : Nat} {bs : Bytes} (h : IsVarint n bs) (rest : Bytes) :
    readVarint (bs ++ rest) = .ok (n, rest) :=
  readVarint_eq_ok_iff_isVarint.mpr ⟨bs, rfl, h⟩

theorem isVarint_render {n : Nat} (h : n < UInt64.size) : IsVarint n (Varint.render n) := by
  have hread := readVarint_render h []
  obtain ⟨form, hform, hn⟩ := readVarint_eq_ok_iff_isVarint.mp hread
  rw [List.append_nil, List.append_nil] at hform
  rw [hform]
  exact hn

/-! ## Keys -/

theorem WireType.code_of_ofCode? {code : Nat} {wire : WireType} (h : ofCode? code = some wire) :
    wire.code = code := by
  unfold ofCode? at h
  split at h <;> cases h <;> rfl

/-- The forms of the key of a record: of eight times its number, plus the code of its wire type, in
32 bits. -/
structure IsKey (number : Nat) (wire : WireType) (bs : Bytes) : Prop where
  form : IsVarint (8 * number + wire.code) bs
  positive : 1 ≤ number
  fits : 8 * number + wire.code < UInt32.size

theorem readKey_eq_ok_iff {bs rest : Bytes} {number : Nat} {wire : WireType} :
    readKey bs = .ok ((number, wire), rest) ↔ ∃ key, bs = key ++ rest ∧ IsKey number wire key := by
  rw [readKey, bind_eq_ok_iff]
  constructor
  · rintro ⟨⟨n, middle⟩, hread, h⟩
    obtain ⟨hsize, h⟩ := ite_throw_eq_ok_iff.mp h
    cases hw : WireType.ofCode? (n % 8) with
    | none =>
      rw [hw] at h
      cases h
    | some found =>
      rw [hw] at h
      obtain ⟨hnumber, h⟩ := ite_throw_eq_ok_iff.mp h
      cases h
      have hcode := WireType.code_of_ofCode? hw
      have hn : 8 * (n / 8) + wire.code = n := by omega
      obtain ⟨key, hbs, hform⟩ := readVarint_eq_ok_iff_isVarint.mp hread
      refine ⟨key, hbs, ?_, by omega, ?_⟩
      · rw [hn]
        exact hform
      · rw [hn]
        exact Nat.not_le.mp hsize
  · rintro ⟨key, rfl, hkey⟩
    have hlt := wire.code_lt
    have hmod : (8 * number + wire.code) % 8 = wire.code := by omega
    have hdiv : (8 * number + wire.code) / 8 = number := by omega
    have hpos := hkey.positive
    refine ⟨_, hkey.form.read rest, ?_⟩
    refine ite_throw_eq_ok_iff.mpr ⟨Nat.not_le.mpr hkey.fits, ?_⟩
    simp only [hmod, hdiv, WireType.ofCode?_code]
    exact ite_throw_eq_ok_iff.mpr ⟨by omega, rfl⟩

theorem IsKey.read {number : Nat} {wire : WireType} {key : Bytes} (h : IsKey number wire key)
    (rest : Bytes) : readKey (key ++ rest) = .ok ((number, wire), rest) :=
  readKey_eq_ok_iff.mpr ⟨key, rfl, h⟩

theorem IsKey.length_pos {number : Nat} {wire : WireType} {key : Bytes}
    (h : IsKey number wire key) : 0 < key.length :=
  h.form.spells.length_pos

theorem isKey_key {number : Nat} (wire : WireType) (hpos : 1 ≤ number)
    (h : 8 * number + wire.code < UInt32.size) : IsKey number wire (Entry.key number wire) :=
  ⟨isVarint_render (Nat.lt_trans h (by decide)), hpos, h⟩

/-! ## Bytes after their length -/

def IsDelimited (payload bs : Bytes) : Prop :=
  ∃ length, bs = length ++ payload ∧ IsVarint payload.length length

theorem readDelimited_eq_ok_iff_isDelimited {bs payload rest : Bytes} :
    readDelimited bs = .ok (payload, rest) ↔
      ∃ form, bs = form ++ rest ∧ IsDelimited payload form := by
  rw [readDelimited_eq_ok_iff, readVarint_eq_ok_iff_isVarint]
  constructor
  · rintro ⟨length, hbs, hlength⟩
    rw [← List.append_assoc] at hbs
    exact ⟨length ++ payload, hbs, length, rfl, hlength⟩
  · rintro ⟨form, rfl, length, rfl, hlength⟩
    exact ⟨length, List.append_assoc _ _ _, hlength⟩

theorem IsDelimited.read {payload bs : Bytes} (h : IsDelimited payload bs) (rest : Bytes) :
    readDelimited (bs ++ rest) = .ok (payload, rest) :=
  readDelimited_eq_ok_iff_isDelimited.mpr ⟨bs, rfl, h⟩

theorem isDelimited_delimited {payload : Bytes} (h : payload.length < UInt64.size) :
    IsDelimited payload (Entry.delimited payload) :=
  ⟨_, rfl, isVarint_render h⟩

end Showroom.Wire
