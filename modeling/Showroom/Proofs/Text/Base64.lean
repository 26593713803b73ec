import Mathlib.Data.List.TakeWhile
import Showroom.Proofs.Except
import Showroom.Text.Base64

/-!
# Showroom.Proofs.Text.Base64

Every byte string has exactly one text in an alphabet whose symbols can be told apart.

* `decode_encode`: what is written is read again.
* `encode_of_decode`: what can be read is what is written for the bytes it stands for.
* `mem_encode`: only symbols are written.
-/

namespace Showroom.Text.Base64

/-- An alphabet in which the symbols can be told apart, and padding from all of them. -/
class Alphabet.Lawful (a : Alphabet) : Prop where
  value?_symbol : ∀ n < 64, a.value? (a.symbol n) = some n
  value?_padding : a.value? padding = none

instance : urlSafe.Lawful where
  value?_symbol := by decide
  value?_padding := by decide

instance : standard.Lawful where
  value?_symbol := by decide
  value?_padding := by decide

theorem Alphabet.symbol_of_value? {a : Alphabet} {b : UInt8} {n : Nat} (h : a.value? b = some n) :
    n < 64 ∧ a.symbol n = b := by
  unfold value? at h
  simp only [UInt8.le_iff_toNat_le] at h
  unfold symbol
  split at h
  · cases h
    rename_i hb
    have hb1 : 65 ≤ b.toNat := hb.1
    have hb2 : b.toNat ≤ 90 := hb.2
    rw [if_pos (by omega)]
    exact ⟨by omega, UInt8.toNat_inj.mp (by simp; omega)⟩
  split at h
  · cases h
    rename_i hb
    have hb1 : 97 ≤ b.toNat := hb.1
    have hb2 : b.toNat ≤ 122 := hb.2
    rw [if_neg (by omega), if_pos (by omega)]
    exact ⟨by omega, UInt8.toNat_inj.mp (by simp; omega)⟩
  split at h
  · cases h
    rename_i hb
    have hb1 : 48 ≤ b.toNat := hb.1
    have hb2 : b.toNat ≤ 57 := hb.2
    rw [if_neg (by omega), if_neg (by omega), if_pos (by omega)]
    exact ⟨by omega, UInt8.toNat_inj.mp (by simp)⟩
  split at h
  · cases h
    rename_i hb
    exact ⟨by omega, hb.symm⟩
  split at h
  · cases h
    rename_i hb
    exact ⟨by omega, hb.symm⟩
  · cases h

section Symbols

variable {a : Alphabet} {offset : Nat}

theorem symbolAt_eq_ok_iff {b : UInt8} {n : Nat} :
    symbolAt a offset b = .ok n ↔ a.value? b = some n := by
  unfold symbolAt
  cases a.value? b <;> simp

theorem mem_encode {bs : Bytes} : ∀ b ∈ encode a bs, ∃ n < 64, b = a.symbol n := by
  induction bs using encode.induct with
  | case1 => simp [encode]
  | case2 x =>
    have hx := x.toNat_lt
    simp only [encode, List.mem_cons, List.not_mem_nil, or_false]
    rintro b (rfl | rfl)
    · exact ⟨_, by omega, rfl⟩
    · exact ⟨_, by omega, rfl⟩
  | case3 x y =>
    have hx := x.toNat_lt
    have hy := y.toNat_lt
    simp only [encode, List.mem_cons, List.not_mem_nil, or_false]
    rintro b (rfl | rfl | rfl)
    · exact ⟨_, by omega, rfl⟩
    · exact ⟨_, by omega, rfl⟩
    · exact ⟨_, by omega, rfl⟩
  | case4 x y z rest ih =>
    have hx := x.toNat_lt
    have hy := y.toNat_lt
    have hz := z.toNat_lt
    simp only [encode, List.mem_cons]
    rintro b (rfl | rfl | rfl | rfl | h)
    · exact ⟨_, by omega, rfl⟩
    · exact ⟨_, by omega, rfl⟩
    · exact ⟨_, by omega, rfl⟩
    · exact ⟨_, by omega, rfl⟩
    · exact ih b h

theorem length_encode (bs : Bytes) : (encode a bs).length = (4 * bs.length + 2) / 3 := by
  induction bs using encode.induct with
  | case1 => rfl
  | case2 x => simp [encode]
  | case3 x y => simp [encode]
  | case4 x y z rest ih =>
    simp only [encode, List.length_cons, ih]
    omega

theorem encode_eq_nil_iff {bs : Bytes} : encode a bs = [] ↔ bs = [] := by
  cases bs using encode.induct <;> simp [encode]

end Symbols

/-! ## The last group -/

section LastGroup

variable {a : Alphabet} {offset : Nat}

theorem mapM_symbolAt_eq_ok_iff {bs : Bytes} {values : List Nat} [a.Lawful] (i : Nat) :
    (bs.zipIdx i).mapM (fun p => symbolAt a (offset + p.2) p.1) = .ok values ↔
      (∀ n ∈ values, n < 64) ∧ bs = values.map a.symbol := by
  induction bs generalizing values i with
  | nil =>
    constructor
    · intro h
      cases h
      simp
    · rintro ⟨-, h⟩
      rw [List.map_eq_nil_iff.mp h.symm]
      rfl
  | cons b bs ih =>
    rw [List.zipIdx_cons, List.mapM_cons]
    constructor
    · intro h
      obtain ⟨n, hb, h⟩ := bind_eq_ok_iff.mp h
      obtain ⟨ns, hbs, h⟩ := bind_eq_ok_iff.mp h
      cases h
      obtain ⟨hlt, hsymbol⟩ := Alphabet.symbol_of_value? (symbolAt_eq_ok_iff.mp hb)
      obtain ⟨hall, hmap⟩ := (ih (i + 1)).mp hbs
      exact ⟨List.forall_mem_cons.mpr ⟨hlt, hall⟩, by rw [List.map_cons, hsymbol, hmap]⟩
    · rintro ⟨hall, hmap⟩
      cases values with
      | nil => cases hmap
      | cons n ns =>
        rw [List.map_cons, List.cons.injEq] at hmap
        obtain ⟨hlt, hns⟩ := List.forall_mem_cons.mp hall
        have hb : symbolAt a (offset + i) (a.symbol n) = .ok n :=
          symbolAt_eq_ok_iff.mpr (Alphabet.Lawful.value?_symbol n hlt)
        rw [← hmap.1] at hb
        simp only [hb, (ih (i + 1)).mpr ⟨hns, hmap.2⟩]
        rfl

theorem symbol_ne_padding [a.Lawful] {n : Nat} (h : n < 64) : a.symbol n ≠ padding := by
  intro he
  have hv := Alphabet.Lawful.value?_symbol (a := a) n h
  rw [he, Alphabet.Lawful.value?_padding] at hv
  cases hv

theorem readLastGroup_eq_ok_iff [a.Lawful] {bs : Bytes} {values : List Nat} :
    readLastGroup a offset bs = .ok (values, 0) ↔
      (∀ n ∈ values, n < 64) ∧ bs = values.map a.symbol := by
  constructor
  · intro h
    simp only [readLastGroup] at h
    split at h
    · cases h
    · rename_i ns hns
      obtain ⟨hall, hmap⟩ := (mapM_symbolAt_eq_ok_iff 0).mp hns
      have happend := List.takeWhile_append_dropWhile (p := (· ≠ padding)) (l := bs)
      split at h
      · rename_i hrest
        cases h
        rw [List.isEmpty_iff.mp hrest, List.append_nil, hmap] at happend
        exact ⟨hall, happend.symm⟩
      split at h
      · cases h
      split at h
      · rename_i hrest _ _
        have hlength := congrArg Prod.snd (Except.ok.inj h)
        exact absurd (List.isEmpty_iff.mpr (List.eq_nil_of_length_eq_zero hlength)) hrest
      · cases h
  · rintro ⟨hall, rfl⟩
    have hsymbols : ∀ b ∈ values.map a.symbol, decide (b ≠ padding) = true := by
      intro b hb
      obtain ⟨n, hn, rfl⟩ := List.mem_map.mp hb
      exact decide_eq_true (symbol_ne_padding (hall n hn))
    simp only [readLastGroup]
    rw [List.takeWhile_eq_self_iff.mpr hsymbols, List.dropWhile_eq_nil_iff.mpr hsymbols,
      (mapM_symbolAt_eq_ok_iff 0).mpr ⟨hall, rfl⟩]
    rfl

theorem encode_of_lastBytes {last : UInt8} {values : List Nat} {bs : Bytes}
    (hall : ∀ n ∈ values, n < 64) (h : lastBytes offset last values = .ok bs) :
    encode a bs = values.map a.symbol := by
  unfold lastBytes at h
  split at h
  · split at h
    · rename_i v w hw
      cases h
      have hv : v < 64 := hall v (by simp)
      have hw64 : w < 64 := hall w (by simp)
      simp only [encode, List.map_cons, List.map_nil, UInt8.toNat_ofNat', List.cons.injEq, and_true]
      exact ⟨congrArg _ (by omega), congrArg _ (by omega)⟩
    · cases h
  · split at h
    · rename_i v w x hx
      cases h
      have hv : v < 64 := hall v (by simp)
      have hw64 : w < 64 := hall w (by simp)
      have hx64 : x < 64 := hall x (by simp)
      simp only [encode, List.map_cons, List.map_nil, UInt8.toNat_ofNat', List.cons.injEq, and_true]
      exact ⟨congrArg _ (by omega), congrArg _ (by omega), congrArg _ (by omega)⟩
    · cases h
  · rename_i v w x y
    cases h
    have hv : v < 64 := hall v (by simp)
    have hw64 : w < 64 := hall w (by simp)
    have hx64 : x < 64 := hall x (by simp)
    have hy64 : y < 64 := hall y (by simp)
    simp only [encode, List.map_cons, List.map_nil, UInt8.toNat_ofNat', List.cons.injEq, and_true]
    exact ⟨congrArg _ (by omega), congrArg _ (by omega), congrArg _ (by omega),
      congrArg _ (by omega)⟩
  · cases h

theorem decodeFrom_lastGroup [a.Lawful] (offset : Nat) (values : List Nat)
    (hall : ∀ n ∈ values, n < 64) (hlow : 2 ≤ values.length) (hhigh : values.length ≤ 4) :
    decodeFrom a offset (values.map a.symbol) =
      lastBytes offset (((values.map a.symbol).getLast?).getD 0) values := by
  rw [decodeFrom, readLastGroup_eq_ok_iff.mpr ⟨hall, rfl⟩]
  · simp only [bind, Except.bind, ne_eq, not_true_eq_false, if_false]
    rw [if_neg (by omega)]
  · intro w x y z next rest h
    have hlength := congrArg List.length h
    simp only [List.length_map, List.length_cons] at hlength
    omega
  · intro h
    rw [List.map_eq_nil_iff.mp h] at hlow
    cases hlow

end LastGroup

/-! ## Whole texts -/

section Whole

variable {a : Alphabet} [a.Lawful]

theorem symbolAt_symbol {offset n : Nat} (h : n < 64) :
    symbolAt a offset (a.symbol n) = .ok n :=
  symbolAt_eq_ok_iff.mpr (Alphabet.Lawful.value?_symbol n h)

theorem decodeFrom_encode (offset : Nat) (bs : Bytes) :
    decodeFrom a offset (encode a bs) = .ok bs := by
  induction bs using encode.induct generalizing offset with
  | case1 => rfl
  | case2 x =>
    have hx := x.toNat_lt
    have h := decodeFrom_lastGroup (a := a) offset [x.toNat / 4, x.toNat % 4 * 16]
      (by simp; omega) (by simp) (by simp)
    have h1 : x.toNat / 4 * 4 + x.toNat % 4 * 16 / 16 = x.toNat := by omega
    simp only [List.map_cons, List.map_nil] at h
    rw [encode, h, lastBytes, if_pos (by omega), h1, UInt8.ofNat_toNat]
  | case3 x y =>
    have hx := x.toNat_lt
    have hy := y.toNat_lt
    have h := decodeFrom_lastGroup (a := a) offset
      [x.toNat / 4, x.toNat % 4 * 16 + y.toNat / 16, y.toNat % 16 * 4]
      (by simp; omega) (by simp) (by simp)
    have h1 : x.toNat / 4 * 4 + (x.toNat % 4 * 16 + y.toNat / 16) / 16 = x.toNat := by omega
    have h2 : (x.toNat % 4 * 16 + y.toNat / 16) % 16 * 16 + y.toNat % 16 * 4 / 4 = y.toNat := by
      omega
    simp only [List.map_cons, List.map_nil] at h
    rw [encode, h, lastBytes, if_pos (by omega), h1, h2, UInt8.ofNat_toNat, UInt8.ofNat_toNat]
  | case4 x y z rest ih =>
    have hx := x.toNat_lt
    have hy := y.toNat_lt
    have hz := z.toNat_lt
    have h1 : x.toNat / 4 * 4 + (x.toNat % 4 * 16 + y.toNat / 16) / 16 = x.toNat := by omega
    have h2 : (x.toNat % 4 * 16 + y.toNat / 16) % 16 * 16 +
        (y.toNat % 16 * 4 + z.toNat / 64) / 4 = y.toNat := by
      omega
    have h3 : (y.toNat % 16 * 4 + z.toNat / 64) % 4 * 64 + z.toNat % 64 = z.toNat := by omega
    rw [encode]
    cases hrest : encode a rest with
    | nil =>
      have h := decodeFrom_lastGroup (a := a) offset
        [x.toNat / 4, x.toNat % 4 * 16 + y.toNat / 16, y.toNat % 16 * 4 + z.toNat / 64,
          z.toNat % 64]
        (by simp; omega) (by simp) (by simp)
      simp only [List.map_cons, List.map_nil] at h
      rw [h, lastBytes, h1, h2, h3, encode_eq_nil_iff.mp hrest, UInt8.ofNat_toNat,
        UInt8.ofNat_toNat, UInt8.ofNat_toNat]
    | cons next more =>
      have hmore := ih (offset + 4)
      rw [hrest] at hmore
      rw [decodeFrom, symbolAt_symbol (by omega), symbolAt_symbol (by omega),
        symbolAt_symbol (by omega), symbolAt_symbol (by omega), hmore]
      simp only [bind, Except.bind, pure, Except.pure, h1, h2, h3, UInt8.ofNat_toNat]

theorem encode_of_decodeFrom {offset : Nat} {cs bs : Bytes} (h : decodeFrom a offset cs = .ok bs) :
    encode a bs = cs := by
  induction offset, cs using decodeFrom.induct generalizing bs with
  | case1 offset w x y z next rest ih =>
    rw [decodeFrom] at h
    obtain ⟨v1, hw, h⟩ := bind_eq_ok_iff.mp h
    obtain ⟨v2, hx, h⟩ := bind_eq_ok_iff.mp h
    obtain ⟨v3, hy, h⟩ := bind_eq_ok_iff.mp h
    obtain ⟨v4, hz, h⟩ := bind_eq_ok_iff.mp h
    obtain ⟨more, hmore, h⟩ := bind_eq_ok_iff.mp h
    cases h
    obtain ⟨h1, rfl⟩ := Alphabet.symbol_of_value? (symbolAt_eq_ok_iff.mp hw)
    obtain ⟨h2, rfl⟩ := Alphabet.symbol_of_value? (symbolAt_eq_ok_iff.mp hx)
    obtain ⟨h3, rfl⟩ := Alphabet.symbol_of_value? (symbolAt_eq_ok_iff.mp hy)
    obtain ⟨h4, rfl⟩ := Alphabet.symbol_of_value? (symbolAt_eq_ok_iff.mp hz)
    rw [encode, ih hmore]
    simp only [UInt8.toNat_ofNat', List.cons.injEq, and_true]
    exact ⟨congrArg _ (by omega), congrArg _ (by omega), congrArg _ (by omega),
      congrArg _ (by omega)⟩
  | case2 => cases h; rfl
  | case3 offset group hlong hne =>
    rw [decodeFrom.eq_3 _ _ _ hlong hne] at h
    obtain ⟨⟨values, pads⟩, hlast, h⟩ := bind_eq_ok_iff.mp h
    simp only at h
    split at h
    · cases h
    split at h
    · cases h
    rename_i hpads
    rw [Decidable.not_not.mp hpads] at hlast
    obtain ⟨hall, hgroup⟩ := readLastGroup_eq_ok_iff.mp hlast
    rw [encode_of_lastBytes hall h, hgroup]

theorem decode_encode (bs : Bytes) : decode a (encode a bs) = .ok bs := by
  unfold decode
  split
  · rename_i last hlast
    obtain ⟨n, hn, rfl⟩ := mem_encode last (List.mem_of_getLast? hlast)
    rw [if_neg, decodeFrom_encode]
    rintro ⟨-, -, hvalue⟩
    rw [Alphabet.Lawful.value?_symbol n hn] at hvalue
    cases hvalue
  · rename_i hnone
    rw [encode_eq_nil_iff.mp (List.getLast?_eq_none_iff.mp hnone)]

theorem encode_of_decode {cs bs : Bytes} (h : decode a cs = .ok bs) : encode a bs = cs := by
  unfold decode at h
  split at h
  · split at h
    · cases h
    · exact encode_of_decodeFrom h
  · rename_i hnone
    cases h
    rw [List.getLast?_eq_none_iff.mp hnone]
    rfl

end Whole

end Showroom.Text.Base64
