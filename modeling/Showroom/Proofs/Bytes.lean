import Showroom.Bytes

/-!
# Showroom.Proofs.Bytes

Text and numbers as bytes, and back. A text is the only one with its UTF-8 form, and a number of a
given width the only one with its bytes.

* `toText?_eq_some_iff`: bytes read as a text exactly when they are its UTF-8 form.
* `toNatLE_littleEndian`: the bytes of a number that fits its width stand for it.
-/

namespace Showroom
namespace Bytes

theorem toText?_ofText (s : String) : toText? (ofText s) = some s := by
  have hs : (⟨(ofText s).toArray⟩ : ByteArray) = s.toUTF8 := rfl
  rw [toText?, hs, String.fromUTF8?, dif_pos (show s.toUTF8.IsValidUTF8 from s.isValidUTF8)]
  rfl

theorem toText?_eq_some_iff {bs : Bytes} {s : String} : toText? bs = some s ↔ bs = ofText s := by
  constructor
  · intro h
    rw [toText?, String.fromUTF8?] at h
    split at h
    · cases h
      rfl
    · cases h
  · rintro rfl
    exact toText?_ofText s

theorem ofText_inj {s t : String} (h : ofText s = ofText t) : s = t := by
  have ht := toText?_ofText t
  rw [← h, toText?_ofText] at ht
  exact Option.some.inj ht

theorem toNat_char (b : UInt8) : (Char.ofNat b.toNat).toNat = b.toNat := by
  have hb : b.toNat < 256 := b.toNat_lt
  rw [Char.ofNat, dif_pos (Or.inl (by omega))]
  rfl

theorem char_eq_iff {b : UInt8} {c : Char} : Char.ofNat b.toNat = c ↔ b.toNat = c.toNat := by
  rw [← Char.toNat_inj, toNat_char]

theorem ofText_ofList (cs : List Char) :
    ofText (String.ofList cs) = cs.flatMap String.utf8EncodeChar := by
  simp [ofText, List.utf8Encode]

theorem ofText_ascii {cs : List Char} (h : ∀ c ∈ cs, c.toNat < 128) :
    ofText (String.ofList cs) = cs.map fun c => UInt8.ofNat c.toNat := by
  rw [ofText_ofList]
  induction cs with
  | nil => rfl
  | cons c cs ih =>
    obtain ⟨hc, hcs⟩ := List.forall_mem_cons.mp h
    have hval : c.val.toNat ≤ 127 := Nat.lt_succ_iff.mp hc
    rw [List.flatMap_cons, List.map_cons, ih hcs, String.utf8EncodeChar, if_pos hval]
    rfl

theorem length_ofText (s : String) : (ofText s).length = s.utf8ByteSize := rfl

theorem utf8ByteSize_of_ascii {s : String} (h : ∀ c ∈ s.toList, c.toNat < 128) :
    s.utf8ByteSize = s.toList.length := by
  have hbytes := ofText_ascii h
  rw [String.ofList_toList] at hbytes
  rw [← length_ofText, hbytes, List.length_map]

theorem ofText_map_char {bs : Bytes} (h : ∀ b ∈ bs, b.toNat < 128) :
    ofText (String.ofList (bs.map fun b => Char.ofNat b.toNat)) = bs := by
  rw [ofText_ascii, List.map_map]
  · calc bs.map ((fun c => UInt8.ofNat c.toNat) ∘ fun b => Char.ofNat b.toNat)
        = bs.map id := List.map_congr_left fun b _ => by simp [toNat_char]
      _ = bs := List.map_id bs
  · intro c hc
    obtain ⟨b, hb, rfl⟩ := List.mem_map.mp hc
    rw [toNat_char]
    exact h b hb

theorem exists_text_of_ascii {bs : Bytes} (h : ∀ b ∈ bs, b.toNat < 128) :
    ∃ s, ofText s = bs :=
  ⟨_, ofText_map_char h⟩

/-! ## Numbers -/

theorem length_littleEndian (width n : Nat) : (littleEndian width n).length = width := by
  induction width generalizing n with
  | zero => rfl
  | succ width ih => simp [littleEndian, ih]

theorem toNatLE_littleEndian {width n : Nat} (h : n < Nat.pow 256 width) :
    toNatLE (littleEndian width n) = n := by
  induction width generalizing n with
  | zero =>
    have : n = 0 := Nat.lt_one_iff.mp h
    simp [littleEndian, toNatLE, this]
  | succ width ih =>
    have hd : n / 256 < Nat.pow 256 width := Nat.div_lt_of_lt_mul (by
      rw [Nat.mul_comm]
      exact h)
    simp only [littleEndian, toNatLE, ih hd, UInt8.toNat_ofNat']
    omega

theorem ofNat_toNatLE_eight (n : UInt64) :
    UInt64.ofNat (toNatLE (littleEndian 8 n.toNat)) = n := by
  have h : n.toNat < Nat.pow 256 8 := n.toNat_lt
  rw [toNatLE_littleEndian h, UInt64.ofNat_toNat]

theorem ofNat_toNatLE_four (n : UInt32) :
    UInt32.ofNat (toNatLE (littleEndian 4 n.toNat)) = n := by
  have h : n.toNat < Nat.pow 256 4 := n.toNat_lt
  rw [toNatLE_littleEndian h, UInt32.ofNat_toNat]

end Bytes
end Showroom
