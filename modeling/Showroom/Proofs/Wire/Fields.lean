import Showroom.Proofs.Wire.Records
import Showroom.Proofs.Wire.Settled

/-!
# Showroom.Proofs.Wire.Fields

Messages field by field. Taking in a field as it is written gives the field its value, and a field
that was left out has it already. A plain number that is a negative zero is left out like the
positive one, so that is what it becomes.

* `Lossless`: what has to hold of a type for its messages to arrive.
* `extend_natEntry` and its siblings: what the fields written for a value do to a message.
* `fits_natEntry` and its siblings: those fields fit where they are declared.
-/

namespace Showroom.Wire

/-- How many levels of messages there may be inside a message. -/
def MessageType.levels : MessageType → Nat
  | gpu | storage | screen | filter | uploadImageRequest => 1
  | laptop | searchLaptopRequest => 2
  | createLaptopRequest | searchLaptopResponse => 3
  | _ => 0

theorem MessageType.levels_le_depthLimit (type : MessageType) : type.levels ≤ depthLimit := by
  cases type <;> decide

/-- A type whose messages arrive: the fields written for a message fit its type and make up the
settled message, whatever fields come after them, and the same fields are written for that one. -/
class Lossless (α : Type) [Message α] [Settles α] : Prop where
  fits_entries : ∀ {depth : Nat} (m : α), (Message.type α).levels ≤ depth →
    ∀ e ∈ Message.entries m, Fits depth (Message.type α) e
  extend_entries : ∀ (m : α) (es : List Entry),
    extend Message.blank (Message.entries m ++ es) = extend (settled m) es
  entries_settled : ∀ m : α, Message.entries (settled m) = Message.entries m

export Lossless (fits_entries extend_entries entries_settled)

theorem extend_blank_entries {α : Type} [Message α] [Settles α] [Lossless α] (m : α) :
    extend Message.blank (Message.entries m) = settled m := by
  have h := extend_entries m []
  rw [List.append_nil] at h
  exact h

theorem decode_encode_of_lossless {α : Type} [Message α] [Settles α] [Lossless α] (m : α)
    (h : (encode m).length < UInt64.size) :
    decode α (encode m) = .ok (settled m) ∧ encode (settled m) = encode m := by
  have hfit : ∀ e ∈ Message.entries m, Fits depthLimit (Message.type α) e :=
    fits_entries m (MessageType.levels_le_depthLimit _)
  constructor
  · rw [decode, encode, readMessage_renderAll hfit h]
    simp only [bind, Except.bind, extend_blank_entries]
    rfl
  · rw [encode, encode, entries_settled]

/-! ## What a field does to a message -/

section Extend

variable {α : Type} [Message α] {m : α} {number : Nat} {es : List Entry}

theorem extend_cons (e : Entry) : extend m (e :: es) = extend (Message.add m e) es := rfl

theorem extend_natEntry {v : UInt64} (h : Message.add m (.varint number 0) = m) :
    extend m (natEntry number v ++ es) = extend (Message.add m (.varint number v)) es := by
  unfold natEntry
  split
  · rename_i hv
    rw [hv, h]
    rfl
  · rfl

theorem extend_codeEntry {code : Int32} (h : Message.add m (.varint number 0) = m) :
    extend m (codeEntry number code ++ es) =
      extend (Message.add m (.varint number code.toInt64.toUInt64)) es :=
  extend_natEntry h

theorem extend_flagEntry {flag : Bool} (h : Message.add m (.varint number 0) = m) :
    extend m (flagEntry number flag ++ es) =
      extend (Message.add m (.varint number (if flag then 1 else 0))) es := by
  unfold flagEntry
  split
  · rfl
  · rw [h]
    rfl

theorem extend_doubleEntry {x : Binary64} (h : Message.add m (.fixed64 number 0) = m) :
    extend m (doubleEntry number x ++ es) =
      extend (Message.add m (.fixed64 number x.settled.bits)) es := by
  unfold doubleEntry Binary64.settled
  split
  · rw [Binary64.zero, h]
    rfl
  · rfl

theorem extend_textEntry {s : String} (h : Message.add m (.text number "") = m) :
    extend m (textEntry number s ++ es) = extend (Message.add m (.text number s)) es := by
  unfold textEntry
  split
  · rename_i hs
    rw [hs, h]
    rfl
  · rfl

variable {β : Type} [Message β] [Settles β] [Lossless β]

theorem extend_partEntry {part : Option β} (set : α → Option β → α) (hnone : set m none = m)
    (hsome : ∀ fields, Message.add m (.message number fields) =
      set m (some (extend Message.blank fields))) :
    extend m (partEntry number part ++ es) = extend (set m (part.map settled)) es := by
  cases part with
  | none =>
    rw [Option.map_none, hnone]
    rfl
  | some b =>
    rw [Option.map_some, ← extend_blank_entries b, ← hsome]
    rfl

/-- There are no repeated parts before their fields, each of which adds one at the end. -/
theorem extend_partEntries {parts : List β} (set : α → List β → α) (hnil : set m [] = m)
    (hadd : ∀ bs fields, Message.add (set m bs) (.message number fields) =
      set m (bs ++ [extend Message.blank fields])) :
    extend m (partEntries number parts ++ es) = extend (set m (parts.map settled)) es := by
  have hbefore : ∀ before, extend (set m before) (partEntries number parts ++ es) =
      extend (set m (before ++ parts.map settled)) es := by
    induction parts with
    | nil => simp [partEntries]
    | cons b parts ih =>
      intro before
      have hb := hadd before (Message.entries b)
      rw [extend_blank_entries] at hb
      rw [partEntries, List.map_cons, List.cons_append, extend_cons, hb]
      rw [partEntries] at ih
      rw [ih, List.append_assoc]
      rfl
  have h := hbefore []
  rwa [hnil] at h

end Extend

theorem codeOf_toUInt64 (code : Int32) : codeOf code.toInt64.toUInt64 = code := by
  unfold codeOf
  apply Int32.toBitVec_inj.mp
  apply BitVec.eq_of_getLsbD_eq
  intro i hi
  simp [BitVec.getLsbD_signExtend, hi]
  omega

/-! ## Written fields fit -/

section Fits

variable {depth : Nat} {type : MessageType} {number : Nat} {name : String}

theorem fits_natEntry {v : UInt64} (h : type.field? number = some ⟨name, .varint⟩) :
    ∀ e ∈ natEntry number v, Fits depth type e := by
  unfold natEntry
  split
  · simp
  · simp [Fits, h]

theorem fits_codeEntry {code : Int32} (h : type.field? number = some ⟨name, .varint⟩) :
    ∀ e ∈ codeEntry number code, Fits depth type e :=
  fits_natEntry h

theorem fits_flagEntry {flag : Bool} (h : type.field? number = some ⟨name, .varint⟩) :
    ∀ e ∈ flagEntry number flag, Fits depth type e := by
  unfold flagEntry
  split
  · simp [Fits, h]
  · simp

theorem fits_doubleEntry {x : Binary64} (h : type.field? number = some ⟨name, .fixed64⟩) :
    ∀ e ∈ doubleEntry number x, Fits depth type e := by
  unfold doubleEntry
  split
  · simp
  · simp [Fits, h]

theorem fits_textEntry {s : String} (h : type.field? number = some ⟨name, .text⟩) :
    ∀ e ∈ textEntry number s, Fits depth type e := by
  unfold textEntry
  split
  · simp
  · simp [Fits, h]

variable {β : Type} [Message β] [Settles β] [Lossless β]

theorem fits_message (h : type.field? number = some ⟨name, .message (Message.type β)⟩)
    (hlevels : (Message.type β).levels < depth) (b : β) :
    Fits depth type (.message number (Message.entries b)) := by
  cases depth with
  | zero => omega
  | succ depth =>
    simp only [Fits]
    exact ⟨name, Message.type β, h, fits_entries b (Nat.lt_succ_iff.mp hlevels)⟩

theorem fits_partEntry {part : Option β}
    (h : type.field? number = some ⟨name, .message (Message.type β)⟩)
    (hlevels : (Message.type β).levels < depth) :
    ∀ e ∈ partEntry number part, Fits depth type e := by
  cases part with
  | none => simp [partEntry]
  | some b =>
    intro e he
    rw [List.mem_singleton.mp he]
    exact fits_message h hlevels b

theorem fits_partEntries {parts : List β}
    (h : type.field? number = some ⟨name, .message (Message.type β)⟩)
    (hlevels : (Message.type β).levels < depth) :
    ∀ e ∈ partEntries number parts, Fits depth type e := by
  intro e he
  obtain ⟨b, _, rfl⟩ := List.mem_map.mp he
  exact fits_message h hlevels b

end Fits

/-! ## Settled values are written the same -/

theorem doubleEntry_settled (number : Nat) (x : Binary64) :
    doubleEntry number x.settled = doubleEntry number x := by
  rw [doubleEntry, doubleEntry, x.isZero_settled]
  split
  · rfl
  · rename_i h
    rw [Binary64.settled, if_neg h]

section Settled

variable {β : Type} [Message β] [Settles β] [Lossless β]

theorem partEntry_settled (number : Nat) (part : Option β) :
    partEntry number (part.map settled) = partEntry number part := by
  cases part with
  | none => rfl
  | some b => simp only [Option.map_some, partEntry, entries_settled]

theorem partEntries_settled (number : Nat) (parts : List β) :
    partEntries number (parts.map settled) = partEntries number parts := by
  simp [partEntries, Function.comp_def, entries_settled]

end Settled

end Showroom.Wire
