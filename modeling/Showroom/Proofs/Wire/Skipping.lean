import Showroom.Proofs.Wire.Concatenation
import Showroom.Proofs.Wire.Forms

/-!
# Showroom.Proofs.Wire.Skipping

Records that a message type does not declare. The reader skips what is a complete value of its wire
type, neither more nor less; a group is complete if there are complete records up to its own end,
each of them one level further down. Skipping leaves no trace: what is read after a skipped record is
read as if the record were not there, and so is what cannot be read.

* `IsValue`: complete values, for each wire type and so many levels.
* `skip_eq_ok_iff`: what is skipped.
* `decode_append_unknown`: a message with a record that its type does not declare.
-/

namespace Showroom.Wire

/-! ## Complete values -/

/-- Whether bytes are the key of a record and then its value, where `holds` tells the values. -/
def IsRecord (holds : WireType → Nat → Bytes → Prop) (bs : Bytes) : Prop :=
  ∃ number wire key value, bs = key ++ value ∧ IsKey number wire key ∧ holds wire number value

/-- Whether bytes are all of the value of a record with this wire type and number, if there are so
many levels for it. The value of a group is complete records, then the key of its end. -/
def IsValue : (depth : Nat) → WireType → (number : Nat) → Bytes → Prop
  | 0, _, _, _ => False
  | _ + 1, .varint, _, bs => ∃ n, IsVarint n bs
  | _ + 1, .sixtyFourBit, _, bs => bs.length = 8
  | _ + 1, .lengthDelimited, _, bs => ∃ payload, IsDelimited payload bs
  | depth + 1, .startGroup, number, bs =>
    ∃ (records : List Bytes) (last : Bytes), bs = records.flatten ++ last ∧
      (∀ record ∈ records, IsRecord (IsValue depth) record) ∧ IsKey number .endGroup last
  | _ + 1, .endGroup, _, _ => False
  | _ + 1, .thirtyTwoBit, _, bs => bs.length = 4

/-! ## Skipping them -/

section Group

variable {skipValue : WireType → Nat → Bytes → Except Fault Bytes}
  {holds : WireType → Nat → Bytes → Prop} {number : Nat}

theorem skipGroup_records
    (hskip : ∀ wire number value rest, holds wire number value →
      skipValue wire number (value ++ rest) = .ok rest)
    (hend : ∀ number value, ¬ holds .endGroup number value)
    {records : List Bytes} (hrecords : ∀ record ∈ records, IsRecord holds record) {last : Bytes}
    (hlast : IsKey number .endGroup last) (rest : Bytes) {fuel : Nat}
    (hfuel : (records.flatten ++ last).length ≤ fuel) :
    skipGroup skipValue number fuel (records.flatten ++ last ++ rest) = .ok rest := by
  -- By induction on the records.
  induction records generalizing fuel with
  | nil =>
    have hpos := hlast.length_pos
    rw [List.flatten_nil, List.nil_append] at hfuel ⊢
    obtain ⟨left, rfl⟩ : ∃ left, fuel = left + 1 := ⟨fuel - 1, by omega⟩
    exact skipGroup_succ_eq_ok_iff.mpr
      ⟨number, .endGroup, rest, hlast.read rest, .inl ⟨rfl, rfl, rfl⟩⟩
  | cons record records ih =>
    obtain ⟨⟨inner, wire, key, value, rfl, hkey, hvalue⟩, hlater⟩ := List.forall_mem_cons.mp hrecords
    have hpos := hkey.length_pos
    simp only [List.flatten_cons, List.length_append, List.append_assoc] at hfuel ⊢
    obtain ⟨left, rfl⟩ : ∃ left, fuel = left + 1 := ⟨fuel - 1, by omega⟩
    have hmore : skipGroup skipValue number left (records.flatten ++ last ++ rest) = .ok rest :=
      ih hlater (by simp only [List.length_append]; omega)
    rw [List.append_assoc] at hmore
    have hwire : wire ≠ .endGroup := by
      rintro rfl
      exact hend inner value hvalue
    exact skipGroup_succ_eq_ok_iff.mpr
      ⟨inner, wire, _, hkey.read _, .inr ⟨hwire, _, hskip wire inner value _ hvalue, hmore⟩⟩

theorem records_of_skipGroup
    (hskip : ∀ wire number bs rest, skipValue wire number bs = .ok rest →
      ∃ value, bs = value ++ rest ∧ holds wire number value)
    {fuel : Nat} {bs rest : Bytes} (h : skipGroup skipValue number fuel bs = .ok rest) :
    ∃ (records : List Bytes) (last : Bytes), bs = records.flatten ++ last ++ rest ∧
      (∀ record ∈ records, IsRecord holds record) ∧ IsKey number .endGroup last := by
  -- By induction on the turns.
  induction fuel generalizing bs with
  | zero => cases h
  | succ fuel ih =>
    obtain ⟨inner, wire, middle, hread, hthen⟩ := skipGroup_succ_eq_ok_iff.mp h
    obtain ⟨key, rfl, hkey⟩ := readKey_eq_ok_iff.mp hread
    rcases hthen with ⟨rfl, rfl, rfl⟩ | ⟨_, after, hfirst, hmore⟩
    · exact ⟨[], key, rfl, by simp, hkey⟩
    · obtain ⟨value, rfl, hvalue⟩ := hskip wire inner _ _ hfirst
      obtain ⟨records, last, rfl, hrecords, hlast⟩ := ih hmore
      refine ⟨(key ++ value) :: records, last, by simp, ?_, hlast⟩
      intro record hrecord
      rcases List.mem_cons.mp hrecord with rfl | hrecord
      · exact ⟨inner, wire, key, value, rfl, hkey, hvalue⟩
      · exact hrecords record hrecord

end Group

theorem not_isValue_endGroup (depth number : Nat) (value : Bytes) :
    ¬ IsValue depth .endGroup number value := by
  cases depth <;> simp [IsValue]

theorem bind_snd_eq_ok_iff {α : Type} {x : Except Fault (α × Bytes)} {rest : Bytes} :
    (x >>= fun p => pure p.2) = .ok rest ↔ ∃ a, x = .ok (a, rest) := by
  rw [bind_eq_ok_iff]
  constructor
  · rintro ⟨⟨a, after⟩, hx, h⟩
    cases h
    exact ⟨a, hx⟩
  · rintro ⟨a, hx⟩
    exact ⟨(a, rest), hx, rfl⟩

theorem exists_take_eq_ok_iff {n : Nat} {bs rest : Bytes} :
    (∃ taken, take n bs = .ok (taken, rest)) ↔
      ∃ value, bs = value ++ rest ∧ value.length = n := by
  simp only [take_eq_ok_iff]
  constructor
  · rintro ⟨taken, hlen, hbs⟩
    exact ⟨taken, hbs, hlen⟩
  · rintro ⟨value, hbs, hlen⟩
    exact ⟨value, hlen, hbs⟩

/-- **What is skipped** is a complete value, whatever comes behind it. -/
theorem skip_eq_ok_iff {depth : Nat} {wire : WireType} {number : Nat} {bs rest : Bytes} :
    skip depth wire number bs = .ok rest ↔
      ∃ value, bs = value ++ rest ∧ IsValue depth wire number value := by
  -- By induction on the levels: the records of a group are one level further down.
  induction depth generalizing wire number bs rest with
  | zero => simp [skip, IsValue]
  | succ depth ih =>
    cases wire with
    | varint =>
      rw [skip, bind_snd_eq_ok_iff]
      simp only [readVarint_eq_ok_iff_isVarint, IsValue]
      constructor
      · rintro ⟨n, form, hbs, hform⟩
        exact ⟨form, hbs, n, hform⟩
      · rintro ⟨form, hbs, n, hform⟩
        exact ⟨n, form, hbs, hform⟩
    | sixtyFourBit =>
      rw [skip, bind_snd_eq_ok_iff, exists_take_eq_ok_iff]
      simp only [IsValue]
    | lengthDelimited =>
      rw [skip, bind_snd_eq_ok_iff]
      simp only [readDelimited_eq_ok_iff_isDelimited, IsValue]
      constructor
      · rintro ⟨payload, form, hbs, hform⟩
        exact ⟨form, hbs, payload, hform⟩
      · rintro ⟨form, hbs, payload, hform⟩
        exact ⟨payload, form, hbs, hform⟩
    | startGroup =>
      simp only [skip, IsValue]
      constructor
      · intro h
        have hskip : ∀ wire number bs rest, skip depth wire number bs = .ok rest →
            ∃ value, bs = value ++ rest ∧ IsValue depth wire number value :=
          fun _ _ _ _ => ih.mp
        obtain ⟨records, last, hbs, hrecords, hlast⟩ := records_of_skipGroup hskip h
        exact ⟨records.flatten ++ last, hbs, records, last, rfl, hrecords, hlast⟩
      · rintro ⟨value, rfl, records, last, rfl, hrecords, hlast⟩
        have hskip : ∀ wire number value rest, IsValue depth wire number value →
            skip depth wire number (value ++ rest) = .ok rest :=
          fun _ _ value _ hvalue => ih.mpr ⟨value, rfl, hvalue⟩
        -- There is a turn for each byte, those behind the group included.
        refine skipGroup_records hskip (not_isValue_endGroup depth) hrecords hlast rest ?_
        simp only [List.length_append]
        omega
    | endGroup => simp [skip, IsValue]
    | thirtyTwoBit =>
      rw [skip, bind_snd_eq_ok_iff, exists_take_eq_ok_iff]
      simp only [IsValue]

/-! ## Messages with records that are not declared -/

theorem readRecord_unknown {depth : Nat} {type : MessageType} {number : Nat} {wire : WireType}
    {key value : Bytes} (undeclared : type.field? number = none) (hkey : IsKey number wire key)
    (hvalue : IsValue depth wire number value) (rest : Bytes) :
    readRecord depth type (key ++ value ++ rest) = .ok ([], rest) := by
  have hskip : skip depth wire number (value ++ rest) = .ok rest :=
    skip_eq_ok_iff.mpr ⟨value, rfl, hvalue⟩
  rw [List.append_assoc]
  exact readRecord_eq_ok_iff.mpr
    ⟨number, wire, value ++ rest, hkey.read _, .inl ⟨undeclared, rfl, hskip⟩⟩

/-- **Unknown records leave no trace.** Behind a message of any type, a complete record whose number
the type does not declare makes no difference to what is read, nor to the fault if the bytes after it
cannot be read. -/
theorem decode_append_unknown (type : MessageType) {p : Bytes} {m : type.Value}
    (read : decode type.Value p = .ok m) {number : Nat} {wire : WireType} {key value : Bytes}
    (undeclared : type.field? number = none) (hkey : IsKey number wire key)
    (complete : IsValue depthLimit wire number value) (s : Bytes) :
    decode type.Value (p ++ (key ++ value) ++ s) = decode type.Value (p ++ s) := by
  have hunknown : (Message.type type.Value).field? number = none := by
    rw [Message.type_value, undeclared]
  have hrecord : readRecord depthLimit (Message.type type.Value) (key ++ value ++ s) = .ok ([], s) :=
    readRecord_unknown hunknown hkey complete s
  rw [List.append_assoc, decode_append read, decode_append read, merge_of_readRecord hrecord]
  rfl

/-- Behind the value 5, a group 3 with a group 1 in it, which holds the number 5 in three groups of
bits; then the value 7. -/
theorem decode_append_unknown_group :
    decode MessageType.memory.Value [8, 5] = .ok (⟨5, 0⟩ : Memory) ∧
      MessageType.memory.field? 3 = none ∧ IsKey 3 .startGroup [27] ∧
      IsValue depthLimit .startGroup 3 [11, 16, 133, 128, 0, 12, 28] ∧
      decode MessageType.memory.Value
          ([8, 5] ++ ([27] ++ [11, 16, 133, 128, 0, 12, 28]) ++ [8, 7]) =
        decode MessageType.memory.Value ([8, 5] ++ [8, 7]) := by
  have hkey (number : Nat) (wire : WireType) (hpos : 1 ≤ number)
      (hsmall : 8 * number + wire.code < 128) :
      IsKey number wire [UInt8.ofNat (8 * number + wire.code)] := by
    have hform := isKey_key wire hpos (Nat.lt_trans hsmall (by decide))
    rw [Entry.key, Varint.render, if_pos hsmall] at hform
    exact hform
  have hfive : IsVarint 5 [133, 128, 0] := by
    have hlast : Varint.Spells 0 [0] := .last (b := 0) (by decide)
    have hmiddle : Varint.Spells 0 [128, 0] := .more (b := 128) (by decide) hlast
    exact ⟨.more (b := 133) (by decide) hmiddle, by decide, by decide⟩
  have hinner : IsValue 99 .startGroup 1 [16, 133, 128, 0, 12] := by
    refine ⟨[[16, 133, 128, 0]], [12], rfl, ?_, hkey 1 .endGroup (by decide) (by decide)⟩
    intro record hrecord
    obtain rfl := List.mem_singleton.mp hrecord
    exact ⟨2, .varint, [16], _, rfl, hkey 2 .varint (by decide) (by decide), 5, hfive⟩
  have hgroup : IsValue depthLimit .startGroup 3 [11, 16, 133, 128, 0, 12, 28] := by
    refine ⟨[[11, 16, 133, 128, 0, 12]], [28], rfl, ?_, hkey 3 .endGroup (by decide) (by decide)⟩
    intro record hrecord
    obtain rfl := List.mem_singleton.mp hrecord
    exact ⟨1, .startGroup, [11], _, rfl, hkey 1 .startGroup (by decide) (by decide), hinner⟩
  have hread : decode Memory [8, 5] = .ok ⟨5, 0⟩ := eq_ok_of_toOption (by decide +kernel)
  have hthree : IsKey 3 .startGroup [27] := hkey 3 .startGroup (by decide) (by decide)
  exact ⟨hread, rfl, hthree, hgroup, decode_append_unknown .memory hread rfl hthree hgroup [8, 7]⟩

end Showroom.Wire
