import Showroom.Proofs.Except
import Showroom.Proofs.Wire.Records
import Showroom.Proofs.Wire.Settled

/-!
# Showroom.Proofs.Wire.Slices

Reading nested messages in place is reading them by themselves. The reader takes the fields of a
nested message from all the bytes that follow and only afterwards compares where they ended with the
announced length. Beside it stands a reader that first cuts out the announced bytes, which have to
lie within the message around them, and reads those alone. The two accept the same bytes with the
same values.

What carries the proof is that whatever is read successfully depends only on the bytes that it used
up (`Frontal`): they may be followed by anything.

* `cutMessage`, `decodeCut`: the reader by slices.
* `readRecord_eq_cutRecord`: one record, by induction on the levels below it.
* `decode_eq_decodeCut`: all of a message.
-/

namespace Showroom.Wire

/-! ## The reader by slices -/

/-- The fields that fill a slice exactly, each read with `cutOne`. There are never more of them than
bytes, so `fuel` is the length of the slice. -/
def cutRecords (cutOne : Bytes → Except Fault (List Entry × Bytes)) :
    (fuel : Nat) → Bytes → Except Fault (List Entry)
  | _, [] => .ok []
  | 0, _ :: _ => .error { cause := .tooFewBytes }
  | fuel + 1, bs => do
    let (entries, rest) ← cutOne bs
    return entries ++ (← cutRecords cutOne fuel rest)

/-- The fields of a nested message after its length. All its bytes have to be there; they are cut
out and read alone. -/
def cutNested (cutOne : Bytes → Except Fault (List Entry × Bytes)) (bs : Bytes) :
    Except Fault (List Entry × Bytes) := do
  let (slice, rest) ← readDelimited bs
  return (← cutRecords cutOne slice.length slice, rest)

/-- The next record of a slice. The messages in it take up one level each. -/
def cutRecord (depth : Nat) (type : MessageType) (bs : Bytes) :
    Except Fault (List Entry × Bytes) := do
  let ((number, wire), rest) ← readKey bs
  match type.field? number with
  | none => return ([], ← skip depth wire number rest)
  | some field =>
    if wire ≠ field.kind.wire then .error { cause := .wrongWireType wire field.kind.wire }
    else do
      let cutInner (inner : MessageType) (bs : Bytes) : Except Fault (List Entry × Bytes) :=
        match depth with
        | 0 => .error { cause := .tooDeep }
        | depth + 1 => cutNested (cutRecord depth inner) bs
      let (entry, rest) ← readValue cutInner number field.kind rest
      return ([entry], rest)

/-- The fields of a message, every nested message read from its slice. -/
def cutMessage (type : MessageType) (bs : Bytes) : Except Fault (List Entry) :=
  cutRecords (cutRecord depthLimit type) bs.length bs

def decodeCut (α : Type) [Message α] (bs : Bytes) : Except Fault α := do
  return extend Message.blank (← cutMessage (Message.type α) bs)

/-! ## What is read depends on the bytes used up -/

/-- Whether going from some bytes to what is left of them takes at least one byte off their front,
and does the same whatever is left. -/
def Frontal (R : Bytes → Bytes → Prop) : Prop :=
  ∀ ⦃bs rest⦄, R bs rest → ∃ front, front ≠ [] ∧ bs = front ++ rest ∧ ∀ tail, R (front ++ tail) tail

namespace Frontal

variable {α γ : Type} {R S : Bytes → Bytes → Prop}

theorem of_iff (hS : Frontal S) (h : ∀ bs rest, R bs rest ↔ S bs rest) : Frontal R := by
  intro bs rest hr
  obtain ⟨front, hne, rfl, hall⟩ := hS ((h _ _).mp hr)
  exact ⟨front, hne, rfl, fun tail => (h _ _).mpr (hall tail)⟩

theorem bind {read : Bytes → Except Fault (α × Bytes)} {f : α × Bytes → Except Fault γ}
    {g : Bytes → γ} (h : ∀ a, Frontal fun bs rest => read bs = .ok (a, rest))
    (hf : ∀ a, Frontal fun middle rest => f (a, middle) = .ok (g rest)) :
    Frontal fun bs rest => (read bs >>= f) = .ok (g rest) := by
  intro bs rest hb
  obtain ⟨⟨a, middle⟩, hread, hthen⟩ := bind_eq_ok_iff.mp hb
  obtain ⟨front, hne, rfl, hall⟩ := h a hread
  obtain ⟨next, -, rfl, hnext⟩ := hf a hthen
  refine ⟨front ++ next, by simp [hne], by rw [List.append_assoc], fun tail => ?_⟩
  refine bind_eq_ok_iff.mpr ⟨(a, next ++ tail), ?_, hnext tail⟩
  rw [List.append_assoc]
  exact hall (next ++ tail)

theorem bind_value {read : Bytes → Except Fault (α × Bytes)} {f : α × Bytes → Except Fault γ}
    {g : Bytes → γ} (h : ∀ a, Frontal fun bs rest => read bs = .ok (a, rest))
    (hf : ∀ a middle rest, f (a, middle) = .ok (g rest) →
      middle = rest ∧ ∀ tail, f (a, tail) = .ok (g tail)) :
    Frontal fun bs rest => (read bs >>= f) = .ok (g rest) := by
  intro bs rest hb
  obtain ⟨⟨a, middle⟩, hread, hthen⟩ := bind_eq_ok_iff.mp hb
  obtain ⟨rfl, hvalue⟩ := hf a middle rest hthen
  obtain ⟨front, hne, rfl, hall⟩ := h a hread
  exact ⟨front, hne, rfl, fun tail => bind_eq_ok_iff.mpr ⟨(a, tail), hall tail, hvalue tail⟩⟩

theorem length_lt (hR : Frontal R) {bs rest : Bytes} (h : R bs rest) : rest.length < bs.length := by
  obtain ⟨front, hne, rfl, -⟩ := hR h
  have := List.length_pos_iff.mpr hne
  rw [List.length_append]
  omega

theorem append (hR : Frontal R) {bs rest : Bytes} (h : R bs rest) (tail : Bytes) :
    R (bs ++ tail) (rest ++ tail) := by
  obtain ⟨front, -, rfl, hall⟩ := hR h
  rw [List.append_assoc]
  exact hall (rest ++ tail)

theorem of_append (hR : Frontal R) {bs rest tail : Bytes} (h : R (bs ++ tail) (rest ++ tail)) :
    R bs rest := by
  obtain ⟨front, -, heq, hall⟩ := hR h
  rw [← List.append_assoc] at heq
  rw [List.append_cancel_right heq]
  exact hall rest

end Frontal

theorem frontal_readGroups {left n : Nat} :
    Frontal fun bs rest => Varint.readGroups left bs = some (n, rest) := by
  induction left generalizing n with
  | zero =>
    intro bs rest h
    cases h
  | succ left ih =>
    intro bs rest h
    cases bs with
    | nil => cases h
    | cons b bs =>
      simp only [Varint.readGroups] at h
      split at h
      · rename_i hb
        split at h
        · cases h
        · rename_i hlast
          cases h
          refine ⟨[b], by simp, rfl, fun tail => ?_⟩
          simp [Varint.readGroups, hb, hlast]
      · rename_i hb
        split at h
        · rename_i high after hread
          cases h
          obtain ⟨front, -, rfl, hall⟩ := ih hread
          refine ⟨b :: front, by simp, rfl, fun tail => ?_⟩
          simp only [List.cons_append, Varint.readGroups, if_neg hb, hall tail]
        · cases h

theorem readVarint_eq_ok_iff {bs : Bytes} {r : Nat × Bytes} :
    readVarint bs = .ok r ↔ Varint.read bs = some r := by
  rw [readVarint]
  cases Varint.read bs <;> simp

theorem frontal_readVarint (n : Nat) : Frontal fun bs rest => readVarint bs = .ok (n, rest) := by
  have hread : Frontal fun bs rest => Varint.read bs = some (n, rest) := frontal_readGroups
  exact hread.of_iff fun bs rest => readVarint_eq_ok_iff

theorem frontal_readKey (key : Nat × WireType) :
    Frontal fun bs rest => readKey bs = .ok (key, rest) := by
  refine Frontal.bind_value frontal_readVarint fun n middle rest h => ?_
  obtain ⟨hsize, h⟩ := ite_throw_eq_ok_iff.mp h
  cases hw : WireType.ofCode? (n % 8) with
  | none =>
    rw [hw] at h
    cases h
  | some wire =>
    rw [hw] at h
    obtain ⟨hnumber, h⟩ := ite_throw_eq_ok_iff.mp h
    cases h
    refine ⟨rfl, fun tail => ?_⟩
    simp only [hw]
    exact ite_throw_eq_ok_iff.mpr ⟨hsize, ite_throw_eq_ok_iff.mpr ⟨hnumber, rfl⟩⟩

theorem take_eq_ok_iff {n : Nat} {bs taken rest : Bytes} :
    take n bs = .ok (taken, rest) ↔ taken.length = n ∧ bs = taken ++ rest := by
  rw [take]
  split
  · rename_i hshort
    simp only [reduceCtorEq, false_iff]
    rintro ⟨rfl, rfl⟩
    rw [List.length_append] at hshort
    omega
  · rename_i hlong
    rw [List.splitAt_eq, Except.ok.injEq, Prod.mk.injEq]
    constructor
    · rintro ⟨rfl, rfl⟩
      simp
      omega
    · rintro ⟨rfl, rfl⟩
      simp

theorem frontal_take {n : Nat} (hn : 0 < n) (taken : Bytes) :
    Frontal fun bs rest => take n bs = .ok (taken, rest) := by
  intro bs rest h
  obtain ⟨hlen, hbs⟩ := take_eq_ok_iff.mp h
  exact ⟨taken, List.length_pos_iff.mp (by omega), hbs, fun tail => take_eq_ok_iff.mpr ⟨hlen, rfl⟩⟩

theorem readDelimited_eq_ok_iff {bs slice rest : Bytes} :
    readDelimited bs = .ok (slice, rest) ↔ readVarint bs = .ok (slice.length, slice ++ rest) := by
  rw [readDelimited, bind_eq_ok_iff]
  constructor
  · rintro ⟨⟨n, middle⟩, hlength, h⟩
    obtain ⟨⟨n', middle'⟩, hv, hlength⟩ := bind_eq_ok_iff.mp hlength
    obtain ⟨hlong, hlength⟩ := ite_throw_eq_ok_iff.mp hlength
    cases hlength
    have hsplit : take n middle = .ok (slice, rest) := by
      rw [take, if_neg hlong]
      exact h
    obtain ⟨rfl, rfl⟩ := take_eq_ok_iff.mp hsplit
    exact hv
  · intro hv
    refine ⟨(slice.length, slice ++ rest), ?_, ?_⟩
    · refine bind_eq_ok_iff.mpr ⟨_, hv, ite_throw_eq_ok_iff.mpr ⟨by simp, rfl⟩⟩
    · simp [List.splitAt_eq]
      rfl

theorem frontal_readDelimited (slice : Bytes) :
    Frontal fun bs rest => readDelimited bs = .ok (slice, rest) := by
  intro bs rest h
  obtain ⟨front, hne, rfl, hall⟩ := frontal_readVarint _ (readDelimited_eq_ok_iff.mp h)
  refine ⟨front ++ slice, by simp [hne], by rw [List.append_assoc], fun tail => ?_⟩
  refine readDelimited_eq_ok_iff.mpr ?_
  rw [List.append_assoc]
  exact hall (slice ++ tail)

/-! ## Skipped values -/

section Skip

variable {skipValue : WireType → Nat → Bytes → Except Fault Bytes} {number : Nat}

/-- A group is left at its own end, and not before the value of the next record is skipped. -/
theorem skipGroup_succ_eq_ok_iff {fuel : Nat} {bs rest : Bytes} :
    skipGroup skipValue number (fuel + 1) bs = .ok rest ↔
      ∃ inner wire middle, readKey bs = .ok ((inner, wire), middle) ∧
        ((wire = .endGroup ∧ inner = number ∧ middle = rest) ∨
          (wire ≠ .endGroup ∧ ∃ after, skipValue wire inner middle = .ok after ∧
            skipGroup skipValue number fuel after = .ok rest)) := by
  rw [skipGroup, bind_eq_ok_iff]
  constructor
  · rintro ⟨⟨⟨inner, wire⟩, middle⟩, hkey, h⟩
    refine ⟨inner, wire, middle, hkey, ?_⟩
    cases wire with
    | endGroup =>
      simp only at h
      split at h
      · rename_i hinner
        cases h
        exact .inl ⟨rfl, hinner, rfl⟩
      · cases h
    | _ => exact .inr ⟨by simp, bind_eq_ok_iff.mp h⟩
  · rintro ⟨inner, wire, middle, hkey, h⟩
    refine ⟨((inner, wire), middle), hkey, ?_⟩
    rcases h with ⟨rfl, rfl, rfl⟩ | ⟨hwire, h⟩
    · simp
      rfl
    · cases wire with
      | endGroup => exact absurd rfl hwire
      | _ => exact bind_eq_ok_iff.mpr h

/-- A group that was skipped can be skipped whatever follows it, given a turn for each of its
bytes. -/
theorem frontal_skipGroup
    (hskip : ∀ wire inner, Frontal fun bs rest => skipValue wire inner bs = .ok rest) {fuel : Nat}
    {bs rest : Bytes} (h : skipGroup skipValue number fuel bs = .ok rest) :
    ∃ front, front ≠ [] ∧ bs = front ++ rest ∧ ∀ tail fuel, front.length ≤ fuel →
      skipGroup skipValue number fuel (front ++ tail) = .ok tail := by
  induction fuel generalizing bs with
  | zero => cases h
  | succ fuel ih =>
    obtain ⟨inner, wire, middle, hread, hthen⟩ := skipGroup_succ_eq_ok_iff.mp h
    obtain ⟨front, hne, rfl, hkey⟩ := frontal_readKey _ hread
    have hpos := List.length_pos_iff.mpr hne
    rcases hthen with ⟨hwire, hinner, rfl⟩ | ⟨hwire, after, hfirst, hrest⟩
    · refine ⟨front, hne, rfl, fun tail fuel hfuel => ?_⟩
      obtain ⟨fuel, rfl⟩ : ∃ left, fuel = left + 1 := ⟨fuel - 1, by omega⟩
      exact skipGroup_succ_eq_ok_iff.mpr ⟨_, _, _, hkey tail, .inl ⟨hwire, hinner, rfl⟩⟩
    · obtain ⟨value, -, rfl, hvalue⟩ := hskip wire inner hfirst
      obtain ⟨group, -, rfl, hgroup⟩ := ih hrest
      refine ⟨front ++ (value ++ group), by simp [hne], by simp, fun tail fuel hfuel => ?_⟩
      simp only [List.length_append] at hfuel
      obtain ⟨fuel, rfl⟩ : ∃ left, fuel = left + 1 := ⟨fuel - 1, by omega⟩
      rw [List.append_assoc, List.append_assoc]
      exact skipGroup_succ_eq_ok_iff.mpr ⟨_, _, _, hkey _, .inr ⟨hwire, _, hvalue _,
        hgroup tail fuel (by omega)⟩⟩

end Skip

theorem frontal_skip (depth : Nat) (wire : WireType) (number : Nat) :
    Frontal fun bs rest => skip depth wire number bs = .ok rest := by
  induction depth generalizing wire number with
  | zero =>
    intro bs rest h
    cases h
  | succ depth ih =>
    have drop {α : Type} {read : Bytes → Except Fault (α × Bytes)}
        (hread : ∀ a, Frontal fun bs rest => read bs = .ok (a, rest)) :
        Frontal fun bs rest => (read bs >>= fun p => pure p.2) = .ok rest := by
      refine Frontal.bind_value hread fun a middle rest h => ?_
      cases h
      exact ⟨rfl, fun tail => rfl⟩
    cases wire with
    | varint => exact drop frontal_readVarint
    | sixtyFourBit => exact drop (frontal_take (by decide))
    | lengthDelimited => exact drop frontal_readDelimited
    | startGroup =>
      intro bs rest h
      obtain ⟨front, hne, rfl, hall⟩ := frontal_skipGroup ih h
      exact ⟨front, hne, rfl, fun tail => hall tail _ (by simp)⟩
    | endGroup =>
      intro bs rest h
      cases h
    | thirtyTwoBit => exact drop (frontal_take (by decide))

/-! ## Records -/

section Value

variable {inner inner' : MessageType → Bytes → Except Fault (List Entry × Bytes)} {number : Nat}
  {kind : FieldKind} {e : Entry}

theorem frontal_readValue
    (hinner : ∀ type es, Frontal fun bs rest => inner type bs = .ok (es, rest)) :
    Frontal fun bs rest => readValue inner number kind bs = .ok (e, rest) := by
  cases kind with
  | varint =>
    refine Frontal.bind_value (g := fun rest => (e, rest)) frontal_readVarint
      fun v middle rest h => ?_
    cases h
    exact ⟨rfl, fun tail => rfl⟩
  | fixed64 =>
    refine Frontal.bind_value (g := fun rest => (e, rest)) (frontal_take (by decide))
      fun v middle rest h => ?_
    cases h
    exact ⟨rfl, fun tail => rfl⟩
  | fixed32 =>
    refine Frontal.bind_value (g := fun rest => (e, rest)) (frontal_take (by decide))
      fun v middle rest h => ?_
    cases h
    exact ⟨rfl, fun tail => rfl⟩
  | text =>
    refine Frontal.bind_value (g := fun rest => (e, rest)) frontal_readDelimited
      fun slice middle rest h => ?_
    cases ht : Bytes.toText? slice with
    | none =>
      simp only [ht] at h
      cases h
    | some value =>
      simp only [ht] at h
      cases h
      refine ⟨rfl, fun tail => ?_⟩
      simp only [ht]
      rfl
  | bytes =>
    refine Frontal.bind_value (g := fun rest => (e, rest)) frontal_readDelimited
      fun slice middle rest h => ?_
    cases h
    exact ⟨rfl, fun tail => rfl⟩
  | message type =>
    refine Frontal.bind_value (g := fun rest => (e, rest)) (hinner type)
      fun entries middle rest h => ?_
    cases h
    exact ⟨rfl, fun tail => rfl⟩

theorem readValue_eq_ok_congr
    (hinner : ∀ type es bs rest, inner type bs = .ok (es, rest) ↔ inner' type bs = .ok (es, rest))
    {bs rest : Bytes} :
    readValue inner number kind bs = .ok (e, rest) ↔
      readValue inner' number kind bs = .ok (e, rest) := by
  cases kind with
  | message type =>
    simp only [readValue, bind_eq_ok_iff, Prod.exists, hinner]
  | _ => exact Iff.rfl

end Value

/-- What a record comes to when the messages in it are read with `inner`: nothing if its number is
not declared, and the field it holds otherwise. -/
def RecordRead (inner : MessageType → Bytes → Except Fault (List Entry × Bytes)) (depth : Nat)
    (type : MessageType) (es : List Entry) (bs rest : Bytes) : Prop :=
  ∃ number wire middle, readKey bs = .ok ((number, wire), middle) ∧
    ((type.field? number = none ∧ es = [] ∧ skip depth wire number middle = .ok rest) ∨
      ∃ field e, type.field? number = some field ∧ wire = field.kind.wire ∧ es = [e] ∧
        readValue inner number field.kind middle = .ok (e, rest))

theorem frontal_recordRead {inner : MessageType → Bytes → Except Fault (List Entry × Bytes)}
    (hinner : ∀ type es, Frontal fun bs rest => inner type bs = .ok (es, rest)) (depth : Nat)
    (type : MessageType) (es : List Entry) : Frontal (RecordRead inner depth type es) := by
  rintro bs rest ⟨number, wire, middle, hread, hthen⟩
  obtain ⟨front, hne, rfl, hkey⟩ := frontal_readKey _ hread
  rcases hthen with ⟨hf, hes, hskip⟩ | ⟨field, e, hf, hwire, hes, hvalue⟩
  · obtain ⟨value, -, rfl, hall⟩ := frontal_skip depth wire number hskip
    refine ⟨front ++ value, by simp [hne], by rw [List.append_assoc], fun tail => ?_⟩
    rw [List.append_assoc]
    exact ⟨number, wire, _, hkey _, .inl ⟨hf, hes, hall tail⟩⟩
  · obtain ⟨value, -, rfl, hall⟩ := frontal_readValue hinner hvalue
    refine ⟨front ++ value, by simp [hne], by rw [List.append_assoc], fun tail => ?_⟩
    rw [List.append_assoc]
    exact ⟨number, wire, _, hkey _, .inr ⟨field, e, hf, hwire, hes, hall tail⟩⟩

section Field

variable {inner : MessageType → Bytes → Except Fault (List Entry × Bytes)} {depth number : Nat}
  {type : MessageType} {kind : FieldKind} {wire : WireType} {fault : Fault} {es : List Entry}
  {bs rest : Bytes}

theorem field_eq_ok_iff :
    (if wire ≠ kind.wire then .error fault
      else readValue inner number kind bs >>= fun p => pure ([p.1], p.2)) = .ok (es, rest) ↔
      wire = kind.wire ∧ ∃ e, es = [e] ∧ readValue inner number kind bs = .ok (e, rest) := by
  by_cases hwire : wire = kind.wire
  · rw [if_neg (fun h => h hwire), bind_eq_ok_iff]
    constructor
    · rintro ⟨⟨e, after⟩, hvalue, h⟩
      cases h
      exact ⟨hwire, e, rfl, hvalue⟩
    · rintro ⟨-, e, rfl, hvalue⟩
      exact ⟨(e, rest), hvalue, rfl⟩
  · simp [hwire]

theorem skipped_eq_ok_iff :
    (skip depth wire number bs >>= fun after => pure (([] : List Entry), after)) = .ok (es, rest) ↔
      es = [] ∧ skip depth wire number bs = .ok rest := by
  rw [bind_eq_ok_iff]
  constructor
  · rintro ⟨after, hskip, h⟩
    cases h
    exact ⟨rfl, hskip⟩
  · rintro ⟨rfl, hskip⟩
    exact ⟨rest, hskip, rfl⟩

theorem readRecord_eq_ok_iff :
    readRecord depth type bs = .ok (es, rest) ↔
      RecordRead (readInner depth) depth type es bs rest := by
  unfold readRecord
  rw [bind_eq_ok_iff]
  constructor
  · rintro ⟨⟨⟨number, wire⟩, middle⟩, hkey, h⟩
    refine ⟨number, wire, middle, hkey, ?_⟩
    cases hf : type.field? number with
    | none =>
      simp only [hf] at h
      exact .inl ⟨rfl, skipped_eq_ok_iff.mp h⟩
    | some field =>
      simp only [hf, mapError_eq_ok_iff] at h
      obtain ⟨hwire, e, hes, hvalue⟩ := field_eq_ok_iff.mp h
      exact .inr ⟨field, e, rfl, hwire, hes, by cases depth <;> exact hvalue⟩
  · rintro ⟨number, wire, middle, hkey, h⟩
    refine ⟨((number, wire), middle), hkey, ?_⟩
    rcases h with ⟨hf, hskip⟩ | ⟨field, e, hf, hwire, hes, hvalue⟩
    · simp only [hf]
      exact skipped_eq_ok_iff.mpr hskip
    · simp only [hf, mapError_eq_ok_iff]
      exact field_eq_ok_iff.mpr ⟨hwire, e, hes, by cases depth <;> exact hvalue⟩

/-- How a record with so many levels below it reads the messages in it by slices. -/
def cutInner : (depth : Nat) → MessageType → Bytes → Except Fault (List Entry × Bytes)
  | 0, _, _ => .error { cause := .tooDeep }
  | depth + 1, inner, bs => cutNested (cutRecord depth inner) bs

theorem cutRecord_eq_ok_iff :
    cutRecord depth type bs = .ok (es, rest) ↔
      RecordRead (cutInner depth) depth type es bs rest := by
  unfold cutRecord
  rw [bind_eq_ok_iff]
  constructor
  · rintro ⟨⟨⟨number, wire⟩, middle⟩, hkey, h⟩
    refine ⟨number, wire, middle, hkey, ?_⟩
    cases hf : type.field? number with
    | none =>
      simp only [hf] at h
      exact .inl ⟨rfl, skipped_eq_ok_iff.mp h⟩
    | some field =>
      simp only [hf] at h
      obtain ⟨hwire, e, hes, hvalue⟩ := field_eq_ok_iff.mp h
      exact .inr ⟨field, e, rfl, hwire, hes, by cases depth <;> exact hvalue⟩
  · rintro ⟨number, wire, middle, hkey, h⟩
    refine ⟨((number, wire), middle), hkey, ?_⟩
    rcases h with ⟨hf, hskip⟩ | ⟨field, e, hf, hwire, hes, hvalue⟩
    · simp only [hf]
      exact skipped_eq_ok_iff.mpr hskip
    · simp only [hf]
      exact field_eq_ok_iff.mpr ⟨hwire, e, hes, by cases depth <;> exact hvalue⟩

end Field

/-! ## Nested messages -/

theorem readLength_eq_ok_iff {bs rest : Bytes} {n : Nat} :
    readLength bs = .ok (n, rest) ↔ readVarint bs = .ok (n, rest) ∧ n ≤ rest.length := by
  rw [readLength, bind_eq_ok_iff]
  constructor
  · rintro ⟨⟨n, rest⟩, hv, h⟩
    obtain ⟨hlong, h⟩ := ite_throw_eq_ok_iff.mp h
    cases h
    exact ⟨hv, Nat.not_lt.mp hlong⟩
  · rintro ⟨hv, hlong⟩
    exact ⟨(n, rest), hv, ite_throw_eq_ok_iff.mpr ⟨Nat.not_lt.mpr hlong, rfl⟩⟩

section Nested

variable {readOne cutOne : Bytes → Except Fault (List Entry × Bytes)}
  (same : ∀ es bs rest, readOne bs = .ok (es, rest) ↔ cutOne bs = .ok (es, rest))
  (frontal : ∀ es, Frontal fun bs rest => cutOne bs = .ok (es, rest))

include same frontal

/-- Where reading records ends: at some place in the bytes, and, given a turn for each byte, no
earlier than asked. -/
theorem end_of_readRecords {limit fuel : Nat} {bs last : Bytes} {es : List Entry}
    (h : readRecords readOne limit fuel bs = .ok (es, last)) :
    (∃ used, bs = used ++ last) ∧ (bs.length ≤ fuel → last.length ≤ limit) := by
  induction fuel generalizing bs es with
  | zero =>
    cases h
    exact ⟨⟨[], rfl⟩, fun hfuel => by omega⟩
  | succ fuel ih =>
    rw [readRecords] at h
    split at h
    · rename_i hlimit
      cases h
      exact ⟨⟨[], rfl⟩, fun _ => hlimit⟩
    · obtain ⟨⟨first, rest⟩, hone, h⟩ := bind_eq_ok_iff.mp h
      obtain ⟨⟨more, after⟩, hmore, h⟩ := bind_eq_ok_iff.mp h
      cases h
      obtain ⟨front, hne, rfl, -⟩ := frontal first ((same _ _ _).mp hone)
      obtain ⟨⟨used, rfl⟩, hlast⟩ := ih hmore
      have hpos := List.length_pos_iff.mpr hne
      refine ⟨⟨front ++ used, by simp⟩, fun hfuel => hlast ?_⟩
      simp only [List.length_append] at hfuel ⊢
      omega

/-- Records that end where a slice ends are the records that fill the slice, whatever follows it. -/
theorem readRecords_append_eq_ok_iff {fuel fuel' : Nat} {slice : Bytes} (tail : Bytes)
    {es : List Entry} (hfuel : slice.length ≤ fuel) (hfuel' : slice.length ≤ fuel') :
    readRecords readOne tail.length fuel (slice ++ tail) = .ok (es, tail) ↔
      cutRecords cutOne fuel' slice = .ok es := by
  -- By induction on the turns left; the record read first ends within the slice, since those
  -- after it do.
  induction fuel generalizing fuel' slice es with
  | zero =>
    obtain rfl := List.eq_nil_of_length_eq_zero (Nat.le_zero.mp hfuel)
    cases fuel' <;> simp [readRecords, cutRecords]
  | succ fuel ih =>
    cases slice with
    | nil => cases fuel' <;> simp [readRecords, cutRecords]
    | cons b slice =>
      obtain ⟨fuel', rfl⟩ : ∃ left, fuel' = left + 1 :=
        ⟨fuel' - 1, by simp only [List.length_cons] at hfuel'; omega⟩
      have hlong : ¬ (b :: slice ++ tail).length ≤ tail.length := by
        simp only [List.length_append, List.length_cons]
        omega
      have hcons : cutRecords cutOne (fuel' + 1) (b :: slice) = cutOne (b :: slice) >>= fun p =>
        cutRecords cutOne fuel' p.2 >>= fun more => pure (p.1 ++ more) := rfl
      rw [readRecords, if_neg hlong, hcons, bind_eq_ok_iff, bind_eq_ok_iff]
      constructor
      · rintro ⟨⟨first, rest⟩, hone, h⟩
        obtain ⟨⟨more, after⟩, hmore, h⟩ := bind_eq_ok_iff.mp h
        cases h
        obtain ⟨⟨used, rfl⟩, -⟩ := end_of_readRecords same frontal hmore
        have hcut := (frontal first).of_append ((same _ _ _).mp hone)
        have hlt := (frontal first).length_lt hcut
        have hrest := (ih (by omega) (show used.length ≤ fuel' by omega)).mp hmore
        exact ⟨(first, used), hcut, bind_eq_ok_iff.mpr ⟨more, hrest, rfl⟩⟩
      · rintro ⟨⟨first, used⟩, hcut, h⟩
        obtain ⟨more, hrest, h⟩ := bind_eq_ok_iff.mp h
        cases h
        have hlt : used.length < (b :: slice).length := (frontal first).length_lt hcut
        have hone := (same _ _ _).mpr ((frontal first).append hcut tail)
        have hmore := (ih (show used.length ≤ fuel by omega) (by omega)).mpr hrest
        exact ⟨(first, used ++ tail), hone, bind_eq_ok_iff.mpr ⟨(more, tail), hmore, rfl⟩⟩

theorem readAll_eq_ok_iff {bs : Bytes} {es : List Entry} :
    (readRecords readOne 0 bs.length bs >>= fun p => pure p.1) = .ok es ↔
      cutRecords cutOne bs.length bs = .ok es := by
  have hall : readRecords readOne 0 bs.length (bs ++ []) = .ok (es, []) ↔
      cutRecords cutOne bs.length bs = .ok es :=
    readRecords_append_eq_ok_iff same frontal [] (Nat.le_refl _) (Nat.le_refl _)
  rw [List.append_nil] at hall
  rw [← hall, bind_eq_ok_iff]
  constructor
  · rintro ⟨⟨entries, last⟩, hread, h⟩
    cases h
    have hlast := (end_of_readRecords same frontal hread).2 (Nat.le_refl _)
    obtain rfl := List.eq_nil_of_length_eq_zero (Nat.le_zero.mp hlast)
    exact hread
  · intro hread
    exact ⟨(es, []), hread, rfl⟩

theorem readNested_eq_ok_iff {bs last : Bytes} {es : List Entry} :
    readNested readOne bs = .ok (es, last) ↔ cutNested cutOne bs = .ok (es, last) := by
  rw [readNested, cutNested, bind_eq_ok_iff, bind_eq_ok_iff]
  constructor
  · rintro ⟨⟨n, rest⟩, hlength, h⟩
    obtain ⟨⟨entries, after⟩, hrecords, h⟩ := bind_eq_ok_iff.mp h
    obtain ⟨hend, h⟩ := ite_throw_eq_ok_iff.mp h
    cases h
    obtain ⟨hv, hlong⟩ := readLength_eq_ok_iff.mp hlength
    obtain ⟨⟨slice, rfl⟩, -⟩ := end_of_readRecords same frontal hrecords
    simp only [List.length_append] at hlong hend hrecords
    obtain rfl : slice.length = n := by omega
    rw [Nat.add_sub_cancel_left] at hrecords
    have hcut := (readRecords_append_eq_ok_iff same frontal last (by omega) (Nat.le_refl _)).mp hrecords
    exact ⟨(slice, last), readDelimited_eq_ok_iff.mpr hv, bind_eq_ok_iff.mpr ⟨es, hcut, rfl⟩⟩
  · rintro ⟨⟨slice, rest⟩, hdelimited, h⟩
    obtain ⟨entries, hcut, h⟩ := bind_eq_ok_iff.mp h
    cases h
    have hlength : readLength bs = .ok (slice.length, slice ++ last) :=
      readLength_eq_ok_iff.mpr ⟨readDelimited_eq_ok_iff.mp hdelimited, by simp⟩
    have hlimit : (slice ++ last).length - slice.length = last.length := by simp
    have hrecords := (readRecords_append_eq_ok_iff same frontal last
      (show slice.length ≤ (slice ++ last).length by simp) (Nat.le_refl _)).mpr hcut
    refine ⟨_, hlength, ?_⟩
    simp only [hlimit]
    exact bind_eq_ok_iff.mpr ⟨_, hrecords, ite_throw_eq_ok_iff.mpr ⟨fun h => h rfl, rfl⟩⟩

end Nested

theorem frontal_cutInner (depth : Nat) (type : MessageType) (es : List Entry) :
    Frontal fun bs rest => cutInner depth type bs = .ok (es, rest) := by
  cases depth with
  | zero =>
    intro bs rest h
    cases h
  | succ depth =>
    refine Frontal.bind_value (g := fun rest => (es, rest)) frontal_readDelimited
      fun slice middle rest h => ?_
    obtain ⟨entries, hcut, h⟩ := bind_eq_ok_iff.mp h
    cases h
    exact ⟨rfl, fun tail => bind_eq_ok_iff.mpr ⟨es, hcut, rfl⟩⟩

theorem frontal_cutRecord (depth : Nat) (type : MessageType) (es : List Entry) :
    Frontal fun bs rest => cutRecord depth type bs = .ok (es, rest) :=
  (frontal_recordRead (frontal_cutInner depth) depth type es).of_iff fun _ _ => cutRecord_eq_ok_iff

theorem readRecord_eq_cutRecord (depth : Nat) (type : MessageType) (es : List Entry)
    (bs rest : Bytes) :
    readRecord depth type bs = .ok (es, rest) ↔ cutRecord depth type bs = .ok (es, rest) := by
  -- By induction on the levels below it: the records of a nested message are one level further
  -- down.
  induction depth generalizing type es bs rest with
  | zero =>
    have hinner : ∀ type es bs rest,
        readInner 0 type bs = .ok (es, rest) ↔ cutInner 0 type bs = .ok (es, rest) :=
      fun _ _ _ _ => Iff.rfl
    simp only [readRecord_eq_ok_iff, cutRecord_eq_ok_iff, RecordRead, readValue_eq_ok_congr hinner]
  | succ depth ih =>
    have hinner : ∀ type es bs rest, readInner (depth + 1) type bs = .ok (es, rest) ↔
        cutInner (depth + 1) type bs = .ok (es, rest) :=
      fun type _ _ _ => readNested_eq_ok_iff (ih type) (frontal_cutRecord depth type)
    simp only [readRecord_eq_ok_iff, cutRecord_eq_ok_iff, RecordRead, readValue_eq_ok_congr hinner]

/-! ## Whole messages -/

theorem readMessage_eq_ok_iff {type : MessageType} {bs : Bytes} {es : List Entry} :
    readMessage type bs = .ok es ↔ cutMessage type bs = .ok es :=
  readAll_eq_ok_iff (readRecord_eq_cutRecord depthLimit type) (frontal_cutRecord depthLimit type)

/-- A nested message that is read takes nothing from beyond its length: with the same length and as
many bytes it is the same message, whatever follows. -/
theorem readNested_confined {depth : Nat} {inner : MessageType} {bs last : Bytes}
    {es : List Entry} (h : readNested (readRecord depth inner) bs = .ok (es, last)) :
    ∃ announced slice, bs = announced ++ slice ++ last ∧
      Varint.read announced = some (slice.length, []) ∧
      ∀ after, readNested (readRecord depth inner) (announced ++ slice ++ after) =
        .ok (es, after) := by
  have nested : ∀ {bs last}, readNested (readRecord depth inner) bs = .ok (es, last) ↔
      cutInner (depth + 1) inner bs = .ok (es, last) :=
    readNested_eq_ok_iff (readRecord_eq_cutRecord depth inner) (frontal_cutRecord depth inner)
  obtain ⟨⟨slice, rest⟩, hdelimited, hthen⟩ := bind_eq_ok_iff.mp (nested.mp h)
  obtain ⟨entries, hcut, hthen⟩ := bind_eq_ok_iff.mp hthen
  cases hthen
  obtain ⟨announced, -, rfl, hall⟩ :=
    frontal_readVarint slice.length (readDelimited_eq_ok_iff.mp hdelimited)
  have hannounced := readVarint_eq_ok_iff.mp (hall [])
  rw [List.append_nil] at hannounced
  refine ⟨announced, slice, by rw [List.append_assoc], hannounced, fun after => ?_⟩
  refine nested.mpr (bind_eq_ok_iff.mpr ⟨(slice, after), ?_, bind_eq_ok_iff.mpr ⟨es, hcut, rfl⟩⟩)
  rw [readDelimited_eq_ok_iff, List.append_assoc]
  exact hall (slice ++ after)

/-- **In place or by slices.** Whatever the type and the bytes, reading nested messages from all that
follows accepts what reading each from its own slice accepts, with the same value. A nested message
that is accepted is the same message before any other bytes, so it has nothing from beyond its
length. -/
theorem decode_eq_decodeCut (type : MessageType) (bs : Bytes) :
    (decode type.Value bs).toOption = (decodeCut type.Value bs).toOption ∧
      ∀ depth inner bs es last, readNested (readRecord depth inner) bs = .ok (es, last) →
        ∃ announced slice, bs = announced ++ slice ++ last ∧
          Varint.read announced = some (slice.length, []) ∧
          ∀ after, readNested (readRecord depth inner) (announced ++ slice ++ after) =
            .ok (es, after) := by
  refine ⟨?_, fun depth inner bs es last h => readNested_confined h⟩
  rw [decode, decodeCut]
  cases hcut : cutMessage (Message.type type.Value) bs with
  | ok es =>
    rw [readMessage_eq_ok_iff.mpr hcut]
  | error fault =>
    cases hread : readMessage (Message.type type.Value) bs with
    | ok es =>
      rw [readMessage_eq_ok_iff.mp hread] at hcut
      cases hcut
    | error fault => rfl

theorem decode_eq_decodeCut_memory :
    readNested (readRecord 0 .memory) [2, 8, 5, 7] = .ok ([.varint 1 5], [7]) ∧
      (decode MessageType.storage.Value [18, 2, 8, 5]).toOption =
        (decodeCut MessageType.storage.Value [18, 2, 8, 5]).toOption ∧
      ∃ announced slice, ([2, 8, 5, 7] : Bytes) = announced ++ slice ++ [7] ∧
        Varint.read announced = some (slice.length, []) ∧
        ∀ after, readNested (readRecord 0 .memory) (announced ++ slice ++ after) =
          .ok ([.varint 1 5], after) := by
  have hbytes : Entry.delimited (Entry.renderAll [.varint 1 5]) ++ [7] = [2, 8, 5, 7] := by
    decide +kernel
  have hfits : Fits 0 .memory (.varint 1 5) := by
    simp only [Fits]
    exact ⟨_, rfl⟩
  have hread : readNested (readRecord 0 .memory) [2, 8, 5, 7] = .ok ([.varint 1 5], [7]) := by
    rw [← hbytes]
    refine readNested_renderAll (by decide +kernel) (fun e he rest => ?_) [7]
    obtain rfl := List.mem_singleton.mp he
    exact readRecord_render hfits (by decide +kernel) rest
  obtain ⟨hsame, hconfined⟩ := decode_eq_decodeCut .storage [18, 2, 8, 5]
  exact ⟨hread, hsame, hconfined 0 .memory [2, 8, 5, 7] [.varint 1 5] [7] hread⟩

/-- The memory of a storage announces one byte but needs the one after it. -/
example : (decode Storage [18, 1, 8, 1]).toOption = none ∧
    (decodeCut Storage [18, 1, 8, 1]).toOption = none := by
  decide +kernel

end Showroom.Wire
