import Showroom.Proofs.Bytes
import Showroom.Proofs.Wire.Varint
import Showroom.Wire.Reader

/-!
# Showroom.Proofs.Wire.Records

Fields that fit the type of their message are read back as they were written, with whatever
follows them left alone. A field fits (`Fits`) if its number is declared with its kind of value,
and if it is a message, if all its own fields fit one level further down.

* `readRecord_render`: one field.
* `readMessage_renderAll`: all fields of a message.
-/

namespace Showroom.Wire

theorem WireType.ofCode?_code (wire : WireType) : ofCode? wire.code = some wire := by
  cases wire <;> rfl

theorem WireType.code_lt (wire : WireType) : wire.code < 8 := by
  cases wire <;> decide

theorem MessageType.mem_fields {type : MessageType} {number : Nat} {field : Field}
    (h : type.field? number = some field) : (number, field) ∈ type.fields := by
  rw [field?, List.lookup_eq_some_iff] at h
  obtain ⟨before, after, hfields, -⟩ := h
  simp [hfields]

theorem MessageType.number_of_field? {type : MessageType} {number : Nat} {field : Field}
    (h : type.field? number = some field) : 1 ≤ number ∧ number ≤ 14 := by
  have declared : ∀ p ∈ type.fields, 1 ≤ p.1 ∧ p.1 ≤ 14 := by cases type <;> decide
  exact declared _ (mem_fields h)

/-! ## Keys and lengths -/

theorem readVarint_render {n : Nat} (h : n < UInt64.size) (rest : Bytes) :
    readVarint (Varint.render n ++ rest) = .ok (n, rest) := by
  rw [readVarint, Varint.read_render h]

theorem readKey_key {number : Nat} (wire : WireType) (hpos : 1 ≤ number) (hle : number ≤ 14)
    (rest : Bytes) : readKey (Entry.key number wire ++ rest) = .ok ((number, wire), rest) := by
  have hc := wire.code_lt
  have hmod : (8 * number + wire.code) % 8 = wire.code := by omega
  have hdiv : (8 * number + wire.code) / 8 = number := by omega
  have h64 : 8 * number + wire.code < UInt64.size :=
    Nat.lt_of_lt_of_le (show _ < 128 by omega) (by decide)
  have h32 : ¬ UInt32.size ≤ 8 * number + wire.code :=
    Nat.not_le.mpr (Nat.lt_of_lt_of_le (show _ < 128 by omega) (by decide))
  rw [readKey, Entry.key, readVarint_render h64]
  simp only [bind, Except.bind, if_neg h32, hmod, hdiv, WireType.ofCode?_code,
    if_neg (Nat.ne_of_gt hpos)]
  rfl

theorem readLength_render {n : Nat} (h : n < UInt64.size) {rest : Bytes} (hn : n ≤ rest.length) :
    readLength (Varint.render n ++ rest) = .ok (n, rest) := by
  rw [readLength, readVarint_render h]
  simp only [bind, Except.bind, if_neg (Nat.not_lt.mpr hn)]
  rfl

theorem readDelimited_delimited {bs : Bytes} (h : bs.length < UInt64.size) (rest : Bytes) :
    readDelimited (Entry.delimited bs ++ rest) = .ok (bs, rest) := by
  rw [readDelimited, Entry.delimited, List.append_assoc, readLength_render h (by simp)]
  simp only [bind, Except.bind, List.splitAt_eq, List.take_left, List.drop_left]
  rfl

theorem take_append {n : Nat} {bs : Bytes} (h : bs.length = n) (rest : Bytes) :
    take n (bs ++ rest) = .ok (bs, rest) := by
  subst h
  simp [take, List.splitAt_eq]

/-! ## Fields that fit -/

/-- Whether a field may stand in a message of this type, with so many levels left below it. -/
def Fits : (depth : Nat) → MessageType → Entry → Prop
  | _, type, .varint number _ => ∃ name, type.field? number = some ⟨name, .varint⟩
  | _, type, .fixed64 number _ => ∃ name, type.field? number = some ⟨name, .fixed64⟩
  | _, type, .fixed32 number _ => ∃ name, type.field? number = some ⟨name, .fixed32⟩
  | _, type, .text number _ => ∃ name, type.field? number = some ⟨name, .text⟩
  | _, type, .bytes number _ => ∃ name, type.field? number = some ⟨name, .bytes⟩
  | 0, _, .message _ _ => False
  | depth + 1, type, .message number entries =>
    ∃ name inner, type.field? number = some ⟨name, .message inner⟩ ∧
      ∀ e ∈ entries, Fits depth inner e

theorem Entry.render_ne_nil (e : Entry) : e.render ≠ [] := by
  cases e <;> simp [Entry.render, Entry.key, Varint.render_ne_nil]

theorem Entry.length_render_le {e : Entry} {es : List Entry} (h : e ∈ es) :
    e.render.length ≤ (Entry.renderAll es).length := by
  induction es with
  | nil => cases h
  | cons x es ih =>
    rw [Entry.renderAll, List.length_append]
    rcases List.mem_cons.mp h with rfl | h
    · omega
    · have := ih h
      omega

/-- Fields are read back one after the other if each of them is, up to where they end. -/
theorem readRecords_renderAll {readOne : Bytes → Except Fault (List Entry × Bytes)}
    {es : List Entry} (tail : Bytes)
    (hread : ∀ e ∈ es, ∀ rest, readOne (e.render ++ rest) = .ok ([e], rest)) :
    ∀ {fuel : Nat}, (Entry.renderAll es).length ≤ fuel →
      readRecords readOne tail.length fuel (Entry.renderAll es ++ tail) = .ok (es, tail) := by
  induction es with
  | nil =>
    intro fuel _
    cases fuel <;> simp [Entry.renderAll, readRecords]
  | cons e es ih =>
    intro fuel hfuel
    have hpos : 0 < e.render.length := List.length_pos_iff.mpr e.render_ne_nil
    simp only [Entry.renderAll, List.length_append] at hfuel
    cases fuel with
    | zero => omega
    | succ fuel =>
      have hlong : ¬ (e.render ++ (Entry.renderAll es ++ tail)).length ≤ tail.length := by
        simp only [List.length_append]
        omega
      rw [Entry.renderAll, List.append_assoc, readRecords, if_neg hlong,
        hread e List.mem_cons_self]
      simp only [bind, Except.bind]
      rw [ih (fun x hx => hread x (List.mem_cons_of_mem e hx)) (by omega)]
      rfl

/-- How a record with so many levels below it reads the messages in it. -/
def readInner : (depth : Nat) → MessageType → Bytes → Except Fault (List Entry × Bytes)
  | 0, _, _ => .error { cause := .tooDeep }
  | depth + 1, inner, bs => readNested (readRecord depth inner) bs

theorem readRecord_key {depth : Nat} {type : MessageType} {number : Nat} {name : String}
    {kind : FieldKind} {e : Entry} {rest last : Bytes}
    (hf : type.field? number = some ⟨name, kind⟩)
    (hread : readValue (readInner depth) number kind rest = .ok (e, last)) :
    readRecord depth type (Entry.key number kind.wire ++ rest) = .ok ([e], last) := by
  obtain ⟨hpos, hle⟩ := MessageType.number_of_field? hf
  cases depth with
  | zero =>
    have h : readValue (fun _ _ => .error { cause := .tooDeep }) number kind rest =
      .ok (e, last) := hread
    rw [readRecord, readKey_key _ hpos hle]
    simp only [bind, Except.bind, hf, ne_eq, not_true_eq_false, if_false, h]
    rfl
  | succ depth =>
    have h : readValue (fun inner => readNested (readRecord depth inner)) number kind rest =
      .ok (e, last) := hread
    rw [readRecord, readKey_key _ hpos hle]
    simp only [bind, Except.bind, hf, ne_eq, not_true_eq_false, if_false, h]
    rfl

theorem readNested_renderAll {readOne : Bytes → Except Fault (List Entry × Bytes)}
    {es : List Entry} (hlen : (Entry.renderAll es).length < UInt64.size)
    (hread : ∀ e ∈ es, ∀ rest, readOne (e.render ++ rest) = .ok ([e], rest)) (rest : Bytes) :
    readNested readOne (Entry.delimited (Entry.renderAll es) ++ rest) = .ok (es, rest) := by
  have hlimit : (Entry.renderAll es ++ rest).length - (Entry.renderAll es).length = rest.length := by
    simp
  rw [readNested, Entry.delimited, List.append_assoc, readLength_render hlen (by simp)]
  simp only [bind, Except.bind, hlimit]
  rw [readRecords_renderAll rest hread (by simp)]
  simp only [ne_eq, not_true_eq_false, if_false]
  rfl

theorem readRecord_render {depth : Nat} {type : MessageType} {e : Entry} (hfit : Fits depth type e)
    (hlen : e.render.length < UInt64.size) (rest : Bytes) :
    readRecord depth type (e.render ++ rest) = .ok ([e], rest) := by
  -- By induction on the levels below it: the fields of a message are read one level further down.
  induction depth, type, e using Fits.induct generalizing rest with
  | case1 depth type number value =>
    simp only [Fits] at hfit
    obtain ⟨name, hf⟩ := hfit
    rw [Entry.render, List.append_assoc]
    refine readRecord_key hf ?_
    rw [readValue, readVarint_render value.toNat_lt]
    simp only [bind, Except.bind, UInt64.ofNat_toNat]
    rfl
  | case2 depth type number bits =>
    simp only [Fits] at hfit
    obtain ⟨name, hf⟩ := hfit
    rw [Entry.render, List.append_assoc]
    refine readRecord_key hf ?_
    rw [readValue, take_append (Bytes.length_littleEndian 8 _)]
    simp only [bind, Except.bind, Bytes.ofNat_toNatLE_eight]
    rfl
  | case3 depth type number bits =>
    simp only [Fits] at hfit
    obtain ⟨name, hf⟩ := hfit
    rw [Entry.render, List.append_assoc]
    refine readRecord_key hf ?_
    rw [readValue, take_append (Bytes.length_littleEndian 4 _)]
    simp only [bind, Except.bind, Bytes.ofNat_toNatLE_four]
    rfl
  | case4 depth type number value =>
    simp only [Fits] at hfit
    obtain ⟨name, hf⟩ := hfit
    simp only [Entry.render, Entry.delimited, List.length_append] at hlen
    rw [Entry.render, List.append_assoc]
    refine readRecord_key hf ?_
    rw [readValue, readDelimited_delimited (by omega)]
    simp only [bind, Except.bind, Bytes.toText?_ofText]
    rfl
  | case5 depth type number value =>
    simp only [Fits] at hfit
    obtain ⟨name, hf⟩ := hfit
    simp only [Entry.render, Entry.delimited, List.length_append] at hlen
    rw [Entry.render, List.append_assoc]
    refine readRecord_key hf ?_
    rw [readValue, readDelimited_delimited (by omega)]
    rfl
  | case6 type number entries => exact absurd hfit (by simp [Fits])
  | case7 depth type number entries ih =>
    simp only [Fits] at hfit
    obtain ⟨name, inner, hf, hall⟩ := hfit
    simp only [Entry.render, Entry.delimited, List.length_append] at hlen
    rw [Entry.render, List.append_assoc]
    refine readRecord_key hf ?_
    have hread : ∀ e ∈ entries, ∀ rest,
        readRecord depth inner (e.render ++ rest) = .ok ([e], rest) := by
      intro e he
      have := Entry.length_render_le he
      exact ih inner e (hall e he) (by omega)
    rw [readValue, readInner, readNested_renderAll (by omega) hread]
    rfl

theorem readMessage_renderAll {type : MessageType} {es : List Entry}
    (hfit : ∀ e ∈ es, Fits depthLimit type e) (hlen : (Entry.renderAll es).length < UInt64.size) :
    readMessage type (Entry.renderAll es) = .ok es := by
  have hread : ∀ e ∈ es, ∀ rest, readRecord depthLimit type (e.render ++ rest) = .ok ([e], rest) :=
    fun e he => readRecord_render (hfit e he) (Nat.lt_of_le_of_lt (Entry.length_render_le he) hlen)
  have hall := readRecords_renderAll [] hread (Nat.le_refl _)
  rw [List.append_nil] at hall
  rw [readMessage, show (0 : Nat) = ([] : Bytes).length from rfl, hall]
  rfl

end Showroom.Wire
