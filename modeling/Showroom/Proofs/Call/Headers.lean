import Showroom.Access.Guard
import Showroom.Proofs.Text.Decimal

/-!
# Showroom.Proofs.Call.Headers

What headers hold. A value is text if all its bytes are printable ASCII or tabs; the time allowed for
a call is one to eight digits and a unit; and a message in the head of an answer is printable ASCII,
whatever text it was made from.

* `Metadata.text?_eq_some_iff`: the values that are text.
* `Metadata.values_set_self`, `Metadata.values_set_of_ne`: a name that is given one value.
* `CallContext.timeout?_eq_some_iff`: the time that a call is allowed.
* `Text.Percent.printable_encode`: what a message looks like in a header.
-/

namespace Showroom

namespace Metadata

/-- Whether a byte is printable ASCII or a tab. -/
def Printable (b : UInt8) : Prop := b = 9 ∨ (0x20 ≤ b ∧ b ≤ 0x7e)

instance (b : UInt8) : Decidable (Printable b) :=
  inferInstanceAs (Decidable (b = 9 ∨ (0x20 ≤ b ∧ b ≤ 0x7e)))

theorem Printable.lt {b : UInt8} (h : Printable b) : b < 0x80 := by
  rcases h with rfl | ⟨-, hhigh⟩
  · decide
  · exact UInt8.lt_of_le_of_lt hhigh (by decide)

theorem isTextByte_iff {b : UInt8} : isTextByte b = true ↔ Printable b := by
  have hlt : b < 127 ↔ b ≤ 0x7e := by
    rw [UInt8.lt_iff_toNat_lt, UInt8.le_iff_toNat_le]
    exact Nat.lt_succ_iff
  simp [isTextByte, Printable, hlt]

theorem text?_eq_some_iff {value : Bytes} {cs : List Char} :
    text? value = some cs ↔
      (∀ b ∈ value, Printable b) ∧ cs = value.map fun b => Char.ofNat b.toNat := by
  have hall : value.all isTextByte = true ↔ ∀ b ∈ value, Printable b := by
    simp only [List.all_eq_true, isTextByte_iff]
  rw [text?]
  split
  · rename_i h
    rw [Option.some.injEq, and_iff_right (hall.mp h), eq_comm]
  · rename_i h
    simp only [reduceCtorEq, false_iff, not_and]
    exact fun hb => absurd (hall.mpr hb) h

theorem text?_eq_none_iff {value : Bytes} : text? value = none ↔ ∃ b ∈ value, ¬ Printable b := by
  simp only [text?, ite_eq_right_iff, reduceCtorEq, imp_false, List.all_eq_true, isTextByte_iff,
    Classical.not_forall, exists_prop]

/-- Whether a text is of printable ASCII and tabs. -/
def Readable (cs : List Char) : Prop :=
  ∀ c ∈ cs, c = '\t' ∨ (0x20 ≤ c.toNat ∧ c.toNat ≤ 0x7e)

instance (cs : List Char) : Decidable (Readable cs) := List.decidableBAll _ cs

theorem text?_ofText {cs : List Char} (h : Readable cs) :
    text? (Bytes.ofText (String.ofList cs)) = some cs := by
  have hascii : ∀ c ∈ cs, c.toNat < 128 := by
    intro c hc
    rcases h c hc with rfl | ⟨-, hhigh⟩
    · decide
    · exact Nat.lt_of_le_of_lt hhigh (by decide)
  have hbyte : ∀ c ∈ cs, (UInt8.ofNat c.toNat).toNat = c.toNat := fun c hc =>
    UInt8.toNat_ofNat_of_lt (Nat.lt_trans (hascii c hc) (by decide))
  rw [text?_eq_some_iff, Bytes.ofText_ascii hascii, List.forall_mem_map, List.map_map]
  constructor
  · intro c hc
    rcases h c hc with rfl | ⟨hlow, hhigh⟩
    · exact .inl rfl
    · right
      rw [UInt8.le_iff_toNat_le, UInt8.le_iff_toNat_le, hbyte c hc]
      exact ⟨hlow, hhigh⟩
  · refine (List.map_id cs).symm.trans (List.map_congr_left fun c hc => ?_)
    exact (Bytes.char_eq_iff.mpr (hbyte c hc)).symm

theorem readable_of_visible {cs : List Char} (h : ∀ c ∈ cs, 0x21 ≤ c.toNat ∧ c.toNat ≤ 0x7e) :
    Readable cs :=
  fun c hc => .inr ⟨Nat.le_of_succ_le (h c hc).1, (h c hc).2⟩

section Set

variable (m : Metadata) (name : String) (value : Bytes)

theorem values_set_self : (m.set name value).values name = [value] := by
  have hnone : (m.entries.filter fun e => e.1 ≠ name).filter (fun e => e.1 = name) = [] := by
    rw [List.filter_eq_nil_iff]
    intro e he
    simpa using (List.mem_filter.mp he).2
  rw [values, set, List.filter_append, hnone]
  simp

theorem values_set_of_ne {other : String} (h : other ≠ name) :
    (m.set name value).values other = m.values other := by
  have hkept : (m.entries.filter fun e => e.1 ≠ name).filter (fun e => e.1 = other) =
      m.entries.filter fun e => e.1 = other := by
    rw [List.filter_filter]
    refine List.filter_congr fun e _ => ?_
    by_cases he : e.1 = other
    · simp [he, h]
    · simp [he]
  rw [values, set, List.filter_append, hkept, values]
  simp [Ne.symm h]

end Set

end Metadata

namespace CallContext

/-- Whether bytes are a time allowed: one to eight digits, and one of `H`, `M`, `S`, `m`, `u` and
`n`. -/
def IsTimeout (value : Bytes) : Prop :=
  ∃ amount unit, value = amount ++ [unit] ∧ 1 ≤ amount.length ∧ amount.length ≤ 8 ∧
    (∀ b ∈ amount, 0x30 ≤ b ∧ b ≤ 0x39) ∧ unit ∈ ([0x48, 0x4d, 0x53, 0x6d, 0x75, 0x6e] : Bytes)

/-- The number that digits stand for, each of them counted by its place. -/
def number : Bytes → Nat
  | [] => 0
  | digit :: digits => (digit.toNat - 0x30) * Nat.pow 10 digits.length + number digits

/-- The units of time, with their lengths in nanoseconds: an hour, a minute and a second, and the
thousandth, millionth and billionth part of a second. -/
def units : List (UInt8 × Nat) :=
  [(0x48, 3600 * 1000000000), (0x4d, 60 * 1000000000), (0x53, 1000000000), (0x6d, 1000000),
    (0x75, 1000), (0x6e, 1)]

/-- Whether bytes allow a time, in nanoseconds: one to eight digits and a unit. -/
def Allows (value : Bytes) (time : Nat) : Prop :=
  ∃ amount unit length, value = amount ++ [unit] ∧ 1 ≤ amount.length ∧ amount.length ≤ 8 ∧
    (∀ b ∈ amount, 0x30 ≤ b ∧ b ≤ 0x39) ∧ (unit, length) ∈ units ∧ number amount * length = time

theorem isTimeout_iff {value : Bytes} : IsTimeout value ↔ ∃ time, Allows value time := by
  constructor
  · rintro ⟨amount, unit, rfl, hpos, hlong, hdigits, hunit⟩
    have hunits : unit ∈ units.map (·.1) := hunit
    obtain ⟨⟨_, length⟩, hlength, rfl⟩ := List.mem_map.mp hunits
    exact ⟨_, amount, _, length, rfl, hpos, hlong, hdigits, hlength, rfl⟩
  · rintro ⟨_, amount, unit, length, rfl, hpos, hlong, hdigits, hunit, -⟩
    exact ⟨amount, unit, rfl, hpos, hlong, hdigits,
      List.mem_map_of_mem (f := Prod.fst) hunit⟩

theorem isDigit_byte (b : UInt8) :
    Text.Decimal.isDigit (Char.ofNat b.toNat) = true ↔ 0x30 ≤ b ∧ b ≤ 0x39 := by
  have hvalue : (Char.ofNat b.toNat).val.toNat = b.toNat := Bytes.toNat_char b
  simp only [Text.Decimal.isDigit, Bool.and_eq_true, decide_eq_true_eq, Char.le_def,
    UInt32.le_iff_toNat_le, UInt8.le_iff_toNat_le, hvalue]
  exact Iff.rfl

theorem foldl_digits_bytes (digits : Bytes) (n : Nat) :
    (digits.map fun b => Char.ofNat b.toNat).foldl
      (fun n c => 10 * n + Text.Decimal.digitValue c) n =
      n * Nat.pow 10 digits.length + number digits := by
  induction digits generalizing n with
  | nil => exact (Nat.mul_one n).symm
  | cons digit digits ih =>
    rw [List.map_cons, List.foldl_cons, ih, number, Text.Decimal.digitValue, Bytes.toNat_char,
      List.length_cons]
    show (10 * n + (digit.toNat - 48)) * Nat.pow 10 digits.length + number digits =
      n * (Nat.pow 10 digits.length * 10) +
        ((digit.toNat - 0x30) * Nat.pow 10 digits.length + number digits)
    rw [Nat.add_mul, Nat.mul_comm 10 n, Nat.mul_assoc n, Nat.mul_comm 10, Nat.add_assoc]

theorem read?_bytes_eq_some_iff {amount : Bytes} {n : Nat} :
    Text.Decimal.read? (amount.map fun b => Char.ofNat b.toNat) = some n ↔
      1 ≤ amount.length ∧ (∀ b ∈ amount, 0x30 ≤ b ∧ b ≤ 0x39) ∧ number amount = n := by
  have hvalue : Text.Decimal.value (amount.map fun b => Char.ofNat b.toNat) = number amount := by
    rw [Text.Decimal.value, foldl_digits_bytes, Nat.zero_mul, Nat.zero_add]
  rw [Text.Decimal.read?_eq_some_iff, hvalue, List.forall_mem_map]
  simp only [isDigit_byte, ne_eq, List.map_eq_nil_iff]
  exact and_congr_left fun _ => List.length_pos_iff.symm

theorem unitLength_byte {b : UInt8} {length : Nat} :
    unitLength (Char.ofNat b.toNat) = some length ↔ (b, length) ∈ units := by
  have hchar : ∀ c, unitLength c = some length ↔
      (c, length) ∈ [('H', 3600 * 1000000000), ('M', 60 * 1000000000), ('S', 1000000000),
        ('m', 1000000), ('u', 1000), ('n', 1)] := by
    intro c
    unfold unitLength
    split <;> simp_all [eq_comm]
  simp only [hchar, units, List.mem_cons, List.not_mem_nil, or_false, Prod.mk.injEq,
    Bytes.char_eq_iff, ← UInt8.toNat_inj]
  exact Iff.rfl

theorem readTimeout_concat_eq_some_iff {amount : List Char} {unit : Char} {time : Nat} :
    readTimeout (amount ++ [unit]) = some time ↔
      amount.length ≤ 8 ∧ ∃ n length, Text.Decimal.read? amount = some n ∧
        unitLength unit = some length ∧ n * length = time := by
  simp only [readTimeout, List.getLast?_concat, List.dropLast_concat]
  by_cases hlong : amount.length ≤ 8
  · rw [if_pos hlong]
    cases Text.Decimal.read? amount with
    | none => simp
    | some n =>
      cases unitLength unit with
      | none => simp
      | some length => simp [hlong]
  · simp [hlong]

theorem readTimeout_bytes_eq_some_iff {value : Bytes} {time : Nat} :
    readTimeout (value.map fun b => Char.ofNat b.toNat) = some time ↔ Allows value time := by
  constructor
  · intro htime
    rcases List.eq_nil_or_concat value with rfl | ⟨amount, unit, rfl⟩
    · cases htime
    · rw [List.concat_eq_append, List.map_append, List.map_singleton,
        readTimeout_concat_eq_some_iff, List.length_map] at htime
      obtain ⟨hlong, n, length, hread, hunit, rfl⟩ := htime
      obtain ⟨hpos, hdigits, rfl⟩ := read?_bytes_eq_some_iff.mp hread
      exact ⟨amount, unit, length, List.concat_eq_append, hpos, hlong, hdigits,
        unitLength_byte.mp hunit, rfl⟩
  · rintro ⟨amount, unit, length, rfl, hpos, hlong, hdigits, hunit, rfl⟩
    rw [List.map_append, List.map_singleton, readTimeout_concat_eq_some_iff, List.length_map]
    exact ⟨hlong, _, length, read?_bytes_eq_some_iff.mpr ⟨hpos, hdigits, rfl⟩,
      unitLength_byte.mpr hunit, rfl⟩

theorem printable_of_allows {value : Bytes} {time : Nat} (h : Allows value time) :
    ∀ b ∈ value, Metadata.Printable b := by
  obtain ⟨amount, unit, length, rfl, -, -, hdigits, hunit, -⟩ := h
  intro b hb
  rcases List.mem_append.mp hb with hb | hb
  · obtain ⟨hlo, hhi⟩ := hdigits b hb
    exact .inr ⟨UInt8.le_trans (by decide) hlo, UInt8.le_trans hhi (by decide)⟩
  · have hprintable : ∀ u ∈ units, 0x20 ≤ u.1 ∧ u.1 ≤ 0x7e := by decide
    rw [List.mem_singleton.mp hb]
    exact .inr (hprintable _ hunit)

theorem timeout?_eq_some_iff {m : Metadata} {time : Nat} :
    timeout? m = some time ↔
      ∃ value, (m.values timeoutName).head? = some value ∧ Allows value time := by
  rw [timeout?]
  cases (m.values timeoutName).head? with
  | none => simp
  | some value =>
    simp only [Option.some.injEq, exists_eq_left']
    cases ht : Metadata.text? value with
    | none =>
      constructor
      · intro h
        cases h
      · intro h
        rw [Metadata.text?_eq_some_iff.mpr ⟨printable_of_allows h, rfl⟩] at ht
        cases ht
    | some cs =>
      obtain ⟨-, rfl⟩ := Metadata.text?_eq_some_iff.mp ht
      exact readTimeout_bytes_eq_some_iff

theorem timeout?_isSome_iff {m : Metadata} :
    (timeout? m).isSome = true ↔
      ∃ value, (m.values timeoutName).head? = some value ∧ IsTimeout value := by
  simp only [Option.isSome_iff_exists, timeout?_eq_some_iff, isTimeout_iff]
  constructor
  · rintro ⟨time, value, hvalue, htime⟩
    exact ⟨value, hvalue, time, htime⟩
  · rintro ⟨value, hvalue, time, htime⟩
    exact ⟨time, value, hvalue, htime⟩

end CallContext

namespace Text.Percent

theorem printable_hexDigit : ∀ d < 16, 0x21 ≤ (hexDigit d).toNat ∧ (hexDigit d).toNat ≤ 0x7e := by
  decide

theorem printable_of_isPlain {b : UInt8} (h : isPlain b = true) :
    0x21 ≤ (Char.ofNat b.toNat).toNat ∧ (Char.ofNat b.toNat).toNat ≤ 0x7e := by
  simp only [isPlain, Bool.and_eq_true, decide_eq_true_eq, Bool.not_eq_true',
    UInt8.le_iff_toNat_le, UInt8.lt_iff_toNat_lt] at h
  obtain ⟨⟨hlow, hhigh⟩, hreserved⟩ := h
  -- The blank is printable but reserved.
  have hblank : b.toNat ≠ 32 := by
    intro hb
    rw [show b = 32 from UInt8.toNat_inj.mp hb] at hreserved
    exact absurd hreserved (by decide)
  have hlow : 32 ≤ b.toNat := hlow
  have hhigh : b.toNat < 127 := hhigh
  rw [Bytes.toNat_char]
  omega

theorem printable_escape (b : UInt8) : ∀ c ∈ escape b, 0x21 ≤ c.toNat ∧ c.toNat ≤ 0x7e := by
  have hhigh : b.toNat / 16 < 16 := Nat.div_lt_of_lt_mul b.toNat_lt
  have hlow : b.toNat % 16 < 16 := Nat.mod_lt _ (by decide)
  intro c hc
  rw [escape] at hc
  split at hc
  · rename_i hplain
    rw [List.mem_singleton.mp hc]
    exact printable_of_isPlain hplain
  · simp only [List.mem_cons, List.not_mem_nil, or_false] at hc
    rcases hc with rfl | rfl | rfl
    · decide
    · exact printable_hexDigit _ hhigh
    · exact printable_hexDigit _ hlow

theorem printable_encode (s : String) :
    ∀ c ∈ (encode s).toList, 0x21 ≤ c.toNat ∧ c.toNat ≤ 0x7e := by
  intro c hc
  rw [encode, String.toList_ofList, List.mem_flatMap] at hc
  obtain ⟨b, -, hc⟩ := hc
  exact printable_escape b c hc

end Text.Percent

end Showroom
