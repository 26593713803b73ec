import Mathlib.Data.List.Basic
import Showroom.Json.Value
import Showroom.Json.Writer
import Showroom.Proofs.Text.Decimal

/-!
# Showroom.Proofs.Json.Writer

Strings, whole numbers and objects are read as they are written, whatever characters a string
holds.

* `readString_escape`: a string is read up to its closing quote and no further.
* `textOf_escape`: what is read stands for the text that was written.
* `readMembers_writeMembers`: the members of an object, given how each value is read.
-/

namespace Showroom.Json

/-! ## Strings -/

def escape (s : String) : Bytes := (Bytes.ofText s).flatMap escapeByte

theorem writeString_eq (s : String) : writeString s = 34 :: escape s ++ [34] := rfl

theorem hexQuad_hexByte : ∀ n < 32,
    isHex (hexByte (n / 16)) ∧ isHex (hexByte (n % 16)) ∧
      hexQuad 48 48 (hexByte (n / 16)) (hexByte (n % 16)) = n := by decide

theorem charBytes_of_lt {n : Nat} (h : n < 128) : charBytes n = [UInt8.ofNat n] := by
  have hn : (Char.ofNat n).toNat = n := by
    rw [Char.ofNat, dif_pos (Or.inl (by omega))]
    rfl
  have hs : (Char.ofNat n).toString = String.ofList [Char.ofNat n] := rfl
  rw [charBytes, hs, Bytes.ofText_ascii (by simp [hn, h]), List.map_cons, hn]
  rfl

theorem readString_escapeByte (b : UInt8) (tail : Bytes) :
    readString (escapeByte b ++ tail) =
      (readString tail).map fun r => (escapeByte b ++ r.1, r.2) := by
  unfold escapeByte
  split
  · rfl
  split
  · rfl
  split
  · rfl
  split
  · rfl
  split
  · rfl
  split
  · rfl
  split
  · rfl
  split
  · rename_i hb
    obtain ⟨h1, h2, -⟩ := hexQuad_hexByte b.toNat hb
    have h48 : isHex 48 = true := by decide
    simp only [List.cons_append, List.nil_append, readString, h48, h1, h2, Bool.and_self, if_true]
  · rename_i hquote hslash _ _ _ _ _ hb
    rw [List.singleton_append, readString.eq_5, if_neg hb]
    · rfl
    · exact hquote
    · intro _ _ _ _ _ h
      exact absurd h hslash
    · intro _ _ h
      exact absurd h hslash

theorem readString_escape (s : String) (rest : Bytes) :
    readString (escape s ++ 34 :: rest) = some (escape s, rest) := by
  unfold escape
  induction Bytes.ofText s with
  | nil => rfl
  | cons b bs ih => rw [List.flatMap_cons, List.append_assoc, readString_escapeByte, ih]; rfl

theorem unescape_escapeByte (b : UInt8) (tail : Bytes) :
    unescape (escapeByte b ++ tail) = (unescape tail).map (b :: ·) := by
  unfold escapeByte
  split
  · subst b; rfl
  split
  · subst b; rfl
  split
  · subst b; rfl
  split
  · subst b; rfl
  split
  · subst b; rfl
  split
  · subst b; rfl
  split
  · subst b; rfl
  split
  · rename_i hb
    obtain ⟨-, -, hquad⟩ := hexQuad_hexByte b.toNat hb
    have hlt : b.toNat < 32 := hb
    rw [unescape.eq_def]
    simp only [List.cons_append, List.nil_append, hquad]
    rw [if_neg (by omega), if_neg (by omega), charBytes_of_lt (by omega), UInt8.ofNat_toNat]
    rfl
  · rename_i hslash _ _ _ _ _ hb
    rw [List.singleton_append, unescape.eq_5]
    · intro _ _ _ _ _ h
      exact absurd h hslash
    · intro _ _ h
      exact absurd h hslash

theorem textOf_escape (s : String) : textOf (escape s) = some s := by
  have hunescape : unescape (escape s) = some (Bytes.ofText s) := by
    unfold escape
    induction Bytes.ofText s with
    | nil => rfl
    | cons b bs ih => rw [List.flatMap_cons, unescape_escapeByte, ih]; rfl
  rw [textOf, hunescape, Option.bind_some, Bytes.toText?_ofText]

/-! ## Whole numbers -/

def decimal (n : Nat) : Bytes := Bytes.ofText (String.ofList (Text.Decimal.digits n))

theorem decimal_eq_map (n : Nat) :
    decimal n = (Text.Decimal.digits n).map fun c => UInt8.ofNat c.toNat :=
  Text.Decimal.ofText_digits n

theorem toNat_ofNat_digit {c : Char} (h : Text.Decimal.isDigit c = true) :
    (UInt8.ofNat c.toNat).toNat = c.toNat := by
  rw [UInt8.toNat_ofNat', Nat.mod_eq_of_lt]
  exact Nat.lt_trans (Text.Decimal.toNat_lt_of_isDigit h) (by decide)

theorem isDigit_of_mem_decimal {n : Nat} : ∀ b ∈ decimal n, isDigit b = true := by
  intro b hb
  rw [decimal_eq_map] at hb
  obtain ⟨c, hc, rfl⟩ := List.mem_map.mp hb
  have hdigit := Text.Decimal.isDigit_of_mem_digits n c hc
  have hnat := toNat_ofNat_digit hdigit
  simp only [Text.Decimal.isDigit, Bool.and_eq_true, decide_eq_true_eq] at hdigit
  have hlow : 48 ≤ c.toNat := hdigit.1
  have hhigh : c.toNat ≤ 57 := hdigit.2
  simp only [isDigit, Bool.and_eq_true, decide_eq_true_eq, UInt8.le_iff_toNat_le, hnat]
  exact ⟨hlow, hhigh⟩

theorem decimal_ne_nil (n : Nat) : decimal n ≠ [] := by
  rw [decimal_eq_map]
  exact fun h => Text.Decimal.digits_ne_nil n (List.map_eq_nil_iff.mp h)

theorem foldl_decimal (n : Nat) :
    (decimal n).foldl (fun n d => 10 * n + (d.toNat - 48)) 0 = n := by
  rw [decimal_eq_map, List.foldl_map]
  calc (Text.Decimal.digits n).foldl (fun n c => 10 * n + ((UInt8.ofNat c.toNat).toNat - 48)) 0
      = Text.Decimal.value (Text.Decimal.digits n) :=
        List.foldl_ext _ _ 0 fun _ c hc => by
          rw [toNat_ofNat_digit (Text.Decimal.isDigit_of_mem_digits n c hc)]
          rfl
    _ = n := Text.Decimal.value_digits n

theorem decimal_zero : decimal 0 = [48] := by
  rw [decimal_eq_map, Text.Decimal.digits_zero]
  rfl

theorem head?_decimal {n : Nat} (h : 0 < n) : (decimal n).head? ≠ some 48 := by
  rw [decimal_eq_map, List.head?_map]
  intro hc
  obtain ⟨c, hhead, hc⟩ := Option.map_eq_some_iff.mp hc
  have hdigit := Text.Decimal.isDigit_of_mem_digits n c (List.mem_of_mem_head? hhead)
  have hnat := toNat_ofNat_digit hdigit
  rw [hc] at hnat
  have hzero : c = '0' := Char.toNat_inj.mp hnat.symm
  exact Text.Decimal.head?_digits h (hzero ▸ hhead)

theorem readWhole_decimal {n : Nat} {b : UInt8} (hb : isDigit b = false) (rest : Bytes) :
    readWhole (decimal n ++ b :: rest) = some (decimal n, b :: rest) := by
  have hdigits : readDigits (decimal n ++ b :: rest) = some (decimal n, b :: rest) := by
    rw [readDigits, List.takeWhile_append_of_pos isDigit_of_mem_decimal,
      List.dropWhile_append_of_pos isDigit_of_mem_decimal, List.takeWhile_cons_of_neg (by simp [hb]),
      List.dropWhile_cons_of_neg (by simp [hb]), List.append_nil]
    split
    · rename_i h
      exact absurd h (decimal_ne_nil n)
    · rfl
  rw [readWhole, hdigits]
  split
  · rename_i h
    have hwhole := congrArg Prod.fst (Option.some.inj h)
    simp only at hwhole
    rcases Nat.eq_zero_or_pos n with rfl | hn
    · rw [decimal_zero] at hwhole
      cases hwhole
    · exact absurd (by rw [hwhole]; rfl) (head?_decimal hn)
  · rfl

theorem readUnsigned_decimal {n : Nat} {b : UInt8} (hb : b = 44 ∨ b = 125) (rest : Bytes) :
    readUnsigned (decimal n ++ b :: rest) = some (decimal n, b :: rest) := by
  have hwhole : readWhole (decimal n ++ b :: rest) = some (decimal n, b :: rest) :=
    readWhole_decimal (by rcases hb with rfl | rfl <;> decide) rest
  have hfraction : readFraction (b :: rest) = some ([], b :: rest) := by
    rcases hb with rfl | rfl <;> rfl
  have hexponent : readExponent (b :: rest) = some ([], b :: rest) := by
    rcases hb with rfl | rfl <;> rfl
  simp [readUnsigned, hwhole, hfraction, hexponent]

theorem skipBlank_cons {b : UInt8} (h : isBlank b = false) (bs : Bytes) :
    skipBlank (b :: bs) = b :: bs :=
  List.dropWhile_cons_of_neg (by simp [h])

theorem readValue_number {b : UInt8} (h : b = 45 ∨ isDigit b = true) (fuel : Nat) (bs : Bytes) :
    readValue (fuel + 1) (b :: bs) =
      (readNumber (b :: bs)).map fun r => (number r.1, r.2) := by
  have hb : 45 ≤ b.toNat ∧ b.toNat ≤ 57 := by
    rcases h with rfl | h
    · decide
    · simp only [isDigit, Bool.and_eq_true, decide_eq_true_eq, UInt8.le_iff_toNat_le] at h
      exact ⟨Nat.le_trans (by decide) h.1, h.2⟩
  have hne : ∀ c : UInt8, 57 < c.toNat ∨ c.toNat < 45 → b ≠ c := by
    rintro c hc rfl
    omega
  have hblank : isBlank b = false := by
    simp [isBlank, hne 32 (by decide), hne 9 (by decide), hne 10 (by decide), hne 13 (by decide)]
  rw [readValue.eq_2, skipBlank_cons hblank]
  split
  · rename_i he
    exact absurd (List.cons.inj he).1 (hne 110 (by decide))
  · rename_i he
    exact absurd (List.cons.inj he).1 (hne 116 (by decide))
  · rename_i he
    exact absurd (List.cons.inj he).1 (hne 102 (by decide))
  · rename_i he
    exact absurd (List.cons.inj he).1 (hne 34 (by decide))
  · rename_i he
    exact absurd (List.cons.inj he).1 (hne 91 (by decide))
  · rename_i he
    exact absurd (List.cons.inj he).1 (hne 123 (by decide))
  · rfl

def integer (n : Int) : Bytes := Bytes.ofText (String.ofList (Text.Decimal.signed n))

theorem integer_of_neg {n : Int} (h : n < 0) : integer n = 45 :: decimal n.natAbs := by
  rw [integer, Text.Decimal.signed, if_pos h, Bytes.ofText_ofList, List.flatMap_cons,
    ← Bytes.ofText_ofList]
  rfl

theorem integer_of_nonneg {n : Int} (h : ¬ n < 0) : integer n = decimal n.natAbs := by
  rw [integer, Text.Decimal.signed, if_neg h]
  rfl

theorem exists_decimal_eq_cons (n : Nat) : ∃ d ds, decimal n = d :: ds ∧ isDigit d = true := by
  cases h : decimal n with
  | nil => exact absurd h (decimal_ne_nil n)
  | cons d ds => exact ⟨d, ds, rfl, isDigit_of_mem_decimal d (by rw [h]; exact List.mem_cons_self)⟩

theorem ne_minus_of_isDigit {d : UInt8} (h : isDigit d = true) : d ≠ 45 := by
  rintro rfl
  cases h

theorem integer?_integer (n : Int) : (number (integer n)).integer? = some n := by
  have hall : ∀ m, (decimal m).all isDigit = true := fun m =>
    List.all_eq_true.mpr isDigit_of_mem_decimal
  by_cases hn : n < 0
  · have hne : (decimal n.natAbs != [48]) = true := by
      rw [bne_iff_ne]
      intro h
      exact head?_decimal (n := n.natAbs) (by omega) (by rw [h]; rfl)
    rw [integer_of_neg hn, integer?]
    simp only [hall, hne, Bool.and_self, if_true, foldl_decimal]
    rw [Option.some.injEq]
    omega
  · obtain ⟨d, ds, hd, hdigit⟩ := exists_decimal_eq_cons n.natAbs
    have hds := hall n.natAbs
    have hvalue := foldl_decimal n.natAbs
    rw [hd] at hds hvalue
    rw [integer_of_nonneg hn, hd, integer?, if_pos hds, hvalue, Option.some.injEq]
    · omega
    · intro _ h
      exact absurd (List.cons.inj h).1 (ne_minus_of_isDigit hdigit)

/-! ## Objects -/

/-- Bytes that are read as a value wherever a comma or a closing brace comes after them. -/
def Stands (bs : Bytes) (v : Json) : Prop :=
  ∀ fuel b rest, b = 44 ∨ b = 125 → readValue (fuel + 1) (bs ++ b :: rest) = some (v, b :: rest)

theorem stands_writeString (s : String) : Stands (writeString s) (string (escape s)) := by
  intro fuel b rest _
  rw [writeString_eq, List.append_assoc, List.singleton_append, List.cons_append, readValue.eq_2,
    skipBlank_cons (by decide)]
  simp only [readString_escape, Option.map_some]

theorem stands_integer (n : Int) : Stands (integer n) (number (integer n)) := by
  intro fuel b rest hb
  obtain ⟨d, ds, hd, hdigit⟩ := exists_decimal_eq_cons n.natAbs
  have hread := readUnsigned_decimal (n := n.natAbs) hb rest
  by_cases hn : n < 0
  · rw [integer_of_neg hn, List.cons_append, readValue_number (.inl rfl), readNumber, hread]
    rfl
  · rw [integer_of_nonneg hn, hd, List.cons_append, readValue_number (.inr hdigit)]
    rw [hd, List.cons_append] at hread
    rw [readNumber.eq_2 _ (fun _ h => ne_minus_of_isDigit hdigit (List.cons.inj h).1), hread]
    rfl

def writeMember (m : String × Bytes) : Bytes := writeString m.1 ++ 58 :: m.2

def writeMembers : List (String × Bytes) → Bytes
  | [] => [125]
  | [m] => writeMember m ++ [125]
  | m :: ms => writeMember m ++ 44 :: writeMembers ms

/-- The name of a member and its value are read, and then all other members unless it is the
last. -/
theorem readMembers_member {bs : Bytes} {v : Json} (h : Stands bs v) {b : UInt8}
    (hb : b = 44 ∨ b = 125) (name : String) (fuel : Nat) (rest : Bytes) :
    readMembers (fuel + 2) (writeMember (name, bs) ++ b :: rest) =
      if b = 125 then some ([(escape name, v)], rest)
      else (readMembers (fuel + 1) rest).map fun r => ((escape name, v) :: r.1, r.2) := by
  have hvalue := h fuel b rest hb
  have hcolon : isBlank 58 = false := by decide
  have hblank : isBlank b = false := by rcases hb with rfl | rfl <;> decide
  rw [writeMember, writeString_eq, List.append_assoc, List.append_assoc, List.cons_append,
    List.singleton_append, List.cons_append, readMembers.eq_2, skipBlank_cons (by decide)]
  simp only [readString_escape, bind, Option.bind, skipBlank_cons hcolon, hvalue,
    skipBlank_cons hblank]
  rcases hb with rfl | rfl
  · show (readMembers (fuel + 1) rest).bind (fun r => some ((escape name, v) :: r.1, r.2)) = _
    cases readMembers (fuel + 1) rest <;> rfl
  · rfl

theorem readMembers_writeMembers {members : List (String × Bytes × Json)} (hne : members ≠ [])
    (hstands : ∀ m ∈ members, Stands m.2.1 m.2.2) {fuel : Nat} (hfuel : members.length < fuel)
    (rest : Bytes) :
    readMembers fuel (writeMembers (members.map fun m => (m.1, m.2.1)) ++ rest) =
      some (members.map fun m => (escape m.1, m.2.2), rest) := by
  induction members generalizing fuel with
  | nil => exact absurd rfl hne
  | cons m members ih =>
    obtain ⟨hm, hmembers⟩ := List.forall_mem_cons.mp hstands
    obtain ⟨fuel, rfl⟩ : ∃ n, fuel = n + 2 := ⟨fuel - 2, by rw [List.length_cons] at hfuel; omega⟩
    cases members with
    | nil =>
      simp only [List.map_cons, List.map_nil, writeMembers, List.append_assoc, List.singleton_append]
      exact readMembers_member hm (.inr rfl) m.1 fuel rest
    | cons next members =>
      have hleft : (next :: members).length < fuel + 1 := by
        rw [List.length_cons] at hfuel
        omega
      have hnext := ih (by simp) hmembers hleft
      simp only [List.map_cons] at hnext ⊢
      rw [writeMembers, List.append_assoc, List.cons_append, readMembers_member hm (.inl rfl), hnext]
      · rfl
      · simp

theorem length_le_writeMembers (members : List (String × Bytes)) :
    members.length ≤ (writeMembers members).length := by
  induction members using writeMembers.induct with
  | case1 => simp
  | case2 m => simp [writeMembers]
  | case3 m ms hne ih =>
    rw [writeMembers]
    · simp only [List.length_append, List.length_cons]
      omega
    · exact hne

theorem exists_writeMembers_eq_cons {members : List (String × Bytes)} (hne : members ≠ []) :
    ∃ bs, writeMembers members = 34 :: bs := by
  cases members with
  | nil => exact absurd rfl hne
  | cons m ms =>
    cases ms with
    | nil => exact ⟨_, rfl⟩
    | cons next ms => exact ⟨_, rfl⟩

theorem readValue_object (fuel : Nat) (bs : Bytes) :
    readValue (fuel + 1) (123 :: 34 :: bs) =
      (readMembers fuel (34 :: bs)).map fun r => (object r.1, r.2) := rfl

theorem parse_writeMembers {members : List (String × Bytes × Json)} (hne : members ≠ [])
    (hstands : ∀ m ∈ members, Stands m.2.1 m.2.2) :
    parse (123 :: writeMembers (members.map fun m => (m.1, m.2.1))) =
      some (object (members.map fun m => (escape m.1, m.2.2))) := by
  have hlength := length_le_writeMembers (members.map fun m => (m.1, m.2.1))
  rw [List.length_map] at hlength
  obtain ⟨bs, hbs⟩ := exists_writeMembers_eq_cons (mt List.map_eq_nil_iff.mp hne)
  have hfuel : members.length < 2 * (123 :: 34 :: bs).length + 1 := by
    rw [hbs] at hlength
    simp only [List.length_cons] at hlength ⊢
    omega
  have hread := readMembers_writeMembers hne hstands hfuel []
  rw [List.append_nil, hbs] at hread
  rw [hbs, parse, readValue_object, hread]
  rfl

theorem namedMembers_escape (members : List (String × Bytes × Json)) :
    namedMembers (members.map fun m => (escape m.1, m.2.2)) =
      some (members.map fun m => (m.1, m.2.2)) := by
  induction members with
  | nil => rfl
  | cons m members ih =>
    rw [List.map_cons, namedMembers, textOf_escape, ih]
    rfl

end Showroom.Json
