import Showroom.Proofs.Text.Decimal
import Showroom.Yaml.Node

/-!
# Showroom.Proofs.Yaml.Whole

Whole numbers in documents. A plain scalar that is written as a whole number stands for it as long
as it has 64 bits. A larger one that is written in decimal stands for a real number, which need not
be the same, and a larger one in another notation for its text.

* `Yaml.Node.Written`: the notations of whole numbers, of any size.
* `Yaml.Node.ofScalar_written`: what they stand for.
-/

namespace Showroom

namespace Text

/-- Decimal digits with or without a sign, and the number they stand for. -/
inductive Signed : List Char → Int → Prop where
  | plain {ds : List Char} {k : Nat} (digits : Decimal.read? ds = some k) : Signed ds k
  | plus {ds : List Char} {k : Nat} (digits : Decimal.read? ds = some k) : Signed ('+' :: ds) k
  | minus {ds : List Char} {k : Nat} (digits : Decimal.read? ds = some k) : Signed ('-' :: ds) (-k)

variable {cs : List Char} {n : Int}

theorem Decimal.exists_cons_of_read? {ds : List Char} {k : Nat} (h : Decimal.read? ds = some k) :
    ∃ d rest, ds = d :: rest ∧ Decimal.isDigit d = true := by
  obtain ⟨hne, hdigits, -⟩ := Decimal.read?_eq_some_iff.mp h
  obtain ⟨d, rest, rfl⟩ := List.exists_cons_of_ne_nil hne
  exact ⟨d, rest, rfl, hdigits d List.mem_cons_self⟩

theorem Decimal.toNat_le_of_isDigit {c : Char} (h : Decimal.isDigit c = true) : c.toNat ≤ 57 := by
  simp only [Decimal.isDigit, Bool.and_eq_true, decide_eq_true_eq] at h
  exact h.2

theorem Signed.exists_cons (h : Signed cs n) : ∃ c rest, cs = c :: rest ∧ c.toNat ≤ 57 := by
  cases h with
  | plain digits =>
    obtain ⟨d, rest, rfl, hd⟩ := Decimal.exists_cons_of_read? digits
    exact ⟨d, rest, rfl, Decimal.toNat_le_of_isDigit hd⟩
  | plus digits => exact ⟨_, _, rfl, by decide⟩
  | minus digits => exact ⟨_, _, rfl, by decide⟩

end Text

namespace Yaml.Node

open Text (Signed)
open Text.Decimal (read? isDigit digitValue)

/-- The number of any size that digits of a base stand for. -/
def digitsIn? (base : Nat) (ds : List Char) : Option Nat :=
  if ds.isEmpty then none
  else match ds.mapM Bytes.hexValue? with
    | none => none
    | some vs => if vs.all (· < base) then some (vs.foldl (fun v d => base * v + d) 0) else none

/-- The same with or without a sign. -/
def wholeIn? (base : Nat) : List Char → Option Int
  | '-' :: ds => (digitsIn? base ds).map fun k : Nat => -(k : Int)
  | '+' :: ds => (digitsIn? base ds).map fun k : Nat => (k : Int)
  | ds => (digitsIn? base ds).map fun k : Nat => (k : Int)

/-- The whole numbers of 64 bits. -/
def Fits (n : Int) : Prop := -0x8000000000000000 ≤ n ∧ n < 0x8000000000000000

instance (n : Int) : Decidable (Fits n) := inferInstanceAs (Decidable (_ ∧ _))

/-- A whole number of any size in one of its notations: decimal, or after `0x` and `0o` with sixteen
and eight digits. -/
inductive Written : List Char → Int → Prop where
  | decimal {cs : List Char} {n : Int} (h : Signed cs n) : Written cs n
  | hexadecimal {ds : List Char} {n : Int} (h : wholeIn? 16 ds = some n) :
      Written ('0' :: 'x' :: ds) n
  | octal {ds : List Char} {n : Int} (h : wholeIn? 8 ds = some n) : Written ('0' :: 'o' :: ds) n

variable {base : Nat} {cs ds : List Char} {n : Int} {k : Nat}

theorem filter_digitsIn? (base : Nat) (ds : List Char) (sign : Nat → Int) :
    ((digitsIn? base ds).map sign).filter (fun n => Fits n) =
      if ds.isEmpty then none
      else match ds.mapM Bytes.hexValue? with
        | none => none
        | some vs =>
          let n := sign (vs.foldl (fun v d => base * v + d) 0)
          if vs.all (· < base) && -0x8000000000000000 ≤ n && n < 0x8000000000000000 then some n
          else none := by
  rw [digitsIn?]
  split
  · rfl
  · cases ds.mapM Bytes.hexValue? with
    | none => rfl
    | some vs =>
      dsimp only
      cases vs.all (· < base) with
      | false => rfl
      | true =>
        simp only [Option.map_some, if_true, Option.filter, Bool.true_and, Bool.and_eq_true,
          decide_eq_true_eq]
        rfl

theorem readWhole_eq (base : Nat) (cs : List Char) :
    readWhole base cs = (wholeIn? base cs).filter fun n => Fits n := by
  unfold readWhole
  split
  rename_i negative digits hsign
  split at hsign
  · cases hsign
    rw [wholeIn?, filter_digitsIn?]
    rfl
  · cases hsign
    rw [wholeIn?, filter_digitsIn?]
    rfl
  · rename_i hminus hplus
    cases hsign
    rw [wholeIn?, filter_digitsIn?]
    · rfl
    · exact hminus
    · exact hplus

theorem hexValue?_of_isDigit {c : Char} (h : isDigit c = true) :
    Bytes.hexValue? c = some (digitValue c) := by
  simp only [isDigit, Bool.and_eq_true, decide_eq_true_eq] at h
  rw [Bytes.hexValue?, if_pos h]
  rfl

theorem mapM_hexValue?_of_isDigit (h : ∀ c ∈ ds, isDigit c = true) :
    ds.mapM Bytes.hexValue? = some (ds.map digitValue) := by
  induction ds with
  | nil => rfl
  | cons c ds ih =>
    rw [List.mapM_cons, hexValue?_of_isDigit (h c List.mem_cons_self),
      ih fun c hc => h c (List.mem_cons_of_mem _ hc)]
    rfl

theorem digitsIn?_ten (h : read? ds = some k) : digitsIn? 10 ds = some k := by
  obtain ⟨hne, hdigits, rfl⟩ := Text.Decimal.read?_eq_some_iff.mp h
  have hsmall : (ds.map digitValue).all (· < 10) = true := by
    rw [List.all_eq_true]
    intro v hv
    obtain ⟨c, hc, rfl⟩ := List.mem_map.mp hv
    have hle := Text.Decimal.toNat_le_of_isDigit (hdigits c hc)
    rw [decide_eq_true_eq, digitValue]
    omega
  rw [digitsIn?, mapM_hexValue?_of_isDigit hdigits, if_neg (by simpa using hne)]
  simp only [hsmall, if_true, List.foldl_map]
  rfl

theorem wholeIn?_ten (h : Signed cs n) : wholeIn? 10 cs = some n := by
  cases h with
  | plain digits =>
    obtain ⟨d, rest, rfl, hd⟩ := Text.Decimal.exists_cons_of_read? digits
    rw [wholeIn?, digitsIn?_ten digits, Option.map_some]
    · rintro ds heq
      cases heq
      exact absurd hd (by decide)
    · rintro ds heq
      cases heq
      exact absurd hd (by decide)
  | plus digits => rw [wholeIn?, digitsIn?_ten digits, Option.map_some]
  | minus digits => rw [wholeIn?, digitsIn?_ten digits, Option.map_some]

theorem readWhole_ten (h : Signed cs n) : readWhole 10 cs = if Fits n then some n else none := by
  rw [readWhole_eq, wholeIn?_ten h, Option.filter]
  simp only [decide_eq_true_eq]

theorem ofNotation_signed (h : Signed cs n) :
    ofNotation cs = none ∨ ofNotation cs = readWhole 10 cs := by
  cases h with
  | plain digits =>
    obtain ⟨-, hdigits, -⟩ := Text.Decimal.read?_eq_some_iff.mp digits
    left
    unfold ofNotation
    split
    · exact absurd (hdigits 'x' (by simp)) (by decide)
    · exact absurd (hdigits 'o' (by simp)) (by decide)
    · exact absurd (hdigits '+' (by simp)) (by decide)
    · rfl
  | plus digits =>
    right
    rw [readWhole_ten (.plus digits), ← readWhole_ten (.plain digits)]
    rfl
  | minus digits => exact .inl rfl

/-! ## Real numbers -/

theorem toLower_of_toNat_le {c : Char} (h : c.toNat ≤ 57) : c.toLower = c := by
  have table : ∀ n < 58, (Char.ofNat n).toLower = Char.ofNat n := by decide
  have hc := table c.toNat (Nat.lt_succ_of_le h)
  rwa [Char.ofNat_toNat] at hc

theorem ofList_cons_ne {c : Char} {rest : List Char} {s : String} (h : s.toList.head? ≠ some c) :
    String.ofList (c :: rest) ≠ s := by
  rintro rfl
  exact h (by rw [String.toList_ofList, List.head?_cons])

theorem readName_of_toNat_le {c : Char} {rest : List Char} (h : c.toNat ≤ 57) :
    Binary64.readName (c :: rest) = none := by
  have hne : ∀ {d : Char}, 57 < d.toNat → some d ≠ some c := by
    rintro d hd heq
    cases heq
    omega
  rw [Binary64.readName, List.map_cons, toLower_of_toNat_le h]
  rw [if_neg, if_neg]
  · exact ofList_cons_ne (s := "nan") (hne (by decide))
  · rintro (heq | heq)
    · exact ofList_cons_ne (s := "inf") (hne (by decide)) heq
    · exact ofList_cons_ne (s := "infinity") (hne (by decide)) heq

theorem takeWhile_isDigit (h : ∀ c ∈ ds, isDigit c = true) :
    ds.takeWhile isDigit = ds ∧ ds.dropWhile isDigit = [] := by
  induction ds with
  | nil => exact ⟨rfl, rfl⟩
  | cons c ds ih =>
    have hc := h c List.mem_cons_self
    obtain ⟨htake, hdrop⟩ := ih fun c hc => h c (List.mem_cons_of_mem _ hc)
    rw [List.takeWhile_cons_of_pos hc, List.dropWhile_cons_of_pos hc, htake, hdrop]
    exact ⟨rfl, rfl⟩

theorem readUnsigned_digits (h : read? ds = some k) :
    Binary64.readUnsigned ds = some (Binary64.ofScientific k 0) := by
  obtain ⟨hne, hdigits, rfl⟩ := Text.Decimal.read?_eq_some_iff.mp h
  obtain ⟨htake, hdrop⟩ := takeWhile_isDigit hdigits
  unfold Binary64.readUnsigned
  simp only [htake, hdrop, List.append_nil]
  rw [if_neg (by simpa using hne)]
  rfl

theorem ofDecimal?_zero {c : Char} (hc : c = 'x' ∨ c = 'o') :
    Binary64.ofDecimal? ('0' :: c :: ds) = none := by
  have hdigit : isDigit c = false := by rcases hc with rfl | rfl <;> decide
  have hunsigned : Binary64.readUnsigned ('0' :: c :: ds) = none := by
    have htake : ('0' :: c :: ds).takeWhile isDigit = ['0'] := by
      rw [List.takeWhile_cons_of_pos (by decide), List.takeWhile_cons_of_neg (by simp [hdigit])]
    have hdrop : ('0' :: c :: ds).dropWhile isDigit = c :: ds := by
      rw [List.dropWhile_cons_of_pos (by decide), List.dropWhile_cons_of_neg (by simp [hdigit])]
    unfold Binary64.readUnsigned
    simp only [htake, hdrop]
    rcases hc with rfl | rfl <;> rfl
  change (Binary64.readName ('0' :: c :: ds)).or (Binary64.readUnsigned ('0' :: c :: ds)) = none
  rw [readName_of_toNat_le (by decide), hunsigned, Option.none_or]

theorem ofDecimal?_signed (h : Signed cs n) :
    ∃ x, Binary64.ofDecimal? cs = some x ∧
      (0 < n → x = Binary64.ofScientific n.natAbs 0) ∧
      (n < 0 → x = Binary64.neg (Binary64.ofScientific n.natAbs 0)) := by
  have hread : ∀ {ds : List Char} {k : Nat}, read? ds = some k →
      (Binary64.readName ds).or (Binary64.readUnsigned ds) = some (Binary64.ofScientific k 0) := by
    intro ds k digits
    obtain ⟨d, rest, rfl, hd⟩ := Text.Decimal.exists_cons_of_read? digits
    rw [readName_of_toNat_le (Text.Decimal.toNat_le_of_isDigit hd), readUnsigned_digits digits,
      Option.none_or]
  cases h with
  | plain digits =>
    refine ⟨_, ?_, fun _ => rfl, fun hneg => by omega⟩
    obtain ⟨d, rest, rfl, hd⟩ := Text.Decimal.exists_cons_of_read? digits
    unfold Binary64.ofDecimal?
    split
    · rename_i hminus
      cases hminus
      exact absurd hd (by decide)
    · rename_i hplus
      cases hplus
      exact absurd hd (by decide)
    · exact hread digits
  | plus digits =>
    exact ⟨_, hread digits, fun _ => rfl, fun hneg => by omega⟩
  | minus digits =>
    refine ⟨_, ?_, fun hpos => by omega, fun _ => rfl⟩
    rw [Binary64.ofDecimal?, hread digits, Option.map_some, Int.natAbs_neg, Int.natAbs_natCast]

/-! ## Scalars -/

/-- The nodes that may come of a whole number. A blank comes of one with a tag that does not go with
its notation or its size. -/
inductive Stands (cs : List Char) (n : Int) : Node → Prop where
  | whole (fits : Fits n) : Stands cs n (.whole n)
  | real (large : ¬ Fits n) (decimal : Signed cs n) : Stands cs n (.real cs)
  | text (large : ¬ Fits n) {c : Char} {ds : List Char} (split : cs = '0' :: c :: ds)
      (mark : c = 'x' ∨ c = 'o') : Stands cs n (.text cs)
  | blank : Stands cs n .blank

/-- Nothing that is written like a number is one of the words that stand for something else. -/
theorem ofPlain_eq {c : Char} {rest : List Char} (hc : c.toNat ≤ 57) :
    ofPlain (c :: rest) = match ofNotation (c :: rest), readWhole 10 (c :: rest) with
      | some n, _ => .whole n
      | none, some n => .whole n
      | none, none => if isReal (c :: rest) then .real (c :: rest) else .text (c :: rest) := by
  have hne : ∀ {d : Char} {word : List Char}, 57 < d.toNat → c :: rest ≠ d :: word := by
    rintro d word hd heq
    cases heq
    omega
  rw [ofPlain]
  cases ofNotation (c :: rest) with
  | some n => rfl
  | none =>
    have hnothing : ¬ (c :: rest = "~".toList ∨ c :: rest = "null".toList) := by
      rintro (heq | heq)
      · exact hne (d := '~') (by decide) heq
      · exact hne (d := 'n') (by decide) heq
    have htrue : c :: rest ≠ "true".toList := hne (d := 't') (by decide)
    have hfalse : c :: rest ≠ "false".toList := hne (d := 'f') (by decide)
    rw [if_neg hnothing, if_neg htrue, if_neg hfalse]
    cases readWhole 10 (c :: rest) <;> rfl

theorem readWhole_of_marked {c : Char} (mark : c = 'x' ∨ c = 'o') :
    readWhole 10 ('0' :: c :: ds) = none := by
  have hnone : ('0' :: c :: ds).mapM Bytes.hexValue? = none := by
    rw [List.mapM_cons, List.mapM_cons]
    rcases mark with rfl | rfl <;> rfl
  have hdigits : digitsIn? 10 ('0' :: c :: ds) = none := by
    rw [digitsIn?, hnone]
    rfl
  rw [readWhole_eq, wholeIn?, hdigits]
  · rfl
  · simp
  · simp

theorem isReal_of_marked {c : Char} (mark : c = 'x' ∨ c = 'o') :
    isReal ('0' :: c :: ds) = false := by
  have hspecial : ∀ s ∈ specialReals, s.toList.head? ≠ some '0' := by decide
  have hnot : specialReals.contains (String.ofList ('0' :: c :: ds)) = false := by
    rw [List.contains_eq_mem, decide_eq_false_iff_not]
    exact fun hmem => ofList_cons_ne (hspecial _ hmem) rfl
  rw [isReal, hnot, ofDecimal?_zero mark]
  rfl

theorem ofPlain_marked {c : Char} {base : Nat} (mark : c = 'x' ∨ c = 'o')
    (hmarked : ofNotation ('0' :: c :: ds) = readWhole base ds) (h : wholeIn? base ds = some n) :
    Stands ('0' :: c :: ds) n (ofPlain ('0' :: c :: ds)) := by
  rw [ofPlain_eq (by decide), hmarked, readWhole_eq, h, Option.filter]
  by_cases hfits : Fits n
  · rw [if_pos (decide_eq_true hfits)]
    exact .whole hfits
  · rw [if_neg (by simpa using hfits), readWhole_of_marked mark, isReal_of_marked mark]
    exact .text hfits rfl mark

theorem ofPlain_signed (h : Signed cs n) : Stands cs n (ofPlain cs) := by
  obtain ⟨c, rest, hsplit, hc⟩ := h.exists_cons
  have hreal : isReal cs = true := by
    obtain ⟨x, hx, -⟩ := ofDecimal?_signed h
    rw [isReal, hx, Option.isSome_some, Bool.or_true]
  have hmarked := ofNotation_signed h
  have hread := readWhole_ten h
  subst hsplit
  rw [ofPlain_eq hc, hreal]
  rw [hread] at hmarked ⊢
  by_cases hfits : Fits n
  · rw [if_pos hfits] at hmarked ⊢
    rcases hmarked with hnone | hsome
    · rw [hnone]
      exact .whole hfits
    · rw [hsome]
      exact .whole hfits
  · rw [if_neg hfits] at hmarked ⊢
    have hnone := hmarked.elim id id
    rw [hnone]
    exact .real hfits h

/-- **What a whole number stands for.** -/
theorem ofScalar_written {tag : Option (List Char × List Char)} (h : Written cs n)
    (htag : tag = none ∨ tag = some (['!', '!'], "int".toList)) :
    Stands cs n (ofScalar true tag cs) := by
  rcases htag with rfl | rfl
  · change Stands cs n (ofPlain cs)
    cases h with
    | decimal h => exact ofPlain_signed h
    | hexadecimal h => exact ofPlain_marked (.inl rfl) rfl h
    | octal h => exact ofPlain_marked (.inr rfl) rfl h
  · change Stands cs n ((readWhole 10 cs).elim blank whole)
    cases h with
    | decimal h =>
      rw [readWhole_ten h]
      by_cases hfits : Fits n
      · rw [if_pos hfits]
        exact .whole hfits
      · rw [if_neg hfits]
        exact .blank
    | hexadecimal h =>
      rw [readWhole_of_marked (.inl rfl)]
      exact .blank
    | octal h =>
      rw [readWhole_of_marked (.inr rfl)]
      exact .blank

end Yaml.Node

end Showroom
