import Showroom.Proofs.Call.Headers
import Showroom.Proofs.Except

/-!
# Showroom.Proofs.Call.Deadline

The deadline of a call, exactly and in machine words. A time limit is cut into digits and unit by
counting bytes, which has no result inside a character, and is worked out in words, which a product
may not fit. `measured?` reads it that way and says so when something goes wrong. Nothing does: only
text that is all ASCII is cut, and eight digits of hours are far from the largest number of seconds.

* `CallContext.measured?`: reading a time limit in words.
* `CallContext.measured?_eq_ok`: nothing goes wrong, and the time is the exact one.
* `CallContext.deadline_decides`: which calls have a deadline, and when it is.
-/

namespace Showroom

namespace CallContext

/-- What can go wrong when a time limit is read. -/
inductive Mishap where
  | insideCharacter
  | overflow
deriving DecidableEq

/-- A length of time in words: whole seconds, and nanoseconds. -/
structure Span where
  seconds : UInt64
  nanos : UInt32
deriving DecidableEq

def Span.length (s : Span) : Nat := s.seconds.toNat * 1000000000 + s.nanos.toNat

/-- Whether UTF-8 can be cut at a place: at an end, or before a byte that begins a character. -/
def isBoundary (value : Bytes) (place : Nat) : Bool :=
  place = 0 || place = value.length || value[place]?.any fun b => b < 0x80 || 0xc0 ≤ b

def cutAt (value : Bytes) (place : Nat) : Except Mishap (Bytes × Bytes) :=
  if isBoundary value place then .ok (value.take place, value.drop place)
  else .error .insideCharacter

def times (a b : UInt64) : Except Mishap UInt64 :=
  if a.toNat * b.toNat < UInt64.size then .ok (a * b) else .error .overflow

def word? (digits : Bytes) : Option UInt64 :=
  if number digits < UInt64.size then some (UInt64.ofNat (number digits)) else none

def spanOf (amount : UInt64) : Bytes → Except Mishap (Option Span)
  | [0x48] => do
    let minutes ← times amount 60
    let seconds ← times minutes 60
    return some ⟨seconds, 0⟩
  | [0x4d] => do
    let seconds ← times amount 60
    return some ⟨seconds, 0⟩
  | [0x53] => .ok (some ⟨amount, 0⟩)
  | [0x6d] => .ok (some ⟨amount / 1000, (amount % 1000).toUInt32 * 1000000⟩)
  | [0x75] => .ok (some ⟨amount / 1000000, (amount % 1000000).toUInt32 * 1000⟩)
  | [0x6e] => .ok (some ⟨amount / 1000000000, (amount % 1000000000).toUInt32⟩)
  | _ => .ok none

def measure (value : Bytes) : Except Mishap (Option Span) :=
  if value.length < 2 || 9 < value.length then .ok none
  else do
    let (digits, unit) ← cutAt value (value.length - 1)
    if digits.all fun b => 0x30 ≤ b && b ≤ 0x39 then
      match word? digits with
      | some amount => spanOf amount unit
      | none => return none
    else return none

/-- The time that metadata allows, read in words. Only the first value counts, if it is text. -/
def measured? (m : Metadata) : Except Mishap (Option Span) :=
  match (m.values timeoutName).head? with
  | some value => if value.all Metadata.isTextByte then measure value else .ok none
  | none => .ok none

section Words

variable {amount : UInt64} {unit : UInt8} {length : Nat} {value digits : Bytes} {time : Nat}

theorem times_sixty {a : UInt64} (h : a.toNat < 10000000000) :
    ∃ product, times a 60 = .ok product ∧ product.toNat = a.toNat * 60 := by
  have hfits : a.toNat * (60 : UInt64).toNat < UInt64.size := by
    show a.toNat * 60 < 18446744073709551616
    omega
  refine ⟨a * 60, if_pos hfits, ?_⟩
  rw [UInt64.toNat_mul, Nat.mod_eq_of_lt hfits]
  rfl

theorem number_lt (h : ∀ b ∈ digits, 0x30 ≤ b ∧ b ≤ 0x39) :
    number digits < Nat.pow 10 digits.length := by
  induction digits with
  | nil => decide
  | cons digit digits ih =>
    obtain ⟨hdigit, hdigits⟩ := List.forall_mem_cons.mp h
    have hle : digit.toNat ≤ 0x39 := UInt8.le_iff_toNat_le.mp hdigit.2
    have hplace : (digit.toNat - 0x30) * Nat.pow 10 digits.length ≤
        9 * Nat.pow 10 digits.length := Nat.mul_le_mul_right _ (by omega)
    have hlength : Nat.pow 10 (digit :: digits).length = Nat.pow 10 digits.length * 10 := rfl
    have := ih hdigits
    rw [number, hlength]
    omega

theorem length_seconds (seconds : UInt64) :
    (Span.mk seconds 0).length = seconds.toNat * 1000000000 :=
  Nat.add_zero _

/-- Parts of a second, of which so many go into one, and which have so many nanoseconds. -/
theorem length_fraction {perSecond : UInt64} {nanos : UInt32}
    (h : perSecond.toNat * nanos.toNat = 1000000000) (amount : UInt64) :
    (Span.mk (amount / perSecond) ((amount % perSecond).toUInt32 * nanos)).length =
      amount.toNat * nanos.toNat := by
  have hperSecond : 0 < perSecond.toNat := Nat.pos_of_ne_zero fun h0 => by simp [h0] at h
  have hnanos : 0 < nanos.toNat := Nat.pos_of_ne_zero fun h0 => by simp [h0] at h
  have hrest : amount.toNat % perSecond.toNat * nanos.toNat < 1000000000 := by
    rw [← h]
    exact Nat.mul_lt_mul_of_pos_right (Nat.mod_lt _ hperSecond) hnanos
  have hword : amount.toNat % perSecond.toNat < 4294967296 := by
    have := Nat.le_mul_of_pos_right (amount.toNat % perSecond.toNat) hnanos
    omega
  have hproduct : ((amount % perSecond).toUInt32 * nanos).toNat =
      amount.toNat % perSecond.toNat * nanos.toNat := by
    rw [UInt32.toNat_mul, UInt64.toNat_toUInt32, UInt64.toNat_mod, Nat.mod_eq_of_lt hword]
    exact Nat.mod_eq_of_lt (by omega)
  rw [Span.length, hproduct, UInt64.toNat_div, ← h]
  calc amount.toNat / perSecond.toNat * (perSecond.toNat * nanos.toNat) +
        amount.toNat % perSecond.toNat * nanos.toNat
      = (perSecond.toNat * (amount.toNat / perSecond.toNat) + amount.toNat % perSecond.toNat) *
          nanos.toNat := by rw [Nat.add_mul, ← Nat.mul_assoc, Nat.mul_comm perSecond.toNat]
    _ = amount.toNat * nanos.toNat := by rw [Nat.div_add_mod]

theorem spanOf_of_mem_units (hamount : amount.toNat < 100000000) (h : (unit, length) ∈ units) :
    ∃ span, spanOf amount [unit] = .ok (some span) ∧ span.length = amount.toNat * length ∧
      span.seconds.toNat < 360000000000 := by
  have hquotient : ∀ n : UInt64, (amount / n).toNat < 360000000000 := by
    intro n
    have := Nat.div_le_self amount.toNat n.toNat
    rw [UInt64.toNat_div]
    omega
  simp only [units, List.mem_cons, List.not_mem_nil, or_false, Prod.mk.injEq] at h
  rcases h with ⟨rfl, rfl⟩ | ⟨rfl, rfl⟩ | ⟨rfl, rfl⟩ | ⟨rfl, rfl⟩ | ⟨rfl, rfl⟩ | ⟨rfl, rfl⟩
  · obtain ⟨minutes, hminutes, hm⟩ := times_sixty (a := amount) (by omega)
    obtain ⟨seconds, hseconds, hs⟩ := times_sixty (a := minutes) (by omega)
    refine ⟨⟨seconds, 0⟩, bind_eq_ok_iff.mpr ⟨minutes, hminutes,
      bind_eq_ok_iff.mpr ⟨seconds, hseconds, rfl⟩⟩, ?_, ?_⟩
    · rw [length_seconds]
      omega
    · dsimp only
      omega
  · obtain ⟨seconds, hseconds, hs⟩ := times_sixty (a := amount) (by omega)
    refine ⟨⟨seconds, 0⟩, bind_eq_ok_iff.mpr ⟨seconds, hseconds, rfl⟩, ?_, ?_⟩
    · rw [length_seconds]
      omega
    · dsimp only
      omega
  · exact ⟨⟨amount, 0⟩, rfl, length_seconds amount, Nat.lt_trans hamount (by decide)⟩
  · have hnanos : (1000 : UInt64).toNat * (1000000 : UInt32).toNat = 1000000000 := rfl
    have hlength := length_fraction hnanos
    exact ⟨_, rfl, hlength amount, hquotient _⟩
  · have hnanos : (1000000 : UInt64).toNat * (1000 : UInt32).toNat = 1000000000 := rfl
    have hlength := length_fraction hnanos
    exact ⟨_, rfl, hlength amount, hquotient _⟩
  · have hlength :=
      length_fraction (show (1000000000 : UInt64).toNat * (1 : UInt32).toNat = _ from rfl) amount
    rw [UInt32.mul_one] at hlength
    exact ⟨_, rfl, hlength, hquotient _⟩

theorem spanOf_of_not_mem_units (h : ∀ length, (unit, length) ∉ units) :
    spanOf amount [unit] = .ok none := by
  have hunit : unit ∉ units.map (·.1) := by
    rw [List.mem_map]
    rintro ⟨row, hrow, rfl⟩
    exact h _ hrow
  unfold spanOf
  split
  case h_7 => rfl
  all_goals
    rename_i heq
    cases heq
    exact absurd (by decide) hunit

/-- An ASCII character at the end is one byte, so the place before it is one to cut at. -/
theorem cutAt_concat (h : unit < 0x80) :
    cutAt (digits ++ [unit]) ((digits ++ [unit]).length - 1) = .ok (digits, [unit]) := by
  have hplace : (digits ++ [unit]).length - 1 = digits.length := by simp
  have hboundary : isBoundary (digits ++ [unit]) digits.length = true := by simp [isBoundary, h]
  rw [hplace, cutAt, if_pos hboundary, List.take_left, List.drop_left]

theorem allDigits_iff :
    (digits.all fun b => 0x30 ≤ b && b ≤ 0x39) = true ↔ ∀ b ∈ digits, 0x30 ≤ b ∧ b ≤ 0x39 := by
  simp only [List.all_eq_true, Bool.and_eq_true, decide_eq_true_eq]

theorem measure_concat (hpos : 1 ≤ digits.length) (hlong : digits.length ≤ 8) (h : unit < 0x80) :
    measure (digits ++ [unit]) =
      if digits.all fun b => 0x30 ≤ b && b ≤ 0x39 then
        match word? digits with
        | some amount => spanOf amount [unit]
        | none => .ok none
      else .ok none := by
  have hlength : ¬ ((digits ++ [unit]).length < 2 || 9 < (digits ++ [unit]).length) = true := by
    rw [List.length_append, List.length_singleton, Bool.or_eq_true, decide_eq_true_eq,
      decide_eq_true_eq]
    omega
  rw [measure, if_neg hlength, cutAt_concat h]
  rfl

theorem measure_of_digits (hpos : 1 ≤ digits.length) (hlong : digits.length ≤ 8)
    (hdigits : ∀ b ∈ digits, 0x30 ≤ b ∧ b ≤ 0x39) (h : unit < 0x80) :
    ∃ amount : UInt64, amount.toNat = number digits ∧ amount.toNat < 100000000 ∧
      measure (digits ++ [unit]) = spanOf amount [unit] := by
  have hnumber : number digits < 100000000 :=
    Nat.lt_of_lt_of_le (number_lt hdigits) (Nat.pow_le_pow_right (by decide) hlong)
  have hword : number digits < UInt64.size := Nat.lt_trans hnumber (by decide)
  have hamount : (UInt64.ofNat (number digits)).toNat = number digits :=
    UInt64.toNat_ofNat_of_lt hword
  refine ⟨UInt64.ofNat (number digits), hamount, by rwa [hamount], ?_⟩
  rw [measure_concat hpos hlong h, if_pos (allDigits_iff.mpr hdigits), word?, if_pos hword]

theorem measure_of_allows (h : Allows value time) :
    ∃ span, measure value = .ok (some span) ∧ span.length = time ∧
      span.seconds.toNat < 360000000000 := by
  have hprintable := printable_of_allows h
  obtain ⟨digits, unit, length, rfl, hpos, hlong, hdigits, hunit, rfl⟩ := h
  have hascii : unit < 0x80 := (hprintable unit (by simp)).lt
  obtain ⟨amount, hamount, hbound, hmeasure⟩ := measure_of_digits hpos hlong hdigits hascii
  rw [hmeasure, ← hamount]
  exact spanOf_of_mem_units hbound hunit

theorem measure_of_not_allows (hprintable : ∀ b ∈ value, Metadata.Printable b)
    (h : ∀ time, ¬ Allows value time) : measure value = .ok none := by
  by_cases hlength : value.length < 2 ∨ 9 < value.length
  · rw [measure, if_pos (by simpa using hlength)]
  · rcases List.eq_nil_or_concat value with rfl | ⟨digits, unit, rfl⟩
    · exact absurd (by decide) hlength
    · rw [List.concat_eq_append] at *
      rw [List.length_append, List.length_singleton] at hlength
      have hascii : unit < 0x80 := (hprintable unit (by simp)).lt
      have hpos : 1 ≤ digits.length := by omega
      have hlong : digits.length ≤ 8 := by omega
      by_cases hdigits : ∀ b ∈ digits, 0x30 ≤ b ∧ b ≤ 0x39
      · obtain ⟨amount, -, -, hmeasure⟩ := measure_of_digits hpos hlong hdigits hascii
        rw [hmeasure]
        refine spanOf_of_not_mem_units fun length hunit => ?_
        exact h _ ⟨digits, unit, length, rfl, hpos, hlong, hdigits, hunit, rfl⟩
      · rw [measure_concat hpos hlong hascii, if_neg (mt allDigits_iff.mp hdigits)]

end Words

theorem measured?_eq_ok (m : Metadata) :
    ∃ limit, measured? m = .ok limit ∧ timeout? m = limit.map Span.length ∧
      ∀ span ∈ limit, span.seconds.toNat < 360000000000 := by
  by_cases hallowed : ∃ time, timeout? m = some time
  · obtain ⟨time, htime⟩ := hallowed
    obtain ⟨value, hvalue, hallows⟩ := timeout?_eq_some_iff.mp htime
    obtain ⟨span, hmeasure, hlength, hbound⟩ := measure_of_allows hallows
    have htext : value.all Metadata.isTextByte = true :=
      List.all_eq_true.mpr fun b hb => Metadata.isTextByte_iff.mpr (printable_of_allows hallows b hb)
    refine ⟨some span, ?_, by rw [htime, Option.map_some, hlength], by simpa using hbound⟩
    simp only [measured?, hvalue, htext, if_true, hmeasure]
  · have hnone : timeout? m = none := Option.eq_none_iff_forall_ne_some.mpr fun time htime =>
      hallowed ⟨time, htime⟩
    refine ⟨none, ?_, hnone, by simp⟩
    rw [measured?]
    cases hvalue : (m.values timeoutName).head? with
    | none => rfl
    | some value =>
      dsimp only
      split
      · rename_i htext
        refine measure_of_not_allows (fun b hb => ?_) fun time htime => ?_
        · exact Metadata.isTextByte_iff.mp (List.all_eq_true.mp htext b hb)
        · exact hallowed ⟨time, timeout?_eq_some_iff.mpr ⟨value, hvalue, htime⟩⟩
      · rfl

/-- Other characters than those of ASCII would go wrong, if they were not kept out before. -/
example : measure (Bytes.ofText "é") = .error .insideCharacter := rfl

/-- **Which calls have a deadline, and when it is.** A call has one just if the first value under the
name is one to eight digits and a unit, and it is then so many units after its arrival. This is worked
out in words without a product that does not fit or a cut inside a character, whatever the value is,
and is less than 360 billion seconds after the arrival. -/
theorem deadline_decides (m : Metadata) (arrival : Instant) (flag : Nat) :
    (∀ deadline, (ofMetadata m arrival flag).deadline = some deadline ↔
      ∃ value time, (m.values timeoutName).head? = some value ∧ Allows value time ∧
        arrival + time = deadline) ∧
    ∃ limit, measured? m = .ok limit ∧
      (ofMetadata m arrival flag).deadline = limit.map (fun span => arrival + span.length) ∧
      ∀ span ∈ limit, span.seconds.toNat < 360000000000 := by
  constructor
  · intro deadline
    simp only [ofMetadata, Option.map_eq_some_iff, timeout?_eq_some_iff]
    constructor
    · rintro ⟨time, ⟨value, hvalue, htime⟩, rfl⟩
      exact ⟨value, time, hvalue, htime, rfl⟩
    · rintro ⟨value, time, hvalue, htime, rfl⟩
      exact ⟨time, ⟨value, hvalue, htime⟩, rfl⟩
  · obtain ⟨limit, hmeasured, hlength, hbound⟩ := measured?_eq_ok m
    refine ⟨limit, hmeasured, ?_, hbound⟩
    rw [ofMetadata, hlength, Option.map_map]
    rfl

/-- The longest time that can be allowed, and a second value that does not count. -/
def longest : Metadata :=
  .ofList [("GRPC-Timeout", Bytes.ofText "99999999H"), ("grpc-timeout", Bytes.ofText "1n")]

theorem deadline_decides_longest :
    ∃ span, measured? longest = .ok (some span) ∧ span.seconds.toNat < 360000000000 ∧
      (ofMetadata longest 5 0).deadline = some (5 + 99999999 * (3600 * 1000000000)) := by
  have hvalue : (longest.values timeoutName).head? = some (List.replicate 8 0x39 ++ [0x48]) := by
    decide +kernel
  have hdigits : ∀ b ∈ List.replicate 8 (0x39 : UInt8), 0x30 ≤ b ∧ b ≤ 0x39 := by
    intro b hb
    rw [List.eq_of_mem_replicate hb]
    decide
  have hallows : Allows (List.replicate 8 0x39 ++ [0x48]) (99999999 * (3600 * 1000000000)) :=
    ⟨_, _, 3600 * 1000000000, rfl, by decide, by decide, hdigits, by decide, by decide⟩
  obtain ⟨hiff, limit, hmeasured, hlimit, hbound⟩ := deadline_decides longest 5 0
  have hdeadline := (hiff _).mpr ⟨_, _, hvalue, hallows, rfl⟩
  cases limit with
  | none =>
    rw [hdeadline] at hlimit
    cases hlimit
  | some span => exact ⟨span, hmeasured, hbound span rfl, hdeadline⟩

end CallContext
end Showroom
