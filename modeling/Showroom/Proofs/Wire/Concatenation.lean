import Showroom.Proofs.Wire.Slices

/-!
# Showroom.Proofs.Wire.Concatenation

Bytes that follow the bytes of a message. Once a message has been read from the bytes in front, what
becomes of the whole depends on the rest alone: its records are taken in by the message read so far,
and where it cannot be read, the fault is the one found in it.

* `readAt`: the fields of a message that has so many levels below it.
* `readAt_append`: fields in front of others.
* `merge`, `decode_append`: the same for messages.
-/

namespace Showroom.Wire

theorem frontal_readRecord (depth : Nat) (type : MessageType) (es : List Entry) :
    Frontal fun bs rest => readRecord depth type bs = .ok (es, rest) :=
  (frontal_cutRecord depth type es).of_iff fun bs rest => readRecord_eq_cutRecord depth type es bs rest

/-- The fields of a message that takes up all the bytes, with so many levels left below it. -/
def readAt (depth : Nat) (type : MessageType) (bs : Bytes) : Except Fault (List Entry) := do
  return (← readRecords (readRecord depth type) 0 bs.length bs).1

theorem readMessage_eq_readAt (type : MessageType) (bs : Bytes) :
    readMessage type bs = readAt depthLimit type bs := rfl

/-- Turns beyond one for each byte make no difference, to what is read or to the fault. -/
theorem readRecords_turns {readOne : Bytes → Except Fault (List Entry × Bytes)}
    (shorter : ∀ es bs rest, readOne bs = .ok (es, rest) → rest.length < bs.length) {limit : Nat}
    {fuel fuel' : Nat} {bs : Bytes} (hfuel : bs.length ≤ fuel) (hfuel' : bs.length ≤ fuel') :
    readRecords readOne limit fuel bs = readRecords readOne limit fuel' bs := by
  induction fuel generalizing fuel' bs with
  | zero =>
    have hbs : bs = [] := List.eq_nil_of_length_eq_zero (Nat.le_zero.mp hfuel)
    subst hbs
    cases fuel' <;> simp [readRecords]
  | succ fuel ih =>
    cases fuel' with
    | zero =>
      have hbs : bs = [] := List.eq_nil_of_length_eq_zero (Nat.le_zero.mp hfuel')
      subst hbs
      simp [readRecords]
    | succ fuel' =>
      rw [readRecords, readRecords]
      split
      · rfl
      · cases hone : readOne bs with
        | error fault => rfl
        | ok r =>
          obtain ⟨es, rest⟩ := r
          have hlt := shorter es bs rest hone
          have hrest : readRecords readOne limit fuel rest = readRecords readOne limit fuel' rest :=
            ih (by omega) (by omega)
          simp only [bind, Except.bind, hrest]

section ReadAt

variable {depth : Nat} {type : MessageType} {bs rest p : Bytes} {es : List Entry}

theorem readAt_of_readRecord (h : readRecord depth type bs = .ok (es, rest)) :
    readAt depth type bs = (readAt depth type rest).map (es ++ ·) := by
  have shorter : ∀ es bs rest, readRecord depth type bs = .ok (es, rest) →
      rest.length < bs.length := by
    intro es bs rest h
    exact (frontal_readRecord depth type es).length_lt h
  have hlt := shorter es bs rest h
  obtain ⟨left, hleft⟩ : ∃ left, bs.length = left + 1 := ⟨bs.length - 1, by omega⟩
  have hmore : readRecords (readRecord depth type) 0 left rest =
      readRecords (readRecord depth type) 0 rest.length rest :=
    readRecords_turns shorter (by omega) (Nat.le_refl _)
  rw [readAt, readAt, hleft, readRecords, if_neg (by omega), h]
  simp only [bind, Except.bind, hmore]
  cases readRecords (readRecord depth type) 0 rest.length rest <;> rfl

theorem exists_readRecord_of_readAt {b : UInt8} (h : readAt depth type (b :: bs) = .ok es) :
    ∃ first rest, readRecord depth type (b :: bs) = .ok (first, rest) := by
  rw [readAt, List.length_cons, readRecords, if_neg (by simp)] at h
  cases hone : readRecord depth type (b :: bs) with
  | error fault =>
    rw [hone] at h
    cases h
  | ok r => exact ⟨r.1, r.2, rfl⟩

theorem readAt_append (h : readAt depth type p = .ok es) (s : Bytes) :
    readAt depth type (p ++ s) = (readAt depth type s).map (es ++ ·) := by
  -- By induction on the bytes in front, record by record: a record that is read is read with
  -- anything behind it.
  induction hn : p.length using Nat.strongRecOn generalizing p es with
  | ind n ih =>
    cases p with
    | nil =>
      cases h
      rw [List.nil_append]
      cases readAt depth type s <;> rfl
    | cons b p =>
      obtain ⟨first, rest, hone⟩ := exists_readRecord_of_readAt h
      have hlt : rest.length < (b :: p).length := (frontal_readRecord depth type first).length_lt hone
      have hone' := (frontal_readRecord depth type first).append hone s
      rw [readAt_of_readRecord hone] at h
      cases hrest : readAt depth type rest with
      | error fault =>
        rw [hrest] at h
        cases h
      | ok more =>
        rw [hrest] at h
        cases h
        rw [readAt_of_readRecord hone', ih rest.length (by omega) hrest rfl]
        cases readAt depth type s with
        | error fault => rfl
        | ok last => simp [Except.map, List.append_assoc]

end ReadAt

/-! ## Messages -/

/-- The message that the bytes hold, if there are so many levels left below it; a message that is
decoded alone has all of them. -/
def decodeAt (depth : Nat) (α : Type) [Message α] (bs : Bytes) : Except Fault α := do
  return extend Message.blank (← readAt depth (Message.type α) bs)

section Merge

variable {α : Type} [Message α] {m m' : α} {bs rest p : Bytes} {es : List Entry}

/-- A message that takes in all the fields in the bytes. -/
def merge (m : α) (bs : Bytes) : Except Fault α := do
  return extend m (← readMessage (Message.type α) bs)

theorem extend_append (m : α) (es more : List Entry) :
    extend m (es ++ more) = extend (extend m es) more :=
  List.foldl_append

theorem merge_of_readRecord (h : readRecord depthLimit (Message.type α) bs = .ok (es, rest)) :
    merge m bs = merge (extend m es) rest := by
  rw [merge, merge, readMessage_eq_readAt, readMessage_eq_readAt, readAt_of_readRecord h]
  cases readAt depthLimit (Message.type α) rest with
  | error fault => rfl
  | ok more => exact congrArg Except.ok (extend_append m es more)

theorem merge_append (h : merge m p = .ok m') (s : Bytes) : merge m (p ++ s) = merge m' s := by
  obtain ⟨es, hes, hm⟩ := bind_eq_ok_iff.mp h
  cases hm
  rw [readMessage_eq_readAt] at hes
  rw [merge, merge, readMessage_eq_readAt, readMessage_eq_readAt, readAt_append hes]
  cases readAt depthLimit (Message.type α) s with
  | error fault => rfl
  | ok more => exact congrArg Except.ok (extend_append m es more)

theorem decode_append (h : decode α p = .ok m) (s : Bytes) : decode α (p ++ s) = merge m s :=
  merge_append h s

end Merge

end Showroom.Wire
