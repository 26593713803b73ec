import Showroom.Log.Directive
import Showroom.Proofs.Bytes
import Showroom.Proofs.Text.Split

/-!
# Showroom.Proofs.Log.Directive

Reading a limit for a target. The places in the text of a directive are counted in bytes, and between
two of them there is the part that was written there.

* `Directive.ofText?_target`: a target with a level is read as that.
* `Directive.ofText?_level`: a level alone is read as a limit for everything.
-/

namespace Showroom.Log

namespace Directive

variable {a b c cs ds : List Char} {text : Bytes} {place start : Nat} {d : Directive}

def width : List Char → Nat
  | [] => 0
  | c :: cs => c.utf8Size + width cs

theorem width_append (a b : List Char) : width (a ++ b) = width a + width b := by
  induction a with
  | nil => exact (Nat.zero_add _).symm
  | cons c a ih => rw [List.cons_append, width, width, ih, Nat.add_assoc]

theorem length_ofText (cs : List Char) : (Bytes.ofText (String.ofList cs)).length = width cs := by
  induction cs with
  | nil => rfl
  | cons c cs ih =>
    rw [Bytes.ofText_ofList] at ih ⊢
    rw [List.flatMap_cons, List.length_append, ih, String.length_utf8EncodeChar]
    rfl

theorem utf8ByteSize_ofList (cs : List Char) : (String.ofList cs).utf8ByteSize = width cs := by
  rw [← Bytes.length_ofText, length_ofText]

theorem length_le_width (cs : List Char) : cs.length ≤ width cs := by
  induction cs with
  | nil => exact Nat.le_refl _
  | cons c cs ih =>
    have hc : 0 < c.utf8Size := c.utf8Size_pos
    change cs.length + 1 ≤ c.utf8Size + width cs
    omega

theorem width_le_iff (ha : a <+: cs) (hb : b <+: cs) : width a ≤ width b ↔ a.length ≤ b.length := by
  rcases List.prefix_or_prefix_of_prefix ha hb with ⟨rest, rfl⟩ | ⟨rest, rfl⟩
  · rw [width_append, List.length_append]
    exact iff_of_true (Nat.le_add_right _ _) (Nat.le_add_right _ _)
  · have hrest := length_le_width rest
    rw [width_append, List.length_append]
    cases rest with
    | nil => exact iff_of_true (Nat.le_refl _) (Nat.le_refl _)
    | cons c rest =>
      rw [List.length_cons] at hrest ⊢
      exact iff_of_false (by omega) (by omega)

theorem ofText_append (a b : List Char) :
    Bytes.ofText (String.ofList (a ++ b)) =
      Bytes.ofText (String.ofList a) ++ Bytes.ofText (String.ofList b) := by
  simp only [Bytes.ofText_ofList, List.flatMap_append]

theorem cut?_eq {stop : Nat} (htext : Bytes.ofText (String.ofList (a ++ b ++ c)) = text)
    (hstart : start = width a) (hstop : stop = width (a ++ b)) :
    cut? text start stop = some (String.ofList b) := by
  have hfront : (Bytes.ofText (String.ofList a)).length = width a := length_ofText a
  have hmiddle : (Bytes.ofText (String.ofList b)).length = width b := length_ofText b
  rw [cut?, ← htext, List.append_assoc, ofText_append, ofText_append, hstart, hstop, width_append,
    Nat.add_sub_cancel_left, ← hfront, List.drop_left, ← hmiddle, List.take_left, Bytes.toText?_ofText]

/-- Characters that neither end a target nor begin a span. -/
def Inner (cs : List Char) : Prop := ∀ c ∈ cs, c ≠ '=' ∧ c ≠ '['

theorem steps?_cons {ch : Char} {part : Option Part} {next : Part} {e : Directive}
    (h : step? text place ch d part = some (next, e)) :
    steps? text place part d (ch :: cs) = steps? text (place + ch.utf8Size) (some next) e cs := by
  rw [steps?, h]
  rfl

theorem steps?_front (hcs : Inner cs) :
    steps? text place (some (.front start)) d (cs ++ ds) =
      steps? text (place + width cs) (some (.front start)) d ds := by
  induction cs generalizing place with
  | nil => rfl
  | cons c cs ih =>
    obtain ⟨⟨hequals, hbracket⟩, hcs⟩ := List.forall_mem_cons.mp hcs
    have hstep : step? text place c d (some (.front start)) = some (.front start, d) := by
      simp [step?, hequals, hbracket]
    rw [List.cons_append, steps?_cons hstep, ih hcs, Nat.add_assoc]
    rfl

theorem steps?_limit :
    steps? text place (some (.limit start)) d cs = some (some (.limit start), d) := by
  induction cs generalizing place with
  | nil => rfl
  | cons c cs ih => exact ih

/-- The characters of a target that needs no care when it is written in a filter. -/
structure PlainTarget (cs : List Char) : Prop where
  first : ∀ c ∈ cs.head?, isFirst c = true
  inner : Inner cs
  comma : ',' ∉ cs
  spaces : ∀ c ∈ cs, Text.isSpace c = false

theorem limit?_name (l : Level) : limit? l.name.toList = some l.detail := by
  cases l <;> decide

theorem isSpace_name (l : Level) : ∀ c ∈ l.name.toList, Text.isSpace c = false := by
  have hnone : l.name.toList.all (!Text.isSpace ·) = true := by cases l <;> decide
  intro c hc
  simpa using List.all_eq_true.mp hnone c hc

theorem trim_target (hcs : PlainTarget cs) (l : Level) :
    Text.trim Text.isSpace (cs ++ '=' :: l.name.toList) = cs ++ '=' :: l.name.toList := by
  refine Text.trim_of_trimmed (Text.trimmed_of_forall fun c hc => ?_)
  rcases List.mem_append.mp hc with hc | hc
  · exact hcs.spaces c hc
  · rcases List.mem_cons.mp hc with rfl | hc
    · decide
    · exact isSpace_name l c hc

theorem steps?_target (hcs : PlainTarget cs) (hne : cs ≠ [])
    (htarget : cut? text 0 (width cs) = some (String.ofList cs)) (level : List Char) :
    steps? text 0 none {} (cs ++ '=' :: level) =
      some (some (.limit (width cs + 1)), { target := String.ofList cs }) := by
  cases cs with
  | nil => exact absurd rfl hne
  | cons c cs =>
    obtain ⟨⟨-, hbracket⟩, hinner⟩ := List.forall_mem_cons.mp hcs.inner
    have hbegin : step? text 0 c {} none = some (.front 0, {}) := by
      rw [step?, if_neg hbracket, if_pos (hcs.first c rfl)]
    have hend : step? text (width (c :: cs)) '=' {} (some (.front 0)) =
        some (.limit (width (c :: cs) + 1), { target := String.ofList (c :: cs) }) := by
      simp [step?, htarget]
    have hplace : 0 + c.utf8Size + width cs = width (c :: cs) := by
      rw [Nat.zero_add]
      rfl
    rw [List.cons_append, steps?_cons hbegin, steps?_front hinner, hplace, steps?_cons hend,
      steps?_limit]

/-- **A target with a level** is read as a limit for what is from that target. -/
theorem ofText?_target (hcs : PlainTarget cs) (hne : cs ≠ []) (l : Level) :
    ofText? (cs ++ '=' :: l.name.toList) =
      some { target := String.ofList cs, limit := l.detail } := by
  obtain ⟨text, htext⟩ : ∃ text, Bytes.ofText (String.ofList (cs ++ '=' :: l.name.toList)) = text :=
    ⟨_, rfl⟩
  have htarget : cut? text 0 (width cs) = some (String.ofList cs) := cut?_eq (a := []) htext rfl rfl
  have hlevel : cut? text (width cs + 1) text.length = some l.name := by
    have hcut : cut? text (width cs + 1) (width (cs ++ ['='] ++ l.name.toList)) =
        some (String.ofList l.name.toList) :=
      cut?_eq (c := []) (by simpa using htext) (width_append cs ['=']).symm rfl
    rw [String.ofList_toList] at hcut
    rw [← hcut, ← htext, length_ofText, List.append_assoc]
    rfl
  have hname : l.name ≠ "" := by cases l <;> decide
  rw [ofText?, htext, trim_target hcs]
  simp only [steps?_target hcs hne htarget, Option.bind_eq_bind, Option.bind_some, finish?, hlevel,
    if_neg hname, limit?_name]
  rfl

theorem ofText?_level (l : Level) :
    ofText? l.name.toList = some { limit := l.detail } := by
  cases l <;> rfl

end Directive

end Showroom.Log
