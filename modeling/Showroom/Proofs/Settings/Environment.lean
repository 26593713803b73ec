import Showroom.Proofs.Table
import Showroom.Proofs.Text.Split
import Showroom.Settings.Environment

/-!
# Showroom.Proofs.Settings.Environment

What a file adds to the environment. Each of its lines sets a variable or nothing, up to the first
line in no known form. Of several lines for one variable the first counts, and none of them if the
variable is set already.

The value in a line depends on the variables that the line refers to, and on no other. A name with
more than letters and digits in it can only be referred to in braces, so a variable with such a name
can be set in any way without a change to what the lines of a file set, as long as the file does not
refer to it.

* `Environment.find?_addFile`: the variables after a file has been read.
* `Environment.fileAssignments_congr`: environments that differ in one variable.
-/

namespace Showroom

namespace Environment

/-! ## Lines that set variables -/

/-- The variable that a line sets and its value, if it sets one. There is nothing if the line is in
no known form. -/
def assigned? (e : Environment) (line : List Char) : Option (Option (String × String)) :=
  let line := (line.reverse.dropWhile Text.isSpace).reverse.dropWhile Text.isSpace
  if line.isEmpty || line.head? = some '#' then some none
  else match readLeft line with
    | none => none
    | some (name, value) =>
      let value := value.dropWhile Text.isSpace
      if value.isEmpty || value.head? = some '#' then some (some (String.ofList name, ""))
      else (readValue e {} value).map fun v => some (String.ofList name, v)

/-- What lines set, in their order. -/
def assignments (e : Environment) : List (Option (List Char)) → List (String × String)
  | some line :: lines =>
    match assigned? e line with
    | some (some a) => a :: assignments (e.offer a.1 a.2) lines
    | some none => assignments e lines
    | none => []
  | _ => []

def fileAssignments (e : Environment) (text : String) : List (String × String) :=
  assignments e (joinLines .plain [] (linesOf (Text.withoutMark text)))

variable {e e' : Environment} {name other value : String} {line cs : List Char}
  {lines : List (Option (List Char))}

theorem readLine_eq (e : Environment) (line : List Char) :
    e.readLine line = (assigned? e line).map fun
      | some a => e.offer a.1 a.2
      | none => e := by
  unfold readLine assigned?
  generalize (line.reverse.dropWhile Text.isSpace).reverse.dropWhile Text.isSpace = trimmed
  dsimp only
  split
  · rfl
  · cases readLeft trimmed with
    | none => rfl
    | some left =>
      dsimp only
      split
      · rfl
      · rw [Option.map_map]
        rfl

theorem find?_offer :
    (e.offer name value).find? other =
      (e.find? other).or (if other = name then some value else none) := by
  rw [offer]
  split
  · rename_i hset
    split
    · rename_i hsame
      rw [hsame, Option.or_of_isSome hset]
    · rw [Option.or_none]
  · rw [find?, find?, List.lookup_append, lookup_cons_eq_ite]
    rfl

theorem find?_readLines :
    (e.readLines lines).find? name = (e.find? name).or ((assignments e lines).lookup name) := by
  induction lines generalizing e with
  | nil => simp [readLines, assignments]
  | cons line lines ih =>
    cases line with
    | none => simp [readLines, assignments]
    | some line =>
      rw [readLines, assignments, readLine_eq]
      cases assigned? e line with
      | none => simp
      | some a =>
        cases a with
        | none => exact ih
        | some a =>
          simp only [Option.map_some]
          rw [ih, find?_offer, lookup_cons_eq_ite, Option.or_assoc]
          split <;> rfl

/-- **What a file adds.** A variable that is set stays as it is. Any other has the value in the
first line that sets it. -/
theorem find?_addFile (e : Environment) (text : String) (name : String) :
    (e.addFile text).find? name = (e.find? name).or ((fileAssignments e text).lookup name) :=
  find?_readLines

/-! ## Names -/

def names (e : Environment) : List String := e.entries.map (·.1)

theorem find?_eq_none_iff : e.find? name = none ↔ name ∉ e.names :=
  lookup_eq_none_iff_not_mem

theorem nodup_offer (h : e.names.Nodup) : (e.offer name value).names.Nodup := by
  rw [offer]
  split
  · exact h
  · rename_i hunset
    rw [Option.not_isSome_iff_eq_none, find?_eq_none_iff] at hunset
    exact nodup_keys_concat h hunset

theorem nodup_readLines (h : e.names.Nodup) : (e.readLines lines).names.Nodup := by
  induction lines generalizing e with
  | nil => exact h
  | cons line lines ih =>
    cases line with
    | none => exact h
    | some line =>
      rw [readLines, readLine_eq]
      cases assigned? e line with
      | none => exact h
      | some a =>
        cases a with
        | none => exact ih h
        | some a => exact ih (nodup_offer h)

theorem nodup_addFile (h : e.names.Nodup) (text : String) : (e.addFile text).names.Nodup :=
  nodup_readLines h

theorem mem_names_addFile {text : String} (h : name ∈ (e.addFile text).names) :
    name ∈ e.names ∨ ∃ a ∈ fileAssignments e text, a.1 = name := by
  by_cases hset : name ∈ e.names
  · exact .inl hset
  · by_cases hadded : name ∈ (fileAssignments e text).map (·.1)
    · exact .inr (List.mem_map.mp hadded)
    · refine absurd h (find?_eq_none_iff.mp ?_)
      rw [find?_addFile, find?_eq_none_iff.mpr hset, lookup_eq_none_iff_not_mem.mpr hadded]
      rfl

/-! ## What lines depend on -/

/-- Two environments are the same but for one variable. -/
def AgreeOff (w : String) (e e' : Environment) : Prop :=
  ∀ name, name ≠ w → e.find? name = e'.find? name

/-- A name that is not of letters and digits only. -/
def Marked (w : String) : Prop := ∃ c ∈ w.toList, Text.isAlphanumeric c = false

def reference (name : String) : List Char := '$' :: '\x7b' :: (name.toList ++ ['\x7d'])

def pending : Option Reference → List Char
  | none => []
  | some (.bare name) => '$' :: name
  | some (.braced name) => '$' :: '\x7b' :: name

/-- In a value that has been read this far, no reference to the variable is to come. -/
structure Clear (w : String) (s : ValueState) (cs : List Char) : Prop where
  free : ¬ reference w <:+: pending s.reference ++ cs
  bare : ∀ name, s.reference = some (.bare name) → ∀ c ∈ name, Text.isAlphanumeric c = true
  alone : s.isOver = true ∨ s.isEscaped = true ∨ s.isSingle = true → s.reference = none

variable {w : String} {s : ValueState} {c : Char}

theorem Marked.ne_of_bare (hw : Marked w) {name : List Char}
    (hname : ∀ c ∈ name, Text.isAlphanumeric c = true) : name ≠ w.toList := by
  intro hsame
  obtain ⟨c, hc, hmark⟩ := hw
  rw [hname c (hsame ▸ hc)] at hmark
  cases hmark

theorem AgreeOff.offer (h : AgreeOff w e e') (name value : String) :
    AgreeOff w (e.offer name value) (e'.offer name value) := by
  intro other hother
  rw [find?_offer, find?_offer, h other hother]

theorem putVariable_congr (h : AgreeOff w e e') {name : List Char} (hname : name ≠ w.toList) :
    s.putVariable e name = s.putVariable e' name := by
  have hother : String.ofList name ≠ w := by
    intro hw
    rw [← hw, String.toList_ofList] at hname
    exact hname rfl
  rw [ValueState.putVariable, ValueState.putVariable, h _ hother]

theorem Clear.of_none (free : ¬ reference w <:+: cs) (hs : s.reference = none) : Clear w s cs := by
  refine ⟨?_, ?_, ?_⟩
  · rw [hs]
    exact free
  · intro name hname
    rw [hs] at hname
    cases hname
  · intro _
    exact hs

def ValueState.IsIdle (s : ValueState) : Prop :=
  ¬ (s.isOver = true ∨ s.isEscaped = true ∨ s.isSingle = true)

theorem Clear.isIdle {r : Reference} (h : Clear w s cs) (hs : s.reference = some r) :
    s.IsIdle := by
  intro hflag
  rw [h.alone hflag] at hs
  cases hs

theorem Clear.of_bare {name : List Char} (hidle : s.IsIdle)
    (free : ¬ reference w <:+: '$' :: name ++ cs)
    (hname : ∀ c ∈ name, Text.isAlphanumeric c = true) :
    Clear w { s with reference := some (.bare name) } cs := by
  refine ⟨free, ?_, fun hflag => absurd hflag hidle⟩
  intro _ heq
  cases heq
  exact hname

theorem Clear.of_braced {name : List Char} (hidle : s.IsIdle)
    (free : ¬ reference w <:+: '$' :: '\x7b' :: name ++ cs) :
    Clear w { s with reference := some (.braced name) } cs := by
  refine ⟨free, ?_, fun hflag => absurd hflag hidle⟩
  intro _ heq
  cases heq

theorem Clear.tail (h : Clear w s (c :: cs)) (hs : s.reference = none) : ¬ reference w <:+: cs := by
  intro hcs
  refine h.free ?_
  rw [hs]
  exact List.infix_cons hcs

theorem Clear.stepPlain (h : Clear w s (c :: cs)) (hs : s.reference = none) (hidle : s.IsIdle) :
    Clear w (s.stepPlain c) cs := by
  rw [ValueState.stepPlain]
  split
  · rename_i hc
    have hfree := h.free
    rw [hs, hc] at hfree
    exact .of_bare hidle hfree (by simp)
  · repeat' split
    all_goals exact .of_none (h.tail hs) hs

variable {name : List Char}

theorem Clear.stepBare (h : Clear w s (c :: cs)) (hs : s.reference = some (.bare name))
    (hagree : AgreeOff w e e') (hw : Marked w) :
    s.stepReference e c (.bare name) = s.stepReference e' c (.bare name) ∧
      Clear w (s.stepReference e c (.bare name)) cs := by
  have hname := h.bare name hs
  have hidle := h.isIdle hs
  have hfree := h.free
  rw [hs] at hfree
  have hrest : ¬ reference w <:+: c :: cs := by
    intro hwithin
    exact hfree (hwithin.trans (List.suffix_append ('$' :: name) (c :: cs)).isInfix)
  rw [ValueState.stepReference, ValueState.stepReference,
    putVariable_congr hagree (hw.ne_of_bare hname)]
  refine ⟨rfl, ?_⟩
  split
  · rename_i hc
    refine .of_bare hidle (by simpa [pending] using hfree) ?_
    intro d hd
    rcases List.mem_append.mp hd with hd | hd
    · exact hname d hd
    · rw [List.mem_singleton.mp hd]
      exact hc
  · split
    · rename_i hc
      obtain ⟨rfl, rfl⟩ := hc
      exact .of_braced hidle hfree
    · split
      · rename_i hc
        rw [hc] at hrest
        exact .of_bare (s := s.putVariable e' name) hidle hrest (by simp)
      · exact .of_none (fun hwithin => hrest (List.infix_cons hwithin)) rfl

theorem Clear.stepBraced (h : Clear w s (c :: cs)) (hs : s.reference = some (.braced name))
    (hagree : AgreeOff w e e') :
    s.stepReference e c (.braced name) = s.stepReference e' c (.braced name) ∧
      Clear w (s.stepReference e c (.braced name)) cs := by
  have hfree := h.free
  rw [hs] at hfree
  rw [ValueState.stepReference, ValueState.stepReference]
  split
  · rename_i hc
    have hother : name ≠ w.toList := by
      intro hsame
      refine hfree ?_
      rw [hc, hsame]
      exact ⟨[], cs, by simp [reference, pending]⟩
    refine ⟨putVariable_congr hagree hother, .of_none ?_ rfl⟩
    intro hwithin
    exact hfree ((List.infix_cons hwithin).trans
      (List.suffix_append ('$' :: '\x7b' :: name) (c :: cs)).isInfix)
  · exact ⟨rfl, .of_braced (h.isIdle hs) (by simpa [pending] using hfree)⟩

theorem Clear.stepReference {r : Reference} (h : Clear w s (c :: cs)) (hs : s.reference = some r)
    (hagree : AgreeOff w e e') (hw : Marked w) :
    s.stepReference e c r = s.stepReference e' c r ∧ Clear w (s.stepReference e c r) cs := by
  cases r with
  | bare name => exact h.stepBare hs hagree hw
  | braced name => exact h.stepBraced hs hagree

theorem endValue_congr (hagree : AgreeOff w e e') (hw : Marked w)
    (hbare : ∀ name, s.reference = some (.bare name) → ∀ c ∈ name, Text.isAlphanumeric c = true) :
    endValue e s = endValue e' s := by
  rw [endValue, endValue]
  split
  · rfl
  · split
    · rfl
    · rename_i name hs
      rw [putVariable_congr hagree (hw.ne_of_bare (hbare name hs))]
    · rfl

/-- **What a value depends on.** -/
theorem readValue_congr (hagree : AgreeOff w e e') (hw : Marked w) (h : Clear w s cs) :
    readValue e s cs = readValue e' s cs := by
  induction cs generalizing s with
  | nil => exact endValue_congr hagree hw h.bare
  | cons c cs ih =>
    rw [readValue, readValue]
    split
    · rename_i hover
      have hs := h.alone (.inl hover)
      have hcs := h.tail hs
      split
      · exact ih (.of_none hcs hs)
      · split
        · exact endValue_congr hagree hw h.bare
        · rfl
    · split
      · rename_i hescaped
        have hs := h.alone (.inr (.inl hescaped))
        cases ValueState.unescape? c with
        | none => rfl
        | some d => exact ih (.of_none (h.tail hs) hs)
      · split
        · rename_i hsingle
          have hs := h.alone (.inr (.inr hsingle))
          split
          · exact ih (.of_none (h.tail hs) hs)
          · exact ih (.of_none (h.tail hs) hs)
        · rename_i hover hescaped hsingle
          cases hs : s.reference with
          | none =>
            refine ih (h.stepPlain hs ?_)
            rintro (hflag | hflag | hflag)
            · exact hover hflag
            · exact hescaped hflag
            · exact hsingle hflag
          | some r =>
            obtain ⟨hstep, hclear⟩ := h.stepReference hs hagree hw
            dsimp only
            rw [← hstep]
            exact ih hclear

/-! ## Lines of a file -/

theorem isSuffix_readName {name rest : List Char} (h : readName cs = some (name, rest)) :
    rest <:+ cs := by
  rw [readName] at h
  split at h
  · cases h
    exact (List.dropWhile_suffix _).trans (List.dropWhile_suffix _)
  · cases h

theorem isSuffix_readLeft {name rest : List Char} (h : readLeft cs = some (name, rest)) :
    rest <:+ cs := by
  unfold readLeft at h
  obtain ⟨⟨first, behind⟩, hfirst, h⟩ := Option.bind_eq_some_iff.mp h
  have hbehind := isSuffix_readName hfirst
  dsimp only at h
  split at h
  · cases h
    exact (List.suffix_cons _ _).trans hbehind
  · split at h
    · cases h
    · obtain ⟨⟨second, behind'⟩, hsecond, h⟩ := Option.bind_eq_some_iff.mp h
      have hbehind' := (isSuffix_readName hsecond).trans hbehind
      dsimp only at h
      split at h
      · cases h
        exact (List.suffix_cons _ _).trans hbehind'
      · cases h

theorem assigned?_congr (hagree : AgreeOff w e e') (hw : Marked w)
    (hline : ¬ reference w <:+: line) :
    assigned? e line = assigned? e' line := by
  unfold assigned?
  have htrimmed :
      (line.reverse.dropWhile Text.isSpace).reverse.dropWhile Text.isSpace <:+: line := by
    have hfront := List.dropWhile_suffix (l := line.reverse) Text.isSpace
    rw [← List.reverse_prefix, List.reverse_reverse] at hfront
    exact (List.dropWhile_suffix _).isInfix.trans hfront.isInfix
  generalize (line.reverse.dropWhile Text.isSpace).reverse.dropWhile Text.isSpace = trimmed
    at htrimmed
  dsimp only
  split
  · rfl
  · cases hleft : readLeft trimmed with
    | none => rfl
    | some left =>
      obtain ⟨name, value⟩ := left
      dsimp only
      split
      · rfl
      · have hvalue : ¬ reference w <:+: value.dropWhile Text.isSpace := by
          intro hwithin
          refine hline (hwithin.trans (.trans ?_ htrimmed))
          exact ((List.dropWhile_suffix _).trans (isSuffix_readLeft hleft)).isInfix
        rw [readValue_congr hagree hw (.of_none hvalue rfl)]

theorem assignments_congr (hagree : AgreeOff w e e') (hw : Marked w)
    (hlines : ∀ line, some line ∈ lines → ¬ reference w <:+: line) :
    assignments e lines = assignments e' lines := by
  induction lines generalizing e e' with
  | nil => rfl
  | cons line lines ih =>
    cases line with
    | none => rfl
    | some line =>
      have hrest : ∀ line, some line ∈ lines → ¬ reference w <:+: line := by
        intro line hline
        exact hlines line (List.mem_cons_of_mem _ hline)
      rw [assignments, assignments, assigned?_congr hagree hw (hlines line List.mem_cons_self)]
      cases assigned? e' line with
      | none => rfl
      | some a =>
        cases a with
        | none => exact ih hagree hrest
        | some a =>
          dsimp only
          rw [ih (hagree.offer a.1 a.2) hrest]

theorem flatten_linesOf (cs : List Char) : (linesOf cs).flatten = cs := by
  induction cs with
  | nil => rfl
  | cons c cs ih =>
    rw [linesOf]
    split
    · rw [List.flatten_cons, ih]
      rfl
    · cases hlines : linesOf cs with
      | nil =>
        rw [hlines] at ih
        rw [← ih]
        rfl
      | cons line lines =>
        rw [hlines] at ih
        rw [← ih]
        rfl

theorem isPrefix_scanLine (state : LineState) (cs : List Char) : (scanLine state cs).1 <+: cs := by
  induction cs generalizing state with
  | nil => exact List.prefix_rfl
  | cons c cs ih =>
    rw [scanLine]
    split
    · exact List.nil_prefix
    · exact List.prefix_cons_inj c |>.mpr (ih _)

theorem isPrefix_dropBreak (cs : List Char) : dropBreak cs <+: cs := by
  have hfront : ∀ front rest : List Char, cs.reverse = front ++ rest → rest.reverse <+: cs := by
    intro front rest hsplit
    refine ⟨front.reverse, ?_⟩
    rw [← List.reverse_append, ← hsplit, List.reverse_reverse]
  rw [dropBreak]
  split
  · rename_i rest hsplit
    exact hfront ['\n', '\r'] rest hsplit
  · rename_i rest _ hsplit
    exact hfront ['\n'] rest hsplit
  · exact List.prefix_rfl

theorem isInfix_of_mem_joinLines {state : LineState} {before : List Char} {raw : List (List Char)}
    (h : some line ∈ joinLines state before raw) : line <:+: before ++ raw.flatten := by
  induction raw generalizing state before with
  | nil =>
    rw [joinLines] at h
    split at h <;> simp at h
  | cons next raw ih =>
    have hlater : some line ∈ joinLines .plain [] raw →
        line <:+: before ++ (next :: raw).flatten := by
      intro hmem
      refine (ih hmem).trans ?_
      rw [List.flatten_cons, ← List.append_assoc]
      exact (List.suffix_append _ _).isInfix
    have hpiece : ∀ {piece : List Char}, piece <+: before ++ next →
        piece <:+: before ++ (next :: raw).flatten := by
      intro piece hstart
      rw [List.flatten_cons, ← List.append_assoc]
      exact (hstart.trans (List.prefix_append _ _)).isInfix
    rw [joinLines] at h
    split at h
    · rcases List.mem_cons.mp h with heq | hmem
      · cases heq
        exact List.nil_infix
      · exact hlater hmem
    · have hfront := isPrefix_scanLine state next
      split at h
      · rename_i front hscan
        rw [hscan] at hfront
        rcases List.mem_cons.mp h with heq | hmem
        · cases heq
          exact hpiece ((List.prefix_append_right_inj before).mpr hfront)
        · exact hlater hmem
      · rcases List.mem_cons.mp h with heq | hmem
        · cases heq
          exact hpiece (isPrefix_dropBreak _)
        · exact hlater hmem
      · rw [List.flatten_cons, ← List.append_assoc]
        exact ih h

theorem isSuffix_withoutMark (text : String) : Text.withoutMark text <:+ text.toList := by
  rw [Text.withoutMark]
  cases hdrop : Text.dropText? [Text.byteOrderMark] text.toList with
  | none => exact List.suffix_rfl
  | some rest => exact ⟨[Text.byteOrderMark], (Text.dropText?_eq_some_iff.mp hdrop).symm⟩

/-- **What the lines of a file depend on.** -/
theorem fileAssignments_congr {text : String} (hagree : AgreeOff w e e') (hw : Marked w)
    (htext : ¬ reference w <:+: text.toList) :
    fileAssignments e text = fileAssignments e' text := by
  refine assignments_congr hagree hw ?_
  intro line hline hwithin
  have hpiece := isInfix_of_mem_joinLines hline
  rw [List.nil_append, flatten_linesOf] at hpiece
  exact htext ((hwithin.trans hpiece).trans (isSuffix_withoutMark text).isInfix)

end Environment

end Showroom
