import Mathlib.Data.String.Basic
import Mathlib.Order.Lex
import Mathlib.Data.Prod.Lex
import Showroom.Log.Record
import Showroom.Proofs.Log.Directive

/-!
# Showroom.Proofs.Log.Filter

Which records a filter lets through. Directives that cover the same target are ordered: by the length
of their own target, by the number of their fields and by the names of those. The last of the largest
decides. A filter that is written as levels for targets is read as it is meant, so that what passes it
can be told from the levels.

* `Filter.wins_decisive`: which of the directives for a target decides.
* `Filter.ofText_ruleText`: the filter that levels for targets are read as.
* `Filter.keepsEvent_rules`, `Filter.keepsSpan_rules`: what passes such a filter.
-/

namespace Showroom.Log

namespace Filter

/-! ## The directive that decides -/

/-- What directives are ordered by. -/
def rank (d : Directive) : Nat ×ₗ Nat ×ₗ List String :=
  toLex (d.target.utf8ByteSize, toLex (d.fields.length, d.fields.map Prod.fst))

/-- A member of a list that no earlier one is above and every later one is below. -/
structure Wins (ds : List Directive) (d : Directive) : Prop where
  split : ∃ front back, ds = front ++ d :: back ∧ (∀ e ∈ front, rank e ≤ rank d) ∧
    ∀ e ∈ back, rank e < rank d

variable {a b d e : Directive} {ds es : List Directive} {target : String}

theorem eq_of_prefix_of_size {s t : String} (h : s.toList <+: t.toList)
    (hsize : s.utf8ByteSize = t.utf8ByteSize) : s = t := by
  obtain ⟨rest, hrest⟩ := h
  have ht : t = s ++ String.ofList rest := by
    rw [← String.toList_inj, String.toList_append, String.toList_ofList, hrest]
  have hnone : String.ofList rest = "" := by
    rw [ht, String.utf8ByteSize_append] at hsize
    exact String.utf8ByteSize_eq_zero_iff.mp (by omega)
  rw [ht, hnone, String.append_empty]

theorem target_eq_of_covers (ha : covers a target = true) (hb : covers b target = true)
    (h : a.target.utf8ByteSize = b.target.utf8ByteSize) : a.target = b.target := by
  have hpa := List.isPrefixOf_iff_prefix.mp ha
  have hpb := List.isPrefixOf_iff_prefix.mp hb
  rcases List.prefix_or_prefix_of_prefix hpa hpb with hab | hba
  · exact eq_of_prefix_of_size hab h
  · exact (eq_of_prefix_of_size hba h.symm).symm

theorem moreSpecific_eq (ha : covers a target = true) (hb : covers b target = true) :
    moreSpecific a b = if rank b < rank a then a else b := by
  have htarget : a.target = b.target ↔ b.target.utf8ByteSize = a.target.utf8ByteSize :=
    ⟨fun h => by rw [h], fun h => target_eq_of_covers ha hb h.symm⟩
  simp only [moreSpecific, rank, Prod.Lex.toLex_lt_toLex, htarget]
  split_ifs <;> grind

theorem Wins.mem (h : Wins ds d) : d ∈ ds := by
  obtain ⟨front, back, rfl, -⟩ := h.split
  simp

theorem Wins.moreSpecific (h : Wins ds d) (hd : covers d target = true)
    (he : covers e target = true) : Wins (ds ++ [e]) (moreSpecific d e) := by
  obtain ⟨front, back, rfl, hfront, hback⟩ := h.split
  rw [moreSpecific_eq hd he]
  split
  · rename_i hlt
    refine ⟨front, back ++ [e], by simp, hfront, ?_⟩
    simpa [or_imp, forall_and] using ⟨hback, hlt⟩
  · rename_i hge
    have hle : rank d ≤ rank e := not_lt.mp hge
    refine ⟨front ++ d :: back, [], rfl, ?_, by simp⟩
    intro x hx
    rcases List.mem_append.mp hx with hx | hx
    · exact (hfront x hx).trans hle
    · rcases List.mem_cons.mp hx with rfl | hx
      · exact hle
      · exact (hback x hx).le.trans hle

theorem wins_foldl (h : Wins ds d) (hd : covers d target = true)
    (hes : ∀ e ∈ es, covers e target = true) :
    Wins (ds ++ es) (es.foldl moreSpecific d) := by
  induction es generalizing ds d with
  | nil => rwa [List.append_nil]
  | cons e es ih =>
    obtain ⟨he, hes⟩ := List.forall_mem_cons.mp hes
    have hnext : covers (Filter.moreSpecific d e) target = true := by
      rw [moreSpecific_eq hd he]
      split <;> assumption
    rw [List.append_cons]
    exact ih (h.moreSpecific hd he) hnext hes

/-- **Which directive decides**: of those for one target the last one that none is above. -/
theorem wins_decisive (hds : ∀ d ∈ ds, covers d target = true) (hne : ds ≠ []) :
    ∃ d, Wins ds d ∧ decisive ds = d.limit := by
  cases ds with
  | nil => exact absurd rfl hne
  | cons d ds =>
    obtain ⟨hd, hds⟩ := List.forall_mem_cons.mp hds
    have hfirst : Wins [d] d := ⟨[], [], rfl, by simp, by simp⟩
    exact ⟨_, wins_foldl hfirst hd hds, rfl⟩

theorem Wins.unique (hd : Wins ds d) (he : Wins ds e) : d = e := by
  obtain ⟨front, back, rfl, hfront, hback⟩ := hd.split
  obtain ⟨front', back', hsplit, hfront', hback'⟩ := he.split
  rcases List.append_eq_append_iff.mp hsplit with ⟨mid, rfl, hmid⟩ | ⟨mid, rfl, hmid⟩
  · cases mid with
    | nil => exact (List.cons.inj hmid).1
    | cons x mid =>
      obtain ⟨rfl, rfl⟩ := List.cons.inj hmid
      exact absurd (hback e (by simp)) (not_lt.mpr (hfront' d (by simp)))
  · cases mid with
    | nil => exact (List.cons.inj hmid).1.symm
    | cons x mid =>
      obtain ⟨rfl, rfl⟩ := List.cons.inj hmid
      exact absurd (hback' d (by simp)) (not_lt.mpr (hfront e (by simp)))

end Filter

/-! ## Levels for targets -/

/-- A level for what is from a target; without a target for everything. -/
structure Rule where
  target : List Char
  level : Level

namespace Rule

def text (r : Rule) : List Char :=
  if r.target = [] then r.level.name.toList else r.target ++ '=' :: r.level.name.toList

def directive (r : Rule) : Directive :=
  { target := String.ofList r.target, limit := r.level.detail }

def Plain (r : Rule) : Prop := Directive.PlainTarget r.target

variable {r : Rule}

theorem text_ne_nil (r : Rule) : r.text ≠ [] := by
  unfold text
  split
  · cases r.level <;> decide
  · simp

theorem comma_not_mem_name (l : Level) : ',' ∉ l.name.toList := by
  cases l <;> decide

theorem comma_not_mem_text (h : r.Plain) : ',' ∉ r.text := by
  have hname := comma_not_mem_name r.level
  unfold text
  split
  · exact hname
  · simpa [hname] using h.comma

theorem ofText?_text (h : r.Plain) : Directive.ofText? r.text = some r.directive := by
  unfold text
  split
  · rename_i hnone
    rw [Directive.ofText?_level, directive, hnone, String.ofList_nil]
  · rename_i hsome
    exact Directive.ofText?_target h hsome r.level

end Rule

namespace Filter

def ruleText (rules : List Rule) : String := String.ofList ([','].intercalate (rules.map Rule.text))

variable {rules : List Rule}

theorem pieces_ruleText (h : ∀ r ∈ rules, r.Plain) :
    pieces (ruleText rules) = rules.map Rule.text := by
  cases rules with
  | nil => decide
  | cons r rules =>
    have hcommas : ∀ cs ∈ (r :: rules).map Rule.text, ',' ∉ cs := by
      intro cs hcs
      obtain ⟨x, hx, rfl⟩ := List.mem_map.mp hcs
      exact Rule.comma_not_mem_text (h x hx)
    rw [pieces, ruleText, String.toList_ofList, List.splitOn_intercalate ',' hcommas (by simp)]
    refine List.filter_eq_self.mpr fun cs hcs => ?_
    obtain ⟨x, -, rfl⟩ := List.mem_map.mp hcs
    simp [x.text_ne_nil]

theorem filterMap_text (h : ∀ r ∈ rules, r.Plain) :
    (rules.map Rule.text).filterMap Directive.ofText? = rules.map Rule.directive := by
  rw [List.filterMap_map, ← List.filterMap_eq_map]
  exact List.filterMap_congr fun r hr => Rule.ofText?_text (h r hr)

theorem ofText_ruleText (h : ∀ r ∈ rules, r.Plain) (hne : rules ≠ []) :
    ofText (ruleText rules) = ⟨rules.map Rule.directive⟩ := by
  cases rules with
  | nil => exact absurd rfl hne
  | cons r rules => rw [ofText, pieces_ruleText h, filterMap_text h, List.map_cons]

theorem choose_ruleText (h : ∀ r ∈ rules, r.Plain) (own : String) :
    choose (some (ruleText rules)) own = ⟨rules.map Rule.directive⟩ := by
  have hread : (rules.map Rule.text).mapM Directive.ofText? = some (rules.map Rule.directive) := by
    rw [List.mapM_map]
    induction rules with
    | nil => rfl
    | cons r rules ih =>
      obtain ⟨hr, hrules⟩ := List.forall_mem_cons.mp h
      rw [List.mapM_cons, Function.comp_apply, Rule.ofText?_text hr, ih hrules]
      rfl
  rw [choose, Option.bind_some, ofText?, pieces_ruleText h, hread]
  rfl

def isFor (target : String) (r : Rule) : Bool := r.target.isPrefixOf target.toList

/-- The rule for a target: of those for what the target begins with the one for the most of it, and
of several the last. -/
structure Applies (rules : List Rule) (target : String) (r : Rule) : Prop where
  split : ∃ front back, rules.filter (isFor target) = front ++ r :: back ∧
    (∀ x ∈ front, x.target.length ≤ r.target.length) ∧
    ∀ x ∈ back, x.target.length < r.target.length

theorem covers_directive (r : Rule) : covers r.directive target = isFor target r := by
  rw [covers, Rule.directive, String.toList_ofList, isFor]

theorem rank_directive_le_iff {x r : Rule} (hx : isFor target x = true) (hr : isFor target r = true) :
    rank x.directive ≤ rank r.directive ↔ x.target.length ≤ r.target.length := by
  have hwidth := Directive.width_le_iff (List.isPrefixOf_iff_prefix.mp hx)
    (List.isPrefixOf_iff_prefix.mp hr)
  have hx : rank x.directive = toLex (Directive.width x.target, toLex (0, [])) := by
    rw [← Directive.utf8ByteSize_ofList]
    rfl
  have hr : rank r.directive = toLex (Directive.width r.target, toLex (0, [])) := by
    rw [← Directive.utf8ByteSize_ofList]
    rfl
  rw [hx, hr, ← hwidth, Prod.Lex.toLex_le_toLex]
  simp only [le_refl, and_true]
  omega

theorem Applies.wins {r : Rule} (h : Applies rules target r) :
    Wins ((rules.filter (isFor target)).map Rule.directive) r.directive := by
  obtain ⟨front, back, hsplit, hfront, hback⟩ := h.split
  have hfor : ∀ x ∈ front ++ r :: back, isFor target x = true := by
    rw [← hsplit]
    exact fun x hx => (List.mem_filter.mp hx).2
  have hr : isFor target r = true := hfor r (by simp)
  refine ⟨front.map Rule.directive, back.map Rule.directive, by rw [hsplit]; simp, ?_, ?_⟩
  · intro e he
    obtain ⟨x, hx, rfl⟩ := List.mem_map.mp he
    exact (rank_directive_le_iff (hfor x (by simp [hx])) hr).mpr (hfront x hx)
  · intro e he
    obtain ⟨x, hx, rfl⟩ := List.mem_map.mp he
    rw [← not_le, rank_directive_le_iff hr (hfor x (by simp [hx]))]
    exact Nat.not_le.mpr (hback x hx)

theorem covers_of_mem {d : Directive}
    (hd : d ∈ (rules.filter (isFor target)).map Rule.directive) : covers d target = true := by
  obtain ⟨x, hx, rfl⟩ := List.mem_map.mp hd
  rw [covers_directive]
  exact (List.mem_filter.mp hx).2

theorem Applies.decisive {r : Rule} (h : Applies rules target r) :
    decisive ((rules.filter (isFor target)).map Rule.directive) = r.level.detail := by
  obtain ⟨d, hd, hlimit⟩ := wins_decisive (fun _ => covers_of_mem) (List.ne_nil_of_mem h.wins.mem)
  rw [hlimit, hd.unique h.wins]
  rfl

theorem exists_applies (hsome : rules.filter (isFor target) ≠ []) : ∃ r, Applies rules target r := by
  have hcovers : ∀ d ∈ (rules.filter (isFor target)).map Rule.directive, covers d target = true :=
    fun _ => covers_of_mem
  obtain ⟨d, hd, -⟩ := wins_decisive hcovers (by simpa using hsome)
  obtain ⟨front, back, hsplit, hfront, hback⟩ := hd.split
  obtain ⟨front, rest, hrules, rfl, hrest⟩ := List.map_eq_append_iff.mp hsplit
  obtain ⟨r, back, rfl, rfl, rfl⟩ := List.map_eq_cons_iff.mp hrest
  have hfor : ∀ x ∈ front ++ r :: back, isFor target x = true := by
    rw [← hrules]
    exact fun x hx => (List.mem_filter.mp hx).2
  have hr : isFor target r = true := hfor r (by simp)
  refine ⟨r, front, back, hrules, fun x hx => ?_, fun x hx => ?_⟩
  · rw [← rank_directive_le_iff (hfor x (by simp [hx])) hr]
    exact hfront _ (List.mem_map_of_mem hx)
  · rw [← Nat.not_le, ← rank_directive_le_iff hr (hfor x (by simp [hx])), not_le]
    exact hback _ (List.mem_map_of_mem hx)

/-! ## What passes -/

/-- Whether the rule for a target lets a level through. -/
def Passes (rules : List Rule) (target : String) (l : Level) : Prop :=
  ∃ r, Applies rules target r ∧ l.detail ≤ r.level.detail

theorem detail_pos (l : Level) : 0 < l.detail := by
  cases l <;> decide

theorem le_decisive_iff (l : Level) :
    l.detail ≤ decisive ((rules.filter (isFor target)).map Rule.directive) ↔
      Passes rules target l := by
  constructor
  · intro h
    have hsome : rules.filter (isFor target) ≠ [] := by
      intro hnone
      rw [hnone] at h
      exact absurd h (Nat.not_le.mpr (detail_pos l))
    obtain ⟨r, hr⟩ := exists_applies hsome
    exact ⟨r, hr, hr.decisive ▸ h⟩
  · intro ⟨r, hr, h⟩
    rwa [hr.decisive]

theorem le_foldl_max {limits : List Nat} {n m : Nat} (h : n ≤ m ∨ n ∈ limits) :
    n ≤ limits.foldl max m := by
  induction limits generalizing m with
  | nil => exact h.resolve_right List.not_mem_nil
  | cons k limits ih =>
    refine ih ?_
    rcases h with h | h
    · exact .inl (h.trans (le_max_left m k))
    · rcases List.mem_cons.mp h with rfl | h
      · exact .inl (le_max_right m n)
      · exact .inr h

theorem mem_of_mem_latest {ds : List Directive} (h : d ∈ latest ds) : d ∈ ds := by
  induction ds with
  | nil => exact h
  | cons x ds ih =>
    rw [latest] at h
    split at h
    · exact .tail _ (ih h)
    · rcases List.mem_cons.mp h with rfl | h
      · exact .head _
      · exact .tail _ (ih h)

theorem not_scoped_of_mem (h : d ∈ rules.map Rule.directive) : d.isScoped = false := by
  obtain ⟨r, -, rfl⟩ := List.mem_map.mp h
  rfl

theorem limitInside_rules (s : Span) : limitInside ⟨rules.map Rule.directive⟩ s = 0 := by
  have hnone : (latest (rules.map Rule.directive)).filter
      (fun d => d.isScoped && fits s d && agrees s d) = [] := by
    refine List.filter_eq_nil_iff.mpr fun d hd => ?_
    simp [not_scoped_of_mem (mem_of_mem_latest hd)]
  rw [limitInside, hnone]
  rfl

theorem filter_rules (target : String) {p : Directive → Bool}
    (hp : ∀ r : Rule, p r.directive = isFor target r) :
    (rules.map Rule.directive).filter p = (rules.filter (isFor target)).map Rule.directive := by
  rw [List.filter_map]
  congr 1
  exact List.filter_congr fun r _ => hp r

theorem Passes.le_ceiling {l : Level} (h : Passes rules target l) :
    l.detail ≤ ceiling ⟨rules.map Rule.directive⟩ := by
  obtain ⟨r, hr, hl⟩ := h
  have hmem : r.directive ∈ rules.map Rule.directive :=
    List.map_subset _ (List.filter_subset_self rules) hr.wins.mem
  have hlimit : r.level.detail ∈ (rules.map Rule.directive).map Directive.limit :=
    List.mem_map_of_mem (f := Directive.limit) hmem
  unfold ceiling
  split
  · cases l <;> decide
  · exact hl.trans (le_foldl_max (.inr hlimit))

/-- **Which events pass rules**: those that the rule for their target lets through, whatever the span
that they happen in. -/
theorem keepsEvent_rules (h : ∀ r ∈ rules, r.Plain) (hne : rules ≠ []) (s : Option Span) (e : Event) :
    (ofText (ruleText rules)).keepsEvent s e = true ↔ Passes rules e.target e.level := by
  have hspan : s.any (fun s => e.level.detail ≤ limitInside ⟨rules.map Rule.directive⟩ s) = false := by
    have hpos := detail_pos e.level
    cases s with
    | none => rfl
    | some s =>
      rw [Option.any_some, limitInside_rules]
      exact decide_eq_false (by omega)
  rw [ofText_ruleText h hne, keepsEvent, hspan, Bool.false_or, decide_eq_true_eq,
    filter_rules e.target, le_decisive_iff]
  intro r
  rw [covers_directive]
  simp [Rule.directive, Directive.isGeneral, Directive.hasValue]

theorem keepsSpan_rules (h : ∀ r ∈ rules, r.Plain) (hne : rules ≠ []) (s : Span) :
    (ofText (ruleText rules)).keepsSpan s = true ↔ Passes rules s.target s.level := by
  have hscoped : (rules.map Rule.directive).any (fun d => d.isScoped && fits s d) = false := by
    refine List.any_eq_false.mpr fun d hd => ?_
    simp [not_scoped_of_mem hd]
  have hdecides : s.level.detail ≤ decisive ((rules.map Rule.directive).filter fun d =>
      d.isGeneral && covers d s.target) ↔ Passes rules s.target s.level := by
    rw [filter_rules s.target, le_decisive_iff]
    intro r
    rw [covers_directive]
    simp [Rule.directive, Directive.isGeneral, Directive.hasValue]
  rw [ofText_ruleText h hne, keepsSpan, hscoped, Bool.false_or, Bool.and_eq_true, decide_eq_true_eq,
    decide_eq_true_eq, hdecides]
  exact ⟨And.right, fun hpass => ⟨hpass.le_ceiling, hpass⟩⟩

end Filter

/-! ## Records -/

/-- An event that passes leaves one record, and each event in a span that passes two more. -/
theorem length_records_rules {rules : List Rule} (h : ∀ r ∈ rules, r.Plain) (hne : rules ≠ [])
    (program : String) (events : List Event) :
    let filter := Filter.ofText (Filter.ruleText rules)
    (records program filter events).length =
      events.countP (filter.keepsEvent none) +
        2 * events.countP (fun e => e.span.any filter.keepsSpan) := by
  intro filter
  have hspan : ∀ (s : Option Span) (e : Event), filter.keepsEvent s e = filter.keepsEvent none e := by
    intro s e
    rw [Bool.eq_iff_iff, Filter.keepsEvent_rules h hne, Filter.keepsEvent_rules h hne]
  have hkept : ∀ (s : Option Span) (e : Event),
      (e.kept program filter s).length = if filter.keepsEvent none e then 1 else 0 := by
    intro s e
    rw [Event.kept, hspan]
    split <;> rfl
  induction events with
  | nil => rfl
  | cons e events ih =>
    rw [records, List.flatMap_cons, List.length_append, ← records, ih, List.countP_cons,
      List.countP_cons, Event.records]
    cases hs : e.span.filter filter.keepsSpan with
    | none =>
      have hany : e.span.any filter.keepsSpan = false := by
        rw [← Option.isSome_filter, hs, Option.isSome_none]
      simp only [hkept, hany, Bool.false_eq_true, if_false]
      omega
    | some s =>
      have hany : e.span.any filter.keepsSpan = true := by
        rw [← Option.isSome_filter, hs, Option.isSome_some]
      simp only [hkept, hany, if_true, List.length_append, List.length_cons, List.length_nil]
      omega

end Showroom.Log
