import Mathlib.Data.List.Nodup
import Showroom.Proofs.Laptop.Catalog

/-!
# Showroom.Proofs.Laptop.Visiting

What a visitor of the catalog is shown. The catalog is what saving laptops left, with its rows in any
order; the visitor may keep a state, and any of its calls may fail. A record of the calls tells which
ones were made: no laptop is shown twice, each one that is shown is there and passes the filter, and
the search ends with the first call that fails, or else after the last of these laptops.

* `find?_saveAll`, `Holds.find?`: what is found after laptops are saved.
* `visitAll_recording`: the calls of a run over a list of laptops, and the result.
* `search_recording`: the calls of a search.
-/

namespace Showroom

namespace Catalog

/-! ## Saving laptops -/

section Saving

variable {c : Catalog} {saves : List Laptop} {id : String}

/-- The catalog after a laptop is saved; one whose id is taken is refused. -/
def save (c : Catalog) (l : Laptop) : Catalog := (c.add l).getD c

/-- The catalog after laptops are saved one after the other. -/
def saveAll (c : Catalog) (saves : List Laptop) : Catalog := saves.foldl save c

theorem save_cases (c : Catalog) (l : Laptop) :
    (∃ stored, c.find? l.id = some stored ∧ c.save l = c) ∨
      (c.find? l.id = none ∧ c.save l = c.withLaptop l.id l) := by
  cases hfind : c.find? l.id with
  | some stored =>
    have hadd : c.add l = none := if_pos (contains_iff.mpr ⟨stored, hfind⟩)
    exact .inl ⟨stored, rfl, by rw [save, hadd, Option.getD_none]⟩
  | none =>
    have hadd : c.add l = some (c.withLaptop l.id l) := add_eq_some_iff.mpr ⟨hfind, rfl⟩
    exact .inr ⟨rfl, by rw [save, hadd, Option.getD_some]⟩

theorem find?_save (c : Catalog) (l : Laptop) :
    (c.save l).find? id = (c.find? id).or (if l.id = id then some l else none) := by
  rcases save_cases c l with ⟨stored, hstored, hsave⟩ | ⟨hfree, hsave⟩
  · rw [hsave]
    by_cases hid : l.id = id
    · rw [← hid, hstored, Option.some_or]
    · rw [if_neg hid, Option.or_none]
  · rw [hsave, find?_withLaptop]
    by_cases hid : l.id = id
    · rw [if_pos hid.symm, if_pos hid, ← hid, hfree, Option.none_or]
    · rw [if_neg (Ne.symm hid), if_neg hid, Option.or_none]

theorem find?_saveAll (c : Catalog) (saves : List Laptop) :
    (c.saveAll saves).find? id = (c.find? id).or (saves.find? fun l => l.id = id) := by
  -- By induction on the laptops, from any catalog.
  induction saves generalizing c with
  | nil => exact Option.or_none.symm
  | cons l saves ih =>
    rw [saveAll, List.foldl_cons, ← saveAll, ih, find?_save, Option.or_assoc, List.find?_cons]
    by_cases hid : l.id = id
    · simp [hid]
    · simp [hid]

theorem Filed.saveAll (h : c.Filed) (saves : List Laptop) : (c.saveAll saves).Filed := by
  induction saves generalizing c with
  | nil => exact h
  | cons l saves ih =>
    refine ih ?_
    rcases save_cases c l with ⟨_, -, hsave⟩ | ⟨hfree, hsave⟩
    · rwa [hsave]
    · rw [hsave]
      exact h.withLaptop hfree

/-- Whether a catalog has what saving laptops leaves, its rows in any order. -/
def Holds (c : Catalog) (saves : List Laptop) : Prop :=
  c.laptops.rows.Perm (saveAll {} saves).laptops.rows

theorem Holds.filed (h : c.Holds saves) : c.Filed := by
  have hsaved := filed_empty.saveAll saves
  exact ⟨fun row hrow => hsaved.underId row (h.mem_iff.mp hrow),
    (h.map Prod.fst).nodup_iff.mpr hsaved.distinct⟩

theorem Holds.find? (h : c.Holds saves) (id : String) :
    c.find? id = saves.find? fun l => l.id = id := by
  have hsaved := filed_empty.saveAll saves
  have hfind : c.find? id = (saveAll {} saves).find? id := by
    refine Option.ext fun l => ?_
    rw [Catalog.find?, Catalog.find?, ← Table.mem_rows_iff h.filed.distinct,
      ← Table.mem_rows_iff hsaved.distinct, h.mem_iff]
  rw [hfind, find?_saveAll]
  exact Option.none_or

theorem Holds.perm_matching (h : c.Holds saves) (f : Filter) :
    (c.matching f).Perm ((saveAll {} saves).matching f) :=
  (h.map Prod.snd).filter f.accepts

end Saving

/-! ## Visits -/

section Visits

variable {σ ε : Type} {visit : Laptop → σ → σ × Except ε Unit} {ls : List Laptop}
  {calls : List (Laptop × Except ε Unit)} {result : Except ε Unit}

/-- A visitor whose calls are recorded, each with its result. -/
def recording (visit : Laptop → σ → σ × Except ε Unit) (l : Laptop)
    (s : List (Laptop × Except ε Unit) × σ) :
    (List (Laptop × Except ε Unit) × σ) × Except ε Unit :=
  ((s.1 ++ [(l, (visit l s.2).2)], (visit l s.2).1), (visit l s.2).2)

/-- The calls of a run over laptops, and its result. -/
inductive Visited : List Laptop → List (Laptop × Except ε Unit) → Except ε Unit → Prop where
  | done : Visited [] [] (.ok ())
  | next {l : Laptop} {ls : List Laptop} {calls : List (Laptop × Except ε Unit)}
      {result : Except ε Unit} (rest : Visited ls calls result) :
      Visited (l :: ls) ((l, .ok ()) :: calls) result
  | failed {l : Laptop} {ls : List Laptop} {e : ε} : Visited (l :: ls) [(l, .error e)] (.error e)

theorem visitAll_recording (visit : Laptop → σ → σ × Except ε Unit) (ls : List Laptop)
    (before : List (Laptop × Except ε Unit)) (s : σ) :
    ∃ calls, Visited ls calls (visitAll visit ls s).2 ∧
      visitAll (recording visit) ls (before, s) =
        ((before ++ calls, (visitAll visit ls s).1), (visitAll visit ls s).2) := by
  -- By induction on the laptops, behind any calls that were made before.
  induction ls generalizing before s with
  | nil => exact ⟨[], .done, by rw [List.append_nil]; rfl⟩
  | cons l ls ih =>
    simp only [visitAll, recording]
    obtain ⟨s', outcome⟩ := visit l s
    cases outcome with
    | error e => exact ⟨_, .failed, rfl⟩
    | ok =>
      obtain ⟨calls, hvisited, hrun⟩ := ih (before ++ [(l, .ok ())]) s'
      refine ⟨(l, .ok ()) :: calls, .next hvisited, ?_⟩
      rw [List.append_assoc] at hrun
      exact hrun

theorem Visited.isPrefix (h : Visited ls calls result) : calls.map (·.1) <+: ls := by
  induction h with
  | done => exact List.prefix_rfl
  | next _ ih => exact (List.prefix_cons_inj _).mpr ih
  | failed => exact ⟨_, rfl⟩

theorem Visited.finished (h : Visited ls calls result) (succeeded : ∀ call ∈ calls, call.2 = .ok ()) :
    result = .ok () ∧ calls.map (·.1) = ls := by
  induction h with
  | done => exact ⟨rfl, rfl⟩
  | next _ ih =>
    obtain ⟨hresult, hcalls⟩ := ih (List.forall_mem_cons.mp succeeded).2
    exact ⟨hresult, by rw [List.map_cons, hcalls]⟩
  | failed => cases succeeded _ List.mem_cons_self

theorem Visited.stopped (h : Visited ls calls result) {k : Nat} {l : Laptop} {e : ε}
    (failed : calls[k]? = some (l, .error e)) : calls.length = k + 1 ∧ result = .error e := by
  induction h generalizing k with
  | done => cases failed
  | next _ ih =>
    cases k with
    | zero => cases failed
    | succ k =>
      obtain ⟨hlength, hresult⟩ := ih failed
      exact ⟨by rw [List.length_cons, hlength], hresult⟩
  | failed =>
    cases k with
    | zero =>
      cases failed
      exact ⟨rfl, rfl⟩
    | succ k => cases failed

theorem visitAll_frame {α : Type} {watched : σ → α}
    (kept : ∀ l s, watched (visit l s).1 = watched s) (ls : List Laptop) (s : σ) :
    watched (visitAll visit ls s).1 = watched s := by
  induction ls generalizing s with
  | nil => rfl
  | cons l ls ih =>
    have hfirst := kept l s
    rw [visitAll]
    split
    · rename_i s' hvisit
      rw [ih, ← hfirst, hvisit]
    · rename_i s' e hvisit
      rw [← hfirst, hvisit]

end Visits

/-! ## Searching -/

section Searching

variable {σ ε : Type} {c : Catalog} {f : Filter} {l : Laptop}

/-- The calls that a search makes, and its result: calls with different laptops, each of them there
and one that passes; with all of these, if no call fails; and up to the first that fails otherwise. -/
structure Searched (c : Catalog) (f : Filter) (calls : List (Laptop × Except ε Unit))
    (result : Except ε Unit) : Prop where
  distinct : (calls.map (·.1)).Nodup
  stored : ∀ call ∈ calls, c.find? call.1.id = some call.1 ∧ f.accepts call.1 = true
  finished : (∀ call ∈ calls, call.2 = .ok ()) → result = .ok () ∧
    ∀ l, c.find? l.id = some l → f.accepts l = true → (calls.map (·.1)).count l = 1
  stopped : ∀ k l e, calls[k]? = some (l, .error e) → calls.length = k + 1 ∧ result = .error e

theorem Filed.mem_matching_iff (h : c.Filed) :
    l ∈ c.matching f ↔ c.find? l.id = some l ∧ f.accepts l = true := by
  rw [matching, List.mem_filter, h.mem_records_iff]

theorem Filed.nodup_matching (h : c.Filed) (f : Filter) : (c.matching f).Nodup :=
  (List.Nodup.of_map _ h.nodup_ids).filter _

theorem searched_of_visited (h : c.Filed) {calls : List (Laptop × Except ε Unit)}
    {result : Except ε Unit} (visited : Visited (c.matching f) calls result) :
    c.Searched f calls result where
  distinct := visited.isPrefix.sublist.nodup (h.nodup_matching f)
  stored call hcall :=
    h.mem_matching_iff.mp (visited.isPrefix.subset (List.mem_map_of_mem hcall))
  finished succeeded := by
    obtain ⟨hresult, hcalls⟩ := visited.finished succeeded
    refine ⟨hresult, fun l hstored hpasses => ?_⟩
    rw [hcalls]
    exact List.count_eq_one_of_mem (h.nodup_matching f) (h.mem_matching_iff.mpr ⟨hstored, hpasses⟩)
  stopped _ _ _ := visited.stopped

theorem search_recording (h : c.Filed) (f : Filter) (visit : Laptop → σ → σ × Except ε Unit) (s : σ) :
    ∃ calls, c.search f (recording visit) ([], s) =
        ((calls, (c.search f visit s).1), (c.search f visit s).2) ∧
      c.Searched f calls (c.search f visit s).2 := by
  obtain ⟨calls, hvisited, hrun⟩ := visitAll_recording visit (c.matching f) [] s
  exact ⟨calls, hrun, searched_of_visited h hvisited⟩

end Searching

end Catalog

end Showroom
