import Showroom.Disk

/-!
# Showroom.Proofs.Disk.Folders

Making a folder with all that is on the way to it. Whatever was on the disk, the folder is there
afterwards exactly if no problem is reported.

* `Disk.leads_iff`: a route leads to a folder if every part of it does.
* `Disk.makeFolders_eq_none_iff`: when a folder can be made.
-/

namespace Showroom

namespace Path

theorem mem_ancestors_append_iff {names way : List String} :
    way ∈ ancestors names ++ [names] ↔ way <+: names := by
  rw [List.prefix_iff_eq_take, List.mem_append, List.mem_singleton, ancestors, List.mem_map]
  constructor
  · rintro (⟨k, hk, rfl⟩ | rfl)
    · rw [List.length_take, Nat.min_eq_left (Nat.le_of_lt (List.mem_range.mp hk))]
    · rw [List.take_length]
  · intro h
    rcases Nat.lt_or_ge way.length names.length with hlt | hge
    · exact .inl ⟨way.length, List.mem_range.mpr hlt, h.symm⟩
    · exact .inr (h.trans (List.take_of_length_le hge))

theorem mem_ancestors_iff {names way : List String} :
    way ∈ ancestors names ↔ way <+: names ∧ way ≠ names := by
  rw [← mem_ancestors_append_iff, List.mem_append, List.mem_singleton]
  constructor
  · intro h
    refine ⟨.inl h, ?_⟩
    rintro rfl
    obtain ⟨k, hk, htake⟩ := List.mem_map.mp h
    have hlength := congrArg List.length htake
    rw [List.length_take] at hlength
    have := List.mem_range.mp hk
    omega
  · rintro ⟨h | h, hne⟩
    · exact h
    · exact absurd h hne

theorem follow_filter (names : List String) :
    follow (names.filter (· ≠ ".")) = follow names := by
  rw [follow, follow, List.foldl_filter]
  congr 1
  funext p name
  by_cases h : name = "."
  · simp [h, step]
  · simp [h]

end Path

namespace Disk

variable {d d' : Disk} {names way : List String}

theorem leads_iff :
    d.leads names = true ↔ ∀ way, way <+: names → d.isFolder (Path.follow way) = true := by
  simp only [leads, List.all_eq_true, Path.mem_ancestors_append_iff]

theorem leads_of_prefix (h : d.leads names = true) (hway : way <+: names) : d.leads way = true :=
  leads_iff.mpr fun _ hfront => leads_iff.mp h _ (hfront.trans hway)

theorem leads_filter (h : d.leads names = true) : d.leads (names.filter (· ≠ ".")) = true := by
  rw [leads_iff] at h ⊢
  intro way hway
  obtain ⟨front, hfront, rfl⟩ := List.prefix_filter_iff.mp hway
  rw [Path.follow_filter]
  exact h front hfront

theorem isFolder_of_wayProblem {p : Path} (h : d.wayProblem p = none) : d.isFolder p = true := by
  cases hfolder : d.isFolder p with
  | true => rfl
  | false =>
    rw [wayProblem, hfolder] at h
    split at h
    · contradiction
    · split at h
      · cases h
      · simp at h

theorem leads_of_makeFolder (h : d.makeFolder names = .ok d') : d'.leads names = true := by
  rw [makeFolder, routeProblem] at h
  split at h
  · cases h
  · rename_i hobstacle
    split at h
    · cases h
    · cases h
      rw [obstacle, Option.or_eq_none_iff, List.findSome?_eq_none_iff] at hobstacle
      refine leads_iff.mpr fun way hway => ?_
      by_cases hend : way = names
      · simp [hend, isFolder]
      · -- A part of the way was there before, or nothing could have been made.
        have hfolder := isFolder_of_wayProblem (hobstacle.1 _
          (List.mem_map_of_mem (Path.mem_ancestors_iff.mpr ⟨hway, hend⟩)))
        rw [isFolder, Bool.or_eq_true] at hfolder ⊢
        refine hfolder.imp_right fun hmem => ?_
        simp only [List.contains_eq_mem, List.mem_append, decide_eq_true_eq] at hmem ⊢
        exact .inl hmem

/-- Whether each of these routes is needed by all that come before it. -/
def Climbing (routes : List (List String)) : Prop :=
  routes.Pairwise fun lower upper => ∀ d : Disk, d.leads lower = true → d.leads upper = true

theorem climbing_routesAbove (names : List String) : Climbing (names :: routesAbove names) := by
  rw [Climbing, routesAbove, List.pairwise_cons, List.pairwise_map, List.pairwise_reverse]
  constructor
  · intro upper hupper d h
    obtain ⟨k, -, rfl⟩ := List.mem_map.mp hupper
    exact leads_of_prefix (leads_filter h) (List.take_prefix k _)
  · refine List.pairwise_lt_range.imp fun {j k} hlt d h => ?_
    exact leads_of_prefix h (List.take_prefix_take_left (Nat.le_of_lt hlt))

section Routes

variable (d : Disk) (names : List String) {routes : List (List String)}

/-- How making folders along routes can go: the folder is made at last, one above it cannot be made,
or it cannot be made itself, which is no problem if it is there already. -/
theorem makeRoutes_cases (routes : List (List String)) :
    (∃ (before made : Disk), before.makeFolder names = .ok made ∧
        d.makeRoutes (names :: routes) = (made, none)) ∨
      (∃ parent e, d.makeRoutes routes = (parent, some e) ∧
        d.makeRoutes (names :: routes) = (parent, some e)) ∨
      ∃ last e, d.makeRoutes (names :: routes) =
        (last, if last.leads names then none else some e) := by
  generalize hresult : d.makeRoutes (names :: routes) = result
  rw [makeRoutes] at hresult
  split at hresult
  · rename_i made hmade
    exact .inl ⟨d, made, hmade, hresult.symm⟩
  · split at hresult
    · rename_i parent e hparent
      exact .inr (.inl ⟨parent, e, hparent, hresult.symm⟩)
    · rename_i parent hparent
      split at hresult
      · rename_i made hmade
        exact .inl ⟨parent, made, hmade, hresult.symm⟩
      · rename_i e hfailed
        exact .inr (.inr ⟨parent, e, hresult.symm⟩)
  · rename_i e hother hfailed
    exact .inr (.inr ⟨d, e, hresult.symm⟩)

theorem makeRoutes_eq_none_iff (climbing : Climbing (names :: routes)) :
    (d.makeRoutes (names :: routes)).2 = none ↔
      (d.makeRoutes (names :: routes)).1.leads names = true := by
  induction routes generalizing names with
  | nil =>
    rcases makeRoutes_cases d names [] with
      ⟨_, made, hmade, h⟩ | ⟨parent, e, habove, -⟩ | ⟨last, e, h⟩
    · rw [h]
      exact iff_of_true rfl (leads_of_makeFolder hmade)
    · cases habove
    · rw [h]
      simp
  | cons upper routes ih =>
    obtain ⟨hupper, hroutes⟩ := List.pairwise_cons.mp climbing
    rcases makeRoutes_cases d names (upper :: routes) with
      ⟨_, made, hmade, h⟩ | ⟨parent, e, habove, h⟩ | ⟨last, e, h⟩
    · rw [h]
      exact iff_of_true rfl (leads_of_makeFolder hmade)
    · -- The folder above is not there, so the folder itself is not either.
      have hparent := ih upper hroutes
      rw [habove] at hparent
      rw [h]
      refine iff_of_false (Option.some_ne_none e) fun hleads => ?_
      exact Option.some_ne_none e (hparent.mpr (hupper upper List.mem_cons_self parent hleads))
    · rw [h]
      simp

end Routes

/-- A folder can be made, with all on the way to it, exactly if it is there afterwards. -/
theorem makeFolders_eq_none_iff (d : Disk) (s : String) :
    (d.makeFolders s).2 = none ↔ (d.makeFolders s).1.hasFolder s = true := by
  rw [makeFolders, hasFolder]
  cases hproblem : Path.textProblem s with
  | some e => simp
  | none =>
    rw [makeRoutes_eq_none_iff d _ (climbing_routesAbove _)]
    simp

end Disk

end Showroom
