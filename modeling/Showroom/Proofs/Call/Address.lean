import Showroom.Call.Address
import Showroom.Proofs.Text.Split
import Showroom.Service.Method

/-!
# Showroom.Proofs.Call.Address

The path of a call is the same however its address is written: what stands around it makes no
difference.

* `Address.path_of_parts`: the path of an address that is put together from its parts.
* `Address.ofPath?_path`: a method is found at every address with its path.
-/

namespace Showroom.Address

variable {scheme host cs tail : List Char}

/-- What may follow a path: nothing, or a query or a fragment with its mark. -/
def IsTail (cs : List Char) : Prop := ∀ c ∈ cs.head?, endsPath c = true

/-- The characters of a path, which begins with a slash. -/
structure IsPath (cs : List Char) : Prop where
  first : cs.head? = some '/'
  plain : ∀ c ∈ cs, endsPath c = false

/-- What stands before a path: a scheme, and the host behind its mark. -/
structure IsOrigin (scheme host : List Char) : Prop where
  colon : ':' ∉ scheme
  slash : scheme.head? ≠ some '/'
  plain : ∀ c ∈ host, endsHost c = false

theorem cut_append (hpath : IsPath cs) (htail : IsTail tail) : cut (cs ++ tail) = cs := by
  have hkept : (cs ++ tail).takeWhile (fun c => !endsPath c) = cs := by
    rw [List.takeWhile_append_of_pos fun c hc => by rw [hpath.plain c hc]; rfl]
    cases tail with
    | nil => simp
    | cons c tail =>
      rw [List.takeWhile_cons_of_neg (by simp [htail c rfl]), List.append_nil]
  rw [cut, hkept]
  cases cs with
  | nil => cases hpath.first
  | cons c cs => rfl

theorem cut_tail (htail : IsTail tail) : cut tail = ['/'] := by
  cases tail with
  | nil => rfl
  | cons c tail => rw [cut, List.takeWhile_cons_of_neg (by simp [htail c rfl])]

theorem afterScheme?_append (hscheme : ':' ∉ scheme) :
    afterScheme? (scheme ++ "://".toList ++ cs) = some cs := by
  induction scheme with
  | nil => simp [afterScheme?, Text.dropText?]
  | cons c scheme ih =>
    obtain ⟨hc, hrest⟩ := not_or.mp (mt List.mem_cons.mpr hscheme)
    have hnone : Text.dropText? "://".toList (c :: (scheme ++ "://".toList ++ cs)) = none := by
      refine Option.eq_none_iff_forall_ne_some.mpr fun rest hrest => hc ?_
      have heq := Text.dropText?_eq_some_iff.mp hrest
      exact (List.cons.inj heq).1.symm
    rw [List.cons_append, List.cons_append, afterScheme?, hnone, Option.none_or]
    exact ih hrest

theorem dropWhile_host (hhost : ∀ c ∈ host, endsHost c = false)
    (hcs : ∀ c ∈ cs.head?, endsHost c = true) :
    (host ++ cs).dropWhile (fun c => !endsHost c) = cs := by
  rw [List.dropWhile_append_of_pos fun c hc => by rw [hhost c hc]; rfl]
  cases cs with
  | nil => rfl
  | cons c cs => exact List.dropWhile_cons_of_neg (by simp [hcs c rfl])

theorem path_of_path (hpath : IsPath cs) (htail : IsTail tail) :
    path (String.ofList (cs ++ tail)) = String.ofList cs := by
  have hfirst : (cs ++ tail).head? = some '/' := by
    rw [List.head?_append, hpath.first, Option.some_or]
  simp only [path, String.toList_ofList, hfirst, true_or, if_true, cut_append hpath htail]

theorem path_after_scheme (h : IsOrigin scheme host) (hcs : ∀ c ∈ cs.head?, endsHost c = true) :
    path (String.ofList (scheme ++ "://".toList ++ (host ++ cs))) = String.ofList (cut cs) := by
  have hstart : ¬ ((scheme ++ "://".toList ++ (host ++ cs)).head? = some '/' ∨
      scheme ++ "://".toList ++ (host ++ cs) = ['*']) := by
    cases scheme with
    | nil => simp
    | cons c scheme => simpa using h.slash
  rw [path, String.toList_ofList]
  simp only [if_neg hstart, afterScheme?_append h.colon, dropWhile_host h.plain hcs]

/-- **The path in an address** does not depend on the scheme and the host before it, nor on the query
and the fragment behind it. -/
theorem path_of_parts (h : IsOrigin scheme host) (hpath : IsPath cs) (htail : IsTail tail) :
    path (String.ofList (scheme ++ "://".toList ++ (host ++ (cs ++ tail)))) = String.ofList cs := by
  have hslash : ∀ c ∈ (cs ++ tail).head?, endsHost c = true := by
    rw [List.head?_append, hpath.first, Option.some_or]
    rintro c ⟨⟩
    rfl
  rw [path_after_scheme h hslash, cut_append hpath htail]

theorem path_of_host (h : IsOrigin scheme host) (htail : IsTail tail) :
    path (String.ofList (scheme ++ "://".toList ++ (host ++ tail))) = "/" := by
  have hmark : ∀ c ∈ tail.head?, endsHost c = true := by
    intro c hc
    rw [endsHost, htail c hc, Bool.or_true]
  rw [path_after_scheme h hmark, cut_tail htail]

theorem isPath_path (m : Method) : IsPath m.path.toList := by
  have hplain : m.path.toList.all (!endsPath ·) = true := by cases m <;> decide
  refine ⟨by cases m <;> decide, fun c hc => ?_⟩
  simpa using List.all_eq_true.mp hplain c hc

theorem ofPath?_path (h : IsOrigin scheme host) (htail : IsTail tail) (m : Method) :
    Method.ofPath? (path (String.ofList (scheme ++ "://".toList ++ (host ++
      (m.path.toList ++ tail))))) = some m := by
  rw [path_of_parts h (isPath_path m) htail, String.ofList_toList]
  cases m <;> decide

end Showroom.Address
