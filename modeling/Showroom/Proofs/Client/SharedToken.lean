import Showroom.Client.SharedToken
import Showroom.Proofs.Call.Headers

/-!
# Showroom.Proofs.Client.SharedToken

Calls that share a token which is set between them. What counts for a call is the token that was set
last before it, whatever else was done; and then nothing in its metadata changes but the values for
the token, all of which give way to this one.

* `SharedToken.token_run`: the token after any uses of it.
* `SharedToken.run_decides`: how a call is made, after and before any uses of the token.
-/

namespace Showroom

namespace Metadata

/-- The control characters of ASCII. -/
def IsControl (b : UInt8) : Prop := b < 0x20 ∨ b = 0x7f

theorem isValue_iff {bs : Bytes} : isValue bs = true ↔ ∀ b ∈ bs, IsControl b → b = 9 := by
  rw [isValue, List.all_eq_true]
  refine forall₂_congr fun b _ => ?_
  have hlow : 32 ≤ b ↔ ¬ b < 0x20 := UInt8.not_lt.symm
  simp only [IsControl, Bool.or_eq_true, Bool.and_eq_true, decide_eq_true_eq, hlow, ne_eq]
  rw [← not_or, or_comm, Decidable.imp_iff_not_or]

end Metadata

namespace SharedToken

def Use.token? : Use → Option String
  | .set token => some token
  | .call _ => none

/-- The token that was set last; it is empty if there is none. -/
def latest (uses : List Use) : String := ((uses.filterMap Use.token?).getLast?).getD ""

/-- How a call with this metadata is made while the token is this one. -/
inductive Made (token : String) (m : Metadata) : Outcome → Prop where
  | bare (empty : token = "") : Made token m (.sent m)
  | unsendable (nonempty : token ≠ "")
      (control : ∃ b ∈ Bytes.ofText token, Metadata.IsControl b ∧ b ≠ 9) :
      Made token m (.failed ⟨.unauthenticated, "access token is not valid metadata"⟩)
  | replaced {sent : Metadata} (nonempty : token ≠ "")
      (clean : ∀ b ∈ Bytes.ofText token, Metadata.IsControl b → b = 9)
      (value : sent.values "authorization" = [Bytes.ofText token])
      (others : ∀ name, name ≠ "authorization" → sent.values name = m.values name) :
      Made token m (.sent sent)

section Run

variable (t : SharedToken) (uses before after : List Use)

theorem use_token (u : Use) : (t.use u).2.token = u.token?.getD t.token := by
  cases u with
  | set token => rfl
  | call m => rfl

theorem run_append :
    t.run (before ++ after) =
      ((t.run before).1 ++ ((t.run before).2.run after).1, ((t.run before).2.run after).2) := by
  induction before generalizing t with
  | nil => rfl
  | cons u us ih => simp only [List.cons_append, run, ih]

theorem length_run : (t.run uses).1.length = uses.length := by
  induction uses generalizing t with
  | nil => rfl
  | cons u us ih => simp only [run, List.length_cons, ih]

theorem token_run :
    (t.run uses).2.token = ((uses.filterMap Use.token?).getLast?).getD t.token := by
  induction uses generalizing t with
  | nil => rfl
  | cons u us ih =>
    have hstep : (t.run (u :: us)).2 = ((t.use u).2.run us).2 := rfl
    rw [hstep, ih, use_token]
    cases u with
    | set token => simp [Use.token?, List.getLast?_cons]
    | call m => simp [Use.token?]

end Run

theorem call_made (t : SharedToken) (m : Metadata) : Made t.token m (t.call m) := by
  rw [call, Credential.attach]
  by_cases hempty : t.token = ""
  · rw [if_pos hempty]
    exact .bare hempty
  · rw [if_neg hempty]
    split
    · rename_i sent hsent
      split at hsent
      · rename_i hvalue
        cases hsent
        exact .replaced hempty (Metadata.isValue_iff.mp hvalue) (Metadata.values_set_self _ _ _)
          fun _ hname => Metadata.values_set_of_ne _ _ _ hname
      · cases hsent
    · rename_i hnone
      split at hnone
      · cases hnone
      · rename_i hvalue
        simp only [Metadata.isValue_iff, Classical.not_forall, exists_prop] at hvalue
        exact .unsendable hempty hvalue

/-- **Calls and the token they share.** Whatever is done with the token before a call and after it,
the call is made, as `Made` says, with the token that was set last before it, or with none if none
was. -/
theorem run_decides (before after : List Use) (m : Metadata) :
    ∃ outcome, (run {} (before ++ .call m :: after)).1[before.length]? = some outcome ∧
      Made (latest before) m outcome := by
  let now := (run {} before).2
  have htoken : now.token = latest before := token_run {} before
  refine ⟨now.call m, ?_, htoken ▸ now.call_made m⟩
  rw [run_append, List.getElem?_append_right (Nat.le_of_eq (length_run _ _)), length_run,
    Nat.sub_self]
  rfl

end SharedToken

end Showroom
