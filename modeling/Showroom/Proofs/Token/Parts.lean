import Showroom.Proofs.Json.Writer
import Showroom.Token

/-!
# Showroom.Proofs.Token.Parts

What the header and the payload of a token say. A header that is read names its algorithm once.
Claims that are written are read again, and a payload from which claims are read has each of the
four members once, with the value that is in the claims. If it is for no audience, then none stands
in it that could be understood.

* `Header.Names`, `Claims.GivenIn`: what a header and a payload say.
* `Header.names_of_read`, `givenIn_of_readPayload`: all that is read is said.
* `readPayload_render`: the payload of a token that is issued.
-/

namespace Showroom

/-! ## Audiences -/

namespace Json

def NamesAudience (v : Json) : Prop :=
  v.text?.isSome = true ∨ ∃ items, v = .array items ∧ ∀ item ∈ items, item.text?.isSome = true

theorem escapesPassage_of_unescape {raw : Bytes} (h : (unescape raw).isSome = true) :
    escapesPassage raw = .read := by
  fun_induction unescape raw with
  | case1 => rfl
  | case2 a b c d n hn a' b' c' d' rest m hm ih =>
    rw [Option.isSome_map] at h
    have hlow : ¬ (0xdc00 ≤ hexQuad a b c d ∧ hexQuad a b c d < 0xe000) := by omega
    rw [escapesPassage, if_neg hlow, if_pos hn, if_pos hm, ih h]
  | case3 | case4 | case5 => cases h
  | case6 a b c d rest n hhigh hlow ih =>
    rw [Option.isSome_map] at h
    rw [escapesPassage.eq_def]
    simp only
    rw [if_neg hlow, if_neg hhigh, ih h]
  | case7 e rest hne ih =>
    rw [Option.isSome_map] at h
    rw [escapesPassage, ih h]
    exact hne
  | case8 b rest hquad hsimple ih =>
    rw [Option.isSome_map] at h
    rw [escapesPassage, ih h]
    · exact hquad
    · exact hsimple

theorem passage_of_text {v : Json} (h : v.text?.isSome = true) (room : Nat) :
    v.passage room = .read ∧ ∃ raw, v = .string raw := by
  cases v with
  | string raw =>
    refine ⟨?_, raw, rfl⟩
    have hunescape : (unescape raw).isSome = true := by
      cases hu : unescape raw with
      | none => rw [text?, textOf, hu] at h; cases h
      | some bs => rfl
    rw [passage, stringPassage, escapesPassage_of_unescape hunescape]
    exact if_pos h
  | _ => cases h

theorem itemsPassage_of_texts {items : List Json} (h : ∀ item ∈ items, item.text?.isSome = true)
    (room : Nat) : itemsPassage room items = .read := by
  induction items with
  | nil => rfl
  | cons v vs ih =>
    obtain ⟨hv, hvs⟩ := List.forall_mem_cons.mp h
    rw [itemsPassage, (passage_of_text hv room).1, Passage.within, ih hvs]

end Json

namespace Claims

theorem isAudience_of_namesAudience {v : Json} (h : v.NamesAudience) :
    v.passage Json.memberRoom = .read ∧ isAudience v = true := by
  rcases h with h | ⟨items, rfl, h⟩
  · obtain ⟨hpassage, raw, rfl⟩ := Json.passage_of_text h Json.memberRoom
    exact ⟨hpassage, rfl⟩
  · constructor
    · rw [Json.passage, if_neg (by decide)]
      exact Json.itemsPassage_of_texts h _
    · rw [isAudience, List.all_eq_true]
      intro item hitem
      obtain ⟨-, raw, rfl⟩ := Json.passage_of_text (h item hitem) Json.memberRoom
      rfl

theorem not_namesAudience {members : List (String × Json)} (h : hasAudience members = false) :
    ∀ v ∈ valuesOf "aud" members, ¬ v.NamesAudience := by
  intro v hv hnames
  obtain ⟨hpassage, haudience⟩ := isAudience_of_namesAudience hnames
  have hany := List.any_eq_false.mp h v hv
  rw [haudience, hpassage] at hany
  exact hany rfl

/-! ## Claims -/

/-- Members that say what the claims say: each of the four is there once. -/
structure StatedBy (members : List (String × Json)) (c : Claims) : Prop where
  subject : ∃ v, valuesOf "sub" members = [v] ∧ v.text? = some c.subject
  role : ∃ v, valuesOf "role" members = [v] ∧ v.text? = some c.role
  issuedAt : ∃ v, valuesOf "iat" members = [v] ∧ v.integer? = some c.issuedAt
  expiresAt : ∃ v, valuesOf "exp" members = [v] ∧ v.integer? = some c.expiresAt

theorem single_eq_some_iff {name : String} {members : List (String × Json)} {v : Json} :
    single name members = some v ↔ valuesOf name members = [v] := by
  unfold single
  constructor
  · intro h
    split at h
    · rename_i hv
      cases h
      exact hv
    · cases h
  · intro h
    rw [h]

theorem readTime_eq_some_iff {v : Json} {n : Int} :
    readTime v = some n ↔ v.integer? = some n ∧ isTime n = true := by
  unfold readTime
  cases v.integer? with
  | none => simp
  | some m =>
    by_cases hm : isTime m = true
    · simp only [hm, if_true, Option.some.injEq]
      constructor
      · rintro rfl
        exact ⟨rfl, hm⟩
      · exact And.left
    · simp only [hm, Option.some.injEq]
      constructor
      · intro h
        cases h
      · rintro ⟨rfl, hn⟩
        exact absurd hn hm

theorem ofMembers_eq_some_iff {members : List (String × Json)} {c : Claims} :
    ofMembers members = some c ↔
      StatedBy members c ∧ isTime c.issuedAt = true ∧ isTime c.expiresAt = true := by
  unfold ofMembers
  simp only [bind, Option.bind_eq_some_iff, single_eq_some_iff, readTime_eq_some_iff]
  constructor
  · rintro ⟨v1, hv1, subject, hs, v2, hv2, role, hr, v3, hv3, issuedAt, ⟨hi, hti⟩, v4, hv4,
      expiresAt, ⟨he, hte⟩, h⟩
    cases h
    exact ⟨⟨⟨v1, hv1, hs⟩, ⟨v2, hv2, hr⟩, ⟨v3, hv3, hi⟩, ⟨v4, hv4, he⟩⟩, hti, hte⟩
  · rintro ⟨⟨⟨v1, hv1, hs⟩, ⟨v2, hv2, hr⟩, ⟨v3, hv3, hi⟩, ⟨v4, hv4, he⟩⟩, hti, hte⟩
    exact ⟨v1, hv1, _, hs, v2, hv2, _, hr, v3, hv3, _, ⟨hi, hti⟩, v4, hv4, _, ⟨he, hte⟩, rfl⟩

/-- A payload that is an object whose members say what the claims say and name no audience. -/
def GivenIn (payload : Bytes) (c : Claims) : Prop :=
  ∃ raw members, Json.parse payload = some (.object raw) ∧ Json.namedMembers raw = some members ∧
    StatedBy members c ∧ ∀ v ∈ valuesOf "aud" members, ¬ v.NamesAudience

/-- The members as which claims are written, each with its value as it is written and as it is
read. -/
def writtenMembers (c : Claims) : List (String × Bytes × Json) :=
  [("sub", Json.writeString c.subject, .string (Json.escape c.subject)),
   ("role", Json.writeString c.role, .string (Json.escape c.role)),
   ("iat", Json.integer c.issuedAt, .number (Json.integer c.issuedAt)),
   ("exp", Json.integer c.expiresAt, .number (Json.integer c.expiresAt))]

theorem render_eq (c : Claims) :
    c.render = 123 :: Json.writeMembers (c.writtenMembers.map fun m => (m.1, m.2.1)) := by
  have hsub : Bytes.ofText "\x7b\"sub\":" = 123 :: Json.writeString "sub" ++ [58] := by decide
  have hrole : Bytes.ofText ",\"role\":" = 44 :: Json.writeString "role" ++ [58] := by decide
  have hiat : Bytes.ofText ",\"iat\":" = 44 :: Json.writeString "iat" ++ [58] := by decide
  have hexp : Bytes.ofText ",\"exp\":" = 44 :: Json.writeString "exp" ++ [58] := by decide
  have hbrace : Bytes.ofText "\x7d" = [125] := by decide
  rw [render, hsub, hrole, hiat, hexp, hbrace]
  simp only [writtenMembers, List.map_cons, List.map_nil, Json.writeMembers, Json.writeMember,
    List.append_assoc, List.cons_append, List.nil_append]
  rfl

end Claims

namespace Token

theorem readPayload_render {c : Claims} (hi : Claims.isTime c.issuedAt = true)
    (he : Claims.isTime c.expiresAt = true) : readPayload c.render = some (c, false) := by
  have hstands : ∀ m ∈ c.writtenMembers, Json.Stands m.2.1 m.2.2 := by
    simp only [Claims.writtenMembers, List.forall_mem_cons]
    exact ⟨Json.stands_writeString _, Json.stands_writeString _, Json.stands_integer _,
      Json.stands_integer _, by simp⟩
  have hclaims : Claims.ofMembers (c.writtenMembers.map fun m => (m.1, m.2.2)) = some c := by
    refine Claims.ofMembers_eq_some_iff.mpr ⟨⟨?_, ?_, ?_, ?_⟩, hi, he⟩
    · exact ⟨_, rfl, Json.textOf_escape c.subject⟩
    · exact ⟨_, rfl, Json.textOf_escape c.role⟩
    · exact ⟨_, rfl, Json.integer?_integer c.issuedAt⟩
    · exact ⟨_, rfl, Json.integer?_integer c.expiresAt⟩
  rw [readPayload, Claims.render_eq, Json.parse_writeMembers (by simp [Claims.writtenMembers]) hstands]
  simp only [Json.namedMembers_escape, hclaims, bind, Option.bind]
  rfl

theorem givenIn_of_readPayload {payload : Bytes} {c : Claims}
    (h : readPayload payload = some (c, false)) : Claims.GivenIn payload c := by
  unfold readPayload at h
  split at h
  · rename_i raw hparse
    simp only [bind, Option.bind_eq_some_iff] at h
    obtain ⟨members, hmembers, claims, hclaims, h⟩ := h
    split at h
    · obtain ⟨rfl, haudience⟩ := Prod.mk.inj (Option.some.inj h)
      exact ⟨raw, members, hparse, hmembers, (Claims.ofMembers_eq_some_iff.mp hclaims).1,
        Claims.not_namesAudience haudience⟩
    · cases h
  · cases h

/-! ## Headers -/

namespace Header

/-- A header in which one member, and no other, is for the algorithm and gives this name. -/
def Names (header : Bytes) (name : String) : Prop :=
  ∃ v members value, Json.parse header = some v ∧ membersOf v = some members ∧
    valuesOf "alg" members = [value] ∧ choice? value = some name

theorem valuesOf_of_lookup {members : List (String × Json)} {name : String} {v : Json}
    (hname : names.contains name = true)
    (hnodup : ((members.filter fun m => names.contains m.1).map Prod.fst).Nodup)
    (h : members.lookup name = some v) : valuesOf name members = [v] := by
  induction members with
  | nil => cases h
  | cons m members ih =>
    obtain ⟨key, value⟩ := m
    by_cases hkey : key = name
    · subst hkey
      rw [List.lookup_cons_self] at h
      rw [List.filter_cons, if_pos hname, List.map_cons, List.nodup_cons] at hnodup
      have hrest : members.filter (fun m => m.1 = key) = [] := by
        rw [List.filter_eq_nil_iff]
        intro m hm heq
        have heq := of_decide_eq_true heq
        refine hnodup.1 (List.mem_map.mpr ⟨m, List.mem_filter.mpr ⟨hm, ?_⟩, heq⟩)
        rw [heq]
        exact hname
      rw [valuesOf, List.filter_cons, if_pos (decide_eq_true rfl), hrest]
      exact congrArg (fun v => [v]) (Option.some.inj h)
    · have hne : (name == key) = false := beq_eq_false_iff_ne.mpr (Ne.symm hkey)
      rw [List.lookup_cons, hne] at h
      rw [valuesOf, List.filter_cons, if_neg (by simp [hkey])]
      refine ih ?_ h
      rw [List.filter_cons] at hnodup
      split at hnodup
      · exact (List.nodup_cons.mp hnodup).2
      · exact hnodup

theorem names_of_read {header : Bytes} {name : String} (h : read header = some name) :
    Names header name := by
  unfold read at h
  simp only [bind, Option.bind_eq_some_iff] at h
  obtain ⟨v, hparse, members, hmembers, h⟩ := h
  split at h
  · rename_i hknown
    obtain ⟨value, hvalue, hchoice⟩ := Option.bind_eq_some_iff.mp h
    exact ⟨v, members, value, hparse, hmembers,
      valuesOf_of_lookup (by decide) hknown.1 hvalue, hchoice⟩
  · cases h

end Header

end Token

end Showroom
