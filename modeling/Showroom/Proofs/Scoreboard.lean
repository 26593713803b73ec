import Showroom.Proofs.Table
import Showroom.Scoreboard
import Showroom.Service.Requests

/-!
# Showroom.Proofs.Scoreboard

Scores that are recorded one after the other. Those of one laptop make no difference to another, and
a laptop's rating goes on with each of its own as long as there are numbers to count them with; a
score beyond that leaves it as it is.

* `Rating.plus`, `Rating.room`: a rating after a score that may not fit it, and how many fit.
* `Scoreboard.find?_record`, `Scoreboard.find?_recordAll`: the rating of one laptop after one score,
  and after the scores of any laptops.
* `Scoreboard.Countable`: that there is room for some scores.
-/

namespace Showroom

namespace Rating

/-- The rating after a score, the same as before if the score cannot be counted. -/
def plus (r : Rating) (score : Binary64) : Rating := (r.add score).getD r

def room (r : Rating) : Nat := UInt32.size - 1 - r.count.toNat

section Room

variable {r : Rating} {score : Binary64}

theorem room_ne_zero_iff : r.room ≠ 0 ↔ r.count.toNat + 1 < UInt32.size := by
  rw [room]
  omega

theorem add_of_room (h : r.room ≠ 0) : r.add score = some (r.plus score) := by
  rw [plus, add, if_pos (room_ne_zero_iff.mp h), Option.getD_some]

theorem add_of_full (h : r.room = 0) : r.add score = none :=
  if_neg fun few => room_ne_zero_iff.mpr few h

theorem plus_of_full (h : r.room = 0) : r.plus score = r := by
  rw [plus, add_of_full h, Option.getD_none]

theorem plus_of_room (h : r.room ≠ 0) : r.plus score = ⟨r.count + 1, r.sum.add score⟩ := by
  rw [plus, add, if_pos (room_ne_zero_iff.mp h), Option.getD_some]

theorem toNat_count_plus (h : r.room ≠ 0) : (r.plus score).count.toNat = r.count.toNat + 1 := by
  rw [plus_of_room h, UInt32.toNat_add, UInt32.toNat_one]
  exact Nat.mod_eq_of_lt (room_ne_zero_iff.mp h)

theorem sum_plus_cases (r : Rating) (score : Binary64) :
    (r.plus score).sum = r.sum ∨ (r.plus score).sum = r.sum.add score := by
  by_cases h : r.room = 0
  · exact .inl (congrArg sum (plus_of_full h))
  · exact .inr (congrArg sum (plus_of_room h))

theorem room_plus : (r.plus score).room = r.room - 1 := by
  by_cases h : r.room = 0
  · rw [plus_of_full h, h]
  · rw [room, toNat_count_plus h, room]
    omega

theorem length_le_room {scores : List Binary64} :
    scores.length ≤ r.room ↔ r.count.toNat + scores.length < UInt32.size := by
  have hlt : r.count.toNat < UInt32.size := r.count.toNat_lt
  rw [room]
  omega

end Room

theorem toNat_count_foldl_plus {r : Rating} {scores : List Binary64}
    (few : scores.length ≤ r.room) :
    (scores.foldl plus r).count.toNat = r.count.toNat + scores.length := by
  induction scores generalizing r with
  | nil => rfl
  | cons score scores ih =>
    rw [List.length_cons] at few ⊢
    have hcount : (r.plus score).count.toNat = r.count.toNat + 1 := toNat_count_plus (by omega)
    have hfew : scores.length ≤ (r.plus score).room := by
      rw [room_plus]
      omega
    rw [List.foldl_cons, ih hfew, hcount]
    omega

theorem sum_foldl_plus_take (r : Rating) (scores : List Binary64) :
    (scores.foldl plus r).sum = (scores.take r.room).foldl Binary64.add r.sum := by
  induction scores generalizing r with
  | nil => rw [List.take_nil]; rfl
  | cons score scores ih =>
    rw [List.foldl_cons, ih, room_plus]
    by_cases h : r.room = 0
    · rw [plus_of_full h, h, List.take_zero, List.take_zero]
    · obtain ⟨n, hn⟩ := Nat.exists_eq_succ_of_ne_zero h
      rw [plus_of_room h, hn, List.take_succ_cons, List.foldl_cons, Nat.succ_sub_one]

theorem sum_foldl_plus {r : Rating} {scores : List Binary64} (few : scores.length ≤ r.room) :
    (scores.foldl plus r).sum = scores.foldl Binary64.add r.sum := by
  rw [sum_foldl_plus_take, List.take_of_length_le few]

theorem ne_zero_of_pos {n : UInt32} (h : 0 < n.toNat) : n ≠ 0 := by
  intro hzero
  rw [hzero] at h
  exact absurd h (by decide)

theorem average_of_pos {r : Rating} (h : 0 < r.count.toNat) :
    r.average = r.sum.div (.ofUInt32 r.count) := by
  rw [average, if_neg (ne_zero_of_pos h)]

end Rating

/-- The scores that some requests give to one laptop, in their order. -/
def scoresOf (id : String) (requests : List RateLaptopRequest) : List Binary64 :=
  (requests.filter (·.laptopId = id)).map (·.score)

theorem scoresOf_cons (id : String) (request : RateLaptopRequest)
    (requests : List RateLaptopRequest) :
    scoresOf id (request :: requests) =
      if request.laptopId = id then request.score :: scoresOf id requests
      else scoresOf id requests := by
  simp only [scoresOf, List.filter_cons, decide_eq_true_eq]
  split <;> rfl

theorem scoresOf_ne_nil {request : RateLaptopRequest} {requests : List RateLaptopRequest}
    (h : request ∈ requests) : scoresOf request.laptopId requests ≠ [] := by
  have hfilter : request ∈ requests.filter (·.laptopId = request.laptopId) :=
    List.mem_filter.mpr ⟨h, by simp⟩
  rw [scoresOf, Ne, List.map_eq_nil_iff]
  exact List.ne_nil_of_mem hfilter

theorem length_scoresOf_take_le (id : String) (requests : List RateLaptopRequest) (n : Nat) :
    (scoresOf id (requests.take n)).length ≤ (scoresOf id requests).length := by
  rw [scoresOf, scoresOf, List.length_map, List.length_map]
  exact ((List.take_sublist n requests).filter _).length_le

theorem length_scoresOf_le (id : String) (requests : List RateLaptopRequest) :
    (scoresOf id requests).length ≤ requests.length := by
  rw [scoresOf, List.length_map]
  exact List.length_filter_le _ _

namespace Scoreboard

/-- The rating of a laptop; one without scores counts none. -/
def ratingOf (b : Scoreboard) (id : String) : Rating := (b.find? id).getD {}

/-- The scoreboard after these scores, in this order. -/
def recordAll (b : Scoreboard) (requests : List RateLaptopRequest) : Scoreboard :=
  requests.foldl (fun b r => (b.record r.laptopId r.score).2) b

variable (b : Scoreboard) (id other : String) (score : Binary64)
  (requests : List RateLaptopRequest)

theorem record_of_full {b : Scoreboard} {id : String} (h : (b.ratingOf id).room = 0) :
    b.record id score = (none, b) := by
  have hadd : ((b.find? id).getD {}).add score = none := Rating.add_of_full h
  simp only [record, hadd]

theorem record_of_room {b : Scoreboard} {id : String} (h : (b.ratingOf id).room ≠ 0) :
    b.record id score = (some ((b.ratingOf id).plus score),
      ⟨b.ratings.put id ((b.ratingOf id).plus score)⟩) := by
  have hadd : ((b.find? id).getD {}).add score = some ((b.ratingOf id).plus score) :=
    Rating.add_of_room h
  simp only [record, hadd]

theorem find?_record :
    (b.record id score).2.find? other =
      if other = id then some ((b.ratingOf id).plus score) else b.find? other := by
  by_cases h : (b.ratingOf id).room = 0
  · rw [record_of_full score h, Rating.plus_of_full h]
    -- A laptop without scores has room, so this one has a rating already.
    split
    · rename_i hid
      subst hid
      cases hfind : b.find? other with
      | none => rw [ratingOf, hfind] at h; exact absurd h (by decide)
      | some rating => rw [ratingOf, hfind, Option.getD_some]
    · rfl
  · rw [record_of_room score h]
    exact Table.find?_put

theorem ratingOf_record_self :
    (b.record id score).2.ratingOf id = (b.ratingOf id).plus score := by
  rw [ratingOf, find?_record, if_pos rfl, Option.getD_some]

theorem ratingOf_record_of_ne {other id : String} (h : other ≠ id) :
    (b.record id score).2.ratingOf other = b.ratingOf other := by
  rw [ratingOf, find?_record, if_neg h, ratingOf]

theorem find?_recordAll :
    (b.recordAll requests).find? id =
      if scoresOf id requests = [] then b.find? id
      else some ((scoresOf id requests).foldl Rating.plus (b.ratingOf id)) := by
  induction requests generalizing b with
  | nil => rfl
  | cons request requests ih =>
    rw [recordAll, List.foldl_cons, ← recordAll, ih, scoresOf_cons]
    by_cases hid : request.laptopId = id
    · subst hid
      rw [if_pos rfl, find?_record, if_pos rfl, ratingOf_record_self, if_neg (List.cons_ne_nil _ _),
        List.foldl_cons]
      -- What comes later may or may not have more scores for this laptop.
      split
      · rename_i hnone
        rw [hnone, List.foldl_nil]
      · rfl
    · have hsame : (b.record request.laptopId request.score).2.find? id = b.find? id := by
        rw [find?_record, if_neg (Ne.symm hid)]
      rw [if_neg hid, hsame, ratingOf, hsame, ← ratingOf]

theorem ratingOf_recordAll :
    (b.recordAll requests).ratingOf id =
      (scoresOf id requests).foldl Rating.plus (b.ratingOf id) := by
  rw [ratingOf, find?_recordAll]
  split
  · rename_i hnone
    rw [hnone, List.foldl_nil, ratingOf]
  · rfl

theorem recordAll_cons_of_full {b : Scoreboard} {request : RateLaptopRequest}
    {requests : List RateLaptopRequest} (h : (b.ratingOf request.laptopId).room = 0) :
    b.recordAll (request :: requests) = b.recordAll requests := by
  rw [recordAll, List.foldl_cons, record_of_full _ h, recordAll]

/-! ## Scores that can be counted -/

def Countable (b : Scoreboard) (requests : List RateLaptopRequest) : Prop :=
  ∀ id, (scoresOf id requests).length ≤ (b.ratingOf id).room

section Countable

variable {b : Scoreboard} {request : RateLaptopRequest} {requests more : List RateLaptopRequest}

theorem countable_of_few (few : ∀ id, (b.ratingOf id).count.toNat +
    (scoresOf id requests).length < UInt32.size) : b.Countable requests :=
  fun id => Rating.length_le_room.mpr (few id)

theorem countable_cons : b.Countable (request :: requests) ↔
    (b.ratingOf request.laptopId).room ≠ 0 ∧
      (b.record request.laptopId request.score).2.Countable requests := by
  constructor
  · intro h
    have hown := h request.laptopId
    rw [scoresOf_cons, if_pos rfl, List.length_cons] at hown
    refine ⟨by omega, fun id => ?_⟩
    have hid := h id
    rw [scoresOf_cons] at hid
    by_cases hsame : request.laptopId = id
    · subst hsame
      rw [ratingOf_record_self, Rating.room_plus]
      omega
    · rw [if_neg hsame] at hid
      rwa [ratingOf_record_of_ne _ _ (Ne.symm hsame)]
  · rintro ⟨hroom, hlater⟩ id
    have hid := hlater id
    rw [scoresOf_cons]
    by_cases hsame : request.laptopId = id
    · subst hsame
      rw [ratingOf_record_self, Rating.room_plus] at hid
      rw [if_pos rfl, List.length_cons]
      omega
    · rwa [if_neg hsame, ← ratingOf_record_of_ne _ _ (Ne.symm hsame)]

theorem countable_append (h : b.Countable requests) (later : (b.recordAll requests).Countable more) :
    b.Countable (requests ++ more) := by
  induction requests generalizing b with
  | nil => exact later
  | cons request requests ih =>
    obtain ⟨hroom, hrest⟩ := countable_cons.mp h
    exact countable_cons.mpr ⟨hroom, ih hrest later⟩

end Countable

end Scoreboard

end Showroom
