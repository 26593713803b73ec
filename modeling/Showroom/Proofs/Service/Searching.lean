import Showroom.Proofs.Binary64
import Showroom.Proofs.Laptop.Visiting
import Showroom.Proofs.Service.Identity

/-!
# Showroom.Proofs.Service.Searching

What a search finds. The laptops that pass the filter are sent in the order of the catalog, one
response each. A search without a filter asks for any price and at least zero of everything else;
all figures but one meet this whatever they are, even if they are no numbers. The exception is a base
clock below zero: a laptop that has one is not found.

* `SearchLaptop.answer_eq`: the responses to a search.
* `Catalog.search_decides`: the calls of a search, and what is streamed, whatever the order of the rows.
* `Filter.accepts_anything`: what passes when there is no filter.
* `SearchLaptop.found_once`: the laptops that a search without a filter finds.
-/

namespace Showroom

/-- Whether the base clock of a laptop's CPU is below zero. The negative zero is not, and a NaN is
not. -/
def Laptop.clockBelowZero (l : Laptop) : Bool :=
  match l.cpu with
  | some cpu => cpu.minGhz.isNegative && !cpu.minGhz.isNaN && !cpu.minGhz.isZero
  | none => false

theorem Filter.accepts_anything (l : Laptop) : anything.accepts l = !l.clockBelowZero := by
  have hprice : anything.maxPriceUsd.lt l.priceUsd = false := Binary64.not_infinity_lt _
  have hcores : ¬ (processor l).1 < anything.minCpuCores := UInt32.not_lt_zero
  have hmemory : bits anything.minRam ≤ bits l.ram := UInt64.zero_le
  have hclock : (processor l).2.lt anything.minCpuGhz = l.clockBelowZero := by
    rw [Bool.eq_iff_iff, show anything.minCpuGhz = .zero from rfl, Binary64.lt_zero_iff, processor,
      Laptop.clockBelowZero]
    cases l.cpu with
    | none => decide
    | some cpu => simp [and_assoc]
  simp only [accepts, hprice, hcores, hclock, hmemory, Bool.false_eq_true, if_false, decide_true]
  cases l.clockBelowZero <;> rfl

namespace SearchLaptop

variable {c : Catalog}

theorem visitAll_send (ls : List Laptop) (sent : List SearchLaptopResponse) :
    Catalog.visitAll (send none) ls sent = (sent ++ ls.map fun l => ⟨some l⟩, .ok ()) := by
  induction ls generalizing sent with
  | nil => simp [Catalog.visitAll]
  | cons l ls ih =>
    have hsend : send none l sent = (sent ++ [⟨some l⟩], .ok ()) := rfl
    rw [Catalog.visitAll, hsend]
    simp [ih]

theorem answer_eq (c : Catalog) (request : SearchLaptopRequest) :
    answer c request none = (c.matching (filterOf request)).map fun l => ⟨some l⟩ := by
  rw [answer, Catalog.search, visitAll_send, List.nil_append]

theorem nodup_answer (h : c.Filed) (request : SearchLaptopRequest) :
    (answer c request none).Nodup := by
  rw [answer_eq]
  refine (h.nodup_matching _).map fun l l' hsame => ?_
  cases hsame
  rfl

/-- **A search without a filter.** In a catalog that creating laptops leads to, it finds each laptop
once whose base clock is not below zero, and no other one. -/
theorem found_once (c : Catalog) (h : c.Created) :
    (∀ l ∈ c.laptops.records, l.clockBelowZero = false →
      (answer c ⟨none⟩ none).count ⟨some l⟩ = 1) ∧
    ∀ response ∈ answer c ⟨none⟩ none, ∃ l ∈ c.laptops.records,
      response = ⟨some l⟩ ∧ l.clockBelowZero = false := by
  have hfound : ∀ response : SearchLaptopResponse, response ∈ answer c ⟨none⟩ none ↔
      ∃ l ∈ c.laptops.records, response = ⟨some l⟩ ∧ l.clockBelowZero = false := by
    intro response
    have hfilter : filterOf ⟨none⟩ = Filter.anything := rfl
    simp only [answer_eq, hfilter, Catalog.matching, List.mem_map, List.mem_filter,
      Filter.accepts_anything, Bool.not_eq_true']
    constructor
    · rintro ⟨l, ⟨hl, hclock⟩, rfl⟩
      exact ⟨l, hl, rfl, hclock⟩
    · rintro ⟨l, hl, rfl, hclock⟩
      exact ⟨l, ⟨hl, hclock⟩, rfl⟩
  refine ⟨fun l hl hclock => ?_, fun response hresponse => (hfound response).mp hresponse⟩
  exact List.count_eq_one_of_mem (nodup_answer h.filed _) ((hfound _).mpr ⟨l, hl, rfl, hclock⟩)

/-- A laptop with a base clock of -1. -/
def backwards : Laptop :=
  { id := "6ba7b810-9dad-41d1-80b4-00c04fd430c8", cpu := some { minGhz := ⟨0xbff0000000000000⟩ } }

def priceless : Laptop :=
  { id := "6ba7b811-9dad-41d1-80b4-00c04fd430c8", priceUsd := ⟨0x7ff8000000000000⟩ }

def pair : Catalog :=
  (Server.unguarded.run [(Server.quiet, Client.creation backwards {}),
    (Server.quiet, Client.creation priceless {})] { gallery := ⟨"images", {}⟩ }).2.catalog

theorem found_once_pair :
    pair.Created ∧ priceless ∈ pair.laptops.records ∧
      (answer pair ⟨none⟩ none).count ⟨some priceless⟩ = 1 := by
  have hcreated : pair.Created := Server.created_of_run _ .empty
  have hthere : priceless ∈ pair.laptops.records := by decide +kernel
  exact ⟨hcreated, hthere, (found_once pair hcreated).1 priceless hthere (by decide)⟩

/-- A laptop that is in the catalog, and that a search without a filter does not find. -/
theorem backwards_not_found :
    pair.Created ∧ pair.find? backwards.id = some backwards ∧
      answer pair ⟨none⟩ none = [⟨some priceless⟩] := by
  have hthere : pair.find? backwards.id = some backwards := by decide +kernel
  have hanswer : answer pair ⟨none⟩ none = [⟨some priceless⟩] := by decide +kernel
  exact ⟨Server.created_of_run _ .empty, hthere, hanswer⟩

end SearchLaptop

namespace Catalog

/-- **A search.** In a catalog that saving laptops leads to, the one found under an id is the first
that was saved under it. A visitor, whatever its state, is called as `Searched` says, and a search
changes nothing that no call of its visitor changes. A request with a filter is answered with the
saved laptops that pass, in some order, and the state stays as it is. -/
theorem search_decides {c : Catalog} {saves : List Laptop} (h : c.Holds saves) (f : Filter) :
    (∀ id, c.find? id = saves.find? fun l => l.id = id) ∧
    (∀ {σ ε : Type} (visit : Laptop → σ → σ × Except ε Unit) (s : σ),
      (∃ calls, c.search f (recording visit) ([], s) =
          ((calls, (c.search f visit s).1), (c.search f visit s).2) ∧
        c.Searched f calls (c.search f visit s).2) ∧
      ∀ {α : Type} (watched : σ → α), (∀ l s, watched (visit l s).1 = watched s) →
        watched (c.search f visit s).1 = watched s) ∧
    ∀ (call : Call) (s : State), s.catalog = c →
      decodeOnly SearchLaptopRequest call.messages = .ok ⟨some f⟩ →
      ∃ responses, Server.searchLaptop call s = (.found responses, s) ∧
        responses.Perm (((saveAll {} saves).matching f).map fun l => ⟨some l⟩) := by
  refine ⟨h.find?, fun visit s => ⟨search_recording h.filed f visit s, fun watched kept => ?_⟩,
    fun call s hc hrequest => ?_⟩
  · exact visitAll_frame kept _ s
  · refine ⟨SearchLaptop.answer c ⟨some f⟩ none, by rw [Server.searchLaptop, hrequest, hc], ?_⟩
    rw [SearchLaptop.answer_eq]
    exact (h.perm_matching f).map _

/-- A laptop without a CPU, at no price. -/
def plain : Laptop := { id := "6ba7b812-9dad-41d1-80b4-00c04fd430c8" }

/-- Four laptops that are saved; the third has the id of the first. -/
def fourSaves : List Laptop :=
  [SearchLaptop.priceless, SearchLaptop.backwards, { SearchLaptop.priceless with brand := "B" },
    plain]

/-- What these leave, the last one in front. -/
def shuffled : Catalog :=
  ⟨⟨[(plain.id, plain), (SearchLaptop.backwards.id, SearchLaptop.backwards),
    (SearchLaptop.priceless.id, SearchLaptop.priceless)]⟩⟩

/-- A visitor who counts its calls; the second one fails. -/
def secondFails (_ : Laptop) (n : Nat) : Nat × Except String Unit :=
  (n + 1, if n = 1 then .error "full" else .ok ())

/-- A call that asks with a filter of no figures, which the base clock below zero does not meet. -/
def filtered : Call := ⟨Method.searchLaptop.path, {}, [.ok [0x0a, 0x00]]⟩

def twoCalls : List (Laptop × Except String Unit) :=
  [(plain, .ok ()), (SearchLaptop.priceless, .error "full")]

theorem search_decides_shuffled :
    shuffled.Holds fourSaves ∧
      shuffled.find? SearchLaptop.priceless.id = some SearchLaptop.priceless ∧
      shuffled.search {} (recording secondFails) ([], 0) = ((twoCalls, 2), .error "full") ∧
      shuffled.Searched {} twoCalls (.error "full") ∧
      ∃ responses, Server.searchLaptop filtered { catalog := shuffled, gallery := ⟨"images", {}⟩ } =
          (.found responses, { catalog := shuffled, gallery := ⟨"images", {}⟩ }) ∧
        responses.Perm [⟨some SearchLaptop.priceless⟩, ⟨some plain⟩] := by
  have hholds : shuffled.Holds fourSaves := by
    unfold Holds
    decide +kernel
  obtain ⟨hfind, hsearch, hstream⟩ := search_decides hholds {}
  obtain ⟨⟨calls, hcalls, hsearched⟩, -⟩ := hsearch secondFails 0
  have hstopped : shuffled.search {} secondFails 0 = (2, .error "full") := by decide +kernel
  have hrun : shuffled.search {} (recording secondFails) ([], 0) =
      ((twoCalls, 2), .error "full") := by decide +kernel
  rw [hstopped] at hcalls hsearched
  obtain rfl : calls = twoCalls := by
    rw [hcalls] at hrun
    exact congrArg (·.1.1) hrun
  have hmatching : ((saveAll {} fourSaves).matching {}).map (fun l => ⟨some l⟩) =
      ([⟨some SearchLaptop.priceless⟩, ⟨some plain⟩] : List SearchLaptopResponse) := by
    decide +kernel
  have hrequest : decodeOnly SearchLaptopRequest filtered.messages = .ok ⟨some {}⟩ := by
    decide +kernel
  rw [hmatching] at hstream
  exact ⟨hholds, hfind _, hrun, hsearched, hstream filtered _ rfl hrequest⟩

end Catalog

end Showroom
