import Showroom.Proofs.Binary64.Single
import Showroom.Proofs.Sample.Draws
import Showroom.Proofs.Uuid
import Showroom.Sample.Ranges

/-!
# Showroom.Proofs.Sample.Laptop

Random laptops are as they are meant to be, whatever words they are made from.

* `Sample.always_laptop`: every part of a random laptop is within its ranges.
* `Sample.always_score`: a random score is one of those that there are.
-/

namespace Showroom.Sample

theorem isWithin_iff {first last : Nat} {x : Binary64} (hfirst : (halves first).isNaN = false)
    (hlast : (halves last).isNaN = false) :
    isWithin first last x = true ↔ Between (halves first) (halves last) x := by
  constructor
  · intro h
    simp only [isWithin, Bool.and_eq_true, Bool.not_eq_true'] at h
    obtain ⟨⟨hnumber, habove⟩, hbelow⟩ := h
    exact ⟨hnumber, (Binary64.lt_eq_false_iff_place hfirst hnumber).mp habove,
      (Binary64.lt_eq_false_iff_place hnumber hlast).mp hbelow⟩
  · intro ⟨hnumber, habove, hbelow⟩
    rw [isWithin, hnumber, (Binary64.lt_eq_false_iff_place hfirst hnumber).mpr habove,
      (Binary64.lt_eq_false_iff_place hnumber hlast).mpr hbelow]
    rfl

/-- A range of clock rates that is drawn from below: first where it begins, then where it ends. -/
theorem clocksFit_of_between {first middle last : Nat} {low high : Binary64}
    (hfirst : (halves first).isNaN = false) (hlast : (halves last).isNaN = false)
    (hmiddle : (halves middle).place ≤ (halves last).place)
    (hlow : Between (halves first) (halves middle) low) (hhigh : Between low (halves last) high) :
    clocksFit first last low high = true := by
  have hl : isWithin first last low = true :=
    (isWithin_iff hfirst hlast).mpr ⟨hlow.number, hlow.above, hlow.below.trans hmiddle⟩
  have hh : isWithin first last high = true :=
    (isWithin_iff hfirst hlast).mpr ⟨hhigh.number, hlow.above.trans hhigh.above, hhigh.below⟩
  rw [clocksFit, hl, hh, (Binary64.lt_eq_false_iff_place hlow.number hhigh.number).mpr hhigh.above]
  rfl

theorem always_clocks {β : Type} {first middle last : Nat} {f : Binary64 → Binary64 → Sampler β}
    {Q : β → Prop} (hfirst : (halves first).isFinite = true)
    (hmiddle : (halves middle).isFinite = true) (hlast : (halves last).isFinite = true)
    (hbegin : (halves first).place ≤ (halves middle).place)
    (hend : (halves middle).place ≤ (halves last).place)
    (hf : ∀ low high, clocksFit first last low high = true → Always (f low high) Q) :
    Always (doubleBetween (halves first) (halves middle) >>= fun low =>
      doubleBetween low (halves last) >>= f low) Q := by
  refine (always_doubleBetween hfirst hmiddle hbegin).bind fun low hlow => ?_
  have hfinite : low.isFinite = true := hlow.isFinite hfirst hmiddle
  have hplace : low.place ≤ (halves last).place := hlow.below.trans hend
  refine (always_doubleBetween hfinite hlast hplace).bind fun high hhigh => hf low high ?_
  exact clocksFit_of_between (Binary64.isNaN_of_isFinite hfirst) (Binary64.isNaN_of_isFinite hlast)
    hend hlow hhigh

/-! ## Parts -/

variable {n : Nat}

theorem toNat_ofNat_of_le {m : Nat} (h : n ≤ m) (hm : m < UInt32.size) :
    (UInt32.ofNat n).toNat = n :=
  UInt32.toNat_ofNat_of_lt' (Nat.lt_of_le_of_lt h hm)

def IsModel (models : Models) (brand name : String) : Prop :=
  ∃ names, (brand, names) ∈ models ∧ name ∈ names

theorem always_model {models : Models} (some : models ≠ []) (named : ∀ m ∈ models, m.2 ≠ []) :
    Always (model models) fun m => IsModel models m.1 m.2 := by
  refine (always_oneOf some).bind fun brand hbrand => ?_
  refine (always_oneOf (named brand hbrand)).bind fun name hname => always_pure ?_
  exact ⟨brand.2, hbrand, hname⟩

structure CpuFits (c : Cpu) : Prop where
  model : IsModel cpuModels c.brand c.name
  cores : 2 ≤ c.cores.toNat ∧ c.cores.toNat ≤ 8
  threads : threadsFit c = true
  clocks : clocksFit 4 10 c.minGhz c.maxGhz = true

theorem always_cpu : Always cpu CpuFits := by
  refine (always_model (by decide) (by decide)).bind fun model hmodel => ?_
  refine (always_between (by decide)).bind fun cores hcores => ?_
  refine (always_between (by omega)).bind fun threads hthreads => ?_
  refine always_clocks (by decide) (by decide) (by decide) (by decide) (by decide)
    fun low high hclocks => always_pure ?_
  have hcoresNat : (UInt32.ofNat cores).toNat = cores := toNat_ofNat_of_le hcores.2 (by decide)
  have hthreadsNat : (UInt32.ofNat threads).toNat = threads :=
    toNat_ofNat_of_le hthreads.2 (by decide)
  refine ⟨hmodel, ?_, ?_, hclocks⟩
  · rw [hcoresNat]
    exact hcores
  · rw [threadsFit, Bool.and_eq_true, decide_eq_true_eq, decide_eq_true_eq,
      UInt32.le_iff_toNat_le, UInt32.le_iff_toNat_le, hcoresNat, hthreadsNat]
    exact hthreads

def IsMemory (first last : Nat) (unit : MemoryUnit) (m : Option Memory) : Prop :=
  ∃ n, first ≤ n ∧ n ≤ last ∧ m = some (Memory.of (UInt64.ofNat n) unit)

theorem always_memoryBetween {first last : Nat} (unit : MemoryUnit) (h : first ≤ last) :
    Always (memoryBetween first last unit) fun m => IsMemory first last unit (some m) :=
  (always_between h).bind fun n hn => always_pure ⟨n, hn.1, hn.2, rfl⟩

structure GpuFits (g : Gpu) : Prop where
  model : IsModel gpuModels g.brand g.name
  memory : IsMemory 2 6 .gigabyte g.memory
  clocks : clocksFit 2 4 g.minGhz g.maxGhz = true

theorem always_gpu : Always gpu GpuFits := by
  refine (always_model (by decide) (by decide)).bind fun model hmodel => ?_
  refine always_clocks (by decide) (by decide) (by decide) (by decide) (by decide)
    fun low high hclocks => ?_
  refine (always_memoryBetween _ (by decide)).bind fun memory hmemory => always_pure ?_
  exact ⟨hmodel, hmemory, hclocks⟩

/-- Rounding to single precision keeps a number of inches within its range: both ends of it have few
enough digits to stay what they are. -/
theorem sizeFits_of_between {size : Binary64} (h : Between (halves 26) (halves 34) size) :
    (halves 26).toSingle.bits ≤ size.toSingle.bits ∧
      size.toSingle.bits ≤ (halves 34).toSingle.bits := by
  have hfirst : (halves 26).toSingle.bits.toNat = 0x41500000 := by decide
  have hlast : (halves 34).toSingle.bits.toNat = 0x41880000 := by decide
  have hlow : (0x402a000000000000 : Int) ≤ size.place := h.above
  have hhigh : size.place ≤ (0x4031000000000000 : Int) := h.below
  have hpositive : size.isNegative = false := by
    refine Bool.eq_false_iff.mpr fun hnegative => ?_
    rw [Binary64.place, if_pos hnegative] at hlow
    omega
  have hsign : size.sign = .positive := Binary64.sign_eq_positive_iff.mpr hpositive
  rw [Binary64.place, hpositive] at hlow hhigh
  simp only [Bool.false_eq_true, if_false] at hlow hhigh
  have hparts := size.isParts
  rw [hsign] at hparts
  generalize hu : size.parts = u at hparts
  rw [UInt32.le_iff_toNat_le, UInt32.le_iff_toNat_le, hfirst, hlast]
  cases hparts with
  | normal exponent fraction hmagnitude small least most =>
    rw [Binary64.toNat_toSingle hu (by omega) (by omega) (by omega) (by omega)]
    have hnearest := Binary64.div_le_nearest (4503599627370496 + fraction) 29 .exact
    have hcases : exponent = 1026 ∧ 2814749767106560 ≤ fraction ∨
        exponent = 1027 ∧ fraction ≤ 281474976710656 := by omega
    rcases hcases with ⟨rfl, hfraction⟩ | ⟨rfl, hfraction⟩
    · have hmost : Binary64.nearest (4503599627370496 + fraction) 29 .exact ≤ 16777216 :=
        Binary64.nearest_le_of_le (by omega) fun _ => rfl
      omega
    · have hmost : Binary64.nearest (4503599627370496 + fraction) 29 .exact ≤ 8912896 :=
        Binary64.nearest_le_of_le (by omega) fun _ => rfl
      omega
  | _ => omega

theorem resolutionFits_of_height {height : Nat} {s : Screen} (hlow : 1080 ≤ height)
    (hhigh : height ≤ 4320)
    (hs : s.resolution = some ⟨UInt32.ofNat (height * 16 / 9), UInt32.ofNat height⟩) :
    resolutionFits s = true := by
  have hheight : (UInt32.ofNat height).toNat = height := toNat_ofNat_of_le hhigh (by decide)
  have hwidth : (UInt32.ofNat (height * 16 / 9)).toNat = height * 16 / 9 :=
    toNat_ofNat_of_le (m := 7680) (by omega) (by decide)
  have hratio : UInt32.ofNat (height * 16 / 9) = UInt32.ofNat height * 16 / 9 := by
    rw [← UInt32.toNat_inj, hwidth, UInt32.toNat_div, UInt32.toNat_mul, hheight]
    change height * 16 / 9 = height * 16 % 4294967296 / 9
    rw [Nat.mod_eq_of_lt (by omega)]
  simp only [resolutionFits, hs, Option.any_some, Bool.and_eq_true, decide_eq_true_eq,
    UInt32.le_iff_toNat_le, hheight]
  exact ⟨⟨hlow, hhigh⟩, hratio⟩

theorem always_screen : Always screen fun s => sizeFits s = true ∧ resolutionFits s = true := by
  refine (always_between (by decide)).bind fun height hheight => ?_
  refine (always_oneOf (by decide)).bind fun panel _ => ?_
  refine (always_doubleBetween (by decide) (by decide) (by decide)).bind fun size hsize => ?_
  refine always_true.bind fun multitouch _ => always_pure ⟨?_, ?_⟩
  · rw [sizeFits, Bool.and_eq_true, decide_eq_true_eq, decide_eq_true_eq]
    exact sizeFits_of_between hsize
  · exact resolutionFits_of_height hheight.1 hheight.2 rfl

/-! ## Laptops -/

/-- What a random laptop is. -/
structure Fits (now : Timestamp) (l : Laptop) : Prop where
  model : IsModel laptopModels l.brand l.name
  id : ∃ u : Uuid, Uuid.parse l.id = .ok u
  cpu : ∃ c, l.cpu = some c ∧ CpuFits c
  gpu : ∃ g, l.gpus = [g] ∧ GpuFits g
  ram : IsMemory 4 64 .gigabyte l.ram
  storages : ∃ ssd hdd, l.storages = [ssd, hdd] ∧ ssdFits ssd = true ∧
    ssd.driveCode = DriveKind.ssd.code ∧ IsMemory 1 6 .terabyte hdd.memory ∧
    hdd.driveCode = DriveKind.hdd.code
  screen : ∃ s, l.screen = some s ∧ sizeFits s = true ∧ resolutionFits s = true
  weight : weightFits l = true
  price : priceFits l = true
  year : 2015 ≤ l.releaseYear.toNat ∧ l.releaseYear.toNat ≤ 2024
  updated : l.updatedAt = some now

theorem always_ssd :
    Always ssd fun s => ssdFits s = true ∧ s.driveCode = DriveKind.ssd.code := by
  refine (always_memoryBetween _ (by decide)).bind fun memory hmemory => always_pure ⟨?_, rfl⟩
  obtain ⟨n, hlow, hhigh, heq⟩ := hmemory
  cases heq
  have hn : (UInt64.ofNat n).toNat = n := UInt64.toNat_ofNat_of_lt' (hhigh.trans_lt (by decide))
  simp only [ssdFits, Memory.of, Option.any_some, Bool.and_eq_true, decide_eq_true_eq,
    UInt64.le_iff_toNat_le, hn]
  exact ⟨hlow, hhigh⟩

theorem always_hdd :
    Always hdd fun s => IsMemory 1 6 .terabyte s.memory ∧ s.driveCode = DriveKind.hdd.code :=
  (always_memoryBetween _ (by decide)).bind fun _ hmemory => always_pure ⟨hmemory, rfl⟩

/-- **A random laptop is as it is meant to be**, whatever words it is made from. -/
theorem always_laptop (now : Timestamp) : Always (laptop now) (Fits now) := by
  refine (always_model (by decide) (by decide)).bind fun model hmodel => ?_
  refine always_true.bind fun id _ => ?_
  refine always_cpu.bind fun cpu hcpu => ?_
  refine (always_memoryBetween _ (by decide)).bind fun ram hram => ?_
  refine always_gpu.bind fun gpu hgpu => ?_
  refine always_ssd.bind fun ssd hssd => ?_
  refine always_hdd.bind fun hdd hhdd => ?_
  refine always_screen.bind fun screen hscreen => ?_
  refine always_true.bind fun keyboard _ => ?_
  refine (always_doubleBetween (by decide) (by decide) (by decide)).bind fun weight hweight => ?_
  refine (always_doubleBetween (by decide) (by decide) (by decide)).bind fun price hprice => ?_
  refine (always_between (by decide)).bind fun year hyear => always_pure ?_
  exact {
    model := hmodel
    id := ⟨id, id.parse_text⟩
    cpu := ⟨cpu, rfl, hcpu⟩
    gpu := ⟨gpu, rfl, hgpu⟩
    ram := hram
    storages := ⟨ssd, hdd, rfl, hssd.1, hssd.2, hhdd⟩
    screen := ⟨screen, rfl, hscreen⟩
    weight := (isWithin_iff (by decide) (by decide)).mpr hweight
    price := (isWithin_iff (by decide) (by decide)).mpr hprice
    year := by
      rw [toNat_ofNat_of_le hyear.2 (by decide)]
      exact hyear
    updated := rfl }

theorem always_score : Always score fun x => ∃ n, 2 ≤ n ∧ n ≤ 20 ∧ x = halves n :=
  (always_between (by decide)).bind fun n hn => always_pure ⟨n, hn.1, hn.2, rfl⟩

theorem always_scores (count : Nat) :
    Always (many score count) fun xs =>
      xs.length = count ∧ ∀ x ∈ xs, ∃ n, 2 ≤ n ∧ n ≤ 20 ∧ x = halves n :=
  always_many always_score count

end Showroom.Sample
