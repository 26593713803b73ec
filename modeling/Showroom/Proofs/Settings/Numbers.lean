import Showroom.Proofs.Binary64.Decimal
import Showroom.Proofs.Settings.Loading
import Showroom.Proofs.Yaml.Whole

/-!
# Showroom.Proofs.Settings.Numbers

What becomes of the numbers among the settings. A number is converted to 64 bits, and only then to
the bits of its setting. In the environment a number that has no 64 bits is an error. In a file a
negative number of 64 bits is an error, and a number beyond 64 bits is a real number, which is
rounded and brought into range. A port keeps the low 16 bits of what comes of that.

* `Settings.kept?`: what a number is converted to.
* `Settings.load_number`: what is loaded.
* `Settings.load_largePort`: a port that is loaded as another one.
-/

namespace Showroom

namespace Settings

open Text (Signed)
open Yaml (Node)
open Yaml.Node (Written Stands Fits)

/-! ## Conversion -/

/-- A value that was given as a whole number: in the file as a plain scalar in one of the notations,
perhaps with the tag for whole numbers, or in the environment in decimal. -/
inductive Spelled : Origin → Value → Int → Prop where
  | file {tag : Option (List Char × List Char)} {cs : List Char} {n : Int} {v : Value}
      (written : Written cs n) (tagged : tag = none ∨ tag = some (['!', '!'], "int".toList))
      (value : Value.ofNode? (Node.ofScalar true tag cs) = some v) : Spelled .file v n
  | environment {t : String} {n : Int} (written : Signed t.toList n) :
      Spelled .environment (.text (some .environment) t) n

/-- What a number is converted to, unless it is an error. -/
def kept? : Origin → Int → Option Nat
  | .file, n =>
    if n < -0x8000000000000000 then some 0
    else if n < 0 then none
    else if n < 0x8000000000000000 then some n.toNat
    else some (min (Binary64.roundUnits n.toNat) (UInt64.size - 1))
  | .environment, n => if 0 ≤ n ∧ n < UInt64.size then some n.toNat else none

variable {v : Value} {n : Int} {k : UInt64} {origin : Origin} {cs : List Char}

theorem not_word {t : String} {c : Char} {rest : List Char} (ht : t.toList = c :: rest)
    (hc : c.toNat ≤ 57) :
    t.map Char.toLower ∉ ["true", "on", "yes"] ∧ t.map Char.toLower ∉ ["false", "off", "no"] := by
  have hletters : ∀ w ∈ ["true", "on", "yes", "false", "off", "no"],
      w.toList.head?.all (fun d => 57 < d.toNat) = true := by decide
  have hne : ∀ w ∈ ["true", "on", "yes", "false", "off", "no"], t.map Char.toLower ≠ w := by
    rintro w hw rfl
    have hletter := hletters _ hw
    rw [String.toList_map, ht, List.map_cons, Yaml.Node.toLower_of_toNat_le hc, List.head?_cons,
      Option.all_some, decide_eq_true_eq] at hletter
    omega
  exact ⟨fun hmem => hne _ (List.mem_append_left ["false", "off", "no"] hmem) rfl,
    fun hmem => hne _ (List.mem_append_right ["true", "on", "yes"] hmem) rfl⟩

theorem numberOf_signed {t : String} (h : Signed t.toList n) (hk : Value.numberOf t = some k) :
    kept? .environment n = some k.toNat := by
  obtain ⟨c, rest, ht, hc⟩ := h.exists_cons
  obtain ⟨hyes, hno⟩ := not_word ht hc
  have hread : ∀ {m : Nat}, (if m < UInt64.size then some (UInt64.ofNat m) else none) = some k →
      kept? .environment m = some k.toNat := by
    intro m hk
    split at hk
    · rename_i hsmall
      cases hk
      rw [kept?, if_pos (by omega), UInt64.toNat_ofNat_of_lt' hsmall, Int.toNat_natCast]
    · cases hk
  unfold Value.numberOf at hk
  simp only [List.contains_eq_mem, hyes, hno, decide_false, Bool.false_eq_true, if_false] at hk
  generalize t.toList = cs at h hk
  split at hk
  · rename_i m hm
    cases h with
    | plain digits =>
      obtain ⟨d, rest, rfl, hd⟩ := Text.Decimal.exists_cons_of_read? digits
      split at hm
      · rename_i hplus
        cases hplus
        exact absurd hd (by decide)
      · cases digits.symm.trans hm
        exact hread hk
    | plus digits =>
      cases digits.symm.trans hm
      exact hread hk
    | minus digits =>
      have hnone : ∀ ds, Text.Decimal.read? ('-' :: ds) = none := fun _ => rfl
      cases (hnone _).symm.trans hm
  · cases hk

theorem roundToUInt64_large (h : Signed cs n) (large : ¬ Fits n) {x : Binary64}
    (hx : Binary64.ofDecimal? cs = some x) :
    kept? .file n = some x.roundToUInt64.toNat := by
  obtain ⟨y, hy, hpos, hneg⟩ := Yaml.Node.ofDecimal?_signed h
  cases hy.symm.trans hx
  rw [Fits] at large
  rcases lt_or_ge n 0 with hn | hn
  · rw [hneg hn, Binary64.roundToUInt64_neg_ofWhole (by omega), kept?, if_pos (by omega)]
    rfl
  · rw [hpos (by omega), Binary64.toNat_roundToUInt64_ofWhole (by omega), kept?, if_neg (by omega),
      if_neg (by omega), if_neg (by omega)]
    have habs : n.natAbs = n.toNat := by omega
    rw [habs]

theorem numberOf_marked {c : Char} {ds : List Char} (mark : c = 'x' ∨ c = 'o') :
    Value.numberOf (String.ofList ('0' :: c :: ds)) = none := by
  obtain ⟨hyes, hno⟩ := not_word (String.toList_ofList (l := '0' :: c :: ds)) (by decide)
  unfold Value.numberOf
  simp only [List.contains_eq_mem, hyes, hno, decide_false, Bool.false_eq_true, if_false,
    String.toList_ofList]
  rcases mark with rfl | rfl <;> rfl

/-- **What a number is converted to.** -/
theorem asNumber_spelled (h : Spelled origin v n) (hk : v.asNumber = .ok k) :
    kept? origin n = some k.toNat := by
  cases h with
  | environment written =>
    rw [Value.asNumber] at hk
    split at hk
    · rename_i hnumber
      cases hk
      exact numberOf_signed written hnumber
    · cases hk
  | file written tagged value =>
    have hstands := Yaml.Node.ofScalar_written written tagged
    generalize Node.ofScalar true _ _ = node at hstands value
    cases hstands with
    | whole fits =>
      rw [Fits] at fits
      cases value
      rw [Value.asNumber] at hk
      split at hk
      · cases hk
        have hnumber : (UInt64.ofInt n).toNat = n.toNat := by
          rw [UInt64.ofInt, UInt64.toNat_ofNat']
          omega
        rw [kept?, if_neg (by omega), if_neg (by omega), if_pos fits.2, hnumber]
      · cases hk
    | real large decimal =>
      obtain ⟨x, hx, rfl⟩ := Option.map_eq_some_iff.mp value
      cases hk
      exact roundToUInt64_large decimal large hx
    | text large split mark =>
      subst split
      cases value
      rw [Value.asNumber, numberOf_marked mark] at hk
      cases hk
    | blank =>
      cases value
      cases hk

/-! ## Settings -/

/-- The settings that are numbers. -/
inductive Number where
  | port
  | tokenSeconds
  | imageLimit
deriving DecidableEq

namespace Number

def value? (rows : Rows) : Number → Option Value
  | port => rows.lookup "app_port"
  | tokenSeconds => (rows.lookup "auth").bind (Value.field? "token_duration_secs" 1)
  | imageLimit => (rows.lookup "images").bind (Value.field? "max_size" 1)

def size : Number → Nat
  | port => UInt16.size
  | tokenSeconds => UInt64.size
  | imageLimit => UInt64.size

def loaded (s : Settings) : Number → Nat
  | port => s.port.toNat
  | tokenSeconds => s.tokenSeconds.toNat
  | imageLimit => s.imageLimit.toNat

end Number

variable {rows : Rows} {s : Settings} {file envFile : Option String} {e : Environment}

theorem given_of_givenOr {α : Type} {fallback a : α} {found : Option Value}
    {convert : Value → Except LoadError α} (h : GivenOr fallback found convert a)
    (hv : found = some v) : convert v = .ok a := by
  rcases h with ⟨hnone, -⟩ | ⟨w, hw, h⟩
  · rw [hnone] at hv
    cases hv
  · rw [hw] at hv
    cases hv
    exact h

theorem Loaded.number (h : Loaded rows s) (f : Number) (hv : f.value? rows = some v) :
    ∃ k, v.asNumber = .ok k ∧ f.loaded s = k.toNat % f.size := by
  cases f with
  | port =>
    obtain ⟨k, ⟨w, hw, hk⟩, hport⟩ := h.port
    cases hw.symm.trans hv
    refine ⟨k, hk, ?_⟩
    rw [Number.loaded, hport]
    exact UInt64.toNat_toUInt16 k
  | tokenSeconds =>
    obtain ⟨group, hgroup, hauth⟩ := h.auth
    rw [Number.value?, hgroup, Option.bind_some] at hv
    obtain ⟨-, -, hseconds⟩ := readAuth_eq_ok_iff.mp hauth
    exact ⟨_, given_of_givenOr hseconds hv, (Nat.mod_eq_of_lt s.tokenSeconds.toNat_lt).symm⟩
  | imageLimit =>
    obtain ⟨group, hgroup, himages⟩ := h.images
    rw [Number.value?, hgroup, Option.bind_some] at hv
    obtain ⟨-, -, hlimit⟩ := readImages_eq_ok_iff.mp himages
    exact ⟨_, given_of_givenOr hlimit hv, (Nat.mod_eq_of_lt s.imageLimit.toNat_lt).symm⟩

/-- **What is loaded of a number.** If loading succeeds, the setting is what the number is converted
to, cut to its bits, and the number is not one that `kept?` gives nothing for. So it is the number
itself from zero up to the largest of its bits, if the number has 64 bits where it stands in the
file. -/
theorem load_number (f : Number) (htree : tree file envFile e = .ok rows)
    (hv : f.value? rows = some v) (hn : Spelled origin v n) :
    (∀ s, load file envFile e = .ok s →
      (kept? origin n).map (· % f.size) = some (f.loaded s)) ∧
    (0 ≤ n → n < f.size → (origin = .file → n < 0x8000000000000000) →
      ∀ s, load file envFile e = .ok s → (f.loaded s : Int) = n) := by
  have hkept : ∀ s, load file envFile e = .ok s →
      (kept? origin n).map (· % f.size) = some (f.loaded s) := by
    intro s hs
    rw [load_eq, htree] at hs
    obtain ⟨k, hk, hloaded⟩ := (ofRows_eq_ok_iff.mp hs).number f hv
    rw [asNumber_spelled hn hk, Option.map_some, hloaded]
  refine ⟨hkept, fun hpos hsize hfile s hs => ?_⟩
  have hload := hkept s hs
  have hlarge : (f.size : Int) ≤ UInt64.size := by cases f <;> decide
  have hself : kept? origin n = some n.toNat := by
    cases origin with
    | file => rw [kept?, if_neg (by omega), if_neg (by omega), if_pos (hfile rfl)]
    | environment => rw [kept?, if_pos (by omega)]
  rw [hself, Option.map_some, Option.some_inj, Nat.mod_eq_of_lt (by omega)] at hload
  omega

/-! ## Two ports -/

def portFile (port : String) : String :=
  "app_host: 127.0.0.1\napp_port: " ++ port ++ "\nauth:\n  secret_key: s3cr3t\nimages: \x7b\x7d\n"

theorem exists_tree (f : Number) (h : (((tree file envFile e).toOption.bind fun rows =>
    f.value? rows).map fun v => (v.found, v.origin)) = some (.whole n, some .file)) :
    ∃ rows, tree file envFile e = .ok rows ∧ f.value? rows = some (.whole (some .file) n) := by
  obtain ⟨v, hv, hwhole⟩ := Option.map_eq_some_iff.mp h
  obtain ⟨rows, hrows, hv⟩ := Option.bind_eq_some_iff.mp hv
  refine ⟨rows, eq_ok_of_toOption hrows, ?_⟩
  cases v <;> cases hwhole
  exact hv

theorem load_number_port : ∃ rows s, tree (some (portFile "8080")) none {} = .ok rows ∧
    Number.port.value? rows = some (.whole (some .file) 8080) ∧
    load (some (portFile "8080")) none {} = .ok s ∧
    (kept? .file 8080).map (· % Number.port.size) = some (Number.port.loaded s) ∧
    (Number.port.loaded s : Int) = 8080 := by
  have hvalue : (((tree (some (portFile "8080")) none {}).toOption.bind fun rows =>
      Number.port.value? rows).map fun v => (v.found, v.origin)) =
        some (.whole 8080, some .file) := by
    decide +kernel
  have hload : load (some (portFile "8080")) none {} =
      .ok ⟨"127.0.0.1", 8080, "s3cr3t", 900, "img", 1048576, []⟩ := by
    decide +kernel
  have hwritten : Written "8080".toList 8080 :=
    .decimal (.plain (by decide : Text.Decimal.read? "8080".toList = some 8080))
  obtain ⟨rows, htree, hport⟩ := exists_tree .port hvalue
  obtain ⟨hkept, hself⟩ := load_number .port htree hport (.file hwritten (.inl rfl) rfl)
  exact ⟨rows, _, htree, hport, hload, hkept _ hload,
    hself (by decide) (by decide) (fun _ => by decide) _ hload⟩

/-- A port of more than 16 bits is no error, and another port is loaded. -/
theorem load_largePort : ∃ rows s, tree (some (portFile "70000")) none {} = .ok rows ∧
    Number.port.value? rows = some (.whole (some .file) 70000) ∧
    load (some (portFile "70000")) none {} = .ok s ∧ s.port = 4464 := by
  have hvalue : (((tree (some (portFile "70000")) none {}).toOption.bind fun rows =>
      Number.port.value? rows).map fun v => (v.found, v.origin)) =
        some (.whole 70000, some .file) := by
    decide +kernel
  have hload : load (some (portFile "70000")) none {} =
      .ok ⟨"127.0.0.1", 4464, "s3cr3t", 900, "img", 1048576, []⟩ := by
    decide +kernel
  obtain ⟨rows, htree, hport⟩ := exists_tree .port hvalue
  exact ⟨rows, _, htree, hport, hload, rfl⟩

end Settings

end Showroom
