import Showroom.Client.Upload
import Showroom.Proofs.Service.Uploading
import Showroom.Proofs.Text.Lossy

/-!
# Showroom.Proofs.Client.ImageType

Which type an image has, by its path. A path leads to a name, perhaps through folders, and slashes and
single dots at its end change nothing. The name has an extension if a dot stands in it that is not its
first byte: what follows the last dot, which can be nothing. The type is a plain one just if there is
no extension or a plain one, also where the path is no text.

* `ImageFile.LeadsTo`, `ImageFile.HasExtension`: what a path says.
* `ImageFile.extension?_eq_some_iff`: what is found in it.
* `ImageFile.plainType_imageType`: which paths give a plain type.
-/

namespace Showroom
namespace ImageFile

/-- What can be the name of a file: it has no slash, and is no direction. -/
structure IsName (name : Bytes) : Prop where
  nonempty : name ≠ []
  noSlash : slash ∉ name
  notHere : name ≠ [dot]
  notAbove : name ≠ [dot, dot]

/-- What does not go on: slashes with nothing or a single dot after each. -/
inductive Stays : Bytes → Prop
  | nil : Stays []
  | slash {rest : Bytes} : Stays rest → Stays (slash :: rest)
  | here {rest : Bytes} : Stays rest → Stays (slash :: dot :: rest)

/-- A path to a file of this name: at the front of the path or after a slash, and last in it. -/
def LeadsTo (path name : Bytes) : Prop :=
  IsName name ∧ ∃ folder rest, path = folder ++ name ++ rest ∧
    (folder = [] ∨ folder.getLast? = some slash) ∧ Stays rest

def HasExtension (path extension : Bytes) : Prop :=
  ∃ stem, LeadsTo path (stem ++ dot :: extension) ∧ stem ≠ [] ∧ dot ∉ extension

/-! ## The last name -/

def Goes (piece : Bytes) : Bool := decide (piece ≠ [] ∧ piece ≠ [dot])

theorem not_goes_iff {piece : Bytes} : Goes piece = false ↔ piece = [] ∨ piece = [dot] := by
  rw [Goes, decide_eq_false_iff_not]
  by_cases hempty : piece = [] <;> simp [hempty]

theorem lastName?_eq (path : Bytes) :
    lastName? path =
      ((path.splitOn slash).filter Goes).getLast?.filter (· ≠ [dot, dot]) := rfl

theorem filter_split_append {piece rest : Bytes} (h : Stays rest) (noSlash : slash ∉ piece) :
    ((piece ++ rest).splitOn slash).filter Goes = [piece].filter Goes := by
  induction h generalizing piece with
  | nil => rw [List.append_nil, List.splitOn_eq_singleton noSlash]
  | @slash rest _ ih =>
    rw [List.splitOn_append_cons_self, List.splitOn_eq_singleton noSlash, List.filter_append,
      ← List.nil_append rest, ih (List.not_mem_nil)]
    simp [Goes]
  | @here rest _ ih =>
    have hdot : slash ∉ [dot] := by decide
    have hrest := ih hdot
    rw [List.singleton_append] at hrest
    rw [List.splitOn_append_cons_self, List.splitOn_eq_singleton noSlash, List.filter_append, hrest]
    simp [Goes]

theorem stays_flatMap {pieces : List Bytes} (h : ∀ piece ∈ pieces, Goes piece = false) :
    Stays (pieces.flatMap (slash :: ·)) := by
  induction pieces with
  | nil => exact .nil
  | cons piece pieces ih =>
    obtain ⟨hpiece, hpieces⟩ := List.forall_mem_cons.mp h
    rw [List.flatMap_cons]
    rcases not_goes_iff.mp hpiece with rfl | rfl
    · exact .slash (ih hpieces)
    · exact .here (ih hpieces)

theorem lastName?_eq_some_iff {path name : Bytes} :
    lastName? path = some name ↔ LeadsTo path name := by
  rw [lastName?_eq, Option.filter_eq_some_iff, decide_eq_true_eq]
  constructor
  · rintro ⟨hlast, hnotAbove⟩
    obtain ⟨earlier, hearlier⟩ := List.getLast?_eq_some_iff.mp hlast
    obtain ⟨before, after, hsplit, -, hafter⟩ := List.filter_eq_append_iff.mp hearlier
    obtain ⟨between, back, rfl, -, hgoes, hback⟩ := List.filter_eq_cons_iff.mp hafter
    rw [← List.append_assoc] at hsplit
    obtain ⟨hnonempty, hnotHere⟩ := of_decide_eq_true hgoes
    have hname : name ∈ path.splitOn slash := hsplit ▸ List.mem_append_right _ List.mem_cons_self
    refine ⟨⟨hnonempty, Text.not_mem_of_mem_splitOn hname, hnotHere, hnotAbove⟩,
      _, _, Text.eq_of_splitOn hsplit, ?_, stays_flatMap ?_⟩
    · generalize before ++ between = front
      rcases List.eq_nil_or_concat front with rfl | ⟨front, last, rfl⟩
      · exact .inl rfl
      · exact .inr (by simp)
    · intro piece hpiece
      exact Bool.eq_false_iff.mpr (List.filter_eq_nil_iff.mp hback piece hpiece)
  · rintro ⟨hname, folder, rest, rfl, hfolder, hrest⟩
    have hgoes : Goes name = true := decide_eq_true ⟨hname.nonempty, hname.notHere⟩
    have hlast : ((name ++ rest).splitOn slash).filter Goes = [name] := by
      rw [filter_split_append hrest hname.noSlash, List.filter_cons_of_pos hgoes, List.filter_nil]
    refine ⟨?_, hname.notAbove⟩
    rcases hfolder with rfl | hslash
    · rw [List.nil_append, hlast]
      rfl
    · obtain ⟨before, rfl⟩ := List.getLast?_eq_some_iff.mp hslash
      rw [List.append_assoc, List.append_assoc, List.singleton_append, List.splitOn_append_cons_self,
        List.filter_append, hlast, List.getLast?_concat]

/-! ## Extensions -/

theorem ending?_of_not_mem {name : Bytes} (h : dot ∉ name) : ending? name = none := by
  have hall : ∀ b ∈ name.reverse, decide (b ≠ dot) = true :=
    fun b hb => decide_eq_true fun heq => h (heq ▸ List.mem_reverse.mp hb)
  have htake : (name.reverse ++ []).takeWhile (· ≠ dot) = name.reverse ++ [] :=
    List.takeWhile_append_of_pos hall
  rw [List.append_nil] at htake
  rw [ending?, htake, List.reverse_reverse]
  exact if_neg (Nat.not_lt.mpr (Nat.le_succ _))

theorem ending?_append {stem ending : Bytes} (h : dot ∉ ending) :
    ending? (stem ++ dot :: ending) = if stem = [] then none else some ending := by
  have hall : ∀ b ∈ ending.reverse, decide (b ≠ dot) = true :=
    fun b hb => decide_eq_true fun heq => h (heq ▸ List.mem_reverse.mp hb)
  have htake : ((stem ++ dot :: ending).reverse.takeWhile (· ≠ dot)).reverse = ending := by
    rw [List.reverse_append, List.reverse_cons, List.append_assoc,
      List.takeWhile_append_of_pos hall, List.singleton_append, List.takeWhile_cons_of_neg (by simp),
      List.append_nil, List.reverse_reverse]
  simp only [ending?, htake, List.length_append, List.length_cons]
  cases stem with
  | nil => simp
  | cons b stem =>
    rw [if_pos (by simp), if_neg (List.cons_ne_nil b stem)]

theorem ending?_eq_some_iff {name ending : Bytes} :
    ending? name = some ending ↔ ∃ stem, name = stem ++ dot :: ending ∧ stem ≠ [] ∧ dot ∉ ending := by
  constructor
  · intro h
    by_cases hdot : dot ∈ name.reverse
    · obtain ⟨back, front, hname, hback⟩ := List.eq_append_cons_of_mem hdot
      have hback' : dot ∉ back.reverse := fun hmem => hback (List.mem_reverse.mp hmem)
      have hname' : name = front.reverse ++ dot :: back.reverse := by
        rw [← List.reverse_reverse name, hname]
        simp
      rw [hname', ending?_append hback'] at h
      split at h
      · cases h
      · rename_i hfront
        cases h
        exact ⟨front.reverse, hname', hfront, hback'⟩
    · rw [ending?_of_not_mem fun hmem => hdot (List.mem_reverse.mpr hmem)] at h
      cases h
  · rintro ⟨stem, rfl, hstem, hdot⟩
    rw [ending?_append hdot, if_neg hstem]

theorem extension?_eq_some_iff {path extension : Bytes} :
    extension? path = some extension ↔ HasExtension path extension := by
  rw [extension?, Option.bind_eq_some_iff, HasExtension]
  simp only [lastName?_eq_some_iff, ending?_eq_some_iff]
  constructor
  · rintro ⟨_, hname, stem, rfl, hstem, hdot⟩
    exact ⟨stem, hname, hstem, hdot⟩
  · rintro ⟨stem, hname, hstem, hdot⟩
    exact ⟨_, hname, stem, rfl, hstem, hdot⟩

example : extension? (Bytes.ofText "folder/.hidden") = none := by decide +kernel

example : extension? (Bytes.ofText "folder.d/a.tar.gz/.") = some (Bytes.ofText "gz") := by
  decide +kernel

/-! ## Types -/

/-- Whether a byte is an ASCII letter or digit. -/
def IsPlainByte (b : UInt8) : Prop := Gallery.isAlphanumeric (Char.ofNat b.toNat) = true

instance : DecidablePred IsPlainByte := fun _ => inferInstanceAs (Decidable (_ = true))

/-- A path without an extension, or with one of one to fifteen ASCII letters and digits. -/
def PlainPath (path : Bytes) : Prop :=
  ∀ extension, HasExtension path extension →
    1 ≤ extension.length ∧ extension.length ≤ 15 ∧ ∀ b ∈ extension, IsPlainByte b

/-- An extension gives a plain type just if its bytes are plain, whatever stands for them in the type
if they are no text. -/
theorem plainType_append (extension : Bytes) :
    UploadImage.PlainType ("." ++ Text.ofBytes extension) ↔
      1 ≤ extension.length ∧ extension.length ≤ 15 ∧ ∀ b ∈ extension, IsPlainByte b := by
  have htype : ("." ++ Text.ofBytes extension).toList = '.' :: Text.readLossy none extension := by
    simp [Text.ofBytes]
  have hne : "." ++ Text.ofBytes extension ≠ "" := by
    rw [Ne, ← String.toList_eq_nil_iff, htype]
    exact List.cons_ne_nil _ _
  rw [UploadImage.PlainType, htype]
  constructor
  · rintro (hempty | ⟨name, hname, hsome, hfew, hall⟩)
    · exact absurd hempty hne
    · obtain rfl := (List.cons.inj hname).2
      have hascii : ∀ b ∈ extension, b.toNat < 0x80 :=
        (Text.ascii_of_readLossy (by simp) fun c hc => Gallery.toNat_lt_of_isAlphanumeric (hall c hc)).2
      rw [Text.readLossy_ascii hascii] at hsome hfew hall
      rw [List.length_map] at hsome hfew
      exact ⟨hsome, hfew, fun b hb => hall _ (List.mem_map_of_mem hb)⟩
  · rintro ⟨hsome, hfew, hall⟩
    have hascii : ∀ b ∈ extension, b.toNat < 0x80 := fun b hb => by
      rw [← Bytes.toNat_char b]
      exact Gallery.toNat_lt_of_isAlphanumeric (hall b hb)
    rw [Text.readLossy_ascii hascii]
    refine .inr ⟨_, rfl, by rwa [List.length_map], by rwa [List.length_map], fun c hc => ?_⟩
    obtain ⟨b, hb, rfl⟩ := List.mem_map.mp hc
    exact hall b hb

theorem imageType_of_text {path : Bytes} {extension : String}
    (h : HasExtension path (Bytes.ofText extension)) : imageType path = "." ++ extension := by
  simp only [imageType, extension?_eq_some_iff.mpr h, Text.ofBytes_ofText]

/-- **Which paths give a plain type**: those without an extension or with a plain one. -/
theorem plainType_imageType (path : Bytes) :
    UploadImage.PlainType (imageType path) ↔ PlainPath path := by
  rw [PlainPath, imageType]
  simp only [← extension?_eq_some_iff]
  cases extension? path with
  | none => simp [UploadImage.PlainType]
  | some extension => simp [plainType_append]

end ImageFile
end Showroom
