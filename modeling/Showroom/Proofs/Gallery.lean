import Showroom.Gallery
import Showroom.Proofs.Disk
import Showroom.Proofs.Uuid

/-!
# Showroom.Proofs.Gallery

Where images are kept. The name of an image's file is a plain one, whatever the image's type, so the
file is in the folder itself; and images with different ids are in different files.

* `Gallery.save_eq_ok_iff`: when an image is saved, and what is changed by it.
* `Gallery.ofText_joinText_fileName`: the recorded path of an image leads to its file.
* `Gallery.filePath_inj`: files of one name are files of one id.
-/

namespace Showroom

namespace Gallery

/-! ## File names -/

theorem isExtension_iff {imageType : String} :
    isExtension imageType = true ↔
      imageType = "" ∨ ∃ name, imageType.toList = '.' :: name ∧ name ≠ [] ∧ name.length < 16 ∧
        ∀ c ∈ name, isAlphanumeric c = true := by
  rw [isExtension, ← String.toList_eq_nil_iff]
  cases imageType.toList with
  | nil => simp
  | cons c name =>
    simp only [Bool.and_eq_true, decide_eq_true_eq, List.all_eq_true, Bool.not_eq_true',
      List.isEmpty_eq_false_iff, List.cons.injEq, reduceCtorEq, false_or, and_assoc]
    constructor
    · rintro ⟨hdot, hne, hlength, hall⟩
      exact ⟨name, hdot, rfl, hne, hlength, hall⟩
    · rintro ⟨_, hdot, rfl, hne, hlength, hall⟩
      exact ⟨hdot, hne, hlength, hall⟩

theorem toNat_lt_of_isAlphanumeric {c : Char} (h : isAlphanumeric c = true) : c.toNat < 0x80 := by
  simp only [isAlphanumeric, Bool.or_eq_true, Bool.and_eq_true, decide_eq_true_eq] at h
  have hle : ∀ d : Char, d.toNat < 0x80 → c ≤ d → c.toNat < 0x80 :=
    fun d hd hcd => Nat.lt_of_le_of_lt hcd hd
  rcases h with (⟨-, h⟩ | ⟨-, h⟩) | ⟨-, h⟩
  · exact hle '9' (by decide) h
  · exact hle 'z' (by decide) h
  · exact hle 'Z' (by decide) h

theorem slash_not_mem_extension {imageType : String} (h : isExtension imageType = true) :
    '/' ∉ imageType.toList := by
  rcases isExtension_iff.mp h with rfl | ⟨name, hname, -, -, hall⟩
  · decide
  · rw [hname]
    intro hmem
    rcases List.mem_cons.mp hmem with hdot | hslash
    · cases hdot
    · exact absurd (hall '/' hslash) (by decide)

theorem isPlain_fileName (u : Uuid) {imageType : String} (h : isExtension imageType = true) :
    Path.IsPlain (u.text ++ imageType) := by
  have hlength : 36 ≤ (u.text ++ imageType).toList.length := by
    rw [String.toList_append, List.length_append, u.length_text]
    omega
  have long : ∀ short : String, short.toList.length < 36 → u.text ++ imageType ≠ short := by
    rintro short hshort rfl
    omega
  refine ⟨long "" (by decide), ?_, long "." (by decide), long ".." (by decide)⟩
  rw [String.toList_append, List.mem_append, not_or]
  refine ⟨fun hslash => ?_, slash_not_mem_extension h⟩
  rcases Uuid.mem_text hslash with hhyphen | ⟨d, hd, hdigit⟩
  · cases hhyphen
  · exact absurd hdigit (Bytes.hexDigit_ne_slash d hd)

theorem ofText_joinText_fileName (g : Gallery) (u : Uuid) {imageType : String}
    (h : isExtension imageType = true) :
    Path.ofText (Path.joinText g.folder (u.text ++ imageType)) =
      g.filePath (u.text ++ imageType) :=
  Path.ofText_joinText g.folder (isPlain_fileName u h)

theorem filePath_inj {g : Gallery} {u v : Uuid} {imageType otherType : String}
    (h : g.filePath (u.text ++ imageType) = g.filePath (v.text ++ otherType)) :
    u.text = v.text := by
  have hname : u.text ++ imageType = v.text ++ otherType :=
    List.head_eq_of_cons_eq (List.append_cancel_left h)
  have hchars := congrArg String.toList hname
  rw [String.toList_append, String.toList_append] at hchars
  exact String.toList_inj.mp
    (List.append_inj_left hchars (u.length_text.trans v.length_text.symm))

/-! ## Saving -/

/-- The gallery with an image of this type under this id. -/
def withImage (g : Gallery) (id laptopId imageType : String) (size : Nat) : Gallery :=
  { g with
    index :=
      g.index.put id ⟨id, laptopId, imageType, Path.joinText g.folder (id ++ imageType), size⟩ }

theorem find?_withImage {g : Gallery} {id laptopId imageType other : String} {size : Nat} :
    (g.withImage id laptopId imageType size).find? other =
      if other = id then
        some ⟨id, laptopId, imageType, Path.joinText g.folder (id ++ imageType), size⟩
      else g.find? other :=
  Table.find?_put

theorem size_withImage {g : Gallery} {id laptopId imageType : String} {size : Nat}
    (free : g.find? id = none) : (g.withImage id laptopId imageType size).size = g.size + 1 := by
  rw [Gallery.size, withImage, Table.size, Table.rows_put_of_free free, List.length_append]
  rfl

theorem save_eq_ok_iff {g g' : Gallery} {d d' : Disk} {newId : Uuid}
    {laptopId imageType id : String} {data : Bytes} :
    g.save d newId laptopId imageType data = .ok (id, g', d') ↔
      isExtension imageType = true ∧ id = newId.text ∧
        d.write (Path.joinText g.folder (id ++ imageType)) data = .ok d' ∧
        g' = g.withImage id laptopId imageType data.length := by
  constructor
  · intro h
    simp only [save] at h
    split at h
    · rename_i htype
      split at h
      · cases h
      · rename_i written hwrite
        cases h
        exact ⟨htype, rfl, hwrite, rfl⟩
    · cases h
  · rintro ⟨htype, rfl, hwrite, rfl⟩
    simp only [save, if_pos htype, hwrite]
    rfl

end Gallery

end Showroom
