import Showroom.Proofs.Bytes
import Showroom.Proofs.Gallery
import Showroom.Proofs.Service.Uploading

/-!
# Showroom.Proofs.Gallery.Saving

Where images are written, whoever chose their types. Nothing but one file in the image folder itself
is touched when an image is saved, and a type that is no plain extension touches nothing. All
identifiers have one length, so with different identifiers no two images have one file, and what was
saved stays as it is. A write that breaks off may leave a part of its file behind, but no image in the
index.

* `Gallery.inFolder_fileName`: what the name of an image's file looks like, and where it leads.
* `Gallery.Attempt`, `Gallery.Attempts`: images that are saved, or not, one after the other.
* `Gallery.attempts_confined`: what one attempt does, and what comes of many.
-/

namespace Showroom

namespace Gallery

open UploadImage (PlainType isExtension_iff_plainType)

/-! ## File names -/

/-- The name of a file that is in a folder itself: ASCII letters and digits, hyphens, and no more than
one dot. It is never too long for a name. -/
structure InFolder (folder name : String) : Prop where
  characters : ∀ c ∈ name.toList, isAlphanumeric c = true ∨ c = '-' ∨ c = '.'
  noSeparator : '/' ∉ name.toList ∧ '\\' ∉ name.toList
  noZero : '\x00' ∉ name.toList
  oneDot : name.toList.count '.' ≤ 1
  notAbove : ¬ ['.', '.'] <:+: name.toList
  fits : Disk.nameProblem name = none
  child : Path.ofText (Path.joinText folder name) = Path.ofText folder ++ [name]

theorem isAlphanumeric_hexDigit : ∀ d < 16, isAlphanumeric (Bytes.hexDigit d) = true := by decide

section Names

variable {u : Uuid} {imageType : String}

theorem mem_fileName (plain : PlainType imageType) {c : Char}
    (h : c ∈ (u.text ++ imageType).toList) : isAlphanumeric c = true ∨ c = '-' ∨ c = '.' := by
  rw [String.toList_append, List.mem_append] at h
  rcases h with hid | htype
  · rcases Uuid.mem_text hid with hhyphen | ⟨d, hd, rfl⟩
    · exact .inr (.inl hhyphen)
    · exact .inl (isAlphanumeric_hexDigit d hd)
  · rcases plain with rfl | ⟨name, hname, -, -, hall⟩
    · cases htype
    · rw [hname] at htype
      rcases List.mem_cons.mp htype with hdot | hletter
      · exact .inr (.inr hdot)
      · exact .inl (hall c hletter)

theorem dot_not_mem_text : '.' ∉ u.text.toList := by
  intro h
  rcases Uuid.mem_text h with hhyphen | ⟨d, hd, hdigit⟩
  · cases hhyphen
  · have hletter := isAlphanumeric_hexDigit d hd
    rw [← hdigit] at hletter
    cases hletter

theorem count_dot_fileName (plain : PlainType imageType) :
    (u.text ++ imageType).toList.count '.' ≤ 1 := by
  rw [String.toList_append, List.count_append, List.count_eq_zero.mpr dot_not_mem_text,
    Nat.zero_add]
  rcases plain with rfl | ⟨name, hname, -, -, hall⟩
  · exact Nat.zero_le 1
  · have hnone : name.count '.' = 0 := List.count_eq_zero.mpr fun h => by cases hall '.' h
    rw [hname, List.count_cons_self, hnone]

theorem length_fileName_le (plain : PlainType imageType) :
    (u.text ++ imageType).toList.length ≤ 52 := by
  rw [String.toList_append, List.length_append, u.length_text]
  rcases plain with rfl | ⟨name, hname, -, hlength, -⟩
  · exact (by decide : 36 + 0 ≤ 52)
  · rw [hname, List.length_cons]
    omega

theorem inFolder_fileName (folder : String) (u : Uuid) (plain : PlainType imageType) :
    InFolder folder (u.text ++ imageType) := by
  have hcharacters : ∀ c ∈ (u.text ++ imageType).toList,
      isAlphanumeric c = true ∨ c = '-' ∨ c = '.' := fun c => mem_fileName plain
  have habsent : ∀ c, isAlphanumeric c = false → c ≠ '-' → c ≠ '.' →
      c ∉ (u.text ++ imageType).toList := by
    intro c hletter hhyphen hdot hmem
    rcases hcharacters c hmem with h | h | h
    · rw [hletter] at h
      cases h
    · exact hhyphen h
    · exact hdot h
  have hone := count_dot_fileName (u := u) plain
  have hascii : ∀ c ∈ (u.text ++ imageType).toList, c.toNat < 128 := by
    intro c hc
    rcases hcharacters c hc with h | rfl | rfl
    · exact toNat_lt_of_isAlphanumeric h
    · decide
    · decide
  have hshort : (u.text ++ imageType).utf8ByteSize ≤ 52 :=
    (Bytes.utf8ByteSize_of_ascii hascii).trans_le (length_fileName_le plain)
  refine ⟨hcharacters, ⟨?_, ?_⟩, ?_, hone, fun htwo => ?_, ?_, ?_⟩
  · exact habsent '/' (by decide) (by decide) (by decide)
  · exact habsent '\\' (by decide) (by decide) (by decide)
  · exact habsent '\x00' (by decide) (by decide) (by decide)
  · have hcount : 2 ≤ (u.text ++ imageType).toList.count '.' := htwo.sublist.count_le '.'
    omega
  · rw [Disk.nameProblem, if_neg (by omega)]
  · exact Path.ofText_joinText folder (isPlain_fileName u (isExtension_iff_plainType.mpr plain))

end Names

/-! ## One image -/

/-- An image that is to be saved, with the identifier that was drawn for it. -/
structure Submission where
  newId : Uuid
  laptopId : String
  imageType : String
  data : Bytes

def Submission.fileName (x : Submission) : String := x.newId.text ++ x.imageType

def target (g : Gallery) (x : Submission) : Path := g.filePath x.fileName

def Submission.record (x : Submission) (folder : String) : ImageRecord :=
  ⟨x.newId.text, x.laptopId, x.imageType, Path.joinText folder x.fileName, x.data.length⟩

/-- An attempt to save an image: its outcome, and the gallery and the disk after it. The disk may also
refuse the write for a reason that its contents do not show, or break it off; then the file is left with
some of the first bytes. -/
inductive Attempt (g : Gallery) (d : Disk) (x : Submission) :
    Except ImageError String → Gallery → Disk → Prop
  | saved {id : String} {g' : Gallery} {d' : Disk}
      (h : g.save d x.newId x.laptopId x.imageType x.data = .ok (id, g', d')) :
      Attempt g d x (.ok id) g' d'
  | refused {error : ImageError}
      (h : g.save d x.newId x.laptopId x.imageType x.data = .error error) :
      Attempt g d x (.error error) g d
  | denied (cause : DiskError) (plain : isExtension x.imageType = true) :
      Attempt g d x (.error (.notWritten (Path.joinText g.folder x.fileName) cause)) g d
  | brokenOff {d' : Disk} (cause : DiskError) (part : Bytes)
      (plain : isExtension x.imageType = true) (first : part <+: x.data)
      (written : d.write (Path.joinText g.folder x.fileName) part = .ok d') :
      Attempt g d x (.error (.notWritten (Path.joinText g.folder x.fileName) cause)) g d'

/-- What an attempt comes to. -/
structure Attempted (g : Gallery) (d : Disk) (x : Submission) (outcome : Except ImageError String)
    (g' : Gallery) (d' : Disk) : Prop where
  inFolder : PlainType x.imageType → x.newId.text.length = 36 ∧ InFolder g.folder x.fileName ∧
    g.target x = Path.ofText g.folder ++ [x.fileName]
  elsewhere : ∀ path, path ≠ g.target x → d'.read? path = d.read? path
  folders : d'.folders = d.folders
  folder : g'.folder = g.folder
  badType : ∀ imageType, outcome = .error (.badType imageType) ↔
    imageType = x.imageType ∧ ¬ PlainType x.imageType
  untouched : ¬ PlainType x.imageType → g' = g ∧ d' = d
  failed : ∀ error, outcome = .error error → g' = g
  saved : ∀ id, outcome = .ok id → id = x.newId.text ∧ d'.read (g.target x) = .ok x.data ∧
    ∀ other, g'.find? other = if other = id then some (x.record g.folder) else g.find? other

theorem save_eq_badType_iff {g : Gallery} {d : Disk} {x : Submission} {imageType : String} :
    g.save d x.newId x.laptopId x.imageType x.data = .error (.badType imageType) ↔
      imageType = x.imageType ∧ ¬ PlainType x.imageType := by
  rw [← isExtension_iff_plainType]
  simp only [save]
  split
  · rename_i hplain
    split <;> simp [hplain]
  · rename_i hplain
    simp [hplain, eq_comm]

theorem target_inFolder (g : Gallery) {x : Submission} (plain : PlainType x.imageType) :
    x.newId.text.length = 36 ∧ InFolder g.folder x.fileName ∧
      g.target x = Path.ofText g.folder ++ [x.fileName] :=
  ⟨x.newId.length_text, inFolder_fileName g.folder x.newId plain, rfl⟩

theorem read?_write_of_ne {g : Gallery} {d d' : Disk} {x : Submission} {data : Bytes}
    (plain : isExtension x.imageType = true)
    (written : d.write (Path.joinText g.folder x.fileName) data = .ok d') {path : Path}
    (h : path ≠ g.target x) : d'.read? path = d.read? path := by
  have htarget : Path.ofText (Path.joinText g.folder x.fileName) = g.target x :=
    ofText_joinText_fileName g x.newId plain
  rw [Disk.read?_write written, if_neg (htarget ▸ h)]

theorem attempted_notWritten {g : Gallery} {d d' : Disk} {x : Submission} {name : String}
    {cause : DiskError} (plain : isExtension x.imageType = true)
    (elsewhere : ∀ path, path ≠ g.target x → d'.read? path = d.read? path)
    (folders : d'.folders = d.folders) :
    Attempted g d x (.error (.notWritten name cause)) g d' := by
  have hplain := isExtension_iff_plainType.mp plain
  exact {
    inFolder := target_inFolder g
    elsewhere := elsewhere
    folders := folders
    folder := rfl
    badType := fun imageType => iff_of_false (by simp) fun hbad => hbad.2 hplain
    untouched := fun hbad => absurd hplain hbad
    failed := fun _ _ => rfl
    saved := fun id hid => by cases hid }

theorem attempted {g g' : Gallery} {d d' : Disk} {x : Submission}
    {outcome : Except ImageError String} (h : Attempt g d x outcome g' d') :
    Attempted g d x outcome g' d' := by
  cases h with
  | saved h =>
    obtain ⟨hext, rfl, hwrite, rfl⟩ := save_eq_ok_iff.mp h
    have hplain := isExtension_iff_plainType.mp hext
    have htarget : Path.ofText (Path.joinText g.folder x.fileName) = g.target x :=
      ofText_joinText_fileName g x.newId hext
    exact {
      inFolder := target_inFolder g
      elsewhere := fun path hpath => read?_write_of_ne hext hwrite hpath
      folders := Disk.folders_write hwrite
      folder := rfl
      badType := fun imageType => iff_of_false (by simp) fun hbad => hbad.2 hplain
      untouched := fun hbad => absurd hplain hbad
      failed := fun error herror => by cases herror
      saved := by
        rintro _ ⟨⟩
        exact ⟨rfl, htarget ▸ Disk.read_write_self hwrite, fun other => find?_withImage⟩ }
  | refused h =>
    exact {
      inFolder := target_inFolder g
      elsewhere := fun path hpath => rfl
      folders := rfl
      folder := rfl
      badType := fun imageType => by
        rw [Except.error.injEq, ← save_eq_badType_iff (d := d), h, Except.error.injEq]
      untouched := fun _ => ⟨rfl, rfl⟩
      failed := fun _ _ => rfl
      saved := fun id hid => by cases hid }
  | denied cause plain => exact attempted_notWritten plain (fun _ _ => rfl) rfl
  | brokenOff cause part plain first written =>
    exact attempted_notWritten plain (fun _ => read?_write_of_ne plain written)
      (Disk.folders_write written)

/-! ## Many images -/

/-- Attempts one after the other, with the outcome of each. -/
inductive Attempts : Gallery → Disk → List Submission → List (Except ImageError String) → Gallery →
    Disk → Prop
  | nil {g : Gallery} {d : Disk} : Attempts g d [] [] g d
  | cons {g g₁ g' : Gallery} {d d₁ d' : Disk} {x : Submission} {xs : List Submission}
      {outcome : Except ImageError String} {outcomes : List (Except ImageError String)}
      (first : Attempt g d x outcome g₁ d₁) (rest : Attempts g₁ d₁ xs outcomes g' d') :
      Attempts g d (x :: xs) (outcome :: outcomes) g' d'

/-- What comes of many attempts. -/
structure Filed (g : Gallery) (d : Disk) (xs : List Submission)
    (outcomes : List (Except ImageError String)) (g' : Gallery) (d' : Disk) : Prop where
  oneEach : outcomes.length = xs.length
  folder : g'.folder = g.folder
  folders : d'.folders = d.folders
  apart : xs.Pairwise fun x y => g.target x ≠ g.target y
  confined : ∀ path, (∀ x ∈ xs, PlainType x.imageType → path ≠ g.target x) →
    d'.read? path = d.read? path
  kept : ∀ x id, (x, .ok id) ∈ xs.zip outcomes →
    id = x.newId.text ∧ g'.find? id = some (x.record g.folder) ∧ d'.read (g.target x) = .ok x.data
  unkept : ∀ id, .ok id ∉ outcomes → g'.find? id = g.find? id

theorem pairwise_target (g : Gallery) {xs : List Submission} (distinct : (xs.map (·.newId)).Nodup) :
    xs.Pairwise fun x y => g.target x ≠ g.target y :=
  (List.pairwise_map.mp distinct).imp fun hne hsame => hne (Uuid.text_inj (filePath_inj hsame))

theorem target_congr {g g' : Gallery} (h : g'.folder = g.folder) : g'.target = g.target := by
  funext x
  rw [target, target, filePath, filePath, h]

theorem Attempted.read?_of_ne {g g' : Gallery} {d d' : Disk} {x : Submission}
    {outcome : Except ImageError String} (h : Attempted g d x outcome g' d') {path : Path}
    (hpath : PlainType x.imageType → path ≠ g.target x) : d'.read? path = d.read? path := by
  by_cases hplain : PlainType x.imageType
  · exact h.elsewhere path (hpath hplain)
  · rw [(h.untouched hplain).2]

theorem Attempted.find?_of_ne {g g' : Gallery} {d d' : Disk} {x : Submission}
    {outcome : Except ImageError String} (h : Attempted g d x outcome g' d') {id : String}
    (hid : outcome ≠ .ok id) : g'.find? id = g.find? id := by
  cases outcome with
  | error error => rw [h.failed error rfl]
  | ok other =>
    have hne : id ≠ other := fun hsame => hid (congrArg Except.ok hsame.symm)
    rw [(h.saved other rfl).2.2 id, if_neg hne]

theorem Filed.kept_first {g g₁ g' : Gallery} {d d₁ d' : Disk} {x : Submission}
    {xs : List Submission} {outcomes : List (Except ImageError String)} {id : String}
    (rest : Filed g₁ d₁ xs outcomes g' d') (first : Attempted g d x (.ok id) g₁ d₁)
    (hnew : ∀ y ∈ xs, x.newId ≠ y.newId) :
    id = x.newId.text ∧ g'.find? id = some (x.record g.folder) ∧
      d'.read (g.target x) = .ok x.data := by
  obtain ⟨rfl, hread, hfind⟩ := first.saved id rfl
  have hother : .ok x.newId.text ∉ outcomes := by
    intro hmem
    rw [← List.map_snd_zip (Nat.le_of_eq rest.oneEach)] at hmem
    obtain ⟨⟨y, _⟩, hpair, rfl⟩ := List.mem_map.mp hmem
    exact hnew y (List.of_mem_zip hpair).1 (Uuid.text_inj (rest.kept y _ hpair).1)
  have htarget : ∀ y ∈ xs, PlainType y.imageType → g.target x ≠ g₁.target y := by
    rw [target_congr first.folder]
    exact fun y hy _ hsame => hnew y hy (Uuid.text_inj (filePath_inj hsame))
  refine ⟨rfl, ?_, ?_⟩
  · rw [rest.unkept _ hother, hfind, if_pos rfl]
  · rw [Disk.read_eq_ok_iff, rest.confined _ htarget]
    exact Disk.read_eq_ok_iff.mp hread

theorem filed {g g' : Gallery} {d d' : Disk} {xs : List Submission}
    {outcomes : List (Except ImageError String)} (h : Attempts g d xs outcomes g' d')
    (distinct : (xs.map (·.newId)).Nodup) : Filed g d xs outcomes g' d' := by
  induction h with
  | nil => exact {
      oneEach := rfl
      folder := rfl
      folders := rfl
      apart := .nil
      confined := fun _ _ => rfl
      kept := fun _ _ h => by cases h
      unkept := fun _ _ => rfl }
  | @cons g g₁ g' d d₁ d' x xs outcome outcomes first _ ih =>
    have hfirst := attempted first
    have htarget := target_congr hfirst.folder
    obtain ⟨hnew, hdistinct⟩ := List.nodup_cons.mp distinct
    have hrest := ih hdistinct
    refine {
      oneEach := by rw [List.length_cons, List.length_cons, hrest.oneEach]
      folder := hrest.folder.trans hfirst.folder
      folders := hrest.folders.trans hfirst.folders
      apart := pairwise_target g distinct
      confined := fun path hpath => ?_
      kept := fun y id hpair => ?_
      unkept := fun id hid => ?_ }
    · rw [List.forall_mem_cons] at hpath
      rw [hrest.confined path (htarget ▸ hpath.2), hfirst.read?_of_ne hpath.1]
    · rcases List.mem_cons.mp hpair with hhere | hlater
      · cases hhere
        exact hrest.kept_first hfirst fun y hy hsame => hnew (List.mem_map.mpr ⟨y, hy, hsame.symm⟩)
      · have hkept := hrest.kept y id hlater
        rwa [htarget, hfirst.folder] at hkept
    · rw [List.mem_cons, not_or] at hid
      rw [hrest.unkept id hid.2, hfirst.find?_of_ne fun h => hid.1 h.symm]

/-- An attempt to save an image touches no file but that of the image, which is in the image folder
itself; a type that is no plain extension is refused, and touches nothing. After any attempts with
different identifiers, whatever was saved is in its own file and in the index, and nothing else has
changed but files left unfinished. -/
theorem attempts_confined :
    (∀ {g g' : Gallery} {d d' : Disk} {x : Submission} {outcome : Except ImageError String},
      Attempt g d x outcome g' d' → Attempted g d x outcome g' d') ∧
    ∀ {g g' : Gallery} {d d' : Disk} {xs : List Submission}
      {outcomes : List (Except ImageError String)}, Attempts g d xs outcomes g' d' →
      (xs.map (·.newId)).Nodup → Filed g d xs outcomes g' d' :=
  ⟨attempted, filed⟩

/-- An image, one whose type leads elsewhere, and one of no type whose write breaks off. -/
def mixture : List Submission :=
  [⟨⟨1⟩, "laptop", ".jpg", [1, 2, 3]⟩, ⟨⟨2⟩, "laptop", "/../../etc", [4]⟩,
    ⟨⟨3⟩, "laptop", "", [5, 6]⟩]

def diskFull : DiskError := .other "No space left on device (os error 28)"

def mixtureOutcomes : List (Except ImageError String) :=
  [.ok "00000000-0000-0000-0000-000000000001", .error (.badType "/../../etc"),
    .error (.notWritten "images/00000000-0000-0000-0000-000000000003" diskFull)]

/-- The image folder with as many of the files that the mixture leaves. -/
def mixtureDisk (files : Nat) : Disk :=
  ⟨[["images"]],
    [(["images", "00000000-0000-0000-0000-000000000001.jpg"], [1, 2, 3]),
      (["images", "00000000-0000-0000-0000-000000000003"], [5])].take files⟩

theorem attempts_confined_mixture :
    let g : Gallery := ⟨"images", {}⟩
    ∃ g', Attempts g (mixtureDisk 0) mixture mixtureOutcomes g' (mixtureDisk 2) ∧
      (mixture.map (·.newId)).Nodup ∧
      Filed g (mixtureDisk 0) mixture mixtureOutcomes g' (mixtureDisk 2) ∧
      Attempted g' (mixtureDisk 1) mixture[1] (.error (.badType "/../../etc")) g'
        (mixtureDisk 1) := by
  intro g
  let g' := g.withImage "00000000-0000-0000-0000-000000000001" "laptop" ".jpg" 3
  have hsaved : Attempt g (mixtureDisk 0) mixture[0] mixtureOutcomes[0] g' (mixtureDisk 1) :=
    .saved (save_eq_ok_iff.mpr ⟨by decide, by decide +kernel, by decide +kernel, rfl⟩)
  have hrefused : Attempt g' (mixtureDisk 1) mixture[1] mixtureOutcomes[1] g' (mixtureDisk 1) :=
    .refused rfl
  have hbroken : Attempt g' (mixtureDisk 1) mixture[2] mixtureOutcomes[2] g' (mixtureDisk 2) := by
    have hpath : Path.joinText g'.folder mixture[2].fileName =
        "images/00000000-0000-0000-0000-000000000003" := by decide +kernel
    have htorn := Attempt.brokenOff diskFull [5] (by decide : isExtension mixture[2].imageType)
      (by decide) (by decide +kernel : (mixtureDisk 1).write
        (Path.joinText g'.folder mixture[2].fileName) [5] = .ok (mixtureDisk 2))
    rwa [hpath] at htorn
  have hall : Attempts g (mixtureDisk 0) mixture mixtureOutcomes g' (mixtureDisk 2) :=
    .cons hsaved (.cons hrefused (.cons hbroken .nil))
  have hdistinct : (mixture.map (·.newId)).Nodup := by decide
  exact ⟨g', hall, hdistinct, attempts_confined.2 hall hdistinct, attempts_confined.1 hrefused⟩

end Gallery

end Showroom
