import Showroom.Disk
import Showroom.Proofs.Table
import Showroom.Proofs.Text.Split

/-!
# Showroom.Proofs.Disk

Files and the texts that name them. What was written to a file is read from it, and every other file
is as it was before. A name joined to a folder's text names the file of that name in the folder, if
the name is one that no path takes for a direction: not empty, without a slash, and not dots alone.

* `Disk.read_write_self`, `Disk.read_write_of_ne`: reading after writing.
* `Path.ofText_joinText`: where a joined text leads.
-/

namespace Showroom

namespace Disk

variable {d d' : Disk} {s : String} {p q : Path} {data before : Bytes}

theorem read_eq_ok_iff : d.read p = .ok data ↔ d.read? p = some data := by
  unfold read
  constructor
  · intro h
    split at h
    · rename_i found hfound
      cases h
      exact hfound
    · split at h
      · cases h
      · split at h <;> cases h
  · intro h
    rw [h]

theorem write_eq_ok_iff : d.write s data = .ok d' ↔
    d.fileProblem s = none ∧ { d with files := putFile (Path.ofText s) data d.files } = d' := by
  rw [write]
  cases d.fileProblem s with
  | none => simp
  | some e => simp

theorem read?_write (h : d.write s data = .ok d') :
    d'.read? q = if q = Path.ofText s then some data else d.read? q := by
  obtain ⟨-, rfl⟩ := write_eq_ok_iff.mp h
  exact lookup_of_put (f := putFile (Path.ofText s) data) rfl (fun _ _ => rfl) d.files

theorem folders_write (h : d.write s data = .ok d') : d'.folders = d.folders := by
  obtain ⟨-, rfl⟩ := write_eq_ok_iff.mp h
  rfl

theorem read_write_self (h : d.write s data = .ok d') : d'.read (Path.ofText s) = .ok data := by
  rw [read_eq_ok_iff, read?_write h, if_pos rfl]

theorem read_write_of_ne (h : d.write s data = .ok d') (hne : q ≠ Path.ofText s)
    (hread : d.read q = .ok before) : d'.read q = .ok before := by
  rw [read_eq_ok_iff, read?_write h, if_neg hne]
  exact read_eq_ok_iff.mp hread

end Disk

namespace Path

/-- A name that stands for a file or folder in the folder it is looked for in. -/
structure IsPlain (name : String) : Prop where
  nonempty : name ≠ ""
  noSlash : '/' ∉ name.toList
  notHere : name ≠ "."
  notAbove : name ≠ ".."

variable {folder name : String}

theorem namesIn_of_plain (h : IsPlain name) : namesIn name = [name] := by
  rw [namesIn, List.splitOn_eq_singleton h.noSlash]
  simp [h.nonempty]

theorem namesIn_append_slash (front back : String) :
    namesIn (front ++ "/" ++ back) = namesIn front ++ namesIn back := by
  have hsplit : (front ++ "/" ++ back).toList = front.toList ++ '/' :: back.toList := by simp
  rw [namesIn, hsplit, List.splitOn_append_cons_self, List.map_append, List.filter_append]
  rfl

theorem follow_concat (names : List String) (h : IsPlain name) :
    follow (names ++ [name]) = follow names ++ [name] := by
  rw [follow, List.foldl_append, List.foldl_cons, List.foldl_nil, step, if_neg h.notHere,
    if_neg h.notAbove]
  rfl

theorem ofText_append_slash (front : String) (h : IsPlain name) :
    ofText (front ++ "/" ++ name) = ofText front ++ [name] := by
  rw [ofText, namesIn_append_slash, namesIn_of_plain h, follow_concat _ h, ofText]

theorem ofText_concat_slash (front : String) : ofText (front ++ "/") = ofText front := by
  have hnames := namesIn_append_slash front ""
  rw [String.append_empty] at hnames
  rw [ofText, hnames]
  exact congrArg follow (List.append_nil _)

theorem ofText_joinText (folder : String) (h : IsPlain name) :
    ofText (joinText folder name) = ofText folder ++ [name] := by
  unfold joinText
  split
  · rename_i hempty
    rw [hempty, ofText, namesIn_of_plain h]
    exact follow_concat [] h
  · split
    · rename_i hend
      rw [String.endsWith_eq_endsWith_toSlice, String.Slice.endsWith_string_iff] at hend
      obtain ⟨front, hfront⟩ := hend
      have hfolder : folder = String.ofList front ++ "/" := by
        rw [String.copy_toSlice] at hfront
        rw [← String.toList_inj, ← hfront]
        simp
      rw [hfolder, ofText_append_slash _ h, ofText_concat_slash]
    · exact ofText_append_slash folder h

end Path

end Showroom
