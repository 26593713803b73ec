import Showroom.Proofs.Wire.Fields

/-!
# Showroom.Proofs.Wire.RoundTrip

Messages arrive as they were sent, whatever their type: numbers of any size and sign, codes that
name nothing, any text, parts present or missing, any number of repeated parts and either case of
an alternative. The one thing that is lost is the sign of a zero in a plain field, and what arrives
is written with the same bytes again.

* `decode_encode_settled`: reading a written message, for every type.
-/

namespace Showroom.Wire

/-! ## Parts of a laptop -/

instance : Lossless Memory where
  fits_entries m _ := by
    simp only [Message.entries, List.forall_mem_append]
    exact ⟨fits_natEntry rfl, fits_codeEntry rfl⟩
  extend_entries m es := by
    simp only [Message.entries, List.append_assoc]
    rw [extend_natEntry rfl, extend_codeEntry rfl]
    simp [Message.add, Message.blank, codeOf_toUInt64, settled]
  entries_settled _ := rfl

instance : Lossless Cpu where
  fits_entries c _ := by
    simp only [Message.entries, List.forall_mem_append, and_assoc]
    exact ⟨fits_textEntry rfl, fits_textEntry rfl, fits_natEntry rfl, fits_natEntry rfl,
      fits_doubleEntry rfl, fits_doubleEntry rfl⟩
  extend_entries c es := by
    simp only [Message.entries, List.append_assoc]
    rw [extend_textEntry rfl, extend_textEntry rfl, extend_natEntry rfl, extend_natEntry rfl,
      extend_doubleEntry rfl, extend_doubleEntry rfl]
    simp [Message.add, Message.blank, settled]
  entries_settled c := by
    simp only [Message.entries, settled, doubleEntry_settled]

instance : Lossless Gpu where
  fits_entries g h := by
    simp only [Message.entries, List.forall_mem_append, and_assoc]
    exact ⟨fits_textEntry rfl, fits_textEntry rfl, fits_doubleEntry rfl, fits_doubleEntry rfl,
      fits_partEntry rfl h⟩
  extend_entries g es := by
    simp only [Message.entries, List.append_assoc]
    rw [extend_textEntry rfl, extend_textEntry rfl, extend_doubleEntry rfl, extend_doubleEntry rfl,
      extend_partEntry fun (g : Gpu) memory => { g with memory := memory }]
    · simp [Message.add, Message.blank, settled]
    · rfl
    · intro fields
      rfl
  entries_settled g := by
    simp only [Message.entries, settled, doubleEntry_settled]

instance : Lossless Storage where
  fits_entries s h := by
    simp only [Message.entries, List.forall_mem_append]
    exact ⟨fits_codeEntry rfl, fits_partEntry rfl h⟩
  extend_entries s es := by
    simp only [Message.entries, List.append_assoc]
    rw [extend_codeEntry rfl,
      extend_partEntry fun (s : Storage) memory => { s with memory := memory }]
    · simp [Message.add, Message.blank, codeOf_toUInt64, settled]
    · rfl
    · intro fields
      rfl
  entries_settled _ := rfl

instance : Lossless Resolution where
  fits_entries r _ := by
    simp only [Message.entries, List.forall_mem_append]
    exact ⟨fits_natEntry rfl, fits_natEntry rfl⟩
  extend_entries r es := by
    simp only [Message.entries, List.append_assoc]
    rw [extend_natEntry rfl, extend_natEntry rfl]
    simp [Message.add, Message.blank, settled]
  entries_settled _ := rfl

theorem extend_sizeEntry {s : Screen} {x : Binary32} {es : List Entry} (h : s.sizeInch = .zero) :
    extend s ((if x.isZero then [] else [.fixed32 1 x.bits]) ++ es) =
      extend { s with sizeInch := x.settled } es := by
  unfold Binary32.settled
  split
  · rw [← h]
    rfl
  · rfl

instance : Lossless Screen where
  fits_entries s h := by
    simp only [Message.entries, List.forall_mem_append, and_assoc]
    refine ⟨?_, fits_partEntry rfl h, fits_codeEntry rfl, fits_flagEntry rfl⟩
    split
    · simp
    · intro e he
      rw [List.mem_singleton.mp he, Fits]
      exact ⟨"size_inch", rfl⟩
  extend_entries s es := by
    simp only [Message.entries, List.append_assoc]
    rw [extend_sizeEntry rfl,
      extend_partEntry fun (s : Screen) resolution => { s with resolution := resolution },
      extend_codeEntry rfl, extend_flagEntry rfl]
    · obtain ⟨size, resolution, panel, multitouch⟩ := s
      cases multitouch <;> simp [Message.add, Message.blank, codeOf_toUInt64, settled]
    · rfl
    · intro fields
      rfl
  entries_settled s := by
    simp only [Message.entries, settled, Binary32.isZero_settled]
    split
    · rfl
    · rename_i h
      rw [Binary32.settled, if_neg h]

instance : Lossless Keyboard where
  fits_entries k _ := by
    simp only [Message.entries, List.forall_mem_append]
    exact ⟨fits_codeEntry rfl, fits_flagEntry rfl⟩
  extend_entries k es := by
    simp only [Message.entries, List.append_assoc]
    rw [extend_codeEntry rfl, extend_flagEntry rfl]
    obtain ⟨layout, backlit⟩ := k
    cases backlit <;> simp [Message.add, Message.blank, codeOf_toUInt64, settled]
  entries_settled _ := rfl

instance : Lossless Timestamp where
  fits_entries t _ := by
    simp only [Message.entries, List.forall_mem_append]
    exact ⟨fits_natEntry rfl, fits_codeEntry rfl⟩
  extend_entries t es := by
    simp only [Message.entries, List.append_assoc]
    rw [extend_natEntry rfl, extend_codeEntry rfl]
    simp [Message.add, Message.blank, codeOf_toUInt64, settled]
  entries_settled _ := rfl

/-! ## Laptops and filters -/

theorem extend_weightEntry {l : Laptop} {weight : Option Weight} {es : List Entry}
    (h : l.weight = none) :
    extend l (weightEntry weight ++ es) = extend { l with weight := weight } es := by
  cases weight with
  | none =>
    obtain ⟨⟩ := l
    cases h
    rfl
  | some w => cases w <;> rfl

instance : Lossless Laptop where
  fits_entries l h := by
    -- A graphics card and a screen have a level of their own below them.
    have h1 : 1 < _ := h
    have h0 : 0 < _ := Nat.lt_of_succ_lt h
    simp only [Message.entries, List.forall_mem_append, and_assoc]
    refine ⟨fits_textEntry rfl, fits_textEntry rfl, fits_textEntry rfl, fits_partEntry rfl h0,
      fits_partEntry rfl h0, fits_partEntries rfl h1, fits_partEntries rfl h1,
      fits_partEntry rfl h1, fits_partEntry rfl h0, ?_, fits_doubleEntry rfl, fits_natEntry rfl,
      fits_partEntry rfl h0⟩
    cases l.weight with
    | none => simp [weightEntry]
    | some w =>
      intro e he
      cases w with
      | kilograms x =>
        rw [List.mem_singleton.mp he, Fits]
        exact ⟨"weight", rfl⟩
      | pounds x =>
        rw [List.mem_singleton.mp he, Fits]
        exact ⟨"weight", rfl⟩
  extend_entries l es := by
    simp only [Message.entries, List.append_assoc]
    rw [extend_textEntry rfl, extend_textEntry rfl, extend_textEntry rfl,
      extend_partEntry fun (l : Laptop) cpu => { l with cpu := cpu },
      extend_partEntry fun (l : Laptop) ram => { l with ram := ram },
      extend_partEntries fun (l : Laptop) gpus => { l with gpus := gpus },
      extend_partEntries fun (l : Laptop) storages => { l with storages := storages },
      extend_partEntry fun (l : Laptop) screen => { l with screen := screen },
      extend_partEntry fun (l : Laptop) keyboard => { l with keyboard := keyboard },
      extend_weightEntry rfl, extend_doubleEntry rfl, extend_natEntry rfl,
      extend_partEntry fun (l : Laptop) updatedAt => { l with updatedAt := updatedAt }]
    · simp [Message.add, Message.blank, settled]
    all_goals first | rfl | exact fun _ => rfl | exact fun _ _ => rfl
  entries_settled l := by
    show Message.entries { l with
      cpu := l.cpu.map settled
      gpus := l.gpus.map settled
      screen := l.screen.map settled
      priceUsd := l.priceUsd.settled } = Message.entries l
    simp only [Message.entries, doubleEntry_settled, partEntry_settled, partEntries_settled]

instance : Lossless Filter where
  fits_entries f h := by
    simp only [Message.entries, List.forall_mem_append, and_assoc]
    exact ⟨fits_doubleEntry rfl, fits_natEntry rfl, fits_doubleEntry rfl, fits_partEntry rfl h⟩
  extend_entries f es := by
    simp only [Message.entries, List.append_assoc]
    rw [extend_doubleEntry rfl, extend_natEntry rfl, extend_doubleEntry rfl,
      extend_partEntry fun (f : Filter) minRam => { f with minRam := minRam }]
    · simp [Message.add, Message.blank, settled]
    · rfl
    · intro fields
      rfl
  entries_settled f := by
    simp only [Message.entries, settled, doubleEntry_settled]

/-! ## Requests and responses -/

instance : Lossless CreateLaptopRequest where
  fits_entries _ h := fits_partEntry rfl h
  extend_entries r es := by
    simp only [Message.entries]
    rw [extend_partEntry fun (_ : CreateLaptopRequest) laptop => { laptop := laptop }]
    · rfl
    · rfl
    · intro fields
      rfl
  entries_settled r := partEntry_settled 1 r.laptop

instance : Lossless CreateLaptopResponse where
  fits_entries _ _ := fits_textEntry rfl
  extend_entries r es := by
    simp only [Message.entries]
    rw [extend_textEntry rfl]
    rfl
  entries_settled _ := rfl

instance : Lossless SearchLaptopRequest where
  fits_entries _ h := fits_partEntry rfl h
  extend_entries r es := by
    simp only [Message.entries]
    rw [extend_partEntry fun (_ : SearchLaptopRequest) filter => { filter := filter }]
    · rfl
    · rfl
    · intro fields
      rfl
  entries_settled r := partEntry_settled 1 r.filter

instance : Lossless SearchLaptopResponse where
  fits_entries _ h := fits_partEntry rfl h
  extend_entries r es := by
    simp only [Message.entries]
    rw [extend_partEntry fun (_ : SearchLaptopResponse) laptop => { laptop := laptop }]
    · rfl
    · rfl
    · intro fields
      rfl
  entries_settled r := partEntry_settled 1 r.laptop

instance : Lossless ImageInfo where
  fits_entries i _ := by
    simp only [Message.entries, List.forall_mem_append]
    exact ⟨fits_textEntry rfl, fits_textEntry rfl⟩
  extend_entries i es := by
    simp only [Message.entries, List.append_assoc]
    rw [extend_textEntry rfl, extend_textEntry rfl]
    rfl
  entries_settled _ := rfl

instance : Lossless UploadImageRequest where
  fits_entries r h := by
    simp only [Message.entries]
    cases r.data with
    | none => simp [uploadEntry]
    | some part =>
      intro e he
      cases part with
      | info i =>
        rw [List.mem_singleton.mp he]
        exact fits_message rfl h i
      | chunk data =>
        rw [List.mem_singleton.mp he, Fits]
        exact ⟨"data", rfl⟩
  extend_entries r es := by
    obtain ⟨data⟩ := r
    cases data with
    | none => rfl
    | some part =>
      cases part with
      | info i =>
        show extend (UploadImageRequest.mk (some (.info (extend Message.blank (Message.entries i)))))
          es = _
        rw [extend_blank_entries i]
        rfl
      | chunk data => rfl
  entries_settled _ := rfl

instance : Lossless UploadImageResponse where
  fits_entries r _ := by
    simp only [Message.entries, List.forall_mem_append]
    exact ⟨fits_textEntry rfl, fits_natEntry rfl⟩
  extend_entries r es := by
    simp only [Message.entries, List.append_assoc]
    rw [extend_textEntry rfl, extend_natEntry rfl]
    simp [Message.add, Message.blank, settled]
  entries_settled _ := rfl

instance : Lossless RateLaptopRequest where
  fits_entries r _ := by
    simp only [Message.entries, List.forall_mem_append]
    exact ⟨fits_textEntry rfl, fits_doubleEntry rfl⟩
  extend_entries r es := by
    simp only [Message.entries, List.append_assoc]
    rw [extend_textEntry rfl, extend_doubleEntry rfl]
    rfl
  entries_settled r := by
    simp only [Message.entries, settled, doubleEntry_settled]

instance : Lossless RateLaptopResponse where
  fits_entries r _ := by
    simp only [Message.entries, List.forall_mem_append, and_assoc]
    exact ⟨fits_textEntry rfl, fits_natEntry rfl, fits_doubleEntry rfl⟩
  extend_entries r es := by
    simp only [Message.entries, List.append_assoc]
    rw [extend_textEntry rfl, extend_natEntry rfl, extend_doubleEntry rfl]
    simp [Message.add, Message.blank, settled]
  entries_settled r := by
    simp only [Message.entries, settled, doubleEntry_settled]

instance : Lossless LoginRequest where
  fits_entries r _ := by
    simp only [Message.entries, List.forall_mem_append]
    exact ⟨fits_textEntry rfl, fits_textEntry rfl⟩
  extend_entries r es := by
    simp only [Message.entries, List.append_assoc]
    rw [extend_textEntry rfl, extend_textEntry rfl]
    rfl
  entries_settled _ := rfl

instance : Lossless LoginResponse where
  fits_entries _ _ := fits_textEntry rfl
  extend_entries r es := by
    simp only [Message.entries]
    rw [extend_textEntry rfl]
    rfl
  entries_settled _ := rfl

/-! ## All types together -/

instance : (type : MessageType) → Lossless type.Value
  | .memory => inferInstanceAs (Lossless Memory)
  | .cpu => inferInstanceAs (Lossless Cpu)
  | .gpu => inferInstanceAs (Lossless Gpu)
  | .storage => inferInstanceAs (Lossless Storage)
  | .resolution => inferInstanceAs (Lossless Resolution)
  | .screen => inferInstanceAs (Lossless Screen)
  | .keyboard => inferInstanceAs (Lossless Keyboard)
  | .timestamp => inferInstanceAs (Lossless Timestamp)
  | .laptop => inferInstanceAs (Lossless Laptop)
  | .filter => inferInstanceAs (Lossless Filter)
  | .createLaptopRequest => inferInstanceAs (Lossless CreateLaptopRequest)
  | .createLaptopResponse => inferInstanceAs (Lossless CreateLaptopResponse)
  | .searchLaptopRequest => inferInstanceAs (Lossless SearchLaptopRequest)
  | .searchLaptopResponse => inferInstanceAs (Lossless SearchLaptopResponse)
  | .imageInfo => inferInstanceAs (Lossless ImageInfo)
  | .uploadImageRequest => inferInstanceAs (Lossless UploadImageRequest)
  | .uploadImageResponse => inferInstanceAs (Lossless UploadImageResponse)
  | .rateLaptopRequest => inferInstanceAs (Lossless RateLaptopRequest)
  | .rateLaptopResponse => inferInstanceAs (Lossless RateLaptopResponse)
  | .loginRequest => inferInstanceAs (Lossless LoginRequest)
  | .loginResponse => inferInstanceAs (Lossless LoginResponse)

/-- **Messages arrive.** Whatever its type, a message whose bytes can be counted is read from them
as it was but for the sign of a zero in a plain field, and what was read is written as the same
bytes. -/
theorem decode_encode_settled (type : MessageType) (m : type.Value)
    (h : (encode m).length < UInt64.size) :
    decode type.Value (encode m) = .ok (settled m) ∧
      (decode type.Value (encode m)).map encode = .ok (encode m) := by
  obtain ⟨hread, hwritten⟩ := decode_encode_of_lossless m h
  refine ⟨hread, ?_⟩
  rw [hread, Except.map, hwritten]

/-- A laptop with a negative zero for its price and for its weight, a code that names no keyboard
layout, and graphics cards of which nothing is known. -/
def awkwardLaptop : Laptop :=
  { gpus := [{}, {}]
    keyboard := some { layoutCode := -1, backlit := true }
    weight := some (.pounds ⟨0x8000000000000000⟩)
    priceUsd := ⟨0x8000000000000000⟩ }

theorem decode_encode_awkwardLaptop :
    (encode awkwardLaptop).length < UInt64.size ∧
      decode Laptop (encode awkwardLaptop) = .ok { awkwardLaptop with priceUsd := .zero } ∧
      (decode Laptop (encode awkwardLaptop)).map encode = .ok (encode awkwardLaptop) := by
  have h : (encode awkwardLaptop).length < UInt64.size := by cbv
  exact ⟨h, decode_encode_settled .laptop awkwardLaptop h⟩

end Showroom.Wire
