import Showroom.Proofs.Wire.Concatenation
import Showroom.Proofs.Wire.Forms

/-!
# Showroom.Proofs.Wire.Merging

Parts that are sent in pieces. A message field that stands in a message twice takes in the second
payload after the first one, as if the two had been one payload, unless the field repeats: then
either payload is an entry of its own, behind the entries that the message has.

* `IsPart`: the forms of a message field with its payload.
* `readRecord_part`: such a field is read as its payload is read alone, one level further down.
* `decode_append_parts`: one field after the other.
-/

namespace Showroom.Wire

/-- The forms of a field of this number with its payload. -/
def IsPart (number : Nat) (payload bs : Bytes) : Prop :=
  ∃ key form, bs = key ++ form ∧ IsKey number .lengthDelimited key ∧ IsDelimited payload form

theorem isPart_delimited {number : Nat} {payload : Bytes} (hpos : 1 ≤ number) (hnumber : number ≤ 14)
    (hpayload : payload.length < UInt64.size) :
    IsPart number payload (Entry.key number .lengthDelimited ++ Entry.delimited payload) := by
  have hsmall : 8 * number + WireType.lengthDelimited.code < UInt32.size :=
    Nat.lt_of_lt_of_le (show _ < 128 by simp only [WireType.code]; omega) (by decide)
  exact ⟨_, _, rfl, isKey_key .lengthDelimited hpos hsmall, isDelimited_delimited hpayload⟩

/-! ## Reading a part -/

section Reading

variable {depth number : Nat} {type inner : MessageType} {name : String} {payload bs : Bytes}
  {es : List Entry}

theorem readAt_eq_ok_iff :
    readAt depth type bs = .ok es ↔ cutRecords (readRecord depth type) bs.length bs = .ok es :=
  readAll_eq_ok_iff (fun _ _ _ => Iff.rfl) (frontal_readRecord depth type)

theorem readRecord_part (declared : type.field? number = some ⟨name, .message inner⟩)
    (hpart : IsPart number payload bs) (hpayload : readAt depth inner payload = .ok es)
    (rest : Bytes) :
    readRecord (depth + 1) type (bs ++ rest) = .ok ([.message number es], rest) := by
  obtain ⟨key, form, rfl, hkey, hform⟩ := hpart
  -- From its slice the payload is read alone, and in place it is read as from its slice.
  have hcut : cutNested (readRecord depth inner) (form ++ rest) = .ok (es, rest) :=
    bind_eq_ok_iff.mpr ⟨(payload, rest), hform.read rest,
      bind_eq_ok_iff.mpr ⟨es, readAt_eq_ok_iff.mp hpayload, rfl⟩⟩
  have hnested : readNested (readRecord depth inner) (form ++ rest) = .ok (es, rest) :=
    (readNested_eq_ok_iff (fun _ _ _ => Iff.rfl) (frontal_readRecord depth inner)).mpr hcut
  have hvalue : readValue (readInner (depth + 1)) number (.message inner) (form ++ rest) =
      .ok (.message number es, rest) :=
    bind_eq_ok_iff.mpr ⟨(es, rest), hnested, rfl⟩
  rw [List.append_assoc]
  exact readRecord_eq_ok_iff.mpr ⟨number, .lengthDelimited, form ++ rest, hkey.read _,
    .inr ⟨_, _, declared, rfl, rfl, hvalue⟩⟩

end Reading

/-! ## Taking in a part -/

/-- How a message takes in further entries of a field that repeats, behind those that it has. -/
def lineUp? :
    (type inner : MessageType) → Nat → Option (type.Value → List inner.Value → type.Value)
  | .laptop, .gpu, 6 =>
    some fun (m : Laptop) (more : List Gpu) => ({ m with gpus := m.gpus ++ more } : Laptop)
  | .laptop, .storage, 7 =>
    some fun (m : Laptop) (more : List Storage) =>
      ({ m with storages := m.storages ++ more } : Laptop)
  | _, _, _ => none

theorem extendPart_append {α : Type} [Message α] (part : Option α) (es more : List Entry) :
    extendPart part (es ++ more) = extendPart (extendPart part es) more :=
  congrArg some (extend_append _ es more)

theorem extendInfo_append (data : Option UploadPart) (es more : List Entry) :
    extendInfo data (es ++ more) = extendInfo (extendInfo data es) more := by
  rcases data with _ | info | chunk
  · exact congrArg (fun info => some (UploadPart.info info)) (extend_append Message.blank es more)
  · exact congrArg (fun info => some (UploadPart.info info)) (extend_append info es more)
  · exact congrArg (fun info => some (UploadPart.info info)) (extend_append Message.blank es more)

section Adding

variable {type inner : MessageType} {number : Nat} {name : String}

/-- A part that does not repeat takes in its fields at once or bit by bit. One case for each of the
fields that hold a message. -/
theorem add_append (declared : type.field? number = some ⟨name, .message inner⟩)
    (single : lineUp? type inner number = none) (m : type.Value) (es more : List Entry) :
    Message.add m (.message number (es ++ more)) =
      Message.add (Message.add m (.message number es)) (.message number more) := by
  have hmem := MessageType.mem_fields declared
  cases type <;> simp [MessageType.fields] at hmem
  case gpu =>
    obtain ⟨rfl, -, rfl⟩ := hmem
    exact congrArg (fun part => { m with memory := part }) (extendPart_append _ es more)
  case storage =>
    obtain ⟨rfl, -, rfl⟩ := hmem
    exact congrArg (fun part => { m with memory := part }) (extendPart_append _ es more)
  case screen =>
    obtain ⟨rfl, -, rfl⟩ := hmem
    exact congrArg (fun part => { m with resolution := part }) (extendPart_append _ es more)
  case laptop =>
    rcases hmem with ⟨rfl, -, rfl⟩ | ⟨rfl, -, rfl⟩ | ⟨rfl, -, rfl⟩ | ⟨rfl, -, rfl⟩ |
      ⟨rfl, -, rfl⟩ | ⟨rfl, -, rfl⟩ | ⟨rfl, -, rfl⟩
    · exact congrArg (fun part => { m with cpu := part }) (extendPart_append _ es more)
    · exact congrArg (fun part => { m with ram := part }) (extendPart_append _ es more)
    · cases single
    · cases single
    · exact congrArg (fun part => { m with screen := part }) (extendPart_append _ es more)
    · exact congrArg (fun part => { m with keyboard := part }) (extendPart_append _ es more)
    · exact congrArg (fun part => { m with updatedAt := part }) (extendPart_append _ es more)
  case filter =>
    obtain ⟨rfl, -, rfl⟩ := hmem
    exact congrArg (fun part => { m with minRam := part }) (extendPart_append _ es more)
  case createLaptopRequest =>
    obtain ⟨rfl, -, rfl⟩ := hmem
    exact congrArg CreateLaptopRequest.mk (extendPart_append _ es more)
  case searchLaptopRequest =>
    obtain ⟨rfl, -, rfl⟩ := hmem
    exact congrArg SearchLaptopRequest.mk (extendPart_append _ es more)
  case searchLaptopResponse =>
    obtain ⟨rfl, -, rfl⟩ := hmem
    exact congrArg SearchLaptopResponse.mk (extendPart_append _ es more)
  case uploadImageRequest =>
    obtain ⟨rfl, -, rfl⟩ := hmem
    exact congrArg UploadImageRequest.mk (extendInfo_append _ es more)

theorem add_add_eq_lineUp {lineUp : type.Value → List inner.Value → type.Value}
    (repeats : lineUp? type inner number = some lineUp) (m : type.Value) (es more : List Entry) :
    Message.add (Message.add m (.message number es)) (.message number more) =
      lineUp m [extend Message.blank es, extend Message.blank more] := by
  unfold lineUp? at repeats
  split at repeats
  · cases repeats
    exact congrArg (fun gpus => { m with gpus := gpus }) (List.append_assoc _ [_] [_])
  · cases repeats
    exact congrArg (fun storages => { m with storages := storages }) (List.append_assoc _ [_] [_])
  · cases repeats

end Adding

/-- **Parts in pieces.** Behind a message of any type, two payloads of one message field, each of them
a message at its level, come to the same as one payload made of both, whatever follows, and whether
or not that can be read. If the field repeats, they come to two entries, in their order. -/
theorem decode_append_parts (type inner : MessageType) {number : Nat} {name : String}
    (declared : type.field? number = some ⟨name, .message inner⟩) {p a b : Bytes} {m : type.Value}
    {x y : inner.Value} (read : decode type.Value p = .ok m)
    (first : decodeAt (depthLimit - 1) inner.Value a = .ok x)
    (second : decodeAt (depthLimit - 1) inner.Value b = .ok y) {partA partB : Bytes}
    (hpartA : IsPart number a partA) (hpartB : IsPart number b partB) (s : Bytes) :
    (lineUp? type inner number = none → ∀ both, IsPart number (a ++ b) both →
      decode type.Value (p ++ partA ++ partB ++ s) = decode type.Value (p ++ both ++ s)) ∧
    ∀ lineUp, lineUp? type inner number = some lineUp →
      decode type.Value (p ++ partA ++ partB ++ s) = merge (lineUp m [x, y]) s := by
  obtain ⟨es, hes, hx⟩ := bind_eq_ok_iff.mp first
  obtain ⟨more, hmore, hy⟩ := bind_eq_ok_iff.mp second
  cases hx
  cases hy
  rw [Message.type_value] at hes hmore
  have hdeclared : (Message.type type.Value).field? number = some ⟨name, .message inner⟩ := by
    rw [Message.type_value, declared]
  have hadd {m' : type.Value} {payload bs : Bytes} {fields : List Entry}
      (hpart : IsPart number payload bs)
      (hpayload : readAt (depthLimit - 1) inner payload = .ok fields) (rest : Bytes) :
      merge m' (bs ++ rest) = merge (Message.add m' (.message number fields)) rest :=
    merge_of_readRecord (readRecord_part hdeclared hpart hpayload rest)
  -- Before the rest is read, two fields and one have added the same entries.
  have hboth : readAt (depthLimit - 1) inner (a ++ b) = .ok (es ++ more) := by
    rw [readAt_append hes, hmore]
    rfl
  have htwice : decode type.Value (p ++ partA ++ partB ++ s) =
      merge (Message.add (Message.add m (.message number es)) (.message number more)) s := by
    rw [List.append_assoc, List.append_assoc, decode_append read, hadd hpartA hes,
      hadd hpartB hmore]
  constructor
  · intro single both hpart
    rw [htwice, List.append_assoc, decode_append read, hadd hpart hboth, add_append declared single]
  · intro lineUp repeats
    rw [htwice, add_add_eq_lineUp repeats]

/-- An image's description in two pieces, behind a piece of the image; and two graphics cards. -/
theorem decode_append_parts_pieces :
    decode MessageType.uploadImageRequest.Value
        ([18, 1, 7] ++ [10, 3, 10, 1, 97] ++ [10, 3, 18, 1, 98] ++ [24, 1]) =
      decode MessageType.uploadImageRequest.Value
        ([18, 1, 7] ++ [10, 6, 10, 1, 97, 18, 1, 98] ++ [24, 1]) ∧
    decode MessageType.laptop.Value ([] ++ [50, 3, 10, 1, 97] ++ [50, 0] ++ [18, 1, 98]) =
      merge ({ gpus := [{ brand := "a" }, {}] } : Laptop) [18, 1, 98] := by
  have hpart {number : Nat} {payload bs : Bytes} (hpos : 1 ≤ number) (hnumber : number ≤ 14)
      (hpayload : payload.length < UInt64.size)
      (h : Entry.key number .lengthDelimited ++ Entry.delimited payload = bs) :
      IsPart number payload bs :=
    h ▸ isPart_delimited hpos hnumber hpayload
  have hchunk : decode UploadImageRequest [18, 1, 7] = .ok ⟨some (.chunk [7])⟩ :=
    eq_ok_of_toOption (by decide +kernel)
  have hfirst : decodeAt (depthLimit - 1) ImageInfo [10, 1, 97] = .ok ⟨"a", ""⟩ :=
    eq_ok_of_toOption (by decide +kernel)
  have hsecond : decodeAt (depthLimit - 1) ImageInfo [18, 1, 98] = .ok ⟨"", "b"⟩ :=
    eq_ok_of_toOption (by decide +kernel)
  have hempty : decode Laptop [] = .ok {} := eq_ok_of_toOption (by decide +kernel)
  have hcard : decodeAt (depthLimit - 1) Gpu [10, 1, 97] = .ok { brand := "a" } :=
    eq_ok_of_toOption (by decide +kernel)
  have hblank : decodeAt (depthLimit - 1) Gpu [] = .ok {} := eq_ok_of_toOption (by decide +kernel)
  have hA : IsPart 1 [10, 1, 97] [10, 3, 10, 1, 97] :=
    hpart (by decide) (by decide) (by decide) (by decide +kernel)
  have hB : IsPart 1 [18, 1, 98] [10, 3, 18, 1, 98] :=
    hpart (by decide) (by decide) (by decide) (by decide +kernel)
  have hboth : IsPart 1 [10, 1, 97, 18, 1, 98] [10, 6, 10, 1, 97, 18, 1, 98] :=
    hpart (by decide) (by decide) (by decide) (by decide +kernel)
  have hgpu : IsPart 6 [10, 1, 97] [50, 3, 10, 1, 97] :=
    hpart (by decide) (by decide) (by decide) (by decide +kernel)
  have hgpu' : IsPart 6 [] [50, 0] :=
    hpart (by decide) (by decide) (by decide) (by decide +kernel)
  constructor
  · have hparts := decode_append_parts .uploadImageRequest .imageInfo rfl hchunk hfirst hsecond
      hA hB [24, 1]
    exact hparts.1 rfl _ hboth
  · have hparts := decode_append_parts .laptop .gpu rfl hempty hcard hblank hgpu hgpu' [18, 1, 98]
    exact hparts.2 _ rfl

end Showroom.Wire
