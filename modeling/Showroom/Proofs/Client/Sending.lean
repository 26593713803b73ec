import Mathlib.Algebra.Group.Nat.Defs
import Showroom.Client.Calls
import Showroom.Proofs.Wire.RoundTrip

/-!
# Showroom.Proofs.Client.Sending

The way of messages between a client and the server. What one side writes is read by the other, with
positive zeros for negative ones, if it is not too long to be written; and a text of any length that
there is leaves room for some numbers beside it.

* `decodeItem_encode`: a message that arrives.
* `Client.call_eq`: what a call comes to.
* `Client.collect_eq`: what a stream of answers comes to.
-/

namespace Showroom

open Wire

/-! ## Lengths -/

theorem Wire.Varint.length_render_le {n k : Nat} (hk : 0 < k) (h : n < 128 ^ k) :
    (render n).length ≤ k := by
  induction n using render.induct generalizing k with
  | case1 n hn =>
    rw [render, if_pos hn]
    exact hk
  | case2 n hn ih =>
    obtain ⟨j, rfl⟩ := Nat.exists_eq_add_of_lt hk
    rw [Nat.zero_add, Nat.pow_succ] at h
    have hj : 0 < j := by
      rcases Nat.eq_zero_or_pos j with rfl | hj
      · omega
      · exact hj
    have hrest := ih hj (by omega)
    rw [render, if_neg hn, List.length_cons]
    omega

theorem Wire.Entry.length_key {number : Nat} (h : number < 16) (wire : WireType) :
    (key number wire).length = 1 := by
  have hcode := wire.code_lt
  rw [key, Varint.render, if_pos (by omega)]
  rfl

theorem Wire.Entry.length_renderAll_append (es more : List Entry) :
    (renderAll (es ++ more)).length = (renderAll es).length + (renderAll more).length := by
  induction es with
  | nil => rw [List.nil_append, renderAll, List.length_nil, Nat.zero_add]
  | cons e es ih =>
    rw [List.cons_append, renderAll, renderAll, List.length_append, List.length_append, ih,
      Nat.add_assoc]

/-- Whether a text is no longer than the memory of a machine allows. -/
def Brief (text : String) : Prop := text.utf8ByteSize < 2 ^ 63

section Fields

variable {number : Nat}

theorem length_textEntry_le (hnumber : number < 16) {text : String} (h : Brief text) :
    (Entry.renderAll (textEntry number text)).length ≤ 11 + text.utf8ByteSize := by
  have hlength := Varint.length_render_le (k := 10) (by decide)
    (Nat.lt_trans h (by decide : 2 ^ 63 < 128 ^ 10))
  rw [textEntry]
  split
  · exact Nat.zero_le _
  · simp only [Entry.renderAll, Entry.render, Entry.delimited, List.length_append, List.length_nil,
      Entry.length_key hnumber, Bytes.length_ofText]
    omega

theorem length_natEntry_le (hnumber : number < 16) (value : UInt64) :
    (Entry.renderAll (natEntry number value)).length ≤ 11 := by
  have hlength := Varint.length_render_le (k := 10) (by decide)
    (Nat.lt_trans value.toNat_lt (by decide : 2 ^ 64 < 128 ^ 10))
  rw [natEntry]
  split
  · exact Nat.zero_le _
  · simp only [Entry.renderAll, Entry.render, List.length_append, List.length_nil,
      Entry.length_key hnumber]
    omega

theorem length_doubleEntry_le (hnumber : number < 16) (x : Binary64) :
    (Entry.renderAll (doubleEntry number x)).length ≤ 9 := by
  rw [doubleEntry]
  split
  · exact Nat.zero_le _
  · simp only [Entry.renderAll, Entry.render, List.length_append, List.length_nil,
      Entry.length_key hnumber, Bytes.length_littleEndian]
    omega

end Fields

theorem length_encode_rateLaptopRequest {request : RateLaptopRequest}
    (h : Brief request.laptopId) : (encode request).length < UInt64.size := by
  have hid := length_textEntry_le (by decide : 1 < 16) h
  have hscore := length_doubleEntry_le (by decide : 2 < 16) request.score
  simp only [encode, Message.entries, Entry.length_renderAll_append, UInt64.size]
  rw [Brief] at h
  omega

theorem length_encode_rateLaptopResponse {response : RateLaptopResponse}
    (h : Brief response.laptopId) : (encode response).length < UInt64.size := by
  have hid := length_textEntry_le (by decide : 1 < 16) h
  have hcount := length_natEntry_le (by decide : 2 < 16) response.ratedCount.toUInt64
  have haverage := length_doubleEntry_le (by decide : 3 < 16) response.averageScore
  simp only [encode, Message.entries, Entry.length_renderAll_append, UInt64.size]
  rw [Brief] at h
  omega

/-! ## Messages -/

theorem decodeItem_settled {α : Type} [Message α] [Settles α] [Lossless α] {m : α}
    (fits : (encode m).length < UInt64.size) :
    decodeItem α (.ok (encode m)) = .ok (settled m) := by
  rw [decodeItem, (decode_encode_of_lossless m fits).1]
  rfl

namespace Client

theorem call_eq {α : Type} [Message α] {client : Client} {m : Metadata}
    (sendable : Credential.attach client.token metadata = some m) (o : Circumstances) (s : State)
    (method : Method) (messages : List α) :
    client.call o s method messages =
      client.server.serve o ⟨method.path, m, messages.map fun m => .ok (encode m)⟩ s := by
  simp only [call, sendable]

theorem collect_eq {α : Type} [Message α] [Settles α] [Lossless α] {messages : List α}
    (fits : ∀ m ∈ messages, (encode m).length < UInt64.size) (ended : Option Status) :
    collect messages ended =
      ended.elim (.ok (messages.map settled)) fun status => .error (.refused status) := by
  have hreceived : messages.mapM (fun m => decodeItem α (.ok (encode m))) =
      .ok (messages.map settled) := by
    induction messages with
    | nil => rfl
    | cons m messages ih =>
      obtain ⟨hm, hlater⟩ := List.forall_mem_cons.mp fits
      rw [List.mapM_cons, decodeItem_settled hm, ih hlater]
      rfl
  unfold collect
  rw [hreceived]
  cases ended <;> rfl

end Client

end Showroom
