import Showroom.Proofs.Text.Base64
import Showroom.Proofs.Token.Parts

/-!
# Showroom.Proofs.Token.Verify

Which tokens are accepted, and until when. A token is accepted if and only if it is a header and a
payload sealed with the keeper's own secret, letter for letter, the header names the one algorithm,
the payload states claims for no audience, and the claims have not expired. No letter of an accepted
token can be changed behind the payload, so time is all that can turn it down later.

* `TokenKeeper.sealed`: a header and a payload with their signature.
* `TokenKeeper.verify_of_sealed`: the answer for a sealed token at any time.
* `TokenKeeper.exists_sealed_of_verify`: nothing else is accepted.
* `TokenKeeper.verify_issue`: the life of a token that was issued.
* `TokenKeeper.sealed_of_verify`: what an accepted token has to be.
-/

namespace Showroom

namespace Token

/-! ## Parts and dots -/

theorem dot_notMem_encode (bs : Bytes) : dot ∉ Text.Base64.encode Text.Base64.urlSafe bs := by
  intro hdot
  obtain ⟨n, hn, heq⟩ := Text.Base64.mem_encode dot hdot
  have hne : ∀ n < 64, dot ≠ Text.Base64.urlSafe.symbol n := by decide
  exact hne n hn heq

theorem splitLast_append {front back : Bytes} (h : dot ∉ back) :
    splitLast (front ++ dot :: back) = some (front, back) := by
  have hback : ∀ b ∈ back.reverse, decide (b ≠ dot) = true := by
    intro b hb
    refine decide_eq_true ?_
    rintro rfl
    exact h (List.mem_reverse.mp hb)
  simp only [splitLast, List.reverse_append, List.reverse_cons, List.append_assoc,
    List.singleton_append]
  rw [List.dropWhile_append_of_pos hback, List.takeWhile_append_of_pos hback,
    List.dropWhile_cons_of_neg (by simp), List.takeWhile_cons_of_neg (by simp)]
  simp

theorem eq_append_of_splitLast {bs front back : Bytes} (h : splitLast bs = some (front, back)) :
    bs = front ++ dot :: back := by
  simp only [splitLast] at h
  split at h
  · rename_i d rest hdrop
    cases h
    have hd : d = dot := by
      have hhead := List.head?_dropWhile_not (fun b => decide (b ≠ dot)) bs.reverse
      rw [hdrop] at hhead
      simpa using hhead
    have happend := List.takeWhile_append_dropWhile (p := (· ≠ dot)) (l := bs.reverse)
    rw [hdrop, hd] at happend
    calc bs = bs.reverse.reverse := (List.reverse_reverse bs).symm
      _ = (bs.reverse.takeWhile (· ≠ dot) ++ dot :: rest).reverse := by rw [happend]
      _ = rest.reverse ++ dot :: (bs.reverse.takeWhile (· ≠ dot)).reverse := by simp
  · cases h

theorem append_dot_inj {a b x y : Bytes} (ha : dot ∉ a) (hb : dot ∉ b)
    (h : a ++ dot :: x = b ++ dot :: y) : a = b ∧ x = y := by
  have hfront : ∀ a x : Bytes, dot ∉ a → (a ++ dot :: x).takeWhile (· ≠ dot) = a := by
    intro a x ha
    rw [List.takeWhile_append_of_pos, List.takeWhile_cons_of_neg (by simp), List.append_nil]
    intro b hb
    refine decide_eq_true ?_
    rintro rfl
    exact ha hb
  have hab : a = b := by rw [← hfront a x ha, h, hfront b y hb]
  rw [hab] at h
  exact ⟨hab, (List.cons.inj (List.append_cancel_left h)).2⟩

theorem decodePart_encode (bs : Bytes) :
    decodePart (Text.Base64.encode Text.Base64.urlSafe bs) = .ok bs :=
  mapError_eq_ok_iff.mpr (Text.Base64.decode_encode bs)

theorem encode_of_decodePart {part bs : Bytes} (h : decodePart part = .ok bs) :
    Text.Base64.encode Text.Base64.urlSafe bs = part :=
  Text.Base64.encode_of_decode (mapError_eq_ok_iff.mp h)

/-- What is signed of a token: its header and its payload. -/
def signedPart (header payload : Bytes) : Bytes :=
  Text.Base64.encode Text.Base64.urlSafe header ++
    dot :: Text.Base64.encode Text.Base64.urlSafe payload

end Token

namespace TokenKeeper

variable {k : TokenKeeper} {header payload : Bytes} {token : String} {now : Int} {c : Claims}

def sealed (k : TokenKeeper) (header payload : Bytes) : Bytes :=
  Token.signedPart header payload ++ Token.dot :: k.signature (Token.signedPart header payload)

theorem forall_mem_sealed {P : UInt8 → Prop} (hsymbol : ∀ n < 64, P (Text.Base64.urlSafe.symbol n))
    (hdot : P Token.dot) : ∀ b ∈ k.sealed header payload, P b := by
  have hencode : ∀ bs, ∀ b ∈ Text.Base64.encode Text.Base64.urlSafe bs, P b := by
    intro bs b hb
    obtain ⟨n, hn, rfl⟩ := Text.Base64.mem_encode b hb
    exact hsymbol n hn
  intro b hb
  simp only [sealed, Token.signedPart, List.append_assoc, List.cons_append, List.mem_append,
    List.mem_cons] at hb
  rcases hb with hb | rfl | hb | rfl | hb
  · exact hencode _ b hb
  · exact hdot
  · exact hencode _ b hb
  · exact hdot
  · exact hencode _ b hb

/-- A header and a payload with their signature, as a text. -/
def tokenOf (k : TokenKeeper) (header payload : Bytes) : String :=
  (Bytes.toText? (k.sealed header payload)).getD ""

theorem ofText_tokenOf : Bytes.ofText (k.tokenOf header payload) = k.sealed header payload := by
  have hascii : ∀ b ∈ k.sealed header payload, b.toNat < 128 :=
    forall_mem_sealed (by decide) (by decide)
  obtain ⟨s, hs⟩ := Bytes.exists_text_of_ascii hascii
  rw [tokenOf, ← hs, Bytes.toText?_ofText, Option.getD_some]

theorem issue_eq_tokenOf (now : Int) (username role : String) :
    k.issue now username role =
      k.tokenOf Token.header (Claims.render ⟨username, role, now, k.expiry now⟩) := rfl

theorem verify_of_sealed (htoken : Bytes.ofText token = k.sealed header payload)
    (hheader : Token.Header.read header = some Token.algorithm)
    (hpayload : Token.readPayload payload = some (c, false)) (hexpiry : 0 ≤ c.expiresAt)
    (now : Int) :
    k.verify now token = if now ≤ c.expiresAt then .ok c else .error .expired := by
  have hsigned : Token.splitLast (k.sealed header payload) =
      some (Token.signedPart header payload, k.signature (Token.signedPart header payload)) :=
    Token.splitLast_append (Token.dot_notMem_encode _)
  have hparts : Token.splitLast (Token.signedPart header payload) =
      some (Text.Base64.encode Text.Base64.urlSafe header,
        Text.Base64.encode Text.Base64.urlSafe payload) :=
    Token.splitLast_append (Token.dot_notMem_encode _)
  unfold verify
  rw [htoken, hsigned]
  simp only [hparts, Token.decodePart_encode, hheader, hpayload, bind, Except.bind, ne_eq,
    not_true_eq_false, if_false, Bool.false_eq_true]
  rw [if_neg (by omega)]
  split
  · rw [if_neg (by omega)]
    rfl
  · rw [if_pos (by omega)]
    rfl

theorem exists_sealed_of_verify (h : k.verify now token = .ok c) :
    ∃ header payload, Bytes.ofText token = k.sealed header payload ∧
      Token.Header.read header = some Token.algorithm ∧
      Token.readPayload payload = some (c, false) ∧ 0 ≤ c.expiresAt ∧ now ≤ c.expiresAt := by
  simp only [verify] at h
  split at h
  · rename_i signed signature hsigned
    split at h
    · rename_i headerPart payloadPart hparts
      obtain ⟨header, hheader, h⟩ := bind_eq_ok_iff.mp h
      split at h
      · rename_i name hname
        obtain ⟨halgorithm, h⟩ := ite_throw_eq_ok_iff.mp h
        obtain ⟨hsignature, h⟩ := ite_throw_eq_ok_iff.mp h
        obtain ⟨payload, hpayload, h⟩ := bind_eq_ok_iff.mp h
        split at h
        · rename_i claims forAudience hclaims
          obtain ⟨hexpiry, h⟩ := ite_throw_eq_ok_iff.mp h
          obtain ⟨hnow, h⟩ := ite_throw_eq_ok_iff.mp h
          obtain ⟨haudience, h⟩ := ite_throw_eq_ok_iff.mp h
          cases h
          have hsignedPart : Token.signedPart header payload = signed := by
            rw [Token.signedPart, Token.encode_of_decodePart hheader,
              Token.encode_of_decodePart hpayload, Token.eq_append_of_splitLast hparts]
          refine ⟨header, payload, ?_, ?_, ?_, by omega, by omega⟩
          · rw [Token.eq_append_of_splitLast hsigned, sealed, hsignedPart,
              Decidable.not_not.mp hsignature]
          · rw [hname, Decidable.not_not.mp halgorithm]
          · rw [hclaims, Bool.eq_false_iff.mpr haudience]
        · cases h
      · cases h
    · cases h
  · cases h

/-! ## Tokens that were issued -/

theorem read_header : Token.Header.read Token.header = some Token.algorithm := by decide

theorem isTime_of_bounds {n : Int} (h : 0 ≤ n) (hmax : n ≤ Claims.timeMax) :
    Claims.isTime n = true := by
  have hlow : -Claims.timeMax - 1 ≤ n := Int.le_trans (by decide) h
  simp only [Claims.isTime, hlow, hmax, decide_true, Bool.and_self]

theorem expiry_bounds (h : 0 ≤ now) (hmax : now ≤ Claims.timeMax) :
    0 ≤ k.expiry now ∧ k.expiry now ≤ Claims.timeMax := by
  unfold expiry
  omega

theorem verify_issued (h : 0 ≤ now) (hmax : now ≤ Claims.timeMax) (username role : String)
    (time : Int) :
    k.verify time (k.issue now username role) =
      if time ≤ k.expiry now then .ok ⟨username, role, now, k.expiry now⟩ else .error .expired := by
  obtain ⟨hlow, hhigh⟩ := expiry_bounds (k := k) h hmax
  have hpayload := Token.readPayload_render (c := ⟨username, role, now, k.expiry now⟩)
    (isTime_of_bounds h hmax) (isTime_of_bounds hlow hhigh)
  rw [issue_eq_tokenOf]
  exact verify_of_sealed ofText_tokenOf read_header hpayload hlow time

/-- **The life of a token.** Whoever it is for and however long tokens last, a token issued at a
time of 64 bits gives back its claims up to the second in which it expires, and has expired after
that. -/
theorem verify_issue (k : TokenKeeper) {now : Int} (h : 0 ≤ now) (hmax : now ≤ Claims.timeMax)
    (username role : String) (time : Int) :
    let exp := min (now + min (k.seconds : Int) Claims.timeMax) Claims.timeMax
    k.verify time (k.issue now username role) =
      if time ≤ exp then .ok ⟨username, role, now, exp⟩ else .error .expired :=
  verify_issued h hmax username role time

/-- Tokens of this keeper last as long as there are times. -/
def lastingKeeper : TokenKeeper := ⟨"secret", 0xffffffffffffffff, by decide, fun _ => "expected value"⟩

theorem verify_issue_lastingKeeper :
    (0 : Int) ≤ 1 ∧ 1 ≤ Claims.timeMax ∧
      lastingKeeper.verify Claims.timeMax (lastingKeeper.issue 1 "a.\"\\\n" "") =
        .ok ⟨"a.\"\\\n", "", 1, Claims.timeMax⟩ :=
  ⟨by decide, by decide,
    (verify_issue lastingKeeper (by decide) (by decide) "a.\"\\\n" "" Claims.timeMax).trans
      (if_pos (by decide))⟩

/-! ## Tokens that are accepted -/

/-- Behind header and payload there is only one signature with which a token is accepted. -/
theorem eq_of_verify {other : String} {s : Bytes} {time : Int} {claims : Claims}
    (htoken : Bytes.ofText token = k.sealed header payload) (h : k.verify time other = .ok claims)
    (hother : Bytes.ofText other = Token.signedPart header payload ++ Token.dot :: s) :
    other = token := by
  obtain ⟨header', payload', hsealed, -⟩ := exists_sealed_of_verify h
  have hparts := hsealed.symm.trans hother
  simp only [sealed, Token.signedPart, List.append_assoc, List.cons_append] at hparts
  obtain ⟨hheader, hrest⟩ :=
    Token.append_dot_inj (Token.dot_notMem_encode _) (Token.dot_notMem_encode _) hparts
  obtain ⟨hpayload, -⟩ :=
    Token.append_dot_inj (Token.dot_notMem_encode _) (Token.dot_notMem_encode _) hrest
  have hsigned : Token.signedPart header' payload' = Token.signedPart header payload := by
    rw [Token.signedPart, Token.signedPart, hheader, hpayload]
  apply Bytes.ofText_inj
  rw [hsealed, htoken, sealed, sealed, hsigned]

/-- **Accepted tokens.** A token from which claims are taken is a header that names the algorithm
and a payload that states the claims for no audience, sealed with the secret of the keeper; it has
not expired. No other token with this header and payload is accepted at any time, and the time alone
decides about this one. -/
theorem sealed_of_verify (h : k.verify now token = .ok c) :
    (∃ header payload, Bytes.ofText token = k.sealed header payload ∧
      Token.Header.Names header Token.algorithm ∧ Claims.GivenIn payload c ∧
      ∀ time other claims s, k.verify time other = .ok claims →
        Bytes.ofText other = Token.signedPart header payload ++ Token.dot :: s → other = token) ∧
    now ≤ c.expiresAt ∧
    ∀ time, k.verify time token = if time ≤ c.expiresAt then .ok c else .error .expired := by
  obtain ⟨header, payload, htoken, hheader, hpayload, hexpiry, hnow⟩ := exists_sealed_of_verify h
  refine ⟨⟨header, payload, htoken, ?_, ?_, ?_⟩, hnow, ?_⟩
  · exact Token.Header.names_of_read hheader
  · exact Token.givenIn_of_readPayload hpayload
  · intro time other claims s hverify hother
    exact eq_of_verify htoken hverify hother
  · exact verify_of_sealed htoken hheader hpayload hexpiry

/-- A payload for an audience that is half of a character. -/
def halfPayload : Bytes :=
  Bytes.ofText ("\x7b\"sub\":\"a\",\"role\":\"admin\",\"iat\":1,\"exp\":4102444800,"
    ++ "\"aud\":\"\\ud800\",\"zz\":\"a\"\x7d")

theorem verify_tokenOf_halfPayload (k : TokenKeeper) (time : Int) :
    k.verify time (k.tokenOf Token.header halfPayload) =
      if time ≤ 4102444800 then .ok ⟨"a", "admin", 1, 4102444800⟩ else .error .expired := by
  have hpayload : Token.readPayload halfPayload = some (⟨"a", "admin", 1, 4102444800⟩, false) := by
    decide
  exact verify_of_sealed ofText_tokenOf read_header hpayload (by decide) time

theorem sealed_of_verify_halfPayload :
    lastingKeeper.verify 1 (lastingKeeper.tokenOf Token.header halfPayload) =
        .ok ⟨"a", "admin", 1, 4102444800⟩ ∧
      (1 : Int) ≤ 4102444800 ∧
      ∀ time, lastingKeeper.verify time (lastingKeeper.tokenOf Token.header halfPayload) =
        if time ≤ 4102444800 then .ok ⟨"a", "admin", 1, 4102444800⟩ else .error .expired := by
  have h := (verify_tokenOf_halfPayload lastingKeeper 1).trans (if_pos (by decide))
  exact ⟨h, (sealed_of_verify h).2⟩

/-- In this payload an audience is named by a string, and the token is accepted all the same: the
string stands for no text. -/
theorem verify_namedAudience :
    (∃ raw members, Json.parse halfPayload = some (.object raw) ∧
      Json.namedMembers raw = some members ∧
      Claims.valuesOf "aud" members = [.string (Bytes.ofText "\\ud800")]) ∧
    Bytes.ofText (lastingKeeper.tokenOf Token.header halfPayload) =
      lastingKeeper.sealed Token.header halfPayload ∧
    lastingKeeper.verify 1 (lastingKeeper.tokenOf Token.header halfPayload) =
      .ok ⟨"a", "admin", 1, 4102444800⟩ := by
  refine ⟨⟨_, _, rfl, rfl, rfl⟩, ofText_tokenOf, ?_⟩
  exact (verify_tokenOf_halfPayload lastingKeeper 1).trans (if_pos (by decide))

end TokenKeeper

end Showroom
