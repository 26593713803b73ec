import Showroom.Account.Accounts
import Showroom.Proofs.Bytes
import Showroom.Proofs.Disk
import Showroom.Proofs.Text.Base64
import Showroom.Proofs.Text.Decimal
import Showroom.Proofs.Text.Split

/-!
# Showroom.Proofs.Account.PasswordHash

Stored passwords are read back. The stored form is cut at its dollar signs, none of which stands in
one of its fields, and the field of the parameters at its commas; so whatever the algorithm, the
parameters, the salt and the hash, they are read as they were stored. Then the passwords that are
accepted are those with the same hash under the same salt.

* `Digest.Argon2.length_hash`: how long a hash is.
* `PasswordHash.ofText?_text`: what is stored is read back.
* `User.register_decides`: the passwords of a new user, and of any user.
-/

namespace Showroom

namespace Digest

namespace Blake2b

theorem length_compress {state : List UInt64} (h : state.length = 8) (block : Bytes) (count : Nat)
    (isLast : Bool) : (compress state block count isLast).length = 8 := by
  simp [compress, Words.toList, h]

theorem length_absorb {blocks count : Nat} {message : Bytes} {state : List UInt64}
    (h : state.length = 8) : (absorb blocks count message state).length = 8 := by
  induction blocks generalizing count message state with
  | zero => exact length_compress h _ _ _
  | succ blocks ih => exact ih (length_compress h _ _ _)

theorem length_hash {size : Nat} (h : size ≤ 64) (message : Bytes) :
    (hash size message).length = size := by
  have hbytes : ∀ ws : List UInt64, (ws.flatMap wordBytes64).length = 8 * ws.length := by
    intro ws
    induction ws with
    | nil => rfl
    | cons w ws ih =>
      rw [List.flatMap_cons, List.length_append, ih, List.length_cons]
      simp only [wordBytes64, List.length_cons, List.length_nil]
      omega
  rw [hash, List.length_take, hbytes, length_absorb rfl]
  omega

end Blake2b

theorem Argon2.length_hash {p : Argon2.Params} (h : p.size ≤ 64) (password salt : Bytes) :
    (Argon2.hash p password salt).length = p.size := by
  rw [Argon2.hash, longHash, if_pos h]
  exact Blake2b.length_hash h _

end Digest

namespace PasswordHash

/-! ## Base64 fields -/

theorem base64Bytes?_base64Text (bs : Bytes) : base64Bytes? (base64Text bs) = some bs := by
  have hsymbol : ∀ n < 64, (Text.Base64.standard.symbol n).toNat < 128 := by decide
  have hascii : ∀ b ∈ Text.Base64.encode Text.Base64.standard bs, b.toNat < 128 := by
    intro b hb
    obtain ⟨n, hn, rfl⟩ := Text.Base64.mem_encode b hb
    exact hsymbol n hn
  rw [base64Bytes?, base64Text, Bytes.ofText_map_char hascii, Text.Base64.decode_encode]
  rfl

theorem dollar_not_mem_base64Text (bs : Bytes) : '$' ∉ base64Text bs := by
  have hsymbol : ∀ n < 64, (Text.Base64.standard.symbol n).toNat ≠ '$'.toNat := by decide
  intro h
  obtain ⟨b, hb, hdollar⟩ := List.mem_map.mp h
  obtain ⟨n, hn, rfl⟩ := Text.Base64.mem_encode b hb
  exact hsymbol n hn (Bytes.char_eq_iff.mp hdollar)

/-! ## Parameters -/

theorem number?_digits {n : Nat} (h : n < UInt32.size) :
    number? (Text.Decimal.digits n) = some n := by
  have hplain : (Text.Decimal.digits n).head? ≠ some '0' ∨ (Text.Decimal.digits n).length = 1 := by
    rcases Nat.eq_zero_or_pos n with rfl | hn
    · rw [Text.Decimal.digits_zero]
      exact .inr rfl
    · exact .inl (Text.Decimal.head?_digits hn)
  simp only [number?, Text.Decimal.read?_digits, if_pos (And.intro hplain h)]

theorem variantOf_variantName (v : Digest.Argon2.Variant) :
    variantOf (variantName v).toList = some v := by
  cases v <;> decide +kernel

theorem dollar_not_mem_variantName (v : Digest.Argon2.Variant) :
    '$' ∉ (variantName v).toList := by
  cases v <;> decide +kernel

theorem versionOf_digits (v : Digest.Argon2.Version) :
    versionOf (Text.Decimal.digits v.number) = some v := by
  cases v with
  | first =>
    rw [versionOf, Digest.Argon2.Version.number, number?_digits (by decide)]
    rfl
  | second =>
    rw [versionOf, Digest.Argon2.Version.number, number?_digits (by decide)]
    rfl

def pair (name : Char) (n : Nat) : List Char := name :: '=' :: Text.Decimal.digits n

theorem paramsText_eq (p : Digest.Argon2.Params) :
    paramsText p =
      pair 'm' p.memory ++ [pair 't' p.passes, pair 'p' p.lanes].flatMap (',' :: ·) := by
  simp [paramsText, pair]

theorem not_mem_pair {c name : Char} {n : Nat} (hname : c ≠ name) (hequals : c ≠ '=')
    (hdigit : Text.Decimal.isDigit c = false) : c ∉ pair name n := by
  rw [pair, List.mem_cons, List.mem_cons, not_or, not_or]
  exact ⟨hname, hequals, Text.Decimal.not_mem_digits hdigit n⟩

theorem splitOn_pair {name : Char} (hname : name ≠ '=') (n : Nat) :
    (pair name n).splitOn '=' = [[name], Text.Decimal.digits n] := by
  have hdigits := Text.Decimal.not_mem_digits (c := '=') (by decide) n
  have hjoined : pair name n = [name] ++ [Text.Decimal.digits n].flatMap ('=' :: ·) := by
    simp [pair]
  rw [hjoined, Text.splitOn_joined (by simpa using hname.symm) (by simpa using hdigits)]

theorem length_pair_le {n : Nat} (h : n < UInt32.size) (name : Char) :
    (pair name n).length ≤ 12 := by
  have hdigits := Text.Decimal.length_digits_le (n := n) (k := 10) (by decide) (h.trans (by decide))
  rw [pair, List.length_cons, List.length_cons]
  omega

/-- Whether the numbers among the parameters are ones that are stored. -/
structure Numbered (p : Digest.Argon2.Params) : Prop where
  memory : p.memory < UInt32.size
  passes : p.passes < UInt32.size
  lanes : p.lanes < UInt32.size

theorem setParams_paramsText {p : Digest.Argon2.Params} (h : Numbered p)
    (q : Digest.Argon2.Params) :
    setParams q (paramsText p) =
      some { q with memory := p.memory, passes := p.passes, lanes := p.lanes } := by
  have hcomma : ∀ name n, ',' ≠ name → ',' ∉ pair name n :=
    fun name n hname => not_mem_pair hname (by decide) (by decide)
  have hpieces : ∀ piece ∈ [pair 't' p.passes, pair 'p' p.lanes], ',' ∉ piece := by
    simp only [List.forall_mem_cons]
    exact ⟨hcomma 't' _ (by decide), hcomma 'p' _ (by decide), fun _ h => by cases h⟩
  have hfits : ¬ 127 < (paramsText p).length := by
    have hm := length_pair_le h.memory 'm'
    have ht := length_pair_le h.passes 't'
    have hp := length_pair_le h.lanes 'p'
    simp only [paramsText_eq, List.flatMap_cons, List.flatMap_nil, List.length_append,
      List.length_cons, List.length_nil]
    omega
  rw [setParams, if_neg hfits, paramsText_eq, Text.splitOn_joined (hcomma 'm' _ (by decide)) hpieces]
  simp only [List.foldlM_cons, List.foldlM_nil, splitOn_pair (by decide : 'm' ≠ '='),
    splitOn_pair (by decide : 't' ≠ '='), splitOn_pair (by decide : 'p' ≠ '='), setParam,
    number?_digits h.memory, number?_digits h.passes, number?_digits h.lanes]
  rfl

/-! ## The stored form -/

/-- Whether a hash is read back from its stored form. -/
structure Storable (h : PasswordHash) : Prop where
  usable : areUsable h.params = true
  numbered : Numbered h.params
  noData : h.params.data = []
  size : h.output.length = h.params.size
  sizeFits : 10 ≤ h.params.size ∧ h.params.size ≤ 64
  saltFits : 8 ≤ h.salt.length ∧ h.salt.length ≤ 48

theorem readBytes_base64Text {h : PasswordHash} (storable : Storable h)
    {p : Digest.Argon2.Params} (usable : areUsable p = true) :
    readBytes p (base64Text h.salt) (base64Text h.output) =
      some ⟨{ p with size := h.params.size }, h.salt, h.output⟩ := by
  obtain ⟨hsalt, hsalt'⟩ := storable.saltFits
  have hlength : (base64Text h.salt).length = (4 * h.salt.length + 2) / 3 := by
    rw [base64Text, List.length_map, Text.Base64.length_encode]
  have hfits : isSaltLength (base64Text h.salt).length = true := by
    rw [isSaltLength, hlength]
    simp only [Bool.and_eq_true, decide_eq_true_eq]
    omega
  simp only [readBytes, base64Bytes?_base64Text, hfits, usable, storable.size, hsalt,
    storable.sizeFits, decide_true, Bool.and_true, if_true]

/-- The fields between the dollar signs of the stored form. -/
def fields (h : PasswordHash) : List (List Char) :=
  [(variantName h.params.variant).toList, 'v' :: '=' :: Text.Decimal.digits h.params.version.number,
    paramsText h.params, base64Text h.salt, base64Text h.output]

theorem dollar_not_mem_fields (h : PasswordHash) : ∀ field ∈ h.fields, '$' ∉ field := by
  have hpair : ∀ name n, '$' ≠ name → '$' ∉ pair name n :=
    fun name n hname => not_mem_pair hname (by decide) (by decide)
  have hparams : '$' ∉ paramsText h.params := by
    simp only [paramsText_eq, List.flatMap_cons, List.flatMap_nil, List.mem_append, List.mem_cons,
      not_or]
    simp [hpair]
  simp only [fields, List.forall_mem_cons]
  exact ⟨dollar_not_mem_variantName _, hpair 'v' _ (by decide), hparams,
    dollar_not_mem_base64Text _, dollar_not_mem_base64Text _, fun _ h => by cases h⟩

theorem splitOn_text (h : PasswordHash) : (text h).toList.splitOn '$' = [] :: h.fields := by
  have hjoined : (text h).toList = [] ++ h.fields.flatMap ('$' :: ·) := by
    simp [text, fields]
  rw [hjoined, Text.splitOn_joined List.not_mem_nil (dollar_not_mem_fields h)]

theorem readVersion_digits (v : Digest.Argon2.Version) (rest : List (List Char)) :
    readVersion (('v' :: '=' :: Text.Decimal.digits v.number) :: rest) = some (v, rest) := by
  have hdrop : Text.dropText? ['v', '='] ('v' :: '=' :: Text.Decimal.digits v.number) =
      some (Text.Decimal.digits v.number) := Text.dropText?_eq_some_iff.mpr rfl
  have hcomma : (Text.Decimal.digits v.number).contains ',' = false := by
    simpa using Text.Decimal.not_mem_digits (c := ',') (by decide) v.number
  simp only [readVersion, hdrop, hcomma, versionOf_digits, Option.map_some]
  rfl

theorem readParams_paramsText {p : Digest.Argon2.Params} (h : Numbered p)
    (q : Digest.Argon2.Params) (rest : List (List Char)) :
    readParams q (paramsText p :: rest) =
      some ({ q with memory := p.memory, passes := p.passes, lanes := p.lanes }, rest) := by
  have hequals : (paramsText p).contains '=' = true := rfl
  simp only [readParams, hequals, setParams_paramsText h, if_true, Option.map_some]

/-- **What is stored is read back**: algorithm, version, parameters, salt and hash. -/
theorem ofText?_text {h : PasswordHash} (storable : Storable h) : ofText? (text h) = some h := by
  let p : Digest.Argon2.Params :=
    { defaults with
      variant := h.params.variant, version := h.params.version, memory := h.params.memory,
      passes := h.params.passes, lanes := h.params.lanes }
  have hread := readParams_paramsText storable.numbered
    { defaults with variant := h.params.variant, version := h.params.version }
  have hbytes := readBytes_base64Text storable (p := p) storable.usable
  have hp : { p with size := h.params.size } = h.params := by
    simp only [p, defaults, ← storable.noData]
  rw [ofText?, splitOn_text, fields]
  simp only [variantOf_variantName, readVersion_digits, hread, bind, Option.bind]
  rw [hbytes, hp]

theorem storable_create {salt : Bytes} (hsalt : 8 ≤ salt.length ∧ salt.length ≤ 48)
    (password : String) : Storable (create salt password) where
  usable := (by decide : areUsable defaults = true)
  numbered := (⟨by decide, by decide, by decide⟩ : Numbered defaults)
  noData := rfl
  size := Digest.Argon2.length_hash (p := defaults) (by decide) _ _
  sizeFits := (by decide : 10 ≤ defaults.size ∧ defaults.size ≤ 64)
  saltFits := hsalt

end PasswordHash

namespace User

theorem hasPassword_iff {u : User} {h : PasswordHash}
    (hread : PasswordHash.ofText? u.storedPassword = some h) {password : String} :
    u.hasPassword password = true ↔
      Digest.Argon2.hash h.params (Bytes.ofText password) h.salt = h.output := by
  rw [hasPassword, hread]
  exact decide_eq_true_iff

theorem ofText?_register {salt : Bytes} (hsalt : 8 ≤ salt.length ∧ salt.length ≤ 48)
    (username password role : String) :
    PasswordHash.ofText? (register salt username password role).storedPassword =
      some (PasswordHash.create salt password) :=
  PasswordHash.ofText?_text (PasswordHash.storable_create hsalt password)

theorem hasPassword_iff_exists {u : User} {password : String} :
    u.hasPassword password = true ↔
      ∃ h, PasswordHash.ofText? u.storedPassword = some h ∧
        Digest.Argon2.hash h.params (Bytes.ofText password) h.salt = h.output := by
  cases hread : PasswordHash.ofText? u.storedPassword with
  | none => simp [hasPassword, hread]
  | some h => simp [hasPassword_iff hread]

theorem hasPassword_register_iff {salt : Bytes} (hsalt : 8 ≤ salt.length)
    (hsalt' : salt.length ≤ 48) {username password role other : String} :
    (register salt username password role).hasPassword other = true ↔
      Digest.Argon2.hash PasswordHash.defaults (Bytes.ofText other) salt =
        Digest.Argon2.hash PasswordHash.defaults (Bytes.ofText password) salt :=
  hasPassword_iff (ofText?_register ⟨hsalt, hsalt'⟩ username password role)

/-- **A new user's password**, for every name, password and role, and every salt. What is stored is
read as the hash that was computed, with all that it was computed with; the password fits it, and
another one does exactly if it has the same hash. Of any user, wherever the stored text comes from,
a password is accepted exactly if this text is read and the password has the hash that it tells. -/
theorem register_decides {salt : Bytes} (hsalt : 8 ≤ salt.length ∧ salt.length ≤ 48)
    (username password role : String) :
    let user := register salt username password role
    let output := Digest.Argon2.hash PasswordHash.defaults (Bytes.ofText password) salt
    user.username = username ∧ user.role = role ∧
    PasswordHash.ofText? user.storedPassword = some ⟨PasswordHash.defaults, salt, output⟩ ∧
    user.hasPassword password = true ∧
    (∀ other, user.hasPassword other = true ↔
      Digest.Argon2.hash PasswordHash.defaults (Bytes.ofText other) salt = output) ∧
    ∀ (u : User) (other : String), u.hasPassword other = true ↔
      ∃ h, PasswordHash.ofText? u.storedPassword = some h ∧
        Digest.Argon2.hash h.params (Bytes.ofText other) h.salt = h.output := by
  intro user output
  have hread := ofText?_register hsalt username password role
  have hiff : ∀ other, user.hasPassword other = true ↔
      Digest.Argon2.hash PasswordHash.defaults (Bytes.ofText other) salt = output :=
    fun other => hasPassword_iff hread
  exact ⟨rfl, rfl, hread, (hiff password).mpr rfl, hiff, fun u other => hasPassword_iff_exists⟩

theorem register_decides_guest :
    let salt : Bytes := (List.range 16).map UInt8.ofNat
    let guest := register salt "guest" "pässword \x00" ""
    (8 ≤ salt.length ∧ salt.length ≤ 48) ∧ guest.hasPassword "pässword \x00" = true ∧
      ∃ output, PasswordHash.ofText? guest.storedPassword =
        some ⟨PasswordHash.defaults, salt, output⟩ := by
  intro salt guest
  have hsalt : 8 ≤ salt.length ∧ salt.length ≤ 48 := by decide
  obtain ⟨-, -, hread, hown, -⟩ := register_decides hsalt "guest" "pässword \x00" ""
  exact ⟨hsalt, hown, _, hread⟩

end User

end Showroom
