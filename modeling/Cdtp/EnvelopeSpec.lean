/-
  The RSA envelope: encoded length of the encrypted key, encrypted key, nonce, ciphertext.

  One function assembles it and another takes it apart, each with its own arithmetic.  `envelopeOf` says
  where the parts lie, `EnvelopeInRange` which byte strings have them all, and

  * `rsaSlices_checked` — a checking machine takes a byte string apart iff it is in range;
  * `cryptoRsaEncrypt_eq` — encryption assembles such an envelope;
  * `cryptoRsaEncrypt_roundtrip` — and decryption undoes it.
-/
import Cdtp.CryptoSpec

namespace Cdtp

open CMem

variable {M : Machine}

/-! ## Taking an envelope apart -/

/-- The encrypted-key length that a buffer announces in its first five bytes. -/
def declaredKeyLength (body : Bytes) : Nat := decodeMessageSize (body.take CDTP_LENSIZE)

/-- The size of the parts in front of the ciphertext. -/
def envelopeFront (body : Bytes) : Nat := CDTP_LENSIZE + declaredKeyLength body + IV_LENGTH

/-- All parts lie inside the buffer, and their sizes fit an `int`. -/
structure EnvelopeInRange (body : Bytes) : Prop where
  fits : envelopeFront body ≤ body.length
  front_int : envelopeFront body < 2 ^ 31
  rest_int : body.length - envelopeFront body < 2 ^ 31

instance (body : Bytes) : Decidable (EnvelopeInRange body) :=
  decidable_of_iff (envelopeFront body ≤ body.length ∧ envelopeFront body < 2 ^ 31 ∧
      body.length - envelopeFront body < 2 ^ 31)
    ⟨fun h => ⟨h.1, h.2.1, h.2.2⟩, fun h => ⟨h.fits, h.front_int, h.rest_int⟩⟩

/-- The parts of a buffer that is in range. -/
def envelopeOf (body : Bytes) : Envelope where
  encryptedKey := (body.drop CDTP_LENSIZE).take (declaredKeyLength body)
  nonce := (body.drop (CDTP_LENSIZE + declaredKeyLength body)).take IV_LENGTH
  ciphertext := body.drop (envelopeFront body)

theorem rsaSlices_eq {body : Bytes} (h : EnvelopeInRange body) (hL : body.length < SIZE_MOD) :
    rsaSlices M body body.length = .ok (envelopeOf body) := by
  obtain ⟨hfits, hfront, hrest⟩ := h
  have hkey : envelopeFront body = CDTP_LENSIZE + declaredKeyLength body + IV_LENGTH := rfl
  have hdeclared : decodeMessageSize ((body.drop 0).take CDTP_LENSIZE) = declaredKeyLength body := rfl
  have hiv : IV_LENGTH = 16 := rfl
  have hkeyMod : declaredKeyLength body < SIZE_MOD := by
    unfold SIZE_MOD
    omega
  have hnonce : splice (malloc M (IV_LENGTH * 8)) 0
      ((body.drop (CDTP_LENSIZE + declaredKeyLength body)).take IV_LENGTH)
        = (body.drop (CDTP_LENSIZE + declaredKeyLength body)).take IV_LENGTH
          ++ (malloc M (IV_LENGTH * 8)).drop IV_LENGTH := by
    have hlen : ((body.drop (CDTP_LENSIZE + declaredKeyLength body)).take IV_LENGTH).length
        = IV_LENGTH := by
      rw [List.length_take, List.length_drop]
      omega
    rw [splice_zero (by rw [malloc_length]; omega), hlen]
  have hnonceTake : ((body.drop (CDTP_LENSIZE + declaredKeyLength body)).take IV_LENGTH
      ++ (malloc M (IV_LENGTH * 8)).drop IV_LENGTH).take IV_LENGTH
        = (body.drop (CDTP_LENSIZE + declaredKeyLength body)).take IV_LENGTH := by
    apply List.take_left'
    rw [List.length_take, List.length_drop]
    omega
  have hcipher : (body.drop (envelopeFront body)).take (body.length - envelopeFront body)
      = body.drop (envelopeFront body) :=
    List.take_of_length_le (by rw [List.length_drop])
  rw [rsaSlices, memcpy_slice (by omega) (malloc_length _), ok_bind, hdeclared,
    castInt_ok (by omega), ok_bind, ofInt_natCast hkeyMod,
    memcpy_slice (by omega) (malloc_length _), ok_bind,
    memcpy_ok (by omega) (by rw [malloc_length]; omega), ok_bind, addInt_ok (by omega), ok_bind,
    addInt_ok (by omega), ok_bind, ofInt_natCast (by unfold SIZE_MOD; omega), ← hkey,
    subSize_ok hfits hL, ok_bind, castInt_ok hrest, ok_bind,
    ofInt_natCast (by unfold SIZE_MOD; omega), memcpy_slice (by omega) (malloc_length _), ok_bind,
    hnonce, hnonceTake, hcipher]
  rfl

/-- **Taking an envelope apart on a checking machine** succeeds iff the buffer is in range. -/
theorem rsaSlices_checked (hM : M.checked = true) {body : Bytes} (hL : body.length < SIZE_MOD)
    {e : Envelope} :
    rsaSlices M body body.length = .ok e ↔ EnvelopeInRange body ∧ e = envelopeOf body := by
  constructor
  · intro h
    -- each statement of `rsaSlices` that has returned gives one of the bounds
    have hrange : EnvelopeInRange body := by
      obtain ⟨encoded, h₁, h'⟩ := bind_eq_ok_iff.mp h
      obtain ⟨hfive, rfl⟩ := (memcpy_fill_checked hM (malloc_length _)).mp h₁
      obtain ⟨i, h₂, h'⟩ := bind_eq_ok_iff.mp h'
      obtain ⟨hkeyInt, rfl⟩ := (castInt_checked hM).mp h₂
      obtain ⟨ek, h₃, h'⟩ := bind_eq_ok_iff.mp h'
      obtain ⟨nonce, h₄, h'⟩ := bind_eq_ok_iff.mp h'
      have hnonce := ((memcpy_checked hM).mp h₄).1.1
      obtain ⟨keyEnd, h₅, h'⟩ := bind_eq_ok_iff.mp h'
      obtain ⟨hkeyEnd, rfl⟩ := (addInt_checked hM).mp h₅
      obtain ⟨nonceEnd, h₆, h'⟩ := bind_eq_ok_iff.mp h'
      obtain ⟨hnonceEnd, rfl⟩ := (addInt_checked hM).mp h₆
      obtain ⟨size, h₇, h'⟩ := bind_eq_ok_iff.mp h'
      obtain ⟨hsub, rfl⟩ := (subSize_checked hM hL).mp h₇
      obtain ⟨len, h₈, -⟩ := bind_eq_ok_iff.mp h'
      have hrest := ((castInt_checked hM).mp h₈).1
      rw [ofInt_natCast (by unfold SIZE_MOD; omega)] at hsub hrest
      exact ⟨hsub, hnonceEnd, hrest⟩
    rw [rsaSlices_eq hrange hL, Except.ok.injEq] at h
    exact ⟨hrange, h.symm⟩
  · rintro ⟨hrange, rfl⟩
    exact rsaSlices_eq hrange hL

/-! ## Putting one together -/

/-- The bytes of an envelope with these parts. -/
def envelopeBytes (ek iv c : Bytes) : Bytes :=
  BigEndian.toBytes CDTP_LENSIZE ek.length ++ ek ++ iv ++ c

theorem envelopeBytes_length {ek iv c : Bytes} (hiv : iv.length = IV_LENGTH) :
    (envelopeBytes ek iv c).length = CDTP_LENSIZE + ek.length + IV_LENGTH + c.length := by
  rw [envelopeBytes, List.length_append, List.length_append, List.length_append,
    BigEndian.toBytes_length, hiv]

theorem declaredKeyLength_envelopeBytes {ek iv c : Bytes} (hek : ek.length < 2 ^ 40) :
    declaredKeyLength (envelopeBytes ek iv c) = ek.length := by
  have htake : (envelopeBytes ek iv c).take CDTP_LENSIZE
      = BigEndian.toBytes CDTP_LENSIZE ek.length := by
    rw [envelopeBytes, List.append_assoc, List.append_assoc]
    exact List.take_left' (BigEndian.toBytes_length _ _)
  have hlen : (BigEndian.toBytes CDTP_LENSIZE ek.length).length = CDTP_LENSIZE :=
    BigEndian.toBytes_length _ _
  rw [declaredKeyLength, htake, decodeMessageSize_eq (by omega), List.take_of_length_le (by omega),
    BigEndian.ofBytes_toBytes_of_lt hek]

/-- An assembled envelope falls apart into the parts it was made of. -/
theorem envelopeOf_envelopeBytes {ek iv c : Bytes} (hek : ek.length < 2 ^ 40)
    (hiv : iv.length = IV_LENGTH) :
    envelopeOf (envelopeBytes ek iv c) = { encryptedKey := ek, nonce := iv, ciphertext := c } := by
  have hdeclared := @declaredKeyLength_envelopeBytes ek iv c hek
  have hlen := BigEndian.toBytes_length CDTP_LENSIZE ek.length
  have hfront : (BigEndian.toBytes CDTP_LENSIZE ek.length ++ ek).length
      = CDTP_LENSIZE + ek.length := by
    rw [List.length_append, hlen]
  have hfront' : (BigEndian.toBytes CDTP_LENSIZE ek.length ++ ek ++ iv).length
      = CDTP_LENSIZE + ek.length + IV_LENGTH := by
    rw [List.length_append, hfront, hiv]
  have hkey : ((envelopeBytes ek iv c).drop CDTP_LENSIZE).take ek.length = ek := by
    rw [envelopeBytes, List.append_assoc, List.append_assoc, List.drop_left' hlen, List.take_left]
  have hnonce : ((envelopeBytes ek iv c).drop (CDTP_LENSIZE + ek.length)).take IV_LENGTH = iv := by
    rw [envelopeBytes, List.append_assoc (_ ++ ek), List.drop_left' hfront, List.take_left' hiv]
  have hrest : (envelopeBytes ek iv c).drop (CDTP_LENSIZE + ek.length + IV_LENGTH) = c := by
    rw [envelopeBytes, List.drop_left' hfront']
  rw [envelopeOf, envelopeFront, hdeclared, hkey, hnonce, hrest]

/-- An envelope in range is the bytes of its parts. -/
theorem envelopeBytes_envelopeOf {body : Bytes} (h : EnvelopeInRange body) :
    envelopeBytes (envelopeOf body).encryptedKey (envelopeOf body).nonce (envelopeOf body).ciphertext
      = body := by
  have hfits := h.fits
  have hfront : envelopeFront body = CDTP_LENSIZE + declaredKeyLength body + IV_LENGTH := rfl
  have hfive : (body.take CDTP_LENSIZE).length = CDTP_LENSIZE := by
    rw [List.length_take]
    omega
  have hkey : ((body.drop CDTP_LENSIZE).take (declaredKeyLength body)).length
      = declaredKeyLength body := by
    rw [List.length_take, List.length_drop]
    omega
  have hencoded : BigEndian.toBytes CDTP_LENSIZE (declaredKeyLength body) = body.take CDTP_LENSIZE := by
    have hback := BigEndian.toBytes_ofBytes (body.take CDTP_LENSIZE)
    rw [hfive] at hback
    rw [declaredKeyLength, decodeMessageSize_eq (by omega), List.take_of_length_le (by omega), hback]
  have hnonce : body.drop (CDTP_LENSIZE + declaredKeyLength body)
      = (body.drop (CDTP_LENSIZE + declaredKeyLength body)).take IV_LENGTH
        ++ body.drop (envelopeFront body) := by
    conv_lhs => rw [← List.take_append_drop IV_LENGTH (body.drop (CDTP_LENSIZE + declaredKeyLength body))]
    rw [List.drop_drop, hfront]
  have hrest : body.drop CDTP_LENSIZE
      = (body.drop CDTP_LENSIZE).take (declaredKeyLength body)
        ++ body.drop (CDTP_LENSIZE + declaredKeyLength body) := by
    conv_lhs => rw [← List.take_append_drop (declaredKeyLength body) (body.drop CDTP_LENSIZE)]
    rw [List.drop_drop]
  conv_rhs => rw [← List.take_append_drop CDTP_LENSIZE body, hrest, hnonce]
  rw [envelopeBytes, envelopeOf, hkey, hencoded, List.append_assoc, List.append_assoc]

/-- The four copies of the assembly, one behind the other. -/
theorem rsaAssemble_eq {ek iv c room : Bytes} (hiv : iv.length = IV_LENGTH)
    (h : CDTP_LENSIZE + ek.length + IV_LENGTH + c.length < 2 ^ 31) :
    rsaAssemble M (ek ++ room) ek.length iv c c.length
      = .ok { data := envelopeBytes ek iv c, dataSize := (envelopeBytes ek iv c).length } := by
  have hlen := BigEndian.toBytes_length CDTP_LENSIZE ek.length
  have hblock : (malloc M (CDTP_LENSIZE + ek.length + IV_LENGTH + c.length)).length
      = CDTP_LENSIZE + ek.length + IV_LENGTH + c.length := malloc_length _
  have hmod : CDTP_LENSIZE + ek.length + IV_LENGTH + c.length < SIZE_MOD := by
    unfold SIZE_MOD
    omega
  rw [rsaAssemble, addInt_ok (by omega), ok_bind, addInt_ok (by omega), ok_bind, addInt_ok h,
    ok_bind, ofInt_natCast hmod, ofInt_natCast (by omega), ofInt_natCast (by omega),
    encodeMessageSize_eq]
  -- only the length of the fresh block matters: it is overwritten from front to end
  generalize malloc M (CDTP_LENSIZE + ek.length + IV_LENGTH + c.length) = block at hblock ⊢
  have h₁ := @memcpy_behind M [] block (BigEndian.toBytes CDTP_LENSIZE ek.length) 0 CDTP_LENSIZE rfl
    (by omega) (by omega)
  have h₂ := @memcpy_behind M (BigEndian.toBytes CDTP_LENSIZE ek.length)
    (block.drop CDTP_LENSIZE) (ek ++ room) CDTP_LENSIZE ek.length hlen.symm
    (by rw [List.length_append]; omega) (by rw [List.length_drop]; omega)
  have h₃ := @memcpy_behind M (BigEndian.toBytes CDTP_LENSIZE ek.length ++ ek)
    ((block.drop CDTP_LENSIZE).drop ek.length) iv (CDTP_LENSIZE + ek.length) IV_LENGTH
    (by rw [List.length_append, hlen]) (by omega)
    (by rw [List.length_drop, List.length_drop]; omega)
  have h₄ := @memcpy_rest M (BigEndian.toBytes CDTP_LENSIZE ek.length ++ ek ++ iv)
    (((block.drop CDTP_LENSIZE).drop ek.length).drop IV_LENGTH) c
    (CDTP_LENSIZE + ek.length + IV_LENGTH)
    (by rw [List.length_append, List.length_append, hlen, hiv])
    (by rw [List.length_drop, List.length_drop, List.length_drop]; omega)
  rw [List.nil_append, List.nil_append, List.take_of_length_le (by omega)] at h₁
  rw [List.take_left, ← List.append_assoc] at h₂
  rw [List.take_of_length_le (by omega), ← List.append_assoc] at h₃
  rw [h₁, ok_bind, h₂, ok_bind, h₃, ok_bind, h₄, ok_bind,
    ← @envelopeBytes_length ek iv c hiv]
  exact cryptoData_eq

/-! ## The laws of `EVP_Seal*` and `EVP_Open*`, and the round trip -/

section Envelope

variable {Ctx PKey : Type}

/-- `EVP_SealInit`, `Update` and `Final` on a fresh context. -/
def OpenSSL.sealEnvelope (O : OpenSSL Ctx PKey) (publicKey : Option PKey) (rand : Nat → UInt8)
    (p : Bytes) : Option (Bytes × Bytes × Bytes) :=
  O.ctxNew.bind fun ctx => (O.sealInit ctx publicKey rand).bind fun r =>
    (cipher O.sealUpdate O.sealFinal r.2.2 p).map fun c => (r.1, r.2.1, c)

theorem OpenSSL.sealEnvelope_eq_some {O : OpenSSL Ctx PKey} {publicKey : Option PKey}
    {rand : Nat → UInt8} {p ek iv c : Bytes}
    (h : O.sealEnvelope publicKey rand p = some (ek, iv, c)) :
    ∃ ctx ctx', O.ctxNew = some ctx ∧ O.sealInit ctx publicKey rand = some (ek, iv, ctx') ∧
      cipher O.sealUpdate O.sealFinal ctx' p = some c := by
  obtain ⟨ctx, hctx, h⟩ := Option.bind_eq_some_iff.mp h
  obtain ⟨⟨ek', iv', ctx'⟩, hinit, h⟩ := Option.bind_eq_some_iff.mp h
  obtain ⟨c', hcipher, heq⟩ := Option.map_eq_some_iff.mp h
  cases heq
  exact ⟨ctx, ctx', hctx, hinit, hcipher⟩

/-- `EVP_OpenInit`, `Update` and `Final` on a fresh context. -/
def OpenSSL.openEnvelope (O : OpenSSL Ctx PKey) (privateKey : Option PKey) (e : Envelope) :
    Option Bytes :=
  (O.ctxNew.bind fun ctx => O.openInit ctx e.encryptedKey e.nonce privateKey).bind fun ctx =>
    cipher O.openUpdate O.openFinal ctx e.ciphertext

/-- CBC decryption with PKCS#7 padding removes at least one byte. -/
def OpenSSL.OpenShortens (O : OpenSSL Ctx PKey) : Prop :=
  ∀ key e p, O.openEnvelope key e = some p → p.length < e.ciphertext.length

/-- PEM reading undoes PEM writing, up to the halves of a matching pair, and `EVP_Open*` undoes
    `EVP_Seal*` for a matching pair.  (An RSA modulus has at most 16384 bits, so the encrypted key stays
    far below the bound.) -/
structure OpenSSL.SealLaws (O : OpenSSL Ctx PKey) (Matching : PKey → PKey → Prop) : Prop where
  pem : ∀ k pub pri, O.writePubkey k = some pub → O.writePrivateKey k = some pri →
    pub.length < 2 ^ 31 ∧ pri.length < 2 ^ 31 ∧
      ∃ kpub kpri, O.readPubkey pub = some kpub ∧ O.readPrivateKey pri = some kpri ∧
        Matching kpub kpri
  pkeySize : ∀ k, 0 < O.pkeySize (some k) ∧ O.pkeySize (some k) + 64 ≤ 2 ^ 30
  seal_open : ∀ kpub kpri rand p, Matching kpub kpri →
    ∃ ek iv c, O.sealEnvelope (some kpub) rand p = some (ek, iv, c) ∧
      ek.length ≤ O.pkeySize (some kpub) ∧ iv.length = IV_LENGTH ∧
      c.length = cbcLength p.length ∧
      O.openEnvelope (some kpri) { encryptedKey := ek, nonce := iv, ciphertext := c } = some p

/-- The same, and an envelope that opens is one that `EVP_Seal*` makes of its plaintext, with the right
    random bytes: a wrapped key that unwraps is the RSA encryption of a session key, and CBC decryption is
    one to one. -/
structure OpenSSL.EnvelopeLaws (O : OpenSSL Ctx PKey) (Matching : PKey → PKey → Prop) : Prop
    extends O.SealLaws Matching where
  open_seal : ∀ kpub kpri e q, Matching kpub kpri → e.nonce.length = IV_LENGTH →
    O.openEnvelope (some kpri) e = some q →
    ∃ rand, O.sealEnvelope (some kpub) rand q = some (e.encryptedKey, e.nonce, e.ciphertext)

theorem rsaOpen_eq_with {O : OpenSSL Ctx PKey} {key : Option PKey} {e : Envelope} :
    rsaOpen M O key e = decryptWith M
      (O.ctxNew.bind fun ctx => O.openInit ctx e.encryptedKey e.nonce key)
      O.openUpdate O.openFinal e.ciphertext e.ciphertext.length := by
  unfold rsaOpen
  cases O.ctxNew with
  | none => rfl
  | some ctx =>
    dsimp only [Option.bind_some]
    cases O.openInit ctx e.encryptedKey e.nonce key with
    | none => rfl
    | some ctx => rfl

theorem rsaOpen_eq {O : OpenSSL Ctx PKey} {key : Option PKey} {e : Envelope} {q : Bytes}
    (h : O.openEnvelope key e = some q) (hsize : q.length ≤ e.ciphertext.length)
    (hint : q.length < 2 ^ 31) (hq : Unpaddable q) :
    rsaOpen M O key e = .ok (some { data := unpadded q, dataSize := (unpadded q).length }) := by
  rw [rsaOpen_eq_with]
  exact decryptWith_eq h hsize hint hq

theorem rsaOpen_checked (hM : M.checked = true) {O : OpenSSL Ctx PKey} {key : Option PKey}
    {e : Envelope} (hO : ∀ q, O.openEnvelope key e = some q → q.length ≤ e.ciphertext.length)
    (hint : e.ciphertext.length < 2 ^ 31) {d : CryptoData} :
    rsaOpen M O key e = .ok (some d) ↔
      ∃ q, O.openEnvelope key e = some q ∧ Unpaddable q ∧
        d = { data := unpadded q, dataSize := (unpadded q).length } := by
  rw [rsaOpen_eq_with]
  exact decryptWith_checked hM hO hint

/-- **RSA encryption**: the envelope of what `EVP_Seal*` makes of the padded plaintext. -/
theorem cryptoRsaEncrypt_eq (hM : M.checked = false) {O : OpenSSL Ctx PKey} {rand : Nat → UInt8}
    {publicKey : RSAPublicKey} {kpub : PKey} {p ek iv c : Bytes} (hp : p.length ≤ 2 ^ 30)
    (hkey : cryptoOpensslRsaPublicKey M O publicKey = .ok (some kpub))
    (hsize : 0 < O.pkeySize (some kpub)) (hbound : O.pkeySize (some kpub) + 64 ≤ 2 ^ 30)
    (hseal : O.sealEnvelope (some kpub) rand (padded p) = some (ek, iv, c))
    (hek : ek.length ≤ O.pkeySize (some kpub)) (hiv : iv.length = IV_LENGTH)
    (hlen : c.length = cbcLength (padded p).length) :
    cryptoRsaEncrypt M O rand publicKey p p.length
      = .ok (some { data := envelopeBytes ek iv c, dataSize := (envelopeBytes ek iv c).length }) := by
  have hpad := padded_length_le p
  have hroom := cbcLength_padded_le p
  have hblock : BLOCK_SIZE = 16 := rfl
  have hivLen : IV_LENGTH = 16 := rfl
  have hfive : CDTP_LENSIZE = 5 := rfl
  obtain ⟨ctx, ctx', hctx, hinit, hcipher⟩ := OpenSSL.sealEnvelope_eq_some hseal
  have hbuf : store M (malloc M (O.pkeySize (some kpub))) 0 ek
      = .ok (ek ++ (malloc M (O.pkeySize (some kpub))).drop ek.length) := by
    rw [store_ok (by rw [malloc_length]; omega), splice_zero (by rw [malloc_length]; omega)]
  have hiv16 : store M (malloc M IV_LENGTH) 0 iv = .ok iv := by
    have hnil : (malloc M IV_LENGTH).drop iv.length = [] :=
      List.drop_eq_nil_of_le (by rw [malloc_length]; omega)
    rw [store_ok (by rw [malloc_length]; omega), splice_zero (by rw [malloc_length]; omega), hnil,
      List.append_nil]
  rw [cryptoRsaEncrypt, cryptoData_eq, ok_bind, cryptoPadData_eq hM, ok_bind, rsaEncryptPadded]
  show (castInt M (padded p).length >>= _) = _
  rw [castInt_ok (by omega), ok_bind, hkey, ok_bind, if_neg (by omega), hctx]
  dsimp only
  rw [hinit]
  show (store M (malloc M (O.pkeySize (some kpub))) 0 ek >>= _) = _
  rw [hbuf, ok_bind, hiv16, ok_bind, ciphertextInto_eq (by omega),
    cipherInto_some hcipher (by omega) (by omega), ok_bind]
  show (rsaAssemble M _ (ek.length : Int) iv c (c.length : Int) >>= _) = _
  rw [rsaAssemble_eq hiv (by omega)]
  rfl

/-- The stored PEM texts of a generated pair are those of one OpenSSL key. -/
theorem cryptoRsaKeyPair_eq {O : OpenSSL Ctx PKey} {r : Option PKey} {keys : RSAKeyPair}
    (h : cryptoRsaKeyPair M O r = .ok (some keys)) :
    ∃ k pub pri, r = some k ∧ O.writePubkey k = some pub ∧ O.writePrivateKey k = some pri ∧
      0 < pub.length ∧ keys.publicKey = { key := pub, keySize := pub.length } ∧
      keys.privateKey = { key := pri, keySize := pri.length } := by
  cases r with
  | none => exact absurd h (by simp [cryptoRsaKeyPair])
  | some k =>
    unfold cryptoRsaKeyPair at h
    cases hpub : O.writePubkey k with
    | none => simp [hpub] at h
    | some pub =>
      cases hpri : O.writePrivateKey k with
      | none => simp [hpub, hpri] at h
      | some pri =>
        have hcopy : ∀ b : Bytes, memcpy M (malloc M b.length) 0 b 0 b.length = .ok b := by
          intro b
          rw [memcpy_slice (by omega) (malloc_length _), List.drop_zero, List.take_length]
        by_cases hlen : pub.length < 1 ∨ pri.length < 1
        · simp only [hpub, hpri] at h
          rw [if_pos hlen] at h
          exact absurd h (by simp)
        · simp only [hpub, hpri, if_neg hlen, cryptoRsaPublicKeyFromBytes,
            cryptoRsaPrivateKeyFromBytes, hcopy, ok_bind, pure_eq_ok, Except.ok.injEq,
            Option.some.injEq] at h
          subst h
          exact ⟨k, pub, pri, rfl, hpub, hpri, by omega, rfl, rfl⟩

theorem cryptoOpensslRsaPublicKey_eq {O : OpenSSL Ctx PKey} {pub : Bytes}
    (h : pub.length < 2 ^ 31) :
    cryptoOpensslRsaPublicKey M O { key := pub, keySize := pub.length } = .ok (O.readPubkey pub) := by
  rw [cryptoOpensslRsaPublicKey, castInt_ok h, ok_bind,
    ofInt_natCast (by unfold SIZE_MOD; omega), peek_all]
  rfl

theorem cryptoOpensslRsaPrivateKey_eq {O : OpenSSL Ctx PKey} {pri : Bytes}
    (h : pri.length < 2 ^ 31) :
    cryptoOpensslRsaPrivateKey M O { key := pri, keySize := pri.length }
      = .ok (O.readPrivateKey pri) := by
  rw [cryptoOpensslRsaPrivateKey, castInt_ok h, ok_bind,
    ofInt_natCast (by unfold SIZE_MOD; omega), peek_all]
  rfl

/-- Decryption of an envelope in range is a session on its parts. -/
theorem cryptoRsaDecrypt_eq {O : OpenSSL Ctx PKey} {privateKey : RSAPrivateKey}
    {key : Option PKey} {body : Bytes}
    (hkey : cryptoOpensslRsaPrivateKey M O privateKey = .ok key) (h : EnvelopeInRange body)
    (hL : body.length < SIZE_MOD) :
    cryptoRsaDecrypt M O privateKey body body.length = rsaOpen M O key (envelopeOf body) := by
  rw [cryptoRsaDecrypt, hkey, ok_bind, rsaSlices_eq h hL, ok_bind]

/-- **The RSA round trip** for a generated pair: encrypted on the plain machine, decrypted on any. -/
theorem cryptoRsaEncrypt_roundtrip {O : OpenSSL Ctx PKey} {Matching : PKey → PKey → Prop}
    (hO : O.SealLaws Matching) (hM : M.checked = false) {r : Option PKey} {keys : RSAKeyPair}
    {M₀ : Machine} (hkeys : cryptoRsaKeyPair M₀ O r = .ok (some keys)) (rand : Nat → UInt8)
    {p : Bytes} (hp : p.length ≤ 2 ^ 30) :
    ∃ body : Bytes, cryptoRsaEncrypt M O rand keys.publicKey p p.length
        = .ok (some { data := body, dataSize := body.length }) ∧
      0 < body.length ∧ body.length < 2 ^ 31 ∧
      ∀ M' : Machine, cryptoRsaDecrypt M' O keys.privateKey body body.length
        = .ok (some { data := p, dataSize := p.length }) := by
  obtain ⟨k, pub, pri, -, hpub, hpri, -, hpubKey, hpriKey⟩ := cryptoRsaKeyPair_eq hkeys
  obtain ⟨hpubLen, hpriLen, kpub, kpri, hreadPub, hreadPri, hmatch⟩ := hO.pem k pub pri hpub hpri
  obtain ⟨hsize, hbound⟩ := hO.pkeySize kpub
  obtain ⟨ek, iv, c, hseal, hek, hiv, hlen, hopen⟩ := hO.seal_open kpub kpri rand (padded p) hmatch
  have hpad := padded_length_le p
  have hfive : CDTP_LENSIZE = 5 := rfl
  have hivLen : IV_LENGTH = 16 := rfl
  have hclen : c.length = 16 * ((padded p).length / 16 + 1) := hlen
  have hbody := @envelopeBytes_length ek iv c hiv
  refine ⟨envelopeBytes ek iv c, ?_, by omega, by omega, ?_⟩
  · rw [hpubKey]
    have hkey := @cryptoOpensslRsaPublicKey_eq M Ctx PKey O pub hpubLen
    rw [hreadPub] at hkey
    exact cryptoRsaEncrypt_eq hM hp hkey hsize hbound hseal hek hiv hlen
  · intro M'
    have hkey := @cryptoOpensslRsaPrivateKey_eq M' Ctx PKey O pri hpriLen
    rw [hreadPri] at hkey
    have hfront : envelopeFront (envelopeBytes ek iv c) = CDTP_LENSIZE + ek.length + IV_LENGTH := by
      rw [envelopeFront, declaredKeyLength_envelopeBytes (by omega)]
    have hrange : EnvelopeInRange (envelopeBytes ek iv c) :=
      ⟨by omega, by omega, by omega⟩
    have hparts := @envelopeOf_envelopeBytes ek iv c (by omega) hiv
    rw [hpriKey, cryptoRsaDecrypt_eq hkey hrange (by unfold SIZE_MOD; omega), hparts,
      rsaOpen_eq hopen (by show (padded p).length ≤ c.length; omega) (by omega)
        (unpaddable_padded p), unpadded_padded]

end Envelope

end Cdtp
