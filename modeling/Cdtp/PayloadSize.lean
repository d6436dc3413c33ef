/-
  How long a payload may be.

  The header of a frame holds 40 bits, but `_cdtp_crypto_aes_encrypt` counts in `int`: the padded size
  is narrowed, and the total of nonce and ciphertext is an `int` sum.  Three ranges follow:

  * below `2 ^ 31 - 33` bytes every sum fits, and the payload is recovered;
  * from there to `2 ^ 31 - 2` the total is negative, and the frame announces less than it holds;
  * from `2 ^ 31 - 1` on the receiver cannot have the payload back, since the size it computes for a
    plaintext is an `int` too (`decryptedSize`).

  In the last range the cipher may be told a small part of the payload, and the result is a well-formed
  frame of that part (`cryptoAesEncrypt_truncates`).
-/
import Cdtp.PlainCipher

namespace Cdtp

open CMem

variable {M : Machine}

/-! ## The plain machine -/

section Plain

variable {Ctx PKey : Type} {update : Ctx → Bytes → Option (Bytes × Ctx)}
  {final : Ctx → Option Bytes} {ctx : Ctx} {input : Bytes} {size : Nat}

theorem castInt_plain (hM : M.checked = false) (n : Nat) : castInt M n = .ok (toInt n) := by
  rw [castInt, if_neg (by simp [hM])]

theorem addInt_plain (hM : M.checked = false) (a b : Int) :
    addInt M a b = .ok (Int.bmod (a + b) (2 ^ 32)) := by
  rw [addInt, if_neg (by simp [hM])]

theorem store_plain (hM : M.checked = false) (dst chunk : Bytes) (off : Nat) :
    store M dst off chunk = .ok (splice dst off chunk) := by
  rw [store, if_neg (by simp [hM])]

theorem ciphertextRoom_plain (hM : M.checked = false) (len : Int) :
    ∃ room, ciphertextRoom M len = .ok room :=
  ⟨_, by rw [ciphertextRoom, addInt_plain hM, ok_bind, addInt_plain hM, ok_bind]; rfl⟩

/-- On the plain machine the cipher runs into any buffer; a failure of the cipher gives NULL. -/
theorem cipherInto_plain_none (hM : M.checked = false)
    (h : cipher update final ctx input = none) :
    cipherInto M update final ctx input size = .ok none := by
  rw [cipherInto]
  rw [cipher] at h
  rcases hu : update ctx input with _ | ⟨chunk, ctx'⟩
  · rfl
  · rw [hu] at h
    have hfinal : final ctx' = none := Option.map_eq_none_iff.mp h
    show (store M (malloc M size) 0 chunk >>= _) = _
    rw [store_plain hM, ok_bind, hfinal]
    rfl

/-- Otherwise its length is counted as an `int`. -/
theorem cipherInto_plain_some (hM : M.checked = false) {c : Bytes}
    (h : cipher update final ctx input = some c) :
    ∃ out, cipherInto M update final ctx input size
      = .ok (some (out, Int.bmod c.length (2 ^ 32))) := by
  rw [cipher] at h
  rcases hu : update ctx input with _ | ⟨chunk, ctx'⟩
  · rw [hu] at h
    exact absurd h (by simp)
  · rw [hu] at h
    obtain ⟨last, hlast, rfl⟩ := Option.map_eq_some_iff.mp h
    rw [cipherInto, hu]
    show ∃ out, (store M (malloc M size) 0 chunk >>= _) = _
    rw [store_plain hM, ok_bind, hlast]
    show ∃ out, (store M _ chunk.length last >>= _) = _
    rw [store_plain hM, ok_bind, addInt_plain hM, ok_bind, List.length_append, Int.natCast_add]
    exact ⟨_, rfl⟩

theorem aesAssemble_plain (hM : M.checked = false) (nonce c : Bytes) (len : Int) :
    ∃ d, aesAssemble M nonce c len = .ok d ∧
      d.dataSize = ofInt (Int.bmod (CDTP_AES_NONCE_SIZE + len) (2 ^ 32)) := by
  rw [aesAssemble, addInt_plain hM, ok_bind, memcpy_plain hM, ok_bind, memcpy_plain hM, ok_bind,
    cryptoData, memcpy_plain hM, ok_bind]
  exact ⟨_, rfl, rfl⟩

end Plain

/-! ## Encryption of any size -/

section Encryption

variable {Ctx PKey : Type} {O : OpenSSL Ctx PKey} {r : Nat → UInt8} {key : AESKey} {p : Bytes}

/-- What `EVP_EncryptUpdate` is told to encrypt: the padded data, as far as its size narrowed to `int`
    says. -/
def toldToEncrypt (M : Machine) (p : Bytes) : Bytes :=
  peek M (padded p) 0 (ofInt (toInt (padded p).length))

theorem cryptoAesEncrypt_plain (hM : M.checked = false) (O : OpenSSL Ctx PKey) (r : Nat → UInt8)
    (key : AESKey) (p : Bytes) :
    cryptoAesEncrypt M O (some r) key p p.length
      = aesEncryptPadded M O r key { data := padded p, dataSize := (padded p).length } := by
  rw [cryptoAesEncrypt, cryptoData_eq, ok_bind, cryptoPadData_eq hM, ok_bind]

/-- A failure of the cipher gives NULL. -/
theorem cryptoAesEncrypt_none (hM : M.checked = false)
    (h : O.encrypt (aesKeyBytes M key) (nonceOf r) (toldToEncrypt M p) = none) :
    cryptoAesEncrypt M O (some r) key p p.length = .ok none := by
  have hiv : ((List.range CDTP_AES_KEY_SIZE).map r).take IV_LENGTH = nonceOf r := take_nonce r
  rw [cryptoAesEncrypt_plain hM, aesEncryptPadded]
  show (castInt M (padded p).length >>= _) = _
  rw [castInt_plain hM, ok_bind, hiv]
  rcases hctx : O.ctxNew with _ | ctx₀
  · rfl
  dsimp only
  rcases hinit : O.encryptInit ctx₀ (aesKeyBytes M key) (nonceOf r) with _ | ctx
  · rfl
  dsimp only
  rw [OpenSSL.encrypt, hctx, Option.bind_some, hinit, Option.bind_some] at h
  obtain ⟨room, hroom⟩ := ciphertextRoom_plain hM (toInt (padded p).length)
  rw [ciphertextInto, hroom, ok_bind]
  show (cipherInto M _ _ ctx (toldToEncrypt M p) room >>= _) = _
  rw [cipherInto_plain_none hM h, ok_bind]
  rfl

/-- Otherwise a frame body comes out, whose size is what the `int` sums make of the ciphertext's. -/
theorem cryptoAesEncrypt_some (hM : M.checked = false) {c : Bytes}
    (h : O.encrypt (aesKeyBytes M key) (nonceOf r) (toldToEncrypt M p) = some c) :
    ∃ d, cryptoAesEncrypt M O (some r) key p p.length = .ok (some d) ∧
      d.dataSize
        = ofInt (Int.bmod (CDTP_AES_NONCE_SIZE + Int.bmod c.length (2 ^ 32)) (2 ^ 32)) := by
  have hiv : ((List.range CDTP_AES_KEY_SIZE).map r).take IV_LENGTH = nonceOf r := take_nonce r
  obtain ⟨ctx₀, hctx, h⟩ := Option.bind_eq_some_iff.mp h
  obtain ⟨ctx, hinit, h⟩ := Option.bind_eq_some_iff.mp h
  obtain ⟨room, hroom⟩ := ciphertextRoom_plain hM (toInt (padded p).length)
  obtain ⟨out, hout⟩ := @cipherInto_plain_some M Ctx _ _ ctx _ room hM c h
  obtain ⟨d, hd, hsize⟩ := aesAssemble_plain hM ((List.range CDTP_AES_KEY_SIZE).map r) out
    (Int.bmod c.length (2 ^ 32))
  refine ⟨d, ?_, hsize⟩
  rw [cryptoAesEncrypt_plain hM, aesEncryptPadded]
  show (castInt M (padded p).length >>= _) = _
  rw [castInt_plain hM, ok_bind, hiv, hctx]
  dsimp only
  rw [hinit]
  dsimp only
  rw [ciphertextInto, hroom, ok_bind]
  show (cipherInto M _ _ ctx (toldToEncrypt M p) room >>= _) = _
  rw [hout, ok_bind]
  dsimp only
  rw [hd]
  rfl

end Encryption

/-! ## What a decryption can return -/

section Decryption

variable {Ctx PKey : Type} {O : OpenSSL Ctx PKey} {key : AESKey}

theorem subSize_value {a b n : Nat} (h : subSize M a b = .ok n) :
    n = (a + (SIZE_MOD - b % SIZE_MOD)) % SIZE_MOD := by
  rw [subSize] at h
  split at h
  · exact absurd h (by simp)
  · exact (Except.ok.inj h).symm

theorem addInt_range {a b i : Int} (h : addInt M a b = .ok i) : -2 ^ 31 ≤ i ∧ i < 2 ^ 31 := by
  rw [addInt] at h
  split at h
  · exact absurd h (by simp)
  · obtain rfl := Except.ok.inj h
    exact ⟨@Int.le_bmod (a + b) (2 ^ 32) (by decide), @Int.bmod_lt (a + b) (2 ^ 32) (by decide)⟩

theorem cipherInto_range {update : Ctx → Bytes → Option (Bytes × Ctx)}
    {final : Ctx → Option Bytes} {ctx : Ctx} {input out : Bytes} {size : Nat} {len : Int}
    (h : cipherInto M update final ctx input size = .ok (some (out, len))) :
    -2 ^ 31 ≤ len ∧ len < 2 ^ 31 := by
  rw [cipherInto] at h
  rcases hu : update ctx input with _ | ⟨chunk, ctx'⟩
  · rw [hu] at h
    exact absurd h (by simp)
  rw [hu] at h
  obtain ⟨block, -, h⟩ := bind_eq_ok_iff.mp h
  rcases hf : final ctx' with _ | last
  · rw [hf] at h
    exact absurd h (by simp)
  rw [hf] at h
  obtain ⟨block', -, h⟩ := bind_eq_ok_iff.mp h
  obtain ⟨len', hlen, h⟩ := bind_eq_ok_iff.mp h
  cases h
  exact addInt_range hlen

/-- Unpadding takes one byte from the size, or two. -/
theorem cryptoUnpadData_size {q d : CryptoData} (h : cryptoUnpadData M q = .ok d) :
    d.dataSize = (q.dataSize + (SIZE_MOD - 1)) % SIZE_MOD ∨
      d.dataSize = (q.dataSize + (SIZE_MOD - 2)) % SIZE_MOD := by
  have hdrop : ∀ n, dropFront M q n = .ok d →
      d.dataSize = (q.dataSize + (SIZE_MOD - n % SIZE_MOD)) % SIZE_MOD := by
    intro n hn
    obtain ⟨rest, hrest, hn⟩ := bind_eq_ok_iff.mp hn
    obtain ⟨block, -, hn⟩ := bind_eq_ok_iff.mp hn
    cases hn
    exact subSize_value hrest
  obtain ⟨marker, -, h⟩ := bind_eq_ok_iff.mp h
  by_cases hmarker : marker = 1
  · rw [if_pos hmarker] at h
    exact Or.inr (hdrop 2 h)
  · rw [if_neg hmarker] at h
    exact Or.inl (hdrop 1 h)

/-- **The size of a decrypted payload** is an `int` less one or two: at most `2 ^ 31 - 2`, or what a
    negative number is as a `size_t`. -/
theorem decryptedSize {body : Bytes} {n : Nat} {d : CryptoData}
    (h : cryptoAesDecrypt M O key body n = .ok (some d)) :
    d.dataSize ≤ 2 ^ 31 - 2 ∨ 2 ^ 64 - 2 ^ 31 - 2 ≤ d.dataSize := by
  obtain ⟨nonce, -, h⟩ := bind_eq_ok_iff.mp h
  obtain ⟨size, -, h⟩ := bind_eq_ok_iff.mp h
  obtain ⟨data, -, h⟩ := bind_eq_ok_iff.mp h
  obtain ⟨ciphertextLen, -, h⟩ := bind_eq_ok_iff.mp h
  rcases hctx : O.ctxNew with _ | ctx₀
  · rw [hctx] at h
    exact absurd h (by simp)
  rw [hctx] at h
  dsimp only at h
  rcases hinit : O.decryptInit ctx₀ (aesKeyBytes M key) nonce with _ | ctx
  · rw [hinit] at h
    exact absurd h (by simp)
  rw [hinit] at h
  dsimp only at h
  obtain ⟨r, hinto, h⟩ := bind_eq_ok_iff.mp h
  rcases r with _ | ⟨out, len⟩
  · exact absurd h (by simp)
  have hrange := cipherInto_range hinto
  obtain ⟨plaintext, hplain, h⟩ := bind_eq_ok_iff.mp h
  obtain ⟨d', hunpad, h⟩ := bind_eq_ok_iff.mp h
  cases h
  obtain ⟨copy, -, hcopy⟩ := bind_eq_ok_iff.mp hplain
  obtain rfl := Except.ok.inj hcopy
  have hsize := cryptoUnpadData_size hunpad
  have hmod : SIZE_MOD = 2 ^ 64 := rfl
  have hof : ofInt len = (len % (2 ^ 64 : Int)).toNat := rfl
  dsimp only at hsize
  rw [hof, hmod] at hsize
  omega

end Decryption

/-! ## Frames of any size -/

theorem copyLoop_length (dst : Bytes) (dstOff : Nat) (src : Bytes) (srcOff n : Nat) :
    (copyLoop dst dstOff src srcOff n).length = dst.length := by
  rw [copyLoop]
  induction List.range n generalizing dst with
  | nil => rfl
  | cons i is ih => rw [List.foldl_cons, ih, List.length_set]

/-- A frame is five bytes longer than what it is told to hold. -/
theorem constructMessage_length_of_size (M : Machine) (data : Bytes) (n : Nat) :
    (constructMessage M data n).length = CDTP_LENSIZE + n := by
  rw [constructMessage, copyLoop_length, copyLoop_length, malloc_length]

/-! ## The payloads that are kept -/

section Kept

variable {Ctx PKey : Type}

/-- AES-256-CBC with PKCS#7 padding on the inputs that an `int` can count: a call may fail, but what it
    returns has the ciphertext's length and decrypts to what was encrypted. -/
structure OpenSSL.IntAESLaws (O : OpenSSL Ctx PKey) : Prop where
  length : ∀ key iv p c, key.length = CDTP_AES_KEY_SIZE → iv.length = IV_LENGTH →
    p.length < 2 ^ 31 → O.encrypt key iv p = some c → c.length = cbcLength p.length
  decrypt : ∀ key iv p c, key.length = CDTP_AES_KEY_SIZE → iv.length = IV_LENGTH →
    p.length < 2 ^ 31 → O.encrypt key iv p = some c → O.decrypt key iv c = some p

theorem OpenSSL.AESLaws.int {O : OpenSSL Ctx PKey} (hO : O.AESLaws) : O.IntAESLaws where
  length key iv p c hkey hiv _ h := by
    obtain ⟨c', hc', hlen, -⟩ := hO.encrypt_decrypt key iv p hkey hiv
    obtain rfl := Option.some.inj (h.symm.trans hc')
    exact hlen
  decrypt key iv p c hkey hiv _ h := by
    obtain ⟨c', hc', -, hdec⟩ := hO.encrypt_decrypt key iv p hkey hiv
    obtain rfl := Option.some.inj (h.symm.trans hc')
    exact hdec

/-- `message` is a complete frame of the payload `p`: five bytes that announce its length, and a body
    that is decrypted and unpadded to `p`. -/
structure FrameOf (M : Machine) (O : OpenSSL Ctx PKey) (key : AESKey) (p message : Bytes) : Prop where
  framed : message.length = CDTP_LENSIZE + decodeMessageSize message
  recovered : cryptoAesDecrypt M O key (message.drop CDTP_LENSIZE) (decodeMessageSize message)
    = .ok (some { data := p, dataSize := p.length })

/-- The frame of the body `d` carries the payload `p`, and neither narrowing to `int` on the way
    changes a length. -/
structure CarriesPayload (M : Machine) (O : OpenSSL Ctx PKey) (key : AESKey) (p : Bytes)
    (d : CryptoData) : Prop where
  frame : FrameOf M O key p (constructMessage M d.data d.dataSize)
  encrypted_whole : ofInt (toInt (padded p).length) = (padded p).length
  decrypted_whole : ofInt (toInt (d.dataSize - CDTP_AES_NONCE_SIZE))
    = d.dataSize - CDTP_AES_NONCE_SIZE

/-- Encryption and framing report an error, or produce a frame that carries the payload. -/
def NotShortened (M : Machine) (O : OpenSSL Ctx PKey) (rand : Option (Nat → UInt8)) (key : AESKey)
    (p : Bytes) : Prop :=
  cryptoAesEncrypt M O rand key p p.length = .ok none ∨
    ∃ d, cryptoAesEncrypt M O rand key p p.length = .ok (some d) ∧ CarriesPayload M O key p d

/-- `RAND_bytes` fails, or OpenSSL does. -/
def OpenSSLFails (M : Machine) (O : OpenSSL Ctx PKey) (rand : Option (Nat → UInt8)) (key : AESKey)
    (p : Bytes) : Prop :=
  ∀ r, rand = some r → O.encrypt (aesKeyBytes M key) (nonceOf r) (toldToEncrypt M p) = none

variable {O : OpenSSL Ctx PKey} {key : AESKey} {p : Bytes}

theorem toldToEncrypt_of_lt (h : (padded p).length < 2 ^ 31) : toldToEncrypt M p = padded p := by
  have hmod : (padded p).length < SIZE_MOD := by
    unfold SIZE_MOD
    omega
  rw [toldToEncrypt, toInt_of_lt h, ofInt_natCast hmod, peek_all]

/-- A failure of OpenSSL is reported. -/
theorem cryptoAesEncrypt_of_fails (hM : M.checked = false) {rand : Option (Nat → UInt8)}
    (h : OpenSSLFails M O rand key p) : cryptoAesEncrypt M O rand key p p.length = .ok none := by
  rcases rand with _ | r
  · rfl
  · exact cryptoAesEncrypt_none hM (h r rfl)

/-- Framed on one machine, nonce and ciphertext of a padded payload are a frame of it on any machine that
    has the key. -/
theorem frameOf_padded {M' : Machine} {r : Nat → UInt8} {c : Bytes} (hp : p.length < 2 ^ 31 - 33)
    (hlen : c.length = cbcLength (padded p).length)
    (hdec : O.decrypt (aesKeyBytes M' key) (nonceOf r) c = some (padded p)) :
    FrameOf M' O key p (constructMessage M (nonceOf r ++ c) (nonceOf r ++ c).length) := by
  have hpad := padded_length_le_of_lt hp
  have hclen : c.length = 16 * ((padded p).length / 16 + 1) := hlen
  have hbody := nonceOf_append_length r c
  have hdecode := @decodeMessageSize_message M (nonceOf r ++ c) (by omega) []
  have hdrop := drop_frame M (nonceOf r ++ c) []
  rw [List.append_nil] at hdecode hdrop
  constructor
  · rw [hdecode, constructMessage_length]
  · rw [hdecode, hdrop, List.append_nil]
    exact cryptoAesDecrypt_padded hp hlen hdec

/-- Below `2 ^ 31 - 33` bytes the payload is carried, by a frame of the expected length. -/
theorem carriesPayload_of_lt (hM : M.checked = false) (hO : O.IntAESLaws) {r : Nat → UInt8}
    (hp : p.length < 2 ^ 31 - 33)
    (henc : O.encrypt (aesKeyBytes M key) (nonceOf r) (toldToEncrypt M p) ≠ none) :
    ∃ d, cryptoAesEncrypt M O (some r) key p p.length = .ok (some d) ∧
      d.dataSize = CDTP_AES_NONCE_SIZE + cbcLength (padded p).length ∧
      CarriesPayload M O key p d := by
  have hpad := padded_length_le_of_lt hp
  obtain ⟨c, henc⟩ := Option.ne_none_iff_exists'.mp henc
  rw [toldToEncrypt_of_lt (by omega)] at henc
  have hlen := hO.length (aesKeyBytes M key) (nonceOf r) (padded p) c (aesKeyBytes_length key)
    (nonceOf_length r) (by omega) henc
  have hdec := hO.decrypt (aesKeyBytes M key) (nonceOf r) (padded p) c (aesKeyBytes_length key)
    (nonceOf_length r) (by omega) henc
  have hclen : c.length = 16 * ((padded p).length / 16 + 1) := hlen
  have hnonce : CDTP_AES_NONCE_SIZE = 16 := rfl
  have hbody := nonceOf_append_length r c
  refine ⟨_, cryptoAesEncrypt_eq hM hp henc hlen, ?_, frameOf_padded hp hlen hdec, ?_, ?_⟩
  · rw [← hlen, hnonce]
    exact hbody
  · rw [toInt_of_lt (by omega), ofInt_natCast (by unfold SIZE_MOD; omega)]
  · dsimp only
    rw [toInt_of_lt (by omega), ofInt_natCast (by unfold SIZE_MOD; omega)]

/-- From there on the message is not a frame of the payload.  (No object has `2 ^ 63` bytes.) -/
theorem not_frameOf_of_ge (hM : M.checked = false) (hO : O.IntAESLaws) {r : Nat → UInt8}
    (hp : 2 ^ 31 - 33 ≤ p.length) (hp63 : p.length < 2 ^ 63)
    (henc : O.encrypt (aesKeyBytes M key) (nonceOf r) (toldToEncrypt M p) ≠ none) :
    ∃ d, cryptoAesEncrypt M O (some r) key p p.length = .ok (some d) ∧
      ¬ FrameOf M O key p (constructMessage M d.data d.dataSize) := by
  obtain ⟨c, henc⟩ := Option.ne_none_iff_exists'.mp henc
  obtain ⟨d, hd, hsize⟩ := cryptoAesEncrypt_some hM henc
  refine ⟨d, hd, ?_⟩
  intro hframe
  by_cases hlong : 2 ^ 31 - 1 ≤ p.length
  · -- the receiver cannot compute so large a size
    have hrange := decryptedSize hframe.recovered
    dsimp only at hrange
    omega
  · -- the ciphertext is known, and its `int` total with the nonce is negative
    have hpad := padded_length p
    have hlt : (padded p).length < 2 ^ 31 := by
      split at hpad <;> omega
    have hge : 2 ^ 31 - 32 ≤ (padded p).length := by
      split at hpad <;> omega
    rw [toldToEncrypt_of_lt hlt] at henc
    have hclen : c.length = 16 * ((padded p).length / 16 + 1) :=
      hO.length (aesKeyBytes M key) (nonceOf r) (padded p) c (aesKeyBytes_length key)
        (nonceOf_length r) hlt henc
    have hbig : 2 ^ 40 ≤ d.dataSize := by
      have hcases : c.length = 2 ^ 31 - 16 ∨ c.length = 2 ^ 31 := by omega
      rw [hsize]
      rcases hcases with h | h <;> rw [h] <;> decide
    have hframed := hframe.framed
    have hdecode := decodeMessageSize_lt (constructMessage M d.data d.dataSize)
    rw [constructMessage_length_of_size] at hframed
    omega

theorem fails_of_notShortened (hM : M.checked = false) (hO : O.IntAESLaws)
    {rand : Option (Nat → UInt8)} (hp : 2 ^ 31 - 33 ≤ p.length) (hp63 : p.length < 2 ^ 63)
    (h : NotShortened M O rand key p) : OpenSSLFails M O rand key p := by
  intro r hr
  subst hr
  by_contra henc
  obtain ⟨d, hd, hno⟩ := not_frameOf_of_ge hM hO hp hp63 henc
  rcases h with hnone | ⟨d', hd', hcarries⟩
  · rw [hd] at hnone
    exact absurd hnone (by simp)
  · rw [hd, Except.ok.injEq, Option.some.injEq] at hd'
    subst hd'
    exact hno hcarries.frame

/-- **Which payloads are kept**: exactly those below `2 ^ 31 - 33` bytes, and those for which OpenSSL
    fails and the failure is reported. -/
theorem notShortened_iff (hM : M.checked = false) (hO : O.IntAESLaws) (rand : Option (Nat → UInt8))
    (key : AESKey) (p : Bytes)
    (hheader : CDTP_AES_NONCE_SIZE + cbcLength (padded p).length < 2 ^ 40) :
    NotShortened M O rand key p ↔ OpenSSLFails M O rand key p ∨ p.length < 2 ^ 31 - 33 := by
  have hpad : p.length < (padded p).length := by
    rw [padded_length]
    split <;> omega
  have hcbc : cbcLength (padded p).length = 16 * ((padded p).length / 16 + 1) := rfl
  constructor
  · intro h
    by_cases hp : p.length < 2 ^ 31 - 33
    · exact Or.inr hp
    · exact Or.inl (fails_of_notShortened hM hO (by omega) (by omega) h)
  · intro h
    by_cases hfails : OpenSSLFails M O rand key p
    · exact Or.inl (cryptoAesEncrypt_of_fails hM hfails)
    · have hp := h.resolve_left hfails
      obtain ⟨r, hfails⟩ := not_forall.mp hfails
      obtain ⟨rfl, henc⟩ := Classical.not_imp.mp hfails
      obtain ⟨d, hd, -, hcarries⟩ := @carriesPayload_of_lt M Ctx PKey O key p hM hO r hp henc
      exact Or.inr ⟨d, hd, hcarries⟩

/-- Two padded data that the narrowed size does not tell apart are encrypted alike. -/
theorem aesEncryptPadded_congr (hM : M.checked = false) {r : Nat → UInt8} {q q' : CryptoData}
    (hsize : toInt q.dataSize = toInt q'.dataSize)
    (hdata : peek M q.data 0 (ofInt (toInt q'.dataSize))
      = peek M q'.data 0 (ofInt (toInt q'.dataSize))) :
    aesEncryptPadded M O r key q = aesEncryptPadded M O r key q' := by
  unfold aesEncryptPadded ciphertextInto
  simp only [castInt_plain hM, ok_bind, hsize, hdata]

theorem bmod_add_mul (a b k : Nat) : Int.bmod ((a + b * k : Nat) : Int) b = Int.bmod a b := by
  rw [Int.natCast_add, Int.natCast_mul, Int.add_mul_bmod_self_left]

theorem toInt_add_mul (a k : Nat) : toInt (a + 2 ^ 32 * k) = toInt a := bmod_add_mul a (2 ^ 32) k

/-- Padding, narrowed to `int`, cuts a payload to its length modulo `2 ^ 32`. -/
theorem toInt_padded_truncates {k n : Nat} (hp : p.length = 2 ^ 32 * k + n) :
    toInt (padded p).length = toInt (padded (p.take n)).length ∧
      (padded p).take (padded (p.take n)).length = padded (p.take n) := by
  have hlen : (p.take n).length = n := by
    rw [List.length_take]
    omega
  have hmod : (p.length + 1) % 16 = (n + 1) % 16 := by omega
  have hfull : (padded p).length = (padded (p.take n)).length + 2 ^ 32 * k := by
    rw [padded_length, padded_length, hlen, hmod]
    split <;> omega
  refine ⟨by rw [hfull, toInt_add_mul], ?_⟩
  unfold padded
  rw [hlen, hmod]
  split
  · rw [List.length_cons, List.length_cons, hlen, List.take_succ_cons, List.take_succ_cons]
  · rw [List.length_cons, hlen, List.take_succ_cons]

/-- The cipher is told the part, if that is an `int`. -/
theorem toldToEncrypt_truncates {k n : Nat} (hp : p.length = 2 ^ 32 * k + n) (hn : n + 2 < 2 ^ 31) :
    peek M (padded p) 0 (ofInt (toInt (padded (p.take n)).length)) = padded (p.take n) ∧
      toldToEncrypt M (p.take n) = padded (p.take n) := by
  have hlen : (p.take n).length = n := by
    rw [List.length_take]
    omega
  have hpart : (padded (p.take n)).length ≤ n + 2 := by
    have hle := padded_length_le (p.take n)
    omega
  have hfull : (padded (p.take n)).length ≤ (padded p).length := by
    rw [← (toInt_padded_truncates hp).2, List.length_take]
    exact Nat.min_le_right _ _
  refine ⟨?_, toldToEncrypt_of_lt (by omega)⟩
  rw [toInt_of_lt (by omega), ofInt_natCast (by unfold SIZE_MOD; omega), peek_of_le (by omega),
    List.drop_zero, (toInt_padded_truncates hp).2]

/-- **The payload is cut** to its length modulo `2 ^ 32`, if what is left of it is an `int`: the frame is
    the one of the part, and nothing in it tells. -/
theorem cryptoAesEncrypt_truncates (hM : M.checked = false) (r : Nat → UInt8) {k n : Nat}
    (hp : p.length = 2 ^ 32 * k + n) (hn : n + 2 < 2 ^ 31) :
    cryptoAesEncrypt M O (some r) key p p.length
      = cryptoAesEncrypt M O (some r) key (p.take n) (p.take n).length := by
  obtain ⟨htold, hpart⟩ := @toldToEncrypt_truncates M p k n hp hn
  rw [cryptoAesEncrypt_plain hM, cryptoAesEncrypt_plain hM]
  refine aesEncryptPadded_congr hM (toInt_padded_truncates hp).1 ?_
  dsimp only
  rw [htold]
  exact hpart.symm

/-- Unless the cipher fails, `2 ^ 32` bytes of a payload are lost without notice. -/
theorem payload_wraps (hM : M.checked = false) (hO : O.IntAESLaws) (r : Nat → UInt8) {n : Nat}
    (hp : p.length = 2 ^ 32 * 1 + n) (hn : n < 2 ^ 31 - 33)
    (henc : O.encrypt (aesKeyBytes M key) (nonceOf r) (toldToEncrypt M p) ≠ none) :
    (∃ d, cryptoAesEncrypt M O (some r) key p p.length = .ok (some d) ∧
      CarriesPayload M O key (p.take n) d) ∧
    ¬ NotShortened M O (some r) key p := by
  have hlen : (p.take n).length = n := by
    rw [List.length_take]
    omega
  obtain ⟨htold, hpart⟩ := @toldToEncrypt_truncates M p 1 n hp (by omega)
  have hcut : O.encrypt (aesKeyBytes M key) (nonceOf r) (toldToEncrypt M (p.take n)) ≠ none := by
    rw [toldToEncrypt, (toInt_padded_truncates hp).1, htold] at henc
    rw [hpart]
    exact henc
  obtain ⟨d, hd, -, hcarries⟩ :=
    @carriesPayload_of_lt M Ctx PKey O key (p.take n) hM hO r (by omega) hcut
  rw [← cryptoAesEncrypt_truncates hM r hp (by omega)] at hd
  refine ⟨⟨d, hd, hcarries⟩, ?_⟩
  intro h
  exact henc (fails_of_notShortened hM hO (by omega) (by omega) h r rfl)

end Kept

/-- Three bytes. -/
theorem notShortened_iff_three :
    NotShortened plainMachine plainOpenSSL (some fun _ => 0)
      { key := List.replicate 32 1, keySize := 32 } [1, 2, 3] :=
  (notShortened_iff rfl plainOpenSSL_aesLaws.int _ _ [1, 2, 3] (by decide)).mpr
    (Or.inr (by decide))

/-- A payload of `2 ^ 32 + 10` bytes becomes the frame of its first ten, which the receiver accepts. -/
theorem notShortened_wrapped :
    CDTP_AES_NONCE_SIZE + cbcLength (padded (List.replicate (2 ^ 32 + 10) 7)).length < 2 ^ 40 ∧
    (∃ d, cryptoAesEncrypt plainMachine plainOpenSSL (some fun _ => 0)
        { key := List.replicate 32 1, keySize := 32 } (List.replicate (2 ^ 32 + 10) 7)
        (List.replicate (2 ^ 32 + 10) (7 : UInt8)).length = .ok (some d) ∧
      CarriesPayload plainMachine plainOpenSSL { key := List.replicate 32 1, keySize := 32 }
        ((List.replicate (2 ^ 32 + 10) 7).take 10) d) ∧
    ¬ NotShortened plainMachine plainOpenSSL (some fun _ => 0)
      { key := List.replicate 32 1, keySize := 32 } (List.replicate (2 ^ 32 + 10) 7) := by
  have hlen : (List.replicate (2 ^ 32 + 10) (7 : UInt8)).length = 2 ^ 32 * 1 + 10 := by
    rw [List.length_replicate, Nat.mul_one]
  -- the payload itself is never looked at
  generalize List.replicate (2 ^ 32 + 10) (7 : UInt8) = p at hlen ⊢
  refine ⟨?_, payload_wraps rfl plainOpenSSL_aesLaws.int (fun _ => 0) hlen (by decide) ?_⟩
  · have hpad := padded_length_le p
    rw [cbcLength, CDTP_AES_NONCE_SIZE]
    omega
  · rw [plainOpenSSL_encrypt]
    simp

end Cdtp
