/-
  What the cryptography computes.

  Below, `padded`/`unpadded` say what the pad prefix is, and `OpenSSL.encrypt`, `decrypt`, `openEnvelope`
  what a chain of `EVP_*` calls amounts to.  The specifications then come in two kinds:

  * on ANY machine, a well-formed input gives the expected output (`cryptoAesDecrypt_eq`,
    `rsaSlices_eq`, …), and on the plain machine encryption does (`cryptoAesEncrypt_eq`,
    `cryptoRsaEncrypt_eq`: its padding copies past two buffers, which a checking machine refuses);
  * on a CHECKING machine, the decryptions return data only for well-formed inputs
    (`cryptoAesDecrypt_checked`, `rsaSlices_checked`, …).  Those are equivalences, so they say exactly
    which inputs are handled.

  The laws of OpenSSL that the round trips rest on are the two structures `AESLaws` and `SealLaws`.
-/
import Cdtp.Crypto

namespace Cdtp

open CMem

variable {M : Machine}

/-! ## The pad prefix -/

/-- The data with its prefix: one byte 0, or the two bytes 1 and 255. -/
def padded (d : Bytes) : Bytes := if (d.length + 1) % 16 = 0 then 1 :: 255 :: d else 0 :: d

/-- The data without the prefix that its first byte announces. -/
def unpadded (q : Bytes) : Bytes := if q.head? = some 1 then q.drop 2 else q.drop 1

theorem padded_length (d : Bytes) :
    (padded d).length = if (d.length + 1) % 16 = 0 then d.length + 2 else d.length + 1 := by
  unfold padded
  split <;> rfl

/-- The purpose of the prefix: the padded length is never a multiple of the block size. -/
theorem padded_length_mod (d : Bytes) : (padded d).length % BLOCK_SIZE ≠ 0 := by
  show (padded d).length % 16 ≠ 0
  rw [padded_length]
  split <;> omega

theorem unpadded_padded (d : Bytes) : unpadded (padded d) = d := by
  unfold padded
  split
  · rfl
  · rfl

/-- The two plaintexts that cannot be unpadded: no byte at all, or the marker 1 with nothing behind. -/
def Unpaddable (q : Bytes) : Prop := q ≠ [] ∧ q ≠ [1]

instance (q : Bytes) : Decidable (Unpaddable q) := inferInstanceAs (Decidable (_ ∧ _))

theorem unpaddable_padded (d : Bytes) : Unpaddable (padded d) := by
  unfold Unpaddable padded
  split <;> simp

theorem cryptoData_eq {d : Bytes} :
    cryptoData M d d.length = .ok { data := d, dataSize := d.length } := by
  rw [cryptoData, memcpy_slice (by omega) (malloc_length _), List.drop_zero, List.take_length]
  rfl

/-- A copy that starts behind a written front and runs to the end of the block, and past it. -/
theorem splice_front {front rest chunk : Bytes} {n : Nat} (hn : n = front.length)
    (h : rest.length ≤ chunk.length) :
    splice (front ++ rest) n chunk = front ++ chunk.take rest.length := by
  rw [hn, splice, List.take_left, List.length_append, Nat.add_sub_cancel_left,
    List.drop_eq_nil_of_le (by rw [List.length_append]; omega), List.append_nil]

/-- One branch of the padding: `front` is the prefix, and the copy behind it runs past both blocks. -/
theorem pad_copy (hM : M.checked = false) {front : Bytes} (d : Bytes) {n : Nat}
    (hn : front.length = n) :
    ∃ block, store M (malloc M (d.length + n)) 0 front = .ok block ∧
      memcpy M block n d 0 (d.length + n) = .ok (front ++ d) := by
  have hfront : front.length ≤ (malloc M (d.length + n)).length := by
    rw [malloc_length]
    omega
  have hrest : ((malloc M (d.length + n)).drop front.length).length = d.length := by
    rw [List.length_drop, malloc_length]
    omega
  -- the copy asks for `n` bytes more than the source has; they would land behind the block
  have hcopy : (peek M d 0 (d.length + n)).take d.length = d := by
    have hwhole : d.take (d.length + n) = d := List.take_of_length_le (by omega)
    rw [peek, List.drop_zero, hwhole, List.take_left]
  refine ⟨_, store_ok (by omega), ?_⟩
  rw [splice_zero hfront, memcpy_plain hM, splice_front hn.symm (by rw [hrest, peek_length]; omega),
    hrest, hcopy]

/-- On the plain machine the padding is what it is meant to be. -/
theorem cryptoPadData_eq (hM : M.checked = false) (d : Bytes) :
    cryptoPadData M { data := d, dataSize := d.length }
      = .ok { data := padded d, dataSize := (padded d).length } := by
  unfold cryptoPadData padded
  split
  · obtain ⟨block, hstore, hcopy⟩ := @pad_copy M hM [1, 255] d 2 rfl
    show (store M (malloc M (d.length + 2)) 0 [1, 255] >>= _) = _
    rw [hstore, ok_bind]
    show (memcpy M block 2 d 0 (d.length + 2) >>= _) = _
    rw [hcopy]
    rfl
  · obtain ⟨block, hstore, hcopy⟩ := @pad_copy M hM [0] d 1 rfl
    show (store M (malloc M (d.length + 1)) 0 [0] >>= _) = _
    rw [hstore, ok_bind]
    show (memcpy M block 1 d 0 (d.length + 1) >>= _) = _
    rw [hcopy]
    rfl

theorem dropFront_eq {q : Bytes} {n : Nat} (hn : n ≤ q.length) (hq : q.length < SIZE_MOD) :
    dropFront M { data := q, dataSize := q.length } n
      = .ok { data := q.drop n, dataSize := (q.drop n).length } := by
  have hall : n + (q.length - n) ≤ q.length := by omega
  rw [dropFront, subSize_ok hn hq, ok_bind, memcpy_slice hall (malloc_length _), ok_bind,
    List.take_of_length_le (by rw [List.length_drop]), ← List.length_drop]
  rfl

theorem dropFront_checked (hM : M.checked = true) {q : Bytes} {n : Nat} (hn : ¬ n ≤ q.length) :
    dropFront M { data := q, dataSize := q.length } n = .error .wraps := by
  rw [dropFront, subSize, if_pos ⟨hM, hn⟩]
  rfl

/-- Data that can be unpadded is unpadded. -/
theorem cryptoUnpadData_eq {q : Bytes} (h : Unpaddable q) (hq : q.length < SIZE_MOD) :
    cryptoUnpadData M { data := q, dataSize := q.length }
      = .ok { data := unpadded q, dataSize := (unpadded q).length } := by
  obtain ⟨hnil, hone⟩ := h
  rcases q with _ | ⟨b, q⟩
  · exact absurd rfl hnil
  · show (if b = 1 then dropFront M { data := b :: q, dataSize := (b :: q).length } 2
      else dropFront M { data := b :: q, dataSize := (b :: q).length } 1) = _
    by_cases hb : b = 1
    · -- the marker 1 takes two bytes; it does not stand alone
      have hlen : 2 ≤ (b :: q).length := by
        rcases q with _ | ⟨c, q⟩
        · exact absurd (by rw [hb]) hone
        · show 2 ≤ q.length + 1 + 1
          omega
      rw [if_pos hb, dropFront_eq hlen hq, unpadded, if_pos (by rw [hb]; rfl)]
    · have hlen : 1 ≤ (b :: q).length := Nat.succ_le_succ (Nat.zero_le _)
      have hhead : ¬ (b :: q).head? = some 1 := fun h => hb (Option.some.inj h)
      rw [if_neg hb, dropFront_eq hlen hq, unpadded, if_neg hhead]

/-- Data that cannot is not: the first read, or the subtraction, goes outside. -/
theorem cryptoUnpadData_checked (hM : M.checked = true) {q : Bytes} (h : ¬ Unpaddable q) :
    ∃ e, cryptoUnpadData M { data := q, dataSize := q.length } = .error e := by
  by_cases hnil : q = []
  · refine ⟨.readOutside, ?_⟩
    subst hnil
    rw [cryptoUnpadData, readByte]
    show (if M.checked = true then _ else _) >>= _ = _
    rw [if_pos hM]
    rfl
  · have hone : q = [1] := by
      by_contra hne
      exact h ⟨hnil, hne⟩
    refine ⟨.wraps, ?_⟩
    subst hone
    show dropFront M { data := [1], dataSize := [1].length } 2 = _
    exact dropFront_checked hM (by simp)

/-! ## Running a cipher into a buffer -/

section Ciphers

variable {Ctx PKey : Type} {update : Ctx → Bytes → Option (Bytes × Ctx)}
  {final : Ctx → Option Bytes} {ctx : Ctx} {input : Bytes} {size : Nat}

/-- Output that fits its buffer is returned whole. -/
theorem cipherInto_some {out : Bytes} (h : cipher update final ctx input = some out)
    (hsize : out.length ≤ size) (hint : out.length < 2 ^ 31) :
    cipherInto M update final ctx input size = .ok (some (out, (out.length : Int))) := by
  unfold cipher at h
  unfold cipherInto
  cases hu : update ctx input with
  | none => rw [hu] at h; exact absurd h (by simp)
  | some r =>
    obtain ⟨chunk, ctx'⟩ := r
    rw [hu] at h
    obtain ⟨last, hlast, rfl⟩ := Option.map_eq_some_iff.mp h
    rw [List.length_append] at hsize hint
    have hchunk : chunk.length ≤ (malloc M size).length := by
      rw [malloc_length]
      omega
    have hrest : last.length ≤ ((malloc M size).drop chunk.length).length := by
      rw [List.length_drop, malloc_length]
      omega
    show (store M (malloc M size) 0 chunk >>= _) = _
    rw [store_ok (by omega), ok_bind, splice_zero hchunk, hlast]
    show (store M _ chunk.length last >>= _) = _
    rw [store_ok (by rw [List.length_append]; omega), ok_bind, splice_append hrest, addInt_ok hint,
      ok_bind, ofInt_natCast (by unfold SIZE_MOD; omega),
      realloc_of_le (by rw [List.length_append, List.length_append]; omega), ← List.length_append,
      List.take_left]
    rfl

/-- A failing call gives NULL, unless its output has already left the buffer. -/
theorem cipherInto_none (h : cipher update final ctx input = none) :
    cipherInto M update final ctx input size = .ok none ∨
      ∃ e, cipherInto M update final ctx input size = .error e := by
  unfold cipher at h
  unfold cipherInto
  cases hu : update ctx input with
  | none => exact .inl rfl
  | some r =>
    obtain ⟨chunk, ctx'⟩ := r
    rw [hu] at h
    have hfinal : final ctx' = none := Option.map_eq_none_iff.mp h
    show (store M (malloc M size) 0 chunk >>= _) = _ ∨ ∃ e, (store M _ 0 chunk >>= _) = _
    cases hs : store M (malloc M size) 0 chunk with
    | error e => exact .inr ⟨e, rfl⟩
    | ok out => exact .inl (by rw [ok_bind, hfinal]; rfl)

/-- What a decryption returns when the cipher does. -/
theorem plaintextFrom_eq {q : Bytes} (h : cipher update final ctx input = some q)
    (hsize : q.length ≤ size) (hint : q.length < 2 ^ 31) (hq : Unpaddable q) :
    plaintextFrom M update final ctx input size
      = .ok (some { data := unpadded q, dataSize := (unpadded q).length }) := by
  have hmod : q.length < SIZE_MOD := by
    unfold SIZE_MOD
    omega
  rw [plaintextFrom, cipherInto_some h hsize hint, ok_bind]
  show (cryptoData M q (ofInt (q.length : Int)) >>= _) = _
  rw [ofInt_natCast hmod, cryptoData_eq, ok_bind, cryptoUnpadData_eq hq hmod]
  rfl

/-- **A decryption on a checking machine** returns data iff the cipher does and the plaintext can be
    unpadded. -/
theorem plaintextFrom_checked (hM : M.checked = true)
    (hsize : ∀ q, cipher update final ctx input = some q → q.length ≤ size)
    (hint : size < 2 ^ 31) {d : CryptoData} :
    plaintextFrom M update final ctx input size = .ok (some d) ↔
      ∃ q, cipher update final ctx input = some q ∧ Unpaddable q ∧
        d = { data := unpadded q, dataSize := (unpadded q).length } := by
  cases hc : cipher update final ctx input with
  | none =>
    constructor
    · intro h
      rcases @cipherInto_none M Ctx update final ctx input size hc with hr | ⟨e, hr⟩
      · rw [plaintextFrom, hr] at h
        exact absurd h (by simp)
      · rw [plaintextFrom, hr] at h
        exact absurd h (by simp)
    · rintro ⟨q, hq, -⟩
      exact absurd hq (by simp)
  | some q =>
    have hfit := hsize q hc
    by_cases hq : Unpaddable q
    · rw [plaintextFrom_eq hc hfit (by omega) hq]
      constructor
      · intro h
        exact ⟨q, rfl, hq, (Option.some.inj (Except.ok.inj h)).symm⟩
      · rintro ⟨q', hq', -, rfl⟩
        rw [Option.some.inj hq']
    · constructor
      · intro h
        have hmod : q.length < SIZE_MOD := by
          unfold SIZE_MOD
          omega
        obtain ⟨e, he⟩ := cryptoUnpadData_checked hM hq
        rw [plaintextFrom, cipherInto_some hc hfit (by omega), ok_bind] at h
        change (cryptoData M q (ofInt (q.length : Int)) >>= _) = _ at h
        rw [ofInt_natCast hmod, cryptoData_eq, ok_bind, he] at h
        exact absurd h (by simp)
      · rintro ⟨q', hq', hun, -⟩
        rw [Option.some.inj hq'] at hq
        exact absurd hun hq

/-! ## AES -/

/-- `EVP_EncryptInit_ex`, `Update` and `Final` on a fresh context. -/
def OpenSSL.encrypt (O : OpenSSL Ctx PKey) (key iv p : Bytes) : Option Bytes :=
  O.ctxNew.bind fun ctx => (O.encryptInit ctx key iv).bind fun ctx =>
    cipher O.encryptUpdate O.encryptFinal ctx p

/-- `EVP_DecryptInit_ex`, `Update` and `Final` on a fresh context. -/
def OpenSSL.decrypt (O : OpenSSL Ctx PKey) (key iv c : Bytes) : Option Bytes :=
  O.ctxNew.bind fun ctx => (O.decryptInit ctx key iv).bind fun ctx =>
    cipher O.decryptUpdate O.decryptFinal ctx c

/-- The length of a CBC ciphertext with PKCS#7 padding. -/
def cbcLength (n : Nat) : Nat := 16 * (n / 16 + 1)

theorem cbcLength_ge (n : Nat) : n ≤ cbcLength n := by
  show n ≤ 16 * (n / 16 + 1)
  omega

/-- AES-256-CBC with PKCS#7 padding: encryption succeeds, its length is known, decryption undoes it. -/
structure OpenSSL.AESLaws (O : OpenSSL Ctx PKey) : Prop where
  encrypt_decrypt : ∀ key iv p, key.length = CDTP_AES_KEY_SIZE → iv.length = IV_LENGTH →
    ∃ c, O.encrypt key iv p = some c ∧ c.length = cbcLength p.length ∧ O.decrypt key iv c = some p

/-- CBC decryption with PKCS#7 padding removes at least one byte. -/
def OpenSSL.DecryptShortens (O : OpenSSL Ctx PKey) : Prop :=
  ∀ key iv c p, O.decrypt key iv c = some p → p.length < c.length

/-- The 16 bytes that go into the frame as its nonce. -/
def nonceOf (r : Nat → UInt8) : Bytes := (List.range CDTP_AES_NONCE_SIZE).map r

@[simp] theorem nonceOf_length (r : Nat → UInt8) : (nonceOf r).length = CDTP_AES_NONCE_SIZE := by
  rw [nonceOf, List.length_map, List.length_range]

/-- The length of nonce and ciphertext. -/
theorem nonceOf_append_length (r : Nat → UInt8) (c : Bytes) :
    (nonceOf r ++ c).length = 16 + c.length := by
  rw [List.length_append, nonceOf_length]
  rfl

theorem take_nonce (r : Nat → UInt8) :
    ((List.range CDTP_AES_KEY_SIZE).map r).take CDTP_AES_NONCE_SIZE = nonceOf r := by
  rw [← List.map_take, List.take_range]
  rfl

theorem aesKeyBytes_full {key : AESKey} (h : key.Full) : aesKeyBytes M key = key.key := by
  rw [aesKeyBytes, peek_of_le (by rw [h.2]; omega), List.drop_zero, List.take_of_length_le]
  rw [h.2]

@[simp] theorem aesKeyBytes_length (key : AESKey) :
    (aesKeyBytes M key).length = CDTP_AES_KEY_SIZE := peek_length _ _ _

/-- The size of a ciphertext fits the buffer allocated for it, because of the pad prefix. -/
theorem cbcLength_padded_le (d : Bytes) :
    cbcLength (padded d).length ≤ (padded d).length + BLOCK_SIZE - 1 := by
  have hmod : (padded d).length % 16 ≠ 0 := padded_length_mod d
  show 16 * ((padded d).length / 16 + 1) ≤ (padded d).length + 16 - 1
  omega

theorem ciphertextRoom_eq {n : Nat} (h : n + BLOCK_SIZE < 2 ^ 31) :
    ciphertextRoom M n = .ok (n + BLOCK_SIZE - 1) := by
  have hint : ((n + BLOCK_SIZE : Nat) : Int) + (-1) = ((n + BLOCK_SIZE - 1 : Nat) : Int) := by
    unfold BLOCK_SIZE
    omega
  have hroom : addInt M ((n + BLOCK_SIZE : Nat) : Int) (-1)
      = .ok ((n + BLOCK_SIZE - 1 : Nat) : Int) := by
    rw [addInt, hint, if_neg (fun hc => hc.2 (by unfold BLOCK_SIZE at *; omega)),
      Int.bmod_eq_of_le (by omega) (by unfold BLOCK_SIZE at *; omega)]
  rw [ciphertextRoom, addInt_ok h, ok_bind, hroom, ok_bind,
    ofInt_natCast (by unfold SIZE_MOD; omega)]
  rfl

theorem padded_length_le (d : Bytes) : (padded d).length ≤ d.length + 2 := by
  rw [padded_length]
  split <;> omega

/-- The longest padded payload whose frame body an `int` can count. -/
theorem padded_length_le_of_lt {p : Bytes} (hp : p.length < 2 ^ 31 - 33) :
    (padded p).length ≤ 2 ^ 31 - 33 := by
  rw [padded_length]
  split <;> omega

/-- The frame body is assembled from the first 16 of the 32 random bytes and the ciphertext. -/
theorem aesAssemble_eq {r : Nat → UInt8} {c : Bytes} (h : CDTP_AES_NONCE_SIZE + c.length < 2 ^ 31) :
    aesAssemble M ((List.range CDTP_AES_KEY_SIZE).map r) c c.length
      = .ok { data := nonceOf r ++ c, dataSize := (nonceOf r ++ c).length } := by
  have htotal : (nonceOf r ++ c).length = CDTP_AES_NONCE_SIZE + c.length := by
    rw [List.length_append, nonceOf_length]
  have hblock : (malloc M (CDTP_AES_NONCE_SIZE + c.length)).length
      = CDTP_AES_NONCE_SIZE + c.length := malloc_length _
  have hbehind : ((malloc M (CDTP_AES_NONCE_SIZE + c.length)).drop CDTP_AES_NONCE_SIZE).length
      = c.length := by
    rw [List.length_drop]
    omega
  have hfirst := @memcpy_behind M [] (malloc M (CDTP_AES_NONCE_SIZE + c.length))
    ((List.range CDTP_AES_KEY_SIZE).map r) 0 CDTP_AES_NONCE_SIZE rfl
    (by rw [List.length_map, List.length_range]; decide) (by omega)
  rw [List.nil_append, List.nil_append, take_nonce] at hfirst
  rw [aesAssemble, addInt_ok h, ok_bind, ofInt_natCast (by unfold SIZE_MOD; omega), hfirst, ok_bind,
    ofInt_natCast (by unfold SIZE_MOD; omega), memcpy_rest (nonceOf_length r).symm hbehind, ok_bind,
    ← htotal, cryptoData_eq]

/-- Data of a size that no sum wraps is encrypted as it is, with room for a byte less than a block more. -/
theorem ciphertextInto_eq {q : Bytes} (h : q.length + BLOCK_SIZE < 2 ^ 31) :
    ciphertextInto M update final ctx q q.length
      = cipherInto M update final ctx q (q.length + BLOCK_SIZE - 1) := by
  have hsize : q.length < SIZE_MOD := by
    unfold SIZE_MOD
    omega
  rw [ciphertextInto, ciphertextRoom_eq h, ok_bind, ofInt_natCast hsize, peek_all]

/-- **AES encryption**: the frame body is the nonce and the ciphertext of the padded payload. -/
theorem cryptoAesEncrypt_eq (hM : M.checked = false) {O : OpenSSL Ctx PKey} {r : Nat → UInt8}
    {key : AESKey} {p c : Bytes} (hp : p.length < 2 ^ 31 - 33)
    (henc : O.encrypt (aesKeyBytes M key) (nonceOf r) (padded p) = some c)
    (hlen : c.length = cbcLength (padded p).length) :
    cryptoAesEncrypt M O (some r) key p p.length
      = .ok (some { data := nonceOf r ++ c, dataSize := (nonceOf r ++ c).length }) := by
  have hbound := padded_length_le_of_lt hp
  have hroom := cbcLength_padded_le p
  have hcbc : cbcLength (padded p).length = 16 * ((padded p).length / 16 + 1) := rfl
  have hblock : BLOCK_SIZE = 16 := rfl
  have hnonce : CDTP_AES_NONCE_SIZE = 16 := rfl
  -- the three OpenSSL calls behind `henc`, in the order in which the function makes them
  obtain ⟨ctx, hctx, h⟩ := Option.bind_eq_some_iff.mp henc
  obtain ⟨ctx', hinit, hcipher⟩ := Option.bind_eq_some_iff.mp h
  have hiv : ((List.range CDTP_AES_KEY_SIZE).map r).take IV_LENGTH = nonceOf r := take_nonce r
  rw [cryptoAesEncrypt, cryptoData_eq, ok_bind, cryptoPadData_eq hM, ok_bind, aesEncryptPadded]
  show (castInt M (padded p).length >>= _) = _
  rw [castInt_ok (by omega), ok_bind, hctx, hiv]
  dsimp only
  rw [hinit]
  dsimp only
  rw [ciphertextInto_eq (by omega), cipherInto_some hcipher (by omega) (by omega), ok_bind]
  show (aesAssemble M _ c (c.length : Int) >>= _) = _
  rw [aesAssemble_eq (by omega)]
  rfl

/-- A decryption whose session has been set up, or not. -/
def decryptWith (M : Machine) (session : Option Ctx) (update : Ctx → Bytes → Option (Bytes × Ctx))
    (final : Ctx → Option Bytes) (input : Bytes) (size : Nat) : Run (Option CryptoData) :=
  match session with
  | none => .ok none
  | some ctx => plaintextFrom M update final ctx input size

theorem decryptWith_eq {session : Option Ctx} {q : Bytes}
    (h : (session.bind fun ctx => cipher update final ctx input) = some q)
    (hsize : q.length ≤ size) (hint : q.length < 2 ^ 31) (hq : Unpaddable q) :
    decryptWith M session update final input size
      = .ok (some { data := unpadded q, dataSize := (unpadded q).length }) := by
  obtain ⟨ctx, rfl, hc⟩ := Option.bind_eq_some_iff.mp h
  exact plaintextFrom_eq hc hsize hint hq

theorem decryptWith_checked (hM : M.checked = true) {session : Option Ctx}
    (hsize : ∀ q, (session.bind fun ctx => cipher update final ctx input) = some q →
      q.length ≤ size)
    (hint : size < 2 ^ 31) {d : CryptoData} :
    decryptWith M session update final input size = .ok (some d) ↔
      ∃ q, (session.bind fun ctx => cipher update final ctx input) = some q ∧ Unpaddable q ∧
        d = { data := unpadded q, dataSize := (unpadded q).length } := by
  cases session with
  | none =>
    constructor
    · intro h
      exact absurd h (by simp [decryptWith])
    · rintro ⟨q, hq, -⟩
      exact absurd hq (by simp)
  | some ctx => exact plaintextFrom_checked hM hsize hint

/-- Behind 16 bytes of nonce, AES decryption is a session on the rest. -/
theorem cryptoAesDecrypt_eq_with {O : OpenSSL Ctx PKey} {key : AESKey} {body : Bytes}
    (h16 : CDTP_AES_NONCE_SIZE ≤ body.length) (hint : body.length < 2 ^ 31) :
    cryptoAesDecrypt M O key body body.length
      = decryptWith M
          (O.ctxNew.bind fun ctx =>
            O.decryptInit ctx (aesKeyBytes M key) (body.take CDTP_AES_NONCE_SIZE))
          O.decryptUpdate O.decryptFinal (body.drop CDTP_AES_NONCE_SIZE)
          (body.length - CDTP_AES_NONCE_SIZE) := by
  have hrest : (body.drop CDTP_AES_NONCE_SIZE).length = body.length - CDTP_AES_NONCE_SIZE :=
    List.length_drop
  have hcopy : memcpy M (malloc M (body.length - CDTP_AES_NONCE_SIZE)) 0 body CDTP_AES_NONCE_SIZE
      (body.length - CDTP_AES_NONCE_SIZE) = .ok (body.drop CDTP_AES_NONCE_SIZE) := by
    rw [memcpy_slice (by omega) (malloc_length _), List.take_of_length_le (by omega)]
  have hpeek : peek M (body.drop CDTP_AES_NONCE_SIZE) 0 (body.length - CDTP_AES_NONCE_SIZE)
      = body.drop CDTP_AES_NONCE_SIZE := by
    rw [← hrest, peek_all]
  rw [cryptoAesDecrypt, memcpy_slice (by omega) (malloc_length _), ok_bind,
    subSize_ok h16 (by unfold SIZE_MOD; omega), ok_bind, hcopy, ok_bind, castInt_ok (by omega),
    ok_bind, ofInt_natCast (by unfold SIZE_MOD; omega), hpeek, List.drop_zero]
  cases O.ctxNew with
  | none => rfl
  | some ctx =>
    dsimp only [Option.bind_some]
    cases O.decryptInit ctx (aesKeyBytes M key) (body.take CDTP_AES_NONCE_SIZE) with
    | none => rfl
    | some ctx => rfl

theorem OpenSSL.decrypt_eq_bind (O : OpenSSL Ctx PKey) (key iv c : Bytes) :
    O.decrypt key iv c = (O.ctxNew.bind fun ctx => O.decryptInit ctx key iv).bind fun ctx =>
      cipher O.decryptUpdate O.decryptFinal ctx c := by
  rw [OpenSSL.decrypt, Option.bind_assoc]

/-- A well-formed body is decrypted, on any machine. -/
theorem cryptoAesDecrypt_eq {O : OpenSSL Ctx PKey} {key : AESKey} {body q : Bytes}
    (h16 : CDTP_AES_NONCE_SIZE ≤ body.length) (hint : body.length < 2 ^ 31)
    (hdec : O.decrypt (aesKeyBytes M key) (body.take CDTP_AES_NONCE_SIZE)
      (body.drop CDTP_AES_NONCE_SIZE) = some q)
    (hsize : q.length ≤ body.length - CDTP_AES_NONCE_SIZE) (hq : Unpaddable q) :
    cryptoAesDecrypt M O key body body.length
      = .ok (some { data := unpadded q, dataSize := (unpadded q).length }) := by
  rw [OpenSSL.decrypt_eq_bind] at hdec
  rw [cryptoAesDecrypt_eq_with h16 hint]
  exact decryptWith_eq hdec hsize (by omega) hq

/-- **AES decryption on a checking machine** returns data iff the body holds a nonce, the cipher
    accepts the rest, and its plaintext can be unpadded. -/
theorem cryptoAesDecrypt_checked (hM : M.checked = true) {O : OpenSSL Ctx PKey} {key : AESKey}
    {body : Bytes} (hint : body.length < 2 ^ 31) (hO : O.DecryptShortens) {d : CryptoData} :
    cryptoAesDecrypt M O key body body.length = .ok (some d) ↔
      CDTP_AES_NONCE_SIZE ≤ body.length ∧
        ∃ q, O.decrypt (aesKeyBytes M key) (body.take CDTP_AES_NONCE_SIZE)
            (body.drop CDTP_AES_NONCE_SIZE) = some q ∧ Unpaddable q ∧
          d = { data := unpadded q, dataSize := (unpadded q).length } := by
  by_cases h16 : CDTP_AES_NONCE_SIZE ≤ body.length
  · have hsize : ∀ q, O.decrypt (aesKeyBytes M key) (body.take CDTP_AES_NONCE_SIZE)
        (body.drop CDTP_AES_NONCE_SIZE) = some q → q.length ≤ body.length - CDTP_AES_NONCE_SIZE := by
      intro q hq
      have hlt := hO _ _ _ _ hq
      rw [List.length_drop] at hlt
      omega
    rw [OpenSSL.decrypt_eq_bind] at hsize ⊢
    rw [cryptoAesDecrypt_eq_with h16 hint, decryptWith_checked hM hsize (by omega)]
    exact ⟨fun h => ⟨h16, h⟩, fun h => h.2⟩
  · constructor
    · intro h
      obtain ⟨nonce, hn, -⟩ := bind_eq_ok_iff.mp h
      have hread := ((memcpy_checked hM).mp hn).1.1
      omega
    · intro h
      exact absurd h.1 h16

/-- Nonce and ciphertext of a padded payload are decrypted to the payload. -/
theorem cryptoAesDecrypt_padded {O : OpenSSL Ctx PKey} {key : AESKey} {r : Nat → UInt8} {p c : Bytes}
    (hp : p.length < 2 ^ 31 - 33) (hlen : c.length = cbcLength (padded p).length)
    (hdec : O.decrypt (aesKeyBytes M key) (nonceOf r) c = some (padded p)) :
    cryptoAesDecrypt M O key (nonceOf r ++ c) (nonceOf r ++ c).length
      = .ok (some { data := p, dataSize := p.length }) := by
  have hpad := padded_length_le_of_lt hp
  have hclen : c.length = 16 * ((padded p).length / 16 + 1) := hlen
  have hnonce : CDTP_AES_NONCE_SIZE = 16 := rfl
  have hbody := nonceOf_append_length r c
  have htake : (nonceOf r ++ c).take CDTP_AES_NONCE_SIZE = nonceOf r :=
    List.take_left' (nonceOf_length r)
  have hdrop : (nonceOf r ++ c).drop CDTP_AES_NONCE_SIZE = c :=
    List.drop_left' (nonceOf_length r)
  rw [cryptoAesDecrypt_eq (by omega) (by omega) (by rw [htake, hdrop]; exact hdec) (by omega)
    (unpaddable_padded p), unpadded_padded]

/-- **The AES round trip**: what one end encrypts on the plain machine, the other decrypts on any. -/
theorem cryptoAesEncrypt_roundtrip {O : OpenSSL Ctx PKey} (hO : O.AESLaws) {key : AESKey}
    (hkey : key.Full) (hM : M.checked = false) (r : Nat → UInt8) {p : Bytes}
    (hp : p.length < 2 ^ 31 - 33) :
    ∃ body : Bytes, cryptoAesEncrypt M O (some r) key p p.length
        = .ok (some { data := body, dataSize := body.length }) ∧
      0 < body.length ∧ body.length < 2 ^ 31 ∧
      ∀ M' : Machine, cryptoAesDecrypt M' O key body body.length
        = .ok (some { data := p, dataSize := p.length }) := by
  obtain ⟨c, henc, hlen, hdec⟩ := hO.encrypt_decrypt key.key (nonceOf r) (padded p) hkey.2
    (nonceOf_length r)
  have hpad := padded_length_le_of_lt hp
  have hbody := nonceOf_append_length r c
  have hclen : c.length = 16 * ((padded p).length / 16 + 1) := hlen
  refine ⟨nonceOf r ++ c, ?_, by omega, by omega, ?_⟩
  · rw [← @aesKeyBytes_full M key hkey] at henc
    exact cryptoAesEncrypt_eq hM hp henc hlen
  · intro M'
    rw [← @aesKeyBytes_full M' key hkey] at hdec
    exact cryptoAesDecrypt_padded hp hlen hdec

end Ciphers

end Cdtp
