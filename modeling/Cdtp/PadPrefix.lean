/-
  What the pad prefix is for.

  Both encryptions allocate `plaintext_len + block_size - 1` bytes for the ciphertext.  CBC with PKCS#7
  padding writes `16 * (m / 16 + 1)` bytes for `m`, so the room is one byte short exactly when 16
  divides `m` — and the pad prefix makes sure that it never does.

  `CBCSession` is what is known of a context that is ready to encrypt.  `CBCSession.fits_padded` runs
  the cipher on padded data on any machine, the checking one too; `CBCSession.tight` is the fault that
  data without the prefix can meet.  From the padding on, neither encryption writes outside a block
  (`aesEncryptPadded_inside`, `rsaEncryptPadded_inside`).
-/
import Cdtp.PlainCipher

namespace Cdtp

open CMem

/-! ## The cipher and its buffer -/

section Cipher

variable {Ctx PKey : Type} {M : Machine} {update : Ctx → Bytes → Option (Bytes × Ctx)}
  {final : Ctx → Option Bytes} {ctx : Ctx}

/-- A context that is ready to encrypt in CBC mode: `Update` writes less than a block more than it reads,
    and together with `Final` it writes the next multiple of the block size. -/
structure CBCSession (update : Ctx → Bytes → Option (Bytes × Ctx)) (final : Ctx → Option Bytes)
    (ctx : Ctx) : Prop where
  update_le : ∀ p chunk ctx', update ctx p = some (chunk, ctx') →
    chunk.length ≤ p.length + BLOCK_SIZE - 1
  output : ∀ p c, cipher update final ctx p = some c → c.length = cbcLength p.length

/-- The encrypting contexts of OpenSSL.  `EVP_SealInit` writes at most `EVP_PKEY_size` bytes of encrypted
    key, and an IV. -/
structure OpenSSL.CBCWrites (O : OpenSSL Ctx PKey) : Prop where
  encrypt : ∀ ctx₀ key iv ctx, O.ctxNew = some ctx₀ → O.encryptInit ctx₀ key iv = some ctx →
    CBCSession O.encryptUpdate O.encryptFinal ctx
  sealed : ∀ ctx₀ key rand ek iv ctx, O.pkeySize key ≠ 0 → O.ctxNew = some ctx₀ →
    O.sealInit ctx₀ key rand = some (ek, iv, ctx) →
    CBCSession O.sealUpdate O.sealFinal ctx ∧ ek.length ≤ O.pkeySize key ∧ iv.length = IV_LENGTH

/-- Output that always fits its buffer is returned whole, and a failure gives NULL. -/
theorem cipherInto_eq {input : Bytes} {size : Nat}
    (hchunk : ∀ chunk ctx', update ctx input = some (chunk, ctx') → chunk.length ≤ size)
    (hout : ∀ c, cipher update final ctx input = some c → c.length ≤ size) (hint : size < 2 ^ 31) :
    cipherInto M update final ctx input size
      = .ok ((cipher update final ctx input).map fun c => (c, (c.length : Int))) := by
  rcases hc : cipher update final ctx input with _ | c
  · rw [cipherInto]
    rw [cipher] at hc
    rcases hu : update ctx input with _ | ⟨chunk, ctx'⟩
    · rfl
    · rw [hu] at hc
      have hfinal : final ctx' = none := Option.map_eq_none_iff.mp hc
      have hroom : 0 + chunk.length ≤ (malloc M size).length := by
        rw [malloc_length, Nat.zero_add]
        exact hchunk chunk ctx' hu
      show (store M (malloc M size) 0 chunk >>= _) = _
      rw [store_ok hroom, ok_bind, hfinal]
      rfl
  · have hfit := hout c hc
    rw [cipherInto_some hc hfit (by omega)]
    rfl

/-- The ciphertext of `q` is written whole, into the `m + block_size - 1` bytes allocated for it. -/
structure CiphertextFits (M : Machine) (update : Ctx → Bytes → Option (Bytes × Ctx))
    (final : Ctx → Option Bytes) (ctx : Ctx) (q : Bytes) : Prop where
  room : ciphertextRoom M q.length = .ok (q.length + BLOCK_SIZE - 1)
  le_room : ∀ c, cipher update final ctx q = some c → c.length ≤ q.length + BLOCK_SIZE - 1
  whole : ciphertextInto M update final ctx q q.length
    = .ok ((cipher update final ctx q).map fun c => (c, (c.length : Int)))

/-- **The ciphertext of padded data fits its buffer to the byte**, on every machine. -/
theorem CBCSession.fits_padded (h : CBCSession update final ctx) (d : Bytes)
    (hint : (padded d).length + 15 < 2 ^ 31) : CiphertextFits M update final ctx (padded d) := by
  have hmod : (padded d).length % 16 ≠ 0 := padded_length_mod d
  have hroom := cbcLength_padded_le d
  have hblock : BLOCK_SIZE = 16 := rfl
  have hle : ∀ c, cipher update final ctx (padded d) = some c →
      c.length ≤ (padded d).length + BLOCK_SIZE - 1 := by
    intro c hc
    rw [h.output _ c hc]
    exact hroom
  -- `m + 15 < 2 ^ 31` leaves room for the `int` sum `m + 16` because 16 does not divide `m`
  refine ⟨ciphertextRoom_eq (by omega), hle, ?_⟩
  rw [ciphertextInto_eq (by omega)]
  exact cipherInto_eq (h.update_le _) hle (by omega)

/-- Data whose length the block size divides is encrypted to one byte more than there is room for, which
    a checking machine notices. -/
theorem CBCSession.tight (h : CBCSession update final ctx) (hM : M.checked = true) {q c : Bytes}
    (hq : q.length % BLOCK_SIZE = 0) (hint : q.length + BLOCK_SIZE < 2 ^ 31)
    (hc : cipher update final ctx q = some c) :
    c.length = q.length + BLOCK_SIZE - 1 + 1 ∧
      ciphertextInto M update final ctx q q.length = .error .writeOutside := by
  have hblock : BLOCK_SIZE = 16 := rfl
  have hcbc : cbcLength q.length = 16 * (q.length / 16 + 1) := rfl
  have hout := h.output q c hc
  have hdiv : q.length % 16 = 0 := hq
  have hlen : c.length = q.length + BLOCK_SIZE - 1 + 1 := by omega
  refine ⟨hlen, ?_⟩
  rw [ciphertextInto_eq hint, cipherInto]
  rw [cipher] at hc
  rcases hu : update ctx q with _ | ⟨chunk, ctx'⟩
  · rw [hu] at hc
    exact absurd hc (by simp)
  · rw [hu] at hc
    obtain ⟨last, hlast, rfl⟩ := Option.map_eq_some_iff.mp hc
    rw [List.length_append] at hlen
    -- the first part fits, the last block does not
    have hchunk := h.update_le q chunk ctx' hu
    show (store M (malloc M _) 0 chunk >>= _) = _
    rw [store_ok (by rw [malloc_length]; omega), ok_bind, hlast]
    show (store M _ chunk.length last >>= _) = _
    rw [store, if_pos ⟨hM, by rw [splice_length, malloc_length]; omega⟩]
    rfl

end Cipher

/-! ## The encryptions from the padding on -/

section Encryptions

variable {Ctx PKey : Type} {M : Machine} {O : OpenSSL Ctx PKey}

/-- The only fault of a sum is that it wraps. -/
theorem addInt_fault {a b : Int} {e : Fault} (h : addInt M a b = .error e) : e = .wraps := by
  rw [addInt] at h
  split at h
  · exact (Except.error.inj h).symm
  · exact absurd h (by simp)

theorem castInt_fault {n : Nat} {e : Fault} (h : castInt M n = .error e) : e = .wraps := by
  rw [castInt] at h
  split at h
  · exact (Except.error.inj h).symm
  · exact absurd h (by simp)

/-- The first fault of a sequence is one of its first part, or one of the rest. -/
theorem fault_of_bind {α β : Type} {x : Run α} {f : α → Run β} {e e' : Fault}
    (h : (x >>= f) = .error e) (hx : ∀ e, x = .error e → e = e')
    (hf : ∀ a, x = .ok a → f a = .error e → e = e') : e = e' := by
  rcases hr : x with e₀ | a
  · rw [hr, error_bind] at h
    obtain rfl := Except.error.inj h
    exact hx _ hr
  · rw [hr, ok_bind] at h
    exact hf a hr h

/-- The assembly of a frame body writes inside its blocks, unless the total overflows before. -/
theorem aesAssemble_fault {r : Nat → UInt8} {c : Bytes} {e : Fault}
    (h : aesAssemble M ((List.range CDTP_AES_KEY_SIZE).map r) c c.length = .error e) :
    e = .wraps := by
  by_cases hint : CDTP_AES_NONCE_SIZE + c.length < 2 ^ 31
  · rw [aesAssemble_eq hint] at h
    exact absurd h (by simp)
  · refine fault_of_bind h (fun e => addInt_fault) ?_
    intro total htotal hrest
    cases hM : M.checked with
    | true => exact absurd ((addInt_checked hM).mp htotal).1 hint
    | false => simp [memcpy, cryptoData, hM] at hrest

theorem rsaAssemble_fault {ek iv c room : Bytes} (hiv : iv.length = IV_LENGTH) {e : Fault}
    (h : rsaAssemble M (ek ++ room) ek.length iv c c.length = .error e) : e = .wraps := by
  by_cases hint : CDTP_LENSIZE + ek.length + IV_LENGTH + c.length < 2 ^ 31
  · rw [rsaAssemble_eq hiv hint] at h
    exact absurd h (by simp)
  · refine fault_of_bind h (fun e => addInt_fault) ?_
    intro keyEnd hkeyEnd h
    refine fault_of_bind h (fun e => addInt_fault) ?_
    intro nonceEnd hnonceEnd h
    refine fault_of_bind h (fun e => addInt_fault) ?_
    intro total htotal h
    cases hM : M.checked with
    | true =>
      -- a checking machine that got here has seen all three sums fit
      obtain ⟨-, rfl⟩ := (addInt_checked hM).mp hkeyEnd
      obtain ⟨-, rfl⟩ := (addInt_checked hM).mp hnonceEnd
      exact absurd ((addInt_checked hM).mp htotal).1 hint
    | false => simp [memcpy, cryptoData, hM] at h

/-- **AES encryption from the padding on** writes inside its blocks. -/
theorem aesEncryptPadded_inside (hO : O.CBCWrites) (r : Nat → UInt8) (key : AESKey) (d : Bytes)
    (hint : (padded d).length + 15 < 2 ^ 31) {e : Fault}
    (h : aesEncryptPadded M O r key { data := padded d, dataSize := (padded d).length }
      = .error e) : e = .wraps := by
  rw [aesEncryptPadded] at h
  dsimp only at h
  rw [castInt_ok (by omega), ok_bind] at h
  rcases hctx : O.ctxNew with _ | ctx₀
  · rw [hctx] at h
    exact absurd h (by simp)
  have hiv : ((List.range CDTP_AES_KEY_SIZE).map r).take IV_LENGTH = nonceOf r := take_nonce r
  rw [hctx, hiv] at h
  dsimp only at h
  rcases hinit : O.encryptInit ctx₀ (aesKeyBytes M key) (nonceOf r) with _ | ctx
  · rw [hinit] at h
    exact absurd h (by simp)
  rw [hinit] at h
  dsimp only at h
  have hfits : CiphertextFits M _ _ ctx (padded d) :=
    (hO.encrypt _ _ _ _ hctx hinit).fits_padded d hint
  rw [hfits.whole, ok_bind] at h
  rcases hc : cipher O.encryptUpdate O.encryptFinal ctx (padded d) with _ | c
  · rw [hc] at h
    exact absurd h (by simp)
  rw [hc] at h
  refine fault_of_bind h (fun e => aesAssemble_fault) ?_
  intro x _ hx
  exact absurd hx (by simp)

/-- **RSA encryption from the padding on** writes inside its blocks. -/
theorem rsaEncryptPadded_inside (hO : O.CBCWrites) (rand : Nat → UInt8) (publicKey : RSAPublicKey)
    (d : Bytes) (hint : (padded d).length + 15 < 2 ^ 31) {e : Fault}
    (h : rsaEncryptPadded M O rand publicKey
      { data := padded d, dataSize := (padded d).length } = .error e) : e = .wraps := by
  rw [rsaEncryptPadded] at h
  dsimp only at h
  rw [castInt_ok (by omega), ok_bind] at h
  refine fault_of_bind h (fun e he => ?_) ?_
  · refine fault_of_bind he (fun e => castInt_fault) ?_
    intro pubLen _ hx
    exact absurd hx (by simp)
  intro evp _ h
  by_cases hsize : O.pkeySize evp = 0
  · rw [if_pos hsize] at h
    exact absurd h (by simp)
  rw [if_neg hsize] at h
  rcases hctx : O.ctxNew with _ | ctx₀
  · rw [hctx] at h
    exact absurd h (by simp)
  rw [hctx] at h
  dsimp only at h
  rcases hinit : O.sealInit ctx₀ evp rand with _ | ⟨ek, iv, ctx⟩
  · rw [hinit] at h
    exact absurd h (by simp)
  rw [hinit] at h
  dsimp only at h
  obtain ⟨hsession, hek, hiv⟩ := hO.sealed _ _ _ _ _ _ hsize hctx hinit
  have hnonce : splice (malloc M IV_LENGTH) 0 iv = iv := splice_all (by rw [malloc_length, hiv])
  have hfits : CiphertextFits M _ _ ctx (padded d) := hsession.fits_padded d hint
  rw [store_ok (by rw [malloc_length]; omega), ok_bind, store_ok (by rw [malloc_length]; omega),
    ok_bind, hnonce, splice_zero (by rw [malloc_length]; exact hek),
    hfits.whole, ok_bind] at h
  rcases hc : cipher O.sealUpdate O.sealFinal ctx (padded d) with _ | c
  · rw [hc] at h
    exact absurd h (by simp)
  rw [hc] at h
  refine fault_of_bind h (fun e => rsaAssemble_fault hiv) ?_
  intro x _ hx
  exact absurd hx (by simp)

end Encryptions

/-! ## The pad prefix, end to end -/

/-- **The pad prefix** is undone exactly, whatever the data begins with; it keeps the padded length off
    the multiples of the block size; and that is what makes the ciphertext fit: every multiple would
    need one byte more. -/
theorem padPrefix_exact {Ctx PKey : Type} {O : OpenSSL Ctx PKey} (hO : O.CBCWrites) (d : Bytes) :
    (padded d = 0 :: d ∨ padded d = 1 :: 255 :: d) ∧
    (∀ M : Machine, M.checked = false → cryptoPadData M { data := d, dataSize := d.length }
      = .ok { data := padded d, dataSize := (padded d).length }) ∧
    ((padded d).length < SIZE_MOD → ∀ M : Machine,
      cryptoUnpadData M { data := padded d, dataSize := (padded d).length }
        = .ok { data := d, dataSize := d.length }) ∧
    ((padded d).length = d.length + 1 ∨ (padded d).length = d.length + 2) ∧
    (padded d).length % BLOCK_SIZE ≠ 0 ∧
    ((padded d).length + 15 < 2 ^ 31 → ∀ M : Machine,
      (∀ ctx₀ key iv ctx, O.ctxNew = some ctx₀ → O.encryptInit ctx₀ key iv = some ctx →
        CiphertextFits M O.encryptUpdate O.encryptFinal ctx (padded d)) ∧
      (∀ ctx₀ key rand ek iv ctx, O.pkeySize key ≠ 0 → O.ctxNew = some ctx₀ →
        O.sealInit ctx₀ key rand = some (ek, iv, ctx) →
        CiphertextFits M O.sealUpdate O.sealFinal ctx (padded d)) ∧
      (∀ r key, aesEncryptPadded M O r key { data := padded d, dataSize := (padded d).length }
        ≠ .error .writeOutside) ∧
      (∀ rand publicKey, rsaEncryptPadded M O rand publicKey
        { data := padded d, dataSize := (padded d).length } ≠ .error .writeOutside)) ∧
    (∀ M : Machine, M.checked = true → ∀ (q c : Bytes) (ctx₀ ctx : Ctx) (key iv : Bytes),
      O.ctxNew = some ctx₀ → O.encryptInit ctx₀ key iv = some ctx → q.length % BLOCK_SIZE = 0 →
      q.length + BLOCK_SIZE < 2 ^ 31 → cipher O.encryptUpdate O.encryptFinal ctx q = some c →
      c.length = q.length + BLOCK_SIZE - 1 + 1 ∧
        ciphertextInto M O.encryptUpdate O.encryptFinal ctx q q.length = .error .writeOutside) := by
  have hshape : padded d = 0 :: d ∨ padded d = 1 :: 255 :: d := by
    unfold padded
    split
    · exact Or.inr rfl
    · exact Or.inl rfl
  refine ⟨hshape, fun M hM => cryptoPadData_eq hM d, ?_, ?_, padded_length_mod d, ?_, ?_⟩
  · intro hsize M
    rw [cryptoUnpadData_eq (unpaddable_padded d) hsize, unpadded_padded]
  · rcases hshape with h | h
    · exact Or.inl (by rw [h, List.length_cons])
    · exact Or.inr (by rw [h, List.length_cons, List.length_cons])
  · intro hint M
    refine ⟨fun ctx₀ key iv ctx hctx hinit => (hO.encrypt _ _ _ _ hctx hinit).fits_padded d hint,
      fun ctx₀ key rand ek iv ctx hsize hctx hinit =>
        (hO.sealed _ _ _ _ _ _ hsize hctx hinit).1.fits_padded d hint, ?_, ?_⟩
    · intro r key h
      exact absurd (aesEncryptPadded_inside hO r key d hint h) (by decide)
    · intro rand publicKey h
      exact absurd (rsaEncryptPadded_inside hO rand publicKey d hint h) (by decide)
  · intro M hM q c ctx₀ ctx key iv hctx hinit hq hint hc
    exact (hO.encrypt _ _ _ _ hctx hinit).tight hM hq hint hc

theorem plainOpenSSL_cbcSession :
    CBCSession (fun ctx p => some (([] : Bytes), ctx ++ p)) (fun ctx => some (pkcs7 ctx)) [] where
  update_le := by
    intro p chunk ctx' h
    obtain ⟨rfl, -⟩ := Prod.mk.inj (Option.some.inj h)
    exact Nat.zero_le _
  output := by
    intro p c h
    obtain rfl : [] ++ pkcs7 ([] ++ p) = c := Option.some.inj h
    rw [List.nil_append, List.nil_append, pkcs7_length]

theorem plainOpenSSL_cbcWrites : plainOpenSSL.CBCWrites where
  encrypt := by
    intro ctx₀ key iv ctx _ h
    obtain rfl : [] = ctx := Option.some.inj h
    exact plainOpenSSL_cbcSession
  sealed := by
    intro ctx₀ key rand ek iv ctx hsize _ h
    obtain ⟨rfl, hrest⟩ := Prod.mk.inj (Option.some.inj h)
    obtain ⟨rfl, rfl⟩ := Prod.mk.inj hrest
    have hkey : key = some () := by
      by_contra hne
      exact hsize (if_neg hne)
    refine ⟨plainOpenSSL_cbcSession, ?_, by rw [List.length_map, List.length_range]⟩
    rw [hkey]
    decide

/-- Fifteen bytes that begin with the long prefix themselves: seventeen after padding. -/
theorem padPrefix_exact_fifteen :
    padded (1 :: 255 :: List.replicate 13 0) = 1 :: 255 :: 1 :: 255 :: List.replicate 13 0 ∧
    (padded (1 :: 255 :: List.replicate 13 0)).length % BLOCK_SIZE ≠ 0 ∧
    (∀ M : Machine, cryptoUnpadData M
        { data := padded (1 :: 255 :: List.replicate 13 0),
          dataSize := (padded (1 :: 255 :: List.replicate 13 0)).length }
      = .ok { data := 1 :: 255 :: List.replicate 13 0, dataSize := 15 }) := by
  obtain ⟨-, -, hunpad, -, hmod, -, -⟩ :=
    padPrefix_exact plainOpenSSL_cbcWrites (1 :: 255 :: List.replicate 13 0)
  exact ⟨by decide, hmod, hunpad (by decide)⟩

end Cdtp
