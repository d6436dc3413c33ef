/-
  The blocks of the cryptography (`crypto.c`) and of the message framing (`util.c`): what each function
  allocates, what it frees, and what it hands to its caller.

  Here a function is only its calls of `malloc`, `realloc` and `free`, in order; the objects that OpenSSL
  allocates (a `BIO`, an `EVP_PKEY`, an `EVP_CIPHER_CTX`) are blocks like any other.  Which of the OpenSSL
  calls succeed is an argument, and each that fails ends the function on the spot.

  `Hands` is the specification they share: the result is the caller's, with all of its blocks, and what
  else the function has allocated it has freed, but for a number of blocks that nobody points to any more.
  A function that succeeds leaves none of these (but for a `BIO`, if it goes on without its key), one that
  fails everything that it had.

  `cryptoBlocks_exact` puts them together: however a program calls these functions and frees what they
  return, and whatever fails in between, its blocks add up.
-/
import Mathlib.Algebra.BigOperators.Group.List.Basic
import Cdtp.Lib.Ownership

namespace Cdtp

open Ownership

/-! ## A structure and its buffer -/

/-- The two blocks of a `CDTPCryptoData`, a `CDTPRSAPublicKey`, a `CDTPRSAPrivateKey` or a `CDTPAESKey`. -/
structure Boxed where
  self : Nat
  data : Nat
  deriving DecidableEq, Repr

def Boxed.blocks (b : Boxed) : Multiset Nat := {b.self} + {b.data}

/-- A structure and its buffer. -/
def allocBoxed : HeapM Boxed := do
  let self ← malloc
  let data ← malloc
  pure { self := self, data := data }

/-- Both freed, the buffer first. -/
def freeBoxed (b : Boxed) : HeapM Unit := frees [b.data, b.self]

/-- The buffer exchanged for a new one. -/
def swapData (b : Boxed) : HeapM Boxed := do
  let data ← malloc
  free b.data
  pure { b with data := data }

/-- `_cdtp_crypto_data`. -/
def heapCryptoData : HeapM Boxed := allocBoxed

/-- `_cdtp_crypto_data_free`. -/
def heapCryptoDataFree (cryptoData : Boxed) : HeapM Unit := freeBoxed cryptoData

/-- `_cdtp_crypto_data_unwrap`: the buffer is the caller's. -/
def heapCryptoDataUnwrap (cryptoData : Boxed) : HeapM Nat := do
  free cryptoData.self
  pure cryptoData.data

/-- `_cdtp_crypto_pad_data`, in both branches. -/
def heapCryptoPadData (cryptoData : Boxed) : HeapM Boxed := swapData cryptoData

/-- `_cdtp_crypto_unpad_data`, in both branches. -/
def heapCryptoUnpadData (cryptoData : Boxed) : HeapM Boxed := swapData cryptoData

/-- `_cdtp_crypto_rsa_public_key_to_bytes`. -/
def heapRsaPublicKeyToBytes : HeapM Boxed := heapCryptoData

/-- `_cdtp_crypto_rsa_private_key_to_bytes`. -/
def heapRsaPrivateKeyToBytes : HeapM Boxed := heapCryptoData

/-- `_cdtp_crypto_rsa_public_key_from_bytes`. -/
def heapRsaPublicKeyFromBytes : HeapM Boxed := allocBoxed

/-- `_cdtp_crypto_rsa_private_key_from_bytes`. -/
def heapRsaPrivateKeyFromBytes : HeapM Boxed := allocBoxed

/-- `_cdtp_crypto_rsa_public_key_free`. -/
def heapRsaPublicKeyFree (publicKey : Boxed) : HeapM Unit := freeBoxed publicKey

/-- `_cdtp_crypto_rsa_private_key_free`. -/
def heapRsaPrivateKeyFree (privateKey : Boxed) : HeapM Unit := freeBoxed privateKey

/-- `_cdtp_crypto_aes_key_from`. -/
def heapAesKeyFrom : HeapM Boxed := allocBoxed

/-- `_cdtp_crypto_aes_key_free`. -/
def heapAesKeyFree (key : Boxed) : HeapM Unit := freeBoxed key

/-- `_cdtp_crypto_aes_key`; the random bytes are on the stack. -/
def heapAesKey (rand : Bool) : HeapM (Option Boxed) :=
  if rand = false then pure none
  else do
    let key ← allocBoxed
    pure (some key)

/-! ## Messages -/

/-- `_cdtp_encode_message_size`. -/
def heapEncodeMessageSize : HeapM Nat := malloc

/-- `_cdtp_construct_message`. -/
def heapConstructMessage : HeapM Nat := do
  let message ← malloc
  let size ← heapEncodeMessageSize
  free size
  pure message

/-! ## OpenSSL keys -/

/-- The two calls of `_cdtp_crypto_openssl_rsa_public_key`, and of the one for a private key. -/
structure KeyCalls where
  newMemBuf : Bool
  readPem : Bool
  deriving DecidableEq, Repr

def KeyCalls.ok (k : KeyCalls) : Bool := k.newMemBuf && k.readPem

/-- A key that cannot be read leaves its `BIO` behind. -/
def KeyCalls.lost (k : KeyCalls) : Nat := if k.newMemBuf && !k.readPem then 1 else 0

/-- Text into a key, by way of a `BIO`. -/
def heapReadKey (k : KeyCalls) : HeapM (Option Nat) :=
  if k.newMemBuf = false then pure none
  else do
    let bio ← malloc
    if k.readPem = false then pure none
    else do
      let key ← malloc
      free bio
      pure (some key)

/-- `_cdtp_crypto_openssl_rsa_public_key`. -/
def heapOpensslRsaPublicKey (k : KeyCalls) : HeapM (Option Nat) := heapReadKey k

/-- `_cdtp_crypto_openssl_rsa_private_key`. -/
def heapOpensslRsaPrivateKey (k : KeyCalls) : HeapM (Option Nat) := heapReadKey k

/-- `EVP_PKEY_free`, of NULL as well: `_cdtp_crypto_openssl_rsa_public_key_free` and its twin. -/
def heapOpensslKeyFree : Option Nat → HeapM Unit
  | none => pure ()
  | some key => free key

/-! ## `_cdtp_crypto_rsa_key_pair` -/

/-- A `CDTPRSAKeyPair` and the keys in it. -/
structure PairBlocks where
  self : Nat
  publicKey : Boxed
  privateKey : Boxed

def PairBlocks.blocks (p : PairBlocks) : Multiset Nat :=
  {p.self} + p.publicKey.blocks + p.privateKey.blocks

/-- Its OpenSSL calls, in order. -/
structure PairCalls where
  gen : Bool
  newPublic : Bool
  writePublic : Bool
  newPrivate : Bool
  writePrivate : Bool
  readPublic : Bool
  readPrivate : Bool
  deriving DecidableEq, Repr

/-- `_cdtp_crypto_rsa_key_pair`. -/
def heapRsaKeyPair (c : PairCalls) : HeapM (Option PairBlocks) :=
  if c.gen = false then pure none
  else do
    let r ← malloc
    if c.newPublic = false then pure none
    else do
      let bpPublic ← malloc
      if c.writePublic = false then pure none
      else if c.newPrivate = false then pure none
      else do
        let bpPrivate ← malloc
        if c.writePrivate = false then pure none
        else do
          let publicKeyBytes ← malloc
          let privateKeyBytes ← malloc
          if c.readPublic = false then pure none
          else if c.readPrivate = false then pure none
          else do
            frees [bpPublic, bpPrivate, r]
            let self ← malloc
            let publicKey ← heapRsaPublicKeyFromBytes
            let privateKey ← heapRsaPrivateKeyFromBytes
            frees [publicKeyBytes, privateKeyBytes]
            pure (some { self := self, publicKey := publicKey, privateKey := privateKey })

/-- `_cdtp_crypto_rsa_key_pair_free`. -/
def heapRsaKeyPairFree (keyPair : PairBlocks) : HeapM Unit := do
  heapRsaPublicKeyFree keyPair.publicKey
  heapRsaPrivateKeyFree keyPair.privateKey
  free keyPair.self

/-! ## The four ciphers -/

/-- The calls that set up a cipher and run it, the same in all four. -/
structure CipherCalls where
  ctxNew : Bool
  init : Bool
  update : Bool
  final : Bool
  deriving DecidableEq, Repr

def CipherCalls.ok (c : CipherCalls) : Bool := c.ctxNew && c.init && c.update && c.final

/-- Where the cipher writes: allocated before `Update`, and cut to size behind `Final`. -/
def heapCipherInto (c : CipherCalls) : HeapM (Option Nat) := do
  let out ← malloc
  if c.update = false then pure none
  else if c.final = false then pure none
  else do
    free out
    let out ← malloc
    pure (some out)

/-- The context, the cipher, and what a function does behind them. -/
def withCipher (c : CipherCalls) (rest : Nat → Nat → HeapM (Option Boxed)) : HeapM (Option Boxed) :=
  if c.ctxNew = false then pure none
  else do
    let ctx ← malloc
    if c.init = false then pure none
    else
      match ← heapCipherInto c with
      | none => pure none
      | some out => rest ctx out

/-- `_cdtp_crypto_aes_encrypt`; `rand` is what `RAND_bytes` returns. -/
def heapAesEncrypt (rand : Bool) (c : CipherCalls) : HeapM (Option Boxed) :=
  if rand = false then pure none
  else do
    let plaintextPadded ← heapCryptoData
    let plaintextPadded ← heapCryptoPadData plaintextPadded
    withCipher c fun ctx ciphertextUnsigned => do
      let ciphertextWithNonceUnsigned ← malloc
      let ciphertextWithNonce ← heapCryptoData
      free ctx
      heapCryptoDataFree plaintextPadded
      frees [ciphertextUnsigned, ciphertextWithNonceUnsigned]
      pure (some ciphertextWithNonce)

/-- `_cdtp_crypto_aes_decrypt`. -/
def heapAesDecrypt (c : CipherCalls) : HeapM (Option Boxed) := do
  let ciphertextData ← malloc
  withCipher c fun ctx plaintextUnsigned => do
    let plaintext ← heapCryptoData
    let plaintext ← heapCryptoUnpadData plaintext
    frees [ctx, ciphertextData, plaintextUnsigned]
    pure (some plaintext)

/-- `_cdtp_crypto_rsa_encrypt`; `sizeOk` says that `EVP_PKEY_size`, of a key that may be NULL, is not
    zero. -/
def heapRsaEncrypt (k : KeyCalls) (sizeOk : Bool) (c : CipherCalls) : HeapM (Option Boxed) := do
  let plaintextPadded ← heapCryptoData
  let plaintextPadded ← heapCryptoPadData plaintextPadded
  let evpPublicKey ← heapOpensslRsaPublicKey k
  let nonce ← malloc
  if sizeOk = false then pure none
  else do
    let encryptedKey ← malloc
    withCipher c fun ctx ciphertextUnsigned => do
      let allUnsigned ← malloc
      let encodedEncryptedKeyLen ← heapEncodeMessageSize
      free ctx
      heapOpensslKeyFree evpPublicKey
      let ciphertext ← heapCryptoData
      heapCryptoDataFree plaintextPadded
      frees [nonce, encryptedKey, ciphertextUnsigned, allUnsigned, encodedEncryptedKeyLen]
      pure (some ciphertext)

/-- `_cdtp_crypto_rsa_decrypt`, which goes on when its key cannot be read. -/
def heapRsaDecrypt (k : KeyCalls) (c : CipherCalls) : HeapM (Option Boxed) := do
  let evpPrivateKey ← heapOpensslRsaPrivateKey k
  let encodedEncryptedKeyLen ← malloc
  let encryptedKey ← malloc
  let nonce ← malloc
  let ciphertextUnsigned ← malloc
  withCipher c fun ctx plaintextUnsigned => do
    let plaintext ← heapCryptoData
    let plaintext ← heapCryptoUnpadData plaintext
    free ctx
    heapOpensslKeyFree evpPrivateKey
    frees [encodedEncryptedKeyLen, encryptedKey, nonce, ciphertextUnsigned, plaintextUnsigned]
    pure (some plaintext)

/-! ## What they hand over -/

/-- The blocks of a result that may be NULL. -/
def given {α : Type} (blocks : α → Multiset Nat) : Option α → Multiset Nat
  | none => 0
  | some a => blocks a

/-- From the blocks `P` to the blocks `R`: the result is added, and `lost` blocks that are no one's. -/
def Hands {α : Type} (blocks : α → Multiset Nat) (lost : Nat) (P : Multiset Nat) (r : Option α)
    (R : Multiset Nat) : Prop :=
  ∃ L, R = given blocks r + L + P ∧ L.card = lost

/-- The blocks that a failure behind `held` others leaves. -/
def CipherCalls.lost (c : CipherCalls) (held : Nat) : Nat :=
  if c.ctxNew = false then held
  else if c.init = false then held + 1
  else if (c.update && c.final) = false then held + 2
  else 0

/-- The blocks that `_cdtp_crypto_rsa_encrypt` leaves. -/
def rsaEncryptLost (k : KeyCalls) (sizeOk : Bool) (c : CipherCalls) : Nat :=
  k.lost + if sizeOk = false then 3 + k.ok.toNat else c.lost (4 + k.ok.toNat)

/-- The blocks that `_cdtp_crypto_rsa_decrypt` leaves. -/
def rsaDecryptLost (k : KeyCalls) (c : CipherCalls) : Nat := k.lost + c.lost (4 + k.ok.toNat)

/-- All seven calls of `_cdtp_crypto_rsa_key_pair`. -/
def PairCalls.ok (c : PairCalls) : Bool :=
  c.gen && c.newPublic && c.writePublic && c.newPrivate && c.writePrivate && c.readPublic &&
    c.readPrivate

/-- The blocks that the first failure leaves. -/
def PairCalls.lost (c : PairCalls) : Nat :=
  if c.gen = false then 0
  else if c.newPublic = false then 1
  else if c.writePublic = false ∨ c.newPrivate = false then 2
  else if c.writePrivate = false then 3
  else if c.readPublic = false ∨ c.readPrivate = false then 5
  else 0

section Triples

variable {P : Multiset Nat} {α : Type} {blocks : α → Multiset Nat} {lost : Nat} {r : Option α}
  {R : Multiset Nat}

theorem Hands.null {H : Multiset Nat} (h : H.card = lost) : Hands blocks lost P none (H + P) :=
  ⟨H, by rw [given, zero_add], h⟩

theorem Hands.some {a : α} : Hands blocks 0 P (some a) (blocks a + P) :=
  ⟨0, by rw [given, add_zero], rfl⟩

/-- What was lost before counts as well. -/
theorem Hands.add {L : Multiset Nat} (h : Hands blocks lost (L + P) r R) :
    Hands blocks (L.card + lost) P r R := by
  obtain ⟨L', rfl, hcard⟩ := h
  refine ⟨L + L', by abel, ?_⟩
  rw [Multiset.card_add, hcard]

theorem allocBoxed_triple : Triple P allocBoxed fun b R => R = b.blocks + P := by
  apply Triple.malloc_then
  intro self
  apply Triple.malloc_then
  intro data
  apply Triple.pure
  rw [Boxed.blocks]
  abel

theorem freeBoxed_triple (b : Boxed) : Triple (b.blocks + P) (freeBoxed b) fun _ R => R = P := by
  have hP : b.blocks + P = ([b.data, b.self] : Multiset Nat) + P := by
    simp only [Boxed.blocks, coe_cons_eq, Multiset.coe_nil]
    abel
  rw [hP]
  exact Triple.frees _

/-- A structure freed with its buffer, and on. -/
theorem freeBoxed_then {β : Type} {b : Boxed} {P' : Multiset Nat} {k : Unit → HeapM β}
    {Q : β → Multiset Nat → Prop} (hP : P' = b.blocks + P) (hk : Triple P (k ()) Q) :
    Triple P' (freeBoxed b >>= k) Q := by
  rw [hP]
  apply (freeBoxed_triple b).bind
  rintro _ R rfl
  exact hk

theorem swapData_triple (b : Boxed) :
    Triple (b.blocks + P) (swapData b) fun b' R => R = b'.blocks + P := by
  apply Triple.malloc_then
  intro data
  apply Triple.free_then (P := {b.self} + {data} + P)
  · rw [Boxed.blocks]
    abel
  · apply Triple.pure
    rw [Boxed.blocks]

theorem heapConstructMessage_triple : Triple P heapConstructMessage fun message R =>
    R = {message} + P := by
  apply Triple.malloc_then
  intro message
  apply Triple.malloc_then
  intro size
  apply Triple.free_then rfl
  exact Triple.pure rfl

/-- **An OpenSSL key**, or NULL and maybe a `BIO`. -/
theorem heapReadKey_triple (k : KeyCalls) : Triple P (heapReadKey k) fun r R =>
    r.isSome = k.ok ∧ Hands (fun b => {b}) k.lost P r R := by
  rw [heapReadKey, KeyCalls.ok, KeyCalls.lost]
  rcases k.newMemBuf with _ | _
  · rw [if_pos rfl]
    apply Triple.pure
    exact ⟨rfl, 0, by rw [given, add_zero, zero_add], rfl⟩
  rw [if_neg (by decide)]
  apply Triple.malloc_then
  intro bio
  rcases k.readPem with _ | _
  · rw [if_pos rfl]
    exact Triple.pure ⟨rfl, Hands.null (Multiset.card_singleton bio)⟩
  · rw [if_neg (by decide)]
    apply Triple.malloc_then
    intro key
    apply Triple.free_then (P := {key} + P) (by abel)
    exact Triple.pure ⟨rfl, Hands.some⟩

theorem heapOpensslKeyFree_triple (key : Option Nat) :
    Triple (given (fun b => {b}) key + P) (heapOpensslKeyFree key) fun _ R => R = P := by
  cases key with
  | none => exact Triple.pure (zero_add P)
  | some key => exact Triple.free

/-- The cipher's output, or one block less. -/
theorem heapCipherInto_triple (c : CipherCalls) : Triple P (heapCipherInto c) fun r R =>
    r.isSome = (c.update && c.final) ∧
      Hands (fun b => {b}) (if (c.update && c.final) = false then 1 else 0) P r R := by
  apply Triple.malloc_then
  intro out
  have hnull : Hands (fun b => {b}) 1 P (none : Option Nat) ({out} + P) :=
    Hands.null (Multiset.card_singleton out)
  rcases c.update with _ | _
  · exact Triple.pure ⟨rfl, hnull⟩
  rcases c.final with _ | _
  · exact Triple.pure ⟨rfl, hnull⟩
  · apply Triple.free_then rfl
    apply Triple.malloc_then
    intro out
    exact Triple.pure ⟨rfl, Hands.some⟩

/-- **The shared part**, in a function that holds the blocks `H`: if a call fails they are all lost, and
    with them the context and the output. -/
theorem withCipher_triple (c : CipherCalls) (H : Multiset Nat)
    {rest : Nat → Nat → HeapM (Option Boxed)}
    (hrest : ∀ ctx out, Triple ({ctx} + {out} + H + P) (rest ctx out) fun r R =>
      ∃ b, r = some b ∧ R = b.blocks + P) :
    Triple (H + P) (withCipher c rest) fun r R =>
      r.isSome = c.ok ∧ Hands Boxed.blocks (c.lost H.card) P r R := by
  rw [withCipher, CipherCalls.ok, CipherCalls.lost]
  rcases c.ctxNew with _ | _
  · exact Triple.pure ⟨rfl, Hands.null rfl⟩
  rw [if_neg (by decide)]
  apply Triple.malloc_then
  intro ctx
  rcases c.init with _ | _
  · refine Triple.pure ⟨rfl, ?_⟩
    rw [← add_assoc, add_comm {ctx} H]
    exact Hands.null (by rw [Multiset.card_add, Multiset.card_singleton]; rfl)
  rw [if_neg (by decide)]
  apply (heapCipherInto_triple c).bind
  rintro out R ⟨hsome, L, rfl, hcard⟩
  have hok : (true && true && c.update && c.final) = (c.update && c.final) := rfl
  rw [hok, ← hsome]
  rw [← hsome] at hcard
  cases out with
  | none =>
    refine Triple.pure ⟨rfl, {ctx} + H + L, ?_, ?_⟩
    · simp only [given, zero_add]
      abel
    · rw [Multiset.card_add, Multiset.card_add, Multiset.card_singleton, hcard]
      show 1 + H.card + 1 = H.card + 2
      omega
  | some out =>
    obtain rfl := Multiset.card_eq_zero.mp hcard
    have hP : given (fun b => {b}) (some out) + 0 + ({ctx} + (H + P)) = {ctx} + {out} + H + P := by
      rw [given, add_zero]
      abel
    rw [hP]
    apply (hrest ctx out).mono
    rintro r R ⟨b, rfl, rfl⟩
    exact ⟨rfl, Hands.some⟩

/-! ### The functions -/

/-- `_cdtp_crypto_aes_key`. -/
theorem heapAesKey_triple (rand : Bool) : Triple P (heapAesKey rand) fun r R =>
    r.isSome = rand ∧ Hands Boxed.blocks 0 P r R := by
  cases rand with
  | false => exact Triple.pure ⟨rfl, 0, by rw [given, add_zero, zero_add], rfl⟩
  | true =>
    apply allocBoxed_triple.bind
    rintro key R rfl
    exact Triple.pure ⟨rfl, Hands.some⟩

/-- `_cdtp_crypto_aes_encrypt`. -/
theorem heapAesEncrypt_triple (rand : Bool) (c : CipherCalls) :
    Triple P (heapAesEncrypt rand c) fun r R => r.isSome = (rand && c.ok) ∧
      Hands Boxed.blocks (if rand then c.lost 2 else 0) P r R := by
  cases rand with
  | false => exact Triple.pure ⟨rfl, 0, by rw [given, add_zero, zero_add], rfl⟩
  | true =>
    apply allocBoxed_triple.bind
    rintro plaintext R rfl
    apply (swapData_triple plaintext).bind
    rintro padded R rfl
    have hcard : padded.blocks.card = 2 := rfl
    rw [← hcard]
    apply withCipher_triple c padded.blocks
    intro ctx out
    apply Triple.malloc_then
    intro withNonceUnsigned
    apply allocBoxed_triple.bind
    rintro withNonce R rfl
    apply Triple.free_then
      (P := padded.blocks + (withNonce.blocks + ({withNonceUnsigned} + ({out} + P)))) (by abel)
    apply freeBoxed_then rfl
    apply Triple.frees_then (P := withNonce.blocks + P)
    · simp only [coe_cons_eq, Multiset.coe_nil]
      abel
    · exact Triple.pure ⟨withNonce, rfl, rfl⟩

/-- `_cdtp_crypto_aes_decrypt`. -/
theorem heapAesDecrypt_triple (c : CipherCalls) : Triple P (heapAesDecrypt c) fun r R =>
    r.isSome = c.ok ∧ Hands Boxed.blocks (c.lost 1) P r R := by
  apply Triple.malloc_then
  intro ciphertextData
  apply withCipher_triple c {ciphertextData}
  intro ctx out
  apply allocBoxed_triple.bind
  rintro plaintext R rfl
  apply (swapData_triple plaintext).bind
  rintro plaintext R rfl
  apply Triple.frees_then (P := plaintext.blocks + P)
  · simp only [coe_cons_eq, Multiset.coe_nil]
    abel
  · exact Triple.pure ⟨plaintext, rfl, rfl⟩

theorem card_given {k : KeyCalls} {key : Option Nat} (h : key.isSome = k.ok) :
    (given (fun b => ({b} : Multiset Nat)) key).card = k.ok.toNat := by
  rw [← h]
  cases key with
  | none => rfl
  | some key => rfl

/-- `_cdtp_crypto_rsa_encrypt`. -/
theorem heapRsaEncrypt_triple (k : KeyCalls) (sizeOk : Bool) (c : CipherCalls) :
    Triple P (heapRsaEncrypt k sizeOk c) fun r R => r.isSome = (sizeOk && c.ok) ∧
      Hands Boxed.blocks (rsaEncryptLost k sizeOk c) P r R := by
  apply allocBoxed_triple.bind
  rintro plaintext R rfl
  apply (swapData_triple plaintext).bind
  rintro padded R rfl
  apply (heapReadKey_triple k).bind
  rintro evpPublicKey R ⟨hsome, L, rfl, hcard⟩
  apply Triple.malloc_then
  intro nonce
  have hkey := card_given hsome
  rw [rsaEncryptLost, ← hcard]
  cases sizeOk with
  | false =>
    rw [if_pos rfl, if_pos rfl]
    refine Triple.pure ⟨rfl, L + ({nonce} + given (fun b => {b}) evpPublicKey + padded.blocks), ?_, ?_⟩
    · simp only [given]
      abel
    · simp only [Multiset.card_add, hkey, Multiset.card_singleton, Boxed.blocks]
      omega
  | true =>
    rw [if_neg (by decide), if_neg (by decide)]
    apply Triple.malloc_then
    intro encryptedKey
    have hheld : {encryptedKey} + ({nonce} + (given (fun b => {b}) evpPublicKey + L +
        (padded.blocks + P)))
        = ({encryptedKey} + {nonce} + padded.blocks + given (fun b => {b}) evpPublicKey) + (L + P) := by
      abel
    have hcount : ({encryptedKey} + {nonce} + padded.blocks +
        given (fun b => ({b} : Multiset Nat)) evpPublicKey).card = 4 + k.ok.toNat := by
      rw [Multiset.card_add, hkey]
      rfl
    rw [hheld, ← hcount]
    apply (withCipher_triple c _ ?_).mono
    · rintro r R ⟨hok, hhands⟩
      exact ⟨hok, hhands.add⟩
    · intro ctx out
      apply Triple.malloc_then
      intro allUnsigned
      apply Triple.malloc_then
      intro encodedLen
      apply Triple.free_then (P := given (fun b => {b}) evpPublicKey + ({encodedLen} + {allUnsigned} +
        {out} + {encryptedKey} + {nonce} + padded.blocks + (L + P))) (by abel)
      apply (heapOpensslKeyFree_triple evpPublicKey).bind
      rintro _ R rfl
      apply allocBoxed_triple.bind
      rintro ciphertext R rfl
      apply freeBoxed_then (P := {encodedLen} + {allUnsigned} + {out} + {encryptedKey} + {nonce} +
        ciphertext.blocks + (L + P)) (by abel)
      apply Triple.frees_then (P := ciphertext.blocks + (L + P))
      · simp only [coe_cons_eq, Multiset.coe_nil]
        abel
      · exact Triple.pure ⟨ciphertext, rfl, rfl⟩

/-- `_cdtp_crypto_rsa_decrypt`; a `BIO` may be lost even if it succeeds. -/
theorem heapRsaDecrypt_triple (k : KeyCalls) (c : CipherCalls) :
    Triple P (heapRsaDecrypt k c) fun r R => r.isSome = c.ok ∧
      Hands Boxed.blocks (rsaDecryptLost k c) P r R := by
  apply (heapReadKey_triple k).bind
  rintro evpPrivateKey R ⟨hsome, L, rfl, hcard⟩
  apply Triple.malloc_then
  intro encodedLen
  apply Triple.malloc_then
  intro encryptedKey
  apply Triple.malloc_then
  intro nonce
  apply Triple.malloc_then
  intro ciphertextUnsigned
  have hheld : {ciphertextUnsigned} + ({nonce} + ({encryptedKey} + ({encodedLen} +
      (given (fun b => {b}) evpPrivateKey + L + P))))
      = ({encodedLen} + {encryptedKey} + {nonce} + {ciphertextUnsigned} +
          given (fun b => {b}) evpPrivateKey) + (L + P) := by
    abel
  have hcount : ({encodedLen} + {encryptedKey} + {nonce} + {ciphertextUnsigned} +
      given (fun b => ({b} : Multiset Nat)) evpPrivateKey).card = 4 + k.ok.toNat := by
    rw [Multiset.card_add, card_given hsome]
    rfl
  rw [hheld, rsaDecryptLost, ← hcount, ← hcard]
  apply (withCipher_triple c _ ?_).mono
  · rintro r R ⟨hok, hhands⟩
    exact ⟨hok, hhands.add⟩
  · intro ctx out
    apply allocBoxed_triple.bind
    rintro plaintext R rfl
    apply (swapData_triple plaintext).bind
    rintro plaintext R rfl
    apply Triple.free_then (P := given (fun b => {b}) evpPrivateKey + ({encodedLen} + {encryptedKey} +
      {nonce} + {ciphertextUnsigned} + {out} + (plaintext.blocks + (L + P)))) (by abel)
    apply (heapOpensslKeyFree_triple evpPrivateKey).bind
    rintro _ R rfl
    apply Triple.frees_then (P := plaintext.blocks + (L + P))
    · simp only [coe_cons_eq, Multiset.coe_nil]
      abel
    · exact Triple.pure ⟨plaintext, rfl, rfl⟩

/-- `_cdtp_crypto_rsa_key_pair`. -/
theorem heapRsaKeyPair_triple (c : PairCalls) : Triple P (heapRsaKeyPair c) fun r R =>
    r.isSome = c.ok ∧ Hands PairBlocks.blocks c.lost P r R := by
  obtain ⟨gen, newPublic, writePublic, newPrivate, writePrivate, readPublic, readPrivate⟩ := c
  cases gen with
  | false => exact Triple.pure ⟨rfl, 0, by rw [given, add_zero, zero_add], rfl⟩
  | true =>
  apply Triple.malloc_then
  intro r
  cases newPublic with
  | false => exact Triple.pure ⟨rfl, Hands.null (Multiset.card_singleton r)⟩
  | true =>
  apply Triple.malloc_then
  intro bpPublic
  have hpublic : Hands PairBlocks.blocks 2 P none ({bpPublic} + ({r} + P)) := by
    rw [← add_assoc]
    exact Hands.null rfl
  cases writePublic with
  | false => exact Triple.pure ⟨rfl, hpublic⟩
  | true =>
  cases newPrivate with
  | false => exact Triple.pure ⟨rfl, hpublic⟩
  | true =>
  apply Triple.malloc_then
  intro bpPrivate
  cases writePrivate with
  | false =>
    refine Triple.pure ⟨rfl, {bpPrivate} + {bpPublic} + {r}, ?_, rfl⟩
    simp only [given]
    abel
  | true =>
  apply Triple.malloc_then
  intro publicKeyBytes
  apply Triple.malloc_then
  intro privateKeyBytes
  have hread : Hands PairBlocks.blocks 5 P none
      ({privateKeyBytes} + ({publicKeyBytes} + ({bpPrivate} + ({bpPublic} + ({r} + P))))) := by
    refine ⟨{privateKeyBytes} + {publicKeyBytes} + {bpPrivate} + {bpPublic} + {r}, ?_, rfl⟩
    simp only [given]
    abel
  cases readPublic with
  | false => exact Triple.pure ⟨rfl, hread⟩
  | true =>
  cases readPrivate with
  | false => exact Triple.pure ⟨rfl, hread⟩
  | true =>
  apply Triple.frees_then (P := {privateKeyBytes} + {publicKeyBytes} + P)
  · simp only [coe_cons_eq, Multiset.coe_nil]
    abel
  apply Triple.malloc_then
  intro self
  apply allocBoxed_triple.bind
  rintro publicKey R rfl
  apply allocBoxed_triple.bind
  rintro privateKey R rfl
  apply Triple.frees_then (P := {self} + publicKey.blocks + privateKey.blocks + P)
  · simp only [coe_cons_eq, Multiset.coe_nil]
    abel
  · exact Triple.pure ⟨rfl, Hands.some⟩

/-- `_cdtp_crypto_rsa_key_pair_free`. -/
theorem heapRsaKeyPairFree_triple (keyPair : PairBlocks) :
    Triple (keyPair.blocks + P) (heapRsaKeyPairFree keyPair) fun _ R => R = P := by
  apply freeBoxed_then (P := keyPair.privateKey.blocks + ({keyPair.self} + P))
  · rw [PairBlocks.blocks]
    abel
  apply freeBoxed_then rfl
  exact Triple.free

end Triples

/-! ## Calls of the cryptography -/

/-- The functions that put a copy of what they are given into a new structure, and cannot fail. -/
inductive CopyCall where
  | cryptoData
  | rsaPublicKeyToBytes
  | rsaPrivateKeyToBytes
  | rsaPublicKeyFromBytes
  | rsaPrivateKeyFromBytes
  | aesKeyFrom
  deriving DecidableEq, Repr

def CopyCall.heap : CopyCall → HeapM Boxed
  | .cryptoData => heapCryptoData
  | .rsaPublicKeyToBytes => heapRsaPublicKeyToBytes
  | .rsaPrivateKeyToBytes => heapRsaPrivateKeyToBytes
  | .rsaPublicKeyFromBytes => heapRsaPublicKeyFromBytes
  | .rsaPrivateKeyFromBytes => heapRsaPrivateKeyFromBytes
  | .aesKeyFrom => heapAesKeyFrom

/-- A call of a function of `crypto.c` or of the message framing, or the freeing of a result.  `unwrap` and
    `release` name theirs by its place among those that are held. -/
inductive CryptoCall where
  | copy (f : CopyCall)
  | unwrap (k : Nat)
  | encodeMessageSize
  | constructMessage
  | rsaKeyPair (c : PairCalls)
  | aesKey (rand : Bool)
  | rsaEncrypt (k : KeyCalls) (sizeOk : Bool) (c : CipherCalls)
  | rsaDecrypt (k : KeyCalls) (c : CipherCalls)
  | aesEncrypt (rand : Bool) (c : CipherCalls)
  | aesDecrypt (c : CipherCalls)
  | release (k : Nat)

/-- A result that the caller has: a key pair, a structure with its buffer, or a buffer alone. -/
inductive CryptoResult where
  | pair (p : PairBlocks)
  | boxed (b : Boxed)
  | buffer (data : Nat)

def CryptoResult.blocks : CryptoResult → Multiset Nat
  | .pair p => p.blocks
  | .boxed b => b.blocks
  | .buffer data => {data}

/-- How many blocks it has. -/
def CryptoResult.size : CryptoResult → Nat
  | .pair _ => 5
  | .boxed _ => 2
  | .buffer _ => 1

/-- `_cdtp_crypto_rsa_key_pair_free`; `_cdtp_crypto_aes_key_free`, `_cdtp_crypto_data_free` and the two for
    an RSA key; and `free` of what was unwrapped, or of a message. -/
def heapResultFree : CryptoResult → HeapM Unit
  | .pair p => heapRsaKeyPairFree p
  | .boxed b => freeBoxed b
  | .buffer data => free data

/-- The call returns, and does not return NULL. -/
def CryptoCall.ok : CryptoCall → Bool
  | .copy _ | .unwrap _ | .encodeMessageSize | .constructMessage => true
  | .rsaKeyPair c => c.ok
  | .aesKey rand => rand
  | .rsaEncrypt _ sizeOk c => sizeOk && c.ok
  | .rsaDecrypt _ c => c.ok
  | .aesEncrypt rand c => rand && c.ok
  | .aesDecrypt c => c.ok
  | .release _ => true

def CryptoCall.lost : CryptoCall → Nat
  | .copy _ | .unwrap _ | .encodeMessageSize | .constructMessage => 0
  | .rsaKeyPair c => c.lost
  | .aesKey _ => 0
  | .rsaEncrypt k sizeOk c => rsaEncryptLost k sizeOk c
  | .rsaDecrypt k c => rsaDecryptLost k c
  | .aesEncrypt rand c => if rand then c.lost 2 else 0
  | .aesDecrypt c => c.lost 1
  | .release _ => 0

/-- A function whose result the caller keeps. -/
def heapKeep {α : Type} (result : α → CryptoResult) (held : List CryptoResult) (m : HeapM (Option α)) :
    HeapM (Bool × List CryptoResult) := do
  match ← m with
  | none => pure (false, held)
  | some a => pure (true, held ++ [result a])

/-- The same of a function that cannot fail. -/
def heapKeepNew {α : Type} (result : α → CryptoResult) (held : List CryptoResult) (m : HeapM α) :
    HeapM (Bool × List CryptoResult) := do
  let a ← m
  pure (true, held ++ [result a])

/-- One call. -/
def heapCryptoStep (held : List CryptoResult) : CryptoCall → HeapM (Bool × List CryptoResult)
  | .copy f => heapKeepNew .boxed held f.heap
  | .unwrap k =>
    match held[k]? with
    | some (.boxed cryptoData) => heapKeepNew .buffer (held.eraseIdx k) (heapCryptoDataUnwrap cryptoData)
    | _ => pure (true, held)
  | .encodeMessageSize => heapKeepNew .buffer held heapEncodeMessageSize
  | .constructMessage => heapKeepNew .buffer held heapConstructMessage
  | .rsaKeyPair c => heapKeep .pair held (heapRsaKeyPair c)
  | .aesKey rand => heapKeep .boxed held (heapAesKey rand)
  | .rsaEncrypt k sizeOk c => heapKeep .boxed held (heapRsaEncrypt k sizeOk c)
  | .rsaDecrypt k c => heapKeep .boxed held (heapRsaDecrypt k c)
  | .aesEncrypt rand c => heapKeep .boxed held (heapAesEncrypt rand c)
  | .aesDecrypt c => heapKeep .boxed held (heapAesDecrypt c)
  | .release k =>
    match held[k]? with
    | none => pure (true, held)
    | some r => do
      heapResultFree r
      pure (true, held.eraseIdx k)

section Calls

variable {P : Multiset Nat} {held : List CryptoResult}

/-- The blocks of all results. -/
def heldBlocks (held : List CryptoResult) : Multiset Nat := (held.map CryptoResult.blocks).sum

theorem card_heldBlocks (held : List CryptoResult) :
    (heldBlocks held).card = (held.map CryptoResult.size).sum := by
  induction held with
  | nil => rfl
  | cons r held ih =>
    have hsize : r.blocks.card = r.size := by
      cases r with
      | pair p => rfl
      | boxed b => rfl
      | buffer data => rfl
    rw [heldBlocks, List.map_cons, List.sum_cons, Multiset.card_add, hsize, List.map_cons,
      List.sum_cons, ← ih]
    rfl

theorem heldBlocks_append (held : List CryptoResult) (r : CryptoResult) :
    heldBlocks (held ++ [r]) = heldBlocks held + r.blocks := by
  rw [heldBlocks, heldBlocks, List.map_append, List.sum_append, List.map_cons, List.map_nil,
    List.sum_cons, List.sum_nil, add_zero]

/-- One result is taken out. -/
theorem heldBlocks_eraseIdx {k : Nat} {r : CryptoResult} (hget : held[k]? = some r) :
    heldBlocks held = r.blocks + heldBlocks (held.eraseIdx k) := by
  obtain ⟨hk, rfl⟩ := List.getElem?_eq_some_iff.mp hget
  have hperm := ((List.getElem_cons_eraseIdx_perm hk).map CryptoResult.blocks).sum_eq
  rw [List.map_cons, List.sum_cons] at hperm
  exact hperm.symm

/-- A call has answered `ok`, its result is among those held, and `lost` blocks are lost. -/
def Answered (ok : Bool) (lost : Nat) (P : Multiset Nat) (r : Bool × List CryptoResult)
    (R : Multiset Nat) : Prop :=
  r.1 = ok ∧ ∃ L, R = heldBlocks r.2 + L + P ∧ L.card = lost

/-- **A result is kept** with all its blocks. -/
theorem heapKeep_triple {α : Type} {result : α → CryptoResult} {m : HeapM (Option α)} {ok : Bool}
    {lost : Nat} (h : Triple (heldBlocks held + P) m fun r R => r.isSome = ok ∧
      Hands (fun a => (result a).blocks) lost (heldBlocks held + P) r R) :
    Triple (heldBlocks held + P) (heapKeep result held m) (Answered ok lost P) := by
  apply h.bind
  rintro r R ⟨rfl, L, rfl, hcard⟩
  cases r with
  | none =>
    refine Triple.pure ⟨rfl, L, ?_, hcard⟩
    rw [given]
    abel
  | some a =>
    refine Triple.pure ⟨rfl, L, ?_, hcard⟩
    rw [given, heldBlocks_append]
    abel

theorem heapKeepNew_triple {α : Type} {result : α → CryptoResult} {m : HeapM α}
    {P' : Multiset Nat} (h : Triple P' m fun a R => R = (result a).blocks + (heldBlocks held + P)) :
    Triple P' (heapKeepNew result held m) (Answered true 0 P) := by
  apply h.bind
  rintro a R rfl
  refine Triple.pure ⟨rfl, 0, ?_, rfl⟩
  rw [heldBlocks_append, add_zero]
  abel

/-- Nothing is done. -/
theorem answered_same : Triple (heldBlocks held + P) (pure (true, held)) (Answered true 0 P) :=
  Triple.pure ⟨rfl, 0, by rw [add_zero], rfl⟩

theorem CopyCall.triple (f : CopyCall) : Triple P f.heap fun b R => R = b.blocks + P := by
  cases f <;> exact allocBoxed_triple

/-- `_cdtp_crypto_data_unwrap`: of the two blocks the buffer stays. -/
theorem heapCryptoDataUnwrap_triple (b : Boxed) :
    Triple (b.blocks + P) (heapCryptoDataUnwrap b) fun data R => R = {data} + P := by
  rw [Boxed.blocks, add_assoc]
  apply Triple.free_then rfl
  exact Triple.pure rfl

theorem heapResultFree_triple (r : CryptoResult) :
    Triple (r.blocks + P) (heapResultFree r) fun _ R => R = P := by
  cases r with
  | pair p => exact heapRsaKeyPairFree_triple p
  | boxed b => exact freeBoxed_triple b
  | buffer data => exact Triple.free

/-- **Every call**, whatever fails in it. -/
theorem heapCryptoStep_triple (call : CryptoCall) :
    Triple (heldBlocks held + P) (heapCryptoStep held call) (Answered call.ok call.lost P) := by
  cases call with
  | copy f => exact heapKeepNew_triple f.triple
  | unwrap k =>
    rw [heapCryptoStep]
    rcases hget : held[k]? with _ | r
    · exact answered_same
    cases r with
    | pair p => exact answered_same
    | buffer data => exact answered_same
    | boxed b =>
      rw [heldBlocks_eraseIdx hget, add_assoc]
      exact heapKeepNew_triple (heapCryptoDataUnwrap_triple b)
  | encodeMessageSize => exact heapKeepNew_triple Triple.malloc
  | constructMessage => exact heapKeepNew_triple heapConstructMessage_triple
  | rsaKeyPair c => exact heapKeep_triple (heapRsaKeyPair_triple c)
  | aesKey rand => exact heapKeep_triple (heapAesKey_triple rand)
  | rsaEncrypt k sizeOk c => exact heapKeep_triple (heapRsaEncrypt_triple k sizeOk c)
  | rsaDecrypt k c => exact heapKeep_triple (heapRsaDecrypt_triple k c)
  | aesEncrypt rand c => exact heapKeep_triple (heapAesEncrypt_triple rand c)
  | aesDecrypt c => exact heapKeep_triple (heapAesDecrypt_triple c)
  | release k =>
    rw [heapCryptoStep]
    rcases hget : held[k]? with _ | r
    · exact answered_same
    rw [heldBlocks_eraseIdx hget, add_assoc]
    apply (heapResultFree_triple r).bind
    rintro _ R rfl
    exact answered_same

/-- **The blocks of the cryptography, exactly.**  In every sequence of calls, whichever OpenSSL calls fail
    in them and whichever results are freed in between, nothing is freed twice or without having been
    allocated; a call answers NULL iff one of those it depends on failed; and at the end there are the
    blocks of the results that are still held, and those that failed calls have lost. -/
theorem cryptoBlocks_exact (calls : List CryptoCall) :
    ∃ os held h, answers heapCryptoStep [] calls Heap.empty = some ((os, held), h) ∧
      os = calls.map CryptoCall.ok ∧
      h.live.length = (held.map CryptoResult.size).sum + (calls.map CryptoCall.lost).sum := by
  have hrun := @Triple.answers (List CryptoResult) CryptoCall Bool heapCryptoStep
    (fun held past os P => os = past.map CryptoCall.ok ∧
      ∃ L, P = heldBlocks held + L ∧ L.card = (past.map CryptoCall.lost).sum) (by
      rintro held past os P call ⟨rfl, L, rfl, hcard⟩
      apply (heapCryptoStep_triple call).mono
      rintro r R ⟨hok, L', rfl, hcard'⟩
      refine ⟨by rw [List.map_append, hok]; rfl, L' + L, add_assoc _ _ _, ?_⟩
      rw [Multiset.card_add, hcard, hcard', List.map_append, List.sum_append, List.map_cons,
        List.map_nil, List.sum_cons, List.sum_nil]
      omega) calls [] [] [] 0 ⟨rfl, 0, rfl, rfl⟩
  obtain ⟨⟨os, held⟩, h, hreturns, hos, L, hlive, hcard⟩ := hrun.run
  refine ⟨os, held, h, hreturns, hos, ?_⟩
  have hcount := congrArg Multiset.card hlive
  rw [Multiset.coe_card, Multiset.card_add, card_heldBlocks, hcard] at hcount
  exact hcount

end Calls

end Cdtp
