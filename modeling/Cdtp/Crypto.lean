/-
  The cryptography of the library (`crypto.c`): AES-256-CBC for the messages, an RSA envelope for the
  key exchange, and the pad prefix under both.

  OpenSSL is not part of the repository, so its calls are the parameter `OpenSSL`, one field a call; what
  is known about them is stated where it is used.  The functions of `crypto.c` are modelled statement by
  statement over the memory of `CMem`: every size computation that can wrap, every narrowing to `int` and
  every copy is made by the operation that a checking machine watches.  `Run (Option α)` is the result of
  a function that may return NULL; `none` is that NULL.

  Random bytes are arguments: `RAND_bytes` fills a buffer from a function, or fails.
-/
import Cdtp.Wire

namespace Cdtp

open CMem

/-- The size of an AES key, in bytes. -/
def CDTP_AES_KEY_SIZE : Nat := 32

/-- The size of an AES nonce, in bytes. -/
def CDTP_AES_NONCE_SIZE : Nat := 16

/-- `EVP_CIPHER_iv_length(EVP_aes_256_cbc())`. -/
def IV_LENGTH : Nat := 16

/-- `EVP_CIPHER_CTX_block_size(ctx)` for AES-256-CBC. -/
def BLOCK_SIZE : Nat := 16

/-! ## OpenSSL -/

/-- The OpenSSL calls of `crypto.c`; `none` is the failure that the code tests for.  A `Ctx` is an
    `EVP_CIPHER_CTX` and whatever it remembers, a `PKey` an `EVP_PKEY`; pointers to one may be NULL. -/
structure OpenSSL (Ctx PKey : Type) where
  writePubkey : PKey → Option Bytes
  writePrivateKey : PKey → Option Bytes
  readPubkey : Bytes → Option PKey
  readPrivateKey : Bytes → Option PKey
  pkeySize : Option PKey → Nat
  ctxNew : Option Ctx
  encryptInit : Ctx → Bytes → Bytes → Option Ctx
  encryptUpdate : Ctx → Bytes → Option (Bytes × Ctx)
  encryptFinal : Ctx → Option Bytes
  decryptInit : Ctx → Bytes → Bytes → Option Ctx
  decryptUpdate : Ctx → Bytes → Option (Bytes × Ctx)
  decryptFinal : Ctx → Option Bytes
  /-- Makes a key and an IV from random bytes; returns the encrypted key and the IV. -/
  sealInit : Ctx → Option PKey → (Nat → UInt8) → Option (Bytes × Bytes × Ctx)
  sealUpdate : Ctx → Bytes → Option (Bytes × Ctx)
  sealFinal : Ctx → Option Bytes
  openInit : Ctx → Bytes → Bytes → Option PKey → Option Ctx
  openUpdate : Ctx → Bytes → Option (Bytes × Ctx)
  openFinal : Ctx → Option Bytes

/-- What an `Update` and a `Final` call write together. -/
def cipher {Ctx : Type} (update : Ctx → Bytes → Option (Bytes × Ctx)) (final : Ctx → Option Bytes)
    (ctx : Ctx) (input : Bytes) : Option Bytes :=
  match update ctx input with
  | none => none
  | some (chunk, ctx) => (final ctx).map fun last => chunk ++ last

/-! ## Data and padding -/

/-- A piece of crypto data. -/
structure CryptoData where
  data : Bytes
  dataSize : Nat
  deriving DecidableEq, Repr

structure RSAPublicKey where
  key : Bytes
  keySize : Nat
  deriving DecidableEq, Repr

structure RSAPrivateKey where
  key : Bytes
  keySize : Nat
  deriving DecidableEq, Repr

structure RSAKeyPair where
  publicKey : RSAPublicKey
  privateKey : RSAPrivateKey
  deriving DecidableEq, Repr

structure AESKey where
  key : Bytes
  keySize : Nat
  deriving DecidableEq, Repr

/-- `_cdtp_crypto_data`. -/
def cryptoData (M : Machine) (data : Bytes) (dataSize : Nat) : Run CryptoData := do
  let copy ← memcpy M (malloc M dataSize) 0 data 0 dataSize
  pure { data := copy, dataSize := dataSize }

/-- `_cdtp_crypto_pad_data`. -/
def cryptoPadData (M : Machine) (cryptoData : CryptoData) : Run CryptoData :=
  if (cryptoData.dataSize + 1) % 16 = 0 then do
    let paddedData ← store M (malloc M (cryptoData.dataSize + 2)) 0 [1, 255]
    -- the count is the size of the destination, two more than source and room hold
    let paddedData ← memcpy M paddedData 2 cryptoData.data 0 (cryptoData.dataSize + 2)
    pure { data := paddedData, dataSize := cryptoData.dataSize + 2 }
  else do
    let paddedData ← store M (malloc M (cryptoData.dataSize + 1)) 0 [0]
    let paddedData ← memcpy M paddedData 1 cryptoData.data 0 (cryptoData.dataSize + 1)
    pure { data := paddedData, dataSize := cryptoData.dataSize + 1 }

/-- Drop `n` bytes from the front, the body of both branches of `_cdtp_crypto_unpad_data`. -/
def dropFront (M : Machine) (cryptoData : CryptoData) (n : Nat) : Run CryptoData := do
  let rest ← subSize M cryptoData.dataSize n
  let unpaddedData ← memcpy M (malloc M rest) 0 cryptoData.data n rest
  pure { data := unpaddedData, dataSize := rest }

/-- `_cdtp_crypto_unpad_data`. -/
def cryptoUnpadData (M : Machine) (cryptoData : CryptoData) : Run CryptoData := do
  let marker ← readByte M cryptoData.data 0
  if marker = 1 then dropFront M cryptoData 2 else dropFront M cryptoData 1

/-! ## The shared parts of the four ciphers -/

section Ciphers

variable {Ctx PKey : Type}

/-- The `Update`/`Final` pair as all four functions run it: into a buffer of `size` bytes, which is then
    cut to what was written.  Returns the buffer and the length as the `int` that counted it. -/
def cipherInto (M : Machine) (update : Ctx → Bytes → Option (Bytes × Ctx))
    (final : Ctx → Option Bytes) (ctx : Ctx) (input : Bytes) (size : Nat) :
    Run (Option (Bytes × Int)) :=
  match update ctx input with
  | none => pure none
  | some (chunk, ctx) => do
    let out ← store M (malloc M size) 0 chunk
    match final ctx with
    | none => pure none
    | some last => do
      let out ← store M out chunk.length last
      let len ← addInt M chunk.length last.length
      pure (some (realloc M out (ofInt len), len))

/-- How both decryptions end: run the cipher, copy what it wrote, unpad it. -/
def plaintextFrom (M : Machine) (update : Ctx → Bytes → Option (Bytes × Ctx))
    (final : Ctx → Option Bytes) (ctx : Ctx) (input : Bytes) (size : Nat) :
    Run (Option CryptoData) := do
  match ← cipherInto M update final ctx input size with
  | none => pure none
  | some (plaintextUnsigned, plaintextLen) => do
    let plaintext ← cryptoData M plaintextUnsigned (ofInt plaintextLen)
    let plaintext ← cryptoUnpadData M plaintext
    pure (some plaintext)

/-- `malloc((plaintext_len + block_size - 1) * sizeof(unsigned char))`, the room for a ciphertext. -/
def ciphertextRoom (M : Machine) (plaintextLen : Int) : Run Nat := do
  let sum ← addInt M plaintextLen BLOCK_SIZE
  let room ← addInt M sum (-1)
  pure (ofInt room)

/-- What both encryptions do with the padded data once their context is set up: allocate the room for the
    ciphertext, and run the cipher into it. -/
def ciphertextInto (M : Machine) (update : Ctx → Bytes → Option (Bytes × Ctx))
    (final : Ctx → Option Bytes) (ctx : Ctx) (plaintextData : Bytes) (plaintextLen : Int) :
    Run (Option (Bytes × Int)) := do
  let room ← ciphertextRoom M plaintextLen
  cipherInto M update final ctx (peek M plaintextData 0 (ofInt plaintextLen)) room

/-! ## AES -/

/-- `_cdtp_crypto_aes_key`. -/
def cryptoAesKey (M : Machine) (rand : Option (Nat → UInt8)) : Run (Option AESKey) :=
  match rand with
  | none => pure none
  | some r => do
    let keyUnsigned := (List.range CDTP_AES_KEY_SIZE).map r
    let key ← memcpy M (malloc M CDTP_AES_KEY_SIZE) 0 keyUnsigned 0 CDTP_AES_KEY_SIZE
    pure (some { key := key, keySize := CDTP_AES_KEY_SIZE })

/-- `_cdtp_crypto_aes_key_from`: any size is accepted. -/
def cryptoAesKeyFrom (M : Machine) (bytes : Bytes) (size : Nat) : Run AESKey := do
  let key ← memcpy M (malloc M size) 0 bytes 0 size
  pure { key := key, keySize := size }

/-- What `EVP_*Init_ex` takes from the key buffer: 32 bytes, whatever `key_size` says.  Where the buffer
    is shorter, the rest is read past its end (see `AESKey.Full`). -/
def aesKeyBytes (M : Machine) (key : AESKey) : Bytes := peek M key.key 0 CDTP_AES_KEY_SIZE

/-- The key buffer holds the 32 bytes that the cipher takes from it. -/
def AESKey.Full (key : AESKey) : Prop :=
  key.keySize = CDTP_AES_KEY_SIZE ∧ key.key.length = CDTP_AES_KEY_SIZE

instance (key : AESKey) : Decidable key.Full := inferInstanceAs (Decidable (_ ∧ _))

/-- The frame body: nonce and ciphertext, as `_cdtp_crypto_aes_encrypt` assembles them. -/
def aesAssemble (M : Machine) (nonceUnsigned : Bytes) (ciphertextUnsigned : Bytes)
    (ciphertextLen : Int) : Run CryptoData := do
  let total ← addInt M CDTP_AES_NONCE_SIZE ciphertextLen
  let all ← memcpy M (malloc M (ofInt total)) 0 nonceUnsigned 0 CDTP_AES_NONCE_SIZE
  let all ← memcpy M all CDTP_AES_NONCE_SIZE ciphertextUnsigned 0 (ofInt ciphertextLen)
  cryptoData M all (ofInt total)

/-- `_cdtp_crypto_aes_encrypt` from the padded data on. -/
def aesEncryptPadded (M : Machine) (O : OpenSSL Ctx PKey) (r : Nat → UInt8) (key : AESKey)
    (plaintextPadded : CryptoData) : Run (Option CryptoData) := do
  -- 32 random bytes, of which the cipher reads the first 16 and the frame carries the first 16
  let nonceUnsigned := (List.range CDTP_AES_KEY_SIZE).map r
  let plaintextLen ← castInt M plaintextPadded.dataSize
  match O.ctxNew with
  | none => pure none
  | some ctx =>
    match O.encryptInit ctx (aesKeyBytes M key) (nonceUnsigned.take IV_LENGTH) with
    | none => pure none
    | some ctx => do
      match ← ciphertextInto M O.encryptUpdate O.encryptFinal ctx plaintextPadded.data
          plaintextLen with
      | none => pure none
      | some (ciphertextUnsigned, ciphertextLen) => do
        let ciphertextWithNonce ←
          aesAssemble M nonceUnsigned ciphertextUnsigned ciphertextLen
        pure (some ciphertextWithNonce)

/-- `_cdtp_crypto_aes_encrypt`. -/
def cryptoAesEncrypt (M : Machine) (O : OpenSSL Ctx PKey) (rand : Option (Nat → UInt8))
    (key : AESKey) (plaintext : Bytes) (plaintextSize : Nat) : Run (Option CryptoData) :=
  match rand with
  | none => pure none
  | some r => do
    let plaintextData ← cryptoData M plaintext plaintextSize
    let plaintextPadded ← cryptoPadData M plaintextData
    aesEncryptPadded M O r key plaintextPadded

/-- `_cdtp_crypto_aes_decrypt`. -/
def cryptoAesDecrypt (M : Machine) (O : OpenSSL Ctx PKey) (key : AESKey) (ciphertext : Bytes)
    (ciphertextSize : Nat) : Run (Option CryptoData) := do
  let nonceUnsigned ← memcpy M (malloc M CDTP_AES_NONCE_SIZE) 0 ciphertext 0 CDTP_AES_NONCE_SIZE
  let size ← subSize M ciphertextSize CDTP_AES_NONCE_SIZE
  let ciphertextData ← memcpy M (malloc M size) 0 ciphertext CDTP_AES_NONCE_SIZE size
  let ciphertextLen ← castInt M size
  match O.ctxNew with
  | none => pure none
  | some ctx =>
    match O.decryptInit ctx (aesKeyBytes M key) nonceUnsigned with
    | none => pure none
    | some ctx =>
      plaintextFrom M O.decryptUpdate O.decryptFinal ctx
        (peek M ciphertextData 0 (ofInt ciphertextLen)) (ofInt ciphertextLen)

/-! ## RSA -/

/-- `_cdtp_crypto_rsa_public_key_from_bytes`. -/
def cryptoRsaPublicKeyFromBytes (M : Machine) (bytes : Bytes) (size : Nat) : Run RSAPublicKey := do
  let key ← memcpy M (malloc M size) 0 bytes 0 size
  pure { key := key, keySize := size }

/-- `_cdtp_crypto_rsa_private_key_from_bytes`. -/
def cryptoRsaPrivateKeyFromBytes (M : Machine) (bytes : Bytes) (size : Nat) :
    Run RSAPrivateKey := do
  let key ← memcpy M (malloc M size) 0 bytes 0 size
  pure { key := key, keySize := size }

/-- `_cdtp_crypto_rsa_public_key_to_bytes`. -/
def cryptoRsaPublicKeyToBytes (M : Machine) (publicKey : RSAPublicKey) : Run CryptoData :=
  cryptoData M publicKey.key publicKey.keySize

/-- `_cdtp_crypto_openssl_rsa_public_key`: the `int` length, then PEM. -/
def cryptoOpensslRsaPublicKey (M : Machine) (O : OpenSSL Ctx PKey) (publicKey : RSAPublicKey) :
    Run (Option PKey) := do
  let pubLen ← castInt M publicKey.keySize
  pure (O.readPubkey (peek M publicKey.key 0 (ofInt pubLen)))

/-- `_cdtp_crypto_openssl_rsa_private_key`. -/
def cryptoOpensslRsaPrivateKey (M : Machine) (O : OpenSSL Ctx PKey) (privateKey : RSAPrivateKey) :
    Run (Option PKey) := do
  let priLen ← castInt M privateKey.keySize
  pure (O.readPrivateKey (peek M privateKey.key 0 (ofInt priLen)))

/-- `_cdtp_crypto_rsa_key_pair`, given what `EVP_RSA_gen` made. -/
def cryptoRsaKeyPair (M : Machine) (O : OpenSSL Ctx PKey) (r : Option PKey) :
    Run (Option RSAKeyPair) :=
  match r with
  | none => pure none
  | some r =>
    match O.writePubkey r, O.writePrivateKey r with
    | some publicKeyBytes, some privateKeyBytes =>
      -- `BIO_read` of nothing is an error
      if publicKeyBytes.length < 1 ∨ privateKeyBytes.length < 1 then pure none
      else do
        let publicKey ← cryptoRsaPublicKeyFromBytes M publicKeyBytes publicKeyBytes.length
        let privateKey ← cryptoRsaPrivateKeyFromBytes M privateKeyBytes privateKeyBytes.length
        pure (some { publicKey := publicKey, privateKey := privateKey })
    | _, _ => pure none

/-- The envelope: encoded length of the encrypted key, encrypted key, nonce, ciphertext, as
    `_cdtp_crypto_rsa_encrypt` assembles them. -/
def rsaAssemble (M : Machine) (encryptedKey : Bytes) (encryptedKeyLen : Int) (nonce : Bytes)
    (ciphertextUnsigned : Bytes) (ciphertextLen : Int) : Run CryptoData := do
  let keyEnd ← addInt M CDTP_LENSIZE encryptedKeyLen
  let nonceEnd ← addInt M keyEnd IV_LENGTH
  let total ← addInt M nonceEnd ciphertextLen
  let all ← memcpy M (malloc M (ofInt total)) 0 (encodeMessageSize M (ofInt encryptedKeyLen)) 0
    CDTP_LENSIZE
  let all ← memcpy M all CDTP_LENSIZE encryptedKey 0 (ofInt encryptedKeyLen)
  let all ← memcpy M all (CDTP_LENSIZE + ofInt encryptedKeyLen) nonce 0 IV_LENGTH
  let all ← memcpy M all (CDTP_LENSIZE + ofInt encryptedKeyLen + IV_LENGTH) ciphertextUnsigned 0
    (ofInt ciphertextLen)
  cryptoData M all (ofInt total)

/-- `_cdtp_crypto_rsa_encrypt` from the padded data on. -/
def rsaEncryptPadded (M : Machine) (O : OpenSSL Ctx PKey) (rand : Nat → UInt8)
    (publicKey : RSAPublicKey) (plaintextPadded : CryptoData) : Run (Option CryptoData) := do
  let plaintextLen ← castInt M plaintextPadded.dataSize
  let evpPublicKey ← cryptoOpensslRsaPublicKey M O publicKey
  if O.pkeySize evpPublicKey = 0 then pure none
  else
    match O.ctxNew with
    | none => pure none
    | some ctx =>
      match O.sealInit ctx evpPublicKey rand with
      | none => pure none
      | some (ek, iv, ctx) => do
        -- `EVP_SealInit` writes into the two buffers and sets `encrypted_key_len`
        let encryptedKey ← store M (malloc M (O.pkeySize evpPublicKey)) 0 ek
        let nonce ← store M (malloc M IV_LENGTH) 0 iv
        match ← ciphertextInto M O.sealUpdate O.sealFinal ctx plaintextPadded.data plaintextLen with
        | none => pure none
        | some (ciphertextUnsigned, ciphertextLen) => do
          let all ← rsaAssemble M encryptedKey ek.length nonce ciphertextUnsigned ciphertextLen
          pure (some all)

/-- `_cdtp_crypto_rsa_encrypt`. -/
def cryptoRsaEncrypt (M : Machine) (O : OpenSSL Ctx PKey) (rand : Nat → UInt8)
    (publicKey : RSAPublicKey) (plaintext : Bytes) (plaintextSize : Nat) :
    Run (Option CryptoData) := do
  let plaintextData ← cryptoData M plaintext plaintextSize
  let plaintextPadded ← cryptoPadData M plaintextData
  rsaEncryptPadded M O rand publicKey plaintextPadded

/-- The slices that `_cdtp_crypto_rsa_decrypt` takes from the buffer it is given. -/
structure Envelope where
  encryptedKey : Bytes
  nonce : Bytes
  ciphertext : Bytes
  deriving DecidableEq, Repr

/-- The first half of `_cdtp_crypto_rsa_decrypt`: take the envelope apart. -/
def rsaSlices (M : Machine) (ciphertext : Bytes) (ciphertextSize : Nat) : Run Envelope := do
  let encoded ← memcpy M (malloc M CDTP_LENSIZE) 0 ciphertext 0 CDTP_LENSIZE
  let encryptedKeyLen ← castInt M (decodeMessageSize encoded)
  let encryptedKey ← memcpy M (malloc M (ofInt encryptedKeyLen)) 0 ciphertext CDTP_LENSIZE
    (ofInt encryptedKeyLen)
  -- the nonce buffer has room for 16 pointers; 16 bytes of it are used
  let nonce ← memcpy M (malloc M (IV_LENGTH * 8)) 0 ciphertext
    (CDTP_LENSIZE + ofInt encryptedKeyLen) IV_LENGTH
  -- the header parts are added as `int`s, and their sum is then taken from a `size_t`
  let keyEnd ← addInt M CDTP_LENSIZE encryptedKeyLen
  let nonceEnd ← addInt M keyEnd IV_LENGTH
  let size ← subSize M ciphertextSize (ofInt nonceEnd)
  let ciphertextLen ← castInt M size
  let ciphertextUnsigned ← memcpy M (malloc M (ofInt ciphertextLen)) 0 ciphertext
    (CDTP_LENSIZE + ofInt encryptedKeyLen + IV_LENGTH) (ofInt ciphertextLen)
  pure { encryptedKey := encryptedKey, nonce := nonce.take IV_LENGTH,
         ciphertext := ciphertextUnsigned }

/-- The second half: `EVP_Open*` on the slices, then the unpadding. -/
def rsaOpen (M : Machine) (O : OpenSSL Ctx PKey) (evpPrivateKey : Option PKey) (e : Envelope) :
    Run (Option CryptoData) :=
  match O.ctxNew with
  | none => pure none
  | some ctx =>
    match O.openInit ctx e.encryptedKey e.nonce evpPrivateKey with
    | none => pure none
    | some ctx => plaintextFrom M O.openUpdate O.openFinal ctx e.ciphertext e.ciphertext.length

/-- `_cdtp_crypto_rsa_decrypt`. -/
def cryptoRsaDecrypt (M : Machine) (O : OpenSSL Ctx PKey) (privateKey : RSAPrivateKey)
    (ciphertext : Bytes) (ciphertextSize : Nat) : Run (Option CryptoData) := do
  let evpPrivateKey ← cryptoOpensslRsaPrivateKey M O privateKey
  let e ← rsaSlices M ciphertext ciphertextSize
  rsaOpen M O evpPrivateKey e

end Ciphers

end Cdtp
