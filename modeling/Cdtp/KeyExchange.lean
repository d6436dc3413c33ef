/-
  The key exchange (`_cdtp_server_exchange_keys`, `_cdtp_client_exchange_keys`).

  The server sends the PEM text of a fresh RSA public key; the client answers with its AES key in an RSA
  envelope; both messages are frames, read with one blocking `read` for the header and one for the body
  (`readFrame`).  The server uses the decrypted key without looking at it: a decryption that returns
  NULL is dereferenced, and a key of any size is accepted.

  `keyExchange_agrees`: over a transport that transfers in full, both ends hold the same key.
-/
import Cdtp.PlainCipher
import Cdtp.Socket

namespace Cdtp

open CMem

/-! ## Reading the other end's frame -/

/-- The second read, of the `msgSize` bytes that the header announced. -/
def readBody (M : Machine) (msgSize : Nat) (body : ReadResult) : Option (Bytes × Nat) :=
  let recvCode := body.code msgSize
  if recvCode = 0 ∨ recvCode = -1 ∨ ofInt recvCode ≠ msgSize then none
  else some (splice (malloc M msgSize) 0 (body.got msgSize), msgSize)

/-- The blocking reads of a key-exchange frame, the same on both ends; `none` is the
    `KEY_EXCHANGE_FAILED` branch.  Only the end of the stream and errors are tested after the header, so
    a short header is completed by what the buffer happened to hold. -/
def readFrame (M : Machine) (header body : ReadResult) : Option (Bytes × Nat) :=
  if header.code CDTP_LENSIZE = 0 ∨ header.code CDTP_LENSIZE = -1 then none
  else
    readBody M (decodeMessageSize (splice (malloc M CDTP_LENSIZE) 0 (header.got CDTP_LENSIZE))) body

/-- A frame that has arrived in full. -/
structure Delivered (frame : Bytes) (header body : ReadResult) : Prop where
  header_ok : header.failed = false
  header_bytes : header.bytes = frame.take CDTP_LENSIZE
  body_ok : body.failed = false
  body_bytes : body.bytes = frame.drop CDTP_LENSIZE

/-- A delivered frame is read iff its body is not empty and an `int` can count it. -/
theorem readFrame_delivered {M M' : Machine} {msg : Bytes} {header body : ReadResult}
    (h : Delivered (constructMessage M msg msg.length) header body) (hlen : msg.length < 2 ^ 40) :
    readFrame M' header body
      = if 0 < msg.length ∧ msg.length < 2 ^ 31 then some (msg, msg.length) else none := by
  obtain ⟨hok, hbytes, hok', hbytes'⟩ := h
  have hdecode := @decodeMessageSize_frame M msg hlen []
  have hdrop := drop_frame M msg []
  rw [List.append_nil] at hdecode
  rw [List.append_nil, List.append_nil] at hdrop
  have hgot : header.bytes.take CDTP_LENSIZE
      = (constructMessage M msg msg.length).take CDTP_LENSIZE := by
    rw [hbytes, List.take_take, Nat.min_self]
  have hgotLen : ((constructMessage M msg msg.length).take CDTP_LENSIZE).length = CDTP_LENSIZE := by
    rw [List.length_take, constructMessage_length]
    exact Nat.min_eq_left (Nat.le_add_right _ _)
  have hcode : header.code CDTP_LENSIZE = 5 := by
    rw [ReadResult.code_ok hok, hgot, hgotLen]
    decide
  have hsize : decodeMessageSize (splice (malloc M' CDTP_LENSIZE) 0 (header.got CDTP_LENSIZE))
      = msg.length := by
    rw [ReadResult.got_ok hok, hgot, splice_all (by rw [hgotLen, malloc_length]), hdecode]
  have hbody : body.got msg.length = msg := by
    rw [ReadResult.got_ok hok', hbytes', hdrop, List.take_length]
  have hbodyCode : body.code msg.length = toInt msg.length := by
    rw [ReadResult.code_ok hok', hbytes', hdrop, List.take_length]
  have hall : splice (malloc M' msg.length) 0 msg = msg := splice_all (malloc_length _).symm
  rw [readFrame, hcode, if_neg (by decide), hsize, readBody, hbody, hbodyCode, hall]
  by_cases hpos : 0 < msg.length ∧ msg.length < 2 ^ 31
  · rw [if_pos hpos, if_neg]
    rw [toInt_of_lt hpos.2, ofInt_natCast (by unfold SIZE_MOD; omega)]
    omega
  · -- an empty body reads as the end of the stream, and one too long does not fit `recv_code`
    rw [if_neg hpos, if_pos]
    by_cases hnil : msg.length = 0
    · exact .inl (by rw [hnil]; decide)
    · exact .inr (.inr (ofInt_toInt_ne (by omega) hlen))

/-! ## The two ends -/

section Exchange

variable {Ctx PKey : Type}

/-- What the server's half of one exchange meets: the generated key, whether `send` failed, and what
    the two reads find. -/
structure ServerExchange (PKey : Type) where
  rsaGen : Option PKey
  sendFailed : Bool
  header : ReadResult
  body : ReadResult

/-- The start of `_cdtp_server_exchange_keys`: a key pair, and the message with its public key. -/
def serverKeyMessage (M : Machine) (O : OpenSSL Ctx PKey) (rsaGen : Option PKey) :
    Run (RSAKeyPair × Bytes) := do
  let rsaKeys ← deref (← cryptoRsaKeyPair M O rsaGen)
  let publicKeyData ← cryptoRsaPublicKeyToBytes M rsaKeys.publicKey
  pure (rsaKeys, constructMessage M publicKeyData.data publicKeyData.dataSize)

/-- The rest of it: read the reply and take the key out; `none` is `return false`. -/
def serverReceiveKey (M : Machine) (O : OpenSSL Ctx PKey) (rsaKeys : RSAKeyPair)
    (header body : ReadResult) : Run (Option AESKey) :=
  match readFrame M header body with
  | none => pure none
  | some (buffer, msgSize) => do
    -- the result of the decryption is used without a test
    let keyData ← deref (← cryptoRsaDecrypt M O rsaKeys.privateKey buffer msgSize)
    let key ← cryptoAesKeyFrom M keyData.data keyData.dataSize
    pure (some key)

/-- `_cdtp_server_exchange_keys`: the key that `client->key` is set to, or `none` for false. -/
def serverExchangeKeys (M : Machine) (O : OpenSSL Ctx PKey) (io : ServerExchange PKey) :
    Run (Option AESKey) := do
  let (rsaKeys, _) ← serverKeyMessage M O io.rsaGen
  if io.sendFailed then pure none else serverReceiveKey M O rsaKeys io.header io.body

/-- What the client's half of one exchange meets. -/
structure ClientExchange where
  header : ReadResult
  body : ReadResult
  rand : Option (Nat → UInt8)
  seed : Nat → UInt8
  sendFailed : Bool

/-- `_cdtp_client_exchange_keys` up to its `send`: the AES key and the message that carries it. -/
def clientKeyMessage (M : Machine) (O : OpenSSL Ctx PKey) (io : ClientExchange) :
    Run (Option (AESKey × Bytes)) :=
  match readFrame M io.header io.body with
  | none => pure none
  | some (buffer, msgSize) => do
    let publicKey ← cryptoRsaPublicKeyFromBytes M buffer msgSize
    let key ← deref (← cryptoAesKey M io.rand)
    let keyEncrypted ← deref (← cryptoRsaEncrypt M O io.seed publicKey key.key key.keySize)
    pure (some (key, constructMessage M keyEncrypted.data keyEncrypted.dataSize))

/-- `_cdtp_client_exchange_keys`: the key that `client->sock->key` is set to, or `none` for false. -/
def clientExchangeKeys (M : Machine) (O : OpenSSL Ctx PKey) (io : ClientExchange) :
    Run (Option AESKey) := do
  match ← clientKeyMessage M O io with
  | none => pure none
  | some (key, _) => if io.sendFailed then pure none else pure (some key)

variable {M : Machine} {O : OpenSSL Ctx PKey}

/-! ### What the messages are -/

theorem serverKeyMessage_eq {rsaGen : Option PKey} {keys : RSAKeyPair} {message : Bytes}
    (h : serverKeyMessage M O rsaGen = .ok (keys, message)) :
    cryptoRsaKeyPair M O rsaGen = .ok (some keys) ∧
      message = constructMessage M keys.publicKey.key keys.publicKey.key.length := by
  obtain ⟨pair, hpair, h⟩ := bind_eq_ok_iff.mp h
  cases pair with
  | none => exact absurd h (by simp)
  | some pair =>
    rw [deref_some, ok_bind] at h
    obtain ⟨k, pub, pri, -, -, -, -, hpub, -⟩ := cryptoRsaKeyPair_eq hpair
    have hdata : cryptoRsaPublicKeyToBytes M pair.publicKey
        = .ok { data := pair.publicKey.key, dataSize := pair.publicKey.key.length } := by
      rw [cryptoRsaPublicKeyToBytes, hpub]
      exact cryptoData_eq
    rw [hdata, ok_bind, pure_eq_ok, Except.ok.injEq, Prod.mk.injEq] at h
    obtain ⟨rfl, rfl⟩ := h
    exact ⟨hpair, rfl⟩

/-- A generated AES key has 32 bytes. -/
theorem cryptoAesKey_full {rand : Option (Nat → UInt8)} {key : AESKey}
    (h : cryptoAesKey M rand = .ok (some key)) : key.Full := by
  cases rand with
  | none => exact absurd h (by simp [cryptoAesKey])
  | some r =>
    have hlen : ((List.range CDTP_AES_KEY_SIZE).map r).length = CDTP_AES_KEY_SIZE := by
      rw [List.length_map, List.length_range]
    rw [cryptoAesKey, memcpy_slice (by omega) (malloc_length _), ok_bind, List.drop_zero,
      List.take_of_length_le (by omega), pure_eq_ok, Except.ok.injEq, Option.some.injEq] at h
    subst h
    exact ⟨rfl, hlen⟩

theorem cryptoAesKeyFrom_eq {bytes : Bytes} :
    cryptoAesKeyFrom M bytes bytes.length = .ok { key := bytes, keySize := bytes.length } := by
  rw [cryptoAesKeyFrom, memcpy_slice (by omega) (malloc_length _), List.drop_zero, List.take_length]
  rfl

theorem clientExchangeKeys_eq {io : ClientExchange} {key : AESKey}
    (h : clientExchangeKeys M O io = .ok (some key)) :
    ∃ message, clientKeyMessage M O io = .ok (some (key, message)) := by
  obtain ⟨r, hr, h⟩ := bind_eq_ok_iff.mp h
  rcases r with _ | ⟨key', message⟩
  · exact absurd h (by simp)
  · cases hs : io.sendFailed with
    | true => simp [hs] at h
    | false =>
      simp only [hs] at h
      have hkey : key' = key := Option.some.inj (Except.ok.inj h)
      exact ⟨message, by rw [hr, hkey]⟩

theorem serverExchangeKeys_eq {io : ServerExchange PKey} {key : AESKey} {keys : RSAKeyPair}
    {message : Bytes} (hmsg : serverKeyMessage M O io.rsaGen = .ok (keys, message))
    (h : serverExchangeKeys M O io = .ok (some key)) :
    serverReceiveKey M O keys io.header io.body = .ok (some key) := by
  rw [serverExchangeKeys, hmsg, ok_bind] at h
  cases hs : io.sendFailed with
  | true => simp [hs] at h
  | false => simpa [hs] using h

/-! ### Agreement -/

/-- The server takes the client's key out of the client's message. -/
theorem serverReceiveKey_delivered {Matching : PKey → PKey → Prop} (hO : O.SealLaws Matching)
    (hM : M.checked = false) {rsaGen : Option PKey} {keys : RSAKeyPair}
    (hkeys : cryptoRsaKeyPair M O rsaGen = .ok (some keys)) {seed : Nat → UInt8} {key : AESKey}
    (hkey : key.Full) {sealed : CryptoData}
    (hsealed : cryptoRsaEncrypt M O seed keys.publicKey key.key key.keySize = .ok (some sealed))
    {header body : ReadResult}
    (hup : Delivered (constructMessage M sealed.data sealed.dataSize) header body) :
    serverReceiveKey M O keys header body = .ok (some key) := by
  obtain ⟨hsize, hlen⟩ := hkey
  have hshort : key.key.length ≤ 2 ^ 30 := by
    rw [hlen]
    decide
  obtain ⟨env, henc, hpos, hint, hdec⟩ :=
    @cryptoRsaEncrypt_roundtrip M Ctx PKey O Matching hO hM rsaGen keys M hkeys seed key.key hshort
  rw [hsize, ← hlen, henc, Except.ok.injEq, Option.some.injEq] at hsealed
  subst hsealed
  have hframe := @readFrame_delivered M M env header body hup (by omega)
  rw [if_pos ⟨hpos, hint⟩] at hframe
  rw [serverReceiveKey, hframe]
  show (cryptoRsaDecrypt M O keys.privateKey env env.length >>= _) = _
  rw [hdec, ok_bind, deref_some, ok_bind]
  show (cryptoAesKeyFrom M key.key key.key.length >>= _) = _
  rw [cryptoAesKeyFrom_eq, ok_bind, hlen, ← hsize]
  rfl

/-- The client seals its key for the public key that the server sent. -/
theorem clientKeyMessage_delivered {cio : ClientExchange} {pub : Bytes}
    (hpub : 0 < pub.length ∧ pub.length < 2 ^ 31)
    (hdown : Delivered (constructMessage M pub pub.length) cio.header cio.body) {key : AESKey}
    {message : Bytes} (h : clientKeyMessage M O cio = .ok (some (key, message))) :
    key.Full ∧ ∃ sealed, cryptoRsaEncrypt M O cio.seed { key := pub, keySize := pub.length } key.key
        key.keySize = .ok (some sealed) ∧
      message = constructMessage M sealed.data sealed.dataSize := by
  have hframe := @readFrame_delivered M M pub cio.header cio.body hdown (by omega)
  rw [if_pos hpub] at hframe
  have hfrom : cryptoRsaPublicKeyFromBytes M pub pub.length
      = .ok { key := pub, keySize := pub.length } := by
    rw [cryptoRsaPublicKeyFromBytes, memcpy_slice (by omega) (malloc_length _), List.drop_zero,
      List.take_length]
    rfl
  rw [clientKeyMessage, hframe] at h
  change (cryptoRsaPublicKeyFromBytes M pub pub.length >>= _) = _ at h
  rw [hfrom, ok_bind] at h
  obtain ⟨made, hmade, h⟩ := bind_eq_ok_iff.mp h
  cases made with
  | none => exact absurd h (by simp)
  | some made =>
    rw [deref_some, ok_bind] at h
    obtain ⟨sealed, hsealed, h⟩ := bind_eq_ok_iff.mp h
    cases sealed with
    | none => exact absurd h (by simp)
    | some sealed =>
      rw [deref_some, ok_bind, pure_eq_ok, Except.ok.injEq, Option.some.injEq, Prod.mk.injEq] at h
      obtain ⟨rfl, rfl⟩ := h
      exact ⟨cryptoAesKey_full hmade, sealed, hsealed, rfl⟩

/-- **Key agreement.**  Over a transport that delivers both messages in full: RSA decryption undoes RSA
    encryption for every generated key pair, and whenever both ends return true, they hold the same
    key, of 32 bytes. -/
theorem keyExchange_agrees {Matching : PKey → PKey → Prop} (hO : O.SealLaws Matching)
    (hM : M.checked = false) :
    (∀ rsaGen keys, cryptoRsaKeyPair M O rsaGen = .ok (some keys) →
      ∀ (seed : Nat → UInt8) (p : Bytes), p.length ≤ 2 ^ 30 →
        ∃ sealed : CryptoData,
          cryptoRsaEncrypt M O seed keys.publicKey p p.length = .ok (some sealed) ∧
          cryptoRsaDecrypt M O keys.privateKey sealed.data sealed.dataSize
            = .ok (some { data := p, dataSize := p.length })) ∧
    (∀ (sio : ServerExchange PKey) (cio : ClientExchange) (keys : RSAKeyPair) (key : AESKey)
      (serverMessage clientMessage : Bytes),
      serverKeyMessage M O sio.rsaGen = .ok (keys, serverMessage) →
      Delivered serverMessage cio.header cio.body →
      clientKeyMessage M O cio = .ok (some (key, clientMessage)) →
      Delivered clientMessage sio.header sio.body →
      ∀ clientKey serverKey, clientExchangeKeys M O cio = .ok (some clientKey) →
        serverExchangeKeys M O sio = .ok (some serverKey) →
          serverKey = clientKey ∧ clientKey.keySize = CDTP_AES_KEY_SIZE ∧
            clientKey.key.length = CDTP_AES_KEY_SIZE) := by
  constructor
  · intro rsaGen keys hkeys seed p hp
    obtain ⟨env, henc, -, -, hdec⟩ := cryptoRsaEncrypt_roundtrip hO hM hkeys seed hp
    exact ⟨_, henc, hdec M⟩
  · intro sio cio keys key serverMessage clientMessage hserver hdown hclient hup clientKey serverKey
      hc hs
    obtain ⟨hkeys, rfl⟩ := serverKeyMessage_eq hserver
    obtain ⟨k, pub, pri, -, hwpub, hwpri, hpos, hpub, -⟩ := cryptoRsaKeyPair_eq hkeys
    obtain ⟨hpubLen, -⟩ := hO.pem k pub pri hwpub hwpri
    rw [hpub] at hdown
    obtain ⟨hfull, sealed, hsealed, rfl⟩ := clientKeyMessage_delivered ⟨hpos, hpubLen⟩ hdown hclient
    obtain ⟨message, hmessage⟩ := clientExchangeKeys_eq hc
    rw [hclient, Except.ok.injEq, Option.some.injEq, Prod.mk.injEq] at hmessage
    rw [← hpub] at hsealed
    have hreceived := serverReceiveKey_delivered hO hM hkeys hfull hsealed hup
    rw [serverExchangeKeys_eq hserver hs, Except.ok.injEq, Option.some.injEq] at hreceived
    rw [hreceived, ← hmessage.1]
    exact ⟨rfl, hfull⟩

end Exchange

/-! ### A run of the exchange -/

/-- The server's message in the run: the frame of its public key. -/
def demoServerMessage : Bytes := [0, 0, 0, 0, 3] ++ pubPem

/-- The client's message in the run: the frame of its sealed key of 32 sevens. -/
def demoClientMessage : Bytes :=
  [0, 0, 0, 0, 72] ++ envelopeBytes wrappedKey (List.replicate 16 9)
    (pkcs7 (0 :: List.replicate 32 7))

def demoClientExchange : ClientExchange where
  header := .data (demoServerMessage.take CDTP_LENSIZE)
  body := .data (demoServerMessage.drop CDTP_LENSIZE)
  rand := some fun _ => 7
  seed := fun _ => 9
  sendFailed := false

def demoServerExchange : ServerExchange Unit where
  rsaGen := some ()
  sendFailed := false
  header := .data (demoClientMessage.take CDTP_LENSIZE)
  body := .data (demoClientMessage.drop CDTP_LENSIZE)

def demoKeys : RSAKeyPair where
  publicKey := { key := pubPem, keySize := 3 }
  privateKey := { key := priPem, keySize := 3 }

def demoKey : AESKey := { key := List.replicate 32 7, keySize := 32 }

/-- A body that decrypts to three bytes: a nonce, and one block with the message behind its prefix. -/
def demoBody : Bytes := List.replicate 16 9 ++ pkcs7 [0, 1, 2, 3]

/-- The exchange completes, and both ends hold the same 32 bytes. -/
theorem keyExchange_agrees_demo :
    ∃ clientKey serverKey,
      clientExchangeKeys plainMachine plainOpenSSL demoClientExchange = .ok (some clientKey) ∧
      serverExchangeKeys plainMachine plainOpenSSL demoServerExchange = .ok (some serverKey) ∧
      serverKey = clientKey ∧ clientKey.keySize = CDTP_AES_KEY_SIZE ∧
      clientKey.key.length = CDTP_AES_KEY_SIZE := by
  have hserver : serverKeyMessage plainMachine plainOpenSSL demoServerExchange.rsaGen
      = .ok (demoKeys, demoServerMessage) := by decide +kernel
  have hclient : clientKeyMessage plainMachine plainOpenSSL demoClientExchange
      = .ok (some (demoKey, demoClientMessage)) := by decide +kernel
  have hc : clientExchangeKeys plainMachine plainOpenSSL demoClientExchange = .ok (some demoKey) := by
    decide +kernel
  have hs : serverExchangeKeys plainMachine plainOpenSSL demoServerExchange = .ok (some demoKey) := by
    decide +kernel
  have hagree := (@keyExchange_agrees Bytes Unit plainMachine plainOpenSSL (fun _ _ => True)
    plainOpenSSL_sealLaws rfl).2 demoServerExchange demoClientExchange demoKeys demoKey demoServerMessage
    demoClientMessage hserver ⟨rfl, rfl, rfl, rfl⟩ hclient ⟨rfl, rfl, rfl, rfl⟩ demoKey demoKey hc hs
  exact ⟨demoKey, demoKey, hc, hs, hagree⟩

end Cdtp
