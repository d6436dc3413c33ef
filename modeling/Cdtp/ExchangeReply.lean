/-
  Replies to the key exchange that no client of this library would send.

  Between the frame and OpenSSL lies `_cdtp_crypto_rsa_decrypt`, which cuts the reply at a length that the
  reply itself announces, and behind it `_cdtp_server_exchange_keys`, which uses the result without
  testing it for NULL.  `ReplyHandled` says what safe handling would be; `exchangeReply_handled_iff` which
  replies get it.
-/
import Cdtp.KeyExchange

namespace Cdtp

open CMem

section Reply

variable {Ctx PKey : Type} {M : Machine} {O : OpenSSL Ctx PKey}

/-- An exchange in which the peer sends `reply` as the body of its frame, and all of it arrives. -/
def replyExchange (M : Machine) (rsaGen : Option PKey) (reply : Bytes) : ServerExchange PKey where
  rsaGen := rsaGen
  sendFailed := false
  header := .data ((constructMessage M reply reply.length).take CDTP_LENSIZE)
  body := .data ((constructMessage M reply reply.length).drop CDTP_LENSIZE)

theorem replyExchange_delivered (rsaGen : Option PKey) (reply : Bytes) :
    Delivered (constructMessage M reply reply.length) (replyExchange M rsaGen reply).header
      (replyExchange M rsaGen reply).body := ⟨rfl, rfl, rfl, rfl⟩

/-- Safe handling of a reply: a reply that reaches the decryption is cut inside its own bounds, with no
    size that wraps; and when the decryption yields no key, the exchange returns false. -/
structure ReplyHandled (M : Machine) (O : OpenSSL Ctx PKey) (rsaGen : Option PKey)
    (keys : RSAKeyPair) (reply : Bytes) : Prop where
  in_range : readFrame M (replyExchange M rsaGen reply).header (replyExchange M rsaGen reply).body
      = some (reply, reply.length) → ∃ e, rsaSlices M reply reply.length = .ok e
  no_deref : (∀ d, cryptoRsaDecrypt M O keys.privateKey reply reply.length ≠ .ok (some d)) →
    serverExchangeKeys M O (replyExchange M rsaGen reply) = .ok none

/-- OpenSSL opens the parts of the reply, to a plaintext that can be unpadded. -/
def ReplyOpens (O : OpenSSL Ctx PKey) (keys : RSAKeyPair) (reply : Bytes) : Prop :=
  ∃ q, O.openEnvelope (O.readPrivateKey keys.privateKey.key) (envelopeOf reply) = some q ∧
    Unpaddable q

/-- The server's half of the exchange, once its own message is out. -/
theorem serverExchangeKeys_reply {rsaGen : Option PKey} {keys : RSAKeyPair}
    (hkeys : cryptoRsaKeyPair M O rsaGen = .ok (some keys)) (reply : Bytes) :
    serverExchangeKeys M O (replyExchange M rsaGen reply)
      = serverReceiveKey M O keys (replyExchange M rsaGen reply).header
          (replyExchange M rsaGen reply).body := by
  obtain ⟨k, pub, pri, -, -, -, -, hpub, -⟩ := cryptoRsaKeyPair_eq hkeys
  have hmessage : serverKeyMessage M O rsaGen
      = .ok (keys, constructMessage M pub pub.length) := by
    rw [serverKeyMessage, hkeys, ok_bind, deref_some, ok_bind, cryptoRsaPublicKeyToBytes, hpub]
    show (cryptoData M pub pub.length >>= _) = _
    rw [cryptoData_eq]
    rfl
  rw [serverExchangeKeys]
  show (serverKeyMessage M O rsaGen >>= _) = _
  rw [hmessage, ok_bind]
  exact if_neg Bool.false_ne_true

/-- Inside its range, a reply is decrypted to data iff OpenSSL opens it. -/
theorem cryptoRsaDecrypt_checked (hM : M.checked = true) (hO : O.OpenShortens)
    {rsaGen : Option PKey} {keys : RSAKeyPair}
    (hkeys : cryptoRsaKeyPair M O rsaGen = .ok (some keys))
    (hpem : keys.privateKey.keySize < 2 ^ 31) {reply : Bytes} (h : EnvelopeInRange reply)
    (hint : reply.length < 2 ^ 31) :
    (∃ d, cryptoRsaDecrypt M O keys.privateKey reply reply.length = .ok (some d)) ↔
      ReplyOpens O keys reply := by
  obtain ⟨k, pub, pri, -, -, -, -, -, hpri⟩ := cryptoRsaKeyPair_eq hkeys
  have hkey : cryptoOpensslRsaPrivateKey M O keys.privateKey
      = .ok (O.readPrivateKey keys.privateKey.key) := by
    rw [hpri] at hpem ⊢
    exact cryptoOpensslRsaPrivateKey_eq hpem
  have hlen : (envelopeOf reply).ciphertext.length < 2 ^ 31 := by
    show (reply.drop (envelopeFront reply)).length < 2 ^ 31
    rw [List.length_drop]
    omega
  have hshort : ∀ q, O.openEnvelope (O.readPrivateKey keys.privateKey.key) (envelopeOf reply) = some q →
      q.length ≤ (envelopeOf reply).ciphertext.length := fun q hq => Nat.le_of_lt (hO _ _ q hq)
  rw [cryptoRsaDecrypt_eq hkey h (by unfold SIZE_MOD; omega)]
  constructor
  · rintro ⟨d, hd⟩
    obtain ⟨q, hq, hun, -⟩ := (rsaOpen_checked hM hshort hlen).mp hd
    exact ⟨q, hq, hun⟩
  · rintro ⟨q, hq, hun⟩
    exact ⟨_, (rsaOpen_checked hM hshort hlen).mpr ⟨q, hq, hun, rfl⟩⟩

/-- **Which replies are handled.**  Exactly those that never reach the decryption (an empty one, or one
    that an `int` cannot count) and those whose announced parts lie inside the reply and open.  Every
    other reply is read out of bounds, or its NULL is dereferenced. -/
theorem exchangeReply_handled_iff (hM : M.checked = true) (hO : O.OpenShortens)
    {rsaGen : Option PKey} {keys : RSAKeyPair}
    (hkeys : cryptoRsaKeyPair M O rsaGen = .ok (some keys))
    (hpem : keys.privateKey.keySize < 2 ^ 31) (reply : Bytes) (hlen : reply.length < 2 ^ 40) :
    ReplyHandled M O rsaGen keys reply ↔
      reply.length = 0 ∨ 2 ^ 31 ≤ reply.length ∨
        (declaredKeyLength reply + 21 ≤ reply.length ∧ ReplyOpens O keys reply) := by
  have hframe := @readFrame_delivered M M reply _ _ (replyExchange_delivered rsaGen reply) hlen
  have hfront : envelopeFront reply = declaredKeyLength reply + 21 := by
    show 5 + declaredKeyLength reply + 16 = _
    omega
  by_cases hpass : 0 < reply.length ∧ reply.length < 2 ^ 31
  · rw [if_pos hpass] at hframe
    have hmod : reply.length < SIZE_MOD := by
      unfold SIZE_MOD
      omega
    constructor
    · rintro ⟨hrange, hderef⟩
      obtain ⟨e, he⟩ := hrange hframe
      have henv := ((rsaSlices_checked hM hmod).mp he).1
      refine .inr (.inr ⟨by have := henv.fits; omega, ?_⟩)
      -- if it did not open, the exchange would have to return false; it dereferences instead
      by_contra hno
      have hnone : ∀ d, cryptoRsaDecrypt M O keys.privateKey reply reply.length ≠ .ok (some d) :=
        fun d hd => hno ((cryptoRsaDecrypt_checked hM hO hkeys hpem henv hpass.2).mp ⟨d, hd⟩)
      have hfalse := hderef hnone
      rw [serverExchangeKeys_reply hkeys, serverReceiveKey, hframe] at hfalse
      obtain ⟨r, hr, hrest⟩ := bind_eq_ok_iff.mp hfalse
      cases r with
      | none => exact absurd hrest (by simp)
      | some d => exact hnone d hr
    · rintro (hzero | hbig | ⟨hfits, hopens⟩)
      · omega
      · omega
      · have henv : EnvelopeInRange reply := ⟨by omega, by omega, by omega⟩
        refine ⟨fun _ => ⟨_, rsaSlices_eq henv hmod⟩, ?_⟩
        intro hnone
        obtain ⟨d, hd⟩ := (cryptoRsaDecrypt_checked hM hO hkeys hpem henv hpass.2).mpr hopens
        exact absurd hd (hnone d)
  · rw [if_neg hpass] at hframe
    constructor
    · intro _
      omega
    · intro _
      refine ⟨?_, ?_⟩
      · intro h
        rw [hframe] at h
        exact absurd h (by simp)
      · intro _
        rw [serverExchangeKeys_reply hkeys, serverReceiveKey, hframe]
        rfl

end Reply

/-- A reply of three bytes: the five bytes of the length are read past its end. -/
theorem exchangeReply_short_unhandled :
    ¬ ReplyHandled checkingMachine plainOpenSSL (some ()) demoKeys [1, 2, 3] := by
  rintro ⟨hrange, -⟩
  have hframe : readFrame checkingMachine (replyExchange checkingMachine (some ()) [1, 2, 3]).header
      (replyExchange checkingMachine (some ()) [1, 2, 3]).body = some ([1, 2, 3], 3) := by decide +kernel
  obtain ⟨e, he⟩ := hrange hframe
  have hfault : rsaSlices checkingMachine [1, 2, 3] 3 = .error .readOutside := by decide +kernel
  exact absurd (he.symm.trans hfault) (by simp)

/-- The reply of a client of this library is handled; 22 bytes with an empty key are not: they are in
    bounds, but OpenSSL refuses them. -/
theorem exchangeReply_handled_iff_demo :
    ReplyHandled checkingMachine plainOpenSSL (some ()) demoKeys (demoClientMessage.drop CDTP_LENSIZE) ∧
      ¬ ReplyHandled checkingMachine plainOpenSSL (some ()) demoKeys (List.replicate 22 0) := by
  have hkeys : cryptoRsaKeyPair checkingMachine plainOpenSSL (some ()) = .ok (some demoKeys) := by
    decide +kernel
  have hpem : demoKeys.privateKey.keySize < 2 ^ 31 := by decide
  constructor
  · refine (exchangeReply_handled_iff rfl plainOpenSSL_openShortens hkeys hpem _ (by decide)).mpr
      (.inr (.inr ⟨by decide, 0 :: List.replicate 32 7, by decide +kernel, by decide⟩))
  · intro h
    rcases (exchangeReply_handled_iff rfl plainOpenSSL_openShortens hkeys hpem (List.replicate 22 0)
      (by decide)).mp h with hzero | hbig | ⟨-, q, hq, -⟩
    · exact absurd hzero (by decide)
    · exact absurd hbig (by decide)
    · have hrefused : plainOpenSSL.openEnvelope (plainOpenSSL.readPrivateKey demoKeys.privateKey.key)
          (envelopeOf (List.replicate 22 0)) = none := by decide +kernel
      rw [hrefused] at hq
      exact absurd hq (by simp)

end Cdtp
