/-
  Received frames that no end of this library would send.

  Between the receive loops and the callbacks lie `_cdtp_crypto_aes_decrypt`, which cuts 16 bytes off
  whatever it is given, `_cdtp_crypto_unpad_data`, which cuts one or two more off whatever comes out, and
  the two `call_on_recv` functions, which use the result without testing it for NULL.  `FrameHandled`
  says what safe handling of a frame body would be, `callOnRecv_handled_iff` which bodies get it.
-/
import Cdtp.Client

namespace Cdtp

open CMem

section Frame

variable {Ctx PKey : Type} {M : Machine} {O : OpenSSL Ctx PKey}

/-- Safe handling of a body under `key`, where `result` is what the `call_on_recv` function does with
    it: no read outside the data, no size that wraps, no NULL dereferenced; and a failed decryption
    dispatches nothing. -/
structure FrameHandled (M : Machine) (O : OpenSSL Ctx PKey) (key : AESKey) (body : Bytes)
    (result : Run (Option CryptoData)) : Prop where
  returns : ∃ payload, result = .ok payload
  failed_silent : (∀ d, cryptoAesDecrypt M O key body body.length ≠ .ok (some d)) →
    result = .ok none

/-- The body holds a nonce, and the cipher accepts the rest, with a plaintext that can be unpadded. -/
def BodyDecrypts (M : Machine) (O : OpenSSL Ctx PKey) (key : AESKey) (body : Bytes) : Prop :=
  CDTP_AES_NONCE_SIZE ≤ body.length ∧
    ∃ q, O.decrypt (aesKeyBytes M key) (body.take CDTP_AES_NONCE_SIZE)
      (body.drop CDTP_AES_NONCE_SIZE) = some q ∧ q ≠ [] ∧ q ≠ [1]

theorem cryptoAesDecrypt_data_iff (hM : M.checked = true) (hO : O.DecryptShortens) {key : AESKey}
    {body : Bytes} (hint : body.length < 2 ^ 31) :
    (∃ d, cryptoAesDecrypt M O key body body.length = .ok (some d)) ↔ BodyDecrypts M O key body := by
  constructor
  · rintro ⟨d, hd⟩
    obtain ⟨h16, q, hq, hun, -⟩ := (cryptoAesDecrypt_checked hM hint hO).mp hd
    exact ⟨h16, q, hq, hun⟩
  · rintro ⟨h16, q, hq, hun⟩
    exact ⟨_, (cryptoAesDecrypt_checked hM hint hO).mpr ⟨h16, q, hq, hun, rfl⟩⟩

/-- Both functions decrypt and dereference, if a callback is registered. -/
theorem frameHandled_iff (hM : M.checked = true) (hO : O.DecryptShortens) {key : AESKey}
    {body : Bytes} (hint : body.length < 2 ^ 31) (registered : Bool) :
    FrameHandled M O key body
        (if registered then
          (cryptoAesDecrypt M O key body body.length >>= fun r => deref r >>= fun d => pure (some d))
        else pure none) ↔
      registered = false ∨ BodyDecrypts M O key body := by
  rw [← cryptoAesDecrypt_data_iff hM hO hint]
  cases registered with
  | false => exact ⟨fun _ => .inl rfl, fun _ => ⟨⟨none, rfl⟩, fun _ => rfl⟩⟩
  | true =>
    rw [if_pos rfl]
    constructor
    · rintro ⟨⟨payload, hok⟩, -⟩
      obtain ⟨r, hr, hok⟩ := bind_eq_ok_iff.mp hok
      cases r with
      | none => exact absurd hok (by simp)
      | some d => exact .inr ⟨d, hr⟩
    · rintro (hno | ⟨d, hd⟩)
      · exact absurd hno (by simp)
      · refine ⟨⟨some d, by rw [hd]; rfl⟩, fun hnone => absurd hd (hnone d)⟩

/-- **Which frames are handled**, by the server for any stored client and by the client: none but those
    for which no callback is registered, and those that decrypt.  A body shorter than 16 bytes is read
    past its end, an empty plaintext or a plaintext of one byte 1 makes a size wrap, and the NULL of every
    other failure is dereferenced. -/
theorem callOnRecv_handled_iff (hM : M.checked = true) (hO : O.DecryptShortens) (body : Bytes)
    (hbody : 1 ≤ body.length ∧ body.length < 2 ^ 31) :
    (∀ (server : CDTPServer) (id : Nat) (sock : CDTPSocket),
      server.clients.get id = some sock →
      (FrameHandled M O sock.key body (serverCallOnRecv M O server id body body.length) ↔
        server.onRecv = false ∨ BodyDecrypts M O sock.key body)) ∧
    (∀ client : CDTPClient,
      FrameHandled M O client.sock.key body (clientCallOnRecv M O client body body.length) ↔
        client.onRecv = false ∨ BodyDecrypts M O client.sock.key body) := by
  constructor
  · intro server id sock hget
    rw [serverCallOnRecv, hget, deref_some, ok_bind]
    exact frameHandled_iff hM hO hbody.2 server.onRecv
  · intro client
    rw [clientCallOnRecv]
    exact frameHandled_iff hM hO hbody.2 client.onRecv

end Frame

/-- A client with a callback and a key of 32 sevens. -/
def demoClient : CDTPClient where
  connected := true
  done := false
  sock := { sock := 3, key := demoKey }
  onRecv := true
  onDisconnected := true

/-- A body of one byte: the 16 bytes of the nonce are read past its end. -/
theorem callOnRecv_short_unhandled :
    ¬ FrameHandled checkingMachine plainOpenSSL demoKey [7]
      (clientCallOnRecv checkingMachine plainOpenSSL demoClient [7] 1) := by
  rintro ⟨⟨payload, hok⟩, -⟩
  have hfault : clientCallOnRecv checkingMachine plainOpenSSL demoClient [7] 1
      = .error .readOutside := by decide +kernel
  exact absurd (hok.symm.trans hfault) (by simp)

/-- A server that serves one client with the same key. -/
def demoStoring : CDTPServer :=
  { demoStart.server with clients := (Clients.empty.set 0 { sock := 4, key := demoKey }).2 }

/-- A body that decrypts is handled by both; one whose plaintext is empty is not. -/
theorem callOnRecv_handled_iff_demo :
    FrameHandled checkingMachine plainOpenSSL demoKey demoBody
        (serverCallOnRecv checkingMachine plainOpenSSL demoStoring 0 demoBody 32) ∧
      FrameHandled checkingMachine plainOpenSSL demoKey demoBody
        (clientCallOnRecv checkingMachine plainOpenSSL demoClient demoBody 32) ∧
      ¬ FrameHandled checkingMachine plainOpenSSL demoKey (List.replicate 32 16)
        (clientCallOnRecv checkingMachine plainOpenSSL demoClient (List.replicate 32 16) 32) := by
  have hdecrypts : BodyDecrypts checkingMachine plainOpenSSL demoKey demoBody :=
    ⟨by decide, [0, 1, 2, 3], by decide +kernel, by decide, by decide⟩
  obtain ⟨hserver, hclient⟩ := @callOnRecv_handled_iff Bytes Unit checkingMachine plainOpenSSL rfl
    plainOpenSSL_decryptShortens demoBody (by decide)
  refine ⟨?_, ?_, ?_⟩
  · exact (hserver demoStoring 0 { sock := 4, key := demoKey } (by decide +kernel)).mpr (.inr hdecrypts)
  · exact (hclient demoClient).mpr (.inr hdecrypts)
  · intro h
    -- the block strips to nothing, which no prefix byte can be taken from
    have hempty : plainOpenSSL.decrypt (aesKeyBytes checkingMachine demoKey)
        ((List.replicate 32 16).take CDTP_AES_NONCE_SIZE)
        ((List.replicate 32 16).drop CDTP_AES_NONCE_SIZE) = some [] := by decide +kernel
    rcases ((callOnRecv_handled_iff rfl plainOpenSSL_decryptShortens (List.replicate 32 16)
      (by decide)).2 demoClient).mp h with hno | ⟨-, q, hq, hne, -⟩
    · exact absurd hno (by decide)
    · exact hne (Option.some.inj (hq.symm.trans hempty))

end Cdtp
