/-
  An OpenSSL that can be run: CBC with PKCS#7 padding whose block cipher is the identity.

  Lengths, padding and failures are those of AES-256-CBC: a ciphertext is the next multiple of 16 bytes,
  and decryption fails on an incomplete block or on padding that is not one.  Only the secrecy is
  missing.  The instance shows that the laws the round trips rest on can be met together, and lets the
  concrete runs of the later modules be evaluated.
-/
import Cdtp.EnvelopeSpec

namespace Cdtp

open CMem

/-- The plain machine, with fresh memory full of 170s. -/
def plainMachine : Machine := { checked := false, garbage := fun _ => 170 }

/-- The checking machine. -/
def checkingMachine : Machine := { checked := true, garbage := fun _ => 170 }

/-! ## PKCS#7 -/

/-- PKCS#7: fill the last block with its number of missing bytes. -/
def pkcs7 (p : Bytes) : Bytes :=
  p ++ List.replicate (16 - p.length % 16) (UInt8.ofNat (16 - p.length % 16))

/-- Remove PKCS#7 padding, if that is what the last bytes are. -/
def pkcs7Strip (c : Bytes) : Option Bytes :=
  match c.getLast? with
  | none => none
  | some b =>
    if c.length % 16 = 0 ∧ b.toNat ≠ 0 ∧ b.toNat ≤ 16 ∧
        c.drop (c.length - b.toNat) = List.replicate b.toNat b then
      some (c.take (c.length - b.toNat))
    else none

/-- Padding adds between one byte and sixteen. -/
theorem pkcs7_length (p : Bytes) : (pkcs7 p).length = cbcLength p.length := by
  rw [pkcs7, List.length_append, List.length_replicate]
  show p.length + (16 - p.length % 16) = 16 * (p.length / 16 + 1)
  omega

/-- **Padding can be undone**: its last byte says how long it is. -/
theorem pkcs7Strip_pkcs7 (p : Bytes) : pkcs7Strip (pkcs7 p) = some p := by
  have hpad : (UInt8.ofNat (16 - p.length % 16)).toNat = 16 - p.length % 16 := by
    rw [UInt8.toNat_ofNat']
    omega
  have hlen := pkcs7_length p
  have hcbc : cbcLength p.length = 16 * (p.length / 16 + 1) := rfl
  have hlast : (pkcs7 p).getLast? = some (UInt8.ofNat (16 - p.length % 16)) := by
    rw [pkcs7, List.getLast?_append, List.getLast?_replicate, if_neg (by omega)]
    rfl
  have hcut : (pkcs7 p).length - (16 - p.length % 16) = p.length := by omega
  rw [pkcs7Strip, hlast]
  show (if (pkcs7 p).length % 16 = 0 ∧ _ ∧ _ ∧ _ then _ else _) = some p
  rw [hpad, hcut, if_pos, pkcs7, List.take_left]
  refine ⟨by omega, by omega, by omega, ?_⟩
  rw [pkcs7, List.drop_left]

/-- Only what was padded can be stripped. -/
theorem pkcs7_of_strip {c p : Bytes} (h : pkcs7Strip c = some p) : pkcs7 p = c := by
  unfold pkcs7Strip at h
  split at h
  · exact absurd h (by simp)
  · rename_i b hb
    split at h
    · rename_i hc
      obtain ⟨hmod, hpos, hle, hlast⟩ := hc
      have hlen : b.toNat ≤ c.length := by
        have hc := congrArg List.length hlast
        rw [List.length_drop, List.length_replicate] at hc
        omega
      have hp : p.length = c.length - b.toNat := by
        rw [← Option.some.inj h, List.length_take]
        omega
      have hfill : 16 - p.length % 16 = b.toNat := by omega
      have hbyte : UInt8.ofNat b.toNat = b := UInt8.ofNat_toNat
      rw [pkcs7, hfill, hbyte, ← hlast, ← Option.some.inj h]
      exact List.take_append_drop _ _
    · exact absurd h (by simp)

/-- A plaintext is shorter than its ciphertext. -/
theorem pkcs7Strip_shortens {c p : Bytes} (h : pkcs7Strip c = some p) : p.length < c.length := by
  unfold pkcs7Strip at h
  split at h
  · exact absurd h (by simp)
  · rename_i b hb
    have hne : c ≠ [] := by
      rintro rfl
      exact absurd hb (by simp)
    have hpos : 0 < c.length := List.length_pos_iff.mpr hne
    split at h
    · rename_i hc
      rw [← Option.some.inj h, List.length_take]
      omega
    · exact absurd h (by simp)

/-! ## The instance -/

/-- `-----PUBLIC-----` and `-----PRIVATE----`, shortened. -/
def pubPem : Bytes := [80, 85, 66]
def priPem : Bytes := [80, 82, 73]

/-- The wrapped session key. -/
def wrappedKey : Bytes := [75, 69, 89]

/-- The runnable OpenSSL.  A context collects its input; there is one RSA key. -/
def plainOpenSSL : OpenSSL Bytes Unit where
  writePubkey _ := some pubPem
  writePrivateKey _ := some priPem
  readPubkey b := if b = pubPem then some () else none
  readPrivateKey b := if b = priPem then some () else none
  pkeySize k := if k = some () then 4 else 0
  ctxNew := some []
  encryptInit _ _ _ := some []
  encryptUpdate ctx p := some ([], ctx ++ p)
  encryptFinal ctx := some (pkcs7 ctx)
  decryptInit _ _ _ := some []
  decryptUpdate ctx c := some ([], ctx ++ c)
  decryptFinal ctx := pkcs7Strip ctx
  sealInit _ _ rand := some (wrappedKey, (List.range IV_LENGTH).map rand, [])
  sealUpdate ctx p := some ([], ctx ++ p)
  sealFinal ctx := some (pkcs7 ctx)
  openInit _ ek _ key := if ek = wrappedKey ∧ key = some () then some [] else none
  openUpdate ctx c := some ([], ctx ++ c)
  openFinal ctx := pkcs7Strip ctx

/-- One update that gives nothing out yet, and one final block or more. -/
theorem plainOpenSSL_encrypt (key iv p : Bytes) :
    plainOpenSSL.encrypt key iv p = some (pkcs7 p) := by
  show some ([] ++ pkcs7 ([] ++ p)) = _
  rw [List.nil_append, List.nil_append]

/-- Decryption is the removal of the padding. -/
theorem plainOpenSSL_decrypt (key iv c : Bytes) :
    plainOpenSSL.decrypt key iv c = pkcs7Strip c := by
  show (pkcs7Strip ([] ++ c)).map (fun last => [] ++ last) = _
  rw [List.nil_append]
  cases pkcs7Strip c with
  | none => rfl
  | some p => rfl

/-- The laws of the AES round trip hold: any key and nonce undo themselves. -/
theorem plainOpenSSL_aesLaws : plainOpenSSL.AESLaws where
  encrypt_decrypt key iv p _ _ :=
    ⟨pkcs7 p, plainOpenSSL_encrypt key iv p, pkcs7_length p, by
      rw [plainOpenSSL_decrypt, pkcs7Strip_pkcs7]⟩

/-- What decrypts gets shorter, as with PKCS#7. -/
theorem plainOpenSSL_decryptShortens : plainOpenSSL.DecryptShortens := by
  intro key iv c p h
  rw [plainOpenSSL_decrypt] at h
  exact pkcs7Strip_shortens h

/-- An envelope opens for the one key there is, if its wrapped key is the one there is. -/
theorem plainOpenSSL_openEnvelope (key : Option Unit) (e : Envelope) :
    plainOpenSSL.openEnvelope key e
      = if e.encryptedKey = wrappedKey ∧ key = some () then pkcs7Strip e.ciphertext else none := by
  show ((if e.encryptedKey = wrappedKey ∧ key = some () then some ([] : Bytes) else none).bind
    fun ctx => cipher plainOpenSSL.openUpdate plainOpenSSL.openFinal ctx e.ciphertext) = _
  split
  · show (pkcs7Strip ([] ++ e.ciphertext)).map (fun last => [] ++ last) = _
    rw [List.nil_append]
    cases pkcs7Strip e.ciphertext with
    | none => rfl
    | some p => rfl
  · rfl

/-- What is opened gets shorter, too. -/
theorem plainOpenSSL_openShortens : plainOpenSSL.OpenShortens := by
  intro key e p h
  rw [plainOpenSSL_openEnvelope] at h
  split at h
  · exact pkcs7Strip_shortens h
  · exact absurd h (by simp)

/-- The laws of the envelope hold: a written key reads back, and what was sealed opens. -/
theorem plainOpenSSL_sealLaws : plainOpenSSL.SealLaws (fun _ _ => True) where
  pem _ _ _ hpub hpri := by
    cases hpub
    cases hpri
    exact ⟨by decide, by decide, (), (), rfl, rfl, trivial⟩
  pkeySize k := by
    cases k
    exact ⟨by decide, by decide⟩
  seal_open kpub kpri rand p _ := by
    cases kpub
    cases kpri
    refine ⟨wrappedKey, (List.range IV_LENGTH).map rand, pkcs7 p, ?_, by decide, ?_,
      pkcs7_length p, ?_⟩
    · show some (wrappedKey, (List.range IV_LENGTH).map rand, [] ++ pkcs7 ([] ++ p)) = _
      rw [List.nil_append, List.nil_append]
    · rw [List.length_map, List.length_range]
    · rw [plainOpenSSL_openEnvelope, if_pos ⟨rfl, rfl⟩]
      exact pkcs7Strip_pkcs7 p

/-- Whatever opens here was sealed: the wrapped key is one, and only padded blocks can be stripped. -/
theorem plainOpenSSL_envelopeLaws : plainOpenSSL.EnvelopeLaws (fun _ _ => True) where
  toSealLaws := plainOpenSSL_sealLaws
  open_seal kpub kpri e q _ hiv hopen := by
    rw [plainOpenSSL_openEnvelope] at hopen
    split at hopen
    · rename_i hkey
      refine ⟨fun i => e.nonce.getD i 0, ?_⟩
      have hnonce : (List.range IV_LENGTH).map (fun i => e.nonce.getD i 0) = e.nonce := by
        apply List.ext_getElem
        · rw [List.length_map, List.length_range, hiv]
        · intro i hi hi'
          simp [List.getElem?_eq_getElem hi']
      show some (wrappedKey, (List.range IV_LENGTH).map (fun i => e.nonce.getD i 0),
        [] ++ pkcs7 ([] ++ q)) = _
      rw [List.nil_append, List.nil_append, hnonce, pkcs7_of_strip hopen, hkey.1]
    · exact absurd hopen (by simp)

end Cdtp
