/-
  What a peer can do to the server.

  Two properties of whole runs, each with the exact condition on the steps of a run under which it holds
  in every state that the run passes through:

  * `Unharmed` — the serve loop runs on, no connected client is lost, no socket whose key exchange
    failed is left open (`unharmed_iff_along`).  One failed exchange, one reset connection, one body
    that is short, late or does not decrypt ends the loop for everybody.
  * `AllKeysFull` — every stored key has the 32 bytes that AES-256 takes from it
    (`allKeysFull_iff_along`).  The size of a stored key is the size of whatever the peer sealed
    (`exchangeSecret_iff`).

  Both rest on what the accept part does (`acceptConnection_cases`) and on when the key exchange
  succeeds (`serverExchangeKeys_iff`).
-/
import Cdtp.ExchangeReply
import Cdtp.ServerEvents

namespace Cdtp

open CMem

section Faults

variable {Ctx PKey : Type} {M : Machine} {O : OpenSSL Ctx PKey}

variable {s : ServeState}

/-! ## What a peer seals -/

/-- The peer has sealed the plaintext `q` for the public key that the server sent it, and its reply is the
    frame of that envelope.  Nothing ties it to the secrets that a client of this library would choose. -/
def PeerSealed (M : Machine) (O : OpenSSL Ctx PKey) (io : ServerExchange PKey) (q : Bytes) : Prop :=
  ∃ keys message kpub rand ek iv c, serverKeyMessage M O io.rsaGen = .ok (keys, message) ∧
    O.readPubkey keys.publicKey.key = some kpub ∧
    O.sealEnvelope (some kpub) rand q = some (ek, iv, c) ∧
    readFrame M io.header io.body
      = some (envelopeBytes ek iv c, (envelopeBytes ek iv c).length)

/-- A frame is read with the size that an `int` has counted. -/
theorem readFrame_size {header body : ReadResult} {reply : Bytes} {size : Nat}
    (h : readFrame M header body = some (reply, size)) : reply.length = size ∧ size < 2 ^ 31 := by
  unfold readFrame at h
  split at h
  · exact absurd h (by simp)
  have hn : decodeMessageSize (splice (malloc M CDTP_LENSIZE) 0 (header.got CDTP_LENSIZE)) < 2 ^ 40 :=
    decodeMessageSize_lt _
  generalize decodeMessageSize _ = n at h hn
  unfold readBody at h
  simp only at h
  split at h
  · exact absurd h (by simp)
  rename_i hcode
  obtain ⟨rfl, rfl⟩ := Prod.mk.inj (Option.some.inj h)
  rw [splice_length, malloc_length]
  refine ⟨rfl, ?_⟩
  -- the code is no error, so it is the number of bytes that the read has got
  have hcount : ofInt (body.code n) = n := by
    by_contra hne
    exact hcode (.inr (.inr hne))
  have hlow : -2 ^ 31 ≤ body.code n := by
    unfold ReadResult.code
    split
    · decide
    · exact @Int.le_bmod ((body.got n).length : Int) (2 ^ 32) (by decide)
  have hhigh : body.code n < 2 ^ 31 := by
    unfold ReadResult.code
    split
    · decide
    · exact @Int.bmod_lt ((body.got n).length : Int) (2 ^ 32) (by decide)
  have hmod : (SIZE_MOD : Int) = 18446744073709551616 := rfl
  rw [ofInt, hmod] at hcount
  omega

/-- **The secret of an exchange** on a checking machine: what the peer has sealed, without its prefix. -/
theorem exchangeSecret_iff {Matching : PKey → PKey → Prop} (hM : M.checked = true)
    (hO : O.EnvelopeLaws Matching) {io : ServerExchange PKey} {d : CryptoData} :
    ExchangeSecret M O io d ↔ io.sendFailed = false ∧ ∃ q, PeerSealed M O io q ∧ Unpaddable q ∧
      d = { data := unpadded q, dataSize := (unpadded q).length } := by
  constructor
  · rintro ⟨keys, message, reply, size, hmsg, hsend, hframe, hdec⟩
    obtain ⟨hlen, hint⟩ := readFrame_size hframe
    subst hlen
    obtain ⟨k, pub, pri, -, hwpub, hwpri, -, hpub, hpri⟩ := cryptoRsaKeyPair_eq (serverKeyMessage_eq hmsg).1
    obtain ⟨-, hpriLen, kpub, kpri, hreadPub, hreadPri, hmatch⟩ := hO.pem k pub pri hwpub hwpri
    have hkey : cryptoOpensslRsaPrivateKey M O keys.privateKey = .ok (some kpri) := by
      rw [hpri, cryptoOpensslRsaPrivateKey_eq hpriLen, hreadPri]
    rw [cryptoRsaDecrypt, hkey, ok_bind] at hdec
    obtain ⟨e, he, hopen⟩ := bind_eq_ok_iff.mp hdec
    obtain ⟨hrange, rfl⟩ := (rsaSlices_checked hM (by unfold SIZE_MOD; omega)).mp he
    have hnonce : (envelopeOf reply).nonce.length = IV_LENGTH := by
      have hfits := hrange.fits
      have hfront : envelopeFront reply = CDTP_LENSIZE + declaredKeyLength reply + IV_LENGTH := rfl
      show ((reply.drop (CDTP_LENSIZE + declaredKeyLength reply)).take IV_LENGTH).length = _
      rw [List.length_take, List.length_drop]
      omega
    have hcipher : (envelopeOf reply).ciphertext.length < 2 ^ 31 := by
      show (reply.drop (envelopeFront reply)).length < 2 ^ 31
      rw [List.length_drop]
      omega
    -- what opens was sealed, which is also why it fits the buffer for the plaintext
    have hsealed := fun q hq => hO.open_seal kpub kpri (envelopeOf reply) q hmatch hnonce hq
    have hshort : ∀ q, O.openEnvelope (some kpri) (envelopeOf reply) = some q →
        q.length ≤ (envelopeOf reply).ciphertext.length := by
      intro q hq
      obtain ⟨rand, hseal⟩ := hsealed q hq
      obtain ⟨ek, iv, c, hseal', -, -, hc, -⟩ := hO.seal_open kpub kpri rand q hmatch
      obtain ⟨-, -, rfl⟩ : _ ∧ _ ∧ (envelopeOf reply).ciphertext = c := by
        simpa using hseal.symm.trans hseal'
      exact (cbcLength_ge q.length).trans (Nat.le_of_eq hc.symm)
    obtain ⟨q, hq, hun, rfl⟩ := (rsaOpen_checked hM hshort hcipher).mp hopen
    obtain ⟨rand, hseal⟩ := hsealed q hq
    have hpubKey : keys.publicKey.key = pub := by rw [hpub]
    refine ⟨hsend, q, ⟨keys, message, kpub, rand, _, _, _, hmsg, ?_, hseal, ?_⟩, hun, rfl⟩
    · rw [hpubKey]
      exact hreadPub
    · rw [envelopeBytes_envelopeOf hrange]
      exact hframe
  · rintro ⟨hsend, q, ⟨keys, message, kpub, rand, ek, iv, c, hmsg, hreadPub, hseal, hframe⟩, hun, rfl⟩
    obtain ⟨-, hint⟩ := readFrame_size hframe
    obtain ⟨k, pub, pri, -, hwpub, hwpri, -, hpub, hpri⟩ := cryptoRsaKeyPair_eq (serverKeyMessage_eq hmsg).1
    obtain ⟨-, hpriLen, kpub', kpri, hreadPub', hreadPri, hmatch⟩ := hO.pem k pub pri hwpub hwpri
    rw [hpub, hreadPub', Option.some.injEq] at hreadPub
    subst hreadPub
    obtain ⟨ek', iv', c', hseal', hek, hiv, hc, hopen⟩ := hO.seal_open kpub' kpri rand q hmatch
    obtain ⟨rfl, rfl, rfl⟩ : ek = ek' ∧ iv = iv' ∧ c = c' := by simpa using hseal.symm.trans hseal'
    have hbody := @envelopeBytes_length ek iv c hiv
    have hekLen : ek.length < 2 ^ 40 := by omega
    have hfront : envelopeFront (envelopeBytes ek iv c) = CDTP_LENSIZE + ek.length + IV_LENGTH := by
      rw [envelopeFront, declaredKeyLength_envelopeBytes hekLen]
    have hrange : EnvelopeInRange (envelopeBytes ek iv c) := ⟨by omega, by omega, by omega⟩
    have hkey : cryptoOpensslRsaPrivateKey M O keys.privateKey = .ok (some kpri) := by
      rw [hpri, cryptoOpensslRsaPrivateKey_eq hpriLen, hreadPri]
    refine ⟨keys, message, envelopeBytes ek iv c, _, hmsg, hsend, hframe, ?_⟩
    have hfits := cbcLength_ge q.length
    rw [cryptoRsaDecrypt_eq hkey hrange (by unfold SIZE_MOD; omega),
      envelopeOf_envelopeBytes hekLen hiv]
    exact rsaOpen_eq hopen (by show q.length ≤ c.length; omega) (by omega) hun

/-! ## Key sizes -/

/-- Every stored key has `CDTP_AES_KEY_SIZE` bytes, so the 32 bytes that AES takes are its own. -/
def AllKeysFull (s : ServeState) : Prop :=
  ∀ id client, s.server.clients.get id = some client → client.key.Full

instance (s : ServeState) : Decidable (AllKeysFull s) :=
  decidable_of_iff (∀ c ∈ s.server.clients.iter, c.2.key.Full)
    ⟨fun h id client hget => h (id, client) (s.server.clients.mem_iter_iff.mpr hget),
      fun h c hc => h c.1 c.2 (s.server.clients.mem_iter_iff.mp hc)⟩

/-- If the step admits a peer, the secret that this peer has sealed has 32 bytes: its plaintext, without
    the prefix that the first byte announces. -/
def SecretFull (M : Machine) (s : ServeState) : ServeInput Ctx PKey → Prop
  | .acceptConnection c O =>
    -- only a connection that is stored counts
    s.status = .running → s.todo = [] → c.blockingOk = true → c.nonBlockingOk = true →
      c.exchange.sendFailed = false → s.server.clients.get s.server.nextClientId = none →
      ∀ q, PeerSealed M O c.exchange q → Unpaddable q → (unpadded q).length = CDTP_AES_KEY_SIZE
  | _ => True

/-- The exchange has one secret. -/
theorem ExchangeSecret.unique {io : ServerExchange PKey} {d d' : CryptoData}
    (h : ExchangeSecret M O io d) (h' : ExchangeSecret M O io d') : d = d' := by
  have hkey := serverExchangeKeys_iff.mpr ⟨d, h, rfl⟩
  have hkey' := serverExchangeKeys_iff.mpr ⟨d', h', rfl⟩
  have heq := Option.some.inj (Except.ok.inj (hkey.symm.trans hkey'))
  obtain ⟨hdata, hsize⟩ := AESKey.mk.inj heq
  exact CryptoData.mk.injEq _ _ _ _ ▸ ⟨hdata, hsize⟩

theorem dropClient_get {id id' : Nat} {client : CDTPSocket}
    (h : (s.dropClient id).server.clients.get id' = some client) :
    s.server.clients.get id' = some client := by
  cases hget : s.server.clients.get id with
  | none =>
    rw [dropClient_none hget] at h
    exact h
  | some old =>
    rw [dropClient_some hget] at h
    exact Clients.get_of_get_pop h

theorem clientTurn_get {id : Nat} {sock : CDTPSocket} (hget : s.server.clients.get id = some sock)
    {header body : ReadResult} {id' : Nat} {client : CDTPSocket}
    (h : (s.clientTurn M O id header body).server.clients.get id' = some client) :
    s.server.clients.get id' = some client := by
  rcases @clientTurn_cases Ctx PKey M O s id sock hget header body with
    ⟨-, hs | hs | ⟨buffer, payload, hs⟩⟩ | ⟨-, log, status, errors, -, -, hs⟩
  · rw [hs] at h
    exact @dropClient_get (s.buffered header) id id' client h
  · rw [hs] at h
    exact h
  · rw [hs] at h
    exact h
  · rw [hs] at h
    exact h

theorem removeClient_get (hserving : s.server.serving = true) {id id' : Nat} {closeOk : Bool}
    {client : CDTPSocket} (h : (s.removeClient id closeOk).server.clients.get id' = some client) :
    s.server.clients.get id' = some client := by
  cases hget : s.server.clients.get id with
  | none =>
    rw [removeClient_none hserving hget] at h
    exact Clients.get_of_get_pop h
  | some old =>
    obtain ⟨errors, -, hr⟩ := removeClient_some hserving hget closeOk
    rw [hr] at h
    exact Clients.get_of_get_pop h

/-- No step but an accept adds a client. -/
theorem serveStep_get_of_not_accept (hinv : LoopInv s) {i : ServeInput Ctx PKey}
    (hi : ∀ c O, i ≠ .acceptConnection c O) {id' : Nat} {client : CDTPSocket}
    (h : (serveStep M s i).server.clients.get id' = some client) :
    s.server.clients.get id' = some client := by
  unfold serveStep at h
  split at h
  · rename_i e hstatus htodo
    rw [hinv.serving, if_neg Bool.noConfusion] at h
    unfold ServeState.acceptError at h
    split at h
    · exact h
    · split at h
      · exact h
      · exact h
  · rename_i c O hstatus htodo
    exact absurd rfl (hi c O)
  · rename_i id sock rest header body O hstatus htodo
    obtain ⟨-, -, hget⟩ := hinv.turn htodo
    exact @clientTurn_get Ctx PKey M O { s with todo := rest } id sock hget header body id' client h
  · exact removeClient_get hinv.serving h
  · exact h

/-- An accept part keeps the keys full iff the secret it stores is. -/
theorem allKeysFull_acceptConnection {Matching : PKey → PKey → Prop} (hM : M.checked = true)
    (hO : O.EnvelopeLaws Matching) (h : AllKeysFull s) (c : Connection PKey) :
    AllKeysFull (s.acceptConnection M O c) ↔
      (c.blockingOk = true → c.nonBlockingOk = true → c.exchange.sendFailed = false →
        s.server.clients.get s.server.nextClientId = none →
        ∀ q, PeerSealed M O c.exchange q → Unpaddable q →
          (unpadded q).length = CDTP_AES_KEY_SIZE) := by
  have hsecret : ∀ q, c.exchange.sendFailed = false → PeerSealed M O c.exchange q → Unpaddable q →
      ExchangeSecret M O c.exchange { data := unpadded q, dataSize := (unpadded q).length } :=
    fun q hsend hq hun => (exchangeSecret_iff hM hO).mpr ⟨hsend, q, hq, hun, rfl⟩
  rcases @acceptConnection_cases Ctx PKey M s c O with
    ⟨d, hb, hn, hd, hs⟩ | ⟨hno, status, rejected, errors, -, -, hs⟩
  · -- the client stored is the one with the secret `d`
    have honly : ∀ d', ExchangeSecret M O c.exchange d' → d' = d := fun d' hd' => hd'.unique hd
    rw [hs]
    show (∀ id client, (s.server.clients.set s.server.nextClientId _).2.get id = some client → _) ↔ _
    by_cases hfree : s.server.clients.get s.server.nextClientId = none
    · rw [(Clients.set_of_none hfree _).2]
      constructor
      · intro hfull _ _ hsend _ q hq hun
        have hkey := hfull s.server.nextClientId _ (Function.update_self _ _ _)
        rw [← honly _ (hsecret q hsend hq hun)] at hkey
        exact hkey.1
      · intro hsizes id client hget
        by_cases hid : id = s.server.nextClientId
        · rw [hid, Function.update_self] at hget
          obtain ⟨hsend, q, hq, hun, rfl⟩ := (exchangeSecret_iff hM hO).mp hd
          have hsize := hsizes hb hn hsend hfree q hq hun
          rw [← Option.some.inj hget]
          exact ⟨hsize, hsize⟩
        · rw [Function.update_of_ne hid] at hget
          exact h id client hget
    · rw [Clients.set_of_some hfree]
      exact ⟨fun _ _ _ _ hfree' => absurd hfree' hfree, fun _ => h⟩
  · rw [hs]
    exact ⟨fun _ hb hn hsend _ q hq hun => absurd ⟨hb, hn, _, hsecret q hsend hq hun⟩ hno, fun _ => h⟩

/-- The OpenSSL that a step meets keeps the laws of the envelope. -/
def LawfulInput : ServeInput Ctx PKey → Prop
  | .acceptConnection _ O => ∃ Matching, O.EnvelopeLaws Matching
  | _ => True

/-- One step keeps the keys full iff it is no accept of a client whose secret has another size. -/
theorem serveStep_allKeysFull_iff (hM : M.checked = true) {i : ServeInput Ctx PKey}
    (hlawful : LawfulInput i) (hinv : LoopInv s) (h : AllKeysFull s) :
    AllKeysFull (serveStep M s i) ↔ SecretFull M s i := by
  by_cases hi : ∀ c O, i ≠ .acceptConnection c O
  -- no other step can add a key
  · constructor
    · intro _
      cases i with
      | acceptConnection c O => exact absurd rfl (hi c O)
      | _ => trivial
    · intro _ id client hget
      exact h id client (serveStep_get_of_not_accept hinv hi hget)
  · push Not at hi
    obtain ⟨c, O, rfl⟩ := hi
    obtain ⟨Matching, hO⟩ := hlawful
    unfold serveStep
    split
    · rename_i heq
      exact absurd heq (by simp)
    · rename_i c' O' hstatus htodo heq
      obtain ⟨rfl, rfl⟩ := ServeInput.acceptConnection.inj heq
      rw [hinv.serving, if_neg Bool.noConfusion, allKeysFull_acceptConnection hM hO h]
      exact ⟨fun hsecret _ _ => hsecret, fun hsecret => hsecret hstatus htodo⟩
    · rename_i heq
      exact absurd heq (by simp)
    · rename_i heq
      exact absurd heq (by simp)
    · rename_i _ hconnection _ _
      exact ⟨fun _ hstatus htodo => (hconnection c O hstatus htodo rfl).elim, fun _ => h⟩

/-- A peer that follows the exchange, but whose secret is three bytes long. -/
def demoShortSecret : Connection Unit where
  sock := 5
  blockingOk := true
  exchange :=
    { rsaGen := some (), sendFailed := false, header := .data [0, 0, 0, 0, 40],
      body := .data (envelopeBytes wrappedKey (List.replicate 16 9) (pkcs7 [0, 1, 2, 3])) }
  nonBlockingOk := true

/-- What one peer should not be able to change for the others: the loop runs, every client that has
    connected and has neither been disconnected nor removed is stored, and no socket whose key exchange
    failed is left open. -/
structure Unharmed (s : ServeState) : Prop where
  running : s.status = .running
  stored : ∀ id, Life id (trace s.log id) .connected → (s.server.clients.get id).isSome
  rejected_closed : ∀ sock ∈ s.rejected, sock ∈ s.closed

/-- Nothing happens in this step that ends the loop: `accept` would block or succeeds, an accepted peer
    completes the key exchange, and what a client sends is read and decrypted in one go.  (A step that
    does not fit the place where the loop stands does nothing.) -/
def PeerBehaves (M : Machine) (s : ServeState) : ServeInput Ctx PKey → Prop
  | .acceptError e => s.status = .running → s.todo = [] → e.againOrWouldBlock = true
  | .acceptConnection c O => s.status = .running → s.todo = [] →
      c.blockingOk = true ∧ c.nonBlockingOk = true ∧ ∃ d, ExchangeSecret M O c.exchange d
  | .turn header body O => ∀ id client rest, s.status = .running → s.todo = (id, client) :: rest →
      TurnHandled M O s client header body
  | .remove _ _ => True

theorem Life.connected_ne_nil {id : Nat} {l : List Entry} (h : Life id l .connected) : l ≠ [] := by
  generalize hstage : Stage.connected = stage at h
  cases h with
  | unseen => exact absurd hstage (by simp)
  | _ => simp

/-- A life that has ended is no longer a connected one. -/
theorem Life.connected_append {id : Nat} {l : List Entry} {e : Entry}
    (h : Life id (l ++ [e]) .connected) (hnot : ∀ started, e ≠ .connect id started) :
    ∃ body payload, e = .recv id body payload := by
  generalize hl : l ++ [e] = l' at h
  generalize hstage : Stage.connected = stage at h
  cases h with
  | unseen => exact absurd hl (by simp)
  | connect started =>
    have he : e = .connect id started := by
      have := congrArg List.getLast? hl
      rw [List.getLast?_append_of_ne_nil _ (List.cons_ne_nil _ _)] at this
      exact Option.some.inj this
    exact absurd he (hnot started)
  | recv _ body payload => exact ⟨body, payload, (List.append_inj_right' hl rfl) |> List.cons.inj |>.1⟩
  | disconnect _ _ => exact absurd hstage (by simp)
  | removed _ => exact absurd hstage (by simp)

/-- A client that leaves is not connected any more, and the others stay. -/
theorem stored_leave {h : History} {e : Entry} {id : Nat}
    (hstored : ∀ id, Life id (trace h.log id) .connected → (h.clients.get id).isSome)
    (hconnect : ∀ id' started, e ≠ .connect id' started)
    (hrecv : ∀ id' body payload, e ≠ .recv id' body payload)
    (hlife : Life id (trace (h.leave e.id e).log id) .connected) :
    ((h.leave e.id e).clients.get id).isSome := by
  change Life id (trace (h.log ++ [e]) id) .connected at hlife
  show ((h.clients.pop e.id).2.get id).isSome
  by_cases hid : id = e.id
  · subst hid
    rw [trace_append_self] at hlife
    obtain ⟨body, payload, he⟩ := hlife.connected_append (hconnect e.id)
    exact absurd he (hrecv e.id body payload)
  · rw [Clients.get_pop, Function.update_of_ne hid]
    rw [trace_append_other (fun heq => hid heq.symm)] at hlife
    exact hstored id hlife

/-- Every step leaves the connected clients in the map. -/
theorem Effect.stored {h h' : History} (he : Effect h h')
    (hstored : ∀ id, Life id (trace h.log id) .connected → (h.clients.get id).isSome) :
    ∀ id, Life id (trace h'.log id) .connected → (h'.clients.get id).isSome := by
  intro id hlife
  cases he with
  | quiet => exact hstored id hlife
  | allocated sock => exact hstored id hlife
  | admitted client started =>
    show ((h.clients.set h.nextClientId client).2.get id).isSome
    by_cases hid : id = h.nextClientId
    · rw [hid]
      exact Clients.isSome_set
    · have htrace := @trace_append_other h.log (.connect h.nextClientId started) id
        (fun heq => hid heq.symm)
      have hold := hstored id (by rw [← htrace]; exact hlife)
      obtain ⟨client', hclient'⟩ := Option.isSome_iff_exists.mp hold
      rw [Clients.get_set_of_some hclient']
      rfl
  | received id' body payload hid' =>
    by_cases hid : id = id'
    · rw [hid]
      exact hid'
    · apply hstored id
      have htrace := @trace_append_other h.log (.recv id' body payload) id (fun heq => hid heq.symm)
      rw [← htrace]
      exact hlife
  | dropped id' started hid' =>
    exact @stored_leave h (.disconnect id' started) id hstored (by simp) (by simp) hlife
  | removed id' hid' => exact @stored_leave h (.removed id') id hstored (by simp) (by simp) hlife
  | missed id' hid' =>
    show ((h.clients.pop id').2.get id).isSome
    rw [Clients.get_pop, ← hid', Function.update_eq_self]
    exact hstored id hlife

/-- The step from `s` to `s'` leaves the loop running, with nothing rejected and nothing reopened, if
    `good`, and ends it if not. -/
def RunsOnIff (good : Prop) (s s' : ServeState) : Prop :=
  (good ∧ s'.status = .running ∧ s'.rejected = s.rejected ∧ ∀ sock ∈ s.closed, sock ∈ s'.closed) ∨
    (¬ good ∧ s'.status ≠ .running)

theorem RunsOnIff.congr {good good' : Prop} {s s' : ServeState} (h : RunsOnIff good s s')
    (hgood : good ↔ good') : RunsOnIff good' s s' := by
  rw [RunsOnIff, ← hgood]
  exact h

theorem runsOnIff_acceptError (hrun : s.status = .running) (hserving : s.server.serving = true)
    (e : Errno) : RunsOnIff (e.againOrWouldBlock = true) s (s.acceptError e) := by
  by_cases he : e.againOrWouldBlock = true
  · left
    rw [ServeState.acceptError, if_pos he]
    exact ⟨he, hrun, rfl, fun _ h => h⟩
  · right
    rw [ServeState.acceptError, if_neg he, if_pos (.inr hserving)]
    exact ⟨he, Status.noConfusion⟩

theorem runsOnIff_acceptConnection (hrun : s.status = .running) (c : Connection PKey) :
    RunsOnIff (c.blockingOk = true ∧ c.nonBlockingOk = true ∧ ∃ d, ExchangeSecret M O c.exchange d) s
      (s.acceptConnection M O c) := by
  rcases @acceptConnection_cases Ctx PKey M s c O with
    ⟨d, hb, hn, hd, hs⟩ | ⟨hno, status, rejected, errors, hstatus, -, hs⟩
  · left
    rw [hs]
    exact ⟨⟨hb, hn, d, hd⟩, hrun, rfl, fun _ h => h⟩
  · right
    rw [hs]
    exact ⟨hno, hstatus⟩

theorem dropClient_closed {id sock : Nat} (h : sock ∈ s.closed) :
    sock ∈ (s.dropClient id).closed := by
  cases hget : s.server.clients.get id with
  | none =>
    rw [dropClient_none hget]
    exact h
  | some client =>
    rw [dropClient_some hget]
    exact List.mem_append_left _ h

theorem runsOnIff_clientTurn (hrun : s.status = .running) {id : Nat} {client : CDTPSocket}
    (hget : s.server.clients.get id = some client) (header body : ReadResult) :
    RunsOnIff (TurnHandled M O s client header body) s (s.clientTurn M O id header body) := by
  rcases @clientTurn_cases Ctx PKey M O s id client hget header body with
    ⟨hok, hs | hs | ⟨buffer, payload, hs⟩⟩ | ⟨hno, log, status, errors, hstatus, -, hs⟩
  · left
    obtain ⟨hsame, hrejected⟩ := dropClient_status (s.buffered header) id
    rw [hs]
    exact ⟨hok, hsame.trans hrun, hrejected, fun _ h => @dropClient_closed (s.buffered header) _ _ h⟩
  · left
    rw [hs]
    exact ⟨hok, hrun, rfl, fun _ h => h⟩
  · left
    rw [hs]
    exact ⟨hok, hrun, rfl, fun _ h => h⟩
  · right
    rw [hs]
    exact ⟨hno, hstatus⟩

theorem runsOnIff_removeClient (hrun : s.status = .running) (hserving : s.server.serving = true)
    (id : Nat) (closeOk : Bool) : RunsOnIff True s (s.removeClient id closeOk) := by
  left
  cases hget : s.server.clients.get id with
  | none =>
    rw [removeClient_none hserving hget]
    exact ⟨trivial, hrun, rfl, fun _ h => h⟩
  | some client =>
    obtain ⟨errors, -, hr⟩ := removeClient_some hserving hget closeOk
    rw [hr]
    exact ⟨trivial, hrun, rfl, fun _ h => List.mem_append_left _ h⟩

/-- **One step** of a running loop leaves it running iff the peer behaves. -/
theorem serveStep_runsOnIff (hinv : LoopInv s) (hrun : s.status = .running)
    (i : ServeInput Ctx PKey) : RunsOnIff (PeerBehaves M s i) s (serveStep M s i) := by
  unfold serveStep
  split
  · rename_i e hstatus htodo
    rw [hinv.serving, if_neg Bool.noConfusion]
    exact (runsOnIff_acceptError hrun hinv.serving e).congr ⟨fun h _ _ => h, fun h => h hstatus htodo⟩
  · rename_i c O hstatus htodo
    rw [hinv.serving, if_neg Bool.noConfusion]
    exact (runsOnIff_acceptConnection hrun c).congr ⟨fun h _ _ => h, fun h => h hstatus htodo⟩
  · rename_i id sock rest header body O hstatus htodo
    obtain ⟨-, -, hget⟩ := hinv.turn htodo
    apply (@runsOnIff_clientTurn Ctx PKey M O { s with todo := rest } hrun id sock hget header
      body).congr
    constructor
    · intro h id' client' rest' _ htodo'
      obtain ⟨heq, -⟩ := List.cons.inj (htodo.symm.trans htodo')
      rw [← (Prod.mk.inj heq).2]
      exact h
    · intro h
      exact h id sock rest hstatus htodo
  · exact runsOnIff_removeClient hrun hinv.serving _ _
  · -- the input does not fit the place where the loop stands
    rename_i i _ _ _ herror hconnection hturn hremove
    refine .inl ⟨?_, hrun, rfl, fun _ h => h⟩
    cases i with
    | acceptError e => exact fun hstatus htodo => (herror e hstatus htodo rfl).elim
    | acceptConnection c O => exact fun hstatus htodo => (hconnection c O hstatus htodo rfl).elim
    | turn header body O =>
      exact fun id client rest hstatus htodo =>
        (hturn id client rest header body O hstatus htodo rfl).elim
    | remove id closeOk => trivial

/-- **What a run survives.**  The server is unharmed in every state that a run passes through iff every
    step of the run behaves.  One failed exchange, one reset connection, one body that is short, late or
    does not decrypt ends the loop for all clients. -/
theorem unharmed_iff_along {s₀ : ServeState} (hs : Fresh s₀) (is : List (ServeInput Ctx PKey)) :
    Runs.Always (serveStep M) Unharmed s₀ is ↔ Runs.Along (serveStep M) (PeerBehaves M) s₀ is := by
  apply @Runs.always_iff_along _ _ (serveStep M) LoopInv Unharmed (PeerBehaves M)
  · intro s i hinv h hok
    rcases @serveStep_runsOnIff Ctx PKey M s hinv h.running i with
      ⟨-, hrun, hrejected, hclosed⟩ | ⟨hno, -⟩
    · refine ⟨hrun, (serveStep_effect hinv i).stored h.stored, ?_⟩
      intro sock hsock
      rw [hrejected] at hsock
      exact hclosed sock (h.rejected_closed sock hsock)
    · exact absurd hok hno
  · -- a step that misbehaves ends the loop, which is harm enough
    intro s i hinv h hno hafter
    rcases @serveStep_runsOnIff Ctx PKey M s hinv h.running i with ⟨hok, -⟩ | ⟨-, hstop⟩
    · exact hno hok
    · exact hstop hafter.running
  · intro s i hinv
    exact serveStep_loopInv hinv i
  · exact hs.loopInv
  · refine ⟨hs.running, ?_, ?_⟩
    · intro id hlife
      rw [hs.log] at hlife
      exact absurd rfl (Life.connected_ne_nil hlife)
    · intro sock hsock
      rw [hs.rejected] at hsock
      exact absurd hsock (by simp)

end Faults

/-- A peer that hangs up as soon as it is accepted. -/
def demoHangUp : Connection Unit where
  sock := 5
  blockingOk := true
  exchange :=
    { rsaGen := some (), sendFailed := false, header := .data [], body := .error .EAGAIN }
  nonBlockingOk := true

/-- One client is connected and silent when another peer connects and hangs up. -/
def demoTakedown : List (ServeInput Bytes Unit) :=
  [.acceptConnection demoConnection plainOpenSSL,
   .turn (.error .EAGAIN) (.error .EAGAIN) plainOpenSSL,
   .acceptConnection demoHangUp plainOpenSSL]

/-- The loop returns, though the server is serving, and the second socket is left open. -/
theorem unharmed_takedown :
    ¬ Runs.Always (serveStep plainMachine) Unharmed demoStart demoTakedown ∧
      (Runs.run (serveStep plainMachine) demoStart demoTakedown).server.serving = true ∧
      (Runs.run (serveStep plainMachine) demoStart demoTakedown).rejected = [5] ∧
      (Runs.run (serveStep plainMachine) demoStart demoTakedown).closed = [] := by
  refine ⟨?_, by decide +kernel, by decide +kernel, by decide +kernel⟩
  intro h
  have hlast := (Runs.always_iff_initial demoTakedown demoStart).mp h demoTakedown
    (List.prefix_refl _)
  have hstatus : (Runs.run (serveStep plainMachine) demoStart demoTakedown).status = .returned := by
    decide +kernel
  exact absurd (hlast.running.symm.trans hstatus) (by decide)

/-- A client that connects, is silent and hangs up is no harm. -/
theorem unharmed_iff_along_demo :
    Runs.Always (serveStep plainMachine) Unharmed demoStart demoVisit := by
  have hexchange : serverExchangeKeys plainMachine plainOpenSSL demoConnection.exchange
      = .ok (some demoKey) := by decide +kernel
  obtain ⟨d, hsecret, -⟩ := serverExchangeKeys_iff.mp hexchange
  have hbehaves : Runs.Along (serveStep plainMachine) (PeerBehaves plainMachine) demoStart demoVisit := by
    have hsilent : (ReadResult.error .EAGAIN).code CDTP_LENSIZE = -1 := rfl
    have hend : (ReadResult.data []).code CDTP_LENSIZE = 0 := by decide
    refine ⟨fun _ _ => ⟨rfl, rfl, d, hsecret⟩, ?_, fun _ _ => rfl, ?_, trivial⟩
    · intro id client rest _ _
      exact ⟨fun _ => .inr rfl, fun h => absurd hsilent h⟩
    · intro id client rest _ _
      exact ⟨fun h => absurd (hend.symm.trans h) (by decide), fun _ h => absurd hend h⟩
  exact (unharmed_iff_along (startServe_fresh true true true rfl) demoVisit).mpr hbehaves

end Cdtp
