/-
  The blocks of a client (`client.c`), over its whole life.

  `HeapSession` is a client of `ClientSession` with the blocks behind its pointers: the object and its
  socket, the key once there is one, that of the handle thread, and those of the event threads and their
  callbacks.  What the calls do is `sessionStep`; beside it stand their calls of `malloc` and `free`.

  `cdtp_client` leaves `client->sock->key` as `malloc` found it, and `connected` and `done` do not say
  whether there is a key.  So a client whose connect fails behind `connect` sends with a wild pointer, and
  is freed with one.  `sessionBlocks_exact` says that this is all that can go wrong: a run meets a fault
  exactly when it makes such a call, and in all other runs every block on loan has an owner, or was lost
  in a branch that forgets it.
-/
import Cdtp.ClientSession
import Cdtp.ThreadBlocks

namespace Cdtp

open CMem hiding malloc
open Ownership Runs

/-! ## State -/

/-- A client, its handle thread, and their blocks. -/
structure HeapSession where
  session : Session
  /-- the `CDTPClient` and its `CDTPSocket`, until they are freed -/
  object : List Nat
  /-- what `client->sock->key` points to, if it points anywhere -/
  key : Option Boxed
  /-- the `CDTPHandleFunc` of a handle thread that has not returned -/
  info : Option Nat
  events : Events

/-- A function of `threading.c`, called by the client. -/
def HeapSession.start (hs : HeapSession) (f : Events → HeapM Events) : HeapM HeapSession := do
  let events ← f hs.events
  pure { hs with events := events }

/-! ## The calls -/

section Functions

variable {Ctx PKey : Type}

/-- The calls of OpenSSL for the public key that the server has sent. -/
def publicKeyCalls (M : Machine) (O : OpenSSL Ctx PKey) (io : ClientExchange) : KeyCalls :=
  match readFrame M io.header io.body with
  | none => { newMemBuf := false, readPem := false }
  | some (buffer, msgSize) =>
    match cryptoRsaPublicKeyFromBytes M buffer msgSize >>= cryptoOpensslRsaPublicKey M O with
    | .ok (some _) => { newMemBuf := true, readPem := true }
    | _ => { newMemBuf := true, readPem := false }

/-- `_cdtp_client_exchange_keys`: it returns false without freeing anything. -/
def heapClientExchangeKeys (M : Machine) (O : OpenSSL Ctx PKey) (io : ClientExchange) :
    HeapM Exchanged :=
  if io.header.code CDTP_LENSIZE = 0 ∨ io.header.code CDTP_LENSIZE = -1 then pure .failed
  else do
    let buffer ← malloc
    match clientKeyMessage M O io with
    | .error _ => pure .crashed
    | .ok none => pure .failed
    | .ok (some (aesKey, _)) => do
      let publicKey ← heapRsaPublicKeyFromBytes
      match ← heapAesKey true with
      | none => pure .crashed
      | some key => do
        match ← heapRsaEncrypt (publicKeyCalls M O io) true allCalls with
        | none => pure .crashed
        | some keyEncrypted => do
          let keyEncoded ← heapConstructMessage
          if io.sendFailed then pure .failed
          else do
            free buffer
            heapRsaPublicKeyFree publicKey
            heapCryptoDataFree keyEncrypted
            free keyEncoded
            pure (.key aesKey key)

/-- `cdtp_client_connect`. -/
def heapClientConnect (M : Machine) (O : OpenSSL Ctx PKey) (o : ConnectOutcome) (io : ClientExchange)
    (hs : HeapSession) : HeapM HeapSession :=
  if hs.session.handle.client.done then pure hs
  else if hs.session.handle.client.connected then pure hs
  else if o.addressOk = false then pure hs
  else if o.connectOk = false then pure hs
  else if o.blockingOk = false then pure hs
  else do
    match ← heapClientExchangeKeys M O io with
    | .crashed => pure hs
    | .failed => pure hs
    | .key _ key => do
      let info ← heapStartLoop o.threadOk
      pure { hs with key := some key, info := info }

/-- `cdtp_client_send`. -/
def heapClientSend (M : Machine) (O : OpenSSL Ctx PKey) (rand : Option (Nat → UInt8)) (data : Bytes)
    (sendOk : Bool) (hs : HeapSession) : HeapM HeapSession :=
  if hs.session.handle.client.connected = false then pure hs
  else
    match hs.key with
    | none => wild
    | some _ =>
      match clientSend M O hs.session.handle.client rand data data.length with
      | .error _ => pure hs
      | .ok (.error _) => pure hs
      | .ok (.ok _) => do
        heapSendMessage sendOk
        pure hs

/-- `cdtp_client_free`. -/
def heapClientFree (hs : HeapSession) : HeapM HeapSession :=
  if hs.session.handle.client.done = false then pure hs
  else
    match hs.key with
    | none => wild
    | some key => do
      heapAesKeyFree key
      frees hs.object
      pure { hs with object := [], key := none }

/-! ## The handle thread -/

/-- `_cdtp_client_call_on_disconnected`. -/
def heapCallOnDisconnected (startOk : Bool) (hs : HeapSession) : HeapM HeapSession :=
  hs.start (heapEvent hs.session.handle.client.onDisconnected startOk)

/-- `_cdtp_client_call_on_recv`. -/
def heapClientCallOnRecv (M : Machine) (O : OpenSSL Ctx PKey) (startOk : Bool) (data : Bytes)
    (dataSize buffer : Nat) (hs : HeapSession) : HeapM HeapSession :=
  match hs.key with
  | none => wild
  | some _ =>
    hs.start (heapCallOnRecv (clientCallOnRecv M O hs.session.handle.client data dataSize) startOk buffer)

/-- What the loop does about what the reads found; the buffer for a body is there once a header was
    read. -/
def heapHandleReact (M : Machine) (O : OpenSSL Ctx PKey) (startOk : Bool) (hs : HeapSession) :
    Received → HeapM HeapSession
  | .headerEnd => heapCallOnDisconnected startOk hs
  | .headerError _ => pure hs
  | .bodyError _ => do
    let _buffer ← malloc
    pure hs
  | .bodyEnd => do
    let _buffer ← malloc
    heapCallOnDisconnected startOk hs
  | .short => do
    let _buffer ← malloc
    pure hs
  | .frame data size => do
    let buffer ← malloc
    heapClientCallOnRecv M O startOk data size buffer hs

/-- The loop takes a turn: it is in its thread, has not returned, and finds the client connected. -/
def Session.Turning (s : Session) : Prop :=
  s.stage = .started ∧ s.handle.status = .running ∧ s.handle.client.connected = true

instance (s : Session) : Decidable s.Turning := inferInstanceAs (Decidable (_ ∧ _ ∧ _))

/-- The blocks of a call, or of a part of the handle thread.  `startOk` says whether the event thread that
    it may start does start. -/
def heapSessionCall (M : Machine) (startOk : Bool) (hs : HeapSession) :
    SessionInput Ctx PKey → HeapM HeapSession
  | .connect O o io _ => heapClientConnect M O o io hs
  | .send O rand data sendOk => heapClientSend M O rand data sendOk hs
  | .disconnect _ _ => pure hs
  | .free => heapClientFree hs
  | .handleInit _ => pure hs
  | .turn O header body _ _ =>
    if hs.session.Turning then
      heapHandleReact M O startOk hs (receive M hs.session.handle.sizeBuffer header body)
    else pure hs

/-- `_cdtp_handle_thread`, once the loop has returned. -/
def heapHandleReturn (hs : HeapSession) : HeapM HeapSession :=
  if hs.session.handle.status = .returned then do
    heapEndLoop hs.info
    pure { hs with info := none }
  else pure hs

/-! ## Runs -/

/-- A call or a part of the handle thread; an event thread that returns; or a callback that is done with
    its payload. -/
inductive ClientInput (Ctx PKey : Type) where
  | call (i : SessionInput Ctx PKey) (startOk : Bool)
  | finish (k : Nat)
  | dispose (k : Nat)

/-- What the inputs do to the client. -/
def clientStep (M : Machine) (s : Session) : ClientInput Ctx PKey → Session
  | .call i _ => sessionStep M s i
  | .finish _ => s
  | .dispose _ => s

/-- What they do to the blocks. -/
def heapClientInput (M : Machine) (hs : HeapSession) : ClientInput Ctx PKey → HeapM HeapSession
  | .call i startOk =>
    if ¬ hs.session.Live then pure hs
    else do
      let hs' ← heapSessionCall M startOk hs i
      heapHandleReturn { hs' with session := sessionStep M hs.session i }
  | .finish k => hs.start (heapFinish k)
  | .dispose k => hs.start (heapDispose k)

/-- One step of the process. -/
def heapSessionStep (M : Machine) (hs : HeapSession) (i : ClientInput Ctx PKey) :
    HeapM (Unit × HeapSession) :=
  if hs.session.handle.status = .crashed then pure ((), hs)
  else do
    let hs ← heapClientInput M hs i
    pure ((), hs)

/-- `cdtp_client`, and a run. -/
def heapClientRun (M : Machine) (session : Session) (is : List (ClientInput Ctx PKey)) :
    HeapM HeapSession := do
  let client ← malloc
  let sock ← malloc
  let r ← answers (heapSessionStep M)
    { session := session, object := [sock, client], key := none, info := none, events := .none } is
  pure r.2

/-! ## What is lost -/

/-- A key exchange that fails loses the buffer for the server's key once there is one, and if it cannot
    send its own key that, the server's (2), the encrypted key (2) and the message as well.  One that
    succeeds loses at most a `BIO`. -/
def clientExchangeLost (M : Machine) (O : OpenSSL Ctx PKey) (io : ClientExchange) : Nat :=
  if io.header.code CDTP_LENSIZE = 0 ∨ io.header.code CDTP_LENSIZE = -1 then 0
  else
    match clientKeyMessage M O io with
    | .error _ => 0
    | .ok none => 1
    | .ok (some _) => (publicKeyCalls M O io).lost + if io.sendFailed then 8 else 0

def connectLost (M : Machine) (client : CDTPClient) (O : OpenSSL Ctx PKey) (o : ConnectOutcome)
    (io : ClientExchange) : Nat :=
  if client.done then 0
  else if client.connected then 0
  else if o.addressOk = false then 0
  else if o.connectOk = false then 0
  else if o.blockingOk = false then 0
  else
    match clientExchangeKeys M O io with
    | .ok (some _) => clientExchangeLost M O io + eventLost true o.threadOk 0
    | _ => clientExchangeLost M O io

/-- A turn loses the buffer of every body that does not come whole. -/
def handleLost (client : CDTPClient) (startOk : Bool) : Received → Nat
  | .headerEnd => eventLost client.onDisconnected startOk 0
  | .headerError _ => 0
  | .bodyError _ => 1
  | .bodyEnd => 1 + eventLost client.onDisconnected startOk 0
  | .short => 1
  | .frame _ _ => eventLost client.onRecv startOk 1

def clientSendLost (M : Machine) (O : OpenSSL Ctx PKey) (client : CDTPClient)
    (rand : Option (Nat → UInt8)) (data : Bytes) (sendOk : Bool) : Nat :=
  match clientSend M O client rand data data.length with
  | .ok (.ok _) => messageLost sendOk
  | _ => 0

def callLost (M : Machine) (s : Session) (startOk : Bool) : SessionInput Ctx PKey → Nat
  | .connect O o io _ => connectLost M s.handle.client O o io
  | .send O rand data sendOk => clientSendLost M O s.handle.client rand data sendOk
  | .disconnect _ _ => 0
  | .free => 0
  | .handleInit _ => 0
  | .turn _ header body _ _ =>
    if s.Turning then handleLost s.handle.client startOk (receive M s.handle.sizeBuffer header body)
    else 0

def clientStepLost (M : Machine) (s : Session) : ClientInput Ctx PKey → Nat
  | .call i startOk => if ¬ s.Live then 0 else callLost M s startOk i
  | .finish _ => 0
  | .dispose _ => 0

/-- What a run loses. -/
def clientLostIn (M : Machine) (s : Session) (is : List (ClientInput Ctx PKey)) : Nat :=
  spent (clientStep M) (clientStepLost M) s is

/-! ## What a client says of its blocks -/

/-- Before it has connected a client has no key and no thread, and a thread that runs has a key. -/
structure Session.Regular (s : Session) : Prop where
  unconnected : s.handle.client.connected = false → s.handle.client.done = false →
    s.keySet = false ∧ s.stage = .notStarted
  key : s.Handling → s.keySet = true

/-- The blocks that `s` speaks of are there. -/
structure HeapSession.Fits (hs : HeapSession) (s : Session) : Prop where
  object : hs.object.length = if s.freed then 0 else 2
  key : hs.key.isSome = (s.keySet && !s.freed)
  info : s.handle.status = .running → hs.info.isSome = (s.stage != .notStarted)

/-- Everything that something points to. -/
def HeapSession.owned (hs : HeapSession) : Multiset Nat :=
  hs.events.blocks + ((hs.object : Multiset Nat) + given Boxed.blocks hs.key +
    given (fun b => {b}) hs.info)

/-- The session is now `s`; unless it crashed, its blocks are there, and `lost` others are lost. -/
def Fitted (s : Session) (lost : Nat) (P : Multiset Nat) (hs : HeapSession) (R : Multiset Nat) :
    Prop :=
  s.handle.status ≠ .crashed → hs.Fits s ∧ Balance hs.owned lost P R

/-- The uses that are safe with a key only. -/
def Use.HasKey (u : Use) : Prop := u ≠ .encrypt false ∧ u ≠ .freeKey false

/-- What the step logs. -/
def usesOf (s : Session) : ClientInput Ctx PKey → List Use
  | .call (.send _ _ _ _) _ =>
    if ¬ s.Live ∨ s.handle.client.connected = false then [] else [.encrypt s.keySet]
  | .call (.disconnect closeOk _) _ =>
    if ¬ s.Live ∨ s.handle.client.connected = false ∨ closeOk = false then []
    else [.join (s.stage != .notStarted)]
  | .call .free _ => if ¬ s.Live ∨ s.handle.client.done = false then [] else [.freeKey s.keySet]
  | _ => []

/-- The step uses a key only if there is one. -/
def KeyedStep (s : Session) (i : ClientInput Ctx PKey) : Prop := ∀ u ∈ usesOf s i, u.HasKey

end Functions

/-! ## The session -/

section Session

variable {Ctx PKey : Type} {M : Machine} {O : OpenSSL Ctx PKey} {s : Session}

/-- A loop that runs behind a turn ran before, and its client is the same or done. -/
theorem handleStep_turn (h : HandleState) (header body : ReadResult) (closeOk threadOk : Bool) :
    ((handleStep M h (.turn header body O closeOk threadOk)).status = .running → h.status = .running) ∧
      ((handleStep M h (.turn header body O closeOk threadOk)).client = h.client ∨
        (handleStep M h (.turn header body O closeOk threadOk)).client.done = true) := by
  have hclosed : ∀ h : HandleState, h.client.connected = true →
      (h.closed closeOk threadOk).client.done = true := by
    intro h hconnected
    unfold HandleState.closed HandleState.disconnect
    rw [hconnected]
    cases closeOk <;> cases threadOk <;> rfl
  unfold handleStep
  rcases hstatus : h.status with _ | _ | _
  · refine ⟨fun _ => rfl, ?_⟩
    by_cases hconnected : h.client.connected = false
    · dsimp only
      rw [if_pos hconnected]
      exact .inl rfl
    dsimp only
    rw [if_neg hconnected, HandleState.turn]
    have hdone := hclosed (h.buffered header) (Bool.not_eq_false _ ▸ hconnected)
    rcases receive M h.sizeBuffer header body with _ | e | e | _ | _ | ⟨data, size⟩
    · exact .inr hdone
    · left
      rw [HandleState.react]
      split
      · rfl
      · rfl
    · exact .inl rfl
    · exact .inr hdone
    · exact .inl rfl
    · left
      rw [HandleState.react]
      split
      · rfl
      · rfl
  · exact ⟨fun h => absurd (hstatus.symm.trans h) (by decide), .inl rfl⟩
  · exact ⟨fun h => absurd (hstatus.symm.trans h) (by decide), .inl rfl⟩

/-- A turn leaves all but the loop. -/
theorem turn_kept (s : Session) (header body : ReadResult) (closeOk threadOk : Bool) :
    (s.turn M O header body closeOk threadOk).freed = s.freed ∧
      (s.turn M O header body closeOk threadOk).keySet = s.keySet ∧
      (s.turn M O header body closeOk threadOk).stage = s.stage ∧
      ((s.turn M O header body closeOk threadOk).handle.status = .running →
        s.handle.status = .running) ∧
      ((s.turn M O header body closeOk threadOk).handle.client = s.handle.client ∨
        (s.turn M O header body closeOk threadOk).handle.client.done = true) := by
  unfold Session.turn
  split
  · exact ⟨rfl, rfl, rfl, id, .inl rfl⟩
  · exact ⟨rfl, rfl, rfl, handleStep_turn s.handle header body closeOk threadOk⟩

/-- What decides whether a session is regular. -/
theorem Session.Regular.congr {s' : Session} (h : s.Regular) (hkey : s'.keySet = s.keySet)
    (hstage : s'.stage = s.stage) (hstatus : s'.handle.status = .running → s.handle.status = .running)
    (hclient : s'.handle.client = s.handle.client ∨ s'.handle.client.done = true) : s'.Regular where
  unconnected := by
    intro hconnected hdone
    rcases hclient with hsame | hdone'
    · rw [hsame] at hconnected hdone
      rw [hkey, hstage]
      exact h.unconnected hconnected hdone
    · exact absurd (hdone'.symm.trans hdone) (by decide)
  key := by
    rintro ⟨hstarted, hrunning⟩
    rw [hkey]
    exact h.key ⟨hstage ▸ hstarted, hstatus hrunning⟩

/-- A connect that gets behind `connect` leaves the client connected. -/
theorem establish_regular (h : s.Regular) (o : ConnectOutcome) (io : ClientExchange) (sizeBuffer : Bytes) :
    (s.establish M O o io sizeBuffer).Regular := by
  have hconnected : ∀ {t : Session}, t.handle.client.connected = true →
      (t.Handling → t.keySet = true) → t.Regular := by
    intro t ht hkey
    exact ⟨fun hno => absurd (ht.symm.trans hno) (by decide), hkey⟩
  unfold Session.establish
  dsimp only
  split
  · exact hconnected rfl h.key
  · split
    · exact hconnected rfl fun hhandling => absurd hhandling.2 Status.noConfusion
    · exact hconnected rfl h.key
    · split
      · exact hconnected rfl fun _ => rfl
      · exact hconnected rfl fun _ => rfl

theorem regular_step (h : s.Regular) (i : SessionInput Ctx PKey) : (sessionStep M s i).Regular := by
  unfold sessionStep
  split
  · exact h
  cases i with
  | connect O o io sizeBuffer =>
    rcases @connect_cases Ctx PKey M O s o io sizeBuffer with ⟨e, heq⟩ | ⟨-, -, -, -, heq⟩
    · dsimp only
      rw [heq]
      exact h.congr rfl rfl id (.inl rfl)
    · dsimp only
      rw [heq]
      exact (establish_regular h o io sizeBuffer).congr rfl rfl id (.inl rfl)
  | send O rand data sendOk =>
    dsimp only [Session.send]
    split
    · exact h.congr rfl rfl id (.inl rfl)
    · split
      · exact h.congr rfl rfl (fun hcrashed => absurd hcrashed Status.noConfusion) (.inl rfl)
      · exact h.congr rfl rfl id (.inl rfl)
      · split
        · exact h.congr rfl rfl id (.inl rfl)
        · exact h.congr rfl rfl id (.inl rfl)
  | disconnect closeOk threadOk =>
    have hdone : ∀ {t : Session}, t.handle.client.done = true → (t.Handling → t.keySet = true) →
        t.Regular := by
      intro t ht hkey
      exact ⟨fun _ hno => absurd (ht.symm.trans hno) (by decide), hkey⟩
    dsimp only
    unfold Session.disconnect
    rcases hconnected : s.handle.client.connected with _ | _
    · exact h.congr rfl rfl id (.inl rfl)
    unfold HandleState.disconnect
    rw [hconnected]
    cases closeOk with
    | false => exact hdone rfl h.key
    | true =>
      cases threadOk with
      | false => exact hdone rfl h.key
      | true => exact hdone rfl fun hhandling => absurd hhandling.2 Status.noConfusion
  | free =>
    dsimp only [Session.free]
    split
    · exact h.congr rfl rfl id (.inl rfl)
    · exact h.congr rfl rfl id (.inl rfl)
  | handleInit nonBlockingOk =>
    dsimp only [Session.handleInit]
    split
    · exact h
    · rename_i hstarting
      have hstage : s.stage ≠ .notStarted := by
        rw [not_not.mp hstarting]
        decide
      split
      · refine ⟨fun hconnected hdone => absurd (h.unconnected hconnected hdone).2 hstage, ?_⟩
        exact fun hhandling => absurd hhandling.2 Status.noConfusion
      · refine ⟨fun hconnected hdone => absurd (h.unconnected hconnected hdone).2 hstage, ?_⟩
        exact fun hhandling => h.key ⟨hstage, hhandling.2⟩
  | turn O header body closeOk threadOk =>
    obtain ⟨-, hkey, hstage, hstatus, hclient⟩ :=
      @turn_kept Ctx PKey M O s header body closeOk threadOk
    exact h.congr hkey hstage hstatus hclient

theorem establish_uses (o : ConnectOutcome) (io : ClientExchange) (sizeBuffer : Bytes) :
    (s.establish M O o io sizeBuffer).uses = s.uses := by
  unfold Session.establish
  dsimp only
  split
  · rfl
  · split
    · rfl
    · rfl
    · split
      · rfl
      · rfl

theorem usesOf_of_not_live (hlive : ¬ s.Live) (i : ClientInput Ctx PKey) : usesOf s i = [] := by
  cases i with
  | finish k => rfl
  | dispose k => rfl
  | call i startOk =>
    cases i with
    | send O rand data sendOk => exact if_pos (.inl hlive)
    | disconnect closeOk threadOk => exact if_pos (.inl hlive)
    | free => exact if_pos (.inl hlive)
    | connect O o io sizeBuffer => rfl
    | handleInit nonBlockingOk => rfl
    | turn O header body closeOk threadOk => rfl

/-- **What a step logs** is added behind what is there. -/
theorem clientStep_uses (s : Session) (i : ClientInput Ctx PKey) :
    (clientStep M s i).uses = s.uses ++ usesOf s i := by
  have hnil : s.uses = s.uses ++ [] := (List.append_nil _).symm
  cases i with
  | finish k => exact hnil
  | dispose k => exact hnil
  | call i startOk =>
    show (sessionStep M s i).uses = _
    unfold sessionStep
    by_cases hlive : s.Live
    · rw [if_neg (not_not.mpr hlive)]
      cases i with
      | connect O o io sizeBuffer =>
        rcases @connect_cases Ctx PKey M O s o io sizeBuffer with ⟨e, heq⟩ | ⟨-, -, -, -, heq⟩
        · dsimp only
          rw [heq]
          exact hnil
        · dsimp only
          rw [heq]
          exact (establish_uses o io sizeBuffer).trans hnil
      | send O rand data sendOk =>
        dsimp only [Session.send, usesOf]
        by_cases hconnected : s.handle.client.connected = false
        · rw [if_pos hconnected, if_pos (.inr hconnected)]
          exact hnil
        · rw [if_neg hconnected, if_neg (not_or.mpr ⟨not_not.mpr hlive, hconnected⟩)]
          split
          · rfl
          · rfl
          · split
            · rfl
            · rfl
      | disconnect closeOk threadOk =>
        dsimp only [Session.disconnect, usesOf]
        by_cases hconnected : s.handle.client.connected = false
        · rw [if_pos hconnected, if_pos (.inr (.inl hconnected))]
          exact hnil
        · rw [if_neg hconnected]
          by_cases hclose : closeOk = false
          · rw [if_pos hclose, if_pos (.inr (.inr hclose))]
            exact hnil
          · rw [if_neg hclose,
              if_neg (not_or.mpr ⟨not_not.mpr hlive, not_or.mpr ⟨hconnected, hclose⟩⟩)]
            split
            · rfl
            · rfl
      | free =>
        dsimp only [Session.free, usesOf]
        by_cases hdone : s.handle.client.done = false
        · rw [if_pos hdone, if_pos (.inr hdone)]
          exact hnil
        · rw [if_neg hdone, if_neg (not_or.mpr ⟨not_not.mpr hlive, hdone⟩)]
      | handleInit nonBlockingOk =>
        dsimp only [Session.handleInit, usesOf]
        split
        · exact hnil
        · split
          · exact hnil
          · exact hnil
      | turn O header body closeOk threadOk =>
        dsimp only [Session.turn, usesOf]
        split
        · exact hnil
        · exact hnil
    · rw [if_pos hlive, usesOf_of_not_live hlive]
      exact hnil

/-- What has been logged stays. -/
theorem run_uses (is : List (ClientInput Ctx PKey)) : ∀ s : Session,
    s.uses <+: (run (clientStep M) s is).uses := by
  induction is with
  | nil => intro s; exact List.prefix_refl _
  | cons i is ih =>
    intro s
    apply List.IsPrefix.trans _ (ih (clientStep M s i))
    rw [clientStep_uses]
    exact List.prefix_append _ _

/-- **The log says** whether all steps had the key that they used. -/
theorem along_keyed_iff (is : List (ClientInput Ctx PKey)) : ∀ s : Session, (∀ u ∈ s.uses, u.HasKey) →
    (Along (clientStep M) KeyedStep s is ↔ ∀ u ∈ (run (clientStep M) s is).uses, u.HasKey) := by
  induction is with
  | nil => intro s h; exact ⟨fun _ => h, fun _ => trivial⟩
  | cons i is ih =>
    intro s h
    have hafter : (∀ u ∈ (clientStep M s i).uses, u.HasKey) ↔ KeyedStep s i := by
      rw [clientStep_uses]
      constructor
      · exact fun hall u hu => hall u (List.mem_append_right _ hu)
      · intro hkeyed u hu
        rcases List.mem_append.mp hu with hold | hnew
        · exact h u hold
        · exact hkeyed u hnew
    rw [run_cons]
    constructor
    · rintro ⟨hi, hrest⟩
      exact (ih _ (hafter.mpr hi)).mp hrest
    · intro hall
      have hnow : ∀ u ∈ (clientStep M s i).uses, u.HasKey :=
        fun u hu => hall u ((run_uses is (clientStep M s i)).subset hu)
      exact ⟨hafter.mp hnow, (ih _ hnow).mpr hall⟩

end Session

/-! ## The calls, again -/

section Calls

variable {Ctx PKey : Type} {M : Machine} {O : OpenSSL Ctx PKey} {hs : HeapSession} {P : Multiset Nat}
  {startOk : Bool}

/-- **A key exchange** keeps the key, and otherwise all it had or nothing. -/
theorem heapClientExchangeKeys_triple (io : ClientExchange) :
    Triple P (heapClientExchangeKeys M O io)
      (ExchangeBlocks (clientExchangeKeys M O io) (clientExchangeLost M O io) P) := by
  rw [heapClientExchangeKeys, clientExchangeLost]
  by_cases hheader : io.header.code CDTP_LENSIZE = 0 ∨ io.header.code CDTP_LENSIZE = -1
  · rw [if_pos hheader, if_pos hheader]
    have hmsg : clientKeyMessage M O io = .ok none := by
      rw [clientKeyMessage, readFrame_of_header hheader]
      rfl
    refine Triple.pure (.inr (.inl ⟨?_, rfl, 0, (zero_add P).symm, rfl⟩))
    rw [clientExchangeKeys, hmsg]
    rfl
  rw [if_neg hheader, if_neg hheader]
  apply Triple.malloc_then
  intro buffer
  rw [clientExchangeKeys]
  rcases hmsg : clientKeyMessage M O io with e | _ | ⟨key, message⟩
  · exact Triple.pure (.inl ⟨⟨e, rfl⟩, rfl⟩)
  · exact Triple.pure (.inr (.inl ⟨rfl, rfl, {buffer}, rfl, rfl⟩))
  apply allocBoxed_triple.bind
  rintro publicKey R rfl
  apply (heapAesKey_triple true).bind
  rintro r R ⟨hsome, L, rfl, hcard⟩
  obtain ⟨b, rfl⟩ := Option.isSome_iff_exists.mp hsome
  obtain rfl := Multiset.card_eq_zero.mp hcard
  apply (heapRsaEncrypt_triple (publicKeyCalls M O io) true allCalls).bind
  rintro r R ⟨hsome, L, rfl, hcard⟩
  obtain ⟨keyEncrypted, rfl⟩ := Option.isSome_iff_exists.mp hsome
  apply heapConstructMessage_triple.bind
  rintro keyEncoded R rfl
  have hlost : L.card = (publicKeyCalls M O io).lost := hcard
  rcases hsend : io.sendFailed with _ | _
  · apply Triple.free_then (P := publicKey.blocks + (keyEncrypted.blocks + ({keyEncoded} +
      (b.blocks + L + P))))
    · simp only [given]
      abel
    apply freeBoxed_then rfl
    apply freeBoxed_then rfl
    apply Triple.free_then rfl
    exact Triple.pure (.inr (.inr ⟨key, b, rfl, rfl, L, rfl, hlost⟩))
  · refine Triple.pure (.inr (.inl ⟨rfl, rfl,
      L + ({keyEncoded} + keyEncrypted.blocks + b.blocks + publicKey.blocks + {buffer}), ?_, ?_⟩))
    · simp only [given]
      abel
    · rw [Multiset.card_add, hlost]
      rfl

theorem HeapSession.Fits.congr {s s' : Session} (h : hs.Fits s) (hfreed : s'.freed = s.freed)
    (hkey : s'.keySet = s.keySet) (hstage : s'.stage = s.stage)
    (hstatus : s'.handle.status = .running → s.handle.status = .running) : hs.Fits s' where
  object := by rw [hfreed, h.object]
  key := by rw [hfreed, hkey, h.key]
  info hrunning := by rw [hstage, h.info (hstatus hrunning)]

/-- The call has moved no blocks. -/
theorem Fitted.same {s : Session} (h : hs.Fits s) : Fitted s 0 P hs (hs.owned + P) :=
  fun _ => ⟨h, Balance.same⟩

/-- A key is there if the session says so. -/
theorem HeapSession.Fits.key_some {s : Session} (h : hs.Fits s) (hfreed : s.freed = false)
    (hkey : s.keySet = true) : ∃ key, hs.key = some key := by
  apply Option.isSome_iff_exists.mp
  rw [h.key, hfreed, hkey]
  rfl

/-- Nothing points to a key or a thread of a client that has neither. -/
theorem HeapSession.Fits.key_none {s : Session} (h : hs.Fits s) (hkey : s.keySet = false) :
    hs.key = none := by
  apply Option.isNone_iff_eq_none.mp
  rw [← Option.not_isSome, h.key, hkey]
  rfl

/-- The blocks, and what the session says of them, between two inputs. -/
structure HeapSession.Whole (hs : HeapSession) : Prop where
  fits : hs.Fits hs.session
  regular : hs.session.Regular
  returned : hs.session.handle.status = .returned → hs.info = none

/-- **A connect**: the key is the client's, the thread has its block, and a failure forgets what it had. -/
theorem heapClientConnect_triple (h : hs.Whole) (hlive : hs.session.Live) (o : ConnectOutcome)
    (io : ClientExchange) (sizeBuffer : Bytes) :
    Triple (hs.owned + P) (heapClientConnect M O o io hs)
      (Fitted (hs.session.connect M O o io sizeBuffer)
        (connectLost M hs.session.handle.client O o io) P) := by
  have hrefused : ∀ e, Triple (hs.owned + P) (pure hs) (Fitted (hs.session.report e) 0 P) :=
    fun e => Triple.pure (Fitted.same (h.fits.congr rfl rfl rfl id))
  unfold heapClientConnect connectLost Session.connect
  rcases hdone : hs.session.handle.client.done with _ | _
  swap
  · exact hrefused _
  rcases hconnected : hs.session.handle.client.connected with _ | _
  swap
  · exact hrefused _
  rcases haddress : o.addressOk with _ | _
  · exact hrefused _
  rcases hconnect : o.connectOk with _ | _
  · exact hrefused _
  obtain ⟨hkeySet, hstage⟩ := h.regular.unconnected hconnected hdone
  have hkey : hs.key = none := h.fits.key_none hkeySet
  have hinfo : hs.info = none := by
    rcases hstatus : hs.session.handle.status with _ | _ | _
    · apply Option.isNone_iff_eq_none.mp
      rw [← Option.not_isSome, h.fits.info hstatus, hstage]
      rfl
    · exact h.returned hstatus
    · exact absurd hstatus hlive.1
  unfold Session.establish
  rcases hblocking : o.blockingOk with _ | _
  · exact Triple.pure (Fitted.same (h.fits.congr rfl rfl rfl id))
  apply (heapClientExchangeKeys_triple io).bind
  rintro r R (⟨⟨e, hexchange⟩, rfl⟩ | ⟨hexchange, rfl, L, rfl, hcard⟩ |
    ⟨key, b, hexchange, rfl, L, rfl, hcard⟩)
  · rw [hexchange]
    exact Triple.pure fun hcrashed => absurd rfl hcrashed
  · rw [hexchange]
    exact Triple.pure fun _ => ⟨h.fits.congr rfl rfl rfl id, L, by abel, hcard⟩
  rw [hexchange]
  apply (heapStartLoop_triple o.threadOk).bind
  rintro info R ⟨hsome, L', rfl, hcard'⟩
  apply Triple.pure
  have howned : given (fun b => {b}) info + L' + (b.blocks + L + (hs.owned + P))
      = ({ hs with key := some b, info := info } : HeapSession).owned + (L + L') + P := by
    simp only [HeapSession.owned, hkey, hinfo, given]
    abel
  intro _
  have hlost : (L + L').card = clientExchangeLost M O io + eventLost true o.threadOk 0 := by
    rw [Multiset.card_add, hcard, hcard']
  refine ⟨?_, L + L', howned, hlost⟩
  have hobject := h.fits.object
  rcases hthread : o.threadOk with _ | _
  · refine ⟨hobject, ?_, fun _ => ?_⟩
    · show true = (true && !hs.session.freed)
      rw [hlive.2]
      rfl
    · show info.isSome = (hs.session.stage != .notStarted)
      rw [hsome, hthread, hstage]
      rfl
  · refine ⟨hobject, ?_, fun _ => ?_⟩
    · show true = (true && !hs.session.freed)
      rw [hlive.2]
      rfl
    · show info.isSome = (HandleStage.starting != .notStarted)
      rw [hsome, hthread]
      rfl

/-- **A message** of a client with a key. -/
theorem heapClientSend_triple (h : hs.Whole) (key : Boxed)
    (hkey : hs.session.handle.client.connected = true → hs.key = some key)
    (rand : Option (Nat → UInt8)) (data : Bytes) (sendOk : Bool) :
    Triple (hs.owned + P) (heapClientSend M O rand data sendOk hs)
      (Fitted (hs.session.send M O rand data sendOk)
        (clientSendLost M O hs.session.handle.client rand data sendOk) P) := by
  unfold heapClientSend clientSendLost Session.send
  by_cases hconnected : hs.session.handle.client.connected = false
  · rw [if_pos hconnected, if_pos hconnected, clientSend, if_pos hconnected]
    exact Triple.pure (Fitted.same (h.fits.congr rfl rfl rfl id))
  rw [if_neg hconnected, if_neg hconnected, hkey (Bool.not_eq_false _ ▸ hconnected)]
  dsimp only
  rcases clientSend M O hs.session.handle.client rand data data.length with e | (e | message)
  · exact Triple.pure fun hcrashed => absurd rfl hcrashed
  · exact Triple.pure (Fitted.same (h.fits.congr rfl rfl rfl id))
  apply (heapSendMessage_triple sendOk).bind
  rintro _ R ⟨L, rfl, hcard⟩
  refine Triple.pure fun _ => ⟨?_, L, by abel, hcard⟩
  cases sendOk with
  | false => exact h.fits.congr rfl rfl rfl id
  | true => exact h.fits.congr rfl rfl rfl id

/-- **A client with a key is freed** whole. -/
theorem heapClientFree_triple (h : hs.Whole) (key : Boxed)
    (hkey : hs.session.handle.client.done = true → hs.key = some key) :
    Triple (hs.owned + P) (heapClientFree hs) (Fitted hs.session.free 0 P) := by
  unfold heapClientFree Session.free
  by_cases hdone : hs.session.handle.client.done = false
  · rw [if_pos hdone, if_pos hdone]
    exact Triple.pure (Fitted.same (h.fits.congr rfl rfl rfl id))
  rw [if_neg hdone, if_neg hdone]
  have hkey := hkey (Bool.not_eq_false _ ▸ hdone)
  rw [hkey]
  let after : HeapSession := { hs with object := [], key := none }
  apply freeBoxed_then (P := (hs.object : Multiset Nat) + (after.owned + P))
  · simp only [after, HeapSession.owned, hkey, given, Multiset.coe_nil]
    abel
  apply Triple.frees_then rfl
  refine Triple.pure (Fitted.same ⟨rfl, ?_, h.fits.info⟩)
  show false = (hs.session.keySet && !true)
  rw [Bool.not_true, Bool.and_false]

/-! ### The handle thread -/

/-- The events have moved, and `lost` blocks are lost. -/
def Kept (hs : HeapSession) (lost : Nat) (P : Multiset Nat) (hs' : HeapSession) (R : Multiset Nat) :
    Prop :=
  (∃ events, hs' = { hs with events := events }) ∧ Balance hs'.owned lost P R

/-- What a function of the threads does, the client does. -/
theorem HeapSession.start_triple {f : Events → HeapM Events} {B : Multiset Nat} {lost : Nat}
    (h : ∀ P, Triple (B + (hs.events.blocks + P)) (f hs.events) (Keeps lost P)) :
    Triple (B + (hs.owned + P)) (hs.start f) (Kept hs lost P) := by
  apply (Triple.part h).bind
  intro events R hbalance
  exact Triple.pure ⟨⟨events, rfl⟩, hbalance⟩

theorem clientCallOnRecv_isSome {client : CDTPClient} {data : Bytes} {size : Nat}
    {payload : Option CryptoData} (h : clientCallOnRecv M O client data size = .ok payload) :
    payload.isSome = client.onRecv := by
  simp only [clientCallOnRecv, ← bind_assoc] at h
  exact isSome_of_registered h

/-- **A turn**: only the buffer of a body that does not come whole is forgotten. -/
theorem heapHandleReact_triple {key : Boxed} (hkey : hs.key = some key) {s : HandleState}
    (hclient : s.client = hs.session.handle.client) (closeOk threadOk : Bool) (r : Received) :
    Triple (hs.owned + P) (heapHandleReact M O startOk hs r) fun hs' R =>
      (s.react M O closeOk threadOk r).status = .crashed ∨
        Kept hs (handleLost hs.session.handle.client startOk r) P hs' R := by
  have hevent : ∀ P, Triple (hs.owned + P) (heapCallOnDisconnected startOk hs)
      (Kept hs (eventLost hs.session.handle.client.onDisconnected startOk 0) P) := by
    intro P
    rw [← zero_add (hs.owned + P)]
    apply HeapSession.start_triple
    intro P
    rw [zero_add]
    exact heapEvent_triple _
  have hbuffer : ∀ b, Kept hs 1 P hs ({b} + (hs.owned + P)) :=
    fun b => ⟨⟨hs.events, rfl⟩, Balance.forget (Multiset.card_singleton b)⟩
  cases r with
  | headerEnd => exact (hevent P).mono fun _ _ h => .inr h
  | headerError e => exact Triple.pure (.inr ⟨⟨hs.events, rfl⟩, Balance.same⟩)
  | bodyError e =>
    apply Triple.malloc_then
    intro buffer
    exact Triple.pure (.inr (hbuffer buffer))
  | bodyEnd =>
    apply Triple.malloc_then
    intro buffer
    rw [add_left_comm]
    apply (hevent ({buffer} + P)).mono
    intro hs' R h
    exact .inr ⟨h.1, h.2.add⟩
  | short =>
    apply Triple.malloc_then
    intro buffer
    exact Triple.pure (.inr (hbuffer buffer))
  | frame data size =>
    apply Triple.malloc_then
    intro buffer
    rw [HandleState.react, hclient, heapClientCallOnRecv, hkey]
    rcases hcall : clientCallOnRecv M O hs.session.handle.client data size with e | payload
    · exact Triple.pure (.inl rfl)
    · show Triple _ _ fun hs' R => _ ∨ Kept hs
        (eventLost hs.session.handle.client.onRecv startOk 1) P hs' R
      rw [← clientCallOnRecv_isSome hcall]
      apply (HeapSession.start_triple fun P => heapCallOnRecv_triple).mono
      intro hs' R h
      exact .inr h

/-- **The thread takes a turn**, or not. -/
theorem heapTurn_triple (h : hs.Whole) (hlive : hs.session.Live) (header body : ReadResult)
    (closeOk threadOk : Bool) :
    Triple (hs.owned + P)
      (heapSessionCall M startOk hs (.turn O header body closeOk threadOk))
      (Fitted (hs.session.turn M O header body closeOk threadOk)
        (callLost M hs.session startOk (.turn O header body closeOk threadOk)) P) := by
  obtain ⟨hfreed, hkeySet, hstage, hstatus, -⟩ :=
    @turn_kept Ctx PKey M O hs.session header body closeOk threadOk
  have hfits := h.fits.congr hfreed hkeySet hstage hstatus
  rw [heapSessionCall, callLost]
  by_cases hturning : hs.session.Turning
  · rw [if_pos hturning, if_pos hturning]
    obtain ⟨hstarted, hrunning, hconnected⟩ := hturning
    have hhandling : hs.session.Handling := by
      refine ⟨?_, hrunning⟩
      rw [hstarted]
      decide
    obtain ⟨key, hkey⟩ := h.fits.key_some hlive.2 (h.regular.key hhandling)
    have hturn : (hs.session.turn M O header body closeOk threadOk).handle
        = (hs.session.handle.buffered header).react M O closeOk threadOk
            (receive M hs.session.handle.sizeBuffer header body) := by
      unfold Session.turn
      rw [if_neg (not_not.mpr hstarted)]
      dsimp only
      unfold handleStep
      rw [hrunning, hconnected]
      rfl
    apply (heapHandleReact_triple (s := hs.session.handle.buffered header) hkey rfl closeOk threadOk
      _).mono
    rintro hs' R (hcrashed | ⟨⟨events, rfl⟩, hblocks⟩)
    · exact fun hno => absurd ((congrArg HandleState.status hturn).trans hcrashed) hno
    · exact fun _ => ⟨⟨hfits.object, hfits.key, hfits.info⟩, hblocks⟩
  · rw [if_neg hturning, if_neg hturning]
    exact Triple.pure (Fitted.same hfits)

/-! ### One step -/

/-- **A call, or a part of the handle thread**, that has the key it uses. -/
theorem heapSessionCall_triple (h : hs.Whole) (hlive : hs.session.Live) (i : SessionInput Ctx PKey)
    (hkeyed : KeyedStep hs.session (.call i startOk)) :
    Triple (hs.owned + P) (heapSessionCall M startOk hs i)
      (Fitted (sessionStep M hs.session i) (callLost M hs.session startOk i) P) := by
  unfold sessionStep
  rw [if_neg (not_not.mpr hlive)]
  cases i with
  | connect O o io sizeBuffer =>
    apply (heapClientConnect_triple h hlive o io sizeBuffer).mono
    intro hs' R hfitted hno
    obtain ⟨hfits, hblocks⟩ := hfitted hno
    exact ⟨hfits.congr rfl rfl rfl id, hblocks⟩
  | send O rand data sendOk =>
    by_cases hconnected : hs.session.handle.client.connected = false
    · exact heapClientSend_triple h { self := 0, data := 0 }
        (fun htrue => absurd (hconnected.symm.trans htrue) (by decide)) rand data sendOk
    · rw [KeyedStep, usesOf, if_neg (not_or.mpr ⟨not_not.mpr hlive, hconnected⟩)] at hkeyed
      have hset : hs.session.keySet = true := by
        by_contra hno
        rw [Bool.eq_false_iff.mpr hno] at hkeyed
        exact (hkeyed _ List.mem_cons_self).1 rfl
      obtain ⟨key, hkey⟩ := h.fits.key_some hlive.2 hset
      exact heapClientSend_triple h key (fun _ => hkey) rand data sendOk
  | disconnect closeOk threadOk =>
    refine Triple.pure (Fitted.same ?_)
    dsimp only
    unfold Session.disconnect
    split
    · exact h.fits.congr rfl rfl rfl id
    · rename_i hconnected
      unfold HandleState.disconnect
      rw [if_neg hconnected]
      cases closeOk with
      | false => exact h.fits.congr rfl rfl rfl id
      | true =>
        cases threadOk with
        | false => exact h.fits.congr rfl rfl rfl id
        | true =>
          exact ⟨h.fits.object, h.fits.key, fun hrunning => absurd hrunning Status.noConfusion⟩
  | free =>
    by_cases hdone : hs.session.handle.client.done = false
    · exact heapClientFree_triple h { self := 0, data := 0 }
        (fun htrue => absurd (hdone.symm.trans htrue) (by decide))
    · rw [KeyedStep, usesOf, if_neg (not_or.mpr ⟨not_not.mpr hlive, hdone⟩)] at hkeyed
      have hset : hs.session.keySet = true := by
        by_contra hno
        rw [Bool.eq_false_iff.mpr hno] at hkeyed
        exact (hkeyed _ List.mem_cons_self).2 rfl
      obtain ⟨key, hkey⟩ := h.fits.key_some hlive.2 hset
      exact heapClientFree_triple h key (fun _ => hkey)
  | handleInit nonBlockingOk =>
    refine Triple.pure (Fitted.same ?_)
    dsimp only
    unfold Session.handleInit
    split
    · exact h.fits
    · rename_i hstarting
      split
      · exact ⟨h.fits.object, h.fits.key, fun hrunning => absurd hrunning Status.noConfusion⟩
      · refine ⟨h.fits.object, h.fits.key, fun hrunning => ?_⟩
        rw [h.fits.info hrunning, not_not.mp hstarting]
        rfl
  | turn O header body closeOk threadOk => exact heapTurn_triple h hlive header body closeOk threadOk

/-- And without one it meets the wild pointer. -/
theorem heapSessionCall_faults (h : hs.Whole) (hlive : hs.session.Live) (i : SessionInput Ctx PKey)
    (hkeyless : ¬ KeyedStep hs.session (.call i startOk)) :
    Faults P (heapSessionCall M startOk hs i) := by
  have hnil : usesOf hs.session (.call i startOk) ≠ [] := by
    intro hnil
    apply hkeyless
    rw [KeyedStep, hnil]
    exact fun _ hu => absurd hu List.not_mem_nil
  have hunset : ∀ u : Bool → Use, (u true).HasKey →
      usesOf hs.session (.call i startOk) = [u hs.session.keySet] → hs.key = none := by
    intro u hu huses
    apply h.fits.key_none
    by_contra hset
    apply hkeyless
    rw [Bool.not_eq_false] at hset
    rw [KeyedStep, huses, hset]
    intro u' hu'
    rw [List.mem_singleton.mp hu']
    exact hu
  cases i with
  | connect O o io sizeBuffer => exact absurd rfl hnil
  | handleInit nonBlockingOk => exact absurd rfl hnil
  | turn O header body closeOk threadOk => exact absurd rfl hnil
  | disconnect closeOk threadOk =>
    exfalso
    apply hkeyless
    intro u hu
    rw [usesOf] at hu
    split at hu
    · exact absurd hu List.not_mem_nil
    · rw [List.mem_singleton.mp hu]
      exact ⟨Use.noConfusion, Use.noConfusion⟩
  | send O rand data sendOk =>
    by_cases hconnected : hs.session.handle.client.connected = false
    · rw [usesOf, if_pos (.inr hconnected)] at hnil
      exact absurd rfl hnil
    · have hkey := hunset .encrypt ⟨by decide, by decide⟩
        (if_neg (not_or.mpr ⟨not_not.mpr hlive, hconnected⟩))
      rw [heapSessionCall, heapClientSend, if_neg hconnected, hkey]
      exact Faults.wild
  | free =>
    by_cases hdone : hs.session.handle.client.done = false
    · rw [usesOf, if_pos (.inr hdone)] at hnil
      exact absurd rfl hnil
    · have hkey := hunset .freeKey ⟨by decide, by decide⟩
        (if_neg (not_or.mpr ⟨not_not.mpr hlive, hdone⟩))
      rw [heapSessionCall, heapClientFree, if_neg hdone, hkey]
      exact Faults.wild

/-- **The thread returns** with its loop. -/
theorem heapHandleReturn_triple (hs : HeapSession) {lost : Nat} {R : Multiset Nat}
    (hregular : hs.session.Regular) (h : Fitted hs.session lost P hs R) :
    Triple R (heapHandleReturn hs) fun hs' R' =>
      hs'.session = hs.session ∧ (hs.session.handle.status ≠ .crashed →
        hs'.Whole ∧ ∃ L, R' = hs'.owned + L + P ∧ L.card = lost) := by
  rw [heapHandleReturn]
  rcases hstatus : hs.session.handle.status with _ | _ | _
  · obtain ⟨hfits, hblocks⟩ := h (by rw [hstatus]; decide)
    rw [if_neg (by decide)]
    refine Triple.pure ⟨rfl, fun _ => ⟨⟨hfits, hregular, fun hreturned => ?_⟩, hblocks⟩⟩
    exact absurd (hstatus.symm.trans hreturned) (by decide)
  · obtain ⟨hfits, L, rfl, hcard⟩ := h (by rw [hstatus]; decide)
    rw [if_pos rfl]
    let after : HeapSession := { hs with info := none }
    apply heapEndLoop_then (P := after.owned + L + P)
    · simp only [after, HeapSession.owned, given]
      abel
    · refine Triple.pure ⟨rfl, fun _ => ⟨⟨⟨hfits.object, hfits.key, ?_⟩, hregular, fun _ => rfl⟩, L, rfl,
        hcard⟩⟩
      exact fun hrunning => absurd (hstatus.symm.trans hrunning) (by decide)
  · rw [if_neg (by decide)]
    exact Triple.pure ⟨rfl, fun hno => absurd rfl hno⟩

/-- **One step of the process.** -/
theorem heapSessionStep_triple (h : hs.Whole) (hno : hs.session.handle.status ≠ .crashed)
    (i : ClientInput Ctx PKey) (hkeyed : KeyedStep hs.session i) :
    Triple (hs.owned + P) (heapSessionStep M hs i) fun r R =>
      r.2.session = clientStep M hs.session i ∧ (r.2.session.handle.status ≠ .crashed →
        r.2.Whole ∧ ∃ L, R = r.2.owned + L + P ∧ L.card = clientStepLost M hs.session i) := by
  rw [heapSessionStep, if_neg hno]
  have hevents : ∀ f : Events → HeapM Events,
      (∀ P, Triple (hs.events.blocks + P) (f hs.events) (Keeps 0 P)) →
      Triple (hs.owned + P) (hs.start f) fun hs' R =>
        hs'.session = hs.session ∧ hs'.Whole ∧ ∃ L, R = hs'.owned + L + P ∧ L.card = 0 := by
    intro f hf
    have hstart := @HeapSession.start_triple hs P f 0 0 fun P => by
      rw [zero_add]
      exact hf P
    rw [zero_add] at hstart
    apply hstart.mono
    rintro hs' R ⟨⟨events, rfl⟩, hblocks⟩
    exact ⟨rfl, ⟨⟨h.fits.object, h.fits.key, h.fits.info⟩, h.regular, h.returned⟩, hblocks⟩
  cases i with
  | finish k =>
    apply (hevents (heapFinish k) fun P => heapFinish_triple k).bind
    rintro hs' R ⟨hsession, hrest⟩
    exact Triple.pure ⟨hsession, fun _ => hrest⟩
  | dispose k =>
    apply (hevents (heapDispose k) fun P => heapDispose_triple k).bind
    rintro hs' R ⟨hsession, hrest⟩
    exact Triple.pure ⟨hsession, fun _ => hrest⟩
  | call i startOk =>
    rw [clientStep, clientStepLost]
    by_cases hlive : hs.session.Live
    · rw [if_neg (not_not.mpr hlive)]
      have hcall : Triple (hs.owned + P) (heapClientInput M hs (.call i startOk)) fun hs' R =>
          hs'.session = sessionStep M hs.session i ∧
            ((sessionStep M hs.session i).handle.status ≠ .crashed →
              hs'.Whole ∧ ∃ L, R = hs'.owned + L + P ∧ L.card = callLost M hs.session startOk i) := by
        rw [heapClientInput, if_neg (not_not.mpr hlive)]
        apply (heapSessionCall_triple h hlive i hkeyed).bind
        intro hs' R hfitted
        apply heapHandleReturn_triple { hs' with session := sessionStep M hs.session i }
          (regular_step h.regular i)
        intro hno'
        obtain ⟨hfits, hblocks⟩ := hfitted hno'
        exact ⟨⟨hfits.object, hfits.key, hfits.info⟩, hblocks⟩
      apply hcall.bind
      rintro hs' R ⟨hsession, hrest⟩
      refine Triple.pure ⟨hsession, fun hno' => hrest ?_⟩
      rw [← hsession]
      exact hno'
    · rw [if_pos hlive, heapClientInput, if_pos hlive]
      have hsame : sessionStep M hs.session i = hs.session := if_pos hlive
      rw [hsame]
      apply (Triple.pure (Q := fun hs' R => hs' = hs ∧ R = hs.owned + P) ⟨rfl, rfl⟩).bind
      rintro hs' R ⟨rfl, rfl⟩
      exact Triple.pure ⟨rfl, fun _ => ⟨h, 0, by rw [add_zero], rfl⟩⟩

theorem heapSessionStep_faults (h : hs.Whole) (hno : hs.session.handle.status ≠ .crashed)
    (i : ClientInput Ctx PKey) (hkeyless : ¬ KeyedStep hs.session i) :
    Faults P (heapSessionStep M hs i) := by
  have hnil : usesOf hs.session i = [] → False := by
    intro hnil
    apply hkeyless
    rw [KeyedStep, hnil]
    exact fun _ hu => absurd hu List.not_mem_nil
  rw [heapSessionStep, if_neg hno]
  apply Faults.bind
  cases i with
  | finish k => exact absurd rfl hnil
  | dispose k => exact absurd rfl hnil
  | call i startOk =>
    by_cases hlive : hs.session.Live
    · rw [heapClientInput, if_neg (not_not.mpr hlive)]
      exact (heapSessionCall_faults h hlive i hkeyless).bind
    · exact absurd (usesOf_of_not_live hlive _) hnil

end Calls

end Cdtp
