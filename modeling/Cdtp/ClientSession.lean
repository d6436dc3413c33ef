/-
  The life of a client object (`client.c`): connect, send, disconnect, free, and the handle thread.

  `connected` is to say that there is a key to send with and a handle loop that receives.
  `cdtp_client_connect` sets it before the socket is made blocking, the keys are exchanged and the thread
  is started, and does not take it back when one of these fails; and of the exits of the handle loop only
  those behind the end of the stream clear it.  Nothing shows until a later call believes the flag.

  A `Session` is a client with its handle thread, between two calls and between two turns of the loop;
  what the calls do that is only safe with a key, or with a thread, is logged in `uses`.
  `connected_truthful_iff` says in which runs the flag is right throughout.
-/
import Cdtp.FrameSafety
import Cdtp.Lib.Runs

namespace Cdtp

open CMem Runs

/-! ## State -/

/-- How far the handle thread has come. -/
inductive HandleStage where
  | notStarted
  /-- it has not made the socket non-blocking yet -/
  | starting
  | started
  deriving DecidableEq, Repr

/-- A call of `cdtp_client_connect`: the flag before and after it, and whether it reported an error. -/
structure ConnectCall where
  wasConnected : Bool
  reported : Bool
  connected : Bool
  deriving DecidableEq, Repr

/-- What a call does that needs a key, or a thread. -/
inductive Use where
  | encrypt (keySet : Bool)
  | join (threadStarted : Bool)
  | freeKey (keySet : Bool)
  deriving DecidableEq, Repr

structure Session where
  /-- the client object, and the handle loop once it has started -/
  handle : HandleState
  stage : HandleStage
  /-- `client->sock->key` has been assigned -/
  keySet : Bool
  connects : List ConnectCall
  uses : List Use
  freed : Bool

def Session.report (s : Session) (e : CDTPError) : Session :=
  { s with handle := { s.handle with errors := s.handle.errors ++ [e] } }

def Session.crash (s : Session) : Session := { s with handle := { s.handle with status := .crashed } }

/-- Calls on a freed client, and in a program that crashed, are not looked at. -/
def Session.Live (s : Session) : Prop := s.handle.status ≠ .crashed ∧ s.freed = false

instance (s : Session) : Decidable s.Live := inferInstanceAs (Decidable (_ ∧ _))

/-! ## The calls -/

section Functions

variable {Ctx PKey : Type}

/-- The error that a failed `_cdtp_client_exchange_keys` reports. -/
def clientExchangeError (M : Machine) (O : OpenSSL Ctx PKey) (io : ClientExchange) : CDTPError :=
  match clientKeyMessage M O io with
  | .ok (some _) => .CDTP_CLIENT_SEND_FAILED
  | _ => .CDTP_CLIENT_KEY_EXCHANGE_FAILED

/-- What `cdtp_client_connect` meets, the key exchange apart. -/
structure ConnectOutcome where
  addressOk : Bool
  connectOk : Bool
  blockingOk : Bool
  threadOk : Bool

/-- `client->connected = true` and what follows it. -/
def Session.establish (M : Machine) (O : OpenSSL Ctx PKey) (s : Session) (o : ConnectOutcome)
    (io : ClientExchange) (sizeBuffer : Bytes) : Session :=
  let s := { s with handle := { s.handle with client := { s.handle.client with connected := true } } }
  if o.blockingOk = false then s.report .CDTP_CLIENT_SOCK_INIT_FAILED
  else
    match clientExchangeKeys M O io with
    | .error _ => s.crash
    | .ok none => s.report (clientExchangeError M O io)
    | .ok (some key) =>
      let client := { s.handle.client with sock := { s.handle.client.sock with key := key } }
      let s := { s with handle := { s.handle with client := client }, keySet := true }
      if o.threadOk = false then s.report .CDTP_HANDLE_THREAD_START_FAILED
      else
        { s with handle := { s.handle with status := .running, sizeBuffer := sizeBuffer },
                 stage := .starting }

/-- `cdtp_client_connect`. -/
def Session.connect (M : Machine) (O : OpenSSL Ctx PKey) (s : Session) (o : ConnectOutcome)
    (io : ClientExchange) (sizeBuffer : Bytes) : Session :=
  if s.handle.client.done then s.report .CDTP_CLIENT_CANNOT_RECONNECT
  else if s.handle.client.connected then s.report .CDTP_CLIENT_ALREADY_CONNECTED
  else if o.addressOk = false then s.report .CDTP_CLIENT_ADDRESS_FAILED
  else if o.connectOk = false then s.report .CDTP_CLIENT_CONNECT_FAILED
  else s.establish M O o io sizeBuffer

/-- The entry of a call of `cdtp_client_connect` in the log. -/
def Session.logConnect (before after : Session) : Session :=
  { after with connects := after.connects ++
      [{ wasConnected := before.handle.client.connected,
         reported := decide (before.handle.errors.length < after.handle.errors.length),
         connected := after.handle.client.connected }] }

/-- `cdtp_client_send`. -/
def Session.send (M : Machine) (O : OpenSSL Ctx PKey) (s : Session) (rand : Option (Nat → UInt8))
    (data : Bytes) (sendOk : Bool) : Session :=
  if s.handle.client.connected = false then s.report .CDTP_CLIENT_NOT_CONNECTED
  else
    let s := { s with uses := s.uses ++ [.encrypt s.keySet] }
    match clientSend M O s.handle.client rand data data.length with
    | .error _ => s.crash
    | .ok (.error e) => s.report e
    | .ok (.ok _) => if sendOk = false then s.report .CDTP_CLIENT_SEND_FAILED else s

/-- `cdtp_client_disconnect`, called by another thread than the handle thread: it joins that. -/
def Session.disconnect (s : Session) (closeOk threadOk : Bool) : Session :=
  if s.handle.client.connected = false then s.report .CDTP_CLIENT_NOT_CONNECTED
  else
    let handle := s.handle.disconnect closeOk threadOk
    if closeOk = false then { s with handle := handle }
    else
      let s := { s with handle := handle, uses := s.uses ++ [.join (s.stage != .notStarted)] }
      if threadOk = false then s
      else { s with handle := { handle with status := .returned }, stage := .started }

/-- `cdtp_client_free`. -/
def Session.free (s : Session) : Session :=
  if s.handle.client.done = false then s.report .CDTP_CLIENT_NOT_DONE
  else { s with uses := s.uses ++ [.freeKey s.keySet], freed := true }

/-- The first lines of `_cdtp_client_handle`. -/
def Session.handleInit (s : Session) (nonBlockingOk : Bool) : Session :=
  if s.stage ≠ .starting then s
  else if nonBlockingOk = false then
    { s with handle := s.handle.fail .CDTP_CLIENT_SOCK_INIT_FAILED, stage := .started }
  else { s with stage := .started }

/-- One turn of its loop. -/
def Session.turn (M : Machine) (O : OpenSSL Ctx PKey) (s : Session) (header body : ReadResult)
    (closeOk threadOk : Bool) : Session :=
  if s.stage ≠ .started then s
  else { s with handle := handleStep M s.handle (.turn header body O closeOk threadOk) }

/-- A call, or a part of the handle thread, with what it meets. -/
inductive SessionInput (Ctx PKey : Type) where
  | connect (O : OpenSSL Ctx PKey) (o : ConnectOutcome) (io : ClientExchange) (sizeBuffer : Bytes)
  | send (O : OpenSSL Ctx PKey) (rand : Option (Nat → UInt8)) (data : Bytes) (sendOk : Bool)
  | disconnect (closeOk threadOk : Bool)
  | free
  | handleInit (nonBlockingOk : Bool)
  | turn (O : OpenSSL Ctx PKey) (header body : ReadResult) (closeOk threadOk : Bool)

def sessionStep (M : Machine) (s : Session) (i : SessionInput Ctx PKey) : Session :=
  if ¬ s.Live then s
  else
    match i with
    | .connect O o io sizeBuffer => s.logConnect (s.connect M O o io sizeBuffer)
    | .send O rand data sendOk => s.send M O rand data sendOk
    | .disconnect closeOk threadOk => s.disconnect closeOk threadOk
    | .free => s.free
    | .handleInit nonBlockingOk => s.handleInit nonBlockingOk
    | .turn O header body closeOk threadOk => s.turn M O header body closeOk threadOk

/-- The client that `cdtp_client` returns; the memory of its key is not initialised. -/
def newSession (onRecv onDisconnected : Bool) (sock : Nat) (key : AESKey) : Session where
  handle := { client := { connected := false, done := false, sock := { sock := sock, key := key },
                          onRecv := onRecv, onDisconnected := onDisconnected },
              status := .running, sizeBuffer := [], log := [], errors := [] }
  stage := .notStarted
  keySet := false
  connects := []
  uses := []
  freed := false

/-! ## What the flag says -/

/-- The handle thread has been started and has not returned. -/
def Session.Handling (s : Session) : Prop :=
  s.stage ≠ .notStarted ∧ s.handle.status = .running

/-- A call that reported an error did not make the client connected. -/
def ConnectCall.Sound (c : ConnectCall) : Prop :=
  c.reported = true → c.wasConnected = false → c.connected = false

/-- There is a key to encrypt with or to free, and a thread to join. -/
def Use.Sound : Use → Prop
  | .encrypt keySet => keySet = true
  | .join threadStarted => threadStarted = true
  | .freeKey keySet => keySet = true

/-- The flag tells the truth, and has so far. -/
structure Truthful (s : Session) : Prop where
  key : s.handle.client.connected = true → s.keySet = true
  loop : s.handle.client.connected = true → s.Handling
  connects : ∀ c ∈ s.connects, c.Sound
  uses : ∀ u ∈ s.uses, u.Sound
  free : s.handle.client.done = true → s.keySet = true

/-- Unless the program crashed. -/
def TruthfulOrCrashed (s : Session) : Prop := s.handle.status ≠ .crashed → Truthful s

/-! ## What makes it lie -/

/-- The reads of a turn end the loop with an error: the header with any but "nothing there", the body
    with any at all, or with fewer bytes than announced. -/
def ReadsFail (sizeBuffer : Bytes) (header body : ReadResult) : Prop :=
  (header.code CDTP_LENSIZE = -1 ∧ header.errno.againOrWouldBlock = false) ∨
  (header.code CDTP_LENSIZE ≠ 0 ∧ header.code CDTP_LENSIZE ≠ -1 ∧
    (body.code (announced sizeBuffer header) = -1 ∨
      (body.code (announced sizeBuffer header) ≠ 0 ∧
        ofInt (body.code (announced sizeBuffer header)) ≠ announced sizeBuffer header)))

/-- `cdtp_client_connect` fails behind `connect`: the socket cannot be made blocking, the key exchange
    fails, or the thread cannot be started. -/
def EstablishFails (M : Machine) (O : OpenSSL Ctx PKey) (o : ConnectOutcome) (io : ClientExchange) :
    Prop :=
  o.blockingOk = false ∨ clientExchangeKeys M O io = .ok none ∨
    (o.threadOk = false ∧ ∃ key, clientExchangeKeys M O io = .ok (some key))

/-- The steps that leave the flag set without a key and a loop. -/
def SessionInput.Breaks (M : Machine) (s : Session) : SessionInput Ctx PKey → Prop
  | .connect O o io _ =>
    s.handle.client.done = false ∧ s.handle.client.connected = false ∧ o.addressOk = true ∧
      o.connectOk = true ∧ EstablishFails M O o io
  | .handleInit nonBlockingOk =>
    s.stage = .starting ∧ s.handle.client.connected = true ∧ nonBlockingOk = false
  | .turn _ header body _ _ =>
    s.stage = .started ∧ s.handle.status = .running ∧ s.handle.client.connected = true ∧
      ReadsFail s.handle.sizeBuffer header body
  | _ => False

/-! ## The calls -/

section Steps

variable {M : Machine} {O : OpenSSL Ctx PKey} {s : Session} {o : ConnectOutcome} {io : ClientExchange}
  {sizeBuffer : Bytes} {header body : ReadResult}

theorem Truthful.report (h : Truthful s) (e : CDTPError) : Truthful (s.report e) :=
  ⟨h.key, h.loop, h.connects, h.uses, h.free⟩

theorem Truthful.logConnect {before : Session} (h : Truthful s)
    (hcall : before.handle.errors.length < s.handle.errors.length →
      before.handle.client.connected = false → s.handle.client.connected = false) :
    Truthful (before.logConnect s) where
  key := h.key
  loop := h.loop
  connects := by
    intro c hc
    rcases List.mem_append.mp hc with hc | hc
    · exact h.connects c hc
    · rw [List.mem_singleton.mp hc]
      exact fun hreported hwas => hcall (of_decide_eq_true hreported) hwas
  uses := h.uses
  free := h.free

/-- Behind `connect`, everything goes well, or the program crashes. -/
theorem establish_ok (h : ¬ EstablishFails M O o io) :
    (s.establish M O o io sizeBuffer).handle.status = .crashed ∨
      ∃ key, s.establish M O o io sizeBuffer
        = { s with handle := { s.handle with
                     client := { s.handle.client with
                       connected := true, sock := { s.handle.client.sock with key := key } },
                     status := .running, sizeBuffer := sizeBuffer },
                   keySet := true, stage := .starting } := by
  obtain ⟨hblocking, hrest⟩ := not_or.mp h
  obtain ⟨hexchange, hthread⟩ := not_or.mp hrest
  unfold Session.establish
  rcases hkeys : clientExchangeKeys M O io with fault | _ | key
  · left
    show (if o.blockingOk = false then _ else Session.crash _).handle.status = _
    rw [if_neg hblocking]
    rfl
  · exact absurd hkeys hexchange
  · refine Or.inr ⟨key, ?_⟩
    dsimp only
    rw [if_neg hblocking, if_neg fun hfalse => hthread ⟨hfalse, key, hkeys⟩]

/-- Or the flag is set, and an error reported. -/
theorem establish_fails (h : EstablishFails M O o io) :
    (s.establish M O o io sizeBuffer).handle.client.connected = true ∧
      (s.establish M O o io sizeBuffer).handle.status = s.handle.status ∧
      s.handle.errors.length < (s.establish M O o io sizeBuffer).handle.errors.length := by
  have hlt : ∀ e : CDTPError, s.handle.errors.length < (s.handle.errors ++ [e]).length := by
    intro e
    rw [List.length_append, List.length_singleton]
    omega
  unfold Session.establish
  by_cases hblocking : o.blockingOk = false
  · dsimp only
    rw [if_pos hblocking]
    exact ⟨rfl, rfl, hlt _⟩
  · rcases h.resolve_left hblocking with hnone | ⟨hthread, key, hkey⟩
    · rw [hnone]
      dsimp only
      rw [if_neg hblocking]
      exact ⟨rfl, rfl, hlt _⟩
    · rw [hkey]
      dsimp only
      rw [if_neg hblocking, if_pos hthread]
      exact ⟨rfl, rfl, hlt _⟩

/-- **What `cdtp_client_connect` does**: it refuses, or gets behind `connect`. -/
theorem connect_cases :
    (∃ e, s.connect M O o io sizeBuffer = s.report e) ∨
    (s.handle.client.done = false ∧ s.handle.client.connected = false ∧ o.addressOk = true ∧
      o.connectOk = true ∧ s.connect M O o io sizeBuffer = s.establish M O o io sizeBuffer) := by
  unfold Session.connect
  rcases hdone : s.handle.client.done with _ | _
  · rcases hconnected : s.handle.client.connected with _ | _
    · rcases haddress : o.addressOk with _ | _
      · exact Or.inl ⟨_, rfl⟩
      · rcases hconnect : o.connectOk with _ | _
        · exact Or.inl ⟨_, rfl⟩
        · exact Or.inr ⟨rfl, rfl, rfl, rfl, rfl⟩
    · exact Or.inl ⟨_, rfl⟩
  · exact Or.inl ⟨_, rfl⟩

/-- A call of `cdtp_client_connect` that does not fail behind `connect`. -/
theorem truthful_connect (h : Truthful s)
    (hok : ¬ SessionInput.Breaks M s (.connect O o io sizeBuffer)) :
    TruthfulOrCrashed (s.logConnect (s.connect M O o io sizeBuffer)) := by
  intro hcrashed
  rcases @connect_cases Ctx PKey M O s o io sizeBuffer with
    ⟨e, heq⟩ | ⟨hdone, hconnected, haddress, hconnect, heq⟩
  · -- a refusal leaves the flag as it was
    rw [heq]
    exact (h.report e).logConnect fun _ hwas => hwas
  · rw [heq] at hcrashed ⊢
    have hestablish : ¬ EstablishFails M O o io :=
      fun hfails => hok ⟨hdone, hconnected, haddress, hconnect, hfails⟩
    rcases @establish_ok Ctx PKey M O s o io sizeBuffer hestablish with hcrash | ⟨key, heq⟩
    · exact absurd hcrash hcrashed
    · rw [heq]
      refine Truthful.logConnect ⟨fun _ => rfl, fun _ => ⟨HandleStage.noConfusion, rfl⟩,
        h.connects, h.uses, fun _ => rfl⟩ ?_
      intro hlt
      exact absurd hlt (Nat.lt_irrefl _)

theorem not_truthful_connect (hlive : s.Live)
    (hbreaks : SessionInput.Breaks M s (.connect O o io sizeBuffer)) :
    ¬ TruthfulOrCrashed (s.logConnect (s.connect M O o io sizeBuffer)) := by
  obtain ⟨hdone, hconnected, haddress, hconnect, hfails⟩ := hbreaks
  obtain ⟨hset, hstatus, hlt⟩ := @establish_fails Ctx PKey M O s o io sizeBuffer hfails
  have heq : s.connect M O o io sizeBuffer = s.establish M O o io sizeBuffer := by
    unfold Session.connect
    rw [hdone, hconnected, haddress, hconnect]
    rfl
  rw [heq]
  intro h
  -- the entry of this call in the log is not sound
  have hsound := (h (fun hcrash => hlive.1 (hstatus.symm.trans hcrash))).connects _
    (List.mem_append_right _ (List.mem_singleton_self _))
  exact absurd (hset.symm.trans (hsound (decide_eq_true hlt) hconnected)) (by decide)

theorem Truthful.use (h : Truthful s) {u : Use} (hu : u.Sound) :
    Truthful { s with uses := s.uses ++ [u] } where
  key := h.key
  loop := h.loop
  connects := h.connects
  uses := by
    intro u' hu'
    rcases List.mem_append.mp hu' with hold | hnew
    · exact h.uses u' hold
    · rw [List.mem_singleton.mp hnew]
      exact hu
  free := h.free

/-- A call of `cdtp_client_send` encrypts only if there is a key. -/
theorem truthful_send (h : Truthful s) (rand : Option (Nat → UInt8)) (data : Bytes) (sendOk : Bool) :
    TruthfulOrCrashed (s.send M O rand data sendOk) := by
  intro hcrashed
  unfold Session.send at hcrashed ⊢
  by_cases hconnected : s.handle.client.connected = false
  · rw [if_pos hconnected]
    exact h.report _
  rw [if_neg hconnected] at hcrashed ⊢
  have huse := @Truthful.use s h (.encrypt s.keySet) (h.key (Bool.not_eq_false _ ▸ hconnected))
  dsimp only at hcrashed ⊢
  rcases hsend : clientSend M O s.handle.client rand data data.length with fault | e | message
  · rw [hsend] at hcrashed
    exact absurd rfl hcrashed
  · exact huse.report e
  · by_cases hok : sendOk = false
    · dsimp only
      rw [if_pos hok]
      exact huse.report _
    · dsimp only
      rw [if_neg hok]
      exact huse

/-- A disconnect clears the flag of a client that has a key, and sets `done`. -/
theorem Truthful.cleared (h : Truthful s) (hconnected : s.handle.client.connected = true) {t : Session}
    (hclient : t.handle.client = { s.handle.client with connected := false, done := true })
    (hkey : t.keySet = s.keySet) (hconnects : t.connects = s.connects) (huses : ∀ u ∈ t.uses, u.Sound) :
    Truthful t := by
  have hfalse : t.handle.client.connected = false := by rw [hclient]
  have hnot := ne_true_of_eq_false hfalse
  exact ⟨fun htrue => absurd htrue hnot, fun htrue => absurd htrue hnot, hconnects ▸ h.connects,
    huses, fun _ => hkey.trans (h.key hconnected)⟩

/-- A call of `cdtp_client_disconnect` joins only a thread that was started. -/
theorem truthful_disconnect (h : Truthful s) (closeOk threadOk : Bool) :
    Truthful (s.disconnect closeOk threadOk) := by
  unfold Session.disconnect
  rcases hconnected : s.handle.client.connected with _ | _
  · exact h.report _
  have hstage : (s.stage != .notStarted) = true := bne_iff_ne.mpr (h.loop hconnected).1
  have huses := (@Truthful.use s h (.join (s.stage != .notStarted)) hstage).uses
  unfold HandleState.disconnect
  rw [hconnected]
  cases closeOk with
  | false => exact h.cleared hconnected rfl rfl rfl h.uses
  | true =>
    cases threadOk with
    | false => exact h.cleared hconnected rfl rfl rfl huses
    | true => exact h.cleared hconnected rfl rfl rfl huses

theorem truthful_free (h : Truthful s) : Truthful s.free := by
  unfold Session.free
  by_cases hdone : s.handle.client.done = false
  · rw [if_pos hdone]
    exact h.report _
  · rw [if_neg hdone]
    exact @Truthful.use { s with freed := true } ⟨h.key, h.loop, h.connects, h.uses, h.free⟩
      (.freeKey s.keySet) (h.free (Bool.not_eq_false _ ▸ hdone))

/-! ## The handle thread -/

/-- The loop matters only while the flag is set. -/
theorem Truthful.withHandle (h : Truthful s) {handle : HandleState} {stage : HandleStage}
    (hclient : handle.client = s.handle.client)
    (hloop : s.handle.client.connected = true → stage ≠ .notStarted ∧ handle.status = .running) :
    Truthful { s with handle := handle, stage := stage } where
  key hconnected := h.key (hclient ▸ hconnected)
  loop hconnected := hloop (hclient ▸ hconnected)
  connects := h.connects
  uses := h.uses
  free hdone := h.free (hclient ▸ hdone)

/-- A loop that has returned belies the flag. -/
theorem not_truthful_of_returned (hstatus : s.handle.status = .returned)
    (hconnected : s.handle.client.connected = true) : ¬ TruthfulOrCrashed s := by
  intro h
  have hrunning := ((h (by rw [hstatus]; decide)).loop hconnected).2
  exact absurd (hstatus.symm.trans hrunning) (by decide)

theorem truthful_handleInit (h : Truthful s) {nonBlockingOk : Bool}
    (hok : ¬ @SessionInput.Breaks Ctx PKey M s (.handleInit nonBlockingOk)) :
    Truthful (s.handleInit nonBlockingOk) := by
  unfold Session.handleInit
  by_cases hstage : s.stage ≠ .starting
  · rw [if_pos hstage]
    exact h
  rw [if_neg hstage]
  by_cases hfails : nonBlockingOk = false
  · rw [if_pos hfails]
    refine @Truthful.withHandle s h (s.handle.fail .CDTP_CLIENT_SOCK_INIT_FAILED) .started rfl ?_
    intro hconnected
    exact absurd ⟨not_not.mp hstage, hconnected, hfails⟩ hok
  · rw [if_neg hfails]
    exact h.withHandle rfl fun hconnected => ⟨by decide, (h.loop hconnected).2⟩

theorem not_truthful_handleInit {nonBlockingOk : Bool}
    (hbreaks : @SessionInput.Breaks Ctx PKey M s (.handleInit nonBlockingOk)) :
    ¬ TruthfulOrCrashed (s.handleInit nonBlockingOk) := by
  obtain ⟨hstage, hconnected, rfl⟩ := hbreaks
  unfold Session.handleInit
  rw [if_neg (not_not.mpr hstage), if_pos rfl]
  exact not_truthful_of_returned rfl hconnected

/-- What a turn finds when its reads fail. -/
theorem react_of_readsFail {handle : HandleState} {closeOk threadOk : Bool}
    (h : ReadsFail sizeBuffer header body) :
    handle.react M O closeOk threadOk (receive M sizeBuffer header body)
      = handle.fail .CDTP_CLIENT_RECV_FAILED := by
  rcases h with ⟨hheader, herrno⟩ | ⟨hzero, herror, hbody⟩
  · rw [receive, if_neg (by rw [hheader]; decide), if_pos hheader, HandleState.react,
      if_neg (by rw [herrno]; decide)]
  · rw [receive, if_neg hzero, if_neg herror, ← announced]
    rcases hbody with hbody | ⟨hnonzero, hshort⟩
    · rw [receiveBody, if_pos hbody]
      rfl
    · by_cases hfailed : body.code (announced sizeBuffer header) = -1
      · rw [receiveBody, if_pos hfailed]
        rfl
      · rw [receiveBody, if_neg hfailed, if_neg hnonzero, if_pos hshort]
        rfl

/-- And when they do not: the end of the stream, nothing, or a frame. -/
theorem receive_of_not_readsFail (h : ¬ ReadsFail sizeBuffer header body) :
    receive M sizeBuffer header body = .headerEnd ∨ receive M sizeBuffer header body = .bodyEnd ∨
      (∃ e, e.againOrWouldBlock = true ∧ receive M sizeBuffer header body = .headerError e) ∨
      ∃ buffer n, receive M sizeBuffer header body = .frame buffer n := by
  obtain ⟨hheader, hbody⟩ := not_or.mp h
  by_cases hzero : header.code CDTP_LENSIZE = 0
  · left
    rw [receive, if_pos hzero]
  by_cases herror : header.code CDTP_LENSIZE = -1
  · right; right; left
    refine ⟨header.errno, ?_, by rw [receive, if_neg hzero, if_pos herror]⟩
    by_contra hno
    exact hheader ⟨herror, Bool.eq_false_iff.mpr hno⟩
  rw [receive, if_neg hzero, if_neg herror, ← announced, receiveBody]
  by_cases hfailed : body.code (announced sizeBuffer header) = -1
  · exact absurd ⟨hzero, herror, Or.inl hfailed⟩ hbody
  by_cases hend : body.code (announced sizeBuffer header) = 0
  · right; left
    rw [if_neg hfailed, if_pos hend]
  by_cases hshort : ofInt (body.code (announced sizeBuffer header)) ≠ announced sizeBuffer header
  · exact absurd ⟨hzero, herror, Or.inr ⟨hend, hshort⟩⟩ hbody
  · right; right; right
    rw [if_neg hfailed, if_neg hend, if_neg hshort]
    exact ⟨_, _, rfl⟩

/-- A turn whose reads do not fail: the loop goes on with the same client, or clears the flag, or
    crashes. -/
theorem react_of_not_readsFail {handle : HandleState} {closeOk threadOk : Bool}
    (hconnected : handle.client.connected = true) (h : ¬ ReadsFail sizeBuffer header body) :
    (handle.react M O closeOk threadOk (receive M sizeBuffer header body)).status = .crashed ∨
    ((handle.react M O closeOk threadOk (receive M sizeBuffer header body)).client = handle.client ∧
      (handle.react M O closeOk threadOk (receive M sizeBuffer header body)).status = handle.status) ∨
    (handle.react M O closeOk threadOk (receive M sizeBuffer header body)).client
      = { handle.client with connected := false, done := true } := by
  have hclosed : (handle.closed closeOk threadOk).client
      = { handle.client with connected := false, done := true } := by
    unfold HandleState.closed HandleState.disconnect
    rw [hconnected]
    cases closeOk <;> cases threadOk <;> rfl
  rcases @receive_of_not_readsFail M sizeBuffer header body h with
    heq | heq | ⟨e, hagain, heq⟩ | ⟨buffer, n, heq⟩
  · rw [heq]
    exact Or.inr (Or.inr hclosed)
  · rw [heq]
    exact Or.inr (Or.inr hclosed)
  · rw [heq, HandleState.react, if_pos hagain]
    exact Or.inr (Or.inl ⟨rfl, rfl⟩)
  · rw [heq]
    rcases hcall : clientCallOnRecv M O handle.client buffer n with fault | payload
    · left
      unfold HandleState.react
      dsimp only
      rw [hcall]
    · right; left
      unfold HandleState.react
      dsimp only
      rw [hcall]
      exact ⟨rfl, rfl⟩

theorem truthful_turn (h : Truthful s) {closeOk threadOk : Bool}
    (hok : ¬ SessionInput.Breaks M s (.turn O header body closeOk threadOk)) :
    TruthfulOrCrashed (s.turn M O header body closeOk threadOk) := by
  intro hcrashed
  unfold Session.turn at hcrashed ⊢
  by_cases hstage : s.stage ≠ .started
  · rw [if_pos hstage]
    exact h
  rw [if_neg hstage] at hcrashed ⊢
  have hstarted := not_not.mp hstage
  unfold handleStep at hcrashed ⊢
  rcases hstatus : s.handle.status with _ | _ | _
  · rcases hconnected : s.handle.client.connected with _ | _
    · refine h.withHandle rfl fun htrue => ?_
      exact absurd (hconnected.symm.trans htrue) (by decide)
    · have hreads : ¬ ReadsFail s.handle.sizeBuffer header body :=
        fun hfails => hok ⟨hstarted, hstatus, hconnected, hfails⟩
      rw [hstatus, hconnected] at hcrashed
      have hcases := @react_of_not_readsFail Ctx PKey M O s.handle.sizeBuffer header body
        (s.handle.buffered header) closeOk threadOk hconnected hreads
      rcases hcases with hcrash | ⟨hclient, hrunning⟩ | hclient
      · exact absurd hcrash hcrashed
      · refine h.withHandle hclient fun _ => ⟨by rw [hstarted]; decide, ?_⟩
        exact hrunning.trans hstatus
      · exact h.cleared hconnected hclient rfl rfl h.uses
  · exact h.withHandle rfl h.loop
  · exact h.withHandle rfl h.loop

theorem not_truthful_turn {closeOk threadOk : Bool}
    (hbreaks : SessionInput.Breaks M s (.turn O header body closeOk threadOk)) :
    ¬ TruthfulOrCrashed (s.turn M O header body closeOk threadOk) := by
  obtain ⟨hstage, hstatus, hconnected, hfails⟩ := hbreaks
  have hreact := @react_of_readsFail Ctx PKey M O s.handle.sizeBuffer header body
    (s.handle.buffered header) closeOk threadOk hfails
  have hhandle : handleStep M s.handle (.turn header body O closeOk threadOk)
      = (s.handle.buffered header).fail .CDTP_CLIENT_RECV_FAILED := by
    unfold handleStep
    rw [hstatus, hconnected]
    exact hreact
  unfold Session.turn
  rw [if_neg (not_not.mpr hstage), hhandle]
  exact not_truthful_of_returned rfl hconnected

end Steps

/-! ## Every run -/

/-- The step leaves the flag right. -/
def SessionOk (M : Machine) (s : Session) (i : SessionInput Ctx PKey) : Prop :=
  s.Live → ¬ i.Breaks M s

/-- **When the flag tells the truth**: in exactly the runs in which nothing fails behind `connect`, the
    handle thread can make its socket non-blocking, and no read fails while the client is connected. -/
theorem connected_truthful_iff (M : Machine) (onRecv onDisconnected : Bool) (sock : Nat) (key : AESKey)
    (is : List (SessionInput Ctx PKey)) :
    Always (sessionStep M) TruthfulOrCrashed (newSession onRecv onDisconnected sock key) is ↔
      Along (sessionStep M) (SessionOk M) (newSession onRecv onDisconnected sock key) is := by
  apply @always_iff_along Session (SessionInput Ctx PKey) (sessionStep M) (fun _ => True)
    TruthfulOrCrashed (SessionOk M)
  · intro s i _ h hok
    unfold sessionStep
    by_cases hlive : s.Live
    · rw [if_neg (not_not.mpr hlive)]
      have hs := h hlive.1
      have hi := hok hlive
      cases i with
      | connect O o io sizeBuffer => exact truthful_connect hs hi
      | send O rand data sendOk => exact truthful_send hs rand data sendOk
      | disconnect closeOk threadOk => exact fun _ => truthful_disconnect hs closeOk threadOk
      | free => exact fun _ => truthful_free hs
      | handleInit nonBlockingOk => exact fun _ => truthful_handleInit hs hi
      | turn O header body closeOk threadOk => exact truthful_turn hs hi
    · rw [if_pos hlive]
      exact h
  · intro s i _ _ hbreaks
    obtain ⟨hlive, hi⟩ := Classical.not_imp.mp hbreaks
    have hi := not_not.mp hi
    unfold sessionStep
    rw [if_neg (not_not.mpr hlive)]
    cases i with
    | connect O o io sizeBuffer => exact not_truthful_connect hlive hi
    | send O rand data sendOk => exact absurd hi id
    | disconnect closeOk threadOk => exact absurd hi id
    | free => exact absurd hi id
    | handleInit nonBlockingOk => exact not_truthful_handleInit hi
    | turn O header body closeOk threadOk => exact not_truthful_turn hi
  · exact fun _ _ _ => trivial
  · trivial
  · intro _
    refine ⟨?_, ?_, ?_, ?_, ?_⟩ <;> simp [newSession]

end Functions

/-! ## Two clients that are not connected -/

def demoOutcome : ConnectOutcome where
  addressOk := true
  connectOk := true
  blockingOk := true
  threadOk := true

/-- The server accepts, and closes the connection before it has sent its key; then the client sends. -/
def brokenExchange : List (SessionInput Bytes Unit) :=
  [.connect plainOpenSSL demoOutcome { demoClientExchange with header := .data [] } [],
    .send plainOpenSSL (some fun _ => 0) [1, 2, 3] true]

/-- The connection is reset while the handle loop is reading. -/
def brokenRead : List (SessionInput Bytes Unit) :=
  [.connect plainOpenSSL demoOutcome demoClientExchange [0, 0, 0, 0, 0], .handleInit true,
    .turn plainOpenSSL (.error .ECONNRESET) (.data []) true true]

/-- The first is told that the connect failed, but is connected, and sends with a key that is not there.
    The second is connected to a loop that has returned. -/
theorem connected_lies :
    (run (sessionStep plainMachine) (newSession true true 3 demoKey) brokenExchange).handle.errors
        = [.CDTP_CLIENT_KEY_EXCHANGE_FAILED] ∧
    (run (sessionStep plainMachine) (newSession true true 3 demoKey) brokenExchange).uses
        = [.encrypt false] ∧
    ¬ Always (sessionStep plainMachine) TruthfulOrCrashed (newSession true true 3 demoKey)
        brokenExchange ∧
    ¬ Always (sessionStep plainMachine) TruthfulOrCrashed (newSession true true 3 demoKey)
        brokenRead := by
  refine ⟨by decide +kernel, by decide +kernel, ?_, ?_⟩
  · intro h
    have hrun := (always_iff_initial _ _).mp h brokenExchange (List.prefix_refl _)
    have hkey := (hrun (by decide +kernel)).key (by decide +kernel)
    exact absurd hkey (by decide +kernel)
  · intro h
    have hrun := (always_iff_initial _ _).mp h brokenRead (List.prefix_refl _)
    have hloop := (hrun (by decide +kernel)).loop (by decide +kernel)
    exact absurd hloop.2 (by decide +kernel)

end Cdtp
