/-
  Delivery of what is sent.

  The messages are now those of `cdtp_client_send` and `cdtp_server_send`: a payload is padded, encrypted
  under the key that both ends hold, put behind its nonce and into a frame.  `sealedBody_spec` collects
  what the layers below say about one such body, and the runs are those of the two receive loops on
  streams that transfer in full.

  `delivery_exact` says that the two ends agree byte for byte: what the callbacks are given is what was
  sent, in the order in which it was sent, and all of it as soon as the stream is drained.
-/
import Cdtp.Framing

namespace Cdtp

open CMem Fifo

/-! ## What is sent -/

/-- What a callback is given for the payload `p`. -/
def plainData (p : Bytes) : CryptoData := { data := p, dataSize := p.length }

section Sealing

variable {Ctx PKey : Type} {M N : Machine} {O : OpenSSL Ctx PKey}

/-- The frame body that a payload is sent as. -/
def sealedBody (N : Machine) (O : OpenSSL Ctx PKey) (key : AESKey) (rand : Nat → UInt8)
    (payload : Bytes) : Bytes :=
  match cryptoAesEncrypt N O (some rand) key payload payload.length with
  | .ok (some d) => d.data
  | _ => []

/-- **One body**: never empty, short enough for every length field, and the receiver gets the payload
    back. -/
theorem sealedBody_spec (hO : O.AESLaws) (hN : N.checked = false) {key : AESKey} (hkey : key.Full)
    (rand : Nat → UInt8) {payload : Bytes} (hp : payload.length ≤ 2 ^ 31 - 64) :
    cryptoAesEncrypt N O (some rand) key payload payload.length
        = .ok (some (plainData (sealedBody N O key rand payload))) ∧
      0 < (sealedBody N O key rand payload).length ∧
      (sealedBody N O key rand payload).length < 2 ^ 31 ∧
      ∀ M : Machine, cryptoAesDecrypt M O key (sealedBody N O key rand payload)
        (sealedBody N O key rand payload).length = .ok (some (plainData payload)) := by
  have hint : payload.length < 2 ^ 31 - 33 := by omega
  obtain ⟨body, henc, hpos, hlt, hdec⟩ := cryptoAesEncrypt_roundtrip hO hkey hN rand hint
  have hbody : sealedBody N O key rand payload = body := by
    rw [sealedBody, henc]
  rw [hbody]
  exact ⟨henc, hpos, hlt, hdec⟩

/-- A call of `cdtp_client_send`. -/
structure ClientSending where
  client : CDTPClient
  rand : Nat → UInt8
  payload : Bytes

/-- The bytes that it sends; none if it fails. -/
def ClientSending.message (N : Machine) (O : OpenSSL Ctx PKey) (a : ClientSending) : Bytes :=
  match clientSend N O a.client (some a.rand) a.payload a.payload.length with
  | .ok (.ok message) => message
  | _ => []

/-- The body of the frame, before it is framed. -/
def ClientSending.body (N : Machine) (O : OpenSSL Ctx PKey) (a : ClientSending) : Bytes :=
  sealedBody N O a.client.sock.key a.rand a.payload

/-- A connected client with a key of full size, and a payload that an `int` can count at every layer. -/
structure ClientSending.Allowed (a : ClientSending) : Prop where
  connected : a.client.connected = true
  full : a.client.sock.key.Full
  size : a.payload.length ≤ 2 ^ 31 - 64

/-- It is neither empty nor too long, and decrypts to the payload on every machine. -/
theorem ClientSending.Allowed.spec {a : ClientSending} (h : a.Allowed) (hO : O.AESLaws)
    (hN : N.checked = false) :
    0 < (a.body N O).length ∧ (a.body N O).length < 2 ^ 31 ∧
      ∀ M : Machine, cryptoAesDecrypt M O a.client.sock.key (a.body N O) (a.body N O).length
        = .ok (some (plainData a.payload)) :=
  (sealedBody_spec hO hN h.full a.rand h.size).2

/-- What `send` is called with is the frame of that body, as the streams want it. -/
theorem ClientSending.Allowed.sentAs {a : ClientSending} (h : a.Allowed) (hO : O.AESLaws)
    (hN : N.checked = false) : SentAs N (ClientSending.message N O) (ClientSending.body N O) a := by
  obtain ⟨henc, hpos, hlt, -⟩ := sealedBody_spec (O := O) hO hN h.full a.rand h.size
  refine ⟨?_, hpos, Nat.lt_trans hlt (by decide)⟩
  rw [ClientSending.message, clientSend, h.connected, if_neg Bool.noConfusion, henc]
  rfl

/-- A call of `cdtp_server_send`. -/
structure ServerSending where
  server : CDTPServer
  clientId : Nat
  rand : Nat → UInt8
  payload : Bytes

/-- What `cdtp_server_send` calls `send` with. -/
def ServerSending.message (N : Machine) (O : OpenSSL Ctx PKey) (a : ServerSending) : Bytes :=
  match serverSend N O a.server (some a.rand) a.clientId a.payload a.payload.length with
  | .ok (.ok (_, message)) => message
  | _ => []

/-- The body of that frame, under the key that the server has stored. -/
def ServerSending.body (N : Machine) (O : OpenSSL Ctx PKey) (a : ServerSending) : Bytes :=
  match a.server.clients.get a.clientId with
  | some sock => sealedBody N O sock.key a.rand a.payload
  | none => []

/-- A serving server that stores the client with the key `key` of full size, and a payload that an `int`
    can count at every layer. -/
structure ServerSending.Allowed (a : ServerSending) (key : AESKey) : Prop where
  serving : a.server.serving = true
  stored : ∃ sock, a.server.clients.get a.clientId = some sock ∧ sock.key = key
  full : key.Full
  size : a.payload.length ≤ 2 ^ 31 - 64

/-- Which is the key of the client that it is meant for. -/
theorem ServerSending.Allowed.body_eq {a : ServerSending} {key : AESKey} (h : a.Allowed key) :
    a.body N O = sealedBody N O key a.rand a.payload := by
  obtain ⟨sock, hget, hkey⟩ := h.stored
  rw [ServerSending.body, hget, ← hkey]

/-- As for the messages of a client. -/
theorem ServerSending.Allowed.spec {a : ServerSending} {key : AESKey} (h : a.Allowed key)
    (hO : O.AESLaws) (hN : N.checked = false) :
    0 < (a.body N O).length ∧ (a.body N O).length < 2 ^ 31 ∧
      ∀ M : Machine, cryptoAesDecrypt M O key (a.body N O) (a.body N O).length
        = .ok (some (plainData a.payload)) := by
  rw [h.body_eq]
  exact (sealedBody_spec hO hN h.full a.rand h.size).2

/-- Again the message is the frame of the body. -/
theorem ServerSending.Allowed.sentAs {a : ServerSending} {key : AESKey} (h : a.Allowed key)
    (hO : O.AESLaws) (hN : N.checked = false) :
    SentAs N (ServerSending.message N O) (ServerSending.body N O) a := by
  obtain ⟨henc, hpos, hlt, -⟩ := sealedBody_spec (O := O) hO hN h.full a.rand h.size
  have hbody := @ServerSending.Allowed.body_eq Ctx PKey N O a key h
  refine ⟨?_, by rw [hbody]; exact hpos, by rw [hbody]; exact Nat.lt_trans hlt (by decide)⟩
  obtain ⟨sock, hget, hkey⟩ := h.stored
  have hsend : serverSend N O a.server (some a.rand) a.clientId a.payload a.payload.length
      = .ok (.ok (sock.sock, constructMessage N (sealedBody N O key a.rand a.payload)
          (sealedBody N O key a.rand a.payload).length)) := by
    rw [serverSend, h.serving, if_neg Bool.noConfusion, hget]
    show (cryptoAesEncrypt N O (some a.rand) sock.key a.payload a.payload.length >>= _) = _
    rw [hkey, henc]
    rfl
  rw [hbody, ServerSending.message, hsend]

end Sealing

/-! ## From the clients to the server -/

section Server

variable {Ctx PKey : Type}

/-- The payload that an entry dispatches to the `on_recv` callback for the client `id`. -/
def dispatchedBy (id : Nat) : Entry → Option CryptoData
  | .recv id' _ payload => if id' = id then payload else none
  | _ => none

/-- What the `on_recv` callback was given for the client `id`. -/
def dispatched (log : List Entry) (id : Nat) : List CryptoData := log.filterMap (dispatchedBy id)

/-- One entry more, and at most one payload more. -/
theorem dispatched_append (log : List Entry) (e : Entry) (id : Nat) :
    dispatched (log ++ [e]) id = dispatched log id ++ (dispatchedBy id e).toList :=
  filterMap_snoc _ _ _

/-- The runs of the serve loop that are considered: `accept` would block or brings a client that completes
    the exchange, every turn gets all it asks for or nothing at all, nobody is removed, and what is sent is
    sent under the key that the server stores for the client. -/
def Transfers (M : Machine) (O : OpenSSL Ctx PKey) (w : Wired ClientSending) :
    WiredInput ClientSending Ctx PKey → Prop
  | .acceptError e => e.againOrWouldBlock = true
  | .acceptConnection c O' =>
      c.blockingOk = true ∧ c.nonBlockingOk = true ∧ ∃ d, ExchangeSecret M O' c.exchange d
  | .turn g b O' => O' = O ∧ (w.server.status = .running → ∀ entry ∈ w.server.todo.head?,
      TurnInFull w.server.sizeBuffer (w.pending entry.1) g b)
  | .remove _ _ => False
  | .send id a => a.Allowed ∧
      ∃ sock, w.server.server.clients.get id = some sock ∧ sock.key = a.client.sock.key

variable {M N : Machine} {O : OpenSSL Ctx PKey} {w : Wired ClientSending}

/-- The state of one client's deliveries: its stream acts as the channel `c`, the callback was given what
    was received from it, and what waits in it can be decrypted by the server. -/
structure Delivers (N : Machine) (O : OpenSSL Ctx PKey) (c : Channel ClientSending)
    (w : Wired ClientSending) (id : Nat) : Prop where
  carries : Carries N (ClientSending.body N O) c (w.sent id) (handed w.server.log id) (w.pending id)
  dispatched_eq : dispatched w.server.log id = c.received.map fun a => plainData a.payload
  keys : ∀ a ∈ c.waiting,
    ∃ sock, w.server.server.clients.get id = some sock ∧ sock.key = a.client.sock.key

/-- The invariant: the loop is up, has a callback and has dropped nobody, all that was sent is allowed, and
    every client's stream delivers. -/
structure Dispatching (N : Machine) (O : OpenSSL Ctx PKey) (w : Wired ClientSending) : Prop where
  loop : LoopInv w.server
  running : w.server.status = .running
  onRecv : w.server.server.onRecv = true
  allowed : ∀ id, ∀ a ∈ w.sent id, a.Allowed
  delivers : ∀ id, ∃ c, Delivers N O c w id
  no_disconnect : ∀ id started, .disconnect id started ∉ w.server.log

/-- Before the first step nothing has been sent. -/
theorem Fresh.dispatching {s : ServeState} (h : Fresh s) (honRecv : s.server.onRecv = true) :
    Dispatching N O (wired s) where
  loop := h.loopInv
  running := h.running
  onRecv := honRecv
  allowed _ _ ha := absurd ha (by simp [wired])
  delivers id := by
    refine ⟨.empty, ⟨?_, ?_, fun a ha => absurd ha (by simp [Channel.empty])⟩⟩
    · show Carries N _ .empty [] (handed s.log id) []
      rw [h.log]
      exact Carries.empty
    · show dispatched s.log id = []
      rw [h.log]
      rfl
  no_disconnect id started := by
    show _ ∉ s.log
    rw [h.log]
    simp

/-- So every body on the streams fits a header. -/
theorem Dispatching.sizes (h : Dispatching N O w) (hO : O.AESLaws) (hN : N.checked = false) (id : Nat) :
    ∀ a ∈ w.sent id, 0 < (a.body N O).length ∧ (a.body N O).length < 2 ^ 40 := by
  intro a ha
  obtain ⟨hpos, hlt, -⟩ := (h.allowed id a ha).spec hO hN
  exact ⟨hpos, Nat.lt_trans hlt (by decide)⟩

/-- Turns that get all they ask for are full turns here, where every body is short enough. -/
theorem Delivers.fullTurn {c : Channel ClientSending} {id : Nat} (hc : Delivers N O c w id)
    (h : Dispatching N O w) (hO : O.AESLaws) (hN : N.checked = false) {g b : Grant}
    (hfull : TurnInFull w.server.sizeBuffer (w.pending id) g b) :
    FullTurn w.server.sizeBuffer (w.pending id) g b := by
  rw [hc.carries.pending_eq] at hfull ⊢
  apply TurnInFull.fullTurn h.loop.buffer _ hfull
  intro body hbody
  obtain ⟨a, ha, rfl⟩ := List.mem_map.mp hbody
  have hsent : a ∈ w.sent id := hc.carries.sent_eq ▸ Channel.mem_sent_of_mem_waiting ha
  exact ((h.allowed id a hsent).spec hO hN).2.1

/-- **A turn** passes the client by, or dispatches the oldest payload that is waiting. -/
theorem Delivers.turn {c : Channel ClientSending} {id : Nat} (hc : Delivers N O c w id)
    (h : Dispatching N O w) (hO : O.AESLaws) (hN : N.checked = false) {sock : CDTPSocket}
    {rest : List (Nat × CDTPSocket)} (htodo : w.server.todo = (id, sock) :: rest) {g b : Grant}
    (hfull : TurnInFull w.server.sizeBuffer (w.pending id) g b) :
    ((streamTurn w.server.sizeBuffer (w.pending id) g b).header = .error .EAGAIN ∧
      wiredStep M (ClientSending.message N O) w (.turn g b O)
        = { w with server := ({ w.server with todo := rest }).buffered (.error .EAGAIN) }) ∨
    ∃ a waiting header pending, c.waiting = a :: waiting ∧
      Carries N (ClientSending.body N O) c.receive (w.sent id)
        (handed w.server.log id ++ [a.body N O]) pending ∧
      wiredStep M (ClientSending.message N O) w (.turn g b O)
        = { w with
            server := { ({ w.server with todo := rest }).buffered header with
              log := w.server.log ++ [.recv id (a.body N O) (some (plainData a.payload))] },
            pending := Function.update w.pending id pending } := by
  rcases @wiredStep_turn Ctx PKey _ M N O (ClientSending.message N O) (ClientSending.body N O) w id sock
    rest h.loop h.running htodo c hc.carries (h.sizes hO hN id) g b (hc.fullTurn h hO hN hfull) with
    hagain | ⟨a, waiting, header, pending, hw, hcarries, hs⟩
  · exact .inl hagain
  · right
    refine ⟨a, waiting, header, pending, hw, hcarries, ?_⟩
    have hmem : a ∈ c.waiting := by
      rw [hw]
      exact List.mem_cons_self
    have hsent : a ∈ w.sent id := hc.carries.sent_eq ▸ Channel.mem_sent_of_mem_waiting hmem
    -- what waits was sent under the key that the server stores, so it decrypts
    obtain ⟨sock', hget, hkey⟩ := hc.keys a hmem
    obtain ⟨-, -, hdec⟩ := (h.allowed id a hsent).spec hO hN
    have hcall : serverCallOnRecv M O w.server.server id (a.body N O) (a.body N O).length
        = .ok (some (plainData a.payload)) := by
      rw [serverCallOnRecv, h.onRecv, if_pos rfl, hget, deref_some, ok_bind, hkey, hdec M]
      rfl
    have hreact := @react_frame_ok Ctx PKey M O (({ w.server with todo := rest }).buffered header) id _ _ _
      hcall
    rw [hs]
    exact congrArg (fun server => ({ w with server := server, pending := _ } : Wired ClientSending))
      hreact

/-- A step that keeps the clients and logs at most a connect delivers nothing. -/
theorem Dispatching.keep (h : Dispatching N O w) {s : ServeState} (hloop : LoopInv s)
    (hrun : s.status = .running) (honRecv : s.server.onRecv = w.server.server.onRecv)
    (hlog : s.log = w.server.log ∨ ∃ id started, s.log = w.server.log ++ [.connect id started])
    (hget : ∀ id sock, w.server.server.clients.get id = some sock →
      s.server.clients.get id = some sock) : Dispatching N O { w with server := s } := by
  -- a connect is no receive, so neither list changes
  have hhanded : ∀ id, handed s.log id = handed w.server.log id := by
    intro id
    rcases hlog with hlog | ⟨id', started, hlog⟩
    · rw [hlog]
    · rw [hlog, handed_append]
      exact List.append_nil _
  have hdispatched : ∀ id, dispatched s.log id = dispatched w.server.log id := by
    intro id
    rcases hlog with hlog | ⟨id', started, hlog⟩
    · rw [hlog]
    · rw [hlog, dispatched_append]
      exact List.append_nil _
  refine ⟨hloop, hrun, honRecv.trans h.onRecv, h.allowed, ?_, ?_⟩
  · intro id
    obtain ⟨c, hc⟩ := h.delivers id
    refine ⟨c, ⟨?_, (hdispatched id).trans hc.dispatched_eq, ?_⟩⟩
    · show Carries N _ c (w.sent id) (handed s.log id) (w.pending id)
      rw [hhanded]
      exact hc.carries
    · intro a ha
      obtain ⟨sock, hsock, hkey⟩ := hc.keys a ha
      exact ⟨sock, hget id sock hsock, hkey⟩
  · intro id started hmem
    change Entry.disconnect id started ∈ s.log at hmem
    rcases hlog with hlog | ⟨id', started', hlog⟩
    · rw [hlog] at hmem
      exact h.no_disconnect id started hmem
    · rw [hlog] at hmem
      rcases List.mem_append.mp hmem with hold | hnew
      · exact h.no_disconnect id started hold
      · exact absurd (List.mem_singleton.mp hnew) (by simp)

/-- An `accept` that would block changes no stream. -/
theorem Dispatching.accept_again (h : Dispatching N O w) {e : Errno}
    (he : e.againOrWouldBlock = true) :
    Dispatching N O (w.serve M (.acceptError e : ServeInput Ctx PKey)) := by
  apply h.keep (serveStep_loopInv h.loop _)
  -- in the middle of an iteration the step does nothing, at its head it takes the snapshot
  all_goals
    cases htodo : w.server.todo with
    | cons entry rest => simp [serveStep, h.running, htodo]
    | nil => simp [serveStep, h.running, htodo, h.loop.serving, ServeState.acceptError, he,
        ServeState.snapshot]

/-- Neither does a new client, whose stream is empty. -/
theorem Dispatching.accept_client (h : Dispatching N O w) {c : Connection PKey}
    {O' : OpenSSL Ctx PKey} (hc : c.blockingOk = true ∧ c.nonBlockingOk = true ∧
      ∃ d, ExchangeSecret M O' c.exchange d) :
    Dispatching N O (w.serve M (.acceptConnection c O')) := by
  have hloop := @serveStep_loopInv Ctx PKey M w.server h.loop (.acceptConnection c O')
  cases htodo : w.server.todo with
  | cons entry rest =>
    have hs : serveStep M w.server (.acceptConnection c O') = w.server := by
      simp only [serveStep, h.running, htodo]
    rw [Wired.serve, hs]
    exact h
  | nil =>
    have hs : serveStep M w.server (.acceptConnection c O') = w.server.acceptConnection M O' c := by
      simp only [serveStep, h.running, htodo, h.loop.serving]
      exact if_neg Bool.noConfusion
    rcases @acceptConnection_cases Ctx PKey M w.server c O' with ⟨d, -, -, -, ha⟩ | ⟨hno, -⟩
    · rw [hs, ha] at hloop
      rw [Wired.serve, hs, ha]
      exact h.keep hloop h.running rfl (.inr ⟨_, _, rfl⟩) fun id sock hget =>
        Clients.get_set_of_some hget
    · exact absurd hc hno

/-- **A turn** takes one body from the stream of its client, and dispatches the payload, or does nothing.
    -/
theorem Dispatching.turn (h : Dispatching N O w) (hO : O.AESLaws) (hN : N.checked = false)
    {id : Nat} {sock : CDTPSocket} {rest : List (Nat × CDTPSocket)}
    (htodo : w.server.todo = (id, sock) :: rest) {g b : Grant}
    (hfull : TurnInFull w.server.sizeBuffer (w.pending id) g b) :
    Dispatching N O (wiredStep M (ClientSending.message N O) w (.turn g b O)) := by
  obtain ⟨hrest, -, -⟩ := h.loop.turn htodo
  obtain ⟨c, hc⟩ := h.delivers id
  rcases @Delivers.turn Ctx PKey M N O w c id hc h hO hN sock rest htodo g b hfull with
    ⟨-, hs⟩ | ⟨a, waiting, header, pending, hw, hcarries, hs⟩
  · rw [hs]
    exact ⟨loopInv_buffered hrest _, h.running, h.onRecv, h.allowed,
      fun id' => (h.delivers id').imp fun c' hc' => ⟨hc'.carries, hc'.dispatched_eq, hc'.keys⟩,
      h.no_disconnect⟩
  · rw [hs]
    have hb := loopInv_buffered hrest header
    refine ⟨⟨hb.serving, hb.buffer, hb.todo_get, hb.todo_nodup⟩, h.running, h.onRecv, h.allowed, ?_, ?_⟩
    · intro id'
      by_cases hid : id' = id
      · subst hid
        refine ⟨c.receive, ⟨?_, ?_, ?_⟩⟩
        · show Carries N _ c.receive (w.sent id')
            (handed (w.server.log ++ [.recv id' (a.body N O) _]) id')
            (Function.update w.pending id' pending id')
          rw [handed_append_recv, Function.update_self, Function.update_self]
          exact hcarries
        · show dispatched (w.server.log ++ [.recv id' _ (some (plainData a.payload))]) id' = _
          rw [dispatched_append, dispatchedBy, if_pos rfl, hc.dispatched_eq, Channel.receive_cons hw,
            List.map_append]
          rfl
        · intro a' ha'
          apply hc.keys a'
          rw [Channel.receive_cons hw] at ha'
          rw [hw]
          exact List.mem_cons_of_mem _ ha'
      · obtain ⟨c', hc'⟩ := h.delivers id'
        refine ⟨c', ⟨?_, ?_, hc'.keys⟩⟩
        · show Carries N _ c' (w.sent id') (handed (w.server.log ++ [.recv id (a.body N O) _]) id')
            (Function.update w.pending id pending id')
          rw [handed_append_recv, Function.update_of_ne hid, Function.update_of_ne hid]
          exact hc'.carries
        · show dispatched (w.server.log ++ [.recv id _ _]) id' = _
          rw [dispatched_append, dispatchedBy, if_neg (fun heq => hid heq.symm), hc'.dispatched_eq]
          exact List.append_nil _
    · intro id' started hmem
      rcases List.mem_append.mp hmem with hold | hnew
      · exact h.no_disconnect id' started hold
      · exact absurd (List.mem_singleton.mp hnew) (by simp)

/-- **A message** is appended to the stream of the client that sends it. -/
theorem Dispatching.send (h : Dispatching N O w) (hO : O.AESLaws) (hN : N.checked = false)
    {id : Nat} {a : ClientSending} (ha : a.Allowed)
    (hkey : ∃ sock, w.server.server.clients.get id = some sock ∧ sock.key = a.client.sock.key) :
    Dispatching N O (wiredStep M (ClientSending.message N O) w
      (.send id a : WiredInput ClientSending Ctx PKey)) := by
  refine ⟨h.loop, h.running, h.onRecv, ?_, ?_, h.no_disconnect⟩
  · exact Fifo.forall_mem_update h.allowed ha
  · intro id'
    obtain ⟨c, hc⟩ := h.delivers id'
    by_cases hid : id' = id
    · subst hid
      refine ⟨c.send a, ⟨?_, hc.dispatched_eq, ?_⟩⟩
      · show Carries N _ (c.send a) (Function.update w.sent id' (w.sent id' ++ [a]) id')
          (handed w.server.log id')
          (Function.update w.pending id' (w.pending id' ++ a.message N O) id')
        rw [Function.update_self, Function.update_self]
        exact hc.carries.send (ha.sentAs hO hN)
      · intro a' ha'
        rcases List.mem_append.mp ha' with hold | hnew
        · exact hc.keys a' hold
        · rw [List.mem_singleton.mp hnew]
          exact hkey
    · refine ⟨c, ⟨?_, hc.dispatched_eq, hc.keys⟩⟩
      show Carries N _ c (Function.update w.sent id (w.sent id ++ [a]) id') (handed w.server.log id')
        (Function.update w.pending id (w.pending id ++ a.message N O) id')
      rw [Function.update_of_ne hid, Function.update_of_ne hid]
      exact hc.carries

/-- Every step that transfers keeps the invariant. -/
theorem wiredStep_dispatching (hO : O.AESLaws) (hN : N.checked = false) {w : Wired ClientSending}
    {i : WiredInput ClientSending Ctx PKey} (h : Dispatching N O w) (hi : Transfers M O w i) :
    Dispatching N O (wiredStep M (ClientSending.message N O) w i) := by
  cases i with
  | acceptError e => exact h.accept_again hi
  | acceptConnection c O' => exact h.accept_client hi
  | remove id closeOk => exact hi.elim
  | send id a => exact h.send hO hN hi.1 hi.2
  | turn g b O' =>
    obtain ⟨rfl, hfull⟩ := hi
    cases htodo : w.server.todo with
    | cons entry rest => exact h.turn hO hN htodo (hfull h.running entry (by rw [htodo]; rfl))
    | nil =>
      rw [wiredStep, h.running, htodo]
      exact h

end Server

/-! ## From the server to a client -/

section Client

variable {Ctx PKey : Type}

/-- The payload that an entry of the handle loop hands to `on_recv`. -/
def clientDispatchedBy : ClientEntry → Option CryptoData
  | .recv _ payload => payload
  | .disconnected _ => none

/-- What the `on_recv` callback of the client was given. -/
def clientDispatched (log : List ClientEntry) : List CryptoData := log.filterMap clientDispatchedBy

/-- The same runs for the handle loop. -/
def HandleTransfers (O : OpenSSL Ctx PKey) (w : HandleWired ServerSending) :
    HandleWiredInput ServerSending Ctx PKey → Prop
  | .turn g b O' _ _ => O' = O ∧ (w.handle.status = .running → w.handle.client.connected = true →
      TurnInFull w.handle.sizeBuffer w.pending g b)
  | .disconnect _ _ => False
  | .send a => a.Allowed w.handle.client.sock.key

variable {M N : Machine} {O : OpenSSL Ctx PKey} {w : HandleWired ServerSending}

/-- The one stream of a handle loop delivers: what was dispatched is what was received, decrypted. -/
structure HandleDelivers (N : Machine) (O : OpenSSL Ctx PKey) (c : Channel ServerSending)
    (w : HandleWired ServerSending) : Prop where
  carries : Carries N (ServerSending.body N O) c w.sent (clientHanded w.handle.log) w.pending
  dispatched_eq : clientDispatched w.handle.log = c.received.map fun a => plainData a.payload

/-- The invariant of a handle loop, as `Dispatching` is that of the serve loop. -/
structure HandleDispatching (N : Machine) (O : OpenSSL Ctx PKey) (w : HandleWired ServerSending) :
    Prop where
  buffer : w.handle.sizeBuffer.length = CDTP_LENSIZE
  running : w.handle.status = .running
  connected : w.handle.client.connected = true
  onRecv : w.handle.client.onRecv = true
  allowed : ∀ a ∈ w.sent, a.Allowed w.handle.client.sock.key
  delivers : ∃ c, HandleDelivers N O c w
  no_disconnect : ∀ started, .disconnected started ∉ w.handle.log

/-- Before the first turn nothing has been sent. -/
theorem handleDispatching_start {client : CDTPClient} (honRecv : client.onRecv = true)
    {sizeBuffer : Bytes} (hbuf : sizeBuffer.length = CDTP_LENSIZE) :
    HandleDispatching N O (handleWired (startHandle client sizeBuffer)) where
  buffer := hbuf
  running := rfl
  connected := rfl
  onRecv := honRecv
  allowed _ ha := absurd ha (by simp [handleWired])
  delivers := ⟨.empty, ⟨Carries.empty, rfl⟩⟩
  no_disconnect _ := by simp [handleWired, startHandle]

/-- A turn that gets all it asks for is full: no frame on this stream is too long to be read. -/
theorem HandleDelivers.fullTurn {c : Channel ServerSending} (hc : HandleDelivers N O c w)
    (h : HandleDispatching N O w) (hO : O.AESLaws) (hN : N.checked = false) {g b : Grant}
    (hfull : TurnInFull w.handle.sizeBuffer w.pending g b) :
    FullTurn w.handle.sizeBuffer w.pending g b := by
  rw [hc.carries.pending_eq] at hfull ⊢
  apply TurnInFull.fullTurn h.buffer _ hfull
  intro body hbody
  obtain ⟨a, ha, rfl⟩ := List.mem_map.mp hbody
  have hsent : a ∈ w.sent := hc.carries.sent_eq ▸ Channel.mem_sent_of_mem_waiting ha
  exact ((h.allowed a hsent).spec hO hN).2.1

/-- **A turn** passes, or dispatches the oldest payload that is waiting. -/
theorem HandleDelivers.turn {c : Channel ServerSending} (hc : HandleDelivers N O c w)
    (h : HandleDispatching N O w) (hO : O.AESLaws) (hN : N.checked = false) {g b : Grant}
    (hfull : TurnInFull w.handle.sizeBuffer w.pending g b) (closeOk threadOk : Bool) :
    ((streamTurn w.handle.sizeBuffer w.pending g b).header = .error .EAGAIN ∧
      handleWiredStep M (ServerSending.message N O) w (.turn g b O closeOk threadOk)
        = { w with handle := w.handle.buffered (.error .EAGAIN) }) ∨
    ∃ a waiting header pending, c.waiting = a :: waiting ∧
      Carries N (ServerSending.body N O) c.receive w.sent
        (clientHanded w.handle.log ++ [a.body N O]) pending ∧
      handleWiredStep M (ServerSending.message N O) w (.turn g b O closeOk threadOk)
        = { w with
            handle := { w.handle.buffered header with
              log := w.handle.log ++ [.recv (a.body N O) (some (plainData a.payload))] },
            pending := pending } := by
  have hsize : ∀ a ∈ w.sent, 0 < (a.body N O).length ∧ (a.body N O).length < 2 ^ 40 := by
    intro a ha
    obtain ⟨hpos, hlt, -⟩ := (h.allowed a ha).spec (O := O) hO hN
    exact ⟨hpos, Nat.lt_trans hlt (by decide)⟩
  rcases @handleWiredStep_turn Ctx PKey _ M N O w (ServerSending.message N O) (ServerSending.body N O)
    h.buffer h.running h.connected c hc.carries hsize g b (hc.fullTurn h hO hN hfull) closeOk threadOk
    with hagain | ⟨a, waiting, header, pending, hw, hcarries, hs⟩
  · exact .inl hagain
  · right
    refine ⟨a, waiting, header, pending, hw, hcarries, ?_⟩
    have hmem : a ∈ c.waiting := by
      rw [hw]
      exact List.mem_cons_self
    have hsent : a ∈ w.sent := hc.carries.sent_eq ▸ Channel.mem_sent_of_mem_waiting hmem
    obtain ⟨-, -, hdec⟩ := (h.allowed a hsent).spec (O := O) hO hN
    have hcall : clientCallOnRecv M O w.handle.client (a.body N O) (a.body N O).length
        = .ok (some (plainData a.payload)) := by
      rw [clientCallOnRecv, h.onRecv, if_pos rfl, hdec M]
      rfl
    have hreact := @handleReact_frame_ok Ctx PKey M O (w.handle.buffered header) closeOk threadOk _ _ _
      hcall
    rw [hs]
    exact congrArg (fun handle => ({ w with handle := handle, pending := _ } : HandleWired _)) hreact

/-- **A turn** dispatches the next payload, or does nothing. -/
theorem HandleDispatching.turn (h : HandleDispatching N O w) (hO : O.AESLaws) (hN : N.checked = false)
    {g b : Grant} (hfull : TurnInFull w.handle.sizeBuffer w.pending g b) (closeOk threadOk : Bool) :
    HandleDispatching N O
      (handleWiredStep M (ServerSending.message N O) w (.turn g b O closeOk threadOk)) := by
  obtain ⟨c, hc⟩ := h.delivers
  have hbuffered : ∀ header, (w.handle.buffered header).sizeBuffer.length = CDTP_LENSIZE := by
    intro header
    rw [HandleState.buffered, splice_length]
    exact h.buffer
  rcases @HandleDelivers.turn Ctx PKey M N O w c hc h hO hN g b hfull closeOk threadOk with
    ⟨-, hs⟩ | ⟨a, waiting, header, pending, hw, hcarries, hs⟩
  · rw [hs]
    exact ⟨hbuffered _, h.running, h.connected, h.onRecv, h.allowed,
      ⟨c, ⟨hc.carries, hc.dispatched_eq⟩⟩, h.no_disconnect⟩
  · rw [hs]
    refine ⟨hbuffered header, h.running, h.connected, h.onRecv, h.allowed, ⟨c.receive, ⟨?_, ?_⟩⟩, ?_⟩
    · show Carries N _ c.receive w.sent (clientHanded (w.handle.log ++ [.recv (a.body N O) _])) pending
      rw [clientHanded_append_recv]
      exact hcarries
    · show clientDispatched (w.handle.log ++ [.recv _ (some (plainData a.payload))]) = _
      rw [clientDispatched, filterMap_snoc, ← clientDispatched, hc.dispatched_eq,
        Channel.receive_cons hw, List.map_append]
      rfl
    · intro started hmem
      rcases List.mem_append.mp hmem with hold | hnew
      · exact h.no_disconnect started hold
      · exact absurd (List.mem_singleton.mp hnew) (by simp)

/-- Every step that transfers keeps the invariant. -/
theorem handleWiredStep_dispatching (hO : O.AESLaws) (hN : N.checked = false)
    {w : HandleWired ServerSending} {i : HandleWiredInput ServerSending Ctx PKey}
    (h : HandleDispatching N O w) (hi : HandleTransfers O w i) :
    HandleDispatching N O (handleWiredStep M (ServerSending.message N O) w i) := by
  cases i with
  | disconnect closeOk threadOk => exact hi.elim
  | turn g b O' closeOk threadOk =>
    obtain ⟨rfl, hfull⟩ := hi
    exact h.turn hO hN (hfull h.running h.connected) closeOk threadOk
  | send a =>
    have ha : a.Allowed w.handle.client.sock.key := hi
    obtain ⟨c, hc⟩ := h.delivers
    refine ⟨h.buffer, h.running, h.connected, h.onRecv, ?_,
      ⟨c.send a, ⟨hc.carries.send (ha.sentAs hO hN), hc.dispatched_eq⟩⟩, h.no_disconnect⟩
    intro a' ha'
    rcases List.mem_append.mp ha' with hold | hnew
    · exact h.allowed a' hold
    · rw [List.mem_singleton.mp hnew]
      exact ha

end Client

/-! ## Exact delivery -/

section Exact

variable {Ctx PKey : Type}

/-- What a callback was given is what was sent, in order, up to some point; and it is all of it iff
    nothing is pending. -/
def InOrder (dispatched : List CryptoData) (payloads : List Bytes) (pending : Bytes) : Prop :=
  dispatched <+: payloads.map plainData ∧ (pending = [] ↔ dispatched = payloads.map plainData)

/-- A message is the frame of a body that is not empty. -/
def NonemptyFrame (N : Machine) (message : Bytes) : Prop :=
  ∃ body : Bytes, 0 < body.length ∧ message = constructMessage N body body.length

/-- Delivery to the server: the loop runs on and drops nobody, for each client what is dispatched is in
    order, and every further turn of a client in which the header read finds anything dispatches one
    more. -/
structure ServerDelivery (M N : Machine) (O : OpenSSL Ctx PKey) (w : Wired ClientSending) : Prop where
  running : w.server.status = .running
  no_disconnect : ∀ id started, .disconnect id started ∉ w.server.log
  in_order : ∀ id,
    InOrder (dispatched w.server.log id) ((w.sent id).map ClientSending.payload) (w.pending id)
  progress : ∀ id sock rest g b, w.server.todo = (id, sock) :: rest →
    TurnInFull w.server.sizeBuffer (w.pending id) g b →
    (streamTurn w.server.sizeBuffer (w.pending id) g b).header.failed = false →
    ∃ d, dispatched (wiredStep M (ClientSending.message N O) w (.turn g b O)).server.log id
      = dispatched w.server.log id ++ [d]
  nonempty : ∀ id, ∀ a ∈ w.sent id, NonemptyFrame N (a.message N O)

/-- Delivery to a client. -/
structure ClientDelivery (M N : Machine) (O : OpenSSL Ctx PKey) (w : HandleWired ServerSending) :
    Prop where
  running : w.handle.status = .running
  no_disconnect : ∀ started, .disconnected started ∉ w.handle.log
  in_order : InOrder (clientDispatched w.handle.log) (w.sent.map ServerSending.payload) w.pending
  progress : ∀ g b closeOk threadOk, TurnInFull w.handle.sizeBuffer w.pending g b →
    (streamTurn w.handle.sizeBuffer w.pending g b).header.failed = false →
    ∃ d, clientDispatched
        (handleWiredStep M (ServerSending.message N O) w (.turn g b O closeOk threadOk)).handle.log
      = clientDispatched w.handle.log ++ [d]
  nonempty : ∀ a ∈ w.sent, NonemptyFrame N (a.message N O)

variable {M N : Machine} {O : OpenSSL Ctx PKey}

/-- A stream that acts as a channel delivers in order. -/
theorem Carries.inOrder {α : Type} {body : α → Bytes} {payload : α → Bytes} {c : Channel α}
    {sent : List α} {handed : List Bytes} {pending : Bytes} {dispatched : List CryptoData}
    (h : Carries N body c sent handed pending)
    (hd : dispatched = c.received.map fun a => plainData (payload a)) :
    InOrder dispatched (sent.map payload) pending := by
  rw [InOrder, hd, List.map_map, h.pending_eq_nil_iff, ← h.sent_eq]
  refine ⟨c.received_prefix_sent.map _, ?_, ?_⟩
  · intro hall
    rw [hall]
    rfl
  · intro hmap
    -- as many were received as were sent
    apply c.received_prefix_sent.eq_of_length
    have hlen := congrArg List.length hmap
    rw [List.length_map, List.length_map] at hlen
    exact hlen

/-- A message is the frame of a body that is not empty. -/
theorem SentAs.nonemptyFrame {α : Type} {message body : α → Bytes} {a : α}
    (h : SentAs N message body a) : NonemptyFrame N (message a) := ⟨body a, h.pos, h.message_eq⟩

/-- From the invariant to what the property says of a server … -/
theorem Dispatching.delivery {w : Wired ClientSending} (h : Dispatching N O w) (hO : O.AESLaws)
    (hN : N.checked = false) : ServerDelivery M N O w where
  running := h.running
  no_disconnect := h.no_disconnect
  in_order id := by
    obtain ⟨c, hc⟩ := h.delivers id
    exact hc.carries.inOrder hc.dispatched_eq
  progress id sock rest g b htodo hfull hok := by
    obtain ⟨c, hc⟩ := h.delivers id
    rcases @Delivers.turn Ctx PKey M N O w c id hc h hO hN sock rest htodo g b hfull with
      ⟨hagain, -⟩ | ⟨a, waiting, header, pending, -, -, hs⟩
    · rw [hagain] at hok
      exact absurd hok (by decide)
    · refine ⟨plainData a.payload, ?_⟩
      rw [hs]
      show dispatched (w.server.log ++ [.recv id _ (some (plainData a.payload))]) id = _
      rw [dispatched_append, dispatchedBy, if_pos rfl]
      rfl
  nonempty id a ha := ((h.allowed id a ha).sentAs hO hN).nonemptyFrame

/-- … and of a client. -/
theorem HandleDispatching.delivery {w : HandleWired ServerSending} (h : HandleDispatching N O w)
    (hO : O.AESLaws) (hN : N.checked = false) : ClientDelivery M N O w where
  running := h.running
  no_disconnect := h.no_disconnect
  in_order := by
    obtain ⟨c, hc⟩ := h.delivers
    exact hc.carries.inOrder hc.dispatched_eq
  progress g b closeOk threadOk hfull hok := by
    obtain ⟨c, hc⟩ := h.delivers
    rcases @HandleDelivers.turn Ctx PKey M N O w c hc h hO hN g b hfull closeOk threadOk with
      ⟨hagain, -⟩ | ⟨a, waiting, header, pending, -, -, hs⟩
    · rw [hagain] at hok
      exact absurd hok (by decide)
    · refine ⟨plainData a.payload, ?_⟩
      rw [hs]
      exact filterMap_snoc _ _ _
  nonempty a ha := ((h.allowed a ha).sentAs hO hN).nonemptyFrame

/-- **Exact delivery, in both directions.**  Where the cipher keeps its laws and every read transfers all
    it asks for or nothing, every run of the serve loop delivers to the server what its clients send,
    and every run of a handle loop what the server sends to it; sends and turns interleave freely. -/
theorem delivery_exact (hO : O.AESLaws) (hN : N.checked = false) :
    (∀ {s₀ : ServeState}, Fresh s₀ → s₀.server.onRecv = true →
      ∀ is : List (WiredInput ClientSending Ctx PKey),
      Runs.Along (wiredStep M (ClientSending.message N O)) (Transfers M O) (wired s₀) is →
      ServerDelivery M N O (Runs.run (wiredStep M (ClientSending.message N O)) (wired s₀) is)) ∧
    (∀ (client : CDTPClient) {sizeBuffer : Bytes}, sizeBuffer.length = CDTP_LENSIZE →
      client.onRecv = true → ∀ is : List (HandleWiredInput ServerSending Ctx PKey),
      Runs.Along (handleWiredStep M (ServerSending.message N O)) (HandleTransfers O)
        (handleWired (startHandle client sizeBuffer)) is →
      ClientDelivery M N O (Runs.run (handleWiredStep M (ServerSending.message N O))
        (handleWired (startHandle client sizeBuffer)) is)) := by
  constructor
  · intro s₀ hs honRecv is hok
    apply Dispatching.delivery _ hO hN
    exact Runs.run_invariant_of_along (fun w i h hi => wiredStep_dispatching hO hN h hi) is (wired s₀)
      (hs.dispatching honRecv) hok
  · intro client sizeBuffer hbuf honRecv is hok
    apply HandleDispatching.delivery _ hO hN
    exact Runs.run_invariant_of_along (fun w i h hi => handleWiredStep_dispatching hO hN h hi) is _
      (handleDispatching_start honRecv hbuf) hok

end Exact

/-- Two messages of a client: an empty payload, and one of fifteen bytes, whose marker takes two. -/
def demoDelivery : List (WiredInput ClientSending Bytes Unit) :=
  [.acceptConnection demoConnection plainOpenSSL,
   .send 0 { client := demoClient, rand := fun _ => 9, payload := [] },
   .send 0 { client := demoClient, rand := fun _ => 9, payload := List.replicate 15 1 },
   .turn (some 5) (some 32) plainOpenSSL,
   .acceptError .EAGAIN,
   .turn (some 5) (some 48) plainOpenSSL]

/-- A server that stores that client as number 0. -/
def demoServer : CDTPServer :=
  (serveStep plainMachine demoStart (.acceptConnection demoConnection plainOpenSSL)).server

/-- A message of the server. -/
def demoHandled : List (HandleWiredInput ServerSending Bytes Unit) :=
  [.turn (some 5) none plainOpenSSL true true,
   .send { server := demoServer, clientId := 0, rand := fun _ => 9, payload := [1, 2, 3] },
   .turn (some 5) (some 32) plainOpenSSL true true]

/-- All reads of that run are full, and both messages are allowed. -/
theorem demoDelivery_transfers :
    Runs.Along (wiredStep plainMachine (ClientSending.message plainMachine plainOpenSSL))
      (Transfers plainMachine plainOpenSSL) (wired demoStart) demoDelivery := by
  have hexchange : serverExchangeKeys plainMachine plainOpenSSL demoConnection.exchange
      = .ok (some demoKey) := by decide +kernel
  obtain ⟨d, hd, -⟩ := serverExchangeKeys_iff.mp hexchange
  have hstored : ∀ w : Wired ClientSending,
      w.server.server.clients.get 0 = some { sock := 4, key := demoKey } →
      ∃ sock, w.server.server.clients.get 0 = some sock ∧ sock.key = demoClient.sock.key :=
    fun w h => ⟨_, h, rfl⟩
  refine ⟨⟨rfl, rfl, d, hd⟩, ⟨⟨rfl, by decide, by decide⟩, hstored _ (by decide +kernel)⟩,
    ⟨⟨rfl, by decide, by decide⟩, hstored _ (by decide +kernel)⟩, ⟨rfl, by decide +kernel⟩, rfl,
    ⟨rfl, by decide +kernel⟩, trivial⟩

/-- So are those of the other one. -/
theorem demoHandled_transfers :
    Runs.Along (handleWiredStep plainMachine (ServerSending.message plainMachine plainOpenSSL))
      (HandleTransfers plainOpenSSL) (handleWired (startHandle demoClient [0, 0, 0, 0, 0]))
      demoHandled := by
  have hget : demoServer.clients.get 0 = some { sock := 4, key := demoKey } := by decide +kernel
  have hserving : demoServer.serving = true := by decide +kernel
  refine ⟨⟨rfl, by decide +kernel⟩, ⟨hserving, ⟨_, hget, rfl⟩, by decide, by decide⟩,
    ⟨rfl, by decide +kernel⟩, trivial⟩

/-- Both directions, in one run each. -/
theorem delivery_exact_demo :
    ServerDelivery plainMachine plainMachine plainOpenSSL
        (Runs.run (wiredStep plainMachine (ClientSending.message plainMachine plainOpenSSL))
          (wired demoStart) demoDelivery) ∧
      ClientDelivery plainMachine plainMachine plainOpenSSL
        (Runs.run (handleWiredStep plainMachine (ServerSending.message plainMachine plainOpenSSL))
          (handleWired (startHandle demoClient [0, 0, 0, 0, 0])) demoHandled) :=
  ⟨(delivery_exact plainOpenSSL_aesLaws rfl).1 (startServe_fresh true true true rfl) rfl demoDelivery
      demoDelivery_transfers,
    (delivery_exact plainOpenSSL_aesLaws rfl).2 demoClient rfl rfl demoHandled demoHandled_transfers⟩

/-- In the first run both payloads arrive. -/
example : dispatched (Runs.run (wiredStep plainMachine
    (ClientSending.message plainMachine plainOpenSSL)) (wired demoStart) demoDelivery).server.log 0
    = [plainData [], plainData (List.replicate 15 1)] := by decide +kernel

end Cdtp
