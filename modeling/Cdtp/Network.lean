/-
  The server and all its clients, on their connections.

  `Network` puts the halves together that were looked at one by one: the serve loop, and for every id
  that it has given out the handle loop of the client behind it, with the two byte streams between them.
  A connection starts with the key exchange and goes on with sends from both ends, the turns of the two
  loops, broadcasts, and at last a `cdtp_client_disconnect` or a `cdtp_server_remove_client`, after which
  the other end reads what is left in the stream and then its end.  All of this interleaves freely, also
  between different clients.

  What the transport does is the input of a step, and `Network.Orderly` says what is asked of it: the
  reads get all they ask for or nothing, and nobody closes a connection over bytes that it has not read
  or sends into one that the other end has closed (TCP would reset it).

  `network_safe` is about every such run: the two ends of every connection hold one key, what each of
  them dispatches is what the other one sent, in order, and an end that reports the connection as closed
  has dispatched everything, is right about the other end, and reports nothing more.
-/
import Cdtp.Delivery
import Cdtp.PeerFaults

namespace Cdtp

open CMem Fifo

/-! ## The system -/

/-- The serve loop with the streams of its clients, and the clients by the ids that the server gave
    them, each with its own stream. -/
structure Network where
  up : Wired ClientSending
  down : Nat → Option (HandleWired ServerSending)

/-- What the network does next. -/
inductive NetworkInput (PKey : Type) where
  | idle (e : Errno)
  | connect (c : Connection PKey) (io : ClientExchange) (client : CDTPClient) (sizeBuffer : Bytes)
  | clientSend (id : Nat) (rand : Nat → UInt8) (payload : Bytes)
  | serverSend (id : Nat) (rand : Nat → UInt8) (payload : Bytes)
  | sendAll (rand : Nat → Nat → UInt8) (payload : Bytes)
  | serverTurn (g b : Grant)
  | clientTurn (id : Nat) (g b : Grant) (threadOk : Bool)
  | remove (id : Nat)
  | disconnect (id : Nat) (threadOk : Bool)

/-- Nobody has connected yet. -/
def network (s : ServeState) : Network := { up := wired s, down := fun _ => none }

section Steps

variable {Ctx PKey : Type}

/-- The client of the server, for whom the server gave out the id `id`, goes on as `p`. -/
def Network.setDown (w : Network) (id : Nat) (p : HandleWired ServerSending) : Network :=
  { w with down := Function.update w.down id (some p) }

/-- The serve loop goes on as `s`. -/
def Network.setServer (w : Network) (s : ServeState) : Network :=
  { w with up := { w.up with server := s } }

/-- A step of the serve loop, or of a stream that leads to it. -/
def Network.wire (M : Machine) (O : OpenSSL Ctx PKey) (w : Network)
    (i : WiredInput ClientSending Ctx PKey) : Network :=
  { w with up := wiredStep M (ClientSending.message M O) w.up i }

/-- A step of the handle loop of the client `id`, which stands at `p`, or of the stream to it. -/
def Network.wireDown (M : Machine) (O : OpenSSL Ctx PKey) (w : Network) (id : Nat)
    (p : HandleWired ServerSending) (i : HandleWiredInput ServerSending Ctx PKey) : Network :=
  w.setDown id (handleWiredStep M (ServerSending.message M O) p i)

/-- `cdtp_client_connect` meets `accept`: both ends exchange keys, and the handle loop starts. -/
def Network.connect (M : Machine) (O : OpenSSL Ctx PKey) (w : Network) (c : Connection PKey)
    (io : ClientExchange) (client : CDTPClient) (sizeBuffer : Bytes) : Network :=
  match clientExchangeKeys M O io with
  | .ok (some key) =>
    (w.wire M O (.acceptConnection c O)).setDown w.up.server.server.nextClientId
      (handleWired (startHandle { client with sock := { client.sock with key := key } } sizeBuffer))
  | _ => w.wire M O (.acceptConnection c O)

/-- `cdtp_client_send`; a client that is not connected only reports an error. -/
def Network.clientSend (M : Machine) (O : OpenSSL Ctx PKey) (w : Network) (id : Nat)
    (rand : Nat → UInt8) (payload : Bytes) : Network :=
  match w.down id with
  | none => w
  | some p =>
    if p.handle.client.connected then
      w.wire M O (.send id { client := p.handle.client, rand := rand, payload := payload })
    else w

/-- `cdtp_server_send`; for a client that is not stored, there is only an error to report. -/
def Network.serverSend (M : Machine) (O : OpenSSL Ctx PKey) (w : Network) (id : Nat)
    (rand : Nat → UInt8) (payload : Bytes) : Network :=
  match w.down id with
  | none => w
  | some p =>
    if w.up.server.server.clients.contains id then
      w.wireDown M O id p
        (.send { server := w.up.server.server, clientId := id, rand := rand, payload := payload })
    else w

/-- `cdtp_server_send_all`. -/
def Network.sendAll (M : Machine) (O : OpenSSL Ctx PKey) (w : Network) (rand : Nat → Nat → UInt8)
    (payload : Bytes) : Network :=
  w.up.server.server.clients.iter.foldl (fun w c => w.serverSend M O c.1 (rand c.1) payload) w

/-- The client has closed its socket, and everything that it had sent was read. -/
def Network.clientGone (w : Network) (id : Nat) : Bool :=
  w.up.pending id = [] && match w.down id with
    | none => false
    | some p => !p.handle.client.connected

/-- A turn of the serve loop, which meets the end of a stream behind its last byte, if the transport has
    brought it already. -/
def Network.serverTurn (M : Machine) (O : OpenSSL Ctx PKey) (w : Network) (g b : Grant) : Network :=
  match w.up.server.todo with
  | [] => w
  | (id, _) :: _ =>
    if g.isSome ∧ w.clientGone id then
      w.setServer (serveStep M w.up.server (.turn (.data []) (.data []) O))
    else w.wire M O (.turn g b O)

/-- A turn of a handle loop.  The server closes a socket when it takes it out of its map. -/
def Network.clientTurn (M : Machine) (O : OpenSSL Ctx PKey) (w : Network) (id : Nat) (g b : Grant)
    (threadOk : Bool) : Network :=
  match w.down id with
  | none => w
  | some p =>
    if g.isSome ∧ p.pending = [] ∧ w.up.server.server.clients.contains id = false then
      w.setDown id { p with
        handle := handleStep M p.handle (.turn (.data []) (.data []) O true threadOk) }
    else
      w.wireDown M O id p (.turn g b O true threadOk)

/-- `cdtp_client_disconnect`. -/
def Network.disconnect (M : Machine) (O : OpenSSL Ctx PKey) (w : Network) (id : Nat)
    (threadOk : Bool) : Network :=
  match w.down id with
  | none => w
  | some p =>
    w.wireDown M O id p (.disconnect true threadOk)

/-- One step of the network.  Only at the head of its loop does the server accept. -/
def networkStep (M : Machine) (O : OpenSSL Ctx PKey) (w : Network) : NetworkInput PKey → Network
  | .idle e => w.wire M O (.acceptError e)
  | .connect c io client sizeBuffer =>
    if w.up.server.todo = [] then w.connect M O c io client sizeBuffer else w
  | .clientSend id rand payload => w.clientSend M O id rand payload
  | .serverSend id rand payload => w.serverSend M O id rand payload
  | .sendAll rand payload => w.sendAll M O rand payload
  | .serverTurn g b => w.serverTurn M O g b
  | .clientTurn id g b threadOk => w.clientTurn M O id g b threadOk
  | .remove id => w.wire M O (.remove id true)
  | .disconnect id threadOk => w.disconnect M O id threadOk

/-! ## What each input leaves of the serve loop -/

section Up

variable {M : Machine} {O : OpenSSL Ctx PKey} {w : Network}

/-- At the server's end a connect is a step of the serve loop, whatever the client makes of it. -/
theorem connect_up {c : Connection PKey} {io : ClientExchange} {client : CDTPClient}
    {sizeBuffer : Bytes} : (w.connect M O c io client sizeBuffer).up
      = (w.setServer (serveStep M w.up.server (.acceptConnection c O))).up := by
  unfold Network.connect
  split
  · rfl
  · rfl

/-- What the server sends does not move its loop. -/
theorem serverSend_up {one : Nat} {rand : Nat → UInt8} {payload : Bytes} :
    (w.serverSend M O one rand payload).up = w.up := by
  unfold Network.serverSend
  split
  · rfl
  · split
    · rfl
    · rfl

theorem sendAll_up {rand : Nat → Nat → UInt8} {payload : Bytes} :
    (w.sendAll M O rand payload).up = w.up := by
  unfold Network.sendAll
  generalize w.up.server.server.clients.iter = cs
  induction cs generalizing w with
  | nil => rfl
  | cons c cs ih => exact ih.trans serverSend_up

theorem clientTurn_up {one : Nat} {g b : Grant} {threadOk : Bool} :
    (w.clientTurn M O one g b threadOk).up = w.up := by
  unfold Network.clientTurn
  split
  · rfl
  · split
    · rfl
    · rfl

theorem disconnect_up {one : Nat} {threadOk : Bool} : (w.disconnect M O one threadOk).up = w.up := by
  unfold Network.disconnect
  split
  · rfl
  · rfl

theorem clientSend_server {one : Nat} {rand : Nat → UInt8} {payload : Bytes} :
    (w.clientSend M O one rand payload).up.server = w.up.server := by
  unfold Network.clientSend
  split
  · rfl
  · split
    · rfl
    · rfl

/-- A turn reads from the stream or meets its end; either way it is a turn of the serve loop. -/
theorem serverTurn_server {g b : Grant} :
    (w.serverTurn M O g b).up.server = w.up.server ∨
      ∃ header body, (w.serverTurn M O g b).up.server
        = serveStep M w.up.server (.turn header body O) := by
  unfold Network.serverTurn
  split
  · exact .inl rfl
  · split
    · exact .inr ⟨_, _, rfl⟩
    · rw [Network.wire, wiredStep]
      split
      · exact .inr ⟨_, _, rfl⟩
      · exact .inl rfl

end Up

/-! ## Orderly runs -/

/-- A client with a callback connects: all calls succeed, both messages of the key exchange arrive, and
    the server has an id left. -/
structure Connects (M : Machine) (O : OpenSSL Ctx PKey) (w : Network) (c : Connection PKey)
    (io : ClientExchange) (client : CDTPClient) (sizeBuffer : Bytes) : Prop where
  flags : c.blockingOk = true ∧ c.nonBlockingOk = true
  sends : c.exchange.sendFailed = false ∧ io.sendFailed = false
  messages : ∃ keys serverMessage key clientMessage,
    serverKeyMessage M O c.exchange.rsaGen = .ok (keys, serverMessage) ∧
    Delivered serverMessage io.header io.body ∧
    clientKeyMessage M O io = .ok (some (key, clientMessage)) ∧
    Delivered clientMessage c.exchange.header c.exchange.body
  room : w.up.server.server.nextClientId + 1 < SIZE_MOD
  onRecv : client.onRecv = true
  buffer : sizeBuffer.length = CDTP_LENSIZE

/-- Either both ends of a connection have closed it, or neither has. -/
def Network.Open (w : Network) (id : Nat) : Prop :=
  ∀ p ∈ w.down id, (p.handle.client.connected = true ↔
    w.up.server.server.clients.contains id = true)

instance (w : Network) (id : Nat) : Decidable (w.Open id) :=
  inferInstanceAs (Decidable (∀ p ∈ w.down id, (p.handle.client.connected = true ↔
    w.up.server.server.clients.contains id = true)))

/-- What is asked of the transport, and of the ends that close a connection. -/
def Network.Orderly (M : Machine) (O : OpenSSL Ctx PKey) (w : Network) : NetworkInput PKey → Prop
  | .idle e => e.againOrWouldBlock = true
  | .connect c io client sizeBuffer =>
      w.up.server.todo = [] → Connects M O w c io client sizeBuffer
  | .clientSend id _ payload => payload.length ≤ 2 ^ 31 - 64 ∧ w.Open id
  | .serverSend id _ payload => payload.length ≤ 2 ^ 31 - 64 ∧ w.Open id
  | .sendAll _ payload => payload.length ≤ 2 ^ 31 - 64 ∧ ∀ id, w.Open id
  | .serverTurn g b => ∀ entry ∈ w.up.server.todo.head?,
      TurnInFull w.up.server.sizeBuffer (w.up.pending entry.1) g b
  | .clientTurn id g b _ => ∀ p ∈ w.down id, p.handle.client.connected = true →
      TurnInFull p.handle.sizeBuffer p.pending g b
  | .remove id => w.up.pending id = []
  | .disconnect id _ => ∀ p ∈ w.down id, p.pending = []

end Steps

/-! ## What the reads find -/

/-- Whether the first read of a turn gets something. -/
def Grant.finds (g : Grant) (pending : Bytes) : Bool := !(g.read pending CDTP_LENSIZE).failed

section Reads

variable {Ctx PKey α : Type} {M : Machine} {O : OpenSSL Ctx PKey} {message : α → Bytes} {g b : Grant}

/-- A turn whose first read gets nothing takes nothing. -/
theorem streamTurn_again {sizeBuffer pending : Bytes} (h : Grant.finds g pending = false) :
    (streamTurn sizeBuffer pending g b).header = .error .EAGAIN ∧
      (streamTurn sizeBuffer pending g b).rest = pending := by
  have hagain : g.read pending CDTP_LENSIZE = .error .EAGAIN := by
    rcases @Grant.read_failed_or g pending CDTP_LENSIZE (by decide) with hagain | ⟨k, hk, -⟩
    · exact hagain
    · rw [Grant.finds, hk] at h
      exact absurd h Bool.noConfusion
  refine ⟨hagain, ?_⟩
  show (if (g.read pending CDTP_LENSIZE).failed then pending else _) = pending
  rw [hagain]
  exact if_pos rfl

theorem finds_of_header {sizeBuffer pending : Bytes}
    (h : (streamTurn sizeBuffer pending g b).header = .error .EAGAIN) :
    Grant.finds g pending = false := by
  have hagain : g.read pending CDTP_LENSIZE = .error .EAGAIN := h
  rw [Grant.finds, hagain]
  rfl

/-- The serve loop goes on to the next client. -/
theorem wiredStep_again {w : Wired α} {id : Nat} {sock : CDTPSocket} {rest : List (Nat × CDTPSocket)}
    (hrun : w.server.status = .running) (htodo : w.server.todo = (id, sock) :: rest)
    (h : Grant.finds g (w.pending id) = false) :
    wiredStep M message w (.turn g b O)
      = { w with server := ({ w.server with todo := rest }).buffered (.error .EAGAIN) } := by
  have hstep : wiredStep M message w (.turn g b O)
      = { w with
          server := ({ w.server with todo := rest }).clientTurn M O id
            (streamTurn w.server.sizeBuffer (w.pending id) g b).header
            (streamTurn w.server.sizeBuffer (w.pending id) g b).body,
          pending := Function.update w.pending id
            (streamTurn w.server.sizeBuffer (w.pending id) g b).rest } := by
    rw [← serveStep_turn hrun htodo]
    simp only [wiredStep, hrun, htodo]
    rfl
  obtain ⟨hheader, hrest⟩ := @streamTurn_again g b w.server.sizeBuffer _ h
  rw [hstep, hheader, hrest, Function.update_eq_self, ServeState.clientTurn, receive_again, react_again]

/-- The handle loop turns round. -/
theorem handleWiredStep_again {p : HandleWired α} (hrun : p.handle.status = .running)
    (hconnected : p.handle.client.connected = true) (closeOk threadOk : Bool)
    (h : Grant.finds g p.pending = false) :
    handleWiredStep M message p (.turn g b O closeOk threadOk)
      = { p with handle := p.handle.buffered (.error .EAGAIN) } := by
  have hstep : handleWiredStep M message p (.turn g b O closeOk threadOk)
      = { p with
          handle := p.handle.turn M O (streamTurn p.handle.sizeBuffer p.pending g b).header
            (streamTurn p.handle.sizeBuffer p.pending g b).body closeOk threadOk,
          pending := (streamTurn p.handle.sizeBuffer p.pending g b).rest } := by
    rw [handleWiredStep, if_pos ⟨hrun, hconnected⟩]
    simp only [handleStep, hrun, hconnected]
    rfl
  obtain ⟨hheader, hrest⟩ := @streamTurn_again g b p.handle.sizeBuffer _ h
  rw [hstep, hheader, hrest, HandleState.turn, receive_again, handleReact_again]

end Reads

/-! ## One connection -/

section Views

variable {Ctx PKey : Type} {M : Machine} {O : OpenSSL Ctx PKey} {w w' : Network} {id : Nat}

/-- Whether the entry reports that the client `id` has disconnected. -/
def departsBy (id : Nat) : Entry → Bool
  | .disconnect id' _ => id' = id
  | _ => false

/-- Whether `on_disconnect` was called for the client `id`. -/
def departed (log : List Entry) (id : Nat) : Bool := log.any (departsBy id)

/-- Whether `on_disconnected` was called. -/
def clientDeparted (log : List ClientEntry) : Bool :=
  log.any fun
    | .disconnected _ => true
    | .recv _ _ => false

/-- What the network holds about the id `id`. -/
structure View where
  stored : Option CDTPSocket
  handed : List Bytes
  dispatched : List CryptoData
  departed : Bool
  sent : List ClientSending
  pending : Bytes
  down : Option (HandleWired ServerSending)

/-- All that the invariant says of one connection. -/
def Network.view (w : Network) (id : Nat) : View where
  stored := w.up.server.server.clients.get id
  handed := handed w.up.server.log id
  dispatched := dispatched w.up.server.log id
  departed := departed w.up.server.log id
  sent := w.up.sent id
  pending := w.up.pending id
  down := w.down id

theorem departed_append (log : List Entry) (e : Entry) (id : Nat) :
    departed (log ++ [e]) id = (departed log id || departsBy id e) := by
  rw [departed, List.any_append, List.any_cons, List.any_nil, Bool.or_false]
  rfl

/-- An entry about another client changes nothing for this one. -/
theorem entry_other {log : List Entry} {e : Entry} (he : e.id ≠ id) :
    handed (log ++ [e]) id = handed log id ∧ dispatched (log ++ [e]) id = dispatched log id ∧
      departed (log ++ [e]) id = departed log id := by
  rw [handed_append, dispatched_append, departed_append]
  cases e with
  | recv id' body payload =>
    have hid : id' ≠ id := he
    simp [handedBy, dispatchedBy, departsBy, hid]
  | disconnect id' started =>
    have hid : id' ≠ id := he
    simp [handedBy, dispatchedBy, departsBy, hid]
  | connect id' started => simp [handedBy, dispatchedBy, departsBy]
  | removed id' => simp [handedBy, dispatchedBy, departsBy]

/-- A step that is about another client. -/
theorem view_congr
    (hlog : w'.up.server.log = w.up.server.log ∨
      ∃ e : Entry, e.id ≠ id ∧ w'.up.server.log = w.up.server.log ++ [e])
    (hstored : w'.up.server.server.clients.get id = w.up.server.server.clients.get id)
    (hsent : w'.up.sent id = w.up.sent id) (hpending : w'.up.pending id = w.up.pending id)
    (hdown : w'.down id = w.down id) : w'.view id = w.view id := by
  have hentries : handed w'.up.server.log id = handed w.up.server.log id ∧
      dispatched w'.up.server.log id = dispatched w.up.server.log id ∧
      departed w'.up.server.log id = departed w.up.server.log id := by
    rcases hlog with hlog | ⟨e, he, hlog⟩
    · rw [hlog]
      exact ⟨rfl, rfl, rfl⟩
    · rw [hlog]
      exact entry_other he
  obtain ⟨hhanded, hdispatched, hdeparted⟩ := hentries
  simp only [Network.view, hhanded, hdispatched, hdeparted, hstored, hsent, hpending, hdown]

/-- An id that was not given out yet. -/
structure View.Unborn (v : View) : Prop where
  stored : v.stored = none
  handed : v.handed = []
  dispatched : v.dispatched = []
  departed : v.departed = false
  sent : v.sent = []
  pending : v.pending = []

/-- A connection, with the client `p` at its other end. -/
structure View.Linked (M : Machine) (O : OpenSSL Ctx PKey) (v : View) (p : HandleWired ServerSending) :
    Prop where
  full : p.handle.client.sock.key.Full
  stored_key : ∀ sock, v.stored = some sock → sock.key = p.handle.client.sock.key
  up : ∃ c, Carries M (ClientSending.body M O) c v.sent v.handed v.pending ∧
    v.dispatched = c.received.map fun a => plainData a.payload
  up_allowed : ∀ a ∈ v.sent, a.Allowed ∧ a.client.sock.key = p.handle.client.sock.key
  down : ∃ c, HandleDelivers M O c p
  down_allowed : ∀ a ∈ p.sent, a.Allowed p.handle.client.sock.key
  buffer : p.handle.sizeBuffer.length = CDTP_LENSIZE
  onRecv : p.handle.client.onRecv = true
  running : p.handle.client.connected = true → p.handle.status = .running
  not_crashed : p.handle.status ≠ .crashed
  /-- the server lets go of a client only when it has read all that came from it -/
  drained : v.stored = none → v.pending = []
  clientDrained : p.handle.client.connected = false → p.pending = []
  /-- and what an end reports about the other end is so -/
  departed : v.departed = true → v.stored = none ∧ p.handle.client.connected = false
  clientDeparted : clientDeparted p.handle.log = true →
    p.handle.client.connected = false ∧ v.stored = none
  /-- behind which the client reports nothing more -/
  lastReport : Cdtp.clientDeparted p.handle.log.dropLast = false

/-- Either the id was not given out, or its connection has the invariant of one. -/
structure View.Ok (M : Machine) (O : OpenSSL Ctx PKey) (v : View) : Prop where
  unborn : v.down = none → v.Unborn
  linked : ∀ p, v.down = some p → v.Linked M O p

theorem View.Linked.ok {v : View} {p : HandleWired ServerSending} (h : v.Linked M O p)
    (hp : v.down = some p) : v.Ok M O where
  unborn hno := by
    rw [hp] at hno
    exact absurd hno (by simp)
  linked p' hp' := by
    rw [hp, Option.some.injEq] at hp'
    rw [← hp']
    exact h

/-- The invariant of the network. -/
structure NetInv (M : Machine) (O : OpenSSL Ctx PKey) (w : Network) : Prop where
  loop : LoopInv w.up.server
  running : w.up.server.status = .running
  onRecv : w.up.server.server.onRecv = true
  ids : ∀ id, w.down id = none ↔ w.up.server.server.nextClientId ≤ id
  views : ∀ id, (w.view id).Ok M O

/-- A server that has just been started, without clients. -/
theorem Fresh.netInv {s : ServeState} (h : Fresh s) (honRecv : s.server.onRecv = true) :
    NetInv M O (network s) where
  loop := h.loopInv
  running := h.running
  onRecv := honRecv
  ids id := by
    show none = none ↔ s.server.nextClientId ≤ id
    rw [h.nextClientId]
    exact ⟨fun _ => Nat.zero_le id, fun _ => rfl⟩
  views id := by
    refine ⟨fun _ => ⟨h.clients id, ?_, ?_, ?_, rfl, rfl⟩,
      fun p hp => absurd hp (by simp [network, Network.view])⟩
    · show handed s.log id = []
      rw [h.log]
      rfl
    · show dispatched s.log id = []
      rw [h.log]
      rfl
    · show departed s.log id = false
      rw [h.log]
      rfl

/-- A step that is about one client, or about none. -/
theorem NetInv.step (h : NetInv M O w) (id : Nat) (hloop : LoopInv w'.up.server)
    (hrunning : w'.up.server.status = .running)
    (honRecv : w'.up.server.server.onRecv = w.up.server.server.onRecv)
    (hnext : w'.up.server.server.nextClientId = w.up.server.server.nextClientId)
    (hdown : ∀ id, w'.down id = none ↔ w.down id = none)
    (hother : ∀ id', id' ≠ id → w'.view id' = w.view id') (hself : (w'.view id).Ok M O) :
    NetInv M O w' where
  loop := hloop
  running := hrunning
  onRecv := honRecv.trans h.onRecv
  ids id' := by rw [hdown, hnext, h.ids]
  views id' := by
    by_cases hid : id' = id
    · rw [hid]
      exact hself
    · rw [hother id' hid]
      exact h.views id'

/-- A stored client is there. -/
theorem NetInv.stored (h : NetInv M O w) {sock : CDTPSocket}
    (hget : w.up.server.server.clients.get id = some sock) :
    ∃ p, w.down id = some p ∧ (w.view id).Linked M O p := by
  cases hp : w.down id with
  | none =>
    have hno : w.up.server.server.clients.get id = none := ((h.views id).unborn hp).stored
    rw [hget] at hno
    exact absurd hno (by simp)
  | some p => exact ⟨p, rfl, (h.views id).linked p hp⟩

/-! ## What the steps do -/

/-- Nobody wants to connect: at the head of the loop the snapshot is taken, elsewhere nothing happens. -/
theorem NetInv.idle_cases (h : NetInv M O w) {e : Errno} (he : e.againOrWouldBlock = true) :
    (w.up.server.todo ≠ [] ∧
      serveStep M w.up.server (.acceptError e : ServeInput Ctx PKey) = w.up.server) ∨
    (w.up.server.todo = [] ∧
      serveStep M w.up.server (.acceptError e : ServeInput Ctx PKey) = w.up.server.snapshot) := by
  cases htodo : w.up.server.todo with
  | cons entry rest =>
    refine .inl ⟨List.cons_ne_nil _ _, ?_⟩
    simp only [serveStep, h.running, htodo]
  | nil =>
    refine .inr ⟨rfl, ?_⟩
    simp only [serveStep, h.running, htodo, h.loop.serving, ServeState.acceptError, he]
    rfl

theorem NetInv.idle (h : NetInv M O w) {e : Errno} (he : e.againOrWouldBlock = true) :
    NetInv M O (w.wire M O (.acceptError e)) := by
  have hloop := @serveStep_loopInv Ctx PKey M w.up.server h.loop (.acceptError e)
  show NetInv M O (w.setServer (serveStep M w.up.server (.acceptError e : ServeInput Ctx PKey)))
  rcases @NetInv.idle_cases Ctx PKey M O w h e he with ⟨-, hs⟩ | ⟨-, hs⟩
  · rw [hs]
    exact h
  · rw [hs] at hloop ⊢
    exact h.step 0 hloop h.running rfl rfl (fun _ => Iff.rfl) (fun _ _ => rfl) (h.views 0)

/-- Both ends of a delivered key exchange come out with one key. -/
theorem Connects.agree {Matching : PKey → PKey → Prop} {c : Connection PKey} {io : ClientExchange}
    {client : CDTPClient} {sizeBuffer : Bytes} (h : Connects M O w c io client sizeBuffer)
    (hO : O.SealLaws Matching) (hM : M.checked = false) :
    ∃ key : AESKey, key.Full ∧ clientExchangeKeys M O io = .ok (some key) ∧
      serverExchangeKeys M O c.exchange = .ok (some key) := by
  obtain ⟨keys, serverMessage, key, clientMessage, hserver, hdown, hclient, hup⟩ := h.messages
  obtain ⟨hkeys, rfl⟩ := serverKeyMessage_eq hserver
  obtain ⟨k, pub, pri, -, hwpub, hwpri, hpos, hpub, -⟩ := cryptoRsaKeyPair_eq hkeys
  obtain ⟨hpubLen, -⟩ := hO.pem k pub pri hwpub hwpri
  rw [hpub] at hdown
  obtain ⟨hfull, sealed, hsealed, rfl⟩ := clientKeyMessage_delivered ⟨hpos, hpubLen⟩ hdown hclient
  rw [← hpub] at hsealed
  have hreceived := serverReceiveKey_delivered hO hM hkeys hfull hsealed hup
  refine ⟨key, hfull, ?_, ?_⟩
  · rw [clientExchangeKeys, hclient, ok_bind]
    simp only [h.sends.2]
    rfl
  · rw [serverExchangeKeys, hserver, ok_bind]
    simp only [h.sends.1]
    exact hreceived

/-- The new client is stored with the key that it has itself. -/
theorem acceptConnection_of_key {s : ServeState} {c : Connection PKey} {key : AESKey}
    (hflags : c.blockingOk = true ∧ c.nonBlockingOk = true)
    (hkey : serverExchangeKeys M O c.exchange = .ok (some key)) :
    s.acceptConnection M O c
      = ((s.allocated c.sock).addClient s.server.nextClientId { sock := c.sock, key := key }).snapshot := by
  obtain ⟨d, hd, rfl⟩ := serverExchangeKeys_iff.mp hkey
  rcases @acceptConnection_cases Ctx PKey M s c O with ⟨d', -, -, hd', hs⟩ | ⟨hno, -⟩
  · rw [hs, hd'.unique hd]
  · exact absurd ⟨hflags.1, hflags.2, d, hd⟩ hno

/-- A connection starts with a key at both ends and nothing sent. -/
theorem linked_start {v : View} {sock : CDTPSocket} {client : CDTPClient} {sizeBuffer : Bytes}
    (hstored : v.stored = some sock) (hkey : sock.key = client.sock.key) (hfull : client.sock.key.Full)
    (hhanded : v.handed = []) (hdispatched : v.dispatched = []) (hdeparted : v.departed = false)
    (hsent : v.sent = []) (hpending : v.pending = []) (honRecv : client.onRecv = true)
    (hbuf : sizeBuffer.length = CDTP_LENSIZE) :
    v.Linked M O (handleWired (startHandle client sizeBuffer)) where
  full := hfull
  stored_key sock' h := by
    rw [hstored, Option.some.injEq] at h
    rw [← h]
    exact hkey
  up := by
    refine ⟨.empty, ?_, hdispatched⟩
    rw [hsent, hhanded, hpending]
    exact Carries.empty
  up_allowed a ha := by
    rw [hsent] at ha
    exact absurd ha (by simp)
  down := ⟨.empty, ⟨Carries.empty, rfl⟩⟩
  down_allowed a ha := absurd ha (by simp [handleWired])
  buffer := hbuf
  onRecv := honRecv
  running _ := rfl
  not_crashed := Status.noConfusion
  drained _ := hpending
  clientDrained _ := rfl
  departed h := absurd (hdeparted.symm.trans h) (by simp)
  clientDeparted h := absurd h (by simp [Cdtp.clientDeparted, handleWired, startHandle])
  lastReport := rfl

/-- The serve loop enters the new client into its map and takes the snapshot. -/
theorem NetInv.connect_server {Matching : PKey → PKey → Prop} (h : NetInv M O w)
    (hO : O.SealLaws Matching) (hM : M.checked = false) {c : Connection PKey} {io : ClientExchange}
    {client : CDTPClient} {sizeBuffer : Bytes} (htodo : w.up.server.todo = [])
    (hc : Connects M O w c io client sizeBuffer) :
    ∃ key : AESKey, key.Full ∧ clientExchangeKeys M O io = .ok (some key) ∧
      serveStep M w.up.server (.acceptConnection c O)
        = ((w.up.server.allocated c.sock).addClient w.up.server.server.nextClientId
            { sock := c.sock, key := key }).snapshot := by
  obtain ⟨key, hfull, hclient, hserver⟩ := hc.agree hO hM
  refine ⟨key, hfull, hclient, ?_⟩
  rw [← acceptConnection_of_key hc.flags hserver]
  simp only [serveStep, h.running, htodo, h.loop.serving]
  exact if_neg Bool.noConfusion

/-- A connect gives the next id to the new client, and both ends its key. -/
theorem NetInv.connect {Matching : PKey → PKey → Prop} (h : NetInv M O w) (hO : O.SealLaws Matching)
    (hM : M.checked = false) {c : Connection PKey} {io : ClientExchange} {client : CDTPClient}
    {sizeBuffer : Bytes} (htodo : w.up.server.todo = [])
    (hc : Connects M O w c io client sizeBuffer) :
    NetInv M O (w.connect M O c io client sizeBuffer) := by
  obtain ⟨key, hfull, hclient, hs⟩ := h.connect_server hO hM htodo hc
  have hloop := @serveStep_loopInv Ctx PKey M w.up.server h.loop (.acceptConnection c O)
  have hw : w.connect M O c io client sizeBuffer
      = (w.setServer (serveStep M w.up.server (.acceptConnection c O))).setDown
          w.up.server.server.nextClientId (handleWired (startHandle
            { client with sock := { client.sock with key := key } } sizeBuffer)) := by
    rw [Network.connect, hclient]
    rfl
  rw [hw]
  rw [hs] at hloop ⊢
  generalize hid : w.up.server.server.nextClientId = new at *
  have hborn : (w.view new).Unborn := (h.views new).unborn ((h.ids new).mpr (Nat.le_of_eq hid))
  have hstored : w.up.server.server.clients.get new = none := hborn.stored
  have hset := Clients.set_of_none hstored { sock := c.sock, key := key }
  refine ⟨hloop, h.running, h.onRecv, ?_, ?_⟩
  · intro id
    show Function.update w.down new _ id = none ↔
      (w.up.server.server.nextClientId + 1) % SIZE_MOD ≤ id
    have hroom := hc.room
    rw [hid] at hroom ⊢
    rw [Nat.mod_eq_of_lt hroom]
    by_cases hne : id = new
    · subst hne
      rw [Function.update_self]
      exact ⟨fun h => absurd h (by simp), fun h => absurd h (by omega)⟩
    · rw [Function.update_of_ne hne, h.ids, hid]
      omega
  · intro id
    by_cases hne : id = new
    · rw [hne]
      refine ⟨fun hno => absurd hno (by simp [Network.view, Network.setDown]), ?_⟩
      intro p hp
      have hp : handleWired (startHandle { client with sock := { client.sock with key := key } }
          sizeBuffer) = p := by
        simpa [Network.view, Network.setDown] using hp
      subst hp
      have hget : (w.up.server.server.clients.set new { sock := c.sock, key := key }).2.get new
          = some { sock := c.sock, key := key } := by
        rw [hset.2, Function.update_self]
      refine linked_start hget rfl hfull ?_ ?_ ?_ hborn.sent hborn.pending hc.onRecv hc.buffer
      · show handed (w.up.server.log ++ [.connect new _]) new = []
        rw [handed_append]
        exact (List.append_nil _).trans hborn.handed
      · show dispatched (w.up.server.log ++ [.connect new _]) new = []
        rw [dispatched_append]
        exact (List.append_nil _).trans hborn.dispatched
      · show departed (w.up.server.log ++ [.connect new _]) new = false
        rw [departed_append]
        exact (Bool.or_false _).trans hborn.departed
    · rw [view_congr (w := w)]
      · exact h.views id
      · exact .inr ⟨.connect new w.up.server.server.onConnect, fun heq => hne heq.symm, rfl⟩
      · show (w.up.server.server.clients.set new _).2.get id = _
        rw [hset.2, Function.update_of_ne hne]
      · rfl
      · rfl
      · exact Function.update_of_ne hne _ _

theorem view_send (w : Network) (id : Nat) (a : ClientSending) :
    (w.wire M O (.send id a)).view id
      = { w.view id with sent := w.up.sent id ++ [a], pending := w.up.pending id ++ a.message M O } := by
  simp only [Network.view, Network.wire, wiredStep, Function.update_self]

/-- A send of the client. -/
theorem linked_clientSend {v : View} {p : HandleWired ServerSending} (h : v.Linked M O p)
    (hO : O.AESLaws) (hM : M.checked = false) {a : ClientSending} (hclient : a.client = p.handle.client)
    (hconnected : p.handle.client.connected = true) (hstored : v.stored ≠ none)
    (hsize : a.payload.length ≤ 2 ^ 31 - 64) :
    { v with sent := v.sent ++ [a], pending := v.pending ++ a.message M O }.Linked M O p := by
  have ha : a.Allowed := ⟨by rw [hclient]; exact hconnected, by rw [hclient]; exact h.full, hsize⟩
  obtain ⟨c, hc, hdispatched⟩ := h.up
  refine { h with up := ?_, up_allowed := ?_, drained := fun hno => absurd hno hstored }
  · exact ⟨c.send a, hc.send (ha.sentAs hO hM), hdispatched⟩
  · intro a' ha'
    rcases List.mem_append.mp ha' with hold | hnew
    · exact h.up_allowed a' hold
    · rw [List.mem_singleton.mp hnew]
      exact ⟨ha, by rw [hclient]⟩

/-- The server stores the client, so its message is one for the client's key. -/
theorem linked_serverSend {v : View} {p : HandleWired ServerSending} (h : v.Linked M O p)
    (hO : O.AESLaws) (hM : M.checked = false) {a : ServerSending} (hserving : a.server.serving = true)
    (hconnected : p.handle.client.connected = true) {sock : CDTPSocket}
    (hstored : v.stored = some sock) (hget : a.server.clients.get a.clientId = some sock)
    (hsize : a.payload.length ≤ 2 ^ 31 - 64) :
    { v with down := some { p with pending := p.pending ++ a.message M O, sent := p.sent ++ [a] }
      }.Linked M O { p with pending := p.pending ++ a.message M O, sent := p.sent ++ [a] } := by
  have ha : a.Allowed p.handle.client.sock.key :=
    ⟨hserving, ⟨sock, hget, h.stored_key sock hstored⟩, h.full, hsize⟩
  obtain ⟨c, hc⟩ := h.down
  refine { h with down := ?_, down_allowed := ?_, clientDrained := ?_ }
  · exact ⟨c.send a, ⟨hc.carries.send (ha.sentAs hO hM), hc.dispatched_eq⟩⟩
  · intro a' ha'
    rcases List.mem_append.mp ha' with hold | hnew
    · exact h.down_allowed a' hold
    · rw [List.mem_singleton.mp hnew]
      exact ha
  · intro hno
    exact absurd (hconnected.symm.trans hno) (by simp)

/-- A send keeps the invariant as long as the server has not let go of the client. -/
theorem NetInv.clientSend (h : NetInv M O w) (hO : O.AESLaws) (hM : M.checked = false) {id : Nat}
    {rand : Nat → UInt8} {payload : Bytes} (hsize : payload.length ≤ 2 ^ 31 - 64) (hopen : w.Open id) :
    NetInv M O (w.clientSend M O id rand payload) := by
  unfold Network.clientSend
  cases hp : w.down id with
  | none => exact h
  | some p =>
    simp only
    split
    · rename_i hconnected
      refine h.step id h.loop h.running rfl rfl (fun _ => Iff.rfl) ?_ ?_
      · intro id' hne
        exact view_congr (.inl rfl) rfl (Function.update_of_ne hne _ _)
          (Function.update_of_ne hne _ _) rfl
      · have hstored := (hopen p hp).mp hconnected
        rw [Clients.contains_eq, Option.isSome_iff_ne_none] at hstored
        have hlinked := linked_clientSend ((h.views id).linked p hp) hO hM
          (a := { client := p.handle.client, rand := rand, payload := payload }) rfl hconnected hstored
          hsize
        refine View.Linked.ok (p := p) ?_ hp
        rw [view_send]
        exact hlinked
    · exact h

/-- The client `id` goes on as `p`. -/
theorem NetInv.setDown (h : NetInv M O w) {p p' : HandleWired ServerSending} (hp : w.down id = some p)
    (hlinked : { w.view id with down := some p' }.Linked M O p') : NetInv M O (w.setDown id p') := by
  refine h.step id h.loop h.running rfl rfl ?_ ?_ ?_
  · intro id'
    by_cases hid : id' = id
    · rw [hid, hp]
      show Function.update w.down id (some p') id = none ↔ _
      rw [Function.update_self]
      exact ⟨fun hno => absurd hno (by simp), fun hno => absurd hno (by simp)⟩
    · show Function.update w.down id (some p') id' = none ↔ _
      rw [Function.update_of_ne hid]
  · intro id' hne
    exact view_congr (.inl rfl) rfl rfl rfl (Function.update_of_ne hne _ _)
  · have hview : (w.setDown id p').view id = { w.view id with down := some p' } := by
      simp only [Network.view, Network.setDown, Function.update_self]
    rw [hview]
    exact hlinked.ok rfl

theorem NetInv.serverSend (h : NetInv M O w) (hO : O.AESLaws) (hM : M.checked = false)
    {rand : Nat → UInt8} {payload : Bytes} (hsize : payload.length ≤ 2 ^ 31 - 64) (hopen : w.Open id) :
    NetInv M O (w.serverSend M O id rand payload) := by
  unfold Network.serverSend
  cases hp : w.down id with
  | none => exact h
  | some p =>
    simp only
    split
    · rename_i hcontains
      have hconnected := (hopen p hp).mpr hcontains
      rw [Clients.contains_eq] at hcontains
      obtain ⟨sock, hget⟩ := Option.isSome_iff_exists.mp hcontains
      exact h.setDown hp (linked_serverSend ((h.views id).linked p hp) hO hM h.loop.serving hconnected
        hget hget hsize)
    · exact h

/-- A send changes neither end's mind about the connection. -/
theorem serverSend_open {rand : Nat → UInt8} {payload : Bytes} {id' : Nat} (h : w.Open id') :
    (w.serverSend M O id rand payload).Open id' := by
  unfold Network.serverSend
  cases hp : w.down id with
  | none => exact h
  | some p =>
    simp only
    split
    · intro q hq
      by_cases hid : id' = id
      · subst hid
        have hq : Function.update w.down id' _ id' = some q := hq
        rw [Function.update_self, Option.some.injEq] at hq
        rw [← hq]
        exact h p hp
      · have hq : Function.update w.down id _ id' = some q := hq
        rw [Function.update_of_ne hid] at hq
        exact h q hq
    · exact h

/-- A broadcast is a send to each of the stored clients. -/
theorem NetInv.sendAll (h : NetInv M O w) (hO : O.AESLaws) (hM : M.checked = false)
    {rand : Nat → Nat → UInt8} {payload : Bytes} (hsize : payload.length ≤ 2 ^ 31 - 64)
    (hopen : ∀ id, w.Open id) : NetInv M O (w.sendAll M O rand payload) := by
  unfold Network.sendAll
  generalize w.up.server.server.clients.iter = cs
  induction cs generalizing w with
  | nil => exact h
  | cons c cs ih =>
    exact ih (h.serverSend hO hM hsize (hopen c.1)) fun id' => serverSend_open (hopen id')

/-- The server lets go of a client of whom nothing is left to read; if it calls `on_disconnect`, then
    because the client has closed. -/
theorem linked_leave {v : View} {p : HandleWired ServerSending} (h : v.Linked M O p)
    (hpending : v.pending = []) {departed : Bool}
    (hdeparted : departed = true → p.handle.client.connected = false) :
    { v with stored := none, departed := departed }.Linked M O p :=
  { h with
    stored_key := fun sock hno => absurd hno (by simp)
    drained := fun _ => hpending
    departed := fun hd => ⟨rfl, hdeparted hd⟩
    clientDeparted := fun hd => ⟨(h.clientDeparted hd).1, rfl⟩ }

/-- The entry `e` about the client `id`, who leaves the map of the server. -/
theorem view_leave {s : ServeState} {e : Entry}
    (hget : s.server.clients.get = Function.update w.up.server.server.clients.get id none)
    (hlog : s.log = w.up.server.log ++ [e])
    (hrecv : handedBy id e = none ∧ dispatchedBy id e = none) :
    (w.setServer s).view id
      = { w.view id with stored := none, departed := (w.view id).departed || departsBy id e } := by
  simp only [Network.view, Network.setServer, hget, Function.update_self, hlog, handed_append,
    dispatched_append, departed_append, hrecv, Option.toList_none, List.append_nil]

/-- The client `id` leaves the map of the server, with the entry `e`. -/
theorem NetInv.leave (h : NetInv M O w) {s : ServeState} {p : HandleWired ServerSending} {e : Entry}
    (hp : w.down id = some p) (hpending : w.up.pending id = []) (hid : e.id = id)
    (hloop : LoopInv s) (hrunning : s.status = .running)
    (honRecv : s.server.onRecv = w.up.server.server.onRecv)
    (hnext : s.server.nextClientId = w.up.server.server.nextClientId)
    (hget : s.server.clients.get = Function.update w.up.server.server.clients.get id none)
    (hlog : s.log = w.up.server.log ++ [e]) (hrecv : handedBy id e = none ∧ dispatchedBy id e = none)
    (hdeparts : departsBy id e = true → p.handle.client.connected = false) :
    NetInv M O (w.setServer s) := by
  refine h.step id hloop hrunning honRecv hnext (fun _ => Iff.rfl) ?_ ?_
  · intro id' hne
    refine view_congr (.inr ⟨e, ?_, hlog⟩) ?_ rfl rfl rfl
    · rw [hid]
      exact hne.symm
    · show s.server.clients.get id' = _
      rw [hget, Function.update_of_ne hne]
  · have hlinked := (h.views id).linked p hp
    rw [view_leave hget hlog hrecv]
    refine (linked_leave hlinked hpending ?_).ok hp
    intro hd
    rcases Bool.or_eq_true_iff.mp hd with hold | hnew
    · exact (hlinked.departed hold).2
    · exact hdeparts hnew

/-- Whom the server removes has nothing left to be read. -/
theorem NetInv.remove (h : NetInv M O w) (hpending : w.up.pending id = []) :
    NetInv M O (w.wire M O (.remove id true)) := by
  have hloop := @serveStep_loopInv Ctx PKey M w.up.server h.loop (.remove id true)
  show NetInv M O (w.setServer (serveStep M w.up.server (.remove id true : ServeInput Ctx PKey)))
  cases htodo : w.up.server.todo with
  | cons entry rest =>
    have hs : serveStep M w.up.server (.remove id true : ServeInput Ctx PKey) = w.up.server := by
      simp only [serveStep, h.running, htodo]
    rw [hs]
    exact h
  | nil =>
    have hs : serveStep M w.up.server (.remove id true : ServeInput Ctx PKey)
        = w.up.server.removeClient id true := by
      simp only [serveStep, h.running, htodo]
    rw [hs] at hloop ⊢
    cases hget : w.up.server.server.clients.get id with
    | none =>
      -- nobody there: the table may be smaller afterwards, but stores the same clients
      have hpop : (w.up.server.server.clients.pop id).2.get = w.up.server.server.clients.get := by
        rw [Clients.get_pop, ← hget, Function.update_eq_self]
      rw [removeClient_none h.loop.serving hget] at hloop ⊢
      have hviews : ∀ id', (w.setServer { w.up.server with
          server := { w.up.server.server with clients := (w.up.server.server.clients.pop id).2 },
          errors := w.up.server.errors ++ [.CDTP_CLIENT_DOES_NOT_EXIST] }).view id' = w.view id' :=
        fun id' => view_congr (.inl rfl) (congrFun hpop id') rfl rfl rfl
      refine h.step id hloop h.running rfl rfl (fun _ => Iff.rfl) (fun id' _ => hviews id') ?_
      rw [hviews]
      exact h.views id
    | some client =>
      obtain ⟨p, hp, -⟩ := h.stored hget
      obtain ⟨errors, -, hr⟩ := removeClient_some h.loop.serving hget true
      rw [hr] at hloop ⊢
      exact h.leave hp hpending rfl hloop h.running rfl rfl (Clients.get_pop _ id) rfl ⟨rfl, rfl⟩
        fun hno => absurd hno (by simp [departsBy])

theorem clientGone_iff {p : HandleWired ServerSending} (hp : w.down id = some p) :
    w.clientGone id = true ↔ w.up.pending id = [] ∧ p.handle.client.connected = false := by
  simp only [Network.clientGone, hp, Bool.and_eq_true, decide_eq_true_eq, Bool.not_eq_true']

/-- The end of a stream, behind everything that the client has sent: the client is dropped. -/
theorem NetInv.serverEnd_eq (h : NetInv M O w) {sock : CDTPSocket} {rest : List (Nat × CDTPSocket)}
    (htodo : w.up.server.todo = (id, sock) :: rest) :
    serveStep M w.up.server (.turn (.data []) (.data []) O)
      = { ({ w.up.server with todo := rest }).buffered (.data []) with
          server := { w.up.server.server with clients := (w.up.server.server.clients.pop id).2 },
          closed := w.up.server.closed ++ [sock.sock],
          log := w.up.server.log ++ [.disconnect id w.up.server.server.onDisconnect] } := by
  obtain ⟨-, -, hget⟩ := h.loop.turn htodo
  have hs : serveStep M w.up.server (.turn (.data []) (.data []) O)
      = (({ w.up.server with todo := rest }).buffered (.data [])).dropClient id := by
    rw [serveStep_turn h.running htodo]
    rfl
  have hbuffered : (({ w.up.server with todo := rest }).buffered (.data [])).server.clients.get id
      = some sock := hget
  rw [hs, dropClient_some hbuffered]
  rfl

theorem NetInv.serverEnd (h : NetInv M O w) {sock : CDTPSocket} {rest : List (Nat × CDTPSocket)}
    (htodo : w.up.server.todo = (id, sock) :: rest) (hgone : w.clientGone id = true) :
    NetInv M O (w.setServer (serveStep M w.up.server (.turn (.data []) (.data []) O))) := by
  obtain ⟨-, -, hget⟩ := h.loop.turn htodo
  obtain ⟨p, hp, -⟩ := h.stored hget
  obtain ⟨hpending, hclosed⟩ := (clientGone_iff hp).mp hgone
  have hloop := @serveStep_loopInv Ctx PKey M w.up.server h.loop (.turn (.data []) (.data []) O)
  rw [h.serverEnd_eq htodo] at hloop ⊢
  exact h.leave hp hpending rfl hloop h.running rfl rfl (Clients.get_pop _ id) rfl ⟨rfl, rfl⟩
    fun _ => hclosed

/-- A step that receives a body from the client. -/
theorem view_received {body pending : Bytes} {payload : CryptoData}
    (hstored : w'.up.server.server.clients.get id = w.up.server.server.clients.get id)
    (hlog : w'.up.server.log = w.up.server.log ++ [.recv id body (some payload)])
    (hsent : w'.up.sent id = w.up.sent id) (hpending : w'.up.pending id = pending)
    (hdown : w'.down id = w.down id) :
    w'.view id
      = { w.view id with handed := (w.view id).handed ++ [body], pending := pending,
                         dispatched := (w.view id).dispatched ++ [payload] } := by
  have hdeparts : departsBy id (.recv id body (some payload)) = false := rfl
  simp only [Network.view, hstored, hlog, hsent, hpending, hdown, handed_append_recv,
    dispatched_append, departed_append, Function.update_self, dispatchedBy, hdeparts, Bool.or_false,
    if_pos]
  rfl

/-- A body is received from the client `id`, and decrypts to what was sent. -/
theorem linked_received {p : HandleWired ServerSending} (h : (w.view id).Linked M O p)
    {c : Channel ClientSending}
    (hdispatched : (w.view id).dispatched = c.received.map fun a => plainData a.payload)
    {a : ClientSending} {waiting : List ClientSending} (hw : c.waiting = a :: waiting) {pending : Bytes}
    (hc : Carries M (ClientSending.body M O) c.receive (w.up.sent id)
      (handed w.up.server.log id ++ [a.body M O]) pending)
    (hget : w.up.server.server.clients.get id ≠ none)
    (hstored : w'.up.server.server.clients.get id = w.up.server.server.clients.get id)
    (hlog : w'.up.server.log
      = w.up.server.log ++ [.recv id (a.body M O) (some (plainData a.payload))])
    (hsent : w'.up.sent id = w.up.sent id) (hpending : w'.up.pending id = pending)
    (hdown : w'.down id = w.down id) : (w'.view id).Linked M O p := by
  rw [view_received hstored hlog hsent hpending hdown]
  refine { h with up := ⟨c.receive, hc, ?_⟩, drained := fun hno => absurd hno hget }
  rw [Channel.receive_cons hw, List.map_append, hdispatched]
  rfl

/-- **A read of the server** finds nothing and goes on to the next client, or takes the oldest message of
    its client out of the stream and dispatches it. -/
theorem NetInv.serverRead_cases (h : NetInv M O w) (hO : O.AESLaws) (hM : M.checked = false)
    {sock : CDTPSocket} {rest : List (Nat × CDTPSocket)} (htodo : w.up.server.todo = (id, sock) :: rest)
    {g b : Grant} (hfull : TurnInFull w.up.server.sizeBuffer (w.up.pending id) g b) :
    (Grant.finds g (w.up.pending id) = false ∧
      w.wire M O (.turn g b O)
        = w.setServer (({ w.up.server with todo := rest }).buffered (.error .EAGAIN))) ∨
    (Grant.finds g (w.up.pending id) = true ∧
      ∃ (c : Channel ClientSending) (a : ClientSending) (waiting : List ClientSending)
        (header : ReadResult) (pending : Bytes),
      (w.view id).dispatched = c.received.map (fun a => plainData a.payload) ∧
      c.waiting = a :: waiting ∧
      Carries M (ClientSending.body M O) c.receive (w.up.sent id)
        (handed w.up.server.log id ++ [a.body M O]) pending ∧
      w.wire M O (.turn g b O)
        = { w with up := { w.up with
            server := { ({ w.up.server with todo := rest }).buffered header with
              log := w.up.server.log ++ [.recv id (a.body M O) (some (plainData a.payload))] },
            pending := Function.update w.up.pending id pending } }) := by
  cases hfinds : Grant.finds g (w.up.pending id) with
  | false =>
    refine .inl ⟨rfl, ?_⟩
    rw [Network.wire, wiredStep_again h.running htodo hfinds]
    rfl
  | true =>
    refine .inr ⟨rfl, ?_⟩
    obtain ⟨-, -, hget⟩ := h.loop.turn htodo
    obtain ⟨p, -, hlinked⟩ := h.stored hget
    obtain ⟨c, hc, hdispatched⟩ := hlinked.up
    have hc : Carries M (ClientSending.body M O) c (w.up.sent id) (handed w.up.server.log id)
        (w.up.pending id) := hc
    have hspec : ∀ a ∈ w.up.sent id, 0 < (a.body M O).length ∧ (a.body M O).length < 2 ^ 31 ∧
        ∀ M' : Machine, cryptoAesDecrypt M' O a.client.sock.key (a.body M O) (a.body M O).length
          = .ok (some (plainData a.payload)) := fun a ha => (hlinked.up_allowed a ha).1.spec hO hM
    have hsize : ∀ a ∈ w.up.sent id, 0 < (a.body M O).length ∧ (a.body M O).length < 2 ^ 40 :=
      fun a ha => ⟨(hspec a ha).1, Nat.lt_trans (hspec a ha).2.1 (by decide)⟩
    have hwhole : FullTurn w.up.server.sizeBuffer (w.up.pending id) g b := by
      rw [hc.pending_eq] at hfull ⊢
      apply TurnInFull.fullTurn h.loop.buffer _ hfull
      intro body hbody
      obtain ⟨a, ha, rfl⟩ := List.mem_map.mp hbody
      exact (hspec a (hc.sent_eq ▸ Channel.mem_sent_of_mem_waiting ha)).2.1
    rcases @wiredStep_turn Ctx PKey _ M M O (ClientSending.message M O) (ClientSending.body M O) w.up id
      sock rest h.loop h.running htodo c hc hsize g b hwhole with
      ⟨hheader, -⟩ | ⟨a, waiting, header, pending, hw, hcarries, hs⟩
    · exact absurd (hfinds.symm.trans (finds_of_header hheader)) (by decide)
    · have ha : a ∈ w.up.sent id := by
        rw [← hc.sent_eq]
        apply Channel.mem_sent_of_mem_waiting
        rw [hw]
        exact List.mem_cons_self
      -- it was sent under the client's key, which is the one that the server stores
      have hkey : sock.key = a.client.sock.key :=
        (hlinked.stored_key sock hget).trans (hlinked.up_allowed a ha).2.symm
      have hcall : serverCallOnRecv M O w.up.server.server id (a.body M O) (a.body M O).length
          = .ok (some (plainData a.payload)) := by
        rw [serverCallOnRecv, h.onRecv, if_pos rfl, hget, deref_some, ok_bind, hkey, (hspec a ha).2.2 M]
        rfl
      have hreact := @react_frame_ok Ctx PKey M O (({ w.up.server with todo := rest }).buffered header) id
        _ _ _ hcall
      refine ⟨c, a, waiting, header, pending, hdispatched, hw, hcarries, ?_⟩
      rw [Network.wire, hs, hreact]
      rfl

theorem NetInv.serverRead (h : NetInv M O w) (hO : O.AESLaws) (hM : M.checked = false)
    {sock : CDTPSocket} {rest : List (Nat × CDTPSocket)} (htodo : w.up.server.todo = (id, sock) :: rest)
    {g b : Grant} (hfull : TurnInFull w.up.server.sizeBuffer (w.up.pending id) g b) :
    NetInv M O (w.wire M O (.turn g b O)) := by
  obtain ⟨hrest, -, hget⟩ := h.loop.turn htodo
  obtain ⟨p, hp, hlinked⟩ := h.stored hget
  rcases h.serverRead_cases hO hM htodo hfull with
    ⟨-, hs⟩ | ⟨-, c, a, waiting, header, pending, hdispatched, hw, hcarries, hs⟩
  · rw [hs]
    exact h.step id (loopInv_buffered hrest _) h.running rfl rfl (fun _ => Iff.rfl) (fun _ _ => rfl)
      (h.views id)
  · have hb := loopInv_buffered hrest header
    rw [hs]
    refine h.step id ⟨hb.serving, hb.buffer, hb.todo_get, hb.todo_nodup⟩ h.running rfl rfl
      (fun _ => Iff.rfl) ?_ ?_
    · intro id' hne
      exact view_congr (.inr ⟨.recv id _ _, hne.symm, rfl⟩) rfl rfl (Function.update_of_ne hne _ _) rfl
    · have hstored : w.up.server.server.clients.get id ≠ none := by
        rw [hget]
        simp
      refine View.Linked.ok (p := p) ?_ hp
      exact linked_received hlinked hdispatched hw hcarries hstored rfl rfl rfl
        (Function.update_self _ _ _) rfl

theorem NetInv.serverTurn (h : NetInv M O w) (hO : O.AESLaws) (hM : M.checked = false) {g b : Grant}
    (hfull : ∀ entry ∈ w.up.server.todo.head?,
      TurnInFull w.up.server.sizeBuffer (w.up.pending entry.1) g b) :
    NetInv M O (w.serverTurn M O g b) := by
  unfold Network.serverTurn
  split
  · exact h
  · rename_i id sock rest htodo
    split
    · rename_i hgone
      exact h.serverEnd htodo hgone.2
    · exact h.serverRead hO hM htodo (hfull (id, sock) (by rw [htodo]; rfl))

/-- A handle loop that finds its client disconnected ends, if it has not ended already. -/
theorem handleStep_closed {s : HandleState} (h : s.client.connected = false)
    (header body : ReadResult) (threadOk : Bool) :
    ∃ status, (s.status ≠ .crashed → status ≠ .crashed) ∧
      handleStep M s (.turn header body O true threadOk) = { s with status := status } := by
  cases hs : s.status with
  | running =>
    refine ⟨.returned, fun _ => Status.noConfusion, ?_⟩
    simp only [handleStep, hs, h]
    rfl
  | returned => exact ⟨.returned, fun h => h, by rw [handleStep_stopped (by simp [hs]), ← hs]⟩
  | crashed => exact ⟨.crashed, fun h => h, by rw [handleStep_stopped (by simp [hs]), ← hs]⟩

/-- The loop ends at the end of its stream, and says so. -/
theorem handleStep_end {s : HandleState} (hrun : s.status = .running)
    (hconnected : s.client.connected = true) (threadOk : Bool) :
    ∃ errors, handleStep M s (.turn (.data []) (.data []) O true threadOk)
      = { s.buffered (.data []) with
          client := { s.client with connected := false, done := true }, status := .returned,
          log := s.log ++ [.disconnected s.client.onDisconnected], errors := errors } := by
  have hturn : handleStep M s (.turn (.data []) (.data []) O true threadOk)
      = (s.buffered (.data [])).closed true threadOk := by
    simp only [handleStep, hrun, hconnected]
    rfl
  rw [hturn, HandleState.closed, HandleState.disconnect, if_neg]
  · cases threadOk with
    | false => exact ⟨s.errors ++ [.CDTP_HANDLE_THREAD_NOT_CLOSING], rfl⟩
    | true => exact ⟨s.errors, rfl⟩
  · rw [HandleState.buffered, hconnected]
    exact Bool.noConfusion

/-- A client that is connected has not reported the end of its connection. -/
theorem View.Linked.not_departed {v : View} {p : HandleWired ServerSending} (h : v.Linked M O p)
    (hconnected : p.handle.client.connected = true) : Cdtp.clientDeparted p.handle.log = false := by
  cases hd : Cdtp.clientDeparted p.handle.log with
  | false => rfl
  | true => exact absurd (hconnected.symm.trans (h.clientDeparted hd).1) (by simp)

/-- The client reads the end of its stream: the server does not store it any more. -/
theorem linked_end {v : View} {p : HandleWired ServerSending} (h : v.Linked M O p)
    (hrun : p.handle.status = .running) (hconnected : p.handle.client.connected = true)
    (hpending : p.pending = []) (hstored : v.stored = none) (threadOk : Bool)
    {p' : HandleWired ServerSending}
    (hp' : p' = { p with handle := handleStep M p.handle (.turn (.data []) (.data []) O true threadOk) }) :
    { v with down := some p' }.Linked M O p' := by
  obtain ⟨errors, hs⟩ := @handleStep_end Ctx PKey M O p.handle hrun hconnected threadOk
  rw [hs] at hp'
  subst hp'
  obtain ⟨c, hc⟩ := h.down
  refine { h with
    down := ⟨c, ⟨?_, ?_⟩⟩
    buffer := ?_
    running := fun hno => absurd hno (by simp)
    not_crashed := Status.noConfusion
    clientDrained := fun _ => hpending
    departed := fun hd => ⟨hstored, rfl⟩
    clientDeparted := fun _ => ⟨rfl, hstored⟩
    lastReport := ?_ }
  -- the last entry is no receive
  · show Carries M _ c p.sent (clientHanded (p.handle.log ++ [.disconnected _])) p.pending
    rw [clientHanded, filterMap_snoc]
    exact (List.append_nil _).symm ▸ hc.carries
  · show clientDispatched (p.handle.log ++ [.disconnected _]) = _
    rw [clientDispatched, filterMap_snoc]
    exact (List.append_nil _).trans hc.dispatched_eq
  · show (splice p.handle.sizeBuffer 0 _).length = _
    rw [splice_length]
    exact h.buffer
  · show Cdtp.clientDeparted (p.handle.log ++ [ClientEntry.disconnected _]).dropLast = false
    rw [List.dropLast_concat]
    exact h.not_departed hconnected

/-- **A read of the client**, likewise. -/
theorem View.Linked.clientRead_cases {v : View} {p : HandleWired ServerSending} (h : v.Linked M O p)
    (hO : O.AESLaws) (hM : M.checked = false)
    (hrun : p.handle.status = .running) (hconnected : p.handle.client.connected = true) {g b : Grant}
    (hfull : TurnInFull p.handle.sizeBuffer p.pending g b) (threadOk : Bool) :
    (Grant.finds g p.pending = false ∧
      handleWiredStep M (ServerSending.message M O) p (.turn g b O true threadOk)
        = { p with handle := p.handle.buffered (.error .EAGAIN) }) ∨
    (Grant.finds g p.pending = true ∧
      ∃ (c : Channel ServerSending) (a : ServerSending) (waiting : List ServerSending)
        (header : ReadResult) (pending : Bytes),
      HandleDelivers M O c p ∧ c.waiting = a :: waiting ∧
      Carries M (ServerSending.body M O) c.receive p.sent
        (clientHanded p.handle.log ++ [a.body M O]) pending ∧
      handleWiredStep M (ServerSending.message M O) p (.turn g b O true threadOk)
        = { p with
            handle := { p.handle.buffered header with
              log := p.handle.log ++ [.recv (a.body M O) (some (plainData a.payload))] },
            pending := pending }) := by
  cases hfinds : Grant.finds g p.pending with
  | false => exact .inl ⟨rfl, handleWiredStep_again hrun hconnected true threadOk hfinds⟩
  | true =>
    refine .inr ⟨rfl, ?_⟩
    obtain ⟨c, hc⟩ := h.down
    have hspec := fun a ha => (h.down_allowed a ha).spec (O := O) hO hM
    have hsize : ∀ a ∈ p.sent, 0 < (a.body M O).length ∧ (a.body M O).length < 2 ^ 40 :=
      fun a ha => ⟨(hspec a ha).1, Nat.lt_trans (hspec a ha).2.1 (by decide)⟩
    have hwhole : FullTurn p.handle.sizeBuffer p.pending g b := by
      rw [hc.carries.pending_eq] at hfull ⊢
      apply TurnInFull.fullTurn h.buffer _ hfull
      intro body hbody
      obtain ⟨a, ha, rfl⟩ := List.mem_map.mp hbody
      exact (hspec a (hc.carries.sent_eq ▸ Channel.mem_sent_of_mem_waiting ha)).2.1
    rcases @handleWiredStep_turn Ctx PKey _ M M O p (ServerSending.message M O) (ServerSending.body M O)
      h.buffer hrun hconnected c hc.carries hsize g b hwhole true threadOk with
      ⟨hheader, -⟩ | ⟨a, waiting, header, pending, hw, hcarries, hs⟩
    · exact absurd (hfinds.symm.trans (finds_of_header hheader)) (by decide)
    · have ha : a ∈ p.sent := by
        rw [← hc.carries.sent_eq]
        apply Channel.mem_sent_of_mem_waiting
        rw [hw]
        exact List.mem_cons_self
      have hcall : clientCallOnRecv M O p.handle.client (a.body M O) (a.body M O).length
          = .ok (some (plainData a.payload)) := by
        rw [clientCallOnRecv, h.onRecv, if_pos rfl, (hspec a ha).2.2 M]
        rfl
      have hreact := @handleReact_frame_ok Ctx PKey M O (p.handle.buffered header) true threadOk _ _ _
        hcall
      refine ⟨c, a, waiting, header, pending, hc, hw, hcarries, ?_⟩
      rw [hs, hreact]
      rfl

theorem linked_clientRead {v : View} {p : HandleWired ServerSending} (h : v.Linked M O p)
    (hO : O.AESLaws) (hM : M.checked = false)
    (hrun : p.handle.status = .running) (hconnected : p.handle.client.connected = true) {g b : Grant}
    (hfull : TurnInFull p.handle.sizeBuffer p.pending g b) {threadOk : Bool}
    {p' : HandleWired ServerSending}
    (hp' : p' = handleWiredStep M (ServerSending.message M O) p (.turn g b O true threadOk)) :
    { v with down := some p' }.Linked M O p' := by
  have hbuffered : ∀ header, (p.handle.buffered header).sizeBuffer.length = CDTP_LENSIZE := by
    intro header
    rw [HandleState.buffered, splice_length]
    exact h.buffer
  rcases h.clientRead_cases hO hM hrun hconnected hfull threadOk with
    ⟨-, hs⟩ | ⟨-, c, a, waiting, header, pending, hc, hw, hcarries, hs⟩
  · rw [hs] at hp'
    subst hp'
    obtain ⟨c, hc⟩ := h.down
    exact { h with down := ⟨c, ⟨hc.carries, hc.dispatched_eq⟩⟩, buffer := hbuffered _ }
  · rw [hs] at hp'
    subst hp'
    refine { h with
      down := ⟨c.receive, ⟨?_, ?_⟩⟩
      buffer := hbuffered header
      clientDrained := fun hno => absurd (hconnected.symm.trans hno) (by simp)
      clientDeparted := ?_
      lastReport := ?_ }
    · show Carries M _ c.receive p.sent (clientHanded (p.handle.log ++ [.recv (a.body M O) _])) pending
      rw [clientHanded_append_recv]
      exact hcarries
    · show clientDispatched (p.handle.log ++ [.recv _ (some (plainData a.payload))]) = _
      rw [clientDispatched, filterMap_snoc, ← clientDispatched, hc.dispatched_eq,
        Channel.receive_cons hw, List.map_append]
      rfl
    · intro hd
      apply h.clientDeparted
      have hd : clientDeparted
          (p.handle.log ++ [.recv (a.body M O) (some (plainData a.payload))]) = true := hd
      rw [clientDeparted, List.any_append] at hd
      exact (Bool.or_false _).symm.trans hd
    · show Cdtp.clientDeparted (p.handle.log ++ [ClientEntry.recv _ _]).dropLast = false
      rw [List.dropLast_concat]
      exact h.not_departed hconnected

theorem NetInv.clientTurn (h : NetInv M O w) (hO : O.AESLaws) (hM : M.checked = false) {g b : Grant}
    {threadOk : Bool} (hfull : ∀ p ∈ w.down id, p.handle.client.connected = true →
      TurnInFull p.handle.sizeBuffer p.pending g b) :
    NetInv M O (w.clientTurn M O id g b threadOk) := by
  unfold Network.clientTurn
  cases hp : w.down id with
  | none => exact h
  | some p =>
    have hlinked := (h.views id).linked p hp
    simp only
    cases hconnected : p.handle.client.connected with
    | false =>
      -- the loop ends, whatever there would be to read
      have hclosed : ∀ header body, NetInv M O (w.setDown id { p with
          handle := handleStep M p.handle (.turn header body O true threadOk) }) := by
        intro header body
        obtain ⟨status, hstatus, hs⟩ :=
          @handleStep_closed Ctx PKey M O p.handle hconnected header body threadOk
        rw [hs]
        refine h.setDown hp { hlinked with
          running := fun hyes => absurd (hconnected.symm.trans hyes) (by simp)
          not_crashed := hstatus hlinked.not_crashed
          down := ?_ }
        obtain ⟨c, hc⟩ := hlinked.down
        exact ⟨c, ⟨hc.carries, hc.dispatched_eq⟩⟩
      split
      · exact hclosed _ _
      · have hno : ¬ (p.handle.status = .running ∧ p.handle.client.connected = true) := by
          rw [hconnected]
          exact fun h => absurd h.2 (by decide)
        rw [Network.wireDown, handleWiredStep, if_neg hno]
        exact hclosed _ _
    | true =>
      have hrun := hlinked.running hconnected
      split
      · rename_i hend
        have hgone : w.up.server.server.clients.get id = none := by simpa using hend.2.2
        exact h.setDown hp (linked_end hlinked hrun hconnected hend.2.1 hgone threadOk rfl)
      · exact h.setDown hp (linked_clientRead hlinked hO hM hrun hconnected (hfull p hp hconnected) rfl)

/-- A client that disconnects has read all that was sent to it. -/
theorem NetInv.disconnect (h : NetInv M O w) {threadOk : Bool}
    (hpending : ∀ p ∈ w.down id, p.pending = []) : NetInv M O (w.disconnect M O id threadOk) := by
  unfold Network.disconnect
  cases hp : w.down id with
  | none => exact h
  | some p =>
    have hlinked := (h.views id).linked p hp
    obtain ⟨c, hc⟩ := hlinked.down
    simp only [Network.wireDown, handleWiredStep, handleStep_disconnect]
    cases hconnected : p.handle.client.connected with
    | false =>
      rw [HandleState.disconnect, if_pos hconnected]
      exact h.setDown hp { hlinked with down := ⟨c, ⟨hc.carries, hc.dispatched_eq⟩⟩ }
    | true =>
      -- only the flags of the client and the errors change
      have hs : ∃ errors, p.handle.disconnect true threadOk
          = { p.handle with client := { p.handle.client with connected := false, done := true },
                            errors := errors } := by
        rw [HandleState.disconnect, if_neg (by simp [hconnected])]
        cases threadOk with
        | false => exact ⟨p.handle.errors ++ [.CDTP_HANDLE_THREAD_NOT_CLOSING], rfl⟩
        | true => exact ⟨p.handle.errors, rfl⟩
      obtain ⟨errors, hs⟩ := hs
      rw [hs]
      exact h.setDown hp { hlinked with
        down := ⟨c, ⟨hc.carries, hc.dispatched_eq⟩⟩
        running := fun hno => absurd hno (by simp)
        clientDrained := fun _ => hpending p hp
        departed := fun hd => ⟨(hlinked.departed hd).1, rfl⟩
        clientDeparted := fun hd => ⟨rfl, (hlinked.clientDeparted hd).2⟩ }

/-- Every orderly step keeps the invariant. -/
theorem networkStep_inv {Matching : PKey → PKey → Prop} (hO : O.AESLaws) (hS : O.SealLaws Matching)
    (hM : M.checked = false) {i : NetworkInput PKey} (h : NetInv M O w) (hi : Network.Orderly M O w i) :
    NetInv M O (networkStep M O w i) := by
  cases i with
  | idle e => exact h.idle hi
  | connect c io client sizeBuffer =>
    rw [networkStep]
    split
    · rename_i htodo
      exact h.connect hS hM htodo (hi htodo)
    · exact h
  | clientSend id rand payload => exact h.clientSend hO hM hi.1 hi.2
  | serverSend id rand payload => exact h.serverSend hO hM hi.1 hi.2
  | sendAll rand payload => exact h.sendAll hO hM hi.1 hi.2
  | serverTurn g b => exact h.serverTurn hO hM hi
  | clientTurn id g b threadOk => exact h.clientTurn hO hM hi
  | remove id => exact h.remove hi
  | disconnect id threadOk => exact h.disconnect hi

/-! ## Ids and events -/

/-- The server takes at most one step of its loop, and accepts only while it has an id left. -/
theorem networkStep_server {i : NetworkInput PKey} (hi : Network.Orderly M O w i) :
    (networkStep M O w i).up.server = w.up.server ∨
    ∃ j : ServeInput Ctx PKey, (networkStep M O w i).up.server = serveStep M w.up.server j ∧
      ((∀ c O', j ≠ .acceptConnection c O') ∨ w.up.server.server.nextClientId + 1 < SIZE_MOD) := by
  cases i with
  | idle e => exact .inr ⟨.acceptError e, rfl, .inl fun _ _ => by simp⟩
  | connect c io client sizeBuffer =>
    rw [networkStep]
    split
    · rename_i htodo
      refine .inr ⟨.acceptConnection c O, ?_, .inr (hi htodo).room⟩
      rw [connect_up]
      rfl
    · exact .inl rfl
  | clientSend id rand payload => exact .inl clientSend_server
  | serverSend id rand payload => exact .inl (congrArg Wired.server serverSend_up)
  | sendAll rand payload => exact .inl (congrArg Wired.server sendAll_up)
  | serverTurn g b =>
    rcases @serverTurn_server Ctx PKey M O w g b with hs | ⟨header, body, hs⟩
    · exact .inl hs
    · exact .inr ⟨.turn header body O, hs, .inl fun _ _ => by simp⟩
  | clientTurn id g b threadOk => exact .inl (congrArg Wired.server clientTurn_up)
  | remove id => exact .inr ⟨.remove id true, rfl, .inl fun _ _ => by simp⟩
  | disconnect id threadOk => exact .inl (congrArg Wired.server disconnect_up)

/-- The history of the serve loop is coherent, and the ids have not run out. -/
structure Numbered (s : ServeState) : Prop where
  inv : RunInv s
  room : s.accepted.length < SIZE_MOD

theorem Numbered.coherent {s : ServeState} (h : Numbered s) : Coherent s.history := h.inv.2 h.room

theorem Fresh.numbered {s : ServeState} (h : Fresh s) : Numbered s where
  inv := h.runInv
  room := by
    rw [h.accepted]
    decide

/-- The ids last for every orderly step. -/
theorem networkStep_numbered {i : NetworkInput PKey} (h : Numbered w.up.server)
    (hi : Network.Orderly M O w i) : Numbered (networkStep M O w i).up.server := by
  rcases networkStep_server hi with hs | ⟨j, hs, hj⟩
  · rw [hs]
    exact h
  · rw [hs]
    refine ⟨serveStep_runInv h.inv j, ?_⟩
    rcases hj with hj | hroom
    · rw [serveStep_accepted h.inv.1 hj]
      exact h.room
    · have hnext : w.up.server.server.nextClientId = w.up.server.accepted.length := h.coherent.next_eq
      have hlen : (serveStep M w.up.server j).accepted.length = w.up.server.accepted.length ∨
          (serveStep M w.up.server j).accepted.length = w.up.server.accepted.length + 1 :=
        (serveStep_effect h.inv.1 j).accepted_length
      omega

end Views

/-! ## Every orderly run -/

section Safe

variable {Ctx PKey : Type} {M : Machine} {O : OpenSSL Ctx PKey} {w : Network}

/-- What holds of the connection with the client `p`, to whom the server gave the id `id`. -/
structure ConnectionSafe (w : Network) (id : Nat) (p : HandleWired ServerSending) : Prop where
  /-- the key exchange left both ends with one key of full size -/
  full : p.handle.client.sock.key.Full
  same_key : ∀ sock, w.up.server.server.clients.get id = some sock →
    sock.key = p.handle.client.sock.key
  not_crashed : p.handle.status ≠ .crashed
  running : p.handle.client.connected = true → p.handle.status = .running
  /-- what one end dispatches is what the other one sent -/
  to_server : InOrder (dispatched w.up.server.log id) ((w.up.sent id).map ClientSending.payload)
    (w.up.pending id)
  to_client : InOrder (clientDispatched p.handle.log) (p.sent.map ServerSending.payload) p.pending
  /-- whoever reports the other end as closed has dispatched all that came from it -/
  on_disconnect : departed w.up.server.log id = true → p.handle.client.connected = false ∧
    dispatched w.up.server.log id = (w.up.sent id).map fun a => plainData a.payload
  on_disconnected : clientDeparted p.handle.log = true →
    w.up.server.server.clients.get id = none ∧
    clientDispatched p.handle.log = p.sent.map fun a => plainData a.payload
  /-- only the last event of a client can be `on_disconnected` -/
  lastReport : clientDeparted p.handle.log.dropLast = false

/-- The serve loop runs on, and every connection is safe; nothing was dispatched for any other id. -/
structure NetworkSafe (w : Network) : Prop where
  running : w.up.server.status = .running
  /-- the ids are given out in order, one for each accepted connection -/
  ids : w.up.server.accepted.map Prod.fst = List.range w.up.server.accepted.length
  clients : ∀ id, (w.down id).isSome = true ↔ id < w.up.server.accepted.length
  /-- of each id the server reports a connect, receives and at most one end, and stores it meanwhile -/
  lives : ∀ id, ∃ stage, Life id (trace w.up.server.log id) stage ∧
    ((w.up.server.server.clients.get id).isSome ↔ stage = .connected)
  connections : ∀ id p, w.down id = some p → ConnectionSafe w id p
  nobody : ∀ id, w.down id = none →
    w.up.server.server.clients.get id = none ∧ dispatched w.up.server.log id = []

/-- What the invariant of a connection says of its two ends. -/
theorem View.Linked.safe {id : Nat} {p : HandleWired ServerSending} (h : (w.view id).Linked M O p) :
    ConnectionSafe w id p := by
  obtain ⟨c, hc, hdispatched⟩ := h.up
  obtain ⟨c', hc'⟩ := h.down
  have hup := hc.inOrder hdispatched
  have hdown := hc'.carries.inOrder hc'.dispatched_eq
  refine ⟨h.full, h.stored_key, h.not_crashed, h.running, hup, hdown, ?_, ?_, h.lastReport⟩
  · intro hd
    obtain ⟨hstored, hclosed⟩ := h.departed hd
    have hall := hup.2.mp (h.drained hstored)
    rw [List.map_map] at hall
    exact ⟨hclosed, hall⟩
  · intro hd
    obtain ⟨hclosed, hstored⟩ := h.clientDeparted hd
    have hall := hdown.2.mp (h.clientDrained hclosed)
    rw [List.map_map] at hall
    exact ⟨hstored, hall⟩

theorem NetInv.safe (h : NetInv M O w) (hnumbered : Numbered w.up.server) : NetworkSafe w := by
  have hc := hnumbered.coherent
  refine ⟨h.running, hc.ids_eq, ?_, ?_, fun id p hp => ((h.views id).linked p hp).safe, ?_⟩
  · intro id
    have hnext : w.up.server.server.nextClientId = w.up.server.accepted.length := hc.next_eq
    have hids := h.ids id
    rw [hnext] at hids
    rw [Option.isSome_iff_ne_none, ne_eq, hids, Nat.not_le]
  · intro id
    obtain ⟨stage, hlife, hstored, -⟩ := hc.life id
    exact ⟨stage, hlife, hstored⟩
  · intro id hno
    have hunborn := (h.views id).unborn hno
    exact ⟨hunborn.stored, hunborn.dispatched⟩

/-- **The network is safe.**  In every orderly run, of a server and any number of clients that connect,
    send, broadcast, read, disconnect and are removed in any order: the serve loop is never stopped by a
    client, every client has an id of its own, whose events form one life, and every connection is safe. -/
theorem network_safe {Matching : PKey → PKey → Prop} (hO : O.AESLaws) (hS : O.SealLaws Matching)
    (hM : M.checked = false) {s₀ : ServeState} (hs : Fresh s₀) (honRecv : s₀.server.onRecv = true)
    (is : List (NetworkInput PKey))
    (horderly : Runs.Along (networkStep M O) (Network.Orderly M O) (network s₀) is) :
    NetworkSafe (Runs.run (networkStep M O) (network s₀) is) := by
  have hstep : ∀ (w : Network) (i : NetworkInput PKey), NetInv M O w ∧ Numbered w.up.server →
      Network.Orderly M O w i →
      NetInv M O (networkStep M O w i) ∧ Numbered (networkStep M O w i).up.server :=
    fun w i h hi => ⟨networkStep_inv hO hS hM h.1 hi, networkStep_numbered h.2 hi⟩
  have h := Runs.run_invariant_of_along hstep is (network s₀) ⟨hs.netInv honRecv, hs.numbered⟩ horderly
  exact h.1.safe h.2

end Safe

/-- A client connects, and one message goes each way.  A second one connects, and sends; the first one
    disconnects, and the server removes the second. -/
def demoNetwork : List (NetworkInput Unit) :=
  [.connect demoConnection demoClientExchange demoClient [0, 0, 0, 0, 0],
   .clientSend 0 (fun _ => 9) [1, 2, 3],
   .serverSend 0 (fun _ => 9) (List.replicate 15 1),
   .serverTurn (some 5) (some 32),
   .clientTurn 0 (some 5) (some 48) true,
   .connect { demoConnection with sock := 5 } demoClientExchange demoClient [0, 0, 0, 0, 0],
   .disconnect 0 true,
   .serverTurn (some 5) none,
   .clientSend 1 (fun _ => 9) [4],
   .serverTurn (some 5) (some 32),
   .remove 1,
   .clientTurn 1 (some 5) none true]

/-- Such a client can connect as long as there are ids. -/
theorem demo_connects {w : Network} (hroom : w.up.server.server.nextClientId + 1 < SIZE_MOD)
    (sock : Nat) : Connects plainMachine plainOpenSSL w { demoConnection with sock := sock }
      demoClientExchange demoClient [0, 0, 0, 0, 0] where
  flags := ⟨rfl, rfl⟩
  sends := ⟨rfl, rfl⟩
  messages := by
    have hserver : serverKeyMessage plainMachine plainOpenSSL demoServerExchange.rsaGen
        = .ok (demoKeys, demoServerMessage) := by decide +kernel
    have hclient : clientKeyMessage plainMachine plainOpenSSL demoClientExchange
        = .ok (some (demoKey, demoClientMessage)) := by decide +kernel
    exact ⟨demoKeys, demoServerMessage, demoKey, demoClientMessage, hserver, ⟨rfl, rfl, rfl, rfl⟩,
      hclient, ⟨rfl, rfl, rfl, rfl⟩⟩
  room := hroom
  onRecv := rfl
  buffer := rfl

theorem demoNetwork_orderly : Runs.Along (networkStep plainMachine plainOpenSSL)
    (Network.Orderly plainMachine plainOpenSSL) (network demoStart) demoNetwork := by
  refine ⟨fun _ => demo_connects (by decide) 4, ⟨by decide, ?_⟩, ⟨by decide, ?_⟩, ?_, ?_,
    fun _ => demo_connects (by decide +kernel) 5, ?_, ?_, ⟨by decide, ?_⟩, ?_, ?_, ?_, trivial⟩
  · decide +kernel
  · decide +kernel
  all_goals
    simp only [Network.Orderly]
    decide +kernel

theorem network_safe_demo :
    NetworkSafe (Runs.run (networkStep plainMachine plainOpenSSL) (network demoStart) demoNetwork) :=
  network_safe plainOpenSSL_aesLaws plainOpenSSL_sealLaws rfl (startServe_fresh true true true rfl) rfl
    demoNetwork demoNetwork_orderly

/-- In that run everything arrives, and each end notices that the other one has left. -/
example :
    let w := Runs.run (networkStep plainMachine plainOpenSSL) (network demoStart) demoNetwork
    (w.view 0).departed = true ∧ (w.view 1).dispatched = [⟨[4], 1⟩] ∧
      (w.down 1).any (fun p => clientDeparted p.handle.log) = true := by decide +kernel

end Cdtp
