/-
  The two branches of the receive loops, side by side.

  `CallOutcome` abstracts from the error codes of the platforms.  Both branches are fed the same outcomes,
  and are to touch the client map, start callbacks and leave the loop alike.  They do, but for one outcome:
  a connection that the peer has reset is a disconnect on Windows, and on POSIX an error that ends the
  loop, with all its other clients.

  The two loops run as one machine on a pair of states, whose invariant is that the states are equal.
-/
import Cdtp.FrameSafety
import Cdtp.ServerSpec
import Cdtp.Windows

namespace Cdtp

open CMem Runs

/-! ## Outcomes -/

/-- Bytes that one call can return: not none, and no more than an `int` can count. -/
structure Chunk where
  bytes : Bytes
  nonempty : bytes ≠ []
  int : bytes.length < 2 ^ 31

/-- The outcome of a socket call, on either platform. -/
inductive CallOutcome where
  | data (c : Chunk)
  | orderlyClose
  | reset
  | closedLocally
  | wouldBlock
  | otherError

/-- How `read` reports it. -/
def CallOutcome.read : CallOutcome → ReadResult
  | .data c => .data c.bytes
  | .orderlyClose => .data []
  | .reset => .error .ECONNRESET
  | .closedLocally => .error .EBADF
  | .wouldBlock => .error .EWOULDBLOCK
  | .otherError => .error .other

/-- How `recv` reports it. -/
def CallOutcome.recv : CallOutcome → RecvResult
  | .data c => { failed := false, bytes := c.bytes, error := .other }
  | .orderlyClose => { failed := false, bytes := [], error := .other }
  | .reset => { failed := true, bytes := [], error := .WSAECONNRESET }
  | .closedLocally => { failed := true, bytes := [], error := .WSAENOTSOCK }
  | .wouldBlock => { failed := true, bytes := [], error := .WSAEWOULDBLOCK }
  | .otherError => { failed := true, bytes := [], error := .other }

/-- The failures of `accept`, and how the platforms report them. -/
inductive AcceptFailure where
  | reset
  | closedLocally
  | wouldBlock
  | otherError
  deriving DecidableEq, Repr

/-- What POSIX calls it. -/
def AcceptFailure.errno : AcceptFailure → Errno
  | .reset => .ECONNRESET
  | .closedLocally => .EBADF
  | .wouldBlock => .EAGAIN
  | .otherError => .other

/-- What Windows calls it. -/
def AcceptFailure.wsaError : AcceptFailure → WSAError
  | .reset => .WSAECONNRESET
  | .closedLocally => .WSAENOTSOCK
  | .wouldBlock => .WSAEWOULDBLOCK
  | .otherError => .other

section Calls

variable (o : CallOutcome) (n : Nat)

/-- The two functions put the same bytes into the buffer … -/
theorem recv_got : o.recv.got n = o.read.got n := by cases o <;> rfl

/-- … and return the same number: `SOCKET_ERROR` is -1. -/
theorem recv_code : o.recv.code n = o.read.code n := by cases o <;> rfl

variable {o}

/-- A header read that brings data returns neither 0 nor -1. -/
theorem read_data_code (c : Chunk) (hn : 0 < n) :
    (CallOutcome.data c).read.code n ≠ 0 ∧ (CallOutcome.data c).read.code n ≠ -1 := by
  have hlen : 0 < c.bytes.length := List.length_pos_iff.mpr c.nonempty
  have hcode : (CallOutcome.data c).read.code n = toInt (c.bytes.take n).length :=
    ReadResult.code_ok rfl n
  have htake : (c.bytes.take n).length = min n c.bytes.length := List.length_take
  have hint := c.int
  rw [hcode, toInt_of_lt (by omega), htake]
  omega

/-- A body read that brings data does not return -1. -/
theorem read_data_code_body (c : Chunk) : (CallOutcome.data c).read.code n ≠ -1 := by
  have hcode : (CallOutcome.data c).read.code n = toInt (c.bytes.take n).length :=
    ReadResult.code_ok rfl n
  have htake : (c.bytes.take n).length = min n c.bytes.length := List.length_take
  have hint := c.int
  rw [hcode, toInt_of_lt (by omega)]
  omega

/-- Neither does the end of the stream. -/
theorem orderlyClose_code : CallOutcome.orderlyClose.read.code n ≠ -1 := by
  rw [ReadResult.code_ok rfl, show CallOutcome.orderlyClose.read.bytes = [] from rfl, List.take_nil]
  decide

end Calls

/-! ## The same inputs for both loops -/

section Inputs

variable {Ctx PKey : Type}

/-- An accepted connection. -/
structure Arrival (PKey : Type) where
  sock : Nat
  blockingOk : Bool
  rsaGen : Option PKey
  sendFailed : Bool
  header : CallOutcome
  body : CallOutcome
  nonBlockingOk : Bool

/-- The connection as the POSIX branch meets it. -/
def Arrival.posix (a : Arrival PKey) : Connection PKey where
  sock := a.sock
  blockingOk := a.blockingOk
  exchange := { rsaGen := a.rsaGen, sendFailed := a.sendFailed, header := a.header.read,
                body := a.body.read }
  nonBlockingOk := a.nonBlockingOk

/-- The connection as the Windows branch meets it. -/
def Arrival.windows (a : Arrival PKey) : WinConnection PKey where
  sock := a.sock
  blockingOk := a.blockingOk
  exchange := { rsaGen := a.rsaGen, sendFailed := a.sendFailed, header := a.header.recv,
                body := a.body.recv }
  nonBlockingOk := a.nonBlockingOk

/-- What happens to a serve loop, said of neither platform. -/
inductive ServeEvent (Ctx PKey : Type) where
  | acceptError (f : AcceptFailure)
  | acceptConnection (a : Arrival PKey) (O : OpenSSL Ctx PKey)
  | turn (header body : CallOutcome) (O : OpenSSL Ctx PKey)
  | remove (id : Nat) (closeOk : Bool)

/-- The event as the POSIX branch meets it. -/
def ServeEvent.posix : ServeEvent Ctx PKey → ServeInput Ctx PKey
  | .acceptError f => .acceptError f.errno
  | .acceptConnection a O => .acceptConnection a.posix O
  | .turn header body O => .turn header.read body.read O
  | .remove id closeOk => .remove id closeOk

/-- The event as the Windows branch meets it. -/
def ServeEvent.windows : ServeEvent Ctx PKey → WinServeInput Ctx PKey
  | .acceptError f => .acceptError f.wsaError
  | .acceptConnection a O => .acceptConnection a.windows O
  | .turn header body O => .turn header.recv body.recv O
  | .remove id closeOk => .remove id closeOk

/-- What happens to a handle loop. -/
inductive HandleEvent (Ctx PKey : Type) where
  | turn (header body : CallOutcome) (O : OpenSSL Ctx PKey) (closeOk threadOk : Bool)
  | disconnect (closeOk threadOk : Bool)

/-- The event as the POSIX branch meets it. -/
def HandleEvent.posix : HandleEvent Ctx PKey → HandleInput Ctx PKey
  | .turn header body O closeOk threadOk => .turn header.read body.read O closeOk threadOk
  | .disconnect closeOk threadOk => .disconnect closeOk threadOk

/-- The event as the Windows branch meets it. -/
def HandleEvent.windows : HandleEvent Ctx PKey → WinHandleInput Ctx PKey
  | .turn header body O closeOk threadOk => .turn header.recv body.recv O closeOk threadOk
  | .disconnect closeOk threadOk => .disconnect closeOk threadOk

/-- Both branches of the serve loop. -/
def bothServe (M : Machine) (p : ServeState × ServeState) (e : ServeEvent Ctx PKey) :
    ServeState × ServeState :=
  (serveStep M p.1 e.posix, winServeStep M p.2 e.windows)

/-- Both branches of the handle loop. -/
def bothHandle (M : Machine) (p : HandleState × HandleState) (e : HandleEvent Ctx PKey) :
    HandleState × HandleState :=
  (handleStep M p.1 e.posix, winHandleStep M p.2 e.windows)

end Inputs

/-- The two serve loops have done the same: insertions and removals, events, and whether they go on. -/
structure SameServe (p : ServeState × ServeState) : Prop where
  clients : p.1.server.clients = p.2.server.clients
  accepted : p.1.accepted = p.2.accepted
  setResults : p.1.setResults = p.2.setResults
  closed : p.1.closed = p.2.closed
  events : p.1.log = p.2.log
  status : p.1.status = p.2.status

/-- The two handle loops have. -/
structure SameHandle (p : HandleState × HandleState) : Prop where
  connected : p.1.client.connected = p.2.client.connected
  events : p.1.log = p.2.log
  status : p.1.status = p.2.status

/-- A turn meets a reset connection: at the header, or at the body of a header that has arrived. -/
def MeetsReset (header body : CallOutcome) : Prop :=
  header = .reset ∨ (∃ c, header = .data c) ∧ body = .reset

/-- The serve loop takes a turn that meets a reset connection. -/
def ServeEvent.Resets {Ctx PKey : Type} (s : ServeState) (e : ServeEvent Ctx PKey) : Prop :=
  s.status = .running ∧ s.todo ≠ [] ∧
    ∃ header body O, e = .turn header body O ∧ MeetsReset header body

/-- The handle loop does. -/
def HandleEvent.Resets {Ctx PKey : Type} (s : HandleState) (e : HandleEvent Ctx PKey) : Prop :=
  s.status = .running ∧ s.client.connected = true ∧
    ∃ header body O closeOk threadOk,
      e = .turn header body O closeOk threadOk ∧ MeetsReset header body

/-! ## The key exchange -/

section Exchange

variable {Ctx PKey : Type} (M : Machine) (O : OpenSSL Ctx PKey)

/-- In the key exchange a failure is a failure, whatever its code. -/
theorem recvBody_eq (msgSize : Nat) (body : CallOutcome) :
    recvBody M msgSize body.recv = readBody M msgSize body.read := by
  unfold recvBody readBody
  rw [recv_code, recv_got]
  have hor : (body.read.code msgSize = SOCKET_ERROR ∨ body.read.code msgSize = 0 ∨
        ofInt (body.read.code msgSize) ≠ msgSize) ↔
      (body.read.code msgSize = 0 ∨ body.read.code msgSize = -1 ∨
        ofInt (body.read.code msgSize) ≠ msgSize) := or_left_comm
  by_cases h : body.read.code msgSize = 0 ∨ body.read.code msgSize = -1 ∨
      ofInt (body.read.code msgSize) ≠ msgSize
  · rw [if_pos h, if_pos (hor.mpr h)]
  · rw [if_neg h, if_neg (mt hor.mp h)]

/-- The key exchange does not look at error codes, and is the same. -/
theorem recvFrame_eq (header body : CallOutcome) :
    recvFrame M header.recv body.recv = readFrame M header.read body.read := by
  unfold recvFrame readFrame
  rw [recv_code, recv_got, recvBody_eq]
  by_cases h : header.read.code CDTP_LENSIZE = 0 ∨ header.read.code CDTP_LENSIZE = -1
  · rw [if_pos h, if_pos (show _ = SOCKET_ERROR ∨ _ from h.symm)]
  · rw [if_neg h, if_neg (show ¬ (_ = SOCKET_ERROR ∨ _) from mt Or.symm h)]

/-- So the secret is the same on both platforms … -/
theorem winServerReceiveKey_eq (rsaKeys : RSAKeyPair) (header body : CallOutcome) :
    winServerReceiveKey M O rsaKeys header.recv body.recv
      = serverReceiveKey M O rsaKeys header.read body.read := by
  have hframe := recvFrame_eq M header body
  rcases hread : readFrame M header.read body.read with _ | ⟨buffer, msgSize⟩ <;>
    rw [hread] at hframe <;> simp only [winServerReceiveKey, serverReceiveKey, hframe, hread]

/-- … and so is the whole exchange: the two branches differ in the loops alone. -/
theorem winServerExchangeKeys_eq (a : Arrival PKey) :
    winServerExchangeKeys M O a.windows.exchange = serverExchangeKeys M O a.posix.exchange := by
  rw [winServerExchangeKeys, serverExchangeKeys]
  show (serverKeyMessage M O a.rsaGen >>= fun r => if a.sendFailed then pure none
      else winServerReceiveKey M O r.1 a.header.recv a.body.recv)
    = (serverKeyMessage M O a.rsaGen >>= fun r => if a.sendFailed then pure none
      else serverReceiveKey M O r.1 a.header.read a.body.read)
  simp only [winServerReceiveKey_eq]

end Exchange

/-! ## What one turn finds -/

/-- What the two branches find when they meet the same, a reset apart. -/
inductive Agrees : Received → WinReceived → Prop where
  | headerEnd : Agrees .headerEnd .headerEnd
  | headerClosed : Agrees (.headerError .EBADF) (.headerError .WSAENOTSOCK)
  | headerBlocked : Agrees (.headerError .EWOULDBLOCK) (.headerError .WSAEWOULDBLOCK)
  | headerOther : Agrees (.headerError .other) (.headerError .other)
  | bodyEnd : Agrees .bodyEnd .bodyEnd
  | bodyClosed : Agrees (.bodyError .EBADF) (.bodyError .WSAENOTSOCK)
  | bodyBlocked : Agrees (.bodyError .EWOULDBLOCK) (.bodyError .WSAEWOULDBLOCK)
  | bodyOther : Agrees (.bodyError .other) (.bodyError .other)
  | short : Agrees .short .short
  | frame (body : Bytes) (size : Nat) : Agrees (.frame body size) (.frame body size)

/-- What they find when they meet a reset. -/
inductive FindsReset : Received → WinReceived → Prop where
  | header : FindsReset (.headerError .ECONNRESET) (.headerError .WSAECONNRESET)
  | body : FindsReset (.bodyError .ECONNRESET) (.bodyError .WSAECONNRESET)

section Receive

variable {M : Machine} {sizeBuffer : Bytes} {n : Nat} {header body : CallOutcome}

/-- A failed read of the body shows its code, which is all that a loop can go by. -/
theorem receiveBody_failed {r : ReadResult} (h : r.failed = true) :
    receiveBody M n r = .bodyError r.errno := by
  rw [receiveBody, ReadResult.code, if_pos h, if_pos rfl]

/-- The same on Windows. -/
theorem winReceiveBody_failed {r : RecvResult} (h : r.failed = true) :
    winReceiveBody M n r = .bodyError r.error := by
  rw [winReceiveBody, RecvResult.code, if_pos h, if_pos rfl]

/-- A failed read of the header: the body is not asked for. -/
theorem receive_failed {r body : ReadResult} (h : r.failed = true) :
    receive M sizeBuffer r body = .headerError r.errno := by
  rw [receive, ReadResult.code, if_pos h, if_neg (by decide), if_pos rfl]

/-- The same on Windows. -/
theorem winReceive_failed {r body : RecvResult} (h : r.failed = true) :
    winReceive M sizeBuffer r body = .headerError r.error := by
  rw [winReceive, RecvResult.code, if_pos h, if_pos rfl]

/-- The end of the stream is tested first on one platform, and second on the other. -/
theorem receive_orderlyClose (body : CallOutcome) :
    receive M sizeBuffer CallOutcome.orderlyClose.read body.read = .headerEnd ∧
      winReceive M sizeBuffer CallOutcome.orderlyClose.recv body.recv = .headerEnd := by
  have hcode : CallOutcome.orderlyClose.read.code CDTP_LENSIZE = 0 := by decide
  constructor
  · rw [receive, if_pos hcode]
  · rw [winReceive, recv_code, hcode, if_neg (by decide), if_pos rfl]

/-- A header that brings bytes leads to the body, of the size that it announces, on both. -/
theorem receive_data (c : Chunk) (body : CallOutcome) :
    receive M sizeBuffer (CallOutcome.data c).read body.read
        = receiveBody M (announced sizeBuffer (CallOutcome.data c).read) body.read ∧
      winReceive M sizeBuffer (CallOutcome.data c).recv body.recv
        = winReceiveBody M (announced sizeBuffer (CallOutcome.data c).read) body.recv := by
  obtain ⟨hzero, herror⟩ := @read_data_code CDTP_LENSIZE c (by decide)
  constructor
  · rw [receive, if_neg hzero, if_neg herror, announced]
  · rw [winReceive, recv_code, recv_got, if_neg (show ¬ _ = SOCKET_ERROR from herror),
      if_neg hzero, announced]

/-- A body that can be read is found alike. -/
theorem receiveBody_agrees_ok (h : body.read.code n ≠ -1) :
    Agrees (receiveBody M n body.read) (winReceiveBody M n body.recv) := by
  rw [receiveBody, winReceiveBody, recv_code, recv_got, if_neg h,
    if_neg (show ¬ _ = SOCKET_ERROR from h)]
  by_cases hzero : body.read.code n = 0
  · rw [if_pos hzero, if_pos hzero]
    exact .bodyEnd
  · rw [if_neg hzero, if_neg hzero]
    by_cases hshort : ofInt (body.read.code n) ≠ n
    · rw [if_pos hshort, if_pos hshort]
      exact .short
    · rw [if_neg hshort, if_neg hshort]
      exact .frame _ n

/-- So is one that cannot, unless the peer has reset the connection, which only Windows has a branch for. -/
theorem receiveBody_agrees (h : body ≠ .reset) :
    Agrees (receiveBody M n body.read) (winReceiveBody M n body.recv) := by
  cases body with
  | data c => exact receiveBody_agrees_ok (read_data_code_body n c)
  | orderlyClose => exact receiveBody_agrees_ok (orderlyClose_code n)
  | reset => exact absurd rfl h
  | closedLocally => rw [receiveBody_failed rfl, winReceiveBody_failed rfl]; exact .bodyClosed
  | wouldBlock => rw [receiveBody_failed rfl, winReceiveBody_failed rfl]; exact .bodyBlocked
  | otherError => rw [receiveBody_failed rfl, winReceiveBody_failed rfl]; exact .bodyOther

/-- **Without a reset the branches find the same.** -/
theorem receive_agrees (h : ¬ MeetsReset header body) :
    Agrees (receive M sizeBuffer header.read body.read)
      (winReceive M sizeBuffer header.recv body.recv) := by
  cases header with
  | data c =>
    obtain ⟨hposix, hwindows⟩ := @receive_data M sizeBuffer c body
    rw [hposix, hwindows]
    exact receiveBody_agrees fun hbody => h (Or.inr ⟨⟨c, rfl⟩, hbody⟩)
  | orderlyClose =>
    obtain ⟨hposix, hwindows⟩ := @receive_orderlyClose M sizeBuffer body
    rw [hposix, hwindows]
    exact .headerEnd
  | reset => exact absurd (Or.inl rfl) h
  | closedLocally => rw [receive_failed rfl, winReceive_failed rfl]; exact .headerClosed
  | wouldBlock => rw [receive_failed rfl, winReceive_failed rfl]; exact .headerBlocked
  | otherError => rw [receive_failed rfl, winReceive_failed rfl]; exact .headerOther

/-- A reset, in the first call or in the second, is told apart by Windows alone. -/
theorem receive_reset (h : MeetsReset header body) :
    FindsReset (receive M sizeBuffer header.read body.read)
      (winReceive M sizeBuffer header.recv body.recv) := by
  rcases h with rfl | ⟨⟨c, rfl⟩, rfl⟩
  · rw [receive_failed rfl, winReceive_failed rfl]
    exact .header
  · obtain ⟨hposix, hwindows⟩ := @receive_data M sizeBuffer c .reset
    rw [hposix, hwindows, receiveBody_failed rfl, winReceiveBody_failed rfl]
    exact .body

end Receive

/-! ## The server -/

section Server

variable {Ctx PKey : Type} {M : Machine} {O : OpenSSL Ctx PKey} {header body : CallOutcome}
  {s : ServeState} {id : Nat}

/-- Where they find the same, the serve loops do the same. -/
theorem react_agrees {r : Received} {w : WinReceived} (h : Agrees r w) :
    s.react M O id r = s.winReact M O id w := by
  cases h with
  | frame body size =>
    rcases hcall : serverCallOnRecv M O s.server id body size with _ | payload <;>
      simp only [ServeState.react, ServeState.winReact, hcall]
  | _ => rfl

/-- A turn without a reset is the same on both platforms. -/
theorem clientTurn_eq (h : ¬ MeetsReset header body) :
    s.clientTurn M O id header.read body.read = s.winClientTurn M O id header.recv body.recv := by
  rw [ServeState.clientTurn, ServeState.winClientTurn, ServeState.buffered, recv_got]
  exact react_agrees (receive_agrees h)

/-- **With a reset**, POSIX leaves the loop and Windows does not. -/
theorem clientTurn_reset (h : MeetsReset header body) :
    (s.clientTurn M O id header.read body.read).status = .returned ∧
      (s.winClientTurn M O id header.recv body.recv).status = s.status := by
  have hfinds := @receive_reset M s.sizeBuffer header body h
  rw [ServeState.clientTurn, ServeState.winClientTurn]
  revert hfinds
  generalize receive M s.sizeBuffer header.read body.read = r
  generalize winReceive M s.sizeBuffer header.recv body.recv = w
  rintro (_ | _)
  · exact ⟨rfl, (dropClient_status _ id).1⟩
  · exact ⟨rfl, (dropClient_status _ id).1⟩

/-- `accept` on a closed socket is an error on POSIX always, and on Windows while the server serves. -/
theorem acceptError_eq (hserving : s.server.serving = true) (f : AcceptFailure) :
    s.acceptError f.errno = s.winAcceptError f.wsaError := by
  cases f with
  | wouldBlock => rfl
  | reset => rfl
  | otherError => rfl
  | closedLocally =>
    show s.fail .CDTP_SOCKET_ACCEPT_FAILED = if _ ∨ s.server.serving = true then _ else _
    rw [if_pos (Or.inr hserving)]

/-- So is the accept part. -/
theorem acceptConnection_eq (a : Arrival PKey) :
    s.acceptConnection M O a.posix = s.winAcceptConnection M O a.windows := by
  rw [ServeState.acceptConnection, ServeState.winAcceptConnection, winServerExchangeKeys_eq]
  rcases serverExchangeKeys M O a.posix.exchange with _ | _ | key <;> rfl

/-- **One part of the loop**, from the same state: the same state again, unless it meets a reset. -/
theorem serveStep_eq (e : ServeEvent Ctx PKey) (h : ¬ e.Resets s) :
    serveStep M s e.posix = winServeStep M s e.windows := by
  unfold serveStep winServeStep
  rcases hstatus : s.status with _ | _ | _
  · rcases htodo : s.todo with _ | ⟨⟨id, sock⟩, rest⟩
    · cases e with
      | acceptError f =>
        dsimp only [ServeEvent.posix, ServeEvent.windows]
        rcases hserving : s.server.serving with _ | _
        · rfl
        · exact acceptError_eq hserving f
      | acceptConnection a O =>
        dsimp only [ServeEvent.posix, ServeEvent.windows]
        rw [acceptConnection_eq]
      | turn header body O => rfl
      | remove id closeOk => rfl
    · cases e with
      | turn header body O =>
        refine clientTurn_eq fun hreset => h ⟨hstatus, ?_, header, body, O, rfl, hreset⟩
        rw [htodo]
        exact List.cons_ne_nil _ _
      | acceptError f => rfl
      | acceptConnection a O => rfl
      | remove id closeOk => rfl
  · cases e <;> rfl
  · cases e <;> rfl

/-- A part that meets a reset ends one loop and not the other. -/
theorem serveStep_reset {e : ServeEvent Ctx PKey} (h : e.Resets s) :
    (serveStep M s e.posix).status = .returned ∧ (winServeStep M s e.windows).status = .running := by
  obtain ⟨hstatus, htodo, header, body, O, rfl, hreset⟩ := h
  obtain ⟨⟨id, sock⟩, rest, htodo⟩ := List.exists_cons_of_ne_nil htodo
  unfold serveStep winServeStep
  rw [hstatus, htodo]
  exact @clientTurn_reset Ctx PKey M O header body { s with status := .running, todo := rest } id hreset

end Server

/-! ## The client -/

section Client

variable {Ctx PKey : Type} {M : Machine} {O : OpenSSL Ctx PKey} {header body : CallOutcome}
  {s : HandleState} {closeOk threadOk : Bool}

/-- Where they find the same, the handle loops do the same. -/
theorem handle_react_agrees {r : Received} {w : WinReceived} (h : Agrees r w) :
    s.react M O closeOk threadOk r = s.winReact M O closeOk threadOk w := by
  cases h with
  | frame body size =>
    rcases hcall : clientCallOnRecv M O s.client body size with _ | payload <;>
      simp only [HandleState.react, HandleState.winReact, hcall]
  | _ => rfl

/-- A turn of the handle loop without a reset. -/
theorem handleTurn_eq (h : ¬ MeetsReset header body) :
    s.turn M O header.read body.read closeOk threadOk
      = s.winTurn M O header.recv body.recv closeOk threadOk := by
  rw [HandleState.turn, HandleState.winTurn, HandleState.buffered, recv_got]
  exact handle_react_agrees (receive_agrees h)

/-- `cdtp_client_disconnect` does not dispatch. -/
theorem disconnect_log : (s.disconnect closeOk threadOk).log = s.log := by
  rw [HandleState.disconnect]
  by_cases h : s.client.connected = false
  · rw [if_pos h]
  · rw [if_neg h]
    cases closeOk <;> cases threadOk <;> rfl

/-- **With a reset**, only Windows reports the disconnect. -/
theorem handleTurn_reset (h : MeetsReset header body) :
    (s.turn M O header.read body.read closeOk threadOk).log = s.log ∧
      (s.winTurn M O header.recv body.recv closeOk threadOk).log.length = s.log.length + 1 := by
  have hclosed : ∀ t : HandleState, (t.closed closeOk threadOk).log.length = t.log.length + 1 := by
    intro t
    show ((t.disconnect closeOk threadOk).log ++ _).length = _
    rw [disconnect_log, List.length_append, List.length_singleton]
  have hfinds := @receive_reset M s.sizeBuffer header body h
  rw [HandleState.turn, HandleState.winTurn]
  revert hfinds
  generalize receive M s.sizeBuffer header.read body.read = r
  generalize winReceive M s.sizeBuffer header.recv body.recv = w
  rintro (_ | _)
  · exact ⟨rfl, hclosed _⟩
  · exact ⟨rfl, hclosed _⟩

/-- **One turn**, from the same state: the same state again, unless it meets a reset. -/
theorem handleStep_eq (e : HandleEvent Ctx PKey) (h : ¬ e.Resets s) :
    handleStep M s e.posix = winHandleStep M s e.windows := by
  unfold handleStep winHandleStep
  cases e with
  | disconnect closeOk threadOk => rcases s.status with _ | _ | _ <;> rfl
  | turn header body O closeOk threadOk =>
    rcases hstatus : s.status with _ | _ | _
    · dsimp only [HandleEvent.posix, HandleEvent.windows]
      rcases hconnected : s.client.connected with _ | _
      · rfl
      · refine handleTurn_eq fun hreset => h ⟨hstatus, hconnected, ?_⟩
        exact ⟨header, body, O, closeOk, threadOk, rfl, hreset⟩
    · rfl
    · rfl

/-- With one the logs part: Windows calls `on_disconnected`, POSIX does not. -/
theorem handleStep_reset {e : HandleEvent Ctx PKey} (h : e.Resets s) :
    (handleStep M s e.posix).log ≠ (winHandleStep M s e.windows).log := by
  obtain ⟨hstatus, hconnected, header, body, O, closeOk, threadOk, rfl, hreset⟩ := h
  unfold handleStep winHandleStep
  rw [hstatus]
  dsimp only [HandleEvent.posix, HandleEvent.windows]
  rw [hconnected]
  obtain ⟨hposix, hwindows⟩ := @handleTurn_reset Ctx PKey M O header body s closeOk threadOk hreset
  intro heq
  have hlen := congrArg List.length heq
  rw [if_neg (by decide), hposix, if_neg (by decide), hwindows] at hlen
  omega

end Client

/-! ## Every run -/

/-- **When the branches agree**: the serve loops do the same throughout, and so do the handle loops, in
    exactly the runs that meet no reset connection. -/
theorem platforms_agree_iff {Ctx PKey : Type} (M : Machine) (s : ServeState) (h : HandleState)
    (serves : List (ServeEvent Ctx PKey)) (handles : List (HandleEvent Ctx PKey)) :
    (Always (bothServe M) SameServe (s, s) serves ↔
      Along (bothServe M) (fun p e => ¬ e.Resets p.1) (s, s) serves) ∧
    (Always (bothHandle M) SameHandle (h, h) handles ↔
      Along (bothHandle M) (fun p e => ¬ e.Resets p.1) (h, h) handles) := by
  constructor
  · apply @always_iff_along_of_inv _ _ (bothServe M) (fun p => p.1 = p.2) SameServe
    · intro p heq
      exact ⟨by rw [heq], by rw [heq], by rw [heq], by rw [heq], by rw [heq], by rw [heq]⟩
    · intro p e heq hok
      show serveStep M p.1 e.posix = winServeStep M p.2 e.windows
      rw [← heq]
      exact serveStep_eq e hok
    · intro p e heq hreset hsame
      obtain ⟨hposix, hwindows⟩ := @serveStep_reset Ctx PKey M p.1 e (not_not.mp hreset)
      have hstatus : (serveStep M p.1 e.posix).status = (winServeStep M p.2 e.windows).status :=
        hsame.status
      rw [← heq, hposix, hwindows] at hstatus
      exact absurd hstatus (by decide)
    · rfl
  · apply @always_iff_along_of_inv _ _ (bothHandle M) (fun p => p.1 = p.2) SameHandle
    · intro p heq
      exact ⟨by rw [heq], by rw [heq], by rw [heq]⟩
    · intro p e heq hok
      show handleStep M p.1 e.posix = winHandleStep M p.2 e.windows
      rw [← heq]
      exact handleStep_eq e hok
    · intro p e heq hreset hsame
      have hlog : (handleStep M p.1 e.posix).log = (winHandleStep M p.2 e.windows).log := hsame.events
      rw [← heq] at hlog
      exact handleStep_reset (not_not.mp hreset) hlog
    · rfl

/-! ## A reset connection -/

/-- A server that is about to look at its only client. -/
def demoTurn : ServeState :=
  { demoStart with server := { demoStart.server with
                     clients := (Clients.empty.set 0 { sock := 4, key := demoKey }).2 },
                   todo := [(0, { sock := 4, key := demoKey })] }

/-- The client resets its connection: one server has stopped serving, the other has dropped the client.
    And when the server does, one client is told. -/
theorem platforms_differ :
    ¬ SameServe (bothServe plainMachine (demoTurn, demoTurn) (.turn .reset .wouldBlock plainOpenSSL)) ∧
    ¬ SameHandle (bothHandle plainMachine
        (startHandle demoClient [0, 0, 0, 0, 0], startHandle demoClient [0, 0, 0, 0, 0])
        (.turn .reset .wouldBlock plainOpenSSL true true)) := by
  constructor
  · intro h
    exact absurd h.status (by decide)
  · intro h
    exact absurd h.events (by decide)

end Cdtp
