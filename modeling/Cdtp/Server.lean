/-
  The server (`server.c`, the POSIX branches): its callbacks, its serve loop, and the two calls that other
  threads make on its clients.

  `_cdtp_server_serve` runs for ever, so it is a machine.  An iteration is one accept part, which ends by
  taking a snapshot of the client map, and one part per client of that snapshot; `todo` holds the clients
  still to come, and is empty at the head of the loop.  What a part meets (the outcome of `accept`, of the
  `fcntl` calls, of the key exchange, of the two reads, and of the OpenSSL calls) is the input of its
  step.  The loop ends by returning, on any of its error branches, or by crashing.

  The history of a run is logged: `log` has the calls of the three event functions and the removals, in
  order, and `accepted`, `setResults`, `rejected`, `closed` and `errors` what their names say.
-/
import Cdtp.ClientMapRefinement
import Cdtp.KeyExchange

namespace Cdtp

open CMem

/-! ## State -/

/-- A socket and its key.  (The address is not used by what is modelled.) -/
structure CDTPSocket where
  sock : Nat
  key : AESKey
  deriving DecidableEq, Repr

/-- The error codes that the modelled functions report. -/
inductive CDTPError where
  | CDTP_WINSOCK_INIT_FAILED
  | CDTP_SERVER_SOCK_INIT_FAILED
  | CDTP_SERVER_SETSOCKOPT_FAILED
  | CDTP_SERVER_NOT_SERVING
  | CDTP_SERVER_CANNOT_RESTART
  | CDTP_SERVER_ALREADY_SERVING
  | CDTP_SERVER_ADDRESS_FAILED
  | CDTP_SERVER_BIND_FAILED
  | CDTP_SERVER_LISTEN_FAILED
  | CDTP_SERVER_STOP_FAILED
  | CDTP_SERVER_NOT_DONE
  | CDTP_SERVE_THREAD_NOT_CLOSING
  | CDTP_CLIENT_DOES_NOT_EXIST
  | CDTP_CLIENT_REMOVE_FAILED
  | CDTP_SERVER_SEND_FAILED
  | CDTP_EVENT_THREAD_START_FAILED
  | CDTP_SERVE_THREAD_START_FAILED
  | CDTP_SOCKET_ACCEPT_FAILED
  | CDTP_SERVER_RECV_FAILED
  | CDTP_SERVER_KEY_EXCHANGE_FAILED
  | CDTP_CLIENT_NOT_CONNECTED
  | CDTP_CLIENT_SEND_FAILED
  | CDTP_CLIENT_RECV_FAILED
  | CDTP_CLIENT_DISCONNECT_FAILED
  | CDTP_CLIENT_CANNOT_RECONNECT
  | CDTP_CLIENT_ALREADY_CONNECTED
  | CDTP_CLIENT_ADDRESS_FAILED
  | CDTP_CLIENT_CONNECT_FAILED
  | CDTP_CLIENT_SOCK_INIT_FAILED
  | CDTP_CLIENT_KEY_EXCHANGE_FAILED
  | CDTP_CLIENT_NOT_DONE
  | CDTP_HANDLE_THREAD_START_FAILED
  | CDTP_HANDLE_THREAD_NOT_CLOSING
  | CDTP_OPENSSL_ERROR
  deriving DecidableEq, Repr

/-- The server object.  Of a callback only whether it is registered matters. -/
structure CDTPServer where
  serving : Bool
  done : Bool
  clients : Clients CDTPSocket
  nextClientId : Nat
  onRecv : Bool
  onConnect : Bool
  onDisconnect : Bool

/-- One entry of the history.  `started` says whether a callback thread was started; `payload` is what an
    `on_recv` callback was given. -/
inductive Entry where
  | connect (id : Nat) (started : Bool)
  | recv (id : Nat) (body : Bytes) (payload : Option CryptoData)
  | disconnect (id : Nat) (started : Bool)
  | removed (id : Nat)
  deriving DecidableEq, Repr

/-- The client an entry is about. -/
def Entry.id : Entry → Nat
  | .connect id _ => id
  | .recv id _ _ => id
  | .disconnect id _ => id
  | .removed id => id

inductive Status where
  | running
  | returned
  | crashed
  deriving DecidableEq, Repr

/-- The serve loop between two of its parts. -/
structure ServeState where
  server : CDTPServer
  status : Status
  /-- the clients of the snapshot that this iteration has still to look at -/
  todo : List (Nat × CDTPSocket)
  sizeBuffer : Bytes
  log : List Entry
  /-- every id that was given to an accepted connection, with its file descriptor -/
  accepted : List (Nat × Nat)
  /-- the results of `_cdtp_client_map_set`, which the loop ignores -/
  setResults : List Bool
  /-- the accepted file descriptors whose key exchange failed -/
  rejected : List Nat
  closed : List Nat
  errors : List CDTPError

/-- `_cdtp_set_error(e, …); return;` -/
def ServeState.fail (s : ServeState) (e : CDTPError) : ServeState :=
  { s with status := .returned, errors := s.errors ++ [e] }

/-! ## The event functions and the bookkeeping of clients -/

section Functions

variable {Ctx PKey : Type}

/-- `_cdtp_server_new_client_id`. -/
def serverNewClientId (server : CDTPServer) : Nat × CDTPServer :=
  (server.nextClientId, { server with nextClientId := (server.nextClientId + 1) % SIZE_MOD })

/-- `_cdtp_server_call_on_recv`: what the callback is started with, if one is registered. -/
def serverCallOnRecv (M : Machine) (O : OpenSSL Ctx PKey) (server : CDTPServer) (clientId : Nat)
    (data : Bytes) (dataSize : Nat) : Run (Option CryptoData) :=
  if server.onRecv then do
    let client ← deref (server.clients.get clientId)
    let dataDecrypted ← deref (← cryptoAesDecrypt M O client.key data dataSize)
    pure (some dataDecrypted)
  else pure none

/-- `_cdtp_server_call_on_connect`. -/
def ServeState.callOnConnect (s : ServeState) (clientId : Nat) : ServeState :=
  { s with log := s.log ++ [.connect clientId s.server.onConnect] }

/-- `_cdtp_server_call_on_disconnect`. -/
def ServeState.callOnDisconnect (s : ServeState) (clientId : Nat) : ServeState :=
  { s with log := s.log ++ [.disconnect clientId s.server.onDisconnect] }

/-- `_cdtp_server_disconnect_sock`. -/
def ServeState.disconnectSock (s : ServeState) (clientId : Nat) : ServeState :=
  match s.server.clients.pop clientId with
  | (some client, clients) =>
    { s with server := { s.server with clients := clients }, closed := s.closed ++ [client.sock] }
  | (none, clients) => { s with server := { s.server with clients := clients } }

/-- The three branches of the loop that drop a client. -/
def ServeState.dropClient (s : ServeState) (clientId : Nat) : ServeState :=
  if s.server.clients.contains clientId then
    (s.disconnectSock clientId).callOnDisconnect clientId
  else s

/-! ## The accept part -/

/-- An accepted connection: its descriptor and what its set-up meets. -/
structure Connection (PKey : Type) where
  sock : Nat
  blockingOk : Bool
  exchange : ServerExchange PKey
  nonBlockingOk : Bool

/-- The end of the accept part: take the snapshot. -/
def ServeState.snapshot (s : ServeState) : ServeState :=
  { s with todo := s.server.clients.iter }

/-- Add the new socket to the client map and report it. -/
def ServeState.addClient (s : ServeState) (clientId : Nat) (newClient : CDTPSocket) : ServeState :=
  let r := s.server.clients.set clientId newClient
  ({ s with server := { s.server with clients := r.2 },
            setResults := s.setResults ++ [r.1] }).callOnConnect clientId

/-- `accept` returned a socket. -/
def ServeState.acceptConnection (M : Machine) (O : OpenSSL Ctx PKey) (s : ServeState)
    (c : Connection PKey) : ServeState :=
  let r := serverNewClientId s.server
  -- the id is gone, whatever becomes of the connection
  let s := { s with server := r.2, accepted := s.accepted ++ [(r.1, c.sock)] }
  if c.blockingOk = false then s.fail .CDTP_SOCKET_ACCEPT_FAILED
  else
    match serverExchangeKeys M O c.exchange with
    | .error _ => { s with status := .crashed }
    -- the new socket is neither closed nor stored anywhere
    | .ok none => { s with rejected := s.rejected ++ [c.sock] }.fail .CDTP_SERVER_KEY_EXCHANGE_FAILED
    | .ok (some key) =>
      if c.nonBlockingOk = false then s.fail .CDTP_SOCKET_ACCEPT_FAILED
      else (s.addClient r.1 { sock := c.sock, key := key }).snapshot

/-- `accept` failed.  Its error is only passed over in silence when the server is no longer serving. -/
def ServeState.acceptError (s : ServeState) (e : Errno) : ServeState :=
  -- no new connection: on to the clients that are there
  if e.againOrWouldBlock then s.snapshot
  else if e ≠ .ENOTSOCK ∨ s.server.serving then s.fail .CDTP_SOCKET_ACCEPT_FAILED
  else { s with status := .returned }

/-! ## The part per client -/

/-- The header buffer after the first read of a turn. -/
def ServeState.buffered (s : ServeState) (header : ReadResult) : ServeState :=
  { s with sizeBuffer := splice s.sizeBuffer 0 (header.got CDTP_LENSIZE) }

/-- What the loop does about what the reads found for the client `clientId`. -/
def ServeState.react (M : Machine) (O : OpenSSL Ctx PKey) (s : ServeState) (clientId : Nat) :
    Received → ServeState
  | .headerEnd => s.dropClient clientId
  | .headerError e =>
    if e = .EBADF then s.dropClient clientId
    else if e.againOrWouldBlock then s
    else s.fail .CDTP_SERVER_RECV_FAILED
  -- for the body, "nothing there" is an error like any other
  | .bodyError e =>
    if e = .EBADF then s.dropClient clientId else s.fail .CDTP_SERVER_RECV_FAILED
  | .bodyEnd => s.dropClient clientId
  | .short => s.fail .CDTP_SERVER_RECV_FAILED
  | .frame buffer msgSize =>
    match serverCallOnRecv M O s.server clientId buffer msgSize with
    | .ok payload => { s with log := s.log ++ [.recv clientId buffer payload] }
    | .error _ => { s with log := s.log ++ [.recv clientId buffer none], status := .crashed }

/-- Header read, body read, and the reaction. -/
def ServeState.clientTurn (M : Machine) (O : OpenSSL Ctx PKey) (s : ServeState) (clientId : Nat)
    (header body : ReadResult) : ServeState :=
  (s.buffered header).react M O clientId (receive M s.sizeBuffer header body)

/-! ## Calls from other threads -/

/-- `cdtp_server_remove_client`, when the loop is between two iterations. -/
def ServeState.removeClient (s : ServeState) (clientId : Nat) (closeOk : Bool) : ServeState :=
  if s.server.serving = false then { s with errors := s.errors ++ [.CDTP_SERVER_NOT_SERVING] }
  else
    match s.server.clients.pop clientId with
    | (none, clients) =>
      { s with server := { s.server with clients := clients },
               errors := s.errors ++ [.CDTP_CLIENT_DOES_NOT_EXIST] }
    | (some client, clients) =>
      let s := { s with server := { s.server with clients := clients },
                        log := s.log ++ [.removed clientId], closed := s.closed ++ [client.sock] }
      if closeOk = false then { s with errors := s.errors ++ [.CDTP_CLIENT_REMOVE_FAILED] } else s

/-- `cdtp_server_send`: the socket and the message that `send` is called with. -/
def serverSend (M : Machine) (O : OpenSSL Ctx PKey) (server : CDTPServer)
    (rand : Option (Nat → UInt8)) (clientId : Nat) (data : Bytes) (dataSize : Nat) :
    Run (Except CDTPError (Nat × Bytes)) :=
  if server.serving = false then pure (.error .CDTP_SERVER_NOT_SERVING)
  else
    match server.clients.get clientId with
    | none => pure (.error .CDTP_CLIENT_DOES_NOT_EXIST)
    | some client => do
      let dataEncrypted ← deref (← cryptoAesEncrypt M O rand client.key data dataSize)
      pure (.ok (client.sock, constructMessage M dataEncrypted.data dataEncrypted.dataSize))

/-! ## The loop -/

/-- What a step of the loop, or a call from another thread between two iterations, meets. -/
inductive ServeInput (Ctx PKey : Type) where
  | acceptError (e : Errno)
  | acceptConnection (c : Connection PKey) (O : OpenSSL Ctx PKey)
  | turn (header body : ReadResult) (O : OpenSSL Ctx PKey)
  | remove (id : Nat) (closeOk : Bool)

/-- One part of the loop.  At the head of the loop `serving` is tested first (it is tested again behind
    `accept`, but nobody changes it within an iteration); an input that does not fit the place where the
    loop stands changes nothing. -/
def serveStep (M : Machine) (s : ServeState) (i : ServeInput Ctx PKey) : ServeState :=
  match s.status, s.todo, i with
  | .running, [], .acceptError e =>
    if s.server.serving = false then { s with status := .returned } else s.acceptError e
  | .running, [], .acceptConnection c O =>
    if s.server.serving = false then { s with status := .returned } else s.acceptConnection M O c
  | .running, (id, _) :: rest, .turn header body O =>
    ({ s with todo := rest }).clientTurn M O id header body
  | .running, [], .remove id closeOk => s.removeClient id closeOk
  | _, _, _ => s

/-- A serving server before its first iteration: no clients, no ids given out. -/
structure Fresh (s : ServeState) : Prop where
  serving : s.server.serving = true
  running : s.status = .running
  todo : s.todo = []
  clients : ∀ id, s.server.clients.get id = none
  nextClientId : s.server.nextClientId = 0
  log : s.log = []
  accepted : s.accepted = []
  setResults : s.setResults = []
  rejected : s.rejected = []
  closed : s.closed = []
  errors : s.errors = []
  sizeBuffer : s.sizeBuffer.length = CDTP_LENSIZE

/-- The loop as `cdtp_server` and `cdtp_server_start` leave it; the header buffer is uninitialised. -/
def startServe (onRecv onConnect onDisconnect : Bool) (sizeBuffer : Bytes) : ServeState where
  server := { serving := true, done := false, clients := .empty, nextClientId := 0, onRecv := onRecv,
              onConnect := onConnect, onDisconnect := onDisconnect }
  status := .running
  todo := []
  sizeBuffer := sizeBuffer
  log := []
  accepted := []
  setResults := []
  rejected := []
  closed := []
  errors := []

theorem startServe_fresh (onRecv onConnect onDisconnect : Bool) {sizeBuffer : Bytes}
    (h : sizeBuffer.length = CDTP_LENSIZE) :
    Fresh (startServe onRecv onConnect onDisconnect sizeBuffer) :=
  ⟨rfl, rfl, rfl, Clients.get_empty, rfl, rfl, rfl, rfl, rfl, rfl, rfl, h⟩

end Functions

/-! ## A server to run -/

/-- A server with all three callbacks registered. -/
def demoStart : ServeState := startServe true true true [170, 170, 170, 170, 170]

/-- A client of this library connects. -/
def demoConnection : Connection Unit where
  sock := 4
  blockingOk := true
  exchange := demoServerExchange
  nonBlockingOk := true

end Cdtp
