/-
  The Windows branches of the receive loops (`server.c`, `client.c`).

  They stand behind `#ifdef _WIN32`, next to the POSIX branches, and are written out a second time: an
  error is `SOCKET_ERROR` and is tested before the end of the stream, and its code comes from
  `WSAGetLastError`.  Where a branch differs from its sibling only in the name of a call (`ioctlsocket`
  and `fcntl`, `closesocket` and `close`, `CloseHandle` and `pthread_detach`), the input of the step says
  what became of the call, and the function of the POSIX branch is used.
-/
import Cdtp.Client

namespace Cdtp

open CMem

/-! ## Calls -/

/-- The codes of `WSAGetLastError` that the loops tell apart. -/
inductive WSAError where
  | WSAEWOULDBLOCK
  | WSAECONNRESET
  | WSAENOTSOCK
  | other
  deriving DecidableEq, Repr

/-- What `recv` returns when it fails. -/
def SOCKET_ERROR : Int := -1

/-- The outcome of one `recv`. -/
structure RecvResult where
  failed : Bool
  bytes : Bytes
  error : WSAError
  deriving DecidableEq, Repr

/-- The bytes that a request of `n` finds in the buffer afterwards. -/
def RecvResult.got (r : RecvResult) (n : Nat) : Bytes := if r.failed then [] else r.bytes.take n

/-- The value of `recv_code`. -/
def RecvResult.code (r : RecvResult) (n : Nat) : Int :=
  if r.failed then SOCKET_ERROR else toInt (r.got n).length

/-! ## The key exchange -/

/-- The second call of the key exchange, which needs all that was announced. -/
def recvBody (M : Machine) (msgSize : Nat) (body : RecvResult) : Option (Bytes × Nat) :=
  let recvCode := body.code msgSize
  if recvCode = SOCKET_ERROR ∨ recvCode = 0 ∨ ofInt recvCode ≠ msgSize then none
  else some (splice (malloc M msgSize) 0 (body.got msgSize), msgSize)

/-- The blocking reads of a key-exchange frame. -/
def recvFrame (M : Machine) (header body : RecvResult) : Option (Bytes × Nat) :=
  if header.code CDTP_LENSIZE = SOCKET_ERROR ∨ header.code CDTP_LENSIZE = 0 then none
  else
    recvBody M (decodeMessageSize (splice (malloc M CDTP_LENSIZE) 0 (header.got CDTP_LENSIZE))) body

section Functions

variable {Ctx PKey : Type}

/-- What `_cdtp_server_exchange_keys` meets on Windows: as on POSIX, but with two calls of `recv`. -/
structure WinServerExchange (PKey : Type) where
  rsaGen : Option PKey
  sendFailed : Bool
  header : RecvResult
  body : RecvResult

/-- The second half of `_cdtp_server_exchange_keys`, once the public key is out. -/
def winServerReceiveKey (M : Machine) (O : OpenSSL Ctx PKey) (rsaKeys : RSAKeyPair)
    (header body : RecvResult) : Run (Option AESKey) :=
  match recvFrame M header body with
  | none => pure none
  | some (buffer, msgSize) => do
    let keyData ← deref (← cryptoRsaDecrypt M O rsaKeys.privateKey buffer msgSize)
    let key ← cryptoAesKeyFrom M keyData.data keyData.dataSize
    pure (some key)

/-- `_cdtp_server_exchange_keys`. -/
def winServerExchangeKeys (M : Machine) (O : OpenSSL Ctx PKey) (io : WinServerExchange PKey) :
    Run (Option AESKey) := do
  let (rsaKeys, _) ← serverKeyMessage M O io.rsaGen
  if io.sendFailed then pure none else winServerReceiveKey M O rsaKeys io.header io.body

/-! ## One turn -/

/-- What a turn finds. -/
inductive WinReceived where
  | headerError (e : WSAError)
  | headerEnd
  | bodyError (e : WSAError)
  | bodyEnd
  | short
  | frame (body : Bytes) (size : Nat)
  deriving DecidableEq, Repr

/-- What a loop finds in the second of its two calls. -/
def winReceiveBody (M : Machine) (msgSize : Nat) (body : RecvResult) : WinReceived :=
  if body.code msgSize = SOCKET_ERROR then .bodyError body.error
  else if body.code msgSize = 0 then .bodyEnd
  else if ofInt (body.code msgSize) ≠ msgSize then .short
  else .frame (splice (malloc M msgSize) 0 (body.got msgSize)) msgSize

/-- What a loop finds in both.  The tests are those of POSIX, in another order: the error comes first. -/
def winReceive (M : Machine) (sizeBuffer : Bytes) (header body : RecvResult) : WinReceived :=
  if header.code CDTP_LENSIZE = SOCKET_ERROR then .headerError header.error
  else if header.code CDTP_LENSIZE = 0 then .headerEnd
  else winReceiveBody M (decodeMessageSize (splice sizeBuffer 0 (header.got CDTP_LENSIZE))) body

/-! ## The serve loop -/

/-- An accepted connection, with what its set-up meets. -/
structure WinConnection (PKey : Type) where
  sock : Nat
  blockingOk : Bool
  exchange : WinServerExchange PKey
  nonBlockingOk : Bool

/-- `accept` returned a socket. -/
def ServeState.winAcceptConnection (M : Machine) (O : OpenSSL Ctx PKey) (s : ServeState)
    (c : WinConnection PKey) : ServeState :=
  let r := serverNewClientId s.server
  let s := { s with server := r.2, accepted := s.accepted ++ [(r.1, c.sock)] }
  if c.blockingOk = false then s.fail .CDTP_SOCKET_ACCEPT_FAILED
  else
    match winServerExchangeKeys M O c.exchange with
    | .error _ => { s with status := .crashed }
    | .ok none => { s with rejected := s.rejected ++ [c.sock] }.fail .CDTP_SERVER_KEY_EXCHANGE_FAILED
    | .ok (some key) =>
      if c.nonBlockingOk = false then s.fail .CDTP_SOCKET_ACCEPT_FAILED
      else (s.addClient r.1 { sock := c.sock, key := key }).snapshot

/-- `accept` returned `INVALID_SOCKET`. -/
def ServeState.winAcceptError (s : ServeState) (e : WSAError) : ServeState :=
  if e = .WSAEWOULDBLOCK then s.snapshot
  else if e ≠ .WSAENOTSOCK ∨ s.server.serving then s.fail .CDTP_SOCKET_ACCEPT_FAILED
  else { s with status := .returned }

/-- What the loop does about what the reads found: unlike its sibling it knows a reset connection. -/
def ServeState.winReact (M : Machine) (O : OpenSSL Ctx PKey) (s : ServeState) (clientId : Nat) :
    WinReceived → ServeState
  | .headerError e =>
    if e = .WSAECONNRESET ∨ e = .WSAENOTSOCK then s.dropClient clientId
    else if e = .WSAEWOULDBLOCK then s
    else s.fail .CDTP_SERVER_RECV_FAILED
  | .headerEnd => s.dropClient clientId
  | .bodyError e =>
    if e = .WSAECONNRESET ∨ e = .WSAENOTSOCK then s.dropClient clientId
    else s.fail .CDTP_SERVER_RECV_FAILED
  | .bodyEnd => s.dropClient clientId
  | .short => s.fail .CDTP_SERVER_RECV_FAILED
  | .frame buffer msgSize =>
    match serverCallOnRecv M O s.server clientId buffer msgSize with
    | .ok payload => { s with log := s.log ++ [.recv clientId buffer payload] }
    | .error _ => { s with log := s.log ++ [.recv clientId buffer none], status := .crashed }

/-- Header, body, and the reaction. -/
def ServeState.winClientTurn (M : Machine) (O : OpenSSL Ctx PKey) (s : ServeState) (clientId : Nat)
    (header body : RecvResult) : ServeState :=
  ({ s with sizeBuffer := splice s.sizeBuffer 0 (header.got CDTP_LENSIZE) }).winReact M O clientId
    (winReceive M s.sizeBuffer header body)

/-- What a step of the serve loop meets on Windows. -/
inductive WinServeInput (Ctx PKey : Type) where
  | acceptError (e : WSAError)
  | acceptConnection (c : WinConnection PKey) (O : OpenSSL Ctx PKey)
  | turn (header body : RecvResult) (O : OpenSSL Ctx PKey)
  | remove (id : Nat) (closeOk : Bool)

/-- One part of the loop. -/
def winServeStep (M : Machine) (s : ServeState) (i : WinServeInput Ctx PKey) : ServeState :=
  match s.status, s.todo, i with
  | .running, [], .acceptError e =>
    if s.server.serving = false then { s with status := .returned } else s.winAcceptError e
  | .running, [], .acceptConnection c O =>
    if s.server.serving = false then { s with status := .returned } else s.winAcceptConnection M O c
  | .running, (id, _) :: rest, .turn header body O =>
    ({ s with todo := rest }).winClientTurn M O id header body
  | .running, [], .remove id closeOk => s.removeClient id closeOk
  | _, _, _ => s

/-! ## The client's loop -/

/-- What the handle loop does about what it found; a reset connection is a closed one, at either call. -/
def HandleState.winReact (M : Machine) (O : OpenSSL Ctx PKey) (s : HandleState)
    (closeOk threadOk : Bool) : WinReceived → HandleState
  | .headerError e =>
    if e = .WSAECONNRESET then s.closed closeOk threadOk
    else if e = .WSAEWOULDBLOCK then s
    else s.fail .CDTP_CLIENT_RECV_FAILED
  | .headerEnd => s.closed closeOk threadOk
  | .bodyError e =>
    if e = .WSAECONNRESET then s.closed closeOk threadOk else s.fail .CDTP_CLIENT_RECV_FAILED
  | .bodyEnd => s.closed closeOk threadOk
  | .short => s.fail .CDTP_CLIENT_RECV_FAILED
  | .frame buffer msgSize =>
    match clientCallOnRecv M O s.client buffer msgSize with
    | .ok payload => { s with log := s.log ++ [.recv buffer payload] }
    | .error _ => { s with log := s.log ++ [.recv buffer none], status := .crashed }

/-- A turn of the handle loop. -/
def HandleState.winTurn (M : Machine) (O : OpenSSL Ctx PKey) (s : HandleState)
    (header body : RecvResult) (closeOk threadOk : Bool) : HandleState :=
  ({ s with sizeBuffer := splice s.sizeBuffer 0 (header.got CDTP_LENSIZE) }).winReact M O
    closeOk threadOk (winReceive M s.sizeBuffer header body)

/-- What a step of the handle loop meets on Windows. -/
inductive WinHandleInput (Ctx PKey : Type) where
  | turn (header body : RecvResult) (O : OpenSSL Ctx PKey) (closeOk threadOk : Bool)
  | disconnect (closeOk threadOk : Bool)

/-- One step of the handle loop. -/
def winHandleStep (M : Machine) (s : HandleState) (i : WinHandleInput Ctx PKey) : HandleState :=
  match s.status, i with
  | .running, .turn header body O closeOk threadOk =>
    if s.client.connected = false then { s with status := .returned }
    else s.winTurn M O header body closeOk threadOk
  | _, .disconnect closeOk threadOk => s.disconnect closeOk threadOk
  | _, _ => s

end Functions

end Cdtp
