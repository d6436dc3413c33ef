/-
  The client (`client.c`, the POSIX branches): sending, disconnecting, and the loop that handles messages.

  `_cdtp_client_handle` is modelled like the serve loop: one step is one turn, with what its reads and
  calls meet as the input.  It reads through `receive`, as the server does, but treats the cases
  differently: every error other than "nothing there" ends the loop, and so does the end of the stream.
-/
import Cdtp.Server

namespace Cdtp

open CMem

/-- The client object.  Of a callback only whether it is registered matters. -/
structure CDTPClient where
  connected : Bool
  done : Bool
  sock : CDTPSocket
  onRecv : Bool
  onDisconnected : Bool

/-- One entry of the client's history. -/
inductive ClientEntry where
  | recv (body : Bytes) (payload : Option CryptoData)
  | disconnected (started : Bool)
  deriving DecidableEq, Repr

/-- The handle loop between two turns. -/
structure HandleState where
  client : CDTPClient
  status : Status
  sizeBuffer : Bytes
  log : List ClientEntry
  errors : List CDTPError

/-- `_cdtp_set_error(e, …); return;` -/
def HandleState.fail (s : HandleState) (e : CDTPError) : HandleState :=
  { s with status := .returned, errors := s.errors ++ [e] }

section Functions

variable {Ctx PKey : Type}

/-- `_cdtp_client_call_on_recv`: what the callback is started with, if one is registered. -/
def clientCallOnRecv (M : Machine) (O : OpenSSL Ctx PKey) (client : CDTPClient) (data : Bytes)
    (dataSize : Nat) : Run (Option CryptoData) :=
  if client.onRecv then do
    let dataDecrypted ← deref (← cryptoAesDecrypt M O client.sock.key data dataSize)
    pure (some dataDecrypted)
  else pure none

/-- `_cdtp_client_call_on_disconnected`. -/
def HandleState.callOnDisconnected (s : HandleState) : HandleState :=
  { s with log := s.log ++ [.disconnected s.client.onDisconnected] }

/-- `cdtp_client_disconnect`, with the results of `close` and of joining or detaching the thread. -/
def HandleState.disconnect (s : HandleState) (closeOk threadOk : Bool) : HandleState :=
  if s.client.connected = false then { s with errors := s.errors ++ [.CDTP_CLIENT_NOT_CONNECTED] }
  else
    let s := { s with client := { s.client with connected := false, done := true } }
    if closeOk = false then { s with errors := s.errors ++ [.CDTP_CLIENT_DISCONNECT_FAILED] }
    else if threadOk = false then { s with errors := s.errors ++ [.CDTP_HANDLE_THREAD_NOT_CLOSING] }
    else s

/-- The branches that end the loop because the server closed the connection. -/
def HandleState.closed (s : HandleState) (closeOk threadOk : Bool) : HandleState :=
  { (s.disconnect closeOk threadOk).callOnDisconnected with status := .returned }

/-- The header buffer after the first read of a turn. -/
def HandleState.buffered (s : HandleState) (header : ReadResult) : HandleState :=
  { s with sizeBuffer := splice s.sizeBuffer 0 (header.got CDTP_LENSIZE) }

/-- What the loop does about what the reads found. -/
def HandleState.react (M : Machine) (O : OpenSSL Ctx PKey) (s : HandleState)
    (closeOk threadOk : Bool) : Received → HandleState
  | .headerEnd => s.closed closeOk threadOk
  | .headerError e => if e.againOrWouldBlock then s else s.fail .CDTP_CLIENT_RECV_FAILED
  | .bodyError _ => s.fail .CDTP_CLIENT_RECV_FAILED
  | .bodyEnd => s.closed closeOk threadOk
  | .short => s.fail .CDTP_CLIENT_RECV_FAILED
  | .frame buffer msgSize =>
    match clientCallOnRecv M O s.client buffer msgSize with
    | .ok payload => { s with log := s.log ++ [.recv buffer payload] }
    | .error _ => { s with log := s.log ++ [.recv buffer none], status := .crashed }

/-- Header read, body read, and the reaction. -/
def HandleState.turn (M : Machine) (O : OpenSSL Ctx PKey) (s : HandleState)
    (header body : ReadResult) (closeOk threadOk : Bool) : HandleState :=
  (s.buffered header).react M O closeOk threadOk (receive M s.sizeBuffer header body)

/-- What a turn of the loop meets, or a call of `cdtp_client_disconnect` between two turns. -/
inductive HandleInput (Ctx PKey : Type) where
  | turn (header body : ReadResult) (O : OpenSSL Ctx PKey) (closeOk threadOk : Bool)
  | disconnect (closeOk threadOk : Bool)

/-- One step of the handle loop; `connected` is tested before each turn (and again behind the header read,
    but a turn is not interrupted). -/
def handleStep (M : Machine) (s : HandleState) (i : HandleInput Ctx PKey) : HandleState :=
  match s.status, i with
  | .running, .turn header body O closeOk threadOk =>
    if s.client.connected = false then { s with status := .returned }
    else s.turn M O header body closeOk threadOk
  | _, .disconnect closeOk threadOk => s.disconnect closeOk threadOk
  | _, _ => s

/-- The loop as `cdtp_client_connect` starts it; the header buffer is uninitialised. -/
def startHandle (client : CDTPClient) (sizeBuffer : Bytes) : HandleState where
  client := { client with connected := true, done := false }
  status := .running
  sizeBuffer := sizeBuffer
  log := []
  errors := []

/-- `cdtp_client_send`: the message that `send` is called with. -/
def clientSend (M : Machine) (O : OpenSSL Ctx PKey) (client : CDTPClient)
    (rand : Option (Nat → UInt8)) (data : Bytes) (dataSize : Nat) :
    Run (Except CDTPError Bytes) :=
  if client.connected = false then pure (.error .CDTP_CLIENT_NOT_CONNECTED)
  else do
    let dataEncrypted ← deref (← cryptoAesEncrypt M O rand client.sock.key data dataSize)
    pure (.ok (constructMessage M dataEncrypted.data dataEncrypted.dataSize))

end Functions

end Cdtp
