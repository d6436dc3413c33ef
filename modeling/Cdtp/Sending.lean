/-
  What the senders put on the wire.

  `cdtp_server_send` and `cdtp_client_send` call `send` once, and only test its result with `< 0`.  The
  sockets are non-blocking, so `send` may accept the front of a message alone; what it did not accept is
  never sent, and nobody is told.

  Every direction of a connection is a `Wire`: the bytes that were accepted on it, and the messages that
  `send` was called with.  A wire is whole when its bytes are those messages, each a frame of its payload.
  Once it is torn it stays torn, since the bytes that are missing never come; so a run keeps its wires
  whole, or reports an error, iff each of its calls reports one or sends all it has to (`sends_whole_iff`).
-/
import Cdtp.FrameSafety
import Cdtp.PayloadSize

namespace Cdtp

open CMem Runs

/-! ## Wires -/

/-- What `send` answers to a request: an error, or how many bytes it accepted. -/
inductive SendResult where
  | failed
  | accepted (k : Nat)
  deriving DecidableEq, Repr

/-- A call of `send`: its message, the payload that is in it, and the key of the connection. -/
structure Sent where
  key : Option AESKey
  payload : Bytes
  message : Bytes

/-- One direction of a connection. -/
structure Wire where
  bytes : Bytes
  sent : List Sent

def Wire.empty : Wire := { bytes := [], sent := [] }

/-- `send` is called with a message, and accepts its first `k` bytes. -/
def Wire.accept (w : Wire) (e : Sent) (k : Nat) : Wire :=
  { bytes := w.bytes ++ e.message.take k, sent := w.sent ++ [e] }

/-- The bytes that should be on the wire. -/
def Wire.messages (w : Wire) : Bytes := (w.sent.map Sent.message).flatten

section Wires

variable {Ctx PKey : Type} (M : Machine) (O : OpenSSL Ctx PKey)

/-- The message is a complete frame of its payload. -/
def Sent.IsFrame (e : Sent) : Prop := ∃ key, e.key = some key ∧ FrameOf M O key e.payload e.message

/-- The bytes on the wire are the frames of what was sent on it, in order. -/
structure Wire.Whole (w : Wire) : Prop where
  bytes : w.bytes = w.messages
  frames : ∀ e ∈ w.sent, e.IsFrame M O

/-- Bytes are missing, or a message is no frame of its payload. -/
def Wire.Torn (w : Wire) : Prop :=
  w.bytes.length < w.messages.length ∨ ∃ e ∈ w.sent, ¬ e.IsFrame M O

variable {M O} {w : Wire} {e : Sent} {k : Nat}

theorem Wire.empty_whole : Wire.empty.Whole M O :=
  ⟨rfl, fun _ he => absurd he List.not_mem_nil⟩

theorem Wire.Torn.not_whole (h : w.Torn M O) : ¬ w.Whole M O := by
  intro hw
  rcases h with h | ⟨e, he, hno⟩
  · rw [hw.bytes] at h
    exact Nat.lt_irrefl _ h
  · exact hno (hw.frames e he)

theorem Wire.accept_messages : (w.accept e k).messages = w.messages ++ e.message := by
  rw [Wire.messages, Wire.messages, Wire.accept, List.map_append, List.flatten_append]
  simp

theorem Wire.accept_length_le (h : w.bytes.length ≤ w.messages.length) :
    (w.accept e k).bytes.length ≤ (w.accept e k).messages.length := by
  rw [Wire.accept_messages, Wire.accept, List.length_append, List.length_append, List.length_take]
  omega

/-- All of a frame keeps the wire whole. -/
theorem Wire.Whole.accept (h : w.Whole M O) (he : e.IsFrame M O) (hk : e.message.length ≤ k) :
    (w.accept e k).Whole M O := by
  refine ⟨?_, ?_⟩
  · rw [Wire.accept_messages, Wire.accept, List.take_of_length_le hk, h.bytes]
  · intro e' he'
    rcases List.mem_append.mp he' with hold | hnew
    · exact h.frames e' hold
    · rw [List.mem_singleton.mp hnew]
      exact he

/-- The front of a message tears it. -/
theorem Wire.accept_torn (h : w.bytes.length ≤ w.messages.length)
    (he : ¬ e.IsFrame M O ∨ k < e.message.length) : (w.accept e k).Torn M O := by
  rcases he with hno | hk
  · exact Or.inr ⟨e, List.mem_append_right _ (List.mem_singleton_self e), hno⟩
  · left
    rw [Wire.accept_messages, Wire.accept, List.length_append, List.length_append, List.length_take]
    omega

/-- **What is torn stays torn.** -/
theorem Wire.Torn.accept (h : w.Torn M O) : (w.accept e k).Torn M O := by
  rcases h with h | ⟨e', he', hno⟩
  · left
    rw [Wire.accept_messages, Wire.accept, List.length_append, List.length_append, List.length_take]
    omega
  · exact Or.inr ⟨e', List.mem_append_left _ he', hno⟩

end Wires

/-! ## The calls -/

/-- What an application gives to a send function.  No object of C is larger. -/
structure Payload where
  bytes : Bytes
  size_lt : bytes.length < 2 ^ 63

/-- A server and a client that send, each to its own peers. -/
structure SendState where
  server : CDTPServer
  client : CDTPClient
  /-- the server's connections, by descriptor -/
  toClient : Nat → Wire
  toServer : Wire
  errors : List CDTPError
  crashed : Bool

/-- `_cdtp_set_error(e, …); return;` -/
def SendState.report (s : SendState) (e : CDTPError) : SendState :=
  { s with errors := s.errors ++ [e] }

/-- The encryption reported an error and returned NULL, which the caller dereferences. -/
def SendState.crash (s : SendState) : SendState :=
  { s.report .CDTP_OPENSSL_ERROR with crashed := true }

def SendState.acceptToClient (s : SendState) (sock : Nat) (e : Sent) (k : Nat) : SendState :=
  { s with toClient := Function.update s.toClient sock ((s.toClient sock).accept e k) }

theorem acceptToClient_self (s : SendState) (sock : Nat) (e : Sent) (k : Nat) :
    (s.acceptToClient sock e k).toClient sock = (s.toClient sock).accept e k :=
  Function.update_self _ _ _

theorem acceptToClient_of_ne (s : SendState) {sock sock' : Nat} (e : Sent) (k : Nat)
    (h : sock' ≠ sock) : (s.acceptToClient sock e k).toClient sock' = s.toClient sock' :=
  Function.update_of_ne h _ _

/-- What holds of every wire still does if it does of the wire of the message. -/
theorem acceptToClient_forall {P : Wire → Prop} {s : SendState} {sock : Nat} {e : Sent} {k : Nat}
    (hsock : P ((s.toClient sock).accept e k)) (h : ∀ sock', P (s.toClient sock')) :
    ∀ sock', P ((s.acceptToClient sock e k).toClient sock') :=
  (Function.forall_update_iff s.toClient fun _ => P).mpr ⟨hsock, fun sock' _ => h sock'⟩

section Calls

variable {Ctx PKey : Type}

/-- `cdtp_server_send`. -/
def SendState.serverSend (M : Machine) (O : OpenSSL Ctx PKey) (s : SendState) (clientId : Nat)
    (data : Payload) (rand : Option (Nat → UInt8)) (result : SendResult) : SendState :=
  if s.crashed then s
  else
    match Cdtp.serverSend M O s.server rand clientId data.bytes data.bytes.length with
    | .error _ => s.crash
    | .ok (.error e) => s.report e
    | .ok (.ok (sock, message)) =>
      match result with
      | .failed => s.report .CDTP_SERVER_SEND_FAILED
      | .accepted k =>
        s.acceptToClient sock
          { key := (s.server.clients.get clientId).map CDTPSocket.key, payload := data.bytes,
            message := message } k

/-- `cdtp_server_send_all`: what the encryption and `send` do may differ from client to client. -/
def SendState.serverSendAll (M : Machine) (O : OpenSSL Ctx PKey) (s : SendState) (data : Payload)
    (rand : Nat → Option (Nat → UInt8)) (result : Nat → SendResult) : SendState :=
  if s.crashed then s
  else if s.server.serving = false then s.report .CDTP_SERVER_NOT_SERVING
  else
    s.server.clients.iter.foldl (fun s c => s.serverSend M O c.1 data (rand c.1) (result c.1)) s

/-- `cdtp_client_send`. -/
def SendState.clientSend (M : Machine) (O : OpenSSL Ctx PKey) (s : SendState) (data : Payload)
    (rand : Option (Nat → UInt8)) (result : SendResult) : SendState :=
  if s.crashed then s
  else
    match Cdtp.clientSend M O s.client rand data.bytes data.bytes.length with
    | .error _ => s.crash
    | .ok (.error e) => s.report e
    | .ok (.ok message) =>
      match result with
      | .failed => s.report .CDTP_CLIENT_SEND_FAILED
      | .accepted k =>
        { s with toServer := s.toServer.accept
                  { key := some s.client.sock.key, payload := data.bytes, message := message } k }

/-- A call of one of the three functions, with what it meets. -/
inductive SendCall where
  | serverSend (clientId : Nat) (data : Payload) (rand : Option (Nat → UInt8)) (result : SendResult)
  | serverSendAll (data : Payload) (rand : Nat → Option (Nat → UInt8)) (result : Nat → SendResult)
  | clientSend (data : Payload) (rand : Option (Nat → UInt8)) (result : SendResult)

def sendStep (M : Machine) (O : OpenSSL Ctx PKey) (s : SendState) : SendCall → SendState
  | .serverSend clientId data rand result => s.serverSend M O clientId data rand result
  | .serverSendAll data rand result => s.serverSendAll M O data rand result
  | .clientSend data rand result => s.clientSend M O data rand result

/-- Before the first call. -/
def startSending (server : CDTPServer) (client : CDTPClient) : SendState where
  server := server
  client := client
  toClient := fun _ => .empty
  toServer := .empty
  errors := []
  crashed := false

/-! ## Which calls report, and which are complete -/

/-- The length of the frame of a payload. -/
def frameLength (p : Bytes) : Nat := CDTP_LENSIZE + (CDTP_AES_NONCE_SIZE + cbcLength (padded p).length)

/-- `send` accepts the frame of the payload to its end, and there is such a frame. -/
def CompleteSend (data : Payload) (result : SendResult) : Prop :=
  data.bytes.length < 2 ^ 31 - 33 ∧ ∃ k, result = .accepted k ∧ frameLength data.bytes ≤ k

/-- `cdtp_server_send` reports: the server is not serving, the client unknown, or something fails. -/
def ServerReports (M : Machine) (O : OpenSSL Ctx PKey) (server : CDTPServer) (clientId : Nat)
    (data : Payload) (rand : Option (Nat → UInt8)) (result : SendResult) : Prop :=
  server.serving = false ∨ result = .failed ∨
    ∀ client, server.clients.get clientId = some client →
      OpenSSLFails M O rand client.key data.bytes

/-- The call reports an error. -/
def SendCall.Reports (M : Machine) (O : OpenSSL Ctx PKey) (s : SendState) : SendCall → Prop
  | .serverSend clientId data rand result => ServerReports M O s.server clientId data rand result
  | .serverSendAll data rand result =>
    s.server.serving = false ∨
      ∃ c ∈ s.server.clients.iter, ServerReports M O s.server c.1 data (rand c.1) (result c.1)
  | .clientSend data rand result =>
    s.client.connected = false ∨ result = .failed ∨
      OpenSSLFails M O rand s.client.sock.key data.bytes

/-- Every `send` of the call is complete. -/
def SendCall.Complete (s : SendState) : SendCall → Prop
  | .serverSend _ data _ result => CompleteSend data result
  | .serverSendAll data _ result => ∀ c ∈ s.server.clients.iter, CompleteSend data (result c.1)
  | .clientSend data _ result => CompleteSend data result

/-- An error was reported before, or the call reports one, or it is complete. -/
def SendOk (M : Machine) (O : OpenSSL Ctx PKey) (s : SendState) (c : SendCall) : Prop :=
  s.errors ≠ [] ∨ c.Reports M O s ∨ c.Complete s

/-- All wires are whole. -/
structure SendState.Whole (M : Machine) (O : OpenSSL Ctx PKey) (s : SendState) : Prop where
  toClient : ∀ sock, (s.toClient sock).Whole M O
  toServer : s.toServer.Whole M O

/-- Some wire is torn. -/
def SendState.Torn (M : Machine) (O : OpenSSL Ctx PKey) (s : SendState) : Prop :=
  (∃ sock, (s.toClient sock).Torn M O) ∨ s.toServer.Torn M O

/-- **No torn frame goes unreported**: unless an error was reported, every wire is whole. -/
def WholeUnlessReported (M : Machine) (O : OpenSSL Ctx PKey) (s : SendState) : Prop :=
  s.errors = [] → s.Whole M O

/-! ## One message -/

section Steps

variable {M : Machine} {O : OpenSSL Ctx PKey} {s : SendState} {data : Payload}
  {rand : Option (Nat → UInt8)} {result : SendResult} {clientId : Nat} {e : Sent} {k : Nat} {w : Wire}

/-- What the encryption of a payload makes of it. -/
structure MessageOf (M : Machine) (O : OpenSSL Ctx PKey) (data : Payload) (e : Sent) : Prop where
  frame : data.bytes.length < 2 ^ 31 - 33 → e.IsFrame M O
  length : data.bytes.length < 2 ^ 31 - 33 → e.message.length = frameLength data.bytes
  no_frame : 2 ^ 31 - 33 ≤ data.bytes.length → ¬ e.IsFrame M O

theorem MessageOf.accept_whole (he : MessageOf M O data e) (hc : CompleteSend data (.accepted k))
    (hw : w.Whole M O) : (w.accept e k).Whole M O := by
  obtain ⟨hp, k', hk', hle⟩ := hc
  obtain rfl := SendResult.accepted.inj hk'
  exact hw.accept (he.frame hp) ((he.length hp).trans_le hle)

theorem MessageOf.accept_torn (he : MessageOf M O data e) (hc : ¬ CompleteSend data (.accepted k))
    (hw : w.bytes.length ≤ w.messages.length) : (w.accept e k).Torn M O := by
  refine Wire.accept_torn hw ?_
  by_cases hp : data.bytes.length < 2 ^ 31 - 33
  · right
    rw [he.length hp]
    by_contra hk
    exact hc ⟨hp, k, rfl, Nat.le_of_not_lt hk⟩
  · exact Or.inl (he.no_frame (Nat.le_of_not_lt hp))

/-- Unless encryption fails there is a message. -/
theorem message_of (hM : M.checked = false) (hO : O.IntAESLaws) {key : AESKey}
    (h : ¬ OpenSSLFails M O rand key data.bytes) :
    ∃ d, cryptoAesEncrypt M O rand key data.bytes data.bytes.length = .ok (some d) ∧
      MessageOf M O data ⟨some key, data.bytes, constructMessage M d.data d.dataSize⟩ := by
  obtain ⟨r, h⟩ := not_forall.mp h
  obtain ⟨rfl, henc⟩ := Classical.not_imp.mp h
  by_cases hp : data.bytes.length < 2 ^ 31 - 33
  · obtain ⟨d, hd, hsize, hcarries⟩ := carriesPayload_of_lt hM hO hp henc
    refine ⟨d, hd, fun _ => ⟨key, rfl, hcarries.frame⟩, fun _ => ?_, fun hge => absurd hp (by omega)⟩
    rw [constructMessage_length_of_size, hsize, frameLength]
  · obtain ⟨d, hd, hno⟩ := not_frameOf_of_ge hM hO (Nat.le_of_not_lt hp) data.size_lt henc
    refine ⟨d, hd, fun hlt => absurd hlt hp, fun hlt => absurd hlt hp, ?_⟩
    rintro - ⟨key', hkey, hframe⟩
    obtain rfl := Option.some.inj hkey
    exact hno hframe

/-! ## One call -/

/-- No wire has more bytes than it should. -/
structure SendState.Bounded (s : SendState) : Prop where
  toClient : ∀ sock, (s.toClient sock).bytes.length ≤ (s.toClient sock).messages.length
  toServer : s.toServer.bytes.length ≤ s.toServer.messages.length

/-- **What `cdtp_server_send` does**: it reports an error, or hands over one message. -/
theorem serverSend_cases (hM : M.checked = false) (hO : O.IntAESLaws) (hs : s.crashed = false) :
    (ServerReports M O s.server clientId data rand result ∧
      ∃ e c, s.serverSend M O clientId data rand result
        = { s with errors := s.errors ++ [e], crashed := c }) ∨
    (¬ ServerReports M O s.server clientId data rand result ∧
      ∃ sock e k, result = .accepted k ∧ MessageOf M O data e ∧
        s.serverSend M O clientId data rand result = s.acceptToClient sock e k) := by
  rw [SendState.serverSend, if_neg (ne_true_of_eq_false hs), Cdtp.serverSend]
  by_cases hserving : s.server.serving = false
  · rw [if_pos hserving]
    exact Or.inl ⟨Or.inl hserving, _, s.crashed, rfl⟩
  rw [if_neg hserving]
  rcases hget : s.server.clients.get clientId with _ | client
  · refine Or.inl ⟨Or.inr (Or.inr ?_), _, s.crashed, rfl⟩
    intro client hclient
    rw [hget] at hclient
    exact absurd hclient (by simp)
  by_cases hfails : OpenSSLFails M O rand client.key data.bytes
  · -- the error is set before NULL is dereferenced
    refine Or.inl ⟨Or.inr (Or.inr ?_), .CDTP_OPENSSL_ERROR, true, ?_⟩
    · intro client' hclient
      rw [hget] at hclient
      obtain rfl := Option.some.inj hclient
      exact hfails
    · dsimp only
      rw [cryptoAesEncrypt_of_fails hM hfails]
      rfl
  obtain ⟨d, hd, hmessage⟩ := message_of hM hO hfails
  dsimp only
  rw [hd, ok_bind, deref_some, ok_bind]
  cases result with
  | failed => exact Or.inl ⟨Or.inr (Or.inl rfl), _, s.crashed, rfl⟩
  | accepted k =>
    refine Or.inr ⟨?_, client.sock, _, k, rfl, hmessage, rfl⟩
    rintro (h | h | h)
    · exact hserving h
    · exact absurd h (by simp)
    · exact hfails (h client hget)

theorem clientSend_cases (hM : M.checked = false) (hO : O.IntAESLaws) (hs : s.crashed = false) :
    ((SendCall.clientSend data rand result).Reports M O s ∧
      ∃ e c, s.clientSend M O data rand result
        = { s with errors := s.errors ++ [e], crashed := c }) ∨
    (¬ (SendCall.clientSend data rand result).Reports M O s ∧
      ∃ e k, result = .accepted k ∧ MessageOf M O data e ∧
        s.clientSend M O data rand result = { s with toServer := s.toServer.accept e k }) := by
  rw [SendState.clientSend, if_neg (ne_true_of_eq_false hs), Cdtp.clientSend]
  by_cases hconnected : s.client.connected = false
  · rw [if_pos hconnected]
    exact Or.inl ⟨Or.inl hconnected, _, s.crashed, rfl⟩
  rw [if_neg hconnected]
  by_cases hfails : OpenSSLFails M O rand s.client.sock.key data.bytes
  · refine Or.inl ⟨Or.inr (Or.inr hfails), .CDTP_OPENSSL_ERROR, true, ?_⟩
    rw [cryptoAesEncrypt_of_fails hM hfails]
    rfl
  obtain ⟨d, hd, hmessage⟩ := message_of hM hO hfails
  rw [hd, ok_bind, deref_some, ok_bind]
  cases result with
  | failed => exact Or.inl ⟨Or.inr (Or.inl rfl), _, s.crashed, rfl⟩
  | accepted k =>
    refine Or.inr ⟨?_, _, k, rfl, hmessage, rfl⟩
    rintro (h | h | h)
    · exact hconnected h
    · exact absurd h (by simp)
    · exact hfails h

/-- What a part of a run does that reports nothing; `complete` says that all it sends is complete. -/
structure Quiet (M : Machine) (O : OpenSSL Ctx PKey) (complete : Prop) (s s' : SendState) : Prop where
  errors : s'.errors = s.errors
  crashed : s'.crashed = s.crashed
  server : s'.server = s.server
  bounded : s.Bounded → s'.Bounded
  whole : complete → s.Whole M O → s'.Whole M O
  tears : ¬ complete → s.Bounded → s'.Torn M O
  torn : s.Torn M O → s'.Torn M O

theorem Quiet.refl (s : SendState) : Quiet M O True s s :=
  ⟨rfl, rfl, rfl, id, fun _ h => h, fun h => absurd trivial h, id⟩

theorem Quiet.trans {c c' : Prop} {s' s'' : SendState} (h : Quiet M O c s s')
    (h' : Quiet M O c' s' s'') : Quiet M O (c ∧ c') s s'' where
  errors := h'.errors.trans h.errors
  crashed := h'.crashed.trans h.crashed
  server := h'.server.trans h.server
  bounded hs := h'.bounded (h.bounded hs)
  whole hc hs := h'.whole hc.2 (h.whole hc.1 hs)
  tears hc hs := by
    by_cases hfirst : c
    · exact h'.tears (fun hc' => hc ⟨hfirst, hc'⟩) (h.bounded hs)
    · exact h'.torn (h.tears hfirst hs)
  torn hs := h'.torn (h.torn hs)

theorem Quiet.congr {c c' : Prop} {s' : SendState} (h : Quiet M O c s s') (hc : c ↔ c') :
    Quiet M O c' s s' :=
  propext hc ▸ h

/-- One message to a client. -/
theorem MessageOf.quiet_toClient (he : MessageOf M O data e) (sock : Nat) :
    Quiet M O (CompleteSend data (.accepted k)) s (s.acceptToClient sock e k) where
  errors := rfl
  crashed := rfl
  server := rfl
  bounded hs :=
    ⟨@acceptToClient_forall (fun w => w.bytes.length ≤ w.messages.length) s sock e k
      (Wire.accept_length_le (hs.toClient sock)) hs.toClient, hs.toServer⟩
  whole hc hs :=
    ⟨acceptToClient_forall (he.accept_whole hc (hs.toClient sock)) hs.toClient, hs.toServer⟩
  tears hc hs := by
    refine Or.inl ⟨sock, ?_⟩
    rw [acceptToClient_self]
    exact he.accept_torn hc (hs.toClient sock)
  torn := by
    rintro (⟨sock', h'⟩ | h')
    · refine Or.inl ⟨sock', ?_⟩
      by_cases h : sock' = sock
      · subst h
        rw [acceptToClient_self]
        exact h'.accept
      · rw [acceptToClient_of_ne s e k h]
        exact h'
    · exact Or.inr h'

/-- One message to the server. -/
theorem MessageOf.quiet_toServer (he : MessageOf M O data e) :
    Quiet M O (CompleteSend data (.accepted k)) s
      { s with toServer := s.toServer.accept e k } where
  errors := rfl
  crashed := rfl
  server := rfl
  bounded hs := ⟨hs.toClient, Wire.accept_length_le hs.toServer⟩
  whole hc hs := ⟨hs.toClient, he.accept_whole hc hs.toServer⟩
  tears hc hs := Or.inr (he.accept_torn hc hs.toServer)
  torn := by
    rintro (h' | h')
    · exact Or.inl h'
    · exact Or.inr h'.accept

/-! ## `cdtp_server_send_all` -/

/-- Errors are never taken back. -/
theorem serverSend_errors (hM : M.checked = false) (hO : O.IntAESLaws) (h : s.errors ≠ []) :
    (s.serverSend M O clientId data rand result).errors ≠ [] := by
  rcases hs : s.crashed with _ | _
  · rcases @serverSend_cases Ctx PKey M O s data rand result clientId hM hO hs with
      ⟨-, e, c, heq⟩ | ⟨-, sock, e, k, -, -, heq⟩
    · rw [heq]
      exact List.concat_ne_nil _ _
    · rw [heq]
      exact h
  · rw [SendState.serverSend, if_pos hs]
    exact h

variable {results : Nat → SendResult} {rands : Nat → Option (Nat → UInt8)}

theorem sendAll_errors (hM : M.checked = false) (hO : O.IntAESLaws) (cs : List (Nat × CDTPSocket)) :
    ∀ s : SendState, s.errors ≠ [] →
      (cs.foldl (fun s c => s.serverSend M O c.1 data (rands c.1) (results c.1)) s).errors ≠ [] := by
  induction cs with
  | nil => intro s h; exact h
  | cons c cs ih => intro s h; exact ih _ (serverSend_errors hM hO h)

/-- **The loop of `cdtp_server_send_all`**: some send reports, or all are as if called one by one. -/
theorem sendAll_cases (hM : M.checked = false) (hO : O.IntAESLaws) (cs : List (Nat × CDTPSocket)) :
    ∀ s : SendState, s.crashed = false →
      ((∃ c ∈ cs, ServerReports M O s.server c.1 data (rands c.1) (results c.1)) ∧
        (cs.foldl (fun s c => s.serverSend M O c.1 data (rands c.1) (results c.1)) s).errors ≠ []) ∨
      ((¬ ∃ c ∈ cs, ServerReports M O s.server c.1 data (rands c.1) (results c.1)) ∧
        Quiet M O (∀ c ∈ cs, CompleteSend data (results c.1)) s
          (cs.foldl (fun s c => s.serverSend M O c.1 data (rands c.1) (results c.1)) s)) := by
  induction cs with
  | nil =>
    intro s _
    refine Or.inr ⟨by simp, (Quiet.refl s).congr ?_⟩
    simp
  | cons c cs ih =>
    intro s hs
    rw [List.foldl_cons]
    rcases @serverSend_cases Ctx PKey M O s data (rands c.1) (results c.1) c.1 hM hO hs with
      ⟨hreports, e, b, heq⟩ | ⟨hno, sock, e, k, hk, he, heq⟩
    · refine Or.inl ⟨⟨c, List.mem_cons_self, hreports⟩, sendAll_errors hM hO cs _ ?_⟩
      rw [heq]
      exact List.concat_ne_nil _ _
    · have hquiet : Quiet M O (CompleteSend data (results c.1)) s (s.acceptToClient sock e k) := by
        rw [hk]
        exact he.quiet_toClient sock
      rw [heq]
      rcases ih (s.acceptToClient sock e k) hs with ⟨⟨c', hc', hrest⟩, herr⟩ | ⟨hnone, hrest⟩
      · exact Or.inl ⟨⟨c', List.mem_cons_of_mem c hc', hrest⟩, herr⟩
      · refine Or.inr ⟨?_, (hquiet.trans hrest).congr (by rw [List.forall_mem_cons])⟩
        rintro ⟨c', hc', hrest'⟩
        rcases List.mem_cons.mp hc' with rfl | hmem
        · exact hno hrest'
        · exact hnone ⟨c', hmem, hrest'⟩

/-! ## Every call -/

/-- **What a call does**: it reports an error, or sends quietly. -/
theorem sendStep_cases (hM : M.checked = false) (hO : O.IntAESLaws) (c : SendCall)
    (hs : s.crashed = false) :
    (c.Reports M O s ∧ (sendStep M O s c).errors ≠ []) ∨
      (¬ c.Reports M O s ∧ Quiet M O (c.Complete s) s (sendStep M O s c)) := by
  cases c with
  | serverSend clientId data rand result =>
    rcases @serverSend_cases Ctx PKey M O s data rand result clientId hM hO hs with
      ⟨hreports, e, b, heq⟩ | ⟨hno, sock, e, k, rfl, he, heq⟩
    · refine Or.inl ⟨hreports, ?_⟩
      rw [sendStep, heq]
      exact List.concat_ne_nil _ _
    · refine Or.inr ⟨hno, ?_⟩
      rw [sendStep, heq]
      exact he.quiet_toClient sock
  | serverSendAll data rand result =>
    rw [sendStep, SendState.serverSendAll, if_neg (ne_true_of_eq_false hs)]
    by_cases hserving : s.server.serving = false
    · rw [if_pos hserving]
      exact Or.inl ⟨Or.inl hserving, List.concat_ne_nil _ _⟩
    · rw [if_neg hserving]
      rcases @sendAll_cases Ctx PKey M O data result rand hM hO s.server.clients.iter s hs with
        ⟨hreports, herr⟩ | ⟨hno, hquiet⟩
      · exact Or.inl ⟨Or.inr hreports, herr⟩
      · exact Or.inr ⟨fun h => h.elim hserving hno, hquiet⟩
  | clientSend data rand result =>
    rcases @clientSend_cases Ctx PKey M O s data rand result hM hO hs with
      ⟨hreports, e, b, heq⟩ | ⟨hno, e, k, rfl, he, heq⟩
    · refine Or.inl ⟨hreports, ?_⟩
      rw [sendStep, heq]
      exact List.concat_ne_nil _ _
    · refine Or.inr ⟨hno, ?_⟩
      rw [sendStep, heq]
      exact he.quiet_toServer

theorem sendStep_errors (hM : M.checked = false) (hO : O.IntAESLaws) (c : SendCall)
    (h : s.errors ≠ []) : (sendStep M O s c).errors ≠ [] := by
  rcases hs : s.crashed with _ | _
  · rcases sendStep_cases hM hO c hs with ⟨-, herr⟩ | ⟨-, hquiet⟩
    · exact herr
    · rw [hquiet.errors]
      exact h
  · -- a crashed program makes no more calls
    cases c <;> simp only [sendStep, SendState.serverSend, SendState.serverSendAll,
      SendState.clientSend, hs, if_true] <;> exact h

theorem sendStep_errors_nil (hM : M.checked = false) (hO : O.IntAESLaws) {c : SendCall}
    (h : (sendStep M O s c).errors = []) : s.errors = [] := by
  by_contra hne
  exact sendStep_errors hM hO c hne h

/-! ## Every run -/

/-- While nothing was reported nothing crashed, and no wire has too many bytes. -/
def SendInv (s : SendState) : Prop := s.errors = [] → s.crashed = false ∧ s.Bounded

theorem sendInv_step (hM : M.checked = false) (hO : O.IntAESLaws) (c : SendCall) (h : SendInv s) :
    SendInv (sendStep M O s c) := by
  intro herr
  obtain ⟨hs, hbounded⟩ := h (sendStep_errors_nil hM hO herr)
  rcases sendStep_cases hM hO c hs with ⟨-, hne⟩ | ⟨-, hquiet⟩
  · exact absurd herr hne
  · exact ⟨hquiet.crashed.trans hs, hquiet.bounded hbounded⟩

/-- **When nothing is torn unreported**: exactly in the runs all of whose calls report an error or send
    all they have to, up to the first error. -/
theorem sends_whole_iff (hM : M.checked = false) (hO : O.IntAESLaws) (server : CDTPServer)
    (client : CDTPClient) (calls : List SendCall) :
    Always (sendStep M O) (WholeUnlessReported M O) (startSending server client) calls ↔
      Along (sendStep M O) (SendOk M O) (startSending server client) calls := by
  refine @always_iff_along SendState SendCall (sendStep M O) SendInv (WholeUnlessReported M O)
    (SendOk M O) ?_ ?_ ?_ calls _ ?_ ?_
  · intro s c hinv hwhole hok herr
    have hbefore := sendStep_errors_nil hM hO herr
    rcases sendStep_cases hM hO c (hinv hbefore).1 with ⟨-, hne⟩ | ⟨hno, hquiet⟩
    · exact absurd herr hne
    · rcases hok with hne | hreports | hcomplete
      · exact absurd hbefore hne
      · exact absurd hreports hno
      · exact hquiet.whole hcomplete (hwhole hbefore)
  · intro s c hinv _ hnot hwhole
    obtain ⟨hbefore, hrest⟩ := not_or.mp hnot
    obtain ⟨hno, hincomplete⟩ := not_or.mp hrest
    have hbefore := not_ne_iff.mp hbefore
    obtain ⟨hs, hbounded⟩ := hinv hbefore
    rcases sendStep_cases hM hO c hs with ⟨hreports, -⟩ | ⟨-, hquiet⟩
    · exact hno hreports
    · have hw := hwhole (hquiet.errors.trans hbefore)
      rcases hquiet.tears hincomplete hbounded with ⟨sock, htorn⟩ | htorn
      · exact htorn.not_whole (hw.toClient sock)
      · exact htorn.not_whole hw.toServer
  · intro s c hinv
    exact sendInv_step hM hO c hinv
  · intro _
    exact ⟨rfl, fun _ => Nat.le_refl _, Nat.le_refl _⟩
  · intro _
    exact ⟨fun _ => Wire.empty_whole, Wire.empty_whole⟩

end Steps

end Calls

/-- Three bytes. -/
def smallPayload : Payload := { bytes := [1, 2, 3], size_lt := by decide }

/-- A server with two clients. -/
def twoClients : CDTPServer :=
  { demoStoring with clients := (demoStoring.clients.set 1 { sock := 5, key := demoKey }).2 }

/-- All three functions send them: one frame to the server, two to the first client, one to the second;
    and in the end a call that fails. -/
def smallCalls : List SendCall :=
  [.clientSend smallPayload (some fun _ => 0) (.accepted 37),
   .serverSend 0 smallPayload (some fun _ => 1) (.accepted 37),
   .serverSendAll smallPayload (fun _ => some fun _ => 2) (fun _ => .accepted 37),
   .clientSend smallPayload none (.accepted 37)]

/-- The frame is 37 bytes long, and accepted to its end wherever it is sent. -/
theorem sends_whole_iff_small :
    Always (sendStep plainMachine plainOpenSSL) (WholeUnlessReported plainMachine plainOpenSSL)
        (startSending twoClients demoClient) smallCalls ∧
      ((run (sendStep plainMachine plainOpenSSL) (startSending twoClients demoClient)
        smallCalls).toClient 4).bytes.length = 74 ∧
      ((run (sendStep plainMachine plainOpenSSL) (startSending twoClients demoClient)
        smallCalls).toClient 5).bytes.length = 37 := by
  have hsmall : CompleteSend smallPayload (.accepted 37) := ⟨by decide, 37, rfl, by decide⟩
  refine ⟨?_, by decide +kernel, by decide +kernel⟩
  refine (sends_whole_iff rfl plainOpenSSL_aesLaws.int twoClients demoClient smallCalls).mpr
    ⟨Or.inr (Or.inr hsmall), Or.inr (Or.inr hsmall), Or.inr (Or.inr fun _ _ => hsmall), ?_, trivial⟩
  -- no nonce can be made for the last call
  exact Or.inr (Or.inl (Or.inr (Or.inr fun _ h => absurd h (by simp))))

/-- `send` accepts 20 of the 37 bytes; nothing is reported, and the frame is torn. -/
theorem sends_torn :
    (sendStep plainMachine plainOpenSSL (startSending demoStart.server demoClient)
      (.clientSend smallPayload (some fun _ => 0) (.accepted 20))).errors = [] ∧
    (sendStep plainMachine plainOpenSSL (startSending demoStart.server demoClient)
      (.clientSend smallPayload (some fun _ => 0) (.accepted 20))).toServer.messages.length = 37 ∧
    (sendStep plainMachine plainOpenSSL (startSending demoStart.server demoClient)
      (.clientSend smallPayload (some fun _ => 0) (.accepted 20))).toServer.bytes.length = 20 ∧
    ¬ WholeUnlessReported plainMachine plainOpenSSL
      (sendStep plainMachine plainOpenSSL (startSending demoStart.server demoClient)
        (.clientSend smallPayload (some fun _ => 0) (.accepted 20))) := by
  have herrors : (sendStep plainMachine plainOpenSSL (startSending demoStart.server demoClient)
      (.clientSend smallPayload (some fun _ => 0) (.accepted 20))).errors = [] := by decide
  have hmessages : (sendStep plainMachine plainOpenSSL (startSending demoStart.server demoClient)
      (.clientSend smallPayload (some fun _ => 0) (.accepted 20))).toServer.messages.length = 37 := by
    decide
  have hbytes : (sendStep plainMachine plainOpenSSL (startSending demoStart.server demoClient)
      (.clientSend smallPayload (some fun _ => 0) (.accepted 20))).toServer.bytes.length = 20 := by
    decide
  refine ⟨herrors, hmessages, hbytes, fun hwhole => ?_⟩
  have hlen := congrArg List.length (hwhole herrors).toServer.bytes
  rw [hmessages, hbytes] at hlen
  exact absurd hlen (by decide)

end Cdtp
