/-
  What the parts of the serve loop do, each said once.

  `serverExchangeKeys_iff` says when the key exchange yields a key, `acceptConnection_cases` what becomes
  of an accepted connection, `clientTurn_cases` what a turn of a client does, and for the two pops of the
  client map `dropClient_some` and `removeClient_some`.  Everything later about runs of the loop is
  derived from these; here already `LoopInv`, what the loop can rely on at every step.
-/
import Cdtp.Server

namespace Cdtp

open CMem

/-! ## What the functions do -/

section Functions

variable {s : ServeState} {id : Nat} {client : CDTPSocket}

/-- A stored client is popped, closed and reported. -/
theorem dropClient_some (h : s.server.clients.get id = some client) :
    s.dropClient id
      = { s with server := { s.server with clients := (s.server.clients.pop id).2 },
                 closed := s.closed ++ [client.sock],
                 log := s.log ++ [.disconnect id s.server.onDisconnect] } := by
  have hpop := s.server.clients.pop_eq id
  rw [h] at hpop
  rw [ServeState.dropClient, Clients.contains_eq, h, if_pos Option.isSome_some,
    ServeState.disconnectSock, hpop]
  rfl

/-- A client that is gone is left alone. -/
theorem dropClient_none (h : s.server.clients.get id = none) : s.dropClient id = s := by
  rw [ServeState.dropClient, Clients.contains_eq, h]
  exact if_neg Bool.false_ne_true

theorem dropClient_accepted (s : ServeState) (id : Nat) : (s.dropClient id).accepted = s.accepted := by
  cases hget : s.server.clients.get id with
  | none => rw [dropClient_none hget]
  | some client => rw [dropClient_some hget]

/-- The loop goes on, and no socket was rejected. -/
theorem dropClient_status (s : ServeState) (id : Nat) :
    (s.dropClient id).status = s.status ∧ (s.dropClient id).rejected = s.rejected := by
  cases hget : s.server.clients.get id with
  | none =>
    rw [dropClient_none hget]
    exact ⟨rfl, rfl⟩
  | some client =>
    rw [dropClient_some hget]
    exact ⟨rfl, rfl⟩

/-- A removal pops the client, whether or not its descriptor can be closed. -/
theorem removeClient_some (hserving : s.server.serving = true)
    (h : s.server.clients.get id = some client) (closeOk : Bool) :
    ∃ errors, (∀ e ∈ errors, e ∈ s.errors ∨ e = .CDTP_CLIENT_REMOVE_FAILED) ∧
      s.removeClient id closeOk
        = { s with server := { s.server with clients := (s.server.clients.pop id).2 },
                   log := s.log ++ [.removed id], closed := s.closed ++ [client.sock],
                   errors := errors } := by
  have hpop := s.server.clients.pop_eq id
  rw [h] at hpop
  rw [ServeState.removeClient, hserving, if_neg Bool.noConfusion, hpop]
  cases closeOk with
  | false => exact ⟨s.errors ++ [.CDTP_CLIENT_REMOVE_FAILED], by simp, rfl⟩
  | true => exact ⟨s.errors, fun _ he => .inl he, rfl⟩

/-- A client that is not there: an error is reported, and the table may have shrunk. -/
theorem removeClient_none (hserving : s.server.serving = true)
    (h : s.server.clients.get id = none) (closeOk : Bool) :
    s.removeClient id closeOk
      = { s with server := { s.server with clients := (s.server.clients.pop id).2 },
                 errors := s.errors ++ [.CDTP_CLIENT_DOES_NOT_EXIST] } := by
  have hpop := s.server.clients.pop_eq id
  rw [h] at hpop
  rw [ServeState.removeClient, hserving, if_neg Bool.noConfusion, hpop]

end Functions

section Exchange

variable {Ctx PKey : Type} {M : Machine} {O : OpenSSL Ctx PKey}

/-! ## When the key exchange succeeds -/

/-- The secret that the peer's reply decrypts to: the server's message is sent, the reply's frame
    arrives with a body as long as it announces, and the decryption gives `d`. -/
def ExchangeSecret (M : Machine) (O : OpenSSL Ctx PKey) (io : ServerExchange PKey)
    (d : CryptoData) : Prop :=
  ∃ keys message reply size, serverKeyMessage M O io.rsaGen = .ok (keys, message) ∧
    io.sendFailed = false ∧ readFrame M io.header io.body = some (reply, size) ∧
    cryptoRsaDecrypt M O keys.privateKey reply size = .ok (some d)

/-- A copy fills its destination in place. -/
theorem memcpy_length {dst src out : Bytes} {dstOff srcOff count : Nat}
    (h : memcpy M dst dstOff src srcOff count = .ok out) : out.length = dst.length := by
  unfold memcpy at h
  split at h
  · exact absurd h (by simp)
  · split at h
    · exact absurd h (by simp)
    · rw [← Except.ok.inj h, splice_length]

/-- Unpadded data are as long as they say. -/
theorem dropFront_length {q d : CryptoData} {n : Nat} (h : dropFront M q n = .ok d) :
    d.data.length = d.dataSize := by
  obtain ⟨rest, -, h⟩ := bind_eq_ok_iff.mp h
  obtain ⟨out, hout, h⟩ := bind_eq_ok_iff.mp h
  have hlen := memcpy_length hout
  rw [malloc_length] at hlen
  rw [← Except.ok.inj h]
  exact hlen

/-- The size of a plaintext is that of its buffer … -/
theorem plaintextFrom_length {update : Ctx → Bytes → Option (Bytes × Ctx)}
    {final : Ctx → Option Bytes} {ctx : Ctx} {input : Bytes} {size : Nat} {d : CryptoData}
    (h : plaintextFrom M update final ctx input size = .ok (some d)) :
    d.data.length = d.dataSize := by
  obtain ⟨r, -, h⟩ := bind_eq_ok_iff.mp h
  rcases r with _ | ⟨out, len⟩
  · exact absurd h (by simp)
  · obtain ⟨copy, -, h⟩ := bind_eq_ok_iff.mp h
    obtain ⟨plain, hplain, h⟩ := bind_eq_ok_iff.mp h
    obtain ⟨marker, -, hplain⟩ := bind_eq_ok_iff.mp hplain
    rw [← Option.some.inj (Except.ok.inj h)]
    split at hplain
    · exact dropFront_length hplain
    · exact dropFront_length hplain

/-- … so it is that of a secret, too. -/
theorem cryptoRsaDecrypt_length {privateKey : RSAPrivateKey} {body : Bytes} {size : Nat}
    {d : CryptoData} (h : cryptoRsaDecrypt M O privateKey body size = .ok (some d)) :
    d.data.length = d.dataSize := by
  obtain ⟨key, -, h⟩ := bind_eq_ok_iff.mp h
  obtain ⟨e, -, h⟩ := bind_eq_ok_iff.mp h
  rw [rsaOpen_eq_with] at h
  unfold decryptWith at h
  split at h
  · exact absurd h (by simp)
  · exact plaintextFrom_length h

/-- **The key exchange** yields a key iff the reply decrypts to a secret; the key is that secret, of
    whatever size. -/
theorem serverExchangeKeys_iff {io : ServerExchange PKey} {key : AESKey} :
    serverExchangeKeys M O io = .ok (some key) ↔
      ∃ d, ExchangeSecret M O io d ∧ key = { key := d.data, keySize := d.dataSize } := by
  have hfrom : ∀ d : CryptoData, d.data.length = d.dataSize →
      cryptoAesKeyFrom M d.data d.dataSize = .ok { key := d.data, keySize := d.dataSize } := by
    intro d hd
    rw [← hd]
    exact cryptoAesKeyFrom_eq
  constructor
  · -- each statement of the exchange has succeeded, in the order of the source
    intro h
    obtain ⟨⟨keys, message⟩, hmsg, hrest⟩ := bind_eq_ok_iff.mp h
    have hsend : io.sendFailed = false := by
      cases hs : io.sendFailed with
      | false => rfl
      | true => simp [hs] at hrest
    have hreceive := serverExchangeKeys_eq hmsg h
    unfold serverReceiveKey at hreceive
    cases hframe : readFrame M io.header io.body with
    | none =>
      rw [hframe] at hreceive
      exact absurd hreceive (by simp)
    | some frame =>
      obtain ⟨reply, size⟩ := frame
      rw [hframe] at hreceive
      obtain ⟨r, hr, hreceive⟩ := bind_eq_ok_iff.mp hreceive
      cases r with
      | none => exact absurd hreceive (by simp)
      | some d =>
        rw [deref_some, ok_bind, hfrom d (cryptoRsaDecrypt_length hr), ok_bind] at hreceive
        exact ⟨d, ⟨keys, message, reply, size, hmsg, hsend, hframe, hr⟩,
          (Option.some.inj (Except.ok.inj hreceive)).symm⟩
  · rintro ⟨d, ⟨keys, message, reply, size, hmsg, hsend, hframe, hdec⟩, rfl⟩
    rw [serverExchangeKeys, hmsg, ok_bind, hsend]
    show serverReceiveKey M O keys io.header io.body = _
    rw [serverReceiveKey, hframe]
    show (cryptoRsaDecrypt M O keys.privateKey reply size >>= _) = _
    rw [hdec, ok_bind, deref_some, ok_bind, hfrom d (cryptoRsaDecrypt_length hdec)]
    rfl

/-! ## What the accept part does -/

variable {s : ServeState}

/-- The state after an id has been given to the accepted descriptor. -/
def ServeState.allocated (s : ServeState) (sock : Nat) : ServeState :=
  { s with server := (serverNewClientId s.server).2,
           accepted := s.accepted ++ [(s.server.nextClientId, sock)] }

/-- An accepted connection is admitted, or the loop is over. -/
theorem acceptConnection_cases (c : Connection PKey) (O : OpenSSL Ctx PKey) :
    (∃ d, c.blockingOk = true ∧ c.nonBlockingOk = true ∧ ExchangeSecret M O c.exchange d ∧
      s.acceptConnection M O c
        = ((s.allocated c.sock).addClient s.server.nextClientId
            { sock := c.sock, key := { key := d.data, keySize := d.dataSize } }).snapshot) ∨
    (¬ (c.blockingOk = true ∧ c.nonBlockingOk = true ∧ ∃ d, ExchangeSecret M O c.exchange d) ∧
      ∃ status rejected errors, status ≠ .running ∧
        (∀ e ∈ errors, e ∈ s.errors ∨ e = .CDTP_SOCKET_ACCEPT_FAILED ∨
          e = .CDTP_SERVER_KEY_EXCHANGE_FAILED) ∧
        s.acceptConnection M O c
          = { s.allocated c.sock with status := status, rejected := rejected, errors := errors }) := by
  have hpush : ∀ x : CDTPError, x = .CDTP_SOCKET_ACCEPT_FAILED ∨ x = .CDTP_SERVER_KEY_EXCHANGE_FAILED →
      ∀ e ∈ s.errors ++ [x], e ∈ s.errors ∨ e = .CDTP_SOCKET_ACCEPT_FAILED ∨
        e = .CDTP_SERVER_KEY_EXCHANGE_FAILED := by
    intro x hx e he
    rcases List.mem_append.mp he with he | he
    · exact .inl he
    · rw [List.mem_singleton.mp he]
      exact .inr hx
  -- the cases are the tests of the source, in its order
  simp only [ServeState.acceptConnection]
  cases hb : c.blockingOk with
  | false =>
    exact .inr ⟨fun h => absurd h.1 (by simp), .returned, s.rejected,
      s.errors ++ [.CDTP_SOCKET_ACCEPT_FAILED], Status.noConfusion, hpush _ (.inl rfl), rfl⟩
  | true =>
    rw [if_neg Bool.noConfusion]
    have hno : (∀ key, serverExchangeKeys M O c.exchange ≠ .ok (some key)) →
        ¬ (true = true ∧ c.nonBlockingOk = true ∧ ∃ d, ExchangeSecret M O c.exchange d) := by
      rintro hnone ⟨-, -, d, hd⟩
      exact hnone _ (serverExchangeKeys_iff.mpr ⟨d, hd, rfl⟩)
    cases hx : serverExchangeKeys M O c.exchange with
    | error e =>
      refine .inr ⟨hno ?_, .crashed, s.rejected, s.errors, Status.noConfusion, fun _ he => .inl he, rfl⟩
      rw [hx]
      exact fun key h => absurd h (by simp)
    | ok r =>
      cases r with
      | none =>
        refine .inr ⟨hno ?_, .returned, s.rejected ++ [c.sock],
          s.errors ++ [.CDTP_SERVER_KEY_EXCHANGE_FAILED], Status.noConfusion, hpush _ (.inr rfl), rfl⟩
        rw [hx]
        exact fun key h => absurd (Except.ok.inj h) (by simp)
      | some key =>
        cases hn : c.nonBlockingOk with
        | false =>
          exact .inr ⟨fun h => absurd h.2.1 (by simp), .returned, s.rejected,
            s.errors ++ [.CDTP_SOCKET_ACCEPT_FAILED], Status.noConfusion, hpush _ (.inl rfl), rfl⟩
        | true =>
          obtain ⟨d, hd, rfl⟩ := serverExchangeKeys_iff.mp hx
          exact .inl ⟨d, rfl, rfl, hd, rfl⟩

/-! ## What a turn of a client does -/

/-- The second read of a turn is one that the loop survives: its only error is EBADF, and if it finds
    anything, then all `n` bytes, which decrypt if there is a callback to give them to. -/
def BodyHandled (M : Machine) (O : OpenSSL Ctx PKey) (s : ServeState) (client : CDTPSocket) (n : Nat)
    (body : ReadResult) : Prop :=
  (body.code n = -1 → body.errno = .EBADF) ∧
  (body.code n ≠ -1 → body.code n ≠ 0 → ofInt (body.code n) = n ∧
    (s.server.onRecv = true → ∃ d,
      cryptoAesDecrypt M O client.key (splice (malloc M n) 0 (body.got n)) n = .ok (some d)))

/-- So are both reads. -/
def TurnHandled (M : Machine) (O : OpenSSL Ctx PKey) (s : ServeState) (client : CDTPSocket)
    (header body : ReadResult) : Prop :=
  (header.code CDTP_LENSIZE = -1 →
    header.errno = .EBADF ∨ header.errno.againOrWouldBlock = true) ∧
  (header.code CDTP_LENSIZE ≠ -1 → header.code CDTP_LENSIZE ≠ 0 →
    BodyHandled M O s client (announced s.sizeBuffer header) body)

/-- `_cdtp_server_call_on_recv` returns iff nobody is listening or the body decrypts. -/
theorem serverCallOnRecv_iff {server : CDTPServer} {id : Nat} {client : CDTPSocket}
    (hget : server.clients.get id = some client) {data : Bytes} {size : Nat} :
    (∃ payload, serverCallOnRecv M O server id data size = .ok payload) ↔
      (server.onRecv = true → ∃ d, cryptoAesDecrypt M O client.key data size = .ok (some d)) := by
  unfold serverCallOnRecv
  cases server.onRecv with
  | false => exact ⟨fun _ h => absurd h (by simp), fun _ => ⟨none, rfl⟩⟩
  | true =>
    rw [if_pos rfl, hget, deref_some, ok_bind]
    constructor
    · rintro ⟨payload, h⟩ _
      obtain ⟨r, hr, h⟩ := bind_eq_ok_iff.mp h
      cases r with
      | none => exact absurd h (by simp)
      | some d => exact ⟨d, hr⟩
    · intro h
      obtain ⟨d, hd⟩ := h rfl
      exact ⟨some d, by rw [hd]; rfl⟩

/-- A body is logged with what the callback was given. -/
theorem react_frame_ok {id n : Nat} {buffer : Bytes} {payload : Option CryptoData}
    (h : serverCallOnRecv M O s.server id buffer n = .ok payload) :
    s.react M O id (.frame buffer n) = { s with log := s.log ++ [.recv id buffer payload] } := by
  rw [ServeState.react, h]

/-- One that does not decrypt is logged, and the loop is over. -/
theorem react_frame_error {id n : Nat} {buffer : Bytes} {e : Fault}
    (h : serverCallOnRecv M O s.server id buffer n = .error e) :
    s.react M O id (.frame buffer n)
      = { s with log := s.log ++ [.recv id buffer none], status := .crashed } := by
  rw [ServeState.react, h]

/-- **One turn**: if its reads are handled, the client is dropped, or nothing happens, or a body is
    received; if they are not, the loop is over. -/
theorem clientTurn_cases {id : Nat} {client : CDTPSocket}
    (hget : s.server.clients.get id = some client) (header body : ReadResult) :
    (TurnHandled M O s client header body ∧
      (s.clientTurn M O id header body = (s.buffered header).dropClient id ∨
        s.clientTurn M O id header body = s.buffered header ∨
        ∃ buffer payload, s.clientTurn M O id header body
          = { s.buffered header with log := s.log ++ [.recv id buffer payload] })) ∨
    (¬ TurnHandled M O s client header body ∧
      ∃ log status errors, status ≠ .running ∧
        (log = s.log ∨ ∃ buffer, log = s.log ++ [.recv id buffer none]) ∧
        s.clientTurn M O id header body
          = { s.buffered header with log := log, status := status, errors := errors }) := by
  -- the nested cases follow the branches of the loop, from the header read to the body
  by_cases h0 : header.code CDTP_LENSIZE = 0
  · have hfound : receive M s.sizeBuffer header body = .headerEnd := if_pos h0
    refine .inl ⟨⟨fun h => by rw [h0] at h; exact absurd h (by decide), fun _ h => absurd h0 h⟩, .inl ?_⟩
    rw [ServeState.clientTurn, hfound]
    rfl
  · by_cases h1 : header.code CDTP_LENSIZE = -1
    · have hfound : receive M s.sizeBuffer header body = .headerError header.errno := by
        rw [receive, if_neg h0, if_pos h1]
      rw [ServeState.clientTurn, hfound]
      by_cases hbad : header.errno = .EBADF
      · exact .inl ⟨⟨fun _ => .inl hbad, fun h => absurd h1 h⟩, .inl (if_pos hbad)⟩
      · by_cases hagain : header.errno.againOrWouldBlock = true
        · refine .inl ⟨⟨fun _ => .inr hagain, fun h => absurd h1 h⟩, .inr (.inl ?_)⟩
          exact (if_neg hbad).trans (if_pos hagain)
        · refine .inr ⟨fun h => (h.1 h1).elim hbad hagain, s.log, .returned,
            s.errors ++ [.CDTP_SERVER_RECV_FAILED], Status.noConfusion, .inl rfl, ?_⟩
          exact (if_neg hbad).trans (if_neg hagain)
    · have hreceive : receive M s.sizeBuffer header body
          = receiveBody M (announced s.sizeBuffer header) body := by
        rw [receive, if_neg h0, if_neg h1]
        rfl
      -- from here on only the second read decides
      have hturn : TurnHandled M O s client header body ↔
          BodyHandled M O s client (announced s.sizeBuffer header) body :=
        ⟨fun h => h.2 h1 h0, fun h => ⟨fun h' => absurd h' h1, fun _ _ => h⟩⟩
      rw [hturn]
      generalize announced s.sizeBuffer header = n at hreceive ⊢
      by_cases hb1 : body.code n = -1
      · have hfound : receive M s.sizeBuffer header body = .bodyError body.errno := by
          rw [hreceive, receiveBody, if_pos hb1]
        rw [ServeState.clientTurn, hfound]
        -- EAGAIN is no exception here: a body that is late ends the loop
        by_cases hbad : body.errno = .EBADF
        · exact .inl ⟨⟨fun _ => hbad, fun h => absurd hb1 h⟩, .inl (if_pos hbad)⟩
        · refine .inr ⟨fun h => hbad (h.1 hb1), s.log, .returned,
            s.errors ++ [.CDTP_SERVER_RECV_FAILED], Status.noConfusion, .inl rfl, ?_⟩
          exact (if_neg hbad).trans rfl
      · by_cases hb0 : body.code n = 0
        · have hfound : receive M s.sizeBuffer header body = .bodyEnd := by
            rw [hreceive, receiveBody, if_neg hb1, if_pos hb0]
          rw [ServeState.clientTurn, hfound]
          exact .inl ⟨⟨fun h => absurd h hb1, fun _ h => absurd hb0 h⟩, .inl rfl⟩
        · by_cases hn : ofInt (body.code n) = n
          -- all that was announced is there: only the decryption can still fail
          · have hfound : receive M s.sizeBuffer header body
                = .frame (splice (malloc M n) 0 (body.got n)) n := by
              rw [hreceive, receiveBody, if_neg hb1, if_neg hb0, if_neg (fun h => h hn)]
            have hbody : BodyHandled M O s client n body ↔ ∃ payload,
                serverCallOnRecv M O s.server id (splice (malloc M n) 0 (body.got n)) n
                  = .ok payload := by
              rw [serverCallOnRecv_iff hget]
              exact ⟨fun h => (h.2 hb1 hb0).2, fun h => ⟨fun h' => absurd h' hb1, fun _ _ => ⟨hn, h⟩⟩⟩
            rw [ServeState.clientTurn, hfound, hbody]
            cases hcall : serverCallOnRecv M O s.server id (splice (malloc M n) 0 (body.got n)) n with
            | ok payload =>
              exact .inl ⟨⟨payload, rfl⟩, .inr (.inr ⟨_, payload, @react_frame_ok Ctx PKey M O
                (s.buffered header) id n _ payload hcall⟩)⟩
            | error e =>
              have hnone : ¬ ∃ payload, Except.error e = (.ok payload : Run (Option CryptoData)) := by
                rintro ⟨payload, h⟩
                cases h
              refine .inr ⟨hnone,
                s.log ++ [.recv id (splice (malloc M n) 0 (body.got n)) none], .crashed, s.errors,
                Status.noConfusion, .inr ⟨_, rfl⟩, ?_⟩
              exact @react_frame_error Ctx PKey M O (s.buffered header) id n _ e hcall
          · have hfound : receive M s.sizeBuffer header body = .short := by
              rw [hreceive, receiveBody, if_neg hb1, if_neg hb0, if_pos hn]
            rw [ServeState.clientTurn, hfound]
            exact .inr ⟨fun h => hn (h.2 hb1 hb0).1, s.log, .returned,
              s.errors ++ [.CDTP_SERVER_RECV_FAILED], Status.noConfusion, .inl rfl, rfl⟩

end Exchange

/-! ## The invariant of the loop itself -/

/-- What the loop can rely on at every step: the server is serving, and the clients still to come are
    the stored ones, each once. -/
structure LoopInv (s : ServeState) : Prop where
  serving : s.server.serving = true
  buffer : s.sizeBuffer.length = CDTP_LENSIZE
  todo_get : ∀ id sock, (id, sock) ∈ s.todo → s.server.clients.get id = some sock
  todo_nodup : (s.todo.map Prod.fst).Nodup

/-- The loop begins with an empty snapshot. -/
theorem Fresh.loopInv {s : ServeState} (h : Fresh s) : LoopInv s where
  serving := h.serving
  buffer := h.sizeBuffer
  todo_get id sock hm := by
    rw [h.todo] at hm
    exact absurd hm (by simp)
  todo_nodup := by
    rw [h.todo]
    exact List.nodup_nil

/-- A snapshot has the stored clients, each once. -/
theorem loopInv_snapshot {s : ServeState} (hserving : s.server.serving = true)
    (hbuffer : s.sizeBuffer.length = CDTP_LENSIZE) : LoopInv s.snapshot where
  serving := hserving
  buffer := hbuffer
  todo_get _ _ hm := s.server.clients.mem_iter_iff.mp hm
  todo_nodup := s.server.clients.iter_nodup

/-- Dropping a client that is not still to come. -/
theorem loopInv_dropClient {s : ServeState} (h : LoopInv s) {id : Nat}
    (hid : id ∉ s.todo.map Prod.fst) : LoopInv (s.dropClient id) := by
  cases hget : s.server.clients.get id with
  | none =>
    rw [dropClient_none hget]
    exact h
  | some client =>
    rw [dropClient_some hget]
    refine ⟨h.serving, h.buffer, ?_, h.todo_nodup⟩
    intro id' sock hm
    have hne : id' ≠ id := by
      rintro rfl
      exact hid (List.mem_map_of_mem hm)
    show (s.server.clients.pop id).2.get id' = some sock
    rw [Clients.get_pop, Function.update_of_ne hne]
    exact h.todo_get id' sock hm

section Step

variable {Ctx PKey : Type} {M : Machine} {s : ServeState}

/-- It is taken when `accept` would block … -/
theorem loopInv_acceptError (h : LoopInv s) (e : Errno) : LoopInv (s.acceptError e) := by
  unfold ServeState.acceptError
  split
  · exact loopInv_snapshot h.serving h.buffer
  · split
    · exact ⟨h.serving, h.buffer, h.todo_get, h.todo_nodup⟩
    · exact ⟨h.serving, h.buffer, h.todo_get, h.todo_nodup⟩

/-- … and when a client was admitted. -/
theorem loopInv_acceptConnection (h : LoopInv s) (c : Connection PKey) (O : OpenSSL Ctx PKey) :
    LoopInv (s.acceptConnection M O c) := by
  rcases @acceptConnection_cases Ctx PKey M s c O with
    ⟨d, -, -, -, hs⟩ | ⟨-, status, rejected, errors, -, -, hs⟩
  · rw [hs]
    exact loopInv_snapshot h.serving h.buffer
  · rw [hs]
    exact ⟨h.serving, h.buffer, h.todo_get, h.todo_nodup⟩

/-- A read leaves the header buffer its length. -/
theorem loopInv_buffered (h : LoopInv s) (header : ReadResult) : LoopInv (s.buffered header) :=
  ⟨h.serving, by rw [ServeState.buffered, splice_length]; exact h.buffer, h.todo_get, h.todo_nodup⟩

/-- A turn looks at a client that is not still to come. -/
theorem loopInv_clientTurn (h : LoopInv s) {id : Nat} {client : CDTPSocket}
    (hget : s.server.clients.get id = some client) (hid : id ∉ s.todo.map Prod.fst)
    (header body : ReadResult) (O : OpenSSL Ctx PKey) :
    LoopInv (s.clientTurn M O id header body) := by
  have hb := loopInv_buffered h header
  rcases @clientTurn_cases Ctx PKey M O s id client hget header body with
    ⟨-, hs | hs | ⟨buffer, payload, hs⟩⟩ | ⟨-, log, status, errors, -, -, hs⟩
  · rw [hs]
    exact loopInv_dropClient hb hid
  · rw [hs]
    exact hb
  · rw [hs]
    exact ⟨hb.serving, hb.buffer, hb.todo_get, hb.todo_nodup⟩
  · rw [hs]
    exact ⟨hb.serving, hb.buffer, hb.todo_get, hb.todo_nodup⟩

/-- A removal comes between two iterations. -/
theorem loopInv_removeClient (h : LoopInv s) (htodo : s.todo = []) (id : Nat) (closeOk : Bool) :
    LoopInv (s.removeClient id closeOk) := by
  -- between two iterations nobody is still to come, so any client may go
  have hget : ∀ (clients : Clients CDTPSocket) id' sock, (id', sock) ∈ s.todo →
      clients.get id' = some sock := by
    intro clients id' sock hm
    rw [htodo] at hm
    exact absurd hm (by simp)
  cases hg : s.server.clients.get id with
  | none =>
    rw [removeClient_none h.serving hg]
    exact ⟨h.serving, h.buffer, hget _, h.todo_nodup⟩
  | some client =>
    obtain ⟨errors, -, hr⟩ := removeClient_some h.serving hg closeOk
    rw [hr]
    exact ⟨h.serving, h.buffer, hget _, h.todo_nodup⟩

/-- The client of a turn is stored, and not among those still to come. -/
theorem LoopInv.turn {id : Nat} {sock : CDTPSocket} {rest : List (Nat × CDTPSocket)}
    (h : LoopInv s) (htodo : s.todo = (id, sock) :: rest) :
    LoopInv { s with todo := rest } ∧ id ∉ rest.map Prod.fst ∧
      s.server.clients.get id = some sock := by
  have hnodup := h.todo_nodup
  rw [htodo, List.map_cons, List.nodup_cons] at hnodup
  refine ⟨⟨h.serving, h.buffer, ?_, hnodup.2⟩, hnodup.1, ?_⟩
  · intro id' sock' hm
    exact h.todo_get id' sock' (by rw [htodo]; exact List.mem_cons_of_mem _ hm)
  · exact h.todo_get id sock (by rw [htodo]; exact List.mem_cons_self)

/-- Every step keeps the invariant of the loop. -/
theorem serveStep_loopInv (h : LoopInv s) (i : ServeInput Ctx PKey) : LoopInv (serveStep M s i) := by
  unfold serveStep
  split
  · rw [h.serving, if_neg Bool.noConfusion]
    exact loopInv_acceptError h _
  · rw [h.serving, if_neg Bool.noConfusion]
    exact loopInv_acceptConnection h _ _
  · rename_i id sock rest header body O hstatus htodo
    obtain ⟨hrest, hid, hget⟩ := h.turn htodo
    exact loopInv_clientTurn hrest hget hid header body O
  · rename_i id closeOk hstatus htodo
    exact loopInv_removeClient h htodo id closeOk
  · exact h

end Step

end Cdtp
