/-
  `cdtp_server_send_all` reaches exactly the connected clients.

  The loop walks a snapshot of the map and calls `cdtp_server_send` with each id, which looks the client
  up a second time.  The snapshot lists every id once (`Clients.iter_nodup`), and the lookup finds the
  socket that is listed (`Clients.mem_iter_iff`); no round changes the map, so what the next rounds find
  does not depend on how `send` answered in this one.

  `serverSendAllLogged` is the loop with its calls of `send` on record, also of those that fail.  The
  record is tied to the state twice over: a wire gets what `send` has accepted of the messages on record
  for its socket and nothing else, and an error is reported for every call on record that fails.
-/
import Cdtp.Sending
import Cdtp.ServerStop

namespace Cdtp

open CMem

/-! ## The calls of `send` -/

/-- A call of `send`: the client it is made for, the socket, and the message. -/
structure Submission where
  clientId : Nat
  sock : Nat
  message : Bytes
  deriving DecidableEq, Repr

section Functions

variable {Ctx PKey : Type}

/-- The call of `send` in `cdtp_server_send`, if it gets there. -/
def serverSubmission (M : Machine) (O : OpenSSL Ctx PKey) (server : CDTPServer)
    (rand : Option (Nat → UInt8)) (clientId : Nat) (data : Payload) : Option Submission :=
  match serverSend M O server rand clientId data.bytes data.bytes.length with
  | .ok (.ok (sock, message)) => some { clientId := clientId, sock := sock, message := message }
  | _ => none

/-- One round of the loop in `cdtp_server_send_all`. -/
def submitRound (M : Machine) (O : OpenSSL Ctx PKey) (data : Payload) (rand : Nat → Option (Nat → UInt8))
    (result : Nat → SendResult) (r : List Submission × SendState) (c : Nat × CDTPSocket) :
    List Submission × SendState :=
  (r.1 ++ (if r.2.crashed then none
      else serverSubmission M O r.2.server (rand c.1) c.1 data).toList,
    r.2.serverSend M O c.1 data (rand c.1) (result c.1))

/-- `cdtp_server_send_all`, with its calls of `send`. -/
def SendState.serverSendAllLogged (M : Machine) (O : OpenSSL Ctx PKey) (s : SendState)
    (data : Payload) (rand : Nat → Option (Nat → UInt8)) (result : Nat → SendResult) :
    List Submission × SendState :=
  if s.crashed then ([], s)
  else if s.server.serving = false then ([], s.report .CDTP_SERVER_NOT_SERVING)
  else s.server.clients.iter.foldl (submitRound M O data rand result) ([], s)

theorem submitRounds_snd {M : Machine} {O : OpenSSL Ctx PKey} {data : Payload}
    {rand : Nat → Option (Nat → UInt8)} {result : Nat → SendResult} (cs : List (Nat × CDTPSocket)) :
    ∀ r : List Submission × SendState, (cs.foldl (submitRound M O data rand result) r).2
      = cs.foldl (fun s c => s.serverSend M O c.1 data (rand c.1) (result c.1)) r.2 := by
  induction cs with
  | nil => intro r; rfl
  | cons c cs ih => intro r; exact ih _

/-- The record changes nothing. -/
theorem serverSendAllLogged_snd (M : Machine) (O : OpenSSL Ctx PKey) (s : SendState)
    (data : Payload) (rand : Nat → Option (Nat → UInt8)) (result : Nat → SendResult) :
    (s.serverSendAllLogged M O data rand result).2 = s.serverSendAll M O data rand result := by
  rw [SendState.serverSendAllLogged, SendState.serverSendAll]
  by_cases hcrashed : s.crashed = true
  · rw [if_pos hcrashed, if_pos hcrashed]
  rw [if_neg hcrashed, if_neg hcrashed]
  by_cases hserving : s.server.serving = false
  · rw [if_pos hserving, if_pos hserving]
  · rw [if_neg hserving, if_neg hserving]
    exact submitRounds_snd s.server.clients.iter ([], s)

/-- The front of a message that `send` accepts. -/
def SendResult.taken : SendResult → Bytes → Bytes
  | .failed, _ => []
  | .accepted k, message => message.take k

/-- What `cdtp_server_send_all` does, from `s` to `s'`: one call of `send` for each client, on its socket,
    with a frame that its key decrypts to the payload; one error for each call that failed. -/
structure SentToAll (O : OpenSSL Ctx PKey) (s : SendState) (data : Payload)
    (result : Nat → SendResult) (log : List Submission) (s' : SendState) : Prop where
  once : (log.map (·.clientId)).Nodup
  clients : ∀ id, id ∈ log.map (·.clientId) ↔ s.server.clients.get id ≠ none
  frames : ∀ e ∈ log, ∃ client, s.server.clients.get e.clientId = some client ∧
    e.sock = client.sock ∧ ∀ M : Machine, FrameOf M O client.key data.bytes e.message
  errors : s'.errors = s.errors ++ List.replicate (log.countP fun e => result e.clientId == .failed)
    .CDTP_SERVER_SEND_FAILED
  server : s'.server = s.server
  crashed : s'.crashed = false
  /-- every wire gets what `send` accepted of the frames submitted to its socket, and no other byte -/
  accepted : ∀ sock, (s'.toClient sock).bytes = (s.toClient sock).bytes ++
    (log.filter fun e => e.sock = sock).flatMap fun e => (result e.clientId).taken e.message
  /-- nothing is put on a wire that is no client's -/
  wires : ∀ sock, sock ∉ log.map (·.sock) → s'.toClient sock = s.toClient sock

end Functions

/-! ## One round -/

section Rounds

variable {Ctx PKey : Type} {M : Machine} {O : OpenSSL Ctx PKey} {s : SendState} {data : Payload}
  {rand : Nat → Option (Nat → UInt8)} {result : Nat → SendResult} {c : Nat × CDTPSocket}

/-- `cdtp_server_send` gets to its call of `send`, with a frame of the payload for this client. -/
def Submits (M : Machine) (O : OpenSSL Ctx PKey) (server : CDTPServer) (data : Payload)
    (rand : Nat → Option (Nat → UInt8)) (c : Nat × CDTPSocket) : Prop :=
  ∃ message, serverSend M O server (rand c.1) c.1 data.bytes data.bytes.length
      = .ok (.ok (c.2.sock, message)) ∧
    ∀ M' : Machine, FrameOf M' O c.2.key data.bytes message

/-- It does for every client with a full key, unless encryption fails. -/
theorem submits_of_client (hM : M.checked = false) (hO : O.IntAESLaws)
    (hserving : s.server.serving = true) (hget : s.server.clients.get c.1 = some c.2)
    (hkey : c.2.key.Full) (hsize : data.bytes.length < 2 ^ 31 - 33) {r : Nat → UInt8}
    (hrand : rand c.1 = some r)
    (henc : O.encrypt c.2.key.key (nonceOf r) (padded data.bytes) ≠ none) :
    Submits M O s.server data rand c := by
  have hpad := padded_length_le_of_lt hsize
  obtain ⟨b, henc⟩ := Option.ne_none_iff_exists'.mp henc
  have hlen := hO.length c.2.key.key (nonceOf r) (padded data.bytes) b hkey.2 (nonceOf_length r)
    (by omega) henc
  have hdec := hO.decrypt c.2.key.key (nonceOf r) (padded data.bytes) b hkey.2 (nonceOf_length r)
    (by omega) henc
  rw [← @aesKeyBytes_full M c.2.key hkey] at henc
  refine ⟨constructMessage M (nonceOf r ++ b) (nonceOf r ++ b).length, ?_, fun M' => ?_⟩
  · rw [serverSend, if_neg (ne_false_of_eq_true hserving)]
    simp only [hget, hrand]
    rw [cryptoAesEncrypt_eq hM hsize henc hlen]
    rfl
  · refine frameOf_padded hsize hlen ?_
    rw [aesKeyBytes_full hkey]
    exact hdec

/-- What a round does that gets to `send`: the call is on record, and a failure is reported. -/
theorem submitRound_eq (hs : s.crashed = false) {message : Bytes} (log : List Submission)
    (hsend : serverSend M O s.server (rand c.1) c.1 data.bytes data.bytes.length
      = .ok (.ok (c.2.sock, message))) :
    ∃ s', submitRound M O data rand result (log, s) c
        = (log ++ [{ clientId := c.1, sock := c.2.sock, message := message }], s') ∧
      s'.errors = s.errors ++ (if result c.1 = .failed then [.CDTP_SERVER_SEND_FAILED] else []) ∧
      s'.server = s.server ∧ s'.crashed = false ∧
      (∀ sock, sock ≠ c.2.sock → s'.toClient sock = s.toClient sock) ∧
      (s'.toClient c.2.sock).bytes
        = (s.toClient c.2.sock).bytes ++ (result c.1).taken message := by
  have hlive : ¬ s.crashed = true := ne_true_of_eq_false hs
  rw [submitRound]
  show ∃ s', (log ++ (if s.crashed then none
      else serverSubmission M O s.server (rand c.1) c.1 data).toList,
    s.serverSend M O c.1 data (rand c.1) (result c.1)) = _ ∧ _
  rw [if_neg hlive, serverSubmission, SendState.serverSend, if_neg hlive]
  simp only [hsend]
  rcases hresult : result c.1 with _ | k
  · exact ⟨_, rfl, rfl, rfl, hs, fun _ _ => rfl, (List.append_nil _).symm⟩
  · refine ⟨_, rfl, ?_, rfl, hs, fun sock hne => acceptToClient_of_ne s _ k hne, ?_⟩
    · rw [if_neg (by simp)]
      exact (List.append_nil s.errors).symm
    · rw [acceptToClient_self]
      rfl

/-! ## The loop -/

/-- The calls of `send` for the clients `cs`, as long as the map stays as it is. -/
def submissions (M : Machine) (O : OpenSSL Ctx PKey) (server : CDTPServer) (data : Payload)
    (rand : Nat → Option (Nat → UInt8)) (cs : List (Nat × CDTPSocket)) : List Submission :=
  cs.filterMap fun c => serverSubmission M O server (rand c.1) c.1 data

variable {server : CDTPServer}

theorem submissions_cons {cs : List (Nat × CDTPSocket)} {message : Bytes}
    (hsend : serverSend M O server (rand c.1) c.1 data.bytes data.bytes.length
      = .ok (.ok (c.2.sock, message))) :
    submissions M O server data rand (c :: cs)
      = { clientId := c.1, sock := c.2.sock, message := message } ::
        submissions M O server data rand cs := by
  have hcall : serverSubmission M O server (rand c.1) c.1 data
      = some { clientId := c.1, sock := c.2.sock, message := message } := by
    rw [serverSubmission, hsend]
  rw [submissions, List.filterMap_cons, hcall]
  rfl

/-- The calls are one for each client, on its socket. -/
theorem submissions_listed (cs : List (Nat × CDTPSocket))
    (h : ∀ c ∈ cs, Submits M O server data rand c) :
    (submissions M O server data rand cs).map (fun e => (e.clientId, e.sock))
      = cs.map fun c => (c.1, c.2.sock) := by
  induction cs with
  | nil => rfl
  | cons c cs ih =>
    obtain ⟨message, hsend, -⟩ := h c List.mem_cons_self
    rw [submissions_cons hsend, List.map_cons, List.map_cons,
      ih fun c' hc' => h c' (List.mem_cons_of_mem c hc')]

/-- Each of them carries the payload to its client. -/
theorem submissions_frames (cs : List (Nat × CDTPSocket))
    (h : ∀ c ∈ cs, Submits M O server data rand c) :
    ∀ e ∈ submissions M O server data rand cs, ∃ c ∈ cs, e.clientId = c.1 ∧ e.sock = c.2.sock ∧
      ∀ M' : Machine, FrameOf M' O c.2.key data.bytes e.message := by
  intro e he
  rw [submissions, List.mem_filterMap] at he
  obtain ⟨c, hc, hcall⟩ := he
  obtain ⟨message, hsend, hframe⟩ := h c hc
  rw [serverSubmission, hsend, Option.some.injEq] at hcall
  subst hcall
  exact ⟨c, hc, rfl, rfl, hframe⟩

/-- **The loop of `cdtp_server_send_all`**, when every round gets to its call of `send`: how `send`
    answers decides which errors are reported, and nothing else that the loop looks at. -/
theorem submitRounds_eq (cs : List (Nat × CDTPSocket)) : ∀ (log : List Submission) (s : SendState),
    s.crashed = false → s.server = server → (∀ c ∈ cs, Submits M O server data rand c) →
    ∃ s', cs.foldl (submitRound M O data rand result) (log, s)
        = (log ++ submissions M O server data rand cs, s') ∧
      s'.errors = s.errors ++ List.replicate (cs.countP fun c => result c.1 == .failed)
        .CDTP_SERVER_SEND_FAILED ∧
      s'.server = server ∧ s'.crashed = false ∧
      (∀ sock, sock ∉ cs.map (fun c => c.2.sock) → s'.toClient sock = s.toClient sock) ∧
      ∀ sock, (s'.toClient sock).bytes = (s.toClient sock).bytes ++
        ((submissions M O server data rand cs).filter fun e => e.sock = sock).flatMap
          fun e => (result e.clientId).taken e.message := by
  induction cs with
  | nil =>
    intro log s hs hserver _
    refine ⟨s, ?_, ?_, hserver, hs, fun _ _ => rfl, fun _ => (List.append_nil _).symm⟩
    · exact congrArg (fun l => (l, s)) (List.append_nil log).symm
    · exact (List.append_nil s.errors).symm
  | cons c cs ih =>
    intro log s hs hserver h
    obtain ⟨message, hsend, -⟩ := h c List.mem_cons_self
    rw [← hserver] at hsend
    obtain ⟨s₁, hround, herrors, hserver₁, hs₁, hwires, hbytes⟩ :=
      @submitRound_eq Ctx PKey M O s data rand result c hs message log hsend
    rw [hserver] at hsend hserver₁
    obtain ⟨s₂, hrounds, herrors₂, hserver₂, hs₂, hwires₂, hbytes₂⟩ :=
      ih (log ++ [{ clientId := c.1, sock := c.2.sock, message := message }]) s₁ hs₁ hserver₁
        fun c' hc' => h c' (List.mem_cons_of_mem c hc')
    refine ⟨s₂, ?_, ?_, hserver₂, hs₂, ?_, ?_⟩
    · rw [List.foldl_cons, hround, hrounds, submissions_cons hsend, List.append_assoc]
      rfl
    · rw [herrors₂, herrors, List.append_assoc, List.countP_cons]
      congr 1
      by_cases hfailed : result c.1 = .failed
      · rw [if_pos hfailed, if_pos (by simp [hfailed]), List.replicate_succ]
        rfl
      · rw [if_neg hfailed, if_neg (by simp [hfailed])]
        rfl
    · intro sock hsock
      rw [List.map_cons, List.mem_cons, not_or] at hsock
      exact (hwires₂ sock hsock.2).trans (hwires sock hsock.1)
    · intro sock
      rw [hbytes₂ sock, submissions_cons hsend, List.filter_cons]
      by_cases hsock : c.2.sock = sock
      · subst hsock
        rw [if_pos (by simp), List.flatMap_cons, hbytes, List.append_assoc]
      · rw [if_neg (by simp [hsock]), hwires sock fun heq => hsock heq.symm]

/-- What the loop has done when every client is submitted to. -/
theorem sentToAll_of_submits (hs : s.crashed = false) (hserving : s.server.serving = true)
    (h : ∀ c ∈ s.server.clients.iter, Submits M O s.server data rand c)
    (result : Nat → SendResult) :
    ∃ s', s.serverSendAllLogged M O data rand result
        = (submissions M O s.server data rand s.server.clients.iter, s') ∧
      SentToAll O s data result (submissions M O s.server data rand s.server.clients.iter) s' := by
  obtain ⟨s', hrounds, herrors, hserver, hs', hwires, hbytes⟩ :=
    @submitRounds_eq Ctx PKey M O data rand result s.server s.server.clients.iter [] s hs rfl h
  have hlisted := submissions_listed s.server.clients.iter h
  have hids : (submissions M O s.server data rand s.server.clients.iter).map (·.clientId)
      = s.server.clients.iter.map Prod.fst := by
    have hfst := congrArg (List.map Prod.fst) hlisted
    rw [List.map_map, List.map_map] at hfst
    exact hfst
  have hsocks : (submissions M O s.server data rand s.server.clients.iter).map (·.sock)
      = s.server.clients.iter.map fun c => c.2.sock := by
    have hsnd := congrArg (List.map Prod.snd) hlisted
    rw [List.map_map, List.map_map] at hsnd
    exact hsnd
  refine ⟨s', ?_, ?_, ?_, ?_, ?_, hserver, hs', hbytes, ?_⟩
  · rw [SendState.serverSendAllLogged, if_neg (ne_true_of_eq_false hs),
      if_neg (ne_false_of_eq_true hserving), hrounds]
    rfl
  · rw [hids]
    exact s.server.clients.iter_nodup
  · intro id
    rw [hids, List.mem_map, Option.ne_none_iff_exists']
    constructor
    · rintro ⟨c, hc, rfl⟩
      exact ⟨c.2, s.server.clients.mem_iter_iff.mp hc⟩
    · rintro ⟨client, hget⟩
      exact ⟨(id, client), s.server.clients.mem_iter_iff.mpr hget, rfl⟩
  · intro e he
    obtain ⟨c, hc, hid, hsock, hframe⟩ := submissions_frames s.server.clients.iter h e he
    rw [hid]
    exact ⟨c.2, s.server.clients.mem_iter_iff.mp hc, hsock, hframe⟩
  · -- one failing call is one failing client
    have hcount := congrArg (List.countP fun id => result id == .failed) hids
    rw [List.countP_map, List.countP_map] at hcount
    rw [herrors]
    exact congrArg (fun n => s.errors ++ List.replicate n .CDTP_SERVER_SEND_FAILED) hcount.symm
  · intro sock hsock
    rw [hsocks] at hsock
    exact hwires sock hsock

end Rounds

/-- **`cdtp_server_send_all` reaches exactly the connected clients**, whatever `send` answers: the calls
    of `send` are the same for every choice of answers. -/
theorem sendAll_reaches_clients {Ctx PKey : Type} {M : Machine} {O : OpenSSL Ctx PKey}
    (hM : M.checked = false) (hO : O.IntAESLaws) (s : SendState) (hs : s.crashed = false)
    (hserving : s.server.serving = true)
    (hkeys : ∀ id client, s.server.clients.get id = some client → client.key.Full)
    (data : Payload) (hsize : data.bytes.length ≤ 2 ^ 31 - 64) (nonce : Nat → Nat → UInt8)
    (henc : ∀ id client, s.server.clients.get id = some client →
      O.encrypt client.key.key (nonceOf (nonce id)) (padded data.bytes) ≠ none) :
    ∃ log, ∀ result, SentToAll O s data result log
        (s.serverSendAll M O data (fun id => some (nonce id)) result) ∧
      (s.serverSendAllLogged M O data (fun id => some (nonce id)) result).1 = log := by
  have hsubmits : ∀ c ∈ s.server.clients.iter,
      Submits M O s.server data (fun id => some (nonce id)) c := by
    intro c hc
    have hget := s.server.clients.mem_iter_iff.mp hc
    exact submits_of_client hM hO hserving hget (hkeys c.1 c.2 hget) (by omega) rfl
      (henc c.1 c.2 hget)
  refine ⟨submissions M O s.server data (fun id => some (nonce id)) s.server.clients.iter,
    fun result => ?_⟩
  obtain ⟨s', hlogged, hsent⟩ := sentToAll_of_submits hs hserving hsubmits result
  have hstate := serverSendAllLogged_snd M O s data (fun id => some (nonce id)) result
  rw [hlogged] at hstate
  rw [hlogged, ← hstate]
  exact ⟨hsent, rfl⟩

/-- Two clients, of which the first cannot be sent to. -/
theorem sendAll_reaches_clients_two :
    ∃ log : List Submission, log.map (·.clientId) = [0, 1] ∧
      SentToAll plainOpenSSL (startSending demoServing.server demoClient) smallPayload
        (fun id => if id = 0 then .failed else .accepted 37) log
        ((startSending demoServing.server demoClient).serverSendAll plainMachine plainOpenSSL
          smallPayload (fun id => some fun _ => UInt8.ofNat id)
          (fun id => if id = 0 then .failed else .accepted 37)) := by
  have hkeys : ∀ id client, demoServing.server.clients.get id = some client →
      client.key.Full := by
    intro id client hget
    have hmem := demoServing.server.clients.mem_iter_iff.mpr hget
    have hall : ∀ c ∈ demoServing.server.clients.iter, c.2.key.Full := by decide
    exact hall (id, client) hmem
  obtain ⟨log, hlog⟩ := @sendAll_reaches_clients Bytes Unit plainMachine plainOpenSSL rfl
    plainOpenSSL_aesLaws.int (startSending demoServing.server demoClient) rfl rfl hkeys smallPayload
    (by decide) (fun id _ => UInt8.ofNat id)
    (fun id client _ => by rw [plainOpenSSL_encrypt]; simp)
  obtain ⟨hsent, hcalls⟩ := hlog fun id => if id = 0 then .failed else .accepted 37
  refine ⟨log, ?_, hsent⟩
  rw [← hcalls]
  decide

end Cdtp
