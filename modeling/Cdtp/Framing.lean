/-
  The receive loops on the byte streams of their peers.

  `Wired` is the serve loop together with one stream per client, `HandleWired` the handle loop of a
  client with the stream of its server.  A peer sends by appending a message to its stream, and every
  read of a loop takes from the stream what the transport grants (`Grant`): nothing, or any part of what
  is pending.  `Carries` relates a stream to the abstract channel it should be.

  * `Carries.turn` — a full turn acts on the channel as a receive, or does nothing;
  * `framing_of_wholeTurns` — so whatever is handed to the `call_on_recv` functions is a prefix of what
    was sent, and no loop gives up, in every run whose turns are full;
  * `framing_fragmented` — a single turn that is not full is enough for the opposite.
-/
import Cdtp.FrameSafety
import Cdtp.Lib.Fifo
import Cdtp.Lib.Runs
import Cdtp.ServerSpec

namespace Cdtp

open CMem Fifo

/-- A filter, with one element more. -/
theorem filterMap_snoc {β γ : Type} (f : β → Option γ) (l : List β) (x : β) :
    (l ++ [x]).filterMap f = l.filterMap f ++ (f x).toList := by
  rw [List.filterMap_append]
  cases h : f x with
  | none => rw [List.filterMap_cons_none h]; rfl
  | some y => rw [List.filterMap_cons_some h]; rfl

/-! ## Streams as channels -/

section Streams

variable {α : Type} {M N : Machine} {message body : α → Bytes} {c : Channel α} {sent : List α}
  {handed : List Bytes} {pending sizeBuffer : Bytes}

/-- The machine `N` sends `a` as the frame of `body a`, which is not empty and whose length the header
    can hold. -/
structure SentAs (N : Machine) (message body : α → Bytes) (a : α) : Prop where
  message_eq : message a = constructMessage N (body a) (body a).length
  pos : 0 < (body a).length
  lt : (body a).length < 2 ^ 40

/-- The stream acts as the channel `c`: the bodies handed over are those received from `c`, and the bytes
    that are pending are the frames of those waiting in it. -/
structure Carries (N : Machine) (body : α → Bytes) (c : Channel α) (sent : List α)
    (handed : List Bytes) (pending : Bytes) : Prop where
  sent_eq : c.sent = sent
  handed_eq : handed = c.received.map body
  pending_eq : pending = frames N (c.waiting.map body)

/-- A stream before its first message. -/
theorem Carries.empty : Carries N body .empty [] [] [] := ⟨rfl, rfl, rfl⟩

/-- **A message** waits at the end of the channel. -/
theorem Carries.send (h : Carries N body c sent handed pending) {a : α}
    (ha : SentAs N message body a) :
    Carries N body (c.send a) (sent ++ [a]) handed (pending ++ message a) where
  sent_eq := by rw [Channel.sent_send, h.sent_eq]
  handed_eq := h.handed_eq
  pending_eq := by
    rw [Channel.waiting_send, List.map_append, frames_append, h.pending_eq, ha.message_eq]
    show _ = _ ++ (constructMessage N (body a) (body a).length ++ [])
    rw [List.append_nil]

/-- **A body is handed over**: the first one that waits. -/
theorem Carries.receive_cons (h : Carries N body c sent handed pending) {a : α} {rest : List α}
    (hw : c.waiting = a :: rest) :
    Carries N body c.receive sent (handed ++ [body a]) (frames N (rest.map body)) where
  sent_eq := by rw [Channel.sent_receive_cons hw, h.sent_eq]
  handed_eq := by
    rw [Channel.receive_cons hw, List.map_append, h.handed_eq]
    rfl
  pending_eq := by rw [Channel.receive_cons hw]

/-- What is handed over is what was sent, in order, up to some point. -/
theorem Carries.handed_prefix (h : Carries N body c sent handed pending) :
    handed <+: sent.map body := by
  rw [h.handed_eq, ← h.sent_eq]
  exact c.received_prefix_sent.map body

/-- Nothing is pending iff all of it was. -/
theorem Carries.pending_eq_nil_iff (h : Carries N body c sent handed pending) :
    pending = [] ↔ c.received = sent := by
  rw [h.pending_eq, frames_eq_nil_iff, List.map_eq_nil_iff, ← h.sent_eq, c.received_eq_sent_iff]

/-- **A full turn on a stream** finds nothing and takes nothing, or receives from the channel. -/
theorem Carries.turn (h : Carries N body c sent handed pending)
    (hsize : ∀ a ∈ sent, 0 < (body a).length ∧ (body a).length < 2 ^ 40)
    (hbuf : sizeBuffer.length = CDTP_LENSIZE) {g b : Grant}
    (hfull : FullTurn sizeBuffer pending g b) :
    ((streamTurn sizeBuffer pending g b).header = .error .EAGAIN ∧
      (streamTurn sizeBuffer pending g b).rest = pending) ∨
    ∃ a rest, c.waiting = a :: rest ∧
      Carries N body c.receive sent (handed ++ [body a]) (streamTurn sizeBuffer pending g b).rest ∧
      receive M sizeBuffer (streamTurn sizeBuffer pending g b).header
        (streamTurn sizeBuffer pending g b).body = .frame (body a) (body a).length := by
  have hwaiting : ∀ x ∈ c.waiting.map body, 0 < x.length ∧ x.length < 2 ^ 40 := by
    intro x hx
    obtain ⟨a, ha, rfl⟩ := List.mem_map.mp hx
    exact hsize a (h.sent_eq ▸ Channel.mem_sent_of_mem_waiting ha)
  have hpending := h.pending_eq
  subst hpending
  rcases @streamTurn_frame N M sizeBuffer hbuf (c.waiting.map body) hwaiting g b hfull with
    hagain | ⟨x, xs, hx, -, hrest, hreceive⟩
  · exact .inl hagain
  · obtain ⟨a, rest, hw, rfl, rfl⟩ := List.map_eq_cons_iff.mp hx
    right
    refine ⟨a, rest, hw, ?_, hreceive⟩
    rw [hrest]
    exact h.receive_cons hw

end Streams

/-! ## The serve loop on streams -/

section Server

variable {Ctx PKey α : Type}

/-- The serve loop, what is pending in the stream of each client, and all that each client has sent. -/
structure Wired (α : Type) where
  server : ServeState
  pending : Nat → Bytes
  sent : Nat → List α

/-- What the serve loop and its peers do next. -/
inductive WiredInput (α Ctx PKey : Type) where
  | acceptError (e : Errno)
  | acceptConnection (c : Connection PKey) (O : OpenSSL Ctx PKey)
  | turn (g b : Grant) (O : OpenSSL Ctx PKey)
  | remove (id : Nat) (closeOk : Bool)
  | send (id : Nat) (a : α)

/-- A step of the loop that touches no stream. -/
def Wired.serve (M : Machine) (w : Wired α) (i : ServeInput Ctx PKey) : Wired α :=
  { w with server := serveStep M w.server i }

/-- A step of the loop, whose reads are made on the stream of the client that is looked at, or a message
    of the client `id`. -/
def wiredStep (M : Machine) (message : α → Bytes) (w : Wired α) : WiredInput α Ctx PKey → Wired α
  | .acceptError e => w.serve M (.acceptError e : ServeInput Ctx PKey)
  | .acceptConnection c O => w.serve M (.acceptConnection c O)
  | .turn g b O =>
    match w.server.status, w.server.todo with
    | .running, (id, _) :: _ =>
      -- the header buffer is one for all clients
      let t := streamTurn w.server.sizeBuffer (w.pending id) g b
      { w.serve M (.turn t.header t.body O) with pending := Function.update w.pending id t.rest }
    | _, _ => w
  | .remove id closeOk => w.serve M (.remove id closeOk : ServeInput Ctx PKey)
  | .send id a =>
    { w with pending := Function.update w.pending id (w.pending id ++ message a),
             sent := Function.update w.sent id (w.sent id ++ [a]) }

/-- Nobody has sent anything yet. -/
def wired (s : ServeState) : Wired α := { server := s, pending := fun _ => [], sent := fun _ => [] }

/-- Every turn of the run is full. -/
def WholeTurns (w : Wired α) : WiredInput α Ctx PKey → Prop
  | .turn g b _ => w.server.status = .running → ∀ entry ∈ w.server.todo.head?,
      FullTurn w.server.sizeBuffer (w.pending entry.1) g b
  | _ => True

instance (w : Wired α) (i : WiredInput α Ctx PKey) : Decidable (WholeTurns w i) :=
  match i with
  | .turn g b _ => inferInstanceAs (Decidable (w.server.status = .running →
      ∀ entry ∈ w.server.todo.head?, FullTurn w.server.sizeBuffer (w.pending entry.1) g b))
  | .acceptError _ => .isTrue trivial
  | .acceptConnection _ _ => .isTrue trivial
  | .remove _ _ => .isTrue trivial
  | .send _ _ => .isTrue trivial

/-- The body that an entry hands over for the client `id`. -/
def handedBy (id : Nat) : Entry → Option Bytes
  | .recv id' body _ => if id' = id then some body else none
  | _ => none

/-- The bodies that `_cdtp_server_call_on_recv` was called with for the client `id`. -/
def handed (log : List Entry) (id : Nat) : List Bytes := log.filterMap (handedBy id)

/-- One entry more, and at most one body more. -/
theorem handed_append (log : List Entry) (e : Entry) (id : Nat) :
    handed (log ++ [e]) id = handed log id ++ (handedBy id e).toList := filterMap_snoc _ _ _

/-- Which is a body of the client that the entry is about. -/
theorem handed_append_recv (log : List Entry) (id : Nat) (body : Bytes)
    (payload : Option CryptoData) :
    handed (log ++ [.recv id body payload])
      = Function.update (handed log) id (handed log id ++ [body]) := by
  funext id'
  rw [handed_append]
  by_cases hid : id' = id
  · subst hid
    rw [Function.update_self, handedBy, if_pos rfl]
    rfl
  · rw [Function.update_of_ne hid, handedBy, if_neg (fun h => hid h.symm)]
    exact List.append_nil _

/-! ### What the steps do -/

variable {M N : Machine} {O : OpenSSL Ctx PKey} {s : ServeState} {w : Wired α}
  {message body : α → Bytes}

/-- No step but a turn hands anything over or gives up a client's socket. -/
theorem serveStep_quiet (hinv : LoopInv s) {i : ServeInput Ctx PKey}
    (hi : ∀ header body O, i ≠ .turn header body O) :
    handed (serveStep M s i).log = handed s.log ∧
      (.CDTP_SERVER_RECV_FAILED ∉ s.errors → .CDTP_SERVER_RECV_FAILED ∉ (serveStep M s i).errors) := by
  unfold serveStep
  split
  · rename_i e _ _
    rw [hinv.serving, if_neg Bool.noConfusion]
    unfold ServeState.acceptError
    split
    · exact ⟨rfl, fun h => h⟩
    · rw [if_pos (.inr hinv.serving)]
      refine ⟨rfl, ?_⟩
      intro h hmem
      rcases List.mem_append.mp hmem with hmem | hmem
      · exact h hmem
      · exact absurd hmem (by decide)
  · rename_i c O _ _
    rw [hinv.serving, if_neg Bool.noConfusion]
    rcases @acceptConnection_cases Ctx PKey M s c O with
      ⟨d, -, -, -, hs⟩ | ⟨-, status, rejected, errors, -, herrors, hs⟩
    · rw [hs]
      refine ⟨?_, fun h => h⟩
      funext id
      show handed (s.log ++ [.connect _ _]) id = _
      rw [handed_append]
      exact List.append_nil _
    · rw [hs]
      refine ⟨rfl, ?_⟩
      intro h hmem
      rcases herrors _ hmem with hold | hnew | hnew
      · exact h hold
      · exact absurd hnew (by decide)
      · exact absurd hnew (by decide)
  · exact absurd rfl (hi _ _ _)
  · rename_i id closeOk _ _
    cases hget : s.server.clients.get id with
    | none =>
      rw [removeClient_none hinv.serving hget]
      refine ⟨rfl, ?_⟩
      intro h hmem
      rcases List.mem_append.mp hmem with hmem | hmem
      · exact h hmem
      · exact absurd hmem (by decide)
    | some client =>
      obtain ⟨errors, herrors, hr⟩ := removeClient_some hinv.serving hget closeOk
      rw [hr]
      refine ⟨?_, ?_⟩
      · funext id'
        show handed (s.log ++ [.removed id]) id' = _
        rw [handed_append]
        exact List.append_nil _
      · intro h hmem
        rcases herrors _ hmem with hold | hnew
        · exact h hold
        · exact absurd hnew (by decide)
  · exact ⟨rfl, fun h => h⟩

/-- A read that would block shows in the header. -/
theorem receive_again {sizeBuffer : Bytes} {body : ReadResult} :
    receive M sizeBuffer (.error .EAGAIN) body = .headerError .EAGAIN := by
  have hcode : (ReadResult.error .EAGAIN).code CDTP_LENSIZE = -1 := rfl
  rw [receive, hcode, if_neg (by decide), if_pos rfl]
  rfl

/-- And nothing is done about it. -/
theorem react_again (s : ServeState) (id : Nat) :
    s.react M O id (.headerError .EAGAIN) = s := by
  rw [ServeState.react, if_neg (by decide)]
  exact if_pos rfl

/-- Whatever becomes of a body, it was handed over and cost no error. -/
theorem react_frame (s : ServeState) (id n : Nat) (buffer : Bytes) :
    ∃ payload status, s.react M O id (.frame buffer n)
      = { s with log := s.log ++ [.recv id buffer payload], status := status } := by
  cases hcall : serverCallOnRecv M O s.server id buffer n with
  | ok payload => exact ⟨payload, s.status, react_frame_ok hcall⟩
  | error e => exact ⟨none, .crashed, react_frame_error hcall⟩

/-- A turn of a running loop. -/
theorem serveStep_turn {id : Nat} {sock : CDTPSocket} {rest : List (Nat × CDTPSocket)}
    (hrun : s.status = .running) (htodo : s.todo = (id, sock) :: rest) (header body : ReadResult) :
    serveStep M s (.turn header body O)
      = ({ s with todo := rest }).clientTurn M O id header body := by
  simp only [serveStep, hrun, htodo]

/-- **A full turn of the serve loop** does nothing but go on to the next client, or takes the oldest
    message out of the channel of the client and hands it over. -/
theorem wiredStep_turn {w : Wired α} {id : Nat} {sock : CDTPSocket} {rest : List (Nat × CDTPSocket)}
    (hinv : LoopInv w.server) (hrun : w.server.status = .running)
    (htodo : w.server.todo = (id, sock) :: rest) {c : Channel α}
    (hc : Carries N body c (w.sent id) (handed w.server.log id) (w.pending id))
    (hsize : ∀ a ∈ w.sent id, 0 < (body a).length ∧ (body a).length < 2 ^ 40) {g b : Grant}
    (hfull : FullTurn w.server.sizeBuffer (w.pending id) g b) :
    ((streamTurn w.server.sizeBuffer (w.pending id) g b).header = .error .EAGAIN ∧
      wiredStep M message w (.turn g b O)
        = { w with server := ({ w.server with todo := rest }).buffered (.error .EAGAIN) }) ∨
    ∃ a waiting header pending, c.waiting = a :: waiting ∧
      Carries N body c.receive (w.sent id) (handed w.server.log id ++ [body a]) pending ∧
      wiredStep M message w (.turn g b O)
        = { w with
            server := (({ w.server with todo := rest }).buffered header).react M O id
              (.frame (body a) (body a).length),
            pending := Function.update w.pending id pending } := by
  have hstep : wiredStep M message w (.turn g b O)
      = { w with
          server := ({ w.server with todo := rest }).clientTurn M O id
            (streamTurn w.server.sizeBuffer (w.pending id) g b).header
            (streamTurn w.server.sizeBuffer (w.pending id) g b).body,
          pending := Function.update w.pending id
            (streamTurn w.server.sizeBuffer (w.pending id) g b).rest } := by
    rw [← serveStep_turn hrun htodo]
    simp only [wiredStep, hrun, htodo]
    rfl
  rw [hstep]
  rcases @Carries.turn α M N body c _ _ _ w.server.sizeBuffer hc hsize hinv.buffer g b hfull with
    ⟨hheader, hrest⟩ | ⟨a, waiting, hw, hcarries, hreceive⟩
  · left
    refine ⟨hheader, ?_⟩
    rw [hheader, hrest, Function.update_eq_self, ServeState.clientTurn, receive_again, react_again]
  · right
    refine ⟨a, waiting, (streamTurn w.server.sizeBuffer (w.pending id) g b).header, _, hw, hcarries, ?_⟩
    rw [ServeState.clientTurn, hreceive]

/-! ### Every run whose turns are full -/

/-- The streams act as channels, and no socket was given up. -/
structure Framed (N : Machine) (body : α → Bytes) (w : Wired α) : Prop where
  loop : LoopInv w.server
  sizes : ∀ id, ∀ a ∈ w.sent id, 0 < (body a).length ∧ (body a).length < 2 ^ 40
  carries : ∀ id, ∃ c, Carries N body c (w.sent id) (handed w.server.log id) (w.pending id)
  not_failed : .CDTP_SERVER_RECV_FAILED ∉ w.server.errors

/-- Before the first step all streams are empty. -/
theorem Fresh.framed (h : Fresh s) : Framed N body (wired s) where
  loop := h.loopInv
  sizes _ _ ha := absurd ha (by simp [wired])
  carries id := by
    refine ⟨.empty, ?_⟩
    show Carries N body .empty [] (handed s.log id) []
    rw [h.log]
    exact Carries.empty
  not_failed := by
    show _ ∉ s.errors
    rw [h.errors]
    simp

/-- A step that is no turn moves no body. -/
theorem Framed.serve (h : Framed N body w) {i : ServeInput Ctx PKey}
    (hi : ∀ header body O, i ≠ .turn header body O) : Framed N body (w.serve M i) := by
  obtain ⟨hhanded, herrors⟩ := @serveStep_quiet Ctx PKey M w.server h.loop i hi
  refine ⟨serveStep_loopInv h.loop i, h.sizes, ?_, herrors h.not_failed⟩
  intro id
  show ∃ c, Carries N body c (w.sent id) (handed (serveStep M w.server i).log id) (w.pending id)
  rw [hhanded]
  exact h.carries id

/-- **A full turn** takes a whole frame from the stream, or nothing. -/
theorem Framed.turn (h : Framed N body w) (hrun : w.server.status = .running) {id : Nat}
    {sock : CDTPSocket} {rest : List (Nat × CDTPSocket)}
    (htodo : w.server.todo = (id, sock) :: rest) {g b : Grant}
    (hfull : FullTurn w.server.sizeBuffer (w.pending id) g b) :
    Framed N body (wiredStep M message w (.turn g b O)) := by
  obtain ⟨hrest, -, -⟩ := h.loop.turn htodo
  obtain ⟨c, hc⟩ := h.carries id
  rcases @wiredStep_turn Ctx PKey α M N O message body w id sock rest h.loop hrun htodo c hc
    (h.sizes id) g b hfull with ⟨-, hs⟩ | ⟨a, waiting, header, pending, -, hcarries, hs⟩
  · rw [hs]
    exact ⟨loopInv_buffered hrest _, h.sizes, h.carries, h.not_failed⟩
  · obtain ⟨payload, status, hr⟩ := @react_frame Ctx PKey M O
      (({ w.server with todo := rest }).buffered header) id (body a).length (body a)
    rw [hs, hr]
    have hb := loopInv_buffered hrest header
    refine ⟨⟨hb.serving, hb.buffer, hb.todo_get, hb.todo_nodup⟩, h.sizes, ?_,
      h.not_failed⟩
    intro id'
    -- the channel of this client moves on, those of the others stay
    show ∃ c, Carries N body c (w.sent id')
      (handed (w.server.log ++ [.recv id (body a) payload]) id')
      (Function.update w.pending id pending id')
    rw [handed_append_recv]
    by_cases hid : id' = id
    · subst hid
      rw [Function.update_self, Function.update_self]
      exact ⟨c.receive, hcarries⟩
    · rw [Function.update_of_ne hid, Function.update_of_ne hid]
      exact h.carries id'

/-- **A message** goes to the end of its stream. -/
theorem Framed.send (h : Framed N body w) (id : Nat) {a : α} (ha : SentAs N message body a) :
    Framed N body (wiredStep M message w (.send id a : WiredInput α Ctx PKey)) := by
  refine ⟨h.loop, ?_, ?_, h.not_failed⟩
  · exact Fifo.forall_mem_update h.sizes ⟨ha.pos, ha.lt⟩
  · intro id'
    show ∃ c, Carries N body c (Function.update w.sent id (w.sent id ++ [a]) id')
      (handed w.server.log id') (Function.update w.pending id (w.pending id ++ message a) id')
    by_cases hid : id' = id
    · subst hid
      rw [Function.update_self, Function.update_self]
      obtain ⟨c, hc⟩ := h.carries id'
      exact ⟨c.send a, hc.send ha⟩
    · rw [Function.update_of_ne hid, Function.update_of_ne hid]
      exact h.carries id'

/-- What the runs are about: full turns, and messages that are frames. -/
def WholeInput (N : Machine) (message body : α → Bytes) (w : Wired α)
    (i : WiredInput α Ctx PKey) : Prop :=
  WholeTurns w i ∧ ∀ id a, i = .send id a → SentAs N message body a

/-- Every step whose turn is full keeps the streams in frame. -/
theorem wiredStep_framed {w : Wired α} {i : WiredInput α Ctx PKey} (h : Framed N body w)
    (hi : WholeInput N message body w i) : Framed N body (wiredStep M message w i) := by
  obtain ⟨hturn, hsend⟩ := hi
  cases i with
  | acceptError e => exact h.serve (by simp)
  | acceptConnection c O => exact h.serve (by simp)
  | remove id closeOk => exact h.serve (by simp)
  | send id a => exact h.send id (hsend id a rfl)
  | turn g b O =>
    cases hrun : w.server.status with
    | running =>
      cases htodo : w.server.todo with
      | cons entry rest =>
        obtain ⟨id, sock⟩ := entry
        exact h.turn hrun htodo (hturn hrun (id, sock) (by rw [htodo]; rfl))
      | nil =>
        rw [wiredStep, hrun, htodo]
        exact h
    | returned =>
      rw [wiredStep, hrun]
      exact h
    | crashed =>
      rw [wiredStep, hrun]
      exact h

end Server

/-! ## The handle loop on its stream -/

section Client

variable {Ctx PKey α : Type}

/-- The handle loop, what is pending in its stream, and all that the server has sent to it. -/
structure HandleWired (α : Type) where
  handle : HandleState
  pending : Bytes
  sent : List α

/-- What the handle loop, its user and its server do next. -/
inductive HandleWiredInput (α Ctx PKey : Type) where
  | turn (g b : Grant) (O : OpenSSL Ctx PKey) (closeOk threadOk : Bool)
  | disconnect (closeOk threadOk : Bool)
  | send (a : α)

/-- A turn of the loop, whose reads are made on the stream, if it comes to that. -/
def handleWiredStep (M : Machine) (message : α → Bytes) (w : HandleWired α) :
    HandleWiredInput α Ctx PKey → HandleWired α
  | .turn g b O closeOk threadOk =>
    let t := streamTurn w.handle.sizeBuffer w.pending g b
    { w with handle := handleStep M w.handle (.turn t.header t.body O closeOk threadOk),
             pending := if w.handle.status = .running ∧ w.handle.client.connected = true then t.rest
                        else w.pending }
  | .disconnect closeOk threadOk =>
    { w with handle := handleStep M w.handle (.disconnect closeOk threadOk : HandleInput Ctx PKey) }
  | .send a => { w with pending := w.pending ++ message a, sent := w.sent ++ [a] }

/-- Nothing sent yet. -/
def handleWired (s : HandleState) : HandleWired α := { handle := s, pending := [], sent := [] }

/-- Every turn of the run that reads is full. -/
def HandleWholeTurns (w : HandleWired α) : HandleWiredInput α Ctx PKey → Prop
  | .turn g b _ _ _ => w.handle.status = .running → w.handle.client.connected = true →
      FullTurn w.handle.sizeBuffer w.pending g b
  | _ => True

instance (w : HandleWired α) (i : HandleWiredInput α Ctx PKey) : Decidable (HandleWholeTurns w i) :=
  match i with
  | .turn g b _ _ _ => inferInstanceAs (Decidable (w.handle.status = .running →
      w.handle.client.connected = true → FullTurn w.handle.sizeBuffer w.pending g b))
  | .disconnect _ _ => .isTrue trivial
  | .send _ => .isTrue trivial

/-- The bodies that `_cdtp_client_call_on_recv` was called with. -/
def clientHanded (log : List ClientEntry) : List Bytes :=
  log.filterMap fun
    | .recv body _ => some body
    | .disconnected _ => none

/-- One body more. -/
theorem clientHanded_append_recv (log : List ClientEntry) (body : Bytes)
    (payload : Option CryptoData) :
    clientHanded (log ++ [.recv body payload]) = clientHanded log ++ [body] := by
  rw [clientHanded, List.filterMap_append]
  rfl

variable {M N : Machine} {O : OpenSSL Ctx PKey} {s : HandleState} {w : HandleWired α}
  {message body : α → Bytes}

/-- Nothing to read, nothing done. -/
theorem handleReact_again (s : HandleState) (closeOk threadOk : Bool) :
    s.react M O closeOk threadOk (.headerError .EAGAIN) = s := by
  rw [HandleState.react]
  exact if_pos rfl

/-- A body that decrypts is logged with its payload. -/
theorem handleReact_frame_ok {closeOk threadOk : Bool} {n : Nat} {buffer : Bytes}
    {payload : Option CryptoData} (h : clientCallOnRecv M O s.client buffer n = .ok payload) :
    s.react M O closeOk threadOk (.frame buffer n)
      = { s with log := s.log ++ [.recv buffer payload] } := by
  rw [HandleState.react, h]

/-- Any other is logged too, whatever becomes of the loop. -/
theorem handleReact_frame (s : HandleState) (closeOk threadOk : Bool) (n : Nat) (buffer : Bytes) :
    ∃ payload status, s.react M O closeOk threadOk (.frame buffer n)
      = { s with log := s.log ++ [.recv buffer payload], status := status } := by
  cases hcall : clientCallOnRecv M O s.client buffer n with
  | ok payload => exact ⟨payload, s.status, handleReact_frame_ok hcall⟩
  | error e => exact ⟨none, .crashed, by rw [HandleState.react, hcall]⟩

/-- **A full turn of the handle loop**, like one of the serve loop. -/
theorem handleWiredStep_turn (hbuf : w.handle.sizeBuffer.length = CDTP_LENSIZE)
    (hrun : w.handle.status = .running) (hconnected : w.handle.client.connected = true)
    {c : Channel α} (hc : Carries N body c w.sent (clientHanded w.handle.log) w.pending)
    (hsize : ∀ a ∈ w.sent, 0 < (body a).length ∧ (body a).length < 2 ^ 40) {g b : Grant}
    (hfull : FullTurn w.handle.sizeBuffer w.pending g b) (closeOk threadOk : Bool) :
    ((streamTurn w.handle.sizeBuffer w.pending g b).header = .error .EAGAIN ∧
      handleWiredStep M message w (.turn g b O closeOk threadOk)
        = { w with handle := w.handle.buffered (.error .EAGAIN) }) ∨
    ∃ a waiting header pending, c.waiting = a :: waiting ∧
      Carries N body c.receive w.sent (clientHanded w.handle.log ++ [body a]) pending ∧
      handleWiredStep M message w (.turn g b O closeOk threadOk)
        = { w with
            handle := (w.handle.buffered header).react M O closeOk threadOk
              (.frame (body a) (body a).length),
            pending := pending } := by
  have hstep : handleWiredStep M message w (.turn g b O closeOk threadOk)
      = { w with
          handle := w.handle.turn M O (streamTurn w.handle.sizeBuffer w.pending g b).header
            (streamTurn w.handle.sizeBuffer w.pending g b).body closeOk threadOk,
          pending := (streamTurn w.handle.sizeBuffer w.pending g b).rest } := by
    rw [handleWiredStep, if_pos ⟨hrun, hconnected⟩]
    simp only [handleStep, hrun, hconnected]
    rfl
  rw [hstep]
  rcases @Carries.turn α M N body c _ _ _ w.handle.sizeBuffer hc hsize hbuf g b hfull with
    ⟨hheader, hrest⟩ | ⟨a, waiting, hw, hcarries, hreceive⟩
  · left
    refine ⟨hheader, ?_⟩
    rw [hheader, hrest, HandleState.turn, receive_again, handleReact_again]
  · right
    refine ⟨a, waiting, (streamTurn w.handle.sizeBuffer w.pending g b).header, _, hw, hcarries, ?_⟩
    rw [HandleState.turn, hreceive]

/-- The stream acts as a channel, and the socket was not given up. -/
structure HandleFramed (N : Machine) (body : α → Bytes) (w : HandleWired α) : Prop where
  buffer : w.handle.sizeBuffer.length = CDTP_LENSIZE
  sizes : ∀ a ∈ w.sent, 0 < (body a).length ∧ (body a).length < 2 ^ 40
  carries : ∃ c, Carries N body c w.sent (clientHanded w.handle.log) w.pending
  not_failed : .CDTP_CLIENT_RECV_FAILED ∉ w.handle.errors

/-- The user's call. -/
theorem handleStep_disconnect (s : HandleState) (closeOk threadOk : Bool) :
    handleStep M s (.disconnect closeOk threadOk : HandleInput Ctx PKey)
      = s.disconnect closeOk threadOk := by
  cases hs : s.status with
  | _ => simp only [handleStep, hs]

/-- A loop that has ended takes no turn. -/
theorem handleStep_stopped {header body : ReadResult} {closeOk threadOk : Bool}
    (h : s.status ≠ .running) : handleStep M s (.turn header body O closeOk threadOk) = s := by
  cases hs : s.status with
  | running => exact absurd hs h
  | _ => simp only [handleStep, hs]

/-- A disconnect hands nothing over and reports errors of its own. -/
theorem disconnect_quiet (s : HandleState) (closeOk threadOk : Bool) :
    (s.disconnect closeOk threadOk).log = s.log ∧
      (s.disconnect closeOk threadOk).sizeBuffer = s.sizeBuffer ∧
      (.CDTP_CLIENT_RECV_FAILED ∉ s.errors →
        .CDTP_CLIENT_RECV_FAILED ∉ (s.disconnect closeOk threadOk).errors) := by
  have hpush : ∀ x : CDTPError, x ≠ .CDTP_CLIENT_RECV_FAILED → .CDTP_CLIENT_RECV_FAILED ∉ s.errors →
      .CDTP_CLIENT_RECV_FAILED ∉ s.errors ++ [x] := by
    intro x hx h hmem
    rcases List.mem_append.mp hmem with hold | hnew
    · exact h hold
    · exact hx (List.mem_singleton.mp hnew).symm
  unfold HandleState.disconnect
  split
  · exact ⟨rfl, rfl, hpush _ (by decide)⟩
  · split
    · exact ⟨rfl, rfl, hpush _ (by decide)⟩
    · split
      · exact ⟨rfl, rfl, hpush _ (by decide)⟩
      · exact ⟨rfl, rfl, fun h => h⟩

/-- Before the first turn the stream is empty. -/
theorem handleFramed_start (client : CDTPClient) {sizeBuffer : Bytes}
    (hbuf : sizeBuffer.length = CDTP_LENSIZE) :
    HandleFramed N body (handleWired (startHandle client sizeBuffer)) where
  buffer := hbuf
  sizes _ ha := absurd ha (by simp [handleWired])
  carries := ⟨.empty, Carries.empty⟩
  not_failed := by simp [handleWired, startHandle]

/-- **A full turn** takes a whole frame from the stream, or nothing. -/
theorem HandleFramed.turn (h : HandleFramed N body w) (hrun : w.handle.status = .running)
    (hconnected : w.handle.client.connected = true) {g b : Grant}
    (hfull : FullTurn w.handle.sizeBuffer w.pending g b) (closeOk threadOk : Bool) :
    HandleFramed N body (handleWiredStep M message w (.turn g b O closeOk threadOk)) := by
  obtain ⟨c, hc⟩ := h.carries
  have hbuffered : ∀ header, (w.handle.buffered header).sizeBuffer.length = CDTP_LENSIZE := by
    intro header
    rw [HandleState.buffered, splice_length]
    exact h.buffer
  rcases @handleWiredStep_turn Ctx PKey α M N O w message body h.buffer hrun hconnected c hc h.sizes
    g b hfull closeOk threadOk with ⟨-, hs⟩ | ⟨a, waiting, header, pending, -, hcarries, hs⟩
  · rw [hs]
    exact ⟨hbuffered _, h.sizes, h.carries, h.not_failed⟩
  · obtain ⟨payload, status, hr⟩ := @handleReact_frame Ctx PKey M O (w.handle.buffered header) closeOk
      threadOk (body a).length (body a)
    rw [hs, hr]
    refine ⟨hbuffered header, h.sizes, ⟨c.receive, ?_⟩, h.not_failed⟩
    show Carries N body c.receive w.sent
      (clientHanded (w.handle.log ++ [.recv (body a) payload])) pending
    rw [clientHanded_append_recv]
    exact hcarries

/-- A full turn, or a message that can be framed. -/
def HandleWholeInput (N : Machine) (message body : α → Bytes) (w : HandleWired α)
    (i : HandleWiredInput α Ctx PKey) : Prop :=
  HandleWholeTurns w i ∧ ∀ a, i = .send a → SentAs N message body a

/-- Every such step keeps the stream in frame. -/
theorem handleWiredStep_framed {w : HandleWired α} {i : HandleWiredInput α Ctx PKey}
    (h : HandleFramed N body w) (hi : HandleWholeInput N message body w i) :
    HandleFramed N body (handleWiredStep M message w i) := by
  obtain ⟨hturn, hsend⟩ := hi
  cases i with
  | disconnect closeOk threadOk =>
    obtain ⟨hlog, hbuffer, herrors⟩ := disconnect_quiet w.handle closeOk threadOk
    rw [handleWiredStep, handleStep_disconnect]
    refine ⟨hbuffer ▸ h.buffer, h.sizes, ?_, herrors h.not_failed⟩
    show ∃ c, Carries N body c w.sent (clientHanded (w.handle.disconnect closeOk threadOk).log) w.pending
    rw [hlog]
    exact h.carries
  | send a =>
    have ha := hsend a rfl
    obtain ⟨c, hc⟩ := h.carries
    refine ⟨h.buffer, ?_, ⟨c.send a, hc.send ha⟩, h.not_failed⟩
    intro a' ha'
    rcases List.mem_append.mp ha' with hold | hnew
    · exact h.sizes a' hold
    · rw [List.mem_singleton.mp hnew]
      exact ⟨ha.pos, ha.lt⟩
  | turn g b O closeOk threadOk =>
    by_cases hrun : w.handle.status = .running
    · cases hconnected : w.handle.client.connected with
      | true => exact h.turn hrun hconnected (hturn hrun hconnected) closeOk threadOk
      | false =>
        -- the loop ends at its head, before it reads
        have hno : ¬ (w.handle.status = .running ∧ w.handle.client.connected = true) := by
          rw [hconnected]
          exact fun h => absurd h.2 (by decide)
        rw [handleWiredStep, if_neg hno]
        simp only [handleStep, hrun, hconnected]
        exact ⟨h.buffer, h.sizes, h.carries, h.not_failed⟩
    · have hno : ¬ (w.handle.status = .running ∧ w.handle.client.connected = true) :=
        fun h => hrun h.1
      rw [handleWiredStep, if_neg hno]
      simp only [handleStep_stopped hrun]
      exact h

end Client

/-! ## Frame bodies of any content -/

/-- The frame that `_cdtp_construct_message` makes of a body. -/
def frameOf (N : Machine) (body : Bytes) : Bytes := constructMessage N body body.length

/-- The bodies handed over for every client are the first ones that it sent, and the serve loop has not
    given up. -/
def InFrames (w : Wired Bytes) : Prop :=
  (∀ id, handed w.server.log id <+: w.sent id) ∧ .CDTP_SERVER_RECV_FAILED ∉ w.server.errors

/-- The same of the handle loop. -/
def HandleInFrames (w : HandleWired Bytes) : Prop :=
  clientHanded w.handle.log <+: w.sent ∧ .CDTP_CLIENT_RECV_FAILED ∉ w.handle.errors

/-- **Framing, for every run whose turns are full.**  The peers send any non-empty bodies (that a header
    can announce), interleaved in any way with the turns.  If no turn is cut short by the transport, then
    in every state reached the bodies handed to `call_on_recv` are the first ones that the peer sent,
    and the loop has not ended with RECV_FAILED: for every client of the serve loop, and for the handle
    loop. -/
theorem framing_of_wholeTurns {Ctx PKey : Type} {M N : Machine} :
    (∀ {s₀ : ServeState}, Fresh s₀ → ∀ is : List (WiredInput Bytes Ctx PKey),
      (∀ id body, .send id body ∈ is → 0 < body.length ∧ body.length < 2 ^ 40) →
      Runs.Along (wiredStep M (frameOf N)) WholeTurns (wired s₀) is →
      InFrames (Runs.run (wiredStep M (frameOf N)) (wired s₀) is)) ∧
    (∀ (client : CDTPClient) {sizeBuffer : Bytes}, sizeBuffer.length = CDTP_LENSIZE →
      ∀ is : List (HandleWiredInput Bytes Ctx PKey),
      (∀ body, .send body ∈ is → 0 < body.length ∧ body.length < 2 ^ 40) →
      Runs.Along (handleWiredStep M (frameOf N)) HandleWholeTurns
        (handleWired (startHandle client sizeBuffer)) is →
      HandleInFrames (Runs.run (handleWiredStep M (frameOf N))
        (handleWired (startHandle client sizeBuffer)) is)) := by
  constructor
  · -- the messages of the run are the bodies themselves
    intro s₀ hs is hsize hwhole
    have hsent : ∀ i ∈ is, ∀ id a, i = .send id a → SentAs N (frameOf N) (fun body => body) a := by
      rintro i hi id a rfl
      obtain ⟨hpos, hlt⟩ := hsize id a hi
      exact ⟨rfl, hpos, hlt⟩
    have hok := hwhole.and_of_mem hsent
    have hframed := Runs.run_invariant_of_along (fun w i h hi => @wiredStep_framed Ctx PKey Bytes M N
      (frameOf N) (fun body => body) w i h hi) is (wired s₀) hs.framed hok
    refine ⟨?_, hframed.not_failed⟩
    intro id
    obtain ⟨c, hc⟩ := hframed.carries id
    have hinitial := hc.handed_prefix
    rw [List.map_id'] at hinitial
    exact hinitial
  · intro client sizeBuffer hbuf is hsize hwhole
    have hsent : ∀ i ∈ is, ∀ a, i = .send a → SentAs N (frameOf N) (fun body => body) a := by
      rintro i hi a rfl
      obtain ⟨hpos, hlt⟩ := hsize a hi
      exact ⟨rfl, hpos, hlt⟩
    have hok := hwhole.and_of_mem hsent
    have hframed := Runs.run_invariant_of_along (fun w i h hi => @handleWiredStep_framed Ctx PKey Bytes
      M N (frameOf N) (fun body => body) w i h hi) is _ (handleFramed_start client hbuf) hok
    refine ⟨?_, hframed.not_failed⟩
    obtain ⟨c, hc⟩ := hframed.carries
    have hinitial := hc.handed_prefix
    rw [List.map_id'] at hinitial
    exact hinitial

/-! ### Streams in pieces -/

/-- A client is admitted and sends one frame. -/
def demoSent : List (WiredInput Bytes Bytes Unit) :=
  [.acceptConnection demoConnection plainOpenSSL, .send 0 [1, 2, 3]]

/-- Two short reads.  The header of a frame has arrived and its body not yet: the serve loop ends with
    RECV_FAILED.  Only the first byte of a header has arrived: the handle loop takes the other four from
    what its buffer held before, and hands over two bytes of the header as a body. -/
theorem framing_fragmented :
    ¬ InFrames (Runs.run (wiredStep checkingMachine (frameOf plainMachine)) (wired demoStart)
        (demoSent ++ [.turn (some 5) none plainOpenSSL])) ∧
      ¬ HandleInFrames (Runs.run (handleWiredStep checkingMachine (frameOf plainMachine))
        (handleWired (startHandle demoClient [0, 0, 0, 0, 2]))
        [.send [1, 2, 3], .turn (some 1) (some 2) plainOpenSSL true true]) := by
  constructor
  · rintro ⟨-, hno⟩
    apply hno
    decide +kernel
  · rintro ⟨hinitial, -⟩
    revert hinitial
    decide +kernel

/-- Two clients are admitted and send three frames between them, which are read in full turns; a client
    of which nothing is pending is passed over. -/
def demoFrames : List (WiredInput Bytes Bytes Unit) :=
  [.acceptConnection demoConnection plainOpenSSL,
   .turn none none plainOpenSSL,
   .acceptConnection { demoConnection with sock := 5 } plainOpenSSL,
   .send 0 [1, 2, 3], .send 1 [5, 6], .send 0 [4],
   .turn (some 5) (some 3) plainOpenSSL,
   .turn (some 5) (some 2) plainOpenSSL,
   .acceptError .EAGAIN,
   .turn (some 5) (some 1) plainOpenSSL,
   .turn none none plainOpenSSL]

/-- Two frames of the server. -/
def demoHandledFrames : List (HandleWiredInput Bytes Bytes Unit) :=
  [.send [1, 2, 3], .send [4], .turn (some 5) (some 3) plainOpenSSL true true,
   .turn (some 5) (some 1) plainOpenSSL true true, .turn none none plainOpenSSL true true]

/-- Nobody has registered a callback for messages, so the bodies need not decrypt. -/
theorem framing_of_wholeTurns_demo :
    let w := Runs.run (wiredStep checkingMachine (frameOf plainMachine))
      (wired (startServe false true true [0, 0, 0, 0, 0])) demoFrames
    let h := Runs.run (handleWiredStep checkingMachine (frameOf plainMachine))
      (handleWired (startHandle { demoClient with onRecv := false } [0, 0, 0, 0, 2])) demoHandledFrames
    InFrames w ∧ handed w.server.log 0 = [[1, 2, 3], [4]] ∧ handed w.server.log 1 = [[5, 6]] ∧
      HandleInFrames h ∧ h.pending = [] := by
  have hserver := @(@framing_of_wholeTurns Bytes Unit checkingMachine plainMachine).1
    (startServe false true true [0, 0, 0, 0, 0]) (startServe_fresh false true true rfl) demoFrames
  have hclient := @(@framing_of_wholeTurns Bytes Unit checkingMachine plainMachine).2
    { demoClient with onRecv := false } [0, 0, 0, 0, 2] rfl demoHandledFrames
  refine ⟨hserver ?_ (by decide +kernel), by decide +kernel, by decide +kernel,
    hclient ?_ (by decide +kernel), by decide +kernel⟩
  · intro id body hmem
    simp only [demoFrames, List.mem_cons, reduceCtorEq, WiredInput.send.injEq, List.not_mem_nil,
      or_false, false_or] at hmem
    rcases hmem with ⟨-, rfl⟩ | ⟨-, rfl⟩ | ⟨-, rfl⟩ <;> decide
  · intro body hmem
    simp only [demoHandledFrames, List.mem_cons, reduceCtorEq, HandleWiredInput.send.injEq,
      List.not_mem_nil, or_false] at hmem
    rcases hmem with rfl | rfl <;> decide

end Cdtp
