/-
  The descriptors of a server.

  The server knows its clients by their descriptors, which the system gives out again as soon as they
  are closed, to a later client or to any other part of the process.  `Descriptors` is the serve loop
  with the table of its process: `accept` enters what it returned, `close` takes it out (whether or not
  it reports an error, as on Linux), and between two parts of the loop others open and close what is
  theirs.

  `descriptors_exact` says that the server never means the wrong one.  What it closes is the connection
  whose end it has reported or asked for, once; what it reads from and sends to is the client that it
  means; and what stays open is what has not ended.  Two kinds of descriptors are never closed by
  anybody: that of a connection whose set-up ended the loop, and that of a connection which the loop has
  accepted when `cdtp_server_stop` takes its snapshot and enters into the map behind it.
-/
import Cdtp.Lib.Handles
import Cdtp.ServerEvents
import Cdtp.ServerStop

namespace Cdtp

open CMem Handles Runs

/-! ## The loop and its process -/

/-- What the server has descriptors of. -/
inductive Peer where
  | listener
  | connection (id : Nat)
  deriving DecidableEq, Repr

/-- The clients that have ended, in order. -/
def endedIds (log : List Entry) : List Nat :=
  log.filterMap fun
    | .disconnect id _ => some id
    | .removed id => some id
    | _ => none

/-- The part of the loop's state that the descriptors are about. -/
structure Holdings where
  get : Nat → Option CDTPSocket
  accepted : List (Nat × Nat)
  closed : List Nat
  ended : List Nat
  running : Bool

def ServeState.holdings (s : ServeState) : Holdings where
  get := s.server.clients.get
  accepted := s.accepted
  closed := s.closed
  ended := endedIds s.log
  running := s.status == .running

/-- The table after the calls of `accept` and `close` that lead from `h` to `h'`. -/
def observe (k : Table Nat Peer) (h h' : Holdings) : Table Nat Peer :=
  let accepts := h'.accepted.drop h.accepted.length
  let closes := h'.closed.drop h.closed.length
  closes.foldl Table.close
    (accepts.foldl (fun k a => k.give a.2 (.mine (.connection a.1))) k)

/-- A serve loop and the descriptors of its process. -/
structure Descriptors where
  loop : ServeState
  table : Table Nat Peer

section Functions

variable {Ctx PKey : Type}

/-- A part of the loop, or somebody else in the process opens or closes a descriptor. -/
inductive DescriptorInput (Ctx PKey : Type) where
  | loop (i : ServeInput Ctx PKey)
  | otherOpens (fd : Nat)
  | otherCloses (fd : Nat)

def descriptorStep (M : Machine) (d : Descriptors) : DescriptorInput Ctx PKey → Descriptors
  | .loop i =>
    let loop := serveStep M d.loop i
    { loop := loop, table := observe d.table d.loop.holdings loop.holdings }
  | .otherOpens fd => { d with table := d.table.give fd .other }
  | .otherCloses fd => { d with table := d.table.give fd .free }

/-- The descriptor that `accept` returns. -/
def ServeInput.accepts : ServeInput Ctx PKey → Option Nat
  | .acceptConnection c _ => some c.sock
  | _ => none

/-- The system gives out free descriptors, and the others close their own. -/
def Granted (d : Descriptors) : DescriptorInput Ctx PKey → Prop
  | .loop i => ∀ fd ∈ i.accepts, d.table.behind fd = .free
  | .otherOpens fd => d.table.behind fd = .free
  | .otherCloses fd => d.table.behind fd = .other

instance (d : Descriptors) : ∀ i : DescriptorInput Ctx PKey, Decidable (Granted d i)
  | .loop i => inferInstanceAs (Decidable (∀ fd ∈ i.accepts, d.table.behind fd = .free))
  | .otherOpens fd => inferInstanceAs (Decidable (d.table.behind fd = .free))
  | .otherCloses fd => inferInstanceAs (Decidable (d.table.behind fd = .other))

end Functions

/-! ## What a part of the loop does -/

/-- What can become of the holdings, when the next connection gets the id `id`. -/
inductive Move (id : Nat) (accepts : Option Nat) (h : Holdings) : Holdings → Prop where
  | kept (running : Bool) (hrunning : running = true → h.running = true) :
      Move id accepts h { h with running := running }
  | admitted (client : CDTPSocket) (hsock : client.sock ∈ accepts) (hrunning : h.running = true) :
      Move id accepts h
        { h with get := Function.update h.get id (some client),
                 accepted := h.accepted ++ [(id, client.sock)] }
  -- a connection that is neither stored nor closed ends the loop
  | failed (sock : Nat) (hsock : sock ∈ accepts) (hrunning : h.running = true) :
      Move id accepts h { h with accepted := h.accepted ++ [(id, sock)], running := false }
  | left (one : Nat) (client : CDTPSocket) (hget : h.get one = some client) :
      Move id accepts h
        { h with get := Function.update h.get one none, closed := h.closed ++ [client.sock],
                 ended := h.ended ++ [one] }

section Moves

variable {Ctx PKey : Type} {M : Machine} {s s' : ServeState} {id : Nat} {accepts : Option Nat}

theorem endedIds_append (log : List Entry) (e : Entry) :
    endedIds (log ++ [e]) = endedIds log ++ endedIds [e] := List.filterMap_append

/-- A part that touches no client. -/
theorem move_kept (hget : s'.server.clients.get = s.server.clients.get)
    (haccepted : s'.accepted = s.accepted) (hclosed : s'.closed = s.closed)
    (hended : endedIds s'.log = endedIds s.log)
    (hrunning : s'.status = .running → s.status = .running) :
    Move id accepts s.holdings s'.holdings := by
  have hsame : s'.holdings = { s.holdings with running := s'.status == .running } := by
    rw [ServeState.holdings, hget, haccepted, hclosed, hended]
    rfl
  rw [hsame]
  apply Move.kept
  intro h
  show (s.status == .running) = true
  rw [hrunning (eq_of_beq h)]
  rfl

/-- A client leaves. -/
theorem move_left {one : Nat} {client : CDTPSocket} {e : Entry}
    (hstored : s.server.clients.get one = some client)
    (hclients : s'.server.clients = (s.server.clients.pop one).2)
    (haccepted : s'.accepted = s.accepted) (hclosed : s'.closed = s.closed ++ [client.sock])
    (hlog : s'.log = s.log ++ [e]) (he : endedIds [e] = [one]) (hstatus : s'.status = s.status) :
    Move id accepts s.holdings s'.holdings := by
  have hleft : s'.holdings = { s.holdings with
      get := Function.update s.server.clients.get one none,
      closed := s.closed ++ [client.sock], ended := endedIds s.log ++ [one] } := by
    rw [ServeState.holdings, hclients, haccepted, hclosed, hlog, hstatus, endedIds_append, he,
      Clients.get_pop]
    rfl
  rw [hleft]
  exact .left one client hstored

theorem move_dropClient (s : ServeState) (one : Nat) :
    Move id accepts s.holdings (s.dropClient one).holdings := by
  rcases hget : s.server.clients.get one with _ | client
  · rw [dropClient_none hget]
    exact move_kept rfl rfl rfl rfl fun h => h
  · rw [dropClient_some hget]
    generalize hclients : (s.server.clients.pop one).2 = clients
    exact move_left hget hclients.symm rfl rfl rfl rfl rfl

/-- A connection becomes a client. -/
theorem move_admitted {client : CDTPSocket}
    (hget : s'.server.clients.get = Function.update s.server.clients.get id (some client))
    (haccepted : s'.accepted = s.accepted ++ [(id, client.sock)]) (hclosed : s'.closed = s.closed)
    (hended : endedIds s'.log = endedIds s.log) (hstatus : s'.status = s.status)
    (hsock : client.sock ∈ accepts) (hrunning : s.status = .running) :
    Move id accepts s.holdings s'.holdings := by
  have hadmitted : s'.holdings = { s.holdings with
      get := Function.update s.server.clients.get id (some client),
      accepted := s.accepted ++ [(id, client.sock)] } := by
    rw [ServeState.holdings, hget, haccepted, hclosed, hended, hstatus]
    rfl
  rw [hadmitted]
  apply Move.admitted client hsock
  show (s.status == .running) = true
  rw [hrunning]
  rfl

theorem move_acceptConnection (hrunning : s.status = .running)
    (hfresh : s.server.clients.get s.server.nextClientId = none) (c : Connection PKey)
    (O : OpenSSL Ctx PKey) :
    Move s.server.nextClientId (some c.sock) s.holdings (s.acceptConnection M O c).holdings := by
  rcases @acceptConnection_cases Ctx PKey M s c O with
    ⟨d, -, -, -, hs⟩ | ⟨-, status, rejected, errors, hstatus, -, hs⟩
  · have hset := (Clients.set_of_none hfresh
      { sock := c.sock, key := { key := d.data, keySize := d.dataSize } }).2
    have hlog : endedIds (s.log ++ [.connect s.server.nextClientId s.server.onConnect])
        = endedIds s.log := by
      rw [endedIds_append]
      exact List.append_nil _
    rw [hs]
    exact move_admitted hset rfl rfl hlog rfl rfl hrunning
  · have hover : (status == .running) = false := beq_eq_false_iff_ne.mpr hstatus
    have hrun : s.holdings.running = true := by
      show (s.status == .running) = true
      rw [hrunning]
      rfl
    have hfailed := @Move.failed s.server.nextClientId (some c.sock) s.holdings c.sock rfl hrun
    rw [← hover] at hfailed
    rw [hs]
    exact hfailed

theorem move_clientTurn {one : Nat} {client : CDTPSocket}
    (hget : s.server.clients.get one = some client) (header body : ReadResult) (O : OpenSSL Ctx PKey) :
    Move id accepts s.holdings (s.clientTurn M O one header body).holdings := by
  have hreceived : ∀ buffer payload,
      endedIds (s.log ++ [.recv one buffer payload]) = endedIds s.log := by
    intro buffer payload
    rw [endedIds_append]
    exact List.append_nil _
  rcases @clientTurn_cases Ctx PKey M O s one client hget header body with
    ⟨-, hs | hs | ⟨buffer, payload, hs⟩⟩ | ⟨-, log, status, errors, hstatus, hlog, hs⟩
  · rw [hs]
    exact move_dropClient (s.buffered header) one
  · rw [hs]
    exact move_kept rfl rfl rfl rfl fun h => h
  · rw [hs]
    exact move_kept rfl rfl rfl (hreceived buffer payload) fun h => h
  · rw [hs]
    refine move_kept rfl rfl rfl ?_ fun h => absurd h hstatus
    rcases hlog with rfl | ⟨buffer, rfl⟩
    · rfl
    · exact hreceived buffer none

theorem move_removeClient (hserving : s.server.serving = true) (one : Nat) (closeOk : Bool) :
    Move id accepts s.holdings (s.removeClient one closeOk).holdings := by
  rcases hget : s.server.clients.get one with _ | client
  · have hsame : (s.server.clients.pop one).2.get = s.server.clients.get := by
      rw [Clients.get_pop, ← hget, Function.update_eq_self]
    rw [removeClient_none hserving hget]
    generalize (s.server.clients.pop one).2 = clients at hsame ⊢
    exact move_kept hsame rfl rfl rfl fun h => h
  · obtain ⟨errors, -, hs⟩ := removeClient_some hserving hget closeOk
    rw [hs]
    generalize hclients : (s.server.clients.pop one).2 = clients
    exact move_left hget hclients.symm rfl rfl rfl rfl rfl

/-- **Every part of the loop** makes one of the moves. -/
theorem serveStep_move (h : LoopInv s) (hfresh : s.server.clients.get s.server.nextClientId = none)
    (i : ServeInput Ctx PKey) :
    Move s.server.nextClientId i.accepts s.holdings (serveStep M s i).holdings := by
  unfold serveStep
  split
  · rename_i e hstatus htodo
    rw [h.serving, if_neg Bool.noConfusion]
    unfold ServeState.acceptError
    split
    · exact move_kept rfl rfl rfl rfl fun h => h
    · split
      · exact move_kept rfl rfl rfl rfl fun _ => hstatus
      · exact move_kept rfl rfl rfl rfl fun _ => hstatus
  · rename_i c O hstatus htodo
    rw [h.serving, if_neg Bool.noConfusion]
    exact move_acceptConnection hstatus hfresh c O
  · rename_i one sock rest header body O hstatus htodo
    obtain ⟨-, -, hget⟩ := h.turn htodo
    exact @move_clientTurn Ctx PKey M { s with todo := rest } _ _ one sock hget header body O
  · exact move_removeClient h.serving _ _
  · exact move_kept rfl rfl rfl rfl fun h => h

end Moves

/-! ## The books -/

/-- The objects of the server that were opened, with their descriptors. -/
def opened (listener : Nat) (accepted : List (Nat × Nat)) : List (Peer × Nat) :=
  (.listener, listener) :: accepted.map fun a => (.connection a.1, a.2)

/-- The table agrees with the holdings. -/
structure Books (listener : Nat) (h : Holdings) (k : Table Nat Peer) : Prop where
  exact : k.Exact (opened listener h.accepted) (h.ended.map .connection)
  /-- who is stored was accepted, and has not ended -/
  stored : ∀ id client, h.get id = some client → (id, client.sock) ∈ h.accepted ∧ id ∉ h.ended
  /-- who is neither stored nor has ended came last, and the loop with it to an end -/
  orphan : ∀ id fd, (id, fd) ∈ h.accepted → id ∉ h.ended → h.get id = none →
    h.running = false ∧ h.accepted.getLast? = some (id, fd)
  ended : ∀ id ∈ h.ended, id ∈ h.accepted.map Prod.fst

section Books

variable {listener id fd : Nat} {accepts : Option Nat} {h h' : Holdings} {k : Table Nat Peer}
  {accepted : List (Nat × Nat)}

theorem mem_opened_iff : (Peer.connection id, fd) ∈ opened listener accepted ↔ (id, fd) ∈ accepted := by
  rw [opened, List.mem_cons, List.mem_map]
  constructor
  · rintro (heq | ⟨⟨id', fd'⟩, hmem, heq⟩)
    · exact absurd (congrArg Prod.fst heq) Peer.noConfusion
    · rw [Prod.mk.injEq, Peer.connection.injEq] at heq
      obtain ⟨rfl, rfl⟩ := heq
      exact hmem
  · intro hmem
    exact .inr ⟨(id, fd), hmem, rfl⟩

theorem mem_opened_append {arrived : Option (Nat × Nat)} :
    (Peer.connection id, fd) ∈ opened listener (accepted ++ arrived.toList) ↔
      (Peer.connection id, fd) ∈ opened listener accepted ∨ arrived = some (id, fd) := by
  rw [mem_opened_iff, mem_opened_iff, List.mem_append, Option.mem_toList]

theorem mem_ended_iff {ids : List Nat} : Peer.connection id ∈ ids.map Peer.connection ↔ id ∈ ids := by
  rw [List.mem_map]
  constructor
  · rintro ⟨id', hmem, heq⟩
    rw [Peer.connection.injEq] at heq
    exact heq ▸ hmem
  · exact fun hmem => ⟨id, hmem, rfl⟩

theorem listener_not_ended {ids : List Nat} : Peer.listener ∉ ids.map Peer.connection := by
  intro hmem
  obtain ⟨id, -, hid⟩ := List.mem_map.mp hmem
  exact absurd hid Peer.noConfusion

/-- A connection is behind its descriptor until it has ended. -/
theorem Books.connection_iff (hb : Books listener h k) :
    k.behind fd = .mine (.connection id) ↔ (id, fd) ∈ h.accepted ∧ id ∉ h.ended := by
  rw [hb.exact.behind_iff, mem_opened_iff, mem_ended_iff]

theorem Books.listener_iff (hb : Books listener h k) :
    k.behind fd = .mine .listener ↔ fd = listener := by
  rw [hb.exact.behind_iff, opened, List.mem_cons]
  constructor
  · rintro ⟨heq | hmem, -⟩
    · exact congrArg Prod.snd heq
    · obtain ⟨a, -, ha⟩ := List.mem_map.mp hmem
      exact absurd (congrArg Prod.fst ha) Peer.noConfusion
  · rintro rfl
    exact ⟨.inl rfl, listener_not_ended⟩

/-- While the loop is running, who has not ended is stored. -/
theorem Books.no_orphan (hb : Books listener h k) (hrunning : h.running = true)
    (haccepted : (id, fd) ∈ h.accepted) (hended : id ∉ h.ended) : h.get id ≠ none := by
  intro hget
  have hover := (hb.orphan id fd haccepted hended hget).1
  rw [hrunning] at hover
  exact absurd hover Bool.noConfusion

/-- **A connection comes**: the table has it under the descriptor that `accept` returned. -/
theorem Books.accept (hb : Books listener h k) (hfree : k.behind fd = .free)
    (hnew : id ∉ h.accepted.map Prod.fst) :
    Table.Exact (k.give fd (.mine (.connection id))) (opened listener (h.accepted ++ [(id, fd)]))
      (h.ended.map .connection) := by
  have hended : id ∉ h.ended := fun hmem => hnew (hb.ended id hmem)
  have hopened : Peer.connection id ∉ (opened listener h.accepted).map Prod.fst := by
    intro hmem
    obtain ⟨⟨peer, fd'⟩, hmem, rfl⟩ := List.mem_map.mp hmem
    exact hnew (List.mem_map_of_mem (mem_opened_iff.mp hmem))
  have hexact := hb.exact.enter hfree hopened (mt mem_ended_iff.mp hended)
  have hlist : opened listener (h.accepted ++ [(id, fd)])
      = opened listener h.accepted ++ [(.connection id, fd)] := by
    rw [opened, List.map_append]
    rfl
  rw [hlist]
  exact hexact

/-- The table does not change if nothing was accepted and nothing closed. -/
theorem observe_same (haccepted : h'.accepted = h.accepted) (hclosed : h'.closed = h.closed) :
    observe k h h' = k := by
  rw [observe, haccepted, hclosed, List.drop_length, List.drop_length]
  rfl

theorem observe_accept (haccepted : h'.accepted = h.accepted ++ [(id, fd)])
    (hclosed : h'.closed = h.closed) : observe k h h' = k.give fd (.mine (.connection id)) := by
  rw [observe, haccepted, hclosed, List.drop_left, List.drop_length]
  rfl

theorem observe_close (haccepted : h'.accepted = h.accepted) (hclosed : h'.closed = h.closed ++ [fd]) :
    observe k h h' = k.close fd := by
  rw [observe, haccepted, hclosed, List.drop_length, List.drop_left]
  rfl

/-- **Every move keeps the books.** -/
theorem Move.books (hm : Move id accepts h h') (hb : Books listener h k)
    (hnew : id ∉ h.accepted.map Prod.fst) (hfree : ∀ fd ∈ accepts, k.behind fd = .free) :
    Books listener h' (observe k h h') := by
  cases hm with
  | kept running hrunning =>
    have htable : observe k h { h with running := running } = k := observe_same rfl rfl
    rw [htable]
    refine ⟨hb.exact, hb.stored, ?_, hb.ended⟩
    intro one fd haccepted hended hget
    obtain ⟨hover, hlast⟩ := hb.orphan one fd haccepted hended hget
    refine ⟨?_, hlast⟩
    show running = false
    rcases running with _ | _
    · rfl
    · rw [hrunning rfl] at hover
      exact absurd hover Bool.noConfusion
  | admitted client hsock hrunning =>
    have htable : observe k h { h with
        get := Function.update h.get id (some client),
        accepted := h.accepted ++ [(id, client.sock)] }
      = k.give client.sock (.mine (.connection id)) := observe_accept rfl rfl
    rw [htable]
    refine ⟨hb.accept (hfree client.sock hsock) hnew, ?_, ?_, ?_⟩
    · intro one client' hget
      have hget' : Function.update h.get id (some client) one = some client' := hget
      by_cases hone : one = id
      · subst hone
        rw [Function.update_self, Option.some.injEq] at hget'
        subst hget'
        exact ⟨List.mem_append_right _ List.mem_cons_self, fun hmem => hnew (hb.ended one hmem)⟩
      · rw [Function.update_of_ne hone] at hget'
        obtain ⟨hmem, hended⟩ := hb.stored one client' hget'
        exact ⟨List.mem_append_left _ hmem, hended⟩
    · -- there was no orphan, and the new connection is stored
      intro one fd haccepted hended hget
      have hget' : Function.update h.get id (some client) one = none := hget
      have hone : one ≠ id := by
        rintro rfl
        rw [Function.update_self] at hget'
        exact absurd hget' (Option.some_ne_none client)
      rw [Function.update_of_ne hone] at hget'
      rcases List.mem_append.mp haccepted with hold | hlast
      · exact absurd hget' (hb.no_orphan hrunning hold hended)
      · rw [List.mem_singleton, Prod.mk.injEq] at hlast
        exact absurd hlast.1 hone
    · intro one hmem
      rw [List.map_append]
      exact List.mem_append_left _ (hb.ended one hmem)
  | failed sock hsock hrunning =>
    have htable : observe k h { h with accepted := h.accepted ++ [(id, sock)], running := false }
      = k.give sock (.mine (.connection id)) := observe_accept rfl rfl
    rw [htable]
    refine ⟨hb.accept (hfree sock hsock) hnew, ?_, ?_, ?_⟩
    · intro one client hget
      obtain ⟨hmem, hended⟩ := hb.stored one client hget
      exact ⟨List.mem_append_left _ hmem, hended⟩
    · intro one fd haccepted hended hget
      refine ⟨rfl, ?_⟩
      rcases List.mem_append.mp haccepted with hold | hlast
      · exact absurd hget (hb.no_orphan hrunning hold hended)
      · rw [List.mem_singleton.mp hlast]
        exact List.getLast?_concat
    · intro one hmem
      rw [List.map_append]
      exact List.mem_append_left _ (hb.ended one hmem)
  | left one client hget =>
    have htable : observe k h { h with
        get := Function.update h.get one none, closed := h.closed ++ [client.sock],
        ended := h.ended ++ [one] } = k.close client.sock := observe_close rfl rfl
    rw [htable]
    obtain ⟨haccepted, hended⟩ := hb.stored one client hget
    have hclosed := hb.exact.close (mem_opened_iff.mpr haccepted) (mt mem_ended_iff.mp hended)
    have hexact : Table.Exact (k.close client.sock) (opened listener h.accepted)
        ((h.ended ++ [one]).map .connection) := by
      rw [List.map_append]
      exact hclosed
    have hother : ∀ {id client'}, Function.update h.get one none id = some client' →
        id ≠ one ∧ h.get id = some client' := by
      intro id client' hget
      by_cases hone : id = one
      · subst hone
        rw [Function.update_self] at hget
        exact absurd hget (Option.some_ne_none client').symm
      · rw [Function.update_of_ne hone] at hget
        exact ⟨hone, hget⟩
    refine ⟨hexact, ?_, ?_, ?_⟩
    · intro id client' hget'
      obtain ⟨hne, hstored⟩ := hother hget'
      obtain ⟨hmem, hnot⟩ := hb.stored id client' hstored
      refine ⟨hmem, ?_⟩
      show id ∉ h.ended ++ [one]
      rw [List.mem_append, List.mem_singleton, not_or]
      exact ⟨hnot, hne⟩
    · intro id fd hmem hnot hget'
      have hnot' : id ∉ h.ended ++ [one] := hnot
      rw [List.mem_append, List.mem_singleton, not_or] at hnot'
      have hnone : Function.update h.get one none id = none := hget'
      rw [Function.update_of_ne hnot'.2] at hnone
      exact hb.orphan id fd hmem hnot'.1 hnone
    · intro id hmem
      have hmem' : id ∈ h.ended ++ [one] := hmem
      rcases List.mem_append.mp hmem' with hold | hnow
      · exact hb.ended id hold
      · rw [List.mem_singleton.mp hnow]
        exact List.mem_map_of_mem haccepted

end Books

/-! ## Stopping -/

/-- The clients that the loop of `cdtp_server_stop` closes: it returns at the first close that fails. -/
def reached (o : StopOutcome) : List (Nat × CDTPSocket) → List (Nat × CDTPSocket)
  | [] => []
  | c :: cs => c :: if o.closeOk c.1 then reached o cs else []

/-- Every close of a client succeeds. -/
def StopOutcome.allClosed (o : StopOutcome) (cs : List (Nat × CDTPSocket)) : Bool :=
  cs.all fun c => o.closeOk c.1

/-- What `cdtp_server_stop` closes, and by which descriptors: the listener comes last. -/
def closedByStop (listener : Nat) (o : StopOutcome) (cs : List (Nat × CDTPSocket)) :
    List (Peer × Nat) :=
  (reached o cs).map (fun c => (.connection c.1, c.2.sock)) ++
    if o.allClosed cs then [(.listener, listener)] else []

/-- The server of a serve loop. -/
def ServeState.asServer (s : ServeState) (listener : Nat) : ServerState where
  server := s.server
  sock := listener
  loopRunning := s.status == .running
  closes := []
  ending := .returned
  errors := s.errors
  freed := false
  lost := []

/-- The connection that a running loop is setting up when `cdtp_server_stop` is called: its id and its
    descriptor, which `accept` has returned already. -/
def Descriptors.arriving (d : Descriptors) (o : StopOutcome) : Option (Nat × Nat) :=
  if d.loop.status = .running then o.arriving.map fun c => (c.1, c.2.sock) else none

/-- The arriving connection has a free descriptor and the next id, as every accepted one. -/
def Descriptors.ArrivalGranted (d : Descriptors) (o : StopOutcome) : Prop :=
  ∀ c ∈ d.arriving o, c.1 = d.loop.server.nextClientId ∧ d.table.behind c.2 = .free

/-- The table after `cdtp_server_stop`, which may have been called while a connection arrives. -/
def Descriptors.stopped (d : Descriptors) (listener : Nat) (self : Bool) (o : StopOutcome) :
    Table Nat Peer :=
  ((d.loop.asServer listener).stop .posix self o).closes.foldl Table.close
    ((d.arriving o).toList.foldl (fun k c => k.give c.2 (.mine (.connection c.1))) d.table)

section Stop

variable {o : StopOutcome}

theorem reached_sublist (o : StopOutcome) (cs : List (Nat × CDTPSocket)) :
    (reached o cs).Sublist cs := by
  induction cs with
  | nil => exact List.Sublist.refl []
  | cons c cs ih =>
    rw [reached]
    split
    · exact ih.cons_cons c
    · exact (List.nil_sublist cs).cons_cons c

theorem reached_of_allClosed : ∀ {cs : List (Nat × CDTPSocket)}, o.allClosed cs = true →
    reached o cs = cs := by
  intro cs
  induction cs with
  | nil => intro _; rfl
  | cons c cs ih =>
    intro h
    rw [StopOutcome.allClosed, List.all_cons, Bool.and_eq_true] at h
    rw [reached, if_pos h.1, ih h.2]

/-- **What the loop of `stop` closes.** -/
theorem closeClients_closes (cs : List (Nat × CDTPSocket)) :
    ∀ s : ServerState, (cs.map Prod.fst).Nodup →
      (∀ c ∈ cs, s.server.clients.get c.1 = some c.2) →
      (s.closeClients o cs).1.closes = s.closes ++ (reached o cs).map (fun c => c.2.sock) ∧
        (s.closeClients o cs).2 = o.allClosed cs ∧ (s.closeClients o cs).1.sock = s.sock := by
  induction cs with
  | nil =>
    intro s _ _
    exact ⟨(List.append_nil _).symm, rfl, rfl⟩
  | cons c cs ih =>
    intro s hnodup hmem
    obtain ⟨id, sock⟩ := c
    have hpop := Clients.get_pop_of_nodup hnodup hmem
    rw [List.map_cons, List.nodup_cons] at hnodup
    rw [closeClients_cons (hmem (id, sock) List.mem_cons_self), StopOutcome.allClosed, List.all_cons]
    rcases hok : o.closeOk id with _ | _
    · rw [if_pos rfl, reached, hok, if_neg Bool.noConfusion]
      exact ⟨rfl, rfl, rfl⟩
    · rw [if_neg Bool.noConfusion, reached, hok, if_pos rfl]
      obtain ⟨hcloses, hall, hsock⟩ := ih
        { s with closes := s.closes ++ [sock.sock],
                 server := { s.server with clients := (s.server.clients.pop id).2 } }
        hnodup.2 hpop
      refine ⟨?_, hall, hsock⟩
      rw [hcloses, List.map_cons, List.append_assoc]
      rfl

theorem waitForThread_closes (platform : Platform) (self : Bool) (s : ServerState) :
    (s.waitForThread platform self o).closes = s.closes := by
  unfold ServerState.waitForThread
  split
  · rfl
  · split <;> rfl

/-- **The closes of `cdtp_server_stop`.** -/
theorem stop_closes {s : ServerState} (hserving : s.server.serving = true) (platform : Platform)
    (self : Bool) :
    (s.stop platform self o).closes
      = s.closes ++ (closedByStop s.sock o s.server.clients.iter).map Prod.snd := by
  let s₁ : ServerState := { s with server := { s.server with serving := false, done := true },
                                   ending := .returned }
  obtain ⟨hcloses, hall, hsock⟩ := @closeClients_closes o s.server.clients.iter s₁
    s.server.clients.iter_nodup fun c hc => (Clients.mem_iter_iff _).mp hc
  have hstop : (s.stop platform self o).closes = (s₁.shutDown platform self o).closes := by
    rw [ServerState.stop, hserving, if_neg Bool.noConfusion]
    rfl
  obtain ⟨⟨s₂, finished⟩, hloop⟩ : ∃ r, s₁.closeClients o s₁.server.clients.iter = r := ⟨_, rfl⟩
  have hloop' : s₁.closeClients o s.server.clients.iter = (s₂, finished) := hloop
  rw [hloop'] at hcloses hall hsock
  obtain rfl : finished = o.allClosed s.server.clients.iter := hall
  have hcloses₂ : s₂.closes = s.closes ++ (reached o s.server.clients.iter).map fun c => c.2.sock :=
    hcloses
  have hsock₂ : s₂.sock = s.sock := hsock
  rw [hstop, ServerState.shutDown, hloop, closedByStop, List.map_append, List.map_map]
  rcases o.allClosed s.server.clients.iter with _ | _
  · show s₂.closes = _
    rw [hcloses₂, if_neg Bool.noConfusion, List.map_nil, List.append_nil]
    rfl
  · have hclosed : s.closes ++ ((reached o s.server.clients.iter).map
        (Prod.snd ∘ fun c => (Peer.connection c.1, c.2.sock)) ++ [s.sock])
        = s₂.closes ++ [s₂.sock] := by
      rw [hcloses₂, hsock₂, List.append_assoc]
      rfl
    rw [if_pos rfl, List.map_singleton, hclosed]
    dsimp only
    split
    · rfl
    · exact waitForThread_closes platform self _

variable {listener : Nat}

/-- Nothing is closed twice. -/
theorem closedByStop_nodup {cs : List (Nat × CDTPSocket)} (hnodup : (cs.map Prod.fst).Nodup) :
    ((closedByStop listener o cs).map Prod.fst).Nodup := by
  have hids : ((reached o cs).map Prod.fst).Nodup :=
    hnodup.sublist ((reached_sublist o cs).map Prod.fst)
  have hconnections := hids.map fun (id id' : Nat) (heq : Peer.connection id = .connection id') =>
    Peer.connection.inj heq
  rw [List.map_map] at hconnections
  rw [closedByStop, List.map_append, List.map_map, List.nodup_append]
  refine ⟨hconnections, ?_, ?_⟩
  · split
    · exact List.nodup_singleton _
    · exact List.nodup_nil
  · intro peer hpeer peer' hpeer'
    rintro rfl
    obtain ⟨c, -, rfl⟩ := List.mem_map.mp hpeer
    split at hpeer'
    · exact absurd (List.mem_singleton.mp hpeer') Peer.noConfusion
    · exact absurd hpeer' List.not_mem_nil

theorem connection_mem_closedByStop {cs : List (Nat × CDTPSocket)} {id : Nat} :
    Peer.connection id ∈ (closedByStop listener o cs).map Prod.fst ↔
      id ∈ (reached o cs).map Prod.fst := by
  rw [closedByStop, List.map_append, List.map_map, List.mem_append]
  constructor
  · rintro (hmem | hmem)
    · obtain ⟨c, hc, heq⟩ := List.mem_map.mp hmem
      rw [← Peer.connection.inj heq]
      exact List.mem_map_of_mem hc
    · split at hmem
      · exact absurd (List.mem_singleton.mp hmem) Peer.noConfusion
      · exact absurd hmem List.not_mem_nil
  · intro hmem
    obtain ⟨c, hc, rfl⟩ := List.mem_map.mp hmem
    exact .inl (List.mem_map.mpr ⟨c, hc, rfl⟩)

theorem listener_mem_closedByStop {cs : List (Nat × CDTPSocket)} :
    Peer.listener ∈ (closedByStop listener o cs).map Prod.fst ↔ o.allClosed cs = true := by
  rw [closedByStop, List.map_append, List.map_map, List.mem_append]
  constructor
  · rintro (hmem | hmem)
    · obtain ⟨c, -, heq⟩ := List.mem_map.mp hmem
      exact absurd heq Peer.noConfusion
    · split at hmem
      · assumption
      · exact absurd hmem List.not_mem_nil
  · intro hall
    rw [if_pos hall]
    exact .inr List.mem_cons_self

end Stop

/-! ## Every run -/

/-- What holds of the server and its descriptors. -/
structure DescriptorsExact (listener : Nat) (d : Descriptors) : Prop where
  /-- what was closed is what has ended, each by its own descriptor -/
  closes : d.table.closes = (endedIds d.loop.log).map fun id => .mine (.connection id)
  /-- and what has not ended is open -/
  connection_iff : ∀ fd id, d.table.behind fd = .mine (.connection id) ↔
    (id, fd) ∈ d.loop.accepted ∧ id ∉ endedIds d.loop.log
  listener_iff : ∀ fd, d.table.behind fd = .mine .listener ↔ fd = listener
  /-- the server reads from, sends to and closes the client that it means -/
  stored : ∀ id client, d.loop.server.clients.get id = some client →
    d.table.behind client.sock = .mine (.connection id)
  /-- nobody closes a connection whose set-up failed: it is the last one, and the loop is over -/
  orphan : ∀ fd id, d.table.behind fd = .mine (.connection id) →
    d.loop.server.clients.get id = none →
    d.loop.status ≠ .running ∧ d.loop.accepted.getLast? = some (id, fd)

/-- What holds after `cdtp_server_stop`, if the loop does nothing meanwhile but enter the arriving
    connection. -/
structure StopExact (listener : Nat) (d : Descriptors) (self : Bool) (o : StopOutcome) : Prop where
  /-- the clients are closed, up to the first that cannot be, and behind the last one the listener -/
  closes : (d.stopped listener self o).closes = d.table.closes ++
    (closedByStop listener o d.loop.server.clients.iter).map fun x => .mine x.1
  /-- the arriving connection stays open, and so do the clients that were not reached -/
  connection_iff : ∀ fd id, (d.stopped listener self o).behind fd = .mine (.connection id) ↔
    d.arriving o = some (id, fd) ∨ (d.table.behind fd = .mine (.connection id) ∧
      id ∉ (reached o d.loop.server.clients.iter).map Prod.fst)
  listener_iff : ∀ fd, (d.stopped listener self o).behind fd = .mine .listener ↔
    fd = listener ∧ o.allClosed d.loop.server.clients.iter = false
  /-- if no close fails, only the arriving connection or one whose set-up failed can be left -/
  left : o.allClosed d.loop.server.clients.iter = true → ∀ fd peer,
    (d.stopped listener self o).behind fd = .mine peer → ∃ id, peer = .connection id ∧
      (d.arriving o = some (id, fd) ∨
        d.loop.status ≠ .running ∧ d.loop.accepted.getLast? = some (id, fd))

/-- The invariant of a run: the books are right until the ids run out. -/
def DescriptorsInv (listener : Nat) (d : Descriptors) : Prop :=
  RunInv d.loop ∧ (d.loop.accepted.length < SIZE_MOD → Books listener d.loop.holdings d.table)

section Run

variable {Ctx PKey : Type} {M : Machine} {listener : Nat} {d : Descriptors} {h : Holdings}
  {k : Table Nat Peer}

/-- The others keep to their own descriptors. -/
theorem Books.give_other (hb : Books listener h k) {fd : Nat} {b : Behind Peer}
    (hbefore : ∀ peer, k.behind fd ≠ .mine peer) (hafter : ∀ peer, b ≠ .mine peer) :
    Books listener h (k.give fd b) :=
  ⟨hb.exact.give_other hbefore hafter, hb.stored, hb.orphan, hb.ended⟩

/-- **One step.** -/
theorem descriptorStep_inv (hd : DescriptorsInv listener d) (i : DescriptorInput Ctx PKey)
    (hi : Granted d i) : DescriptorsInv listener (descriptorStep M d i) := by
  obtain ⟨hrun, hbooks⟩ := hd
  cases i with
  | loop i =>
    refine ⟨serveStep_runInv hrun i, ?_⟩
    intro hbound
    have heffect := @serveStep_effect Ctx PKey M d.loop hrun.1 i
    have hbefore : d.loop.accepted.length < SIZE_MOD :=
      Nat.lt_of_le_of_lt heffect.accepted_le hbound
    have hcoherent := hrun.2 hbefore
    have hmove := @serveStep_move Ctx PKey M d.loop hrun.1 hcoherent.next_fresh i
    refine hmove.books (hbooks hbefore) ?_ hi
    -- the next id is the number of those before it
    have hnext : d.loop.server.nextClientId = d.loop.accepted.length := hcoherent.next_eq
    have hids : d.loop.accepted.map Prod.fst = List.range d.loop.accepted.length := hcoherent.ids_eq
    show d.loop.server.nextClientId ∉ d.loop.accepted.map Prod.fst
    rw [hids, hnext, List.mem_range]
    exact Nat.lt_irrefl _
  | otherOpens fd =>
    have hfree : d.table.behind fd = .free := hi
    refine ⟨hrun, fun hbound => ?_⟩
    refine (hbooks hbound).give_other (fun peer => ?_) Behind.other_ne_mine
    rw [hfree]
    exact Behind.free_ne_mine peer
  | otherCloses fd =>
    have hother : d.table.behind fd = .other := hi
    refine ⟨hrun, fun hbound => ?_⟩
    refine (hbooks hbound).give_other (fun peer => ?_) Behind.free_ne_mine
    rw [hother]
    exact Behind.other_ne_mine peer

/-- The server has opened its listener, and nothing else. -/
theorem Fresh.books {s₀ : ServeState} (hs : Fresh s₀)
    (hk : k.Exact [(.listener, listener)] []) : Books listener s₀.holdings k where
  exact := by
    show k.Exact (opened listener s₀.accepted) ((endedIds s₀.log).map .connection)
    rw [hs.accepted, hs.log]
    exact hk
  stored := by
    intro id client hget
    have hget' : s₀.server.clients.get id = some client := hget
    rw [hs.clients] at hget'
    exact absurd hget' (Option.some_ne_none client).symm
  orphan := by
    intro id fd hmem
    have hmem' : (id, fd) ∈ s₀.accepted := hmem
    rw [hs.accepted] at hmem'
    exact absurd hmem' List.not_mem_nil
  ended := by
    intro id hmem
    have hmem' : id ∈ endedIds s₀.log := hmem
    rw [hs.log] at hmem'
    exact absurd hmem' List.not_mem_nil

theorem Books.descriptorsExact (hb : Books listener d.loop.holdings d.table) :
    DescriptorsExact listener d where
  closes := by
    have hcloses := hb.exact.closes
    rw [List.map_map] at hcloses
    exact hcloses
  connection_iff fd id := hb.connection_iff
  listener_iff fd := hb.listener_iff
  stored id client hget := hb.connection_iff.mpr (hb.stored id client hget)
  orphan := by
    intro fd id hbehind hget
    obtain ⟨haccepted, hended⟩ := hb.connection_iff.mp hbehind
    obtain ⟨hover, hlast⟩ := hb.orphan id fd haccepted hended hget
    exact ⟨ne_of_beq_false hover, hlast⟩

/-- The arriving connection is a new one. -/
theorem arriving_new {o : StopOutcome} (hcoherent : Coherent d.loop.history)
    (ho : d.ArrivalGranted o) {id fd : Nat} (harriving : d.arriving o = some (id, fd)) :
    id ∉ d.loop.accepted.map Prod.fst := by
  have hnext : d.loop.server.nextClientId = d.loop.accepted.length := hcoherent.next_eq
  have hids : d.loop.accepted.map Prod.fst = List.range d.loop.accepted.length := hcoherent.ids_eq
  obtain ⟨hid, -⟩ := ho (id, fd) harriving
  have hid : id = d.loop.server.nextClientId := hid
  rw [hids, hid, hnext, List.mem_range]
  exact Nat.lt_irrefl _

/-- The table after a stop agrees with what has arrived and with what the stop closed. -/
theorem Books.stopped_exact (hb : Books listener d.loop.holdings d.table)
    (hserving : d.loop.server.serving = true) (self : Bool) {o : StopOutcome}
    (ho : d.ArrivalGranted o)
    (hnew : ∀ id fd, d.arriving o = some (id, fd) → id ∉ d.loop.accepted.map Prod.fst) :
    (d.stopped listener self o).Exact (opened listener (d.loop.accepted ++ (d.arriving o).toList))
      ((endedIds d.loop.log).map .connection ++
        (closedByStop listener o d.loop.server.clients.iter).map Prod.fst) := by
  have hcloses : ((d.loop.asServer listener).stop .posix self o).closes
      = (closedByStop listener o d.loop.server.clients.iter).map Prod.snd := by
    rw [@stop_closes o (d.loop.asServer listener) hserving .posix self]
    exact List.nil_append _
  have hbefore : Table.Exact
      ((d.arriving o).toList.foldl (fun k c => k.give c.2 (.mine (.connection c.1))) d.table)
      (opened listener (d.loop.accepted ++ (d.arriving o).toList))
      ((endedIds d.loop.log).map .connection) := by
    rcases harriving : d.arriving o with _ | ⟨id, fd⟩
    · show d.table.Exact (opened listener (d.loop.accepted ++ [])) _
      rw [List.append_nil]
      exact hb.exact
    · exact hb.accept (ho (id, fd) harriving).2 (hnew id fd harriving)
  have hopen : ∀ x ∈ closedByStop listener o d.loop.server.clients.iter,
      x ∈ opened listener (d.loop.accepted ++ (d.arriving o).toList) ∧
        x.1 ∉ (endedIds d.loop.log).map Peer.connection := by
    intro x hx
    rcases List.mem_append.mp hx with hx | hx
    · obtain ⟨c, hc, rfl⟩ := List.mem_map.mp hx
      have hget := (Clients.mem_iter_iff _).mp ((reached_sublist o _).subset hc)
      obtain ⟨haccepted, hnot⟩ := hb.stored c.1 c.2 hget
      exact ⟨mem_opened_iff.mpr (List.mem_append_left _ haccepted), mt mem_ended_iff.mp hnot⟩
    · split at hx
      · rw [List.mem_singleton.mp hx]
        exact ⟨List.mem_cons_self, listener_not_ended⟩
      · exact absurd hx List.not_mem_nil
  rw [Descriptors.stopped, hcloses]
  exact hbefore.closeAll _ (closedByStop_nodup d.loop.server.clients.iter_nodup) hopen

theorem Books.stopExact (hb : Books listener d.loop.holdings d.table)
    (hserving : d.loop.server.serving = true) (self : Bool) {o : StopOutcome}
    (ho : d.ArrivalGranted o)
    (hnew : ∀ id fd, d.arriving o = some (id, fd) → id ∉ d.loop.accepted.map Prod.fst) :
    StopExact listener d self o := by
  have hexact := hb.stopped_exact hserving self ho hnew
  have hconnection : ∀ fd id, (d.stopped listener self o).behind fd = .mine (.connection id) ↔
      d.arriving o = some (id, fd) ∨ (d.table.behind fd = .mine (.connection id) ∧
        id ∉ (reached o d.loop.server.clients.iter).map Prod.fst) := by
    intro fd id
    rw [hexact.behind_iff, hb.exact.behind_iff, mem_opened_append, List.mem_append, not_or,
      connection_mem_closedByStop]
    constructor
    · rintro ⟨hold | harriving, hended, hreached⟩
      · exact .inr ⟨⟨hold, hended⟩, hreached⟩
      · exact .inl harriving
    · rintro (harriving | ⟨⟨hold, hended⟩, hreached⟩)
      · -- it is neither among those who have ended nor in the snapshot
        have hid := hnew id fd harriving
        refine ⟨.inr harriving, fun hended => hid (hb.ended id (mem_ended_iff.mp hended)), ?_⟩
        intro hreached
        obtain ⟨c, hc, rfl⟩ := List.mem_map.mp hreached
        have hget := (Clients.mem_iter_iff _).mp ((reached_sublist o _).subset hc)
        exact hid (List.mem_map_of_mem (hb.stored c.1 c.2 hget).1)
      · exact ⟨.inl hold, hended, hreached⟩
  have hlistener : ∀ fd, (d.stopped listener self o).behind fd = .mine .listener ↔
      fd = listener ∧ o.allClosed d.loop.server.clients.iter = false := by
    intro fd
    have hopened : ∀ accepted, (Peer.listener, fd) ∈ opened listener accepted ↔ fd = listener := by
      intro accepted
      simp [opened]
    rw [hexact.behind_iff, List.mem_append, not_or, listener_mem_closedByStop, Bool.not_eq_true,
      hopened]
    exact ⟨fun h => ⟨h.1, h.2.2⟩, fun h => ⟨h.1, listener_not_ended, h.2⟩⟩
  refine ⟨?_, hconnection, hlistener, ?_⟩
  · rw [hexact.closes, hb.exact.closes, List.map_append]
    congr 1
    exact List.map_map
  · intro hall fd peer hbehind
    cases peer with
    | listener =>
      rw [hlistener, hall] at hbehind
      exact absurd hbehind.2 Bool.noConfusion
    | connection id =>
      refine ⟨id, rfl, ?_⟩
      rcases (hconnection fd id).mp hbehind with harriving | ⟨hbefore, hnot⟩
      · exact .inl harriving
      · right
        rw [reached_of_allClosed hall] at hnot
        -- who is not in the snapshot is not stored
        have hget : d.loop.server.clients.get id = none := by
          rcases hget : d.loop.server.clients.get id with _ | client
          · rfl
          · exact absurd (List.mem_map_of_mem ((Clients.mem_iter_iff _).mpr hget)) hnot
        exact hb.descriptorsExact.orphan fd id hbefore hget

/-- **The descriptors of a server, exactly.**  Whatever its peers, the failing calls and the rest of the
    process do, in every state that the loop reaches with fewer than `2 ^ 64` accepts: the server has
    closed what has ended, each by its own descriptor and once, and nothing of anybody else; what it
    stores is open and is what it is stored as.  And if it is stopped there, what it can close is
    closed, but for a connection that arrives meanwhile. -/
theorem descriptors_exact {s₀ : ServeState} (hs : Fresh s₀)
    (hk : k.Exact [(.listener, listener)] []) (is : List (DescriptorInput Ctx PKey))
    (hgranted : Along (descriptorStep M) Granted { loop := s₀, table := k } is)
    (hcount : (run (descriptorStep M) { loop := s₀, table := k } is).loop.accepted.length < 2 ^ 64) :
    DescriptorsExact listener (run (descriptorStep M) { loop := s₀, table := k } is) ∧
      ∀ self o, (run (descriptorStep M) { loop := s₀, table := k } is).ArrivalGranted o →
        StopExact listener (run (descriptorStep M) { loop := s₀, table := k } is) self o := by
  have hstart : DescriptorsInv listener { loop := s₀, table := k } :=
    ⟨hs.runInv, fun _ => hs.books hk⟩
  have hkeep : ∀ (d : Descriptors) (i : DescriptorInput Ctx PKey), DescriptorsInv listener d →
      Granted d i → DescriptorsInv listener (descriptorStep M d i) :=
    fun _ i hd hi => descriptorStep_inv hd i hi
  have hinv := run_invariant_of_along hkeep is { loop := s₀, table := k } hstart hgranted
  have hbooks := hinv.2 hcount
  refine ⟨hbooks.descriptorsExact, fun self o ho => ?_⟩
  exact hbooks.stopExact hinv.1.1.serving self ho fun id fd => arriving_new (hinv.1.2 hcount) ho

end Run

/-- A process with its standard streams, and the server's listener. -/
def demoTable : Table Nat Peer where
  behind fd := if fd < 3 then .other else if fd = 3 then .mine .listener else .free
  closes := []

theorem demoTable_exact : demoTable.Exact [(.listener, 3)] [] where
  distinct := List.nodup_singleton _
  behind_iff := by
    intro fd peer
    show (if fd < 3 then _ else if fd = 3 then _ else _) = Behind.mine peer ↔ _
    split
    · simp; omega
    · split
      · rename_i h
        simp [h, eq_comm]
      · simp; omega
  closes := rfl

/-- A client comes and goes; others get its descriptor, and the next client another one. -/
def demoReuse : List (DescriptorInput Bytes Unit) :=
  [.loop (.acceptConnection demoConnection plainOpenSSL),
   .loop (.turn (.data []) (.error .EAGAIN) plainOpenSSL),
   .otherOpens 4,
   .loop (.acceptConnection { demoConnection with sock := 5 } plainOpenSSL),
   .loop (.turn (.error .EAGAIN) (.error .EAGAIN) plainOpenSSL),
   .otherCloses 4]

theorem descriptors_exact_demo :
    let d := run (descriptorStep plainMachine) { loop := demoStart, table := demoTable } demoReuse
    DescriptorsExact 3 d ∧ ∀ self o, d.ArrivalGranted o → StopExact 3 d self o :=
  descriptors_exact (startServe_fresh true true true rfl) demoTable_exact demoReuse
    (by decide +kernel) (by decide +kernel)

end Cdtp
