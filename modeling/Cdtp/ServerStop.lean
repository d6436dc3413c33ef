/-
  Starting, stopping and freeing a server (`server.c`), on both platforms.

  `cdtp_server_stop` clears `serving` and sets `done` before it has closed anything, and returns at the
  first call that fails.  So `done` promises more than it should: what is left of the clients and of the
  serve loop can neither be stopped again, for the server is no longer serving, nor started again, and
  `cdtp_server_free` goes ahead.  On Windows the test of the thread ids is the wrong way round, and `stop`
  waits for the serve thread only when that thread calls it; `cdtp_client_disconnect` has it right.

  `stop_sound_iff` says when stopping is sound all the same.  What the serve loop does meanwhile is part
  of what a call meets: it may be about to enter a connection into the map, and it may return by itself.
-/
import Cdtp.Server

namespace Cdtp

/-! ## State -/

inductive Platform where
  | posix
  | windows
  deriving DecidableEq, Repr

/-- How a call of `cdtp_server_stop` ends. -/
inductive Ending where
  | returned
  /-- NULL was dereferenced -/
  | crashed
  /-- the serve thread waits for itself -/
  | blocked
  deriving DecidableEq, Repr

/-- A server, its listening socket and its serve loop. -/
structure ServerState where
  server : CDTPServer
  sock : Nat
  /-- the serve loop has been started and has not returned -/
  loopRunning : Bool
  /-- the descriptors that were given to `close`, or to `closesocket` -/
  closes : List Nat
  ending : Ending
  errors : List CDTPError
  freed : Bool
  /-- the clients that were in the map when the server was freed -/
  lost : List (Nat × CDTPSocket)

/-- `_cdtp_set_error(e, …); return;` -/
def ServerState.report (s : ServerState) (e : CDTPError) : ServerState :=
  { s with errors := s.errors ++ [e] }

/-! ## `cdtp_server_start` -/

/-- What `cdtp_server_start` meets. -/
structure StartOutcome where
  addressOk : Bool
  bindOk : Bool
  listenOk : Bool

/-- `cdtp_server_start`. -/
def ServerState.start (s : ServerState) (o : StartOutcome) : ServerState :=
  if s.server.done then s.report .CDTP_SERVER_CANNOT_RESTART
  else if s.server.serving then s.report .CDTP_SERVER_ALREADY_SERVING
  else if o.addressOk = false then s.report .CDTP_SERVER_ADDRESS_FAILED
  else if o.bindOk = false then s.report .CDTP_SERVER_BIND_FAILED
  else if o.listenOk = false then s.report .CDTP_SERVER_LISTEN_FAILED
  else { s with server := { s.server with serving := true }, loopRunning := true }

/-! ## `cdtp_server_stop` -/

/-- What `cdtp_server_stop` meets. -/
structure StopOutcome where
  /-- the closing of a client's socket, by its id -/
  closeOk : Nat → Bool
  /-- the closing of the listening socket -/
  listenerOk : Bool
  /-- joining or detaching the serve thread, waiting for it, or closing its handle -/
  threadOk : Bool
  /-- a connection that the serve loop is setting up, and enters into the map behind the snapshot -/
  arriving : Option (Nat × CDTPSocket)
  /-- the serve loop returns by itself before `stop` does -/
  loopReturns : Bool

/-- The loop over the snapshot; false if it returns from `stop`. -/
def ServerState.closeClients (o : StopOutcome) :
    List (Nat × CDTPSocket) → ServerState → ServerState × Bool
  | [], s => (s, true)
  | (clientId, sock) :: rest, s =>
    let s := { s with closes := s.closes ++ [sock.sock] }
    if o.closeOk clientId = false then (s.report .CDTP_SERVER_STOP_FAILED, false)
    else
      match s.server.clients.pop clientId with
      | (none, _) => ({ s with ending := .crashed }, false)
      | (some _, clients) =>
        closeClients o rest { s with server := { s.server with clients := clients } }

/-- "Wait for threads to exit", in both branches.  `self` says that the serve thread is the caller. -/
def ServerState.waitForThread (platform : Platform) (self : Bool) (o : StopOutcome)
    (s : ServerState) : ServerState :=
  if o.threadOk = false then s.report .CDTP_SERVE_THREAD_NOT_CLOSING
  else
    match platform, self with
    | .posix, false => { s with loopRunning := false }
    | .posix, true => s
    -- `WaitForSingleObject` if the ids are equal, `CloseHandle` if not
    | .windows, true => { s with ending := .blocked }
    | .windows, false => s

/-- What the serve loop does while `stop` is running. -/
def ServerState.meanwhile (s : ServerState) (o : StopOutcome) (wasRunning : Bool) : ServerState :=
  let clients :=
    match o.arriving with
    | some (clientId, sock) =>
      if wasRunning then (s.server.clients.set clientId sock).2 else s.server.clients
    | none => s.server.clients
  { s with server := { s.server with clients := clients },
           loopRunning := s.loopRunning && !o.loopReturns }

/-- Behind the two flags. -/
def ServerState.shutDown (platform : Platform) (self : Bool) (o : StopOutcome) (s : ServerState) :
    ServerState :=
  match s.closeClients o s.server.clients.iter with
  | (s, false) => s
  | (s, true) =>
    let s := { s with closes := s.closes ++ [s.sock] }
    if o.listenerOk = false then s.report .CDTP_SERVER_STOP_FAILED
    else s.waitForThread platform self o

/-- `cdtp_server_stop`. -/
def ServerState.stop (platform : Platform) (self : Bool) (o : StopOutcome) (s : ServerState) :
    ServerState :=
  if s.server.serving = false then s.report .CDTP_SERVER_NOT_SERVING
  else
    (({ s with server := { s.server with serving := false, done := true },
               ending := .returned }).shutDown platform self o).meanwhile o s.loopRunning

/-! ## `cdtp_server_free` -/

/-- `cdtp_server_free`: the map is freed, but not the sockets in it. -/
def ServerState.free (s : ServerState) : ServerState :=
  if s.server.done = false then s.report .CDTP_SERVER_NOT_DONE
  else { s with freed := true, lost := s.server.clients.iter }

/-! ## The clients -/

section Clients

variable {o : StopOutcome} {s : ServerState}

/-- One round of the loop, for a client that is in the map. -/
theorem closeClients_cons {clientId : Nat} {sock client : CDTPSocket}
    {rest : List (Nat × CDTPSocket)} (hget : s.server.clients.get clientId = some client) :
    ServerState.closeClients o ((clientId, sock) :: rest) s
      = if o.closeOk clientId = false then
          (({ s with closes := s.closes ++ [sock.sock] }).report .CDTP_SERVER_STOP_FAILED, false)
        else
          ServerState.closeClients o rest
            { s with closes := s.closes ++ [sock.sock],
                     server := { s.server with clients := (s.server.clients.pop clientId).2 } } := by
  rw [ServerState.closeClients]
  show (if _ then _ else _) = _
  rw [Clients.pop_eq, hget]

/-- **If every close succeeds**, all clients are closed, and taken out in the order of the snapshot. -/
theorem closeClients_ok (cs : List (Nat × CDTPSocket)) :
    ∀ s : ServerState, (cs.map Prod.fst).Nodup →
      (∀ c ∈ cs, s.server.clients.get c.1 = some c.2) → (∀ c ∈ cs, o.closeOk c.1 = true) →
      ServerState.closeClients o cs s
        = ({ s with
              server := { s.server with clients := s.server.clients.popAll (cs.map Prod.fst) },
              closes := s.closes ++ cs.map fun c => c.2.sock }, true) := by
  induction cs with
  | nil =>
    intro s _ _ _
    rw [ServerState.closeClients, List.map_nil, List.map_nil, List.append_nil]
    rfl
  | cons c rest ih =>
    intro s hnodup hmem hok
    obtain ⟨clientId, sock⟩ := c
    have hfirst : o.closeOk clientId = true := hok (clientId, sock) List.mem_cons_self
    have hpop := Clients.get_pop_of_nodup hnodup hmem
    rw [List.map_cons, List.nodup_cons] at hnodup
    rw [closeClients_cons (hmem (clientId, sock) List.mem_cons_self),
      if_neg (ne_false_of_eq_true hfirst)]
    have hrest := ih
      { s with closes := s.closes ++ [sock.sock],
               server := { s.server with clients := (s.server.clients.pop clientId).2 } }
      hnodup.2 hpop (fun c hc => hok c (List.mem_cons_of_mem _ hc))
    rw [hrest, List.map_cons, List.map_cons, List.append_assoc, List.singleton_append]
    rfl

/-- **If a close fails**, its client stays in the map, and the loop returns with an error. -/
theorem closeClients_failed (cs : List (Nat × CDTPSocket)) :
    ∀ s : ServerState, (cs.map Prod.fst).Nodup →
      (∀ c ∈ cs, s.server.clients.get c.1 = some c.2) → (¬ ∀ c ∈ cs, o.closeOk c.1 = true) →
      ∃ clients closes, ServerState.closeClients o cs s
          = ({ s with server := { s.server with clients := clients }, closes := closes,
                      errors := s.errors ++ [.CDTP_SERVER_STOP_FAILED] }, false) ∧
        ∃ id client, clients.get id = some client := by
  induction cs with
  | nil =>
    intro s _ _ hfail
    exact absurd (fun c hc => absurd hc List.not_mem_nil) hfail
  | cons c rest ih =>
    intro s hnodup hmem hfail
    obtain ⟨clientId, sock⟩ := c
    have hget := hmem (clientId, sock) List.mem_cons_self
    have hpop := Clients.get_pop_of_nodup hnodup hmem
    rw [List.map_cons, List.nodup_cons] at hnodup
    rw [closeClients_cons hget]
    by_cases hfirst : o.closeOk clientId = false
    · rw [if_pos hfirst]
      exact ⟨s.server.clients, _, rfl, clientId, sock, hget⟩
    · rw [if_neg hfirst]
      have hrest : ¬ ∀ c ∈ rest, o.closeOk c.1 = true := by
        intro hok
        refine hfail fun c hc => ?_
        rcases List.mem_cons.mp hc with rfl | hc
        · exact Bool.not_eq_false _ ▸ hfirst
        · exact hok c hc
      exact ih _ hnodup.2 hpop hrest

/-- The loop of `stop` closes and takes out all clients, or returns early and leaves one. -/
theorem closeClients_iter (o : StopOutcome) (s : ServerState) :
    ((∀ c ∈ s.server.clients.iter, o.closeOk c.1 = true) ∧
      ∃ clients, s.closeClients o s.server.clients.iter
          = ({ s with server := { s.server with clients := clients },
                      closes := s.closes ++ s.server.clients.iter.map fun c => c.2.sock }, true) ∧
        ∀ id, clients.get id = none) ∨
    ((¬ ∀ c ∈ s.server.clients.iter, o.closeOk c.1 = true) ∧
      ∃ clients closes, s.closeClients o s.server.clients.iter
          = ({ s with server := { s.server with clients := clients }, closes := closes,
                      errors := s.errors ++ [.CDTP_SERVER_STOP_FAILED] }, false) ∧
        ∃ id client, clients.get id = some client) := by
  have hmem : ∀ c ∈ s.server.clients.iter, s.server.clients.get c.1 = some c.2 :=
    fun c hc => (Clients.mem_iter_iff _).mp hc
  have hnodup := s.server.clients.iter_nodup
  by_cases hok : ∀ c ∈ s.server.clients.iter, o.closeOk c.1 = true
  · exact Or.inl ⟨hok, _, closeClients_ok _ s hnodup hmem hok, s.server.clients.get_popAll_iter⟩
  · exact Or.inr ⟨hok, closeClients_failed _ s hnodup hmem hok⟩

end Clients

/-! ## When stopping is sound -/

/-- The server is really finished: everything closed, nothing left, the serve loop over. -/
structure Finished (s s' : ServerState) : Prop where
  clients : ∀ id client, s.server.clients.get id = some client → client.sock ∈ s'.closes
  listener : s.sock ∈ s'.closes
  empty : ∀ id, s'.server.clients.get id = none
  loop : s'.loopRunning = false

/-- What the `done` flag promises of a call of `stop` from `s` to `s'`: the server is finished when it is
    set, a call that failed can be made again, and freeing drops nothing that is still in use. -/
structure StopSound (s s' : ServerState) : Prop where
  finished : s'.ending = .returned → s'.server.done = true → Finished s s'
  retry : s'.errors ≠ s.errors → ¬ Finished s s' → s'.server.serving = true
  free : s'.free.freed = true → s'.loopRunning = false ∧ s'.free.lost = []

/-- `stop`, called by another thread, gets as far as joining the serve thread, and joins it. -/
def StopOutcome.joins (o : StopOutcome) (platform : Platform) : Bool :=
  platform == .posix && o.listenerOk && o.threadOk

/-- Every close of a client succeeds; and if the serve loop was running it adds no client, and returns
    by itself or is joined. -/
def Completes (platform : Platform) (o : StopOutcome) (s : ServerState) : Prop :=
  (∀ c ∈ s.server.clients.iter, o.closeOk c.1 = true) ∧
    (s.loopRunning = true →
      o.arriving = none ∧ (o.loopReturns = true ∨ o.joins platform = true))

section Stop

variable {o : StopOutcome} {s : ServerState} {platform : Platform}

theorem shutDown_ok (platform : Platform) (hok : ∀ c ∈ s.server.clients.iter, o.closeOk c.1 = true) :
    ∃ clients errors, s.shutDown platform false o
        = { s with server := { s.server with clients := clients },
                   closes := s.closes ++ (s.server.clients.iter.map fun c => c.2.sock) ++ [s.sock],
                   loopRunning := s.loopRunning && !o.joins platform,
                   errors := errors } ∧
      ∀ id, clients.get id = none := by
  rcases closeClients_iter o s with ⟨-, clients, heq, hget⟩ | ⟨hfail, -⟩
  · refine ⟨clients, ?_⟩
    rw [ServerState.shutDown, heq]
    show ∃ errors, (if o.listenerOk = false then _ else _) = _ ∧ _
    rcases hlistener : o.listenerOk with _ | _
    · refine ⟨s.errors ++ [.CDTP_SERVER_STOP_FAILED], ?_, hget⟩
      simp [ServerState.report, StopOutcome.joins, hlistener]
    · rw [if_neg (show ¬ (true = false) by decide)]
      unfold ServerState.waitForThread
      rcases hthread : o.threadOk with _ | _
      · refine ⟨s.errors ++ [.CDTP_SERVE_THREAD_NOT_CLOSING], ?_, hget⟩
        simp [ServerState.report, StopOutcome.joins, hthread]
      · refine ⟨s.errors, ?_, hget⟩
        cases platform <;> simp [StopOutcome.joins, hlistener, hthread]
  · exact absurd hok hfail

theorem shutDown_failed (platform : Platform) (self : Bool)
    (hfail : ¬ ∀ c ∈ s.server.clients.iter, o.closeOk c.1 = true) :
    ∃ clients closes, s.shutDown platform self o
        = { s with server := { s.server with clients := clients }, closes := closes,
                   errors := s.errors ++ [.CDTP_SERVER_STOP_FAILED] } ∧
      ∃ id client, clients.get id = some client := by
  rcases closeClients_iter o s with ⟨hok, -⟩ | ⟨-, clients, closes, heq, hget⟩
  · exact absurd hok hfail
  · refine ⟨clients, closes, ?_, hget⟩
    rw [ServerState.shutDown, heq]

/-- The serve loop takes no client out of the map. -/
theorem meanwhile_ne_empty {wasRunning : Bool} {id : Nat} {client : CDTPSocket}
    (h : s.server.clients.get id = some client) :
    (s.meanwhile o wasRunning).server.clients.get id = some client := by
  rw [ServerState.meanwhile]
  rcases o.arriving with _ | ⟨clientId, sock⟩
  · exact h
  · cases wasRunning with
    | false => exact h
    | true => exact Clients.get_set_of_some h

/-- An arriving client is in the map afterwards. -/
theorem meanwhile_arriving {clientId : Nat} {sock : CDTPSocket}
    (h : o.arriving = some (clientId, sock)) :
    ∃ client, (s.meanwhile o true).server.clients.get clientId = some client := by
  rw [ServerState.meanwhile, h]
  exact Option.isSome_iff_exists.mp Clients.isSome_set

theorem meanwhile_no_arrival {wasRunning : Bool} (h : wasRunning = true → o.arriving = none) :
    (s.meanwhile o wasRunning).server.clients = s.server.clients := by
  rw [ServerState.meanwhile]
  cases wasRunning with
  | true => rw [h rfl]
  | false => rcases o.arriving with _ | ⟨clientId, sock⟩ <;> rfl

/-- **What `stop` does** to a server that is serving: it closes all clients and goes on to the listener,
    or returns at a client that stays in the map. -/
theorem stop_cases (hserving : s.server.serving = true) (platform : Platform) (o : StopOutcome) :
    ((∀ c ∈ s.server.clients.iter, o.closeOk c.1 = true) ∧
      ∃ clients errors, s.stop platform false o
          = ServerState.meanwhile
              { s with server := { s.server with serving := false, done := true, clients := clients },
                       closes := s.closes ++ (s.server.clients.iter.map fun c => c.2.sock) ++ [s.sock],
                       loopRunning := s.loopRunning && !o.joins platform,
                       ending := .returned, errors := errors } o s.loopRunning ∧
        ∀ id, clients.get id = none) ∨
    ((¬ ∀ c ∈ s.server.clients.iter, o.closeOk c.1 = true) ∧
      ∃ clients closes, s.stop platform false o
          = ServerState.meanwhile
              { s with server := { s.server with serving := false, done := true, clients := clients },
                       closes := closes, ending := .returned,
                       errors := s.errors ++ [.CDTP_SERVER_STOP_FAILED] } o s.loopRunning ∧
        ∃ id client, clients.get id = some client) := by
  rw [ServerState.stop, if_neg (ne_false_of_eq_true hserving)]
  by_cases hok : ∀ c ∈ s.server.clients.iter, o.closeOk c.1 = true
  · obtain ⟨clients, errors, heq, hnone⟩ := @shutDown_ok o
      { s with server := { s.server with serving := false, done := true }, ending := .returned }
      platform hok
    rw [heq]
    exact Or.inl ⟨hok, clients, errors, rfl, hnone⟩
  · obtain ⟨clients, closes, heq, hsome⟩ := @shutDown_failed o
      { s with server := { s.server with serving := false, done := true }, ending := .returned }
      platform false hok
    rw [heq]
    exact Or.inr ⟨hok, clients, closes, rfl, hsome⟩

/-- **After `stop`**, however it went, the server is not serving but done. -/
theorem stop_flags (hserving : s.server.serving = true) (platform : Platform) (o : StopOutcome) :
    (s.stop platform false o).ending = .returned ∧
      (s.stop platform false o).server.serving = false ∧
      (s.stop platform false o).server.done = true := by
  rcases stop_cases hserving platform o with ⟨-, clients, errors, heq, -⟩ | ⟨-, clients, closes, heq, -⟩
  · rw [heq]
    exact ⟨rfl, rfl, rfl⟩
  · rw [heq]
    exact ⟨rfl, rfl, rfl⟩

/-- So it can neither be stopped again nor started, but it can be freed. -/
theorem stop_final (hserving : s.server.serving = true) (platform : Platform) (o o' : StopOutcome)
    (o'' : StartOutcome) :
    (s.stop platform false o).stop platform false o'
        = (s.stop platform false o).report .CDTP_SERVER_NOT_SERVING ∧
      (s.stop platform false o).start o''
        = (s.stop platform false o).report .CDTP_SERVER_CANNOT_RESTART ∧
      (s.stop platform false o).free.freed = true := by
  obtain ⟨-, hserving', hdone⟩ := stop_flags hserving platform o
  refine ⟨?_, ?_, ?_⟩
  · rw [ServerState.stop, if_pos hserving']
  · rw [ServerState.start, if_pos hdone]
  · rw [ServerState.free, if_neg (ne_false_of_eq_true hdone)]

/-- The server is finished exactly if the call completes. -/
theorem finished_iff (hserving : s.server.serving = true) (platform : Platform) (o : StopOutcome) :
    Finished s (s.stop platform false o) ↔ Completes platform o s := by
  rcases stop_cases hserving platform o with
    ⟨hok, clients, errors, heq, hnone⟩ | ⟨hok, clients, closes, heq, id, client, hclient⟩
  · rw [heq]
    constructor
    · intro h
      refine ⟨hok, fun hrunning => ⟨?_, ?_⟩⟩
      · rcases harriving : o.arriving with _ | ⟨clientId, sock⟩
        · rfl
        · rw [hrunning] at h
          obtain ⟨client, hclient⟩ := @meanwhile_arriving o _ clientId sock harriving
          exact absurd ((h.empty clientId).symm.trans hclient) (by simp)
      · have hloop : ((s.loopRunning && !o.joins platform) && !o.loopReturns) = false := h.loop
        rw [hrunning] at hloop
        revert hloop
        cases o.loopReturns <;> cases o.joins platform <;> decide
    · rintro ⟨-, hrunning⟩
      refine ⟨?_, ?_, ?_, ?_⟩
      · intro id client hclient
        refine List.mem_append_left _ (List.mem_append_right _ ?_)
        exact List.mem_map_of_mem (f := fun c => c.2.sock) ((Clients.mem_iter_iff _).mpr hclient)
      · exact List.mem_append_right _ (List.mem_singleton_self s.sock)
      · intro id
        rw [meanwhile_no_arrival fun h => (hrunning h).1]
        exact hnone id
      · show ((s.loopRunning && !o.joins platform) && !o.loopReturns) = false
        rcases h : s.loopRunning with _ | _
        · rfl
        · rcases (hrunning h).2 with h' | h' <;> simp [h']
  · -- the client whose close failed is still there
    rw [heq]
    constructor
    · intro h
      refine absurd ((h.empty id).symm.trans (meanwhile_ne_empty ?_)) (Option.some_ne_none client).symm
      exact hclient
    · rintro ⟨hok', -⟩
      exact absurd hok' hok

/-- **When `done` tells the truth**: exactly if every close of a client succeeds, and the serve loop is
    over or comes to its end, by itself or by a join, without adding a client. -/
theorem stop_sound_iff (hserving : s.server.serving = true) (platform : Platform)
    (o : StopOutcome) : StopSound s (s.stop platform false o) ↔ Completes platform o s := by
  obtain ⟨hreturned, -, hdone⟩ := stop_flags hserving platform o
  rw [← finished_iff hserving platform o]
  constructor
  · intro h
    exact h.finished hreturned hdone
  · intro h
    refine ⟨fun _ _ => h, fun _ hno => absurd h hno, fun _ => ⟨h.loop, ?_⟩⟩
    rw [ServerState.free, if_neg (ne_false_of_eq_true hdone), List.eq_nil_iff_forall_not_mem]
    rintro ⟨id, client⟩ hmem
    exact absurd ((h.empty id).symm.trans ((Clients.mem_iter_iff _).mp hmem)) (by simp)

end Stop

/-! ## A server with two clients -/

def demoClients : Clients CDTPSocket :=
  ((Clients.empty.set 0 { sock := 4, key := demoKey }).2.set 1 { sock := 5, key := demoKey }).2

def demoServing : ServerState where
  server := { demoStart.server with clients := demoClients }
  sock := 3
  loopRunning := true
  closes := []
  ending := .returned
  errors := []
  freed := false
  lost := []

/-- Nothing fails, nobody arrives. -/
def demoStop : StopOutcome where
  closeOk := fun _ => true
  listenerOk := true
  threadOk := true
  arriving := none
  loopReturns := false

theorem stop_sound_iff_demo :
    demoServing.server.serving = true ∧
      (StopSound demoServing (demoServing.stop .posix false demoStop) ↔
        Completes .posix demoStop demoServing) ∧
      Completes .posix demoStop demoServing :=
  ⟨rfl, stop_sound_iff rfl .posix demoStop, fun _ _ => rfl, fun _ => ⟨rfl, Or.inr rfl⟩⟩

/-- The first `close` fails: both clients are still in the map of a server that is done.  And on Windows,
    nothing fails, but the serve loop is still running. -/
theorem stop_unsound :
    ¬ StopSound demoServing
      (demoServing.stop .posix false { demoStop with closeOk := fun id => id != 0 }) ∧
    ¬ StopSound demoServing (demoServing.stop .windows false demoStop) := by
  have hserving : demoServing.server.serving = true := rfl
  have hget : demoClients.get 0 = some { sock := 4, key := demoKey } := by decide
  constructor
  · intro h
    obtain ⟨hreturned, -, hdone⟩ :=
      stop_flags hserving .posix { demoStop with closeOk := fun id => id != 0 }
    have hok := ((finished_iff hserving _ _).mp (h.finished hreturned hdone)).1
    exact absurd (hok _ ((Clients.mem_iter_iff demoClients).mpr hget)) (by decide)
  · intro h
    obtain ⟨hreturned, -, hdone⟩ := stop_flags hserving .windows demoStop
    have hloop := ((finished_iff hserving _ _).mp (h.finished hreturned hdone)).2 rfl
    exact absurd hloop.2 (by decide)

end Cdtp
