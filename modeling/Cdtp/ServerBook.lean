/-
  The book of a server's blocks, over whole runs.

  The process feeds the serve loop, and between any two of its parts other threads send, event threads
  return and callbacks free their payloads.  `stepLost` says how many blocks a step loses.
  `serverBlocks_exact` is the balance: nothing is ever freed twice or without having been allocated, and
  every block on loan is one of the server's, of its client map's, of a client's, of a thread's or of a
  callback's, or was lost; and `cdtp_server_stop` and `cdtp_server_free` give back what is not lost.  The
  removals and the stop come between two iterations of the loop; what they can do within one is the
  subject of `Interleaving`.

  What is lost adds up: `torn_bodies_leak` has a peer that costs the server a block as often as it likes.
-/
import Mathlib.Data.List.TakeWhile
import Cdtp.ClientMapDraining
import Cdtp.Lib.Runs
import Cdtp.ServerBlocks

namespace Cdtp

open CMem hiding malloc
open Ownership Runs

/-! ## The process -/

section Functions

variable {Ctx PKey : Type}

/-- A part of the loop, with whether the thread it may start does start; a call of `cdtp_server_send` or
    `cdtp_server_send_all`; an event thread that returns; or a callback that is done with its payload. -/
inductive HeapInput (Ctx PKey : Type) where
  | loop (i : ServeInput Ctx PKey) (startOk : Bool)
  | send (O : OpenSSL Ctx PKey) (rand : Option (Nat → UInt8)) (clientId : Nat) (data : Bytes)
      (sendOk : Bool)
  | sendAll (O : OpenSSL Ctx PKey) (rand : Nat → Option (Nat → UInt8)) (data : Bytes)
      (sendOk : Nat → Bool)
  | finish (k : Nat)
  | dispose (k : Nat)

/-- The blocks of a part of the loop.  What the loop itself does is `serveStep`. -/
def heapLoopStep (M : Machine) (hs : HeapServe) (i : ServeInput Ctx PKey) (startOk : Bool) :
    HeapM HeapServe :=
  let loop := serveStep M hs.loop i
  match hs.loop.status, hs.loop.todo, i with
  | .running, [], .acceptError _ => heapBeginIteration { hs with loop := loop }
  | .running, [], .acceptConnection c O =>
    if hs.loop.server.serving = false then pure { hs with loop := loop }
    else do
      let hs ← heapAcceptConnection M startOk c O hs.loop.server.nextClientId hs
      heapBeginIteration { hs with loop := loop }
  | .running, (id, _) :: _, .turn header body O => do
    let hs ← heapReact M O startOk id hs (receive M hs.loop.sizeBuffer header body)
    heapEndIteration { hs with loop := loop }
  | .running, [], .remove id closeOk =>
    if hs.loop.server.serving = false then pure { hs with loop := loop }
    else do
      let hs ← heapRemoveClient id closeOk hs
      pure { hs with loop := loop }
  | _, _, _ => pure { hs with loop := loop }

/-- `_cdtp_serve_thread`, once the loop has returned. -/
def heapReturn (hs : HeapServe) : HeapM HeapServe :=
  if hs.loop.status = .returned then do
    heapEndLoop hs.info
    pure { hs with info := none }
  else pure hs

/-- A call of `cdtp_server_send` crashes. -/
def sendCrashes (M : Machine) (O : OpenSSL Ctx PKey) (server : CDTPServer)
    (rand : Option (Nat → UInt8)) (clientId : Nat) (data : Bytes) : Bool :=
  !(serverSend M O server rand clientId data data.length).isOk

/-- What the inputs do to the loop. -/
def processStep (M : Machine) (s : ServeState) (i : HeapInput Ctx PKey) : ServeState :=
  if s.status = .crashed then s
  else
    match i with
    | .loop i _ => serveStep M s i
    | .send O rand clientId data _ =>
      if sendCrashes M O s.server rand clientId data then { s with status := .crashed } else s
    | .sendAll O rand data _ =>
      if (s.server.clients.iter.map Prod.fst).any fun id => sendCrashes M O s.server (rand id) id data
      then { s with status := .crashed } else s
    | .finish _ => s
    | .dispose _ => s

/-- What they do to the blocks. -/
def heapProcessStep (M : Machine) (hs : HeapServe) : HeapInput Ctx PKey → HeapM HeapServe
  | .loop i startOk => do
    let hs ← heapLoopStep M hs i startOk
    heapReturn hs
  | .send O rand clientId data sendOk => do
    heapServerSend M O hs.loop.server rand clientId data sendOk
    pure hs
  | .sendAll O rand data sendOk => do
    heapServerSendAll M O hs.loop.server rand data sendOk
    pure hs
  | .finish k => hs.start (heapFinish k)
  | .dispose k => hs.start (heapDispose k)

/-- One step of the process. -/
def heapServeStep (M : Machine) (hs : HeapServe) (i : HeapInput Ctx PKey) : HeapM (Unit × HeapServe) :=
  if hs.loop.status = .crashed then pure ((), hs)
  else do
    let hs' ← heapProcessStep M hs i
    pure ((), { hs' with loop := processStep M hs.loop i })

/-! ## What is lost -/

def serveLost (M : Machine) (s : ServeState) (startOk : Bool) (i : ServeInput Ctx PKey) : Nat :=
  match s.status, s.todo, i with
  | .running, [], .acceptConnection c O =>
    if s.server.serving = false then 0 else acceptLost M s startOk c O
  | .running, (id, _) :: _, .turn header body _ =>
    reactLost s startOk id (receive M s.sizeBuffer header body)
  | .running, [], .remove id closeOk =>
    if s.server.serving = false then 0 else removeLost s id closeOk
  | _, _, _ => 0

def stepLost (M : Machine) (s : ServeState) (i : HeapInput Ctx PKey) : Nat :=
  if s.status = .crashed then 0
  else
    match i with
    | .loop i startOk => serveLost M s startOk i
    | .send O rand clientId data sendOk => sendLost M O s.server rand clientId data sendOk
    | .sendAll O rand data sendOk => sendAllLost M O s.server rand data sendOk
    | .finish _ => 0
    | .dispose _ => 0

/-- What a run loses. -/
def lostIn (M : Machine) (s : ServeState) (is : List (HeapInput Ctx PKey)) : Nat :=
  spent (processStep M) (stepLost M) s is

/-! ## A life -/

/-- The loop of `cdtp_server_stop`; false if it returns from there. -/
def heapCloseClients (closeOk : Nat → Bool) : List Nat → HeapServe → HeapM (Bool × HeapServe)
  | [], hs => pure (true, hs)
  | id :: rest, hs =>
    if closeOk id = false then pure (false, hs)
    else do
      let popped ← hs.callMap (.pop id)
      heapFreeClient (hs.clients id)
      heapCloseClients closeOk rest popped

/-- `cdtp_server_stop`, after which the serve thread finds that the server is not serving and returns. -/
def heapServerStop (closeOk : Nat → Bool) (hs : HeapServe) : HeapM HeapServe := do
  let ids := hs.loop.server.clients.iter.map Prod.fst
  let iter ← mallocs (2 + ids.length)
  let (closed, stopped) ← heapCloseClients closeOk ids hs
  if closed then do
    frees iter
    heapEndLoop hs.info
    pure stopped
  else do
    heapEndLoop hs.info
    pure stopped

/-- `cdtp_server_free`, of the server object, its socket and its client map. -/
def heapServerFree (server sock : Nat) (table : HeapMap CDTPSocket) : HeapM Unit := do
  free sock
  heapClientMapFree table
  free server

/-- The map without a client. -/
def popClient (clients : Clients CDTPSocket) (id : Nat) : Clients CDTPSocket := (clients.pop id).2

/-- The blocks that a `cdtp_server_stop` leaves: the nodes of the tables that its calls of
    `_cdtp_client_map_pop` replace, and if it cannot close a client its iterator, and this client and those
    behind it. -/
def stopLost (closeOk : Nat → Bool) (clients : Clients CDTPSocket) : Nat :=
  let ids := clients.iter.map Prod.fst
  spent popClient (fun clients id => mapLost clients (.pop id)) clients (ids.takeWhile closeOk) +
    if ids.all closeOk then 0 else 2 + ids.length + 3 * (ids.dropWhile closeOk).length

/-- A server that is created and started, and what the start of its thread meets. -/
structure ServerSetup where
  onRecv : Bool
  onConnect : Bool
  onDisconnect : Bool
  sizeBuffer : Bytes
  threadOk : Bool
  /-- the thread can make the listening socket non-blocking -/
  nonBlockingOk : Bool

/-- Its loop, behind `_cdtp_server_call_serve` and the first lines of `_cdtp_server_serve`: both can only
    leave it as one that has returned.  (The errors they report are not kept.) -/
def ServerSetup.serve (o : ServerSetup) : ServeState :=
  { startServe o.onRecv o.onConnect o.onDisconnect o.sizeBuffer with
      status := if o.threadOk && o.nonBlockingOk then .running else .returned }

/-- The thread that does not start loses its block. -/
def ServerSetup.lost (o : ServerSetup) : Nat := eventLost true o.threadOk 0

/-- The blocks of its thread. -/
def heapCallServe (o : ServerSetup) (table : HeapMap CDTPSocket) : HeapM HeapServe := do
  let info ← heapStartLoop o.threadOk
  heapReturn
    { loop := o.serve, info := info, clients := fun _ => { sock := 0, key := { self := 0, data := 0 } },
      table := table, iter := [], events := .none }

/-- `cdtp_server`, `cdtp_server_start`, and a run. -/
def heapServerRun (M : Machine) (o : ServerSetup) (is : List (HeapInput Ctx PKey)) :
    HeapM ((Nat × Nat) × HeapServe) := do
  let server ← malloc
  let sock ← malloc
  let table ← heapClientMap
  let hs ← heapCallServe o table
  let r ← answers (heapServeStep M) hs is
  pure ((server, sock), r.2)

/-- The process is there, and the loop is over or between two iterations. -/
def HeapServe.Stoppable (hs : HeapServe) : Prop :=
  hs.loop.status ≠ .crashed ∧ (hs.loop.status = .running → hs.loop.todo = [])

instance (hs : HeapServe) : Decidable hs.Stoppable := inferInstanceAs (Decidable (_ ∧ _))

/-- The same to its end, with `cdtp_server_stop` and `cdtp_server_free`. -/
def heapServerLife (M : Machine) (o : ServerSetup) (is : List (HeapInput Ctx PKey))
    (closeOk : Nat → Bool) : HeapM HeapServe := do
  let r ← heapServerRun M o is
  if r.2.Stoppable then do
    let stopped ← heapServerStop closeOk r.2
    heapServerFree r.1.1 r.1.2 stopped.table
    pure r.2
  else pure r.2

end Functions

/-! ## One step -/

/-- A step has led to the state `loop` of the serve loop; unless the process is gone, its blocks are
    accounted for, and `lost` more. -/
def Counted (loop : ServeState) (lost : Nat) (P : Multiset Nat) (hs : HeapServe) (R : Multiset Nat) :
    Prop :=
  hs.loop = loop ∧ (loop.status ≠ .crashed → hs.Settled ∧
    Balance (hs.owned loop.server.clients) lost P R)

section Step

variable {Ctx PKey : Type} {M : Machine} {hs : HeapServe} {P : Multiset Nat} {startOk : Bool}
  {loop : ServeState} {lost : Nat} {R : Multiset Nat}

/-- What a part of the loop leaves: the thread still has its block, and there is a snapshot only within an
    iteration. -/
structure InLoop (info : Option Nat) (loop : ServeState) (lost : Nat) (P : Multiset Nat) (hs : HeapServe)
    (R : Multiset Nat) : Prop where
  info : hs.info = info
  tabled : hs.Tabled loop.server.clients
  iter : loop.status = .running → loop.todo = [] → hs.iter = []
  balance : Balance (hs.owned loop.server.clients) lost P R

/-- The same, unless the process is gone. -/
def Held (info : Option Nat) (loop : ServeState) (lost : Nat) (P : Multiset Nat) (hs : HeapServe)
    (R : Multiset Nat) : Prop :=
  hs.loop = loop ∧ (loop.status ≠ .crashed → InLoop info loop lost P hs R)

/-- A part that leaves the loop where it is in its iteration. -/
theorem held_of_moved {hs' : HeapServe} (hiter : loop.status = .running → loop.todo = [] → hs.iter = [])
    (h : Moved hs loop.server.clients lost P hs' R) :
    Held hs.info loop lost P { hs' with loop := loop } R :=
  ⟨rfl, fun _ => ⟨h.info, ⟨h.tabled.map, h.tabled.nodes⟩,
    fun hrunning htodo => h.iter.trans (hiter hrunning htodo), h.balance⟩⟩

/-- A part that goes on to begin or to end an iteration, which it does not if the process is gone. -/
theorem held_then {hs' : HeapServe} {next : HeapServe → HeapM HeapServe}
    (hnext : ∀ clients P, Triple (HeapServe.owned { hs' with loop := loop } clients + P)
      (next { hs' with loop := loop }) (Sighted { hs' with loop := loop } clients P))
    (hgone : loop.status = .crashed → next { hs' with loop := loop } = pure { hs' with loop := loop })
    (h : loop.status = .crashed ∨ Moved hs loop.server.clients lost P hs' R) :
    Triple R (next { hs' with loop := loop }) (Held hs.info loop lost P) := by
  rcases h with hcrashed | ⟨-, -, hinfo, htabled, L, rfl, hcard⟩
  · rw [hgone hcrashed]
    exact Triple.pure ⟨rfl, fun hno => absurd hcrashed hno⟩
  · rw [add_assoc]
    apply (hnext loop.server.clients (L + P)).mono
    rintro hs'' R ⟨hloop, hinfo', htable, hiter, rfl⟩
    refine ⟨hloop, fun _ => ⟨hinfo'.trans hinfo, ?_, hiter, L, (add_assoc _ _ _).symm, hcard⟩⟩
    exact ⟨htable ▸ htabled.map, htable ▸ htabled.nodes⟩

/-- **A part of the loop.** -/
theorem heapLoopStep_triple (hsettled : hs.Settled) (i : ServeInput Ctx PKey) :
    Triple (hs.owned hs.loop.server.clients + P) (heapLoopStep M hs i startOk)
      (Held hs.info (serveStep M hs.loop i) (serveLost M hs.loop startOk i) P) := by
  unfold heapLoopStep
  split
  · rename_i e hstatus htodo
    have hclients : (serveStep M hs.loop (.acceptError e : ServeInput Ctx PKey)).server.clients
        = hs.loop.server.clients := by
      simp only [serveStep, hstatus, htodo]
      split
      · rfl
      · rw [ServeState.acceptError]
        split
        · rfl
        · split
          · rfl
          · rfl
    have hlost : serveLost M hs.loop startOk (.acceptError e : ServeInput Ctx PKey) = 0 := by
      simp only [serveLost, hstatus, htodo]
    have hbegin := @heapBeginIteration_triple
      { hs with loop := serveStep M hs.loop (.acceptError e : ServeInput Ctx PKey) }
      hs.loop.server.clients P (hsettled.iter hstatus htodo)
    apply hbegin.mono
    rintro hs' R ⟨hloop, hinfo, htable, hiter, rfl⟩
    have htabled : hs'.Tabled hs.loop.server.clients :=
      ⟨htable ▸ hsettled.tabled.map, htable ▸ hsettled.tabled.nodes⟩
    rw [hlost]
    refine ⟨hloop, fun _ => ⟨hinfo, ?_, hiter, ?_⟩⟩
    · rw [hclients]
      exact htabled
    · rw [hclients]
      exact Balance.same
  · rename_i c O hstatus htodo
    have hlost : serveLost M hs.loop startOk (.acceptConnection c O)
        = if hs.loop.server.serving = false then 0 else acceptLost M hs.loop startOk c O := by
      simp only [serveLost, hstatus, htodo]
    have hstep : serveStep M hs.loop (.acceptConnection c O)
        = if hs.loop.server.serving = false then { hs.loop with status := .returned }
          else hs.loop.acceptConnection M O c := by
      simp only [serveStep, hstatus, htodo]
    have hiter : hs.iter = [] := hsettled.iter hstatus htodo
    rw [hlost, hstep]
    by_cases hserving : hs.loop.server.serving = false
    · rw [if_pos hserving, if_pos hserving, if_pos hserving]
      exact Triple.pure (held_of_moved (fun _ _ => hiter) (Moved.same hsettled.tabled))
    rw [if_neg hserving, if_neg hserving, if_neg hserving]
    apply (heapAcceptConnection_triple hsettled.tabled c).bind
    intro hs' R h
    rcases h with hcrashed | h
    · rw [heapBeginIteration, if_neg (by rw [hcrashed]; decide)]
      exact Triple.pure ⟨rfl, fun hno => absurd hcrashed hno⟩
    · apply held_then (fun clients P => ?_) (fun hcrashed => ?_) (.inr h)
      · exact @heapBeginIteration_triple { hs' with loop := _ } clients P (h.iter.trans hiter)
      · exact if_neg (by rw [hcrashed]; decide)
  · rename_i id sock rest header body O hstatus htodo
    have hlost : serveLost M hs.loop startOk (.turn header body O)
        = reactLost hs.loop startOk id (receive M hs.loop.sizeBuffer header body) := by
      simp only [serveLost, hstatus, htodo]
    have hstep : serveStep M hs.loop (.turn header body O)
        = ServeState.react M O (ServeState.buffered { hs.loop with todo := rest } header) id
            (receive M hs.loop.sizeBuffer header body) := by
      simp only [serveStep, hstatus, htodo]
      rfl
    rw [hlost, hstep]
    apply (heapReact_triple hsettled.tabled
      (s := ServeState.buffered { hs.loop with todo := rest } header) rfl
      (receive M hs.loop.sizeBuffer header body)).bind
    intro hs' R h
    apply held_then (fun clients P => ?_) (fun hcrashed => ?_) h
    · exact @heapEndIteration_triple { hs' with loop := _ } clients P
    · exact if_neg fun hend => absurd (hcrashed.symm.trans hend.1) (by decide)
  · rename_i id closeOk hstatus htodo
    have hlost : serveLost M hs.loop startOk (.remove id closeOk : ServeInput Ctx PKey)
        = if hs.loop.server.serving = false then 0 else removeLost hs.loop id closeOk := by
      simp only [serveLost, hstatus, htodo]
    have hstep : serveStep M hs.loop (.remove id closeOk : ServeInput Ctx PKey)
        = hs.loop.removeClient id closeOk := by
      simp only [serveStep, hstatus, htodo]
    rw [hlost, hstep]
    have hiter : hs.iter = [] := hsettled.iter hstatus htodo
    by_cases hserving : hs.loop.server.serving = false
    · rw [if_pos hserving, if_pos hserving, ServeState.removeClient, if_pos hserving]
      exact Triple.pure (held_of_moved (fun _ _ => hiter) (Moved.same hsettled.tabled))
    · rw [if_neg hserving, if_neg hserving]
      apply (heapRemoveClient_triple hsettled.tabled (Bool.not_eq_false _ ▸ hserving) closeOk).bind
      intro hs' R h
      exact Triple.pure (held_of_moved (fun _ _ => hiter) h)
  · rename_i i status todo j haccept hconnection hturn hremove
    have hstep : serveStep M hs.loop i = hs.loop := by
      rw [serveStep]
      all_goals assumption
    have hlost : serveLost M hs.loop startOk i = 0 := by
      rw [serveLost]
      all_goals assumption
    rw [hstep, hlost]
    exact Triple.pure (held_of_moved hsettled.iter (Moved.same hsettled.tabled))

/-- **The thread returns** with its loop. -/
theorem heapReturn_triple (hs : HeapServe) (hrunning : loop.status = .running → hs.info.isSome = true)
    (h : Held hs.info loop lost P hs R) : Triple R (heapReturn hs) (Counted loop lost P) := by
  obtain ⟨rfl, h⟩ := h
  rw [heapReturn]
  rcases hstatus : hs.loop.status with _ | _ | _
  · obtain ⟨-, htabled, hiter, howned⟩ := h (by rw [hstatus]; decide)
    have hno : ∀ {Q : Prop}, hs.loop.status = .returned → Q := by
      intro Q hreturned
      rw [hstatus] at hreturned
      exact absurd hreturned (by decide)
    rw [if_neg (by decide)]
    exact Triple.pure ⟨rfl, fun _ => ⟨⟨htabled, hiter, fun _ => hrunning hstatus, hno⟩, howned⟩⟩
  · obtain ⟨-, htabled, -, L, rfl, hcard⟩ := h (by rw [hstatus]; decide)
    have hno : ∀ {Q : Prop}, hs.loop.status = .running → Q := by
      intro Q hrunning
      rw [hstatus] at hrunning
      exact absurd hrunning (by decide)
    rw [if_pos rfl]
    apply heapEndLoop_then (P := HeapServe.owned { hs with info := none } hs.loop.server.clients + L + P)
    · simp only [HeapServe.owned, given]
      abel
    · refine Triple.pure ⟨rfl, fun _ => ⟨⟨?_, hno, hno, fun _ => rfl⟩, L, rfl, hcard⟩⟩
      exact ⟨htabled.map, htabled.nodes⟩
  · rw [if_neg (by decide)]
    exact Triple.pure ⟨rfl, fun hcrashed => absurd hstatus hcrashed⟩

/-- A loop that runs behind a part of it ran before. -/
theorem running_of_serveStep {s : ServeState} {i : ServeInput Ctx PKey} (h : s.status ≠ .running) :
    serveStep M s i = s := by
  rw [serveStep]
  all_goals
    intros
    contradiction

/-- A call that crashes or leaves the loop as it was. -/
theorem counted_call (hsettled : hs.Settled) (crashes : Bool) (hlost : ∃ L, R = L + P ∧ L.card = lost)
    {Q : Multiset Nat} (hQ : P = hs.owned hs.loop.server.clients + Q) :
    Counted (if crashes then { hs.loop with status := .crashed } else hs.loop) lost Q
      { hs with loop := if crashes then { hs.loop with status := .crashed } else hs.loop } R := by
  obtain ⟨L, rfl, hcard⟩ := hlost
  refine ⟨rfl, fun hno => ?_⟩
  cases crashes with
  | true => exact absurd rfl hno
  | false =>
    refine ⟨hsettled, L, ?_, hcard⟩
    rw [hQ, add_left_comm, add_assoc]
    rfl

/-- **One step of the process.** -/
theorem heapServeStep_triple (hrunning : hs.loop.status ≠ .crashed) (hsettled : hs.Settled)
    (i : HeapInput Ctx PKey) :
    Triple (hs.owned hs.loop.server.clients + P) (heapServeStep M hs i) fun r R =>
      Counted (processStep M hs.loop i) (stepLost M hs.loop i) P r.2 R := by
  unfold heapServeStep processStep stepLost
  rw [if_neg hrunning, if_neg hrunning, if_neg hrunning]
  have hevents : ∀ f : Events → HeapM Events,
      (∀ P, Triple (hs.events.blocks + P) (f hs.events) (Keeps 0 P)) →
      Triple (hs.owned hs.loop.server.clients + P) (hs.start f) fun hs' R =>
        Counted hs.loop 0 P { hs' with loop := hs.loop } R := by
    intro f hf
    rw [← zero_add (hs.owned hs.loop.server.clients + P)]
    apply (start_triple hsettled.tabled fun P => by rw [zero_add]; exact hf P).mono
    rintro hs' R ⟨-, hiter, hinfo, htabled, howned⟩
    refine ⟨rfl, fun _ => ⟨⟨⟨htabled.map, htabled.nodes⟩, ?_, ?_, ?_⟩, howned⟩⟩
    · exact fun h h' => hiter.trans (hsettled.iter h h')
    · exact fun h => (congrArg Option.isSome hinfo).trans (hsettled.running h)
    · exact fun h => hinfo.trans (hsettled.returned h)
  cases i with
  | loop i startOk =>
    have hloop : Triple (hs.owned hs.loop.server.clients + P)
        (heapProcessStep M hs (.loop i startOk : HeapInput Ctx PKey))
        (Counted (serveStep M hs.loop i) (serveLost M hs.loop startOk i) P) := by
      apply (heapLoopStep_triple hsettled i).bind
      rintro hs' R ⟨hloop', h⟩
      rcases hcrashed : decide ((serveStep M hs.loop i).status = .crashed) with _ | _
      · obtain ⟨hinfo, htabled, hiter, hbalance⟩ := h (of_decide_eq_false hcrashed)
        refine heapReturn_triple _ (fun hstep => ?_) ⟨hloop', fun _ => ⟨rfl, htabled, hiter, hbalance⟩⟩
        rw [hinfo]
        apply hsettled.running
        by_contra hno
        rw [running_of_serveStep hno] at hstep
        exact hno hstep
      · have hcrashed := of_decide_eq_true hcrashed
        rw [heapReturn, hloop', hcrashed, if_neg (by decide)]
        exact Triple.pure ⟨hloop', fun hno => absurd hcrashed hno⟩
    apply hloop.bind
    rintro hs' R ⟨hloop', h⟩
    refine Triple.pure ⟨rfl, fun hno => ?_⟩
    rw [show ({ hs' with loop := serveStep M hs.loop i } : HeapServe) = hs' by rw [← hloop']]
    exact h hno
  | send O rand clientId data sendOk =>
    have hsend : Triple (hs.owned hs.loop.server.clients + P)
        (heapProcessStep M hs (.send O rand clientId data sendOk)) fun hs' R => hs' = hs ∧
          ∃ L, R = L + (hs.owned hs.loop.server.clients + P) ∧
            L.card = sendLost M O hs.loop.server rand clientId data sendOk := by
      apply (heapServerSend_triple hs.loop.server rand data sendOk).bind
      intro _ R h
      exact Triple.pure ⟨rfl, h⟩
    apply hsend.bind
    rintro hs' R ⟨rfl, h⟩
    exact Triple.pure (counted_call hsettled _ h rfl)
  | sendAll O rand data sendOk =>
    have hsend : Triple (hs.owned hs.loop.server.clients + P)
        (heapProcessStep M hs (.sendAll O rand data sendOk)) fun hs' R => hs' = hs ∧
          ∃ L, R = L + (hs.owned hs.loop.server.clients + P) ∧
            L.card = sendAllLost M O hs.loop.server rand data sendOk := by
      apply (heapServerSendAll_triple hs.loop.server rand data sendOk).bind
      intro _ R h
      exact Triple.pure ⟨rfl, h⟩
    apply hsend.bind
    rintro hs' R ⟨rfl, h⟩
    exact Triple.pure (counted_call hsettled _ h rfl)
  | finish k =>
    apply (hevents (heapFinish k) fun P => heapFinish_triple k).bind
    intro hs' R h
    exact Triple.pure h
  | dispose k =>
    apply (hevents (heapDispose k) fun P => heapDispose_triple k).bind
    intro hs' R h
    exact Triple.pure h

end Step

/-! ## Whole runs -/

section Life

variable {Ctx PKey : Type} {M : Machine} {P : Multiset Nat}

/-- The book of a run that began in the state `s`, `lost` blocks after the server was created. -/
def Book (M : Machine) (s : ServeState) (lost : Nat) (past : List (HeapInput Ctx PKey)) (hs : HeapServe)
    (P : Multiset Nat) : Prop :=
  hs.loop = run (processStep M) s past ∧
    (hs.loop.status ≠ .crashed → hs.Settled ∧
      ∃ L, P = hs.owned hs.loop.server.clients + L ∧ L.card = lost + lostIn M s past)

/-- **The book of every run** is right. -/
theorem answers_book {s : ServeState} {lost : Nat} {hs : HeapServe}
    (h : Book M s lost ([] : List (HeapInput Ctx PKey)) hs P) (is : List (HeapInput Ctx PKey)) :
    Triple P (answers (heapServeStep M) hs is) fun r R => Book M s lost is r.2 R := by
  have hrun := @Triple.answers HeapServe (HeapInput Ctx PKey) Unit (heapServeStep M)
    (fun hs past _ P => Book M s lost past hs P) (by
      intro hs past _ P i ⟨hloop, hbook⟩
      have hafter : processStep M hs.loop i = run (processStep M) s (past ++ [i]) := by
        rw [run_append, ← hloop]
        rfl
      by_cases hcrashed : hs.loop.status = .crashed
      · -- the process is gone, and stays so
        have hsame : processStep M hs.loop i = hs.loop := if_pos hcrashed
        unfold heapServeStep
        rw [if_pos hcrashed]
        exact Triple.pure ⟨hsame.symm.trans hafter, fun h => absurd hcrashed h⟩
      · obtain ⟨hsettled, L, rfl, hcard⟩ := hbook hcrashed
        apply (heapServeStep_triple hcrashed hsettled i).mono
        rintro r R ⟨hloop', hcounted⟩
        refine ⟨hloop'.trans hafter, fun hrunning => ?_⟩
        rw [hloop'] at hrunning
        obtain ⟨hsettled', L', rfl, hcard'⟩ := hcounted hrunning
        refine ⟨hsettled', L' + L, ?_, ?_⟩
        · rw [hloop', add_assoc]
        · have hnow : spent (processStep M) (stepLost M) (run (processStep M) s past) [i]
              = stepLost M hs.loop i := by
            rw [← hloop]
            rfl
          rw [Multiset.card_add, hcard, hcard', lostIn, lostIn, spent_append, hnow]
          omega) is hs [] [] P h
  rw [List.nil_append] at hrun
  exact hrun

theorem iter_of_get_none {clients : Clients CDTPSocket} (h : ∀ id, clients.get id = none) :
    clients.iter = [] := by
  rw [List.eq_nil_iff_forall_not_mem]
  rintro ⟨id, sock⟩ hmem
  have hget := Clients.mem_iter_iff _ |>.mp hmem
  exact absurd ((h id).symm.trans hget) (Option.some_ne_none sock).symm

/-- **The start**: the thread has its block, or has returned, or the block is lost. -/
theorem heapCallServe_triple (o : ServerSetup) {table : HeapMap CDTPSocket}
    (hmap : table.map = clientMap) (hnodes : table.nodes.length = CDTP_MAP_START_CAPACITY) :
    Triple (table.blocks + P) (heapCallServe o table) fun hs R =>
      ∃ Q, R = Q + P ∧ Book M o.serve o.lost ([] : List (HeapInput Ctx PKey)) hs Q := by
  have hclients : o.serve.server.clients = Clients.empty := rfl
  apply (heapStartLoop_triple o.threadOk).bind
  rintro info R ⟨hsome, L, rfl, hcard⟩
  let hs : HeapServe :=
    { loop := o.serve, info := info, clients := fun _ => { sock := 0, key := { self := 0, data := 0 } },
      table := table, iter := [], events := .none }
  have howned : given (fun b => {b}) info + L + (table.blocks + P)
      = hs.owned o.serve.server.clients + L + P := by
    rw [hclients, HeapServe.owned, stored, iter_of_get_none Clients.get_empty]
    show _ = (0 + 0 : Multiset Nat) + (table.blocks + 0 + 0 + given (fun b => {b}) info) + L + P
    rw [add_zero, add_zero, zero_add]
    abel
  have htabled : hs.Tabled o.serve.server.clients := by
    rw [hclients]
    exact ⟨hmap, hnodes⟩
  have hrunning : o.serve.status = .running → hs.info.isSome = true := by
    intro h
    show info.isSome = true
    rw [hsome]
    rcases hthread : o.threadOk with _ | _
    · rw [ServerSetup.serve, hthread] at h
      exact absurd h Status.noConfusion
    · rfl
  have hno : o.serve.status ≠ .crashed := by
    show (if o.threadOk && o.nonBlockingOk then Status.running else .returned) ≠ _
    split
    · decide
    · decide
  apply (heapReturn_triple hs hrunning
    ⟨rfl, fun _ => ⟨rfl, htabled, fun _ _ => rfl, L, howned, hcard⟩⟩).mono
  rintro hs' R ⟨hloop, hcounted⟩
  obtain ⟨hsettled, L', rfl, hcard'⟩ := hcounted hno
  exact ⟨_, rfl, hloop, fun _ => ⟨hsettled, L', by rw [hloop], hcard'⟩⟩

/-- The server object, and the book of the run. -/
theorem heapServerRun_triple (o : ServerSetup) (is : List (HeapInput Ctx PKey)) :
    Triple 0 (heapServerRun M o is) fun r R =>
      ∃ Q, R = {r.1.1} + {r.1.2} + Q ∧ Book M o.serve o.lost is r.2 Q := by
  apply Triple.malloc_then
  intro server
  apply Triple.malloc_then
  intro sock
  apply heapClientMap_triple.call (zero_add _).symm
  rintro table - ⟨rfl, hmap, hnodes⟩
  apply (@heapCallServe_triple Ctx PKey M _ o table hmap hnodes).bind
  rintro hs R ⟨Q, rfl, hbook⟩
  apply ((answers_book hbook is).frame ({sock} + ({server} + 0))).bind
  rintro r R ⟨Q', rfl, hbook'⟩
  exact Triple.pure ⟨Q', by rw [add_zero]; abel, hbook'⟩

/-! ### The stop -/

/-- Which clients the map still has is not looked at; what counts is which blocks are freed, and what the
    pops do to the table. -/
theorem heapCloseClients_triple (closeOk : Nat → Bool) (ids : List Nat) :
    ∀ (hs : HeapServe) (clients : Clients CDTPSocket) (P : Multiset Nat), hs.Tabled clients →
      Triple (hs.table.blocks + ((ids.map fun id => (hs.clients id).blocks).sum + P))
        (heapCloseClients closeOk ids hs) fun r R => r.1 = ids.all closeOk ∧
          r.2.Tabled (run popClient clients (ids.takeWhile closeOk)) ∧
          Balance (r.2.table.blocks + ((ids.dropWhile closeOk).map fun id => (hs.clients id).blocks).sum)
            (spent popClient (fun clients id => mapLost clients (.pop id)) clients
              (ids.takeWhile closeOk)) P R := by
  induction ids with
  | nil =>
    intro hs clients P ht
    refine Triple.pure ⟨rfl, ht, 0, ?_, rfl⟩
    show _ = hs.table.blocks + (0 : Multiset Nat) + 0 + P
    rw [add_zero, add_zero]
    show hs.table.blocks + (0 + P) = _
    rw [zero_add]
  | cons id rest ih =>
    intro hs clients P ht
    rw [heapCloseClients, List.all_cons]
    rcases hclose : closeOk id with _ | _
    · rw [if_pos rfl, List.dropWhile_cons_of_neg (by rw [hclose]; decide),
        List.takeWhile_cons_of_neg (by rw [hclose]; decide), ← add_assoc]
      exact Triple.pure ⟨rfl, ht, Balance.same⟩
    · rw [if_neg (by decide), List.dropWhile_cons_of_pos hclose, List.takeWhile_cons_of_pos hclose,
        List.map_cons, List.sum_cons, spent_cons, run_cons]
      apply (callMap_triple ht (tableCall_pop clients id)).bind
      rintro - R ⟨table, L, rfl, ht', hcard, rfl⟩
      have hP : HeapMap.blocks table + (L + ((hs.clients id).blocks +
            (rest.map fun id => (hs.clients id).blocks).sum + P))
          = (hs.clients id).blocks + (table.blocks + ((rest.map fun id => (hs.clients id).blocks).sum +
            (L + P))) := by
        abel
      rw [hP, ← hcard]
      apply (heapFreeClient_triple (hs.clients id)).bind
      rintro _ R rfl
      apply (ih { hs with table := table } (popClient clients id) (L + P) ht').mono
      rintro r R ⟨hall, htabled, hbalance⟩
      exact ⟨hall, htabled, hbalance.add⟩

/-- **`cdtp_server_stop`** frees all clients, or loses those it does not come to. -/
theorem heapServerStop_triple (closeOk : Nat → Bool) (hs : HeapServe)
    (ht : hs.Tabled hs.loop.server.clients) :
    Triple (hs.table.blocks + stored hs.loop.server.clients hs.clients +
        (given (fun b => {b}) hs.info + P))
      (heapServerStop closeOk hs) fun hs' R => hs'.table.nodes.length = hs'.table.map.capacity ∧
        Balance hs'.table.blocks (stopLost closeOk hs.loop.server.clients) P R := by
  rw [heapServerStop, stored, stopLost]
  generalize hs.loop.server.clients.iter.map Prod.fst = ids
  apply (Triple.mallocs (2 + ids.length)).bind
  rintro iter R ⟨rfl, hlen⟩
  have hP : (iter : Multiset Nat) + (hs.table.blocks +
        (ids.map fun id => (hs.clients id).blocks).sum + (given (fun b => {b}) hs.info + P))
      = hs.table.blocks + ((ids.map fun id => (hs.clients id).blocks).sum +
        ((iter : Multiset Nat) + (given (fun b => {b}) hs.info + P))) := by
    abel
  rw [hP]
  apply (heapCloseClients_triple closeOk ids hs _ _ ht).bind
  rintro ⟨closed, hs'⟩ R ⟨rfl, htabled, L, rfl, hcard⟩
  have hnodes : hs'.table.nodes.length = hs'.table.map.capacity := by
    rw [htabled.nodes, htabled.map]
  dsimp only
  rcases hall : ids.all closeOk with _ | _
  · rw [if_neg Bool.noConfusion, if_neg Bool.noConfusion, ← hcard]
    apply heapEndLoop_then (P := hs'.table.blocks +
      (L + (((ids.dropWhile closeOk).map fun id => (hs.clients id).blocks).sum + iter)) + P) (by abel)
    refine Triple.pure ⟨hnodes, _, rfl, ?_⟩
    rw [Multiset.card_add, Multiset.card_add, card_blocks, Multiset.coe_card, hlen]
    omega
  · have hnone : ids.dropWhile closeOk = [] := by
      rw [List.dropWhile_eq_nil_iff]
      exact fun id hid => List.all_eq_true.mp hall id hid
    rw [if_pos rfl, if_pos rfl, hnone, List.map_nil, List.sum_nil, ← hcard]
    apply Triple.frees_then (P := given (fun b => {b}) hs.info + (hs'.table.blocks + L + P)) (by abel)
    apply heapEndLoop_then rfl
    exact Triple.pure ⟨hnodes, L, rfl, rfl⟩

/-- **`cdtp_server_free`** gives back the object, its socket and its map. -/
theorem heapServerFree_triple (server sock : Nat) {table : HeapMap CDTPSocket}
    (h : table.nodes.length = table.map.capacity) :
    Triple ({server} + {sock} + table.blocks + P) (heapServerFree server sock table)
      fun _ R => R = P := by
  apply Triple.free_then (P := table.blocks + ({server} + P)) (by abel)
  apply (heapClientMapFree_triple h).bind
  rintro _ R rfl
  exact Triple.free

/-- A whole life. -/
theorem heapServerLife_triple (o : ServerSetup) (is : List (HeapInput Ctx PKey)) (closeOk : Nat → Bool) :
    Triple 0 (heapServerLife M o is closeOk) fun hs R => hs.loop = run (processStep M) o.serve is ∧
      (hs.Stoppable → hs.Settled ∧ R.card = hs.iter.length + hs.events.count +
        (o.lost + lostIn M o.serve is) + stopLost closeOk hs.loop.server.clients) := by
  apply (@heapServerRun_triple Ctx PKey M o is).bind
  rintro ⟨⟨server, sock⟩, hs⟩ R ⟨Q, rfl, hloop, hbook⟩
  by_cases hstop : hs.Stoppable
  · rw [if_pos hstop]
    obtain ⟨hsettled, L, rfl, hcard⟩ := hbook hstop.1
    let rest : Multiset Nat := {server} + {sock} + (hs.events.blocks + (hs.iter : Multiset Nat) + L)
    have hP : {server} + {sock} + (hs.owned hs.loop.server.clients + L)
        = hs.table.blocks + stored hs.loop.server.clients hs.clients +
          (given (fun b => {b}) hs.info + rest) := by
      simp only [HeapServe.owned, rest]
      abel
    rw [hP]
    apply (heapServerStop_triple closeOk hs hsettled.tabled).bind
    rintro stopped R ⟨hnodes, L', rfl, hcard'⟩
    have hheld : stopped.table.blocks + L' + rest = {server} + {sock} + stopped.table.blocks +
        (L' + (hs.events.blocks + (hs.iter : Multiset Nat) + L)) := by
      simp only [rest]
      abel
    rw [hheld]
    apply (heapServerFree_triple server sock hnodes).bind
    rintro _ R rfl
    refine Triple.pure ⟨hloop, fun _ => ⟨hsettled, ?_⟩⟩
    simp only [Multiset.card_add, Events.card_blocks, Multiset.coe_card, hcard, hcard']
    omega
  · rw [if_neg hstop]
    exact Triple.pure ⟨hloop, fun h => absurd h hstop⟩

/-- **The blocks of a server, exactly.**  In every run, with any callbacks, any peers, any failing threads
    and any calls of `send`, nothing is freed twice or without having been allocated.  At its end three
    blocks are on loan for each client, those of the server object and of its thread, those of the client
    map (the map, its array, and a node for each slot), of an iteration that was broken off, of the event
    threads and of the callbacks, and those that were lost.  `cdtp_server_stop` and `cdtp_server_free` then
    give back those of the clients, of the thread, of the map and of the server object, unless a client
    cannot be closed; but not the nodes of the tables that the map has replaced. -/
theorem serverBlocks_exact (M : Machine) (o : ServerSetup) (is : List (HeapInput Ctx PKey))
    (closeOk : Nat → Bool) :
    (∃ r h, heapServerRun M o is Heap.empty = some (r, h) ∧ r.2.loop = run (processStep M) o.serve is ∧
      (r.2.loop.status ≠ .crashed → h.live.length
        = 2 + (2 + r.2.loop.server.clients.map.capacity) +
          (if r.2.loop.status = .running then 1 else 0) + 3 * r.2.loop.server.clients.iter.length +
          r.2.iter.length + r.2.events.count + (o.lost + lostIn M o.serve is))) ∧
    ∃ hs h, heapServerLife M o is closeOk Heap.empty = some (hs, h) ∧
      hs.loop = run (processStep M) o.serve is ∧
      (hs.Stoppable → h.live.length
        = hs.iter.length + hs.events.count + (o.lost + lostIn M o.serve is) +
          stopLost closeOk hs.loop.server.clients) := by
  have hrun := @heapServerRun_triple Ctx PKey M o is
  constructor
  · obtain ⟨r, h, hreturns, Q, hlive, hloop, hbook⟩ := hrun.run
    refine ⟨r, h, hreturns, hloop, fun hno => ?_⟩
    obtain ⟨hsettled, L, rfl, hcard⟩ := hbook hno
    have hinfo : r.2.info.toList.length = if r.2.loop.status = .running then 1 else 0 := by
      rcases hstatus : r.2.loop.status with _ | _ | _
      · obtain ⟨info, hinfo⟩ := Option.isSome_iff_exists.mp (hsettled.running hstatus)
        rw [hinfo]
        rfl
      · rw [hsettled.returned hstatus]
        rfl
      · exact absurd hstatus hno
    have hcount := congrArg Multiset.card hlive
    have hobject : ({r.1.1} + {r.1.2} : Multiset Nat).card = 2 := rfl
    rw [Multiset.coe_card, Multiset.card_add _ (_ + L), hobject, Multiset.card_add,
      card_owned hsettled.tabled, hcard, hinfo] at hcount
    omega
  · obtain ⟨hs, h, hreturns, hloop, hbook⟩ := (@heapServerLife_triple Ctx PKey M o is closeOk).run
    refine ⟨hs, h, hreturns, hloop, fun hstop => ?_⟩
    obtain ⟨-, hcount⟩ := hbook hstop
    rw [Multiset.coe_card] at hcount
    exact hcount

end Life
/-! ## A server that loses blocks for ever -/

section Torn

variable {Ctx PKey : Type} {M : Machine} {O : OpenSSL Ctx PKey} {s : ServeState} {key : AESKey}
  {c : Connection PKey}

/-- A peer that connects, sends a header, whatever it announces, and is gone. -/
def tornRound (c : Connection PKey) (O : OpenSSL Ctx PKey) (header : Bytes) :
    List (HeapInput Ctx PKey) :=
  [.loop (.acceptConnection c O) true, .loop (.turn (.data header) (.data []) O) true]

/-- One after the other. -/
def tornRounds (c : Connection PKey) (O : OpenSSL Ctx PKey) (header : Bytes) :
    Nat → List (HeapInput Ctx PKey)
  | 0 => []
  | n + 1 => tornRound c O header ++ tornRounds c O header n

/-- A serving server at the head of its loop, without clients, with the smallest table, and without errors
    so far. -/
structure Idle (s : ServeState) : Prop where
  running : s.status = .running
  todo : s.todo = []
  serving : s.server.serving = true
  clients : ∀ id, s.server.clients.get id = none
  capacity : s.server.clients.map.capacity = CDTP_MAP_MIN_CAPACITY
  errors : s.errors = []

/-- A smallest table with room in it is kept by every call. -/
theorem mapLost_of_small {clients clients' : Clients CDTPSocket} {call : TableCall CDTPSocket}
    {reply : MapReply CDTPSocket} (hcap : clients.map.capacity = CDTP_MAP_MIN_CAPACITY)
    (hroom : clients.iter.length < CDTP_MAP_MIN_CAPACITY)
    (hcall : tableCall clients.map call = some (reply, clients'.map)) :
    mapLost clients call = 0 ∧ clients'.map.capacity = CDTP_MAP_MIN_CAPACITY := by
  obtain ⟨e, map, heffect, -, -⟩ := effectCall_spec clients.wf call
  obtain ⟨reply', htable⟩ := tableCall_of_effectCall heffect
  rw [hcall, Option.some.injEq, Prod.mk.injEq] at htable
  obtain ⟨-, rfl⟩ := htable
  have hsize : clients.map.size = clients.iter.length := clients.iter_size
  obtain ⟨hcases, -, -⟩ := effectCall_capacity clients.wf heffect
  rw [mapLost, heffect]
  cases hcases with
  | keep _ hreplaced hkept => exact ⟨hreplaced, hkept.trans hcap⟩
  | grow _ _ hfull => omega
  | shrink _ _ hgt => omega

/-- A map with one client lists that one. -/
theorem iter_of_get_update {clients : Clients CDTPSocket} {id : Nat} {sock : CDTPSocket}
    (h : ∀ id' sock', clients.get id' = some sock' ↔ id' = id ∧ sock' = sock) :
    clients.iter = [(id, sock)] := by
  have hmem : ∀ x, x ∈ clients.iter ↔ x = (id, sock) := by
    rintro ⟨id', sock'⟩
    rw [clients.mem_iter_iff, h, Prod.mk.injEq]
  have hnodup : clients.iter.Nodup := List.Nodup.of_map _ clients.iter_nodup
  have hperm : clients.iter.Perm [(id, sock)] := by
    rw [List.perm_ext_iff_of_nodup hnodup (List.nodup_singleton _)]
    intro x
    rw [hmem, List.mem_singleton]
  exact List.perm_singleton.mp hperm

theorem receive_torn (M : Machine) (sizeBuffer : Bytes) {header : Bytes}
    (hheader : header.length = CDTP_LENSIZE) :
    receive M sizeBuffer (.data header) (.data []) = .bodyEnd := by
  have hread : (ReadResult.data header).code CDTP_LENSIZE = 5 := by
    rw [ReadResult.code_ok rfl]
    show toInt (header.take CDTP_LENSIZE).length = 5
    rw [← hheader, List.take_length, hheader]
    decide
  have hbody : ∀ n, (ReadResult.data []).code n = 0 := by
    intro n
    rw [ReadResult.code_ok rfl]
    show toInt ([].take n).length = 0
    rw [List.take_nil]
    decide
  rw [receive, hread, if_neg (by decide), if_neg (by decide), receiveBody, hbody, if_neg (by decide),
    if_pos rfl]

/-- The connection becomes the only client, and is looked at next. -/
theorem torn_accept (h : Idle s) (hblocking : c.blockingOk = true) (hnonBlocking : c.nonBlockingOk = true)
    (hexchange : serverExchangeKeys M O c.exchange = .ok (some key))
    (hset : mapLost s.server.clients
      (.set s.server.nextClientId (some { sock := c.sock, key := key })) = 0) :
    processStep M s (.loop (.acceptConnection c O) true)
      = ((s.allocated c.sock).addClient s.server.nextClientId { sock := c.sock, key := key }).snapshot ∧
    stepLost M s (.loop (.acceptConnection c O) true) = exchangeLost M O c.exchange := by
  have hno : s.status ≠ .crashed := by rw [h.running]; decide
  have hget := h.clients s.server.nextClientId
  constructor
  · have hstep : serveStep M s (.acceptConnection c O) = s.acceptConnection M O c := by
      simp [serveStep, h.running, h.todo, h.serving]
    rw [processStep, if_neg hno]
    show serveStep M s (.acceptConnection c O) = _
    rw [hstep]
    simp only [ServeState.acceptConnection, hblocking, hexchange, hnonBlocking]
    rfl
  · rw [stepLost, if_neg hno]
    simp only [serveLost, h.running, h.todo, h.serving, acceptLost, hblocking, hexchange, hnonBlocking,
      hget, hset]
    simp [eventLost]

/-- The turn of an only client that finds a header and no body. -/
theorem torn_turn {id : Nat} {sock : CDTPSocket} {header body : ReadResult}
    (hrunning : s.status = .running) (htodo : s.todo = [(id, sock)])
    (hget : s.server.clients.get id = some sock)
    (hreceive : receive M s.sizeBuffer header body = .bodyEnd)
    (hpop : mapLost s.server.clients (.pop id) = 0) :
    (∃ sizeBuffer closed log, processStep M s (.loop (.turn header body O) true)
        = { s with todo := [], sizeBuffer := sizeBuffer, closed := closed, log := log,
                   server := { s.server with clients := (s.server.clients.pop id).2 } }) ∧
    stepLost M s (.loop (.turn header body O) true) = 1 := by
  have hno : s.status ≠ .crashed := by rw [hrunning]; decide
  constructor
  · have hstep : serveStep M s (.turn header body O)
        = (ServeState.buffered { s with todo := [] } header).dropClient id := by
      simp only [serveStep, hrunning, htodo, ServeState.clientTurn, hreceive, ServeState.react]
    have hdrop := @dropClient_some (ServeState.buffered { s with todo := [] } header) id sock hget
    rw [processStep, if_neg hno]
    show ∃ sizeBuffer closed log, serveStep M s (.turn header body O) = _
    rw [hstep, hdrop]
    exact ⟨_, _, _, rfl⟩
  · rw [stepLost, if_neg hno]
    simp only [serveLost, hrunning, htodo, hreceive, reactLost, dropLost, hpop]
    simp [eventLost]

/-- **One round**: the server is as it was, but for a buffer. -/
theorem torn_round (h : Idle s) (hblocking : c.blockingOk = true) (hnonBlocking : c.nonBlockingOk = true)
    (hexchange : serverExchangeKeys M O c.exchange = .ok (some key)) {header : Bytes}
    (hheader : header.length = CDTP_LENSIZE) :
    Idle (run (processStep M) s (tornRound c O header)) ∧
      lostIn M s (tornRound c O header) = exchangeLost M O c.exchange + 1 := by
  have hget := h.clients s.server.nextClientId
  let sock : CDTPSocket := { sock := c.sock, key := key }
  have hclients := (Clients.set_of_none hget sock).2
  have honly : ∀ id' sock', (s.server.clients.set s.server.nextClientId sock).2.get id' = some sock' ↔
      id' = s.server.nextClientId ∧ sock' = sock := by
    intro id' sock'
    rw [hclients]
    by_cases heq : id' = s.server.nextClientId
    · subst heq
      rw [Function.update_self, Option.some.injEq]
      exact ⟨fun h => ⟨rfl, h.symm⟩, fun h => h.2.symm⟩
    · rw [Function.update_of_ne heq, h.clients]
      exact ⟨fun h => absurd h (Option.some_ne_none sock').symm, fun h => absurd h.1 heq⟩
  -- neither the one client nor its end make the table grow or shrink
  have hnone := iter_of_get_none h.clients
  have hone := iter_of_get_update honly
  obtain ⟨hset, hcap⟩ := mapLost_of_small h.capacity (by rw [hnone]; decide)
    (tableCall_set s.server.clients s.server.nextClientId sock)
  obtain ⟨hpop, hcap'⟩ := mapLost_of_small hcap (by rw [hone]; show 1 < 16; omega)
    (tableCall_pop (s.server.clients.set s.server.nextClientId sock).2 s.server.nextClientId)
  obtain ⟨haccept, hlost⟩ := torn_accept h hblocking hnonBlocking hexchange hset
  have hturn := @torn_turn Ctx PKey M O
    ((s.allocated c.sock).addClient s.server.nextClientId sock).snapshot s.server.nextClientId sock
    (.data header) (.data []) h.running hone ((honly _ _).mpr ⟨rfl, rfl⟩) (receive_torn M _ hheader) hpop
  obtain ⟨⟨sizeBuffer, closed, log, hafter⟩, hlost₁⟩ := hturn
  constructor
  · rw [tornRound, run_cons, run_cons, run_nil, haccept, hafter]
    refine ⟨h.running, rfl, h.serving, ?_, hcap', h.errors⟩
    intro id
    show ((s.server.clients.set s.server.nextClientId sock).2.pop s.server.nextClientId).2.get id = none
    rw [Clients.get_pop, hclients, Function.update_idem]
    by_cases heq : id = s.server.nextClientId
    · rw [heq, Function.update_self]
    · rw [Function.update_of_ne heq, h.clients]
  · rw [lostIn, tornRound, spent_cons, spent_cons, spent_nil, haccept, hlost, hlost₁]

/-- **All rounds.** -/
theorem torn_rounds (hblocking : c.blockingOk = true) (hnonBlocking : c.nonBlockingOk = true)
    (hexchange : serverExchangeKeys M O c.exchange = .ok (some key)) {header : Bytes}
    (hheader : header.length = CDTP_LENSIZE) (n : Nat) : ∀ s : ServeState, Idle s →
    Idle (run (processStep M) s (tornRounds c O header n)) ∧
      lostIn M s (tornRounds c O header n) = n * (exchangeLost M O c.exchange + 1) := by
  induction n with
  | zero => intro s h; exact ⟨h, (Nat.zero_mul _).symm⟩
  | succ n ih =>
    intro s h
    obtain ⟨hidle, hlost⟩ := torn_round h hblocking hnonBlocking hexchange hheader
    obtain ⟨hidle', hlost'⟩ := ih _ hidle
    rw [lostIn] at hlost hlost'
    rw [lostIn, tornRounds, run_append, spent_append, hlost, hlost', Nat.succ_mul, Nat.add_comm]
    exact ⟨hidle', rfl⟩

/-- An idle server is stopped without a loss. -/
theorem Idle.stopLost (h : Idle s) (closeOk : Nat → Bool) :
    stopLost closeOk s.server.clients = 0 := by
  have hnone := iter_of_get_none h.clients
  rw [Cdtp.stopLost, hnone]
  rfl

/-- **Torn bodies.**  A peer that can complete the key exchange makes the server lose a block as often as
    it likes: it connects, sends a header and closes.  The server serves on, reports no error, and is
    without clients every time; when it is then stopped and freed, what is left besides the blocks of
    event threads that still run are one buffer for each connection, and what each key exchange loses. -/
theorem torn_bodies_leak (o : ServerSetup) (hthread : o.threadOk = true)
    (hnonBlocking : o.nonBlockingOk = true) (hblocking : c.blockingOk = true)
    (hnonBlocking' : c.nonBlockingOk = true)
    (hexchange : serverExchangeKeys M O c.exchange = .ok (some key)) (header : Bytes)
    (hheader : header.length = CDTP_LENSIZE) (closeOk : Nat → Bool) (n : Nat) :
    Idle (run (processStep M) o.serve (tornRounds c O header n)) ∧
      ∃ hs h, heapServerLife M o (tornRounds c O header n) closeOk Heap.empty = some (hs, h) ∧
        hs.Stoppable ∧
        h.live.length = hs.events.count + n * (exchangeLost M O c.exchange + 1) := by
  have hrunning : o.serve.status = .running := by
    show (if o.threadOk && o.nonBlockingOk then Status.running else .returned) = _
    rw [hthread, hnonBlocking]
    rfl
  obtain ⟨hidle, hlost⟩ := torn_rounds hblocking hnonBlocking' hexchange hheader n o.serve
    ⟨hrunning, rfl, rfl, Clients.get_empty, rfl, rfl⟩
  refine ⟨hidle, ?_⟩
  obtain ⟨hs, h, hreturns, hloop, hcount⟩ :=
    (@heapServerLife_triple Ctx PKey M o (tornRounds c O header n) closeOk).run
  have hstop : hs.Stoppable := by
    rw [HeapServe.Stoppable, hloop, hidle.running]
    exact ⟨Status.noConfusion, fun _ => hidle.todo⟩
  refine ⟨hs, h, hreturns, hstop, ?_⟩
  obtain ⟨hsettled, hlive⟩ := hcount hstop
  have hiter : hs.iter = [] :=
    hsettled.iter (by rw [hloop]; exact hidle.running) (by rw [hloop]; exact hidle.todo)
  have hstarted : o.lost = 0 := by
    rw [ServerSetup.lost, hthread]
    rfl
  rw [Multiset.coe_card, hiter, hloop, hlost, hidle.stopLost, hstarted, List.length_nil] at hlive
  omega

/-- The server of the demo. -/
def demoSetup : ServerSetup where
  onRecv := true
  onConnect := true
  onDisconnect := true
  sizeBuffer := [170, 170, 170, 170, 170]
  threadOk := true
  nonBlockingOk := true

/-- A thousand rounds with a peer that announces four megabytes every time. -/
theorem torn_bodies_leak_thousand :
    (run (processStep plainMachine) demoSetup.serve
        (tornRounds demoConnection plainOpenSSL [0, 0, 64, 0, 0] 1000)).errors = [] ∧
      ∃ hs h, heapServerLife plainMachine demoSetup
          (tornRounds demoConnection plainOpenSSL [0, 0, 64, 0, 0] 1000) (fun _ => true) Heap.empty
            = some (hs, h) ∧
        hs.Stoppable ∧ h.live.length
          = hs.events.count
            + 1000 * (exchangeLost plainMachine plainOpenSSL demoConnection.exchange + 1) := by
  have hexchange : serverExchangeKeys plainMachine plainOpenSSL demoConnection.exchange
      = .ok (some demoKey) := by decide +kernel
  obtain ⟨hidle, hlife⟩ := @torn_bodies_leak Bytes Unit plainMachine plainOpenSSL demoKey demoConnection
    demoSetup rfl rfl rfl rfl hexchange [0, 0, 64, 0, 0] rfl (fun _ => true) 1000
  exact ⟨hidle.errors, hlife⟩

end Torn

end Cdtp
