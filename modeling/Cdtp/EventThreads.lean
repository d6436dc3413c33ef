/-
  The threads that run the callbacks (`threading.c`).

  Whenever a callback is due, the serve loop or the handle loop writes what is to be called into a
  `CDTPEventFunc`, and starts a thread on it, which finds the function by the name that it reads there.
  The fields of the other events are left as `malloc` gave them; `eventThread_packed` says that no thread
  ever looks at them, and that each one makes just the call it was started for.

  Nothing orders the threads among each other.  `Threaded` is a loop together with its threads, and
  `callbacks_any_order` says what can come of it: the callbacks that are called are those that were due,
  each once, and every order of them is possible.
-/
import Cdtp.Lib.Pool
import Cdtp.Platforms

namespace Cdtp

open CMem

/-! ## The calls, and what the threads are given -/

/-- What a `void *` points to: data of the library, or the user's argument. -/
inductive VoidPtr (A : Type) where
  | data (bytes : Bytes)
  | arg (a : A)

/-- The types of event functions. -/
inductive CallbackType where
  | ServerOnRecvCallback
  | ServerOnConnectCallback
  | ServerOnDisconnectCallback
  | ClientOnRecvCallback
  | ClientOnDisconnectedCallback
  deriving DecidableEq, Repr

/-- `union func`: a pointer, and the type of the function it points to. -/
structure Func (P : Type) where
  type : CallbackType
  ptr : P

/-- The member of the union for `type`; a function of another type cannot be called through it. -/
def Func.member {P : Type} (f : Func P) (type : CallbackType) : Option P :=
  if f.type = type then some f.ptr else none

/-- A call of an event function, with its arguments. -/
inductive EventCall (P A : Type) where
  | serverOnRecv (func server : P) (clientId : Nat) (data : VoidPtr A) (dataSize : Nat) (arg : VoidPtr A)
  | serverOnConnect (func server : P) (clientId : Nat) (arg : VoidPtr A)
  | serverOnDisconnect (func server : P) (clientId : Nat) (arg : VoidPtr A)
  | clientOnRecv (func client : P) (data : VoidPtr A) (dataSize : Nat) (arg : VoidPtr A)
  | clientOnDisconnected (func client : P) (arg : VoidPtr A)

structure CDTPEventFunc (P A : Type) where
  name : String
  func : Func P
  server : P
  client : P
  size_t1 : Nat
  voidp1 : VoidPtr A
  size_t2 : Nat
  voidp2 : VoidPtr A

section Packing

variable {P A : Type}

/-- `_cdtp_event_thread`: the call it makes.  The outer `none` is a call through the wrong member of the
    union, the inner one a name that is none of the five, for which nothing is called. -/
def eventThread (e : CDTPEventFunc P A) : Option (Option (EventCall P A)) :=
  if e.name = "on_recv_server" then
    (e.func.member .ServerOnRecvCallback).map fun f =>
      some (.serverOnRecv f e.server e.size_t1 e.voidp1 e.size_t2 e.voidp2)
  else if e.name = "on_connect" then
    (e.func.member .ServerOnConnectCallback).map fun f =>
      some (.serverOnConnect f e.server e.size_t1 e.voidp1)
  else if e.name = "on_disconnect" then
    (e.func.member .ServerOnDisconnectCallback).map fun f =>
      some (.serverOnDisconnect f e.server e.size_t1 e.voidp1)
  else if e.name = "on_recv_client" then
    (e.func.member .ClientOnRecvCallback).map fun f =>
      some (.clientOnRecv f e.client e.voidp1 e.size_t2 e.voidp2)
  else if e.name = "on_disconnected" then
    (e.func.member .ClientOnDisconnectedCallback).map fun f =>
      some (.clientOnDisconnected f e.client e.voidp1)
  else some none

/-- `_cdtp_start_thread_on_recv_server`, into the memory `block` that `malloc` returned. -/
def startThreadOnRecvServer (block : CDTPEventFunc P A) (func server : P) (clientId : Nat)
    (data : VoidPtr A) (dataSize : Nat) (arg : VoidPtr A) : CDTPEventFunc P A :=
  { block with
    name := "on_recv_server", func := { type := .ServerOnRecvCallback, ptr := func }
    server := server, size_t1 := clientId, voidp1 := data, size_t2 := dataSize, voidp2 := arg }

/-- `_cdtp_start_thread_on_connect`. -/
def startThreadOnConnect (block : CDTPEventFunc P A) (func server : P) (clientId : Nat)
    (arg : VoidPtr A) : CDTPEventFunc P A :=
  { block with
    name := "on_connect", func := { type := .ServerOnConnectCallback, ptr := func }
    server := server, size_t1 := clientId, voidp1 := arg }

/-- `_cdtp_start_thread_on_disconnect`. -/
def startThreadOnDisconnect (block : CDTPEventFunc P A) (func server : P) (clientId : Nat)
    (arg : VoidPtr A) : CDTPEventFunc P A :=
  { block with
    name := "on_disconnect", func := { type := .ServerOnDisconnectCallback, ptr := func }
    server := server, size_t1 := clientId, voidp1 := arg }

/-- `_cdtp_start_thread_on_recv_client`. -/
def startThreadOnRecvClient (block : CDTPEventFunc P A) (func client : P) (data : VoidPtr A)
    (dataSize : Nat) (arg : VoidPtr A) : CDTPEventFunc P A :=
  { block with
    name := "on_recv_client", func := { type := .ClientOnRecvCallback, ptr := func }
    client := client, voidp1 := data, size_t2 := dataSize, voidp2 := arg }

/-- `_cdtp_start_thread_on_disconnected`. -/
def startThreadOnDisconnected (block : CDTPEventFunc P A) (func client : P) (arg : VoidPtr A) :
    CDTPEventFunc P A :=
  { block with
    name := "on_disconnected", func := { type := .ClientOnDisconnectedCallback, ptr := func }
    client := client, voidp1 := arg }

/-- What the thread for a call is given. -/
def EventCall.packed (block : CDTPEventFunc P A) : EventCall P A → CDTPEventFunc P A
  | .serverOnRecv func server clientId data dataSize arg =>
    startThreadOnRecvServer block func server clientId data dataSize arg
  | .serverOnConnect func server clientId arg => startThreadOnConnect block func server clientId arg
  | .serverOnDisconnect func server clientId arg =>
    startThreadOnDisconnect block func server clientId arg
  | .clientOnRecv func client data dataSize arg =>
    startThreadOnRecvClient block func client data dataSize arg
  | .clientOnDisconnected func client arg => startThreadOnDisconnected block func client arg

/-- The thread makes the call it was started for, whatever the rest of its memory holds. -/
theorem eventThread_packed (block : CDTPEventFunc P A) (call : EventCall P A) :
    eventThread (call.packed block) = some (some call) := by
  cases call with
  | serverOnRecv func server clientId data dataSize arg => rfl
  | serverOnConnect func server clientId arg => rfl
  | serverOnDisconnect func server clientId arg => rfl
  | clientOnRecv func client data dataSize arg => rfl
  | clientOnDisconnected func client arg => rfl

end Packing

/-! ## A loop and its threads -/

section Threads

variable {S I P A : Type}

/-- A loop, the threads it has started, and the calls whose thread could not be started; each of these
    is reported as `CDTP_EVENT_THREAD_START_FAILED`, and its memory is lost. -/
structure Threaded (S P A : Type) where
  loop : S
  threads : Tasks.Pool (CDTPEventFunc P A)
  notStarted : List (EventCall P A)

/-- The loop goes on, with what `malloc` and `pthread_create` return for the threads that are due, or
    a thread runs. -/
inductive ThreadedInput (I P A : Type) where
  | loop (i : I) (block : CDTPEventFunc P A) (startOk : Bool)
  | thread (k : Nat)

/-- `_cdtp_start_event_thread`. -/
def Threaded.startEventThread (t : Threaded S P A) (block : CDTPEventFunc P A) (startOk : Bool)
    (call : EventCall P A) : Threaded S P A :=
  if startOk then { t with threads := t.threads.start (call.packed block) }
  else { t with notStarted := t.notStarted ++ [call] }

/-- A step, where `due` are the calls for which the loop has started a thread so far. -/
def threadedStep (step : S → I → S) (due : S → List (EventCall P A)) (t : Threaded S P A) :
    ThreadedInput I P A → Threaded S P A
  | .loop i block startOk =>
    ((due (step t.loop i)).drop (due t.loop).length).foldl
      (fun t call => t.startEventThread block startOk call) { t with loop := step t.loop i }
  | .thread k => { t with threads := t.threads.finish k }

/-- No threads yet. -/
def threaded (s : S) : Threaded S P A := { loop := s, threads := .empty, notStarted := [] }

/-- The calls that have been made, in their order. -/
def Threaded.called (t : Threaded S P A) : List (Option (Option (EventCall P A))) :=
  t.threads.finished.map eventThread

/-- The inputs of the loop, among those of the whole. -/
def ThreadedInput.ofLoop : ThreadedInput I P A → Option I
  | .loop i _ _ => some i
  | .thread _ => none

/-- Whether a thread could not be started. -/
def ThreadedInput.startFails : ThreadedInput I P A → Bool
  | .loop _ _ startOk => !startOk
  | .thread _ => false

variable {step : S → I → S} {due : S → List (EventCall P A)} {t : Threaded S P A}

/-- What a thread makes of a call it was started for. -/
def made (call : EventCall P A) : Option (Option (EventCall P A)) := some (some call)

/-- Every call that was due was made, or is to be made, or is lost, and no other. -/
def Accounted (due : S → List (EventCall P A)) (t : Threaded S P A) : Prop :=
  (t.threads.all.map eventThread ++ t.notStarted.map made).Perm ((due t.loop).map made)

theorem startEventThread_perm (t : Threaded S P A) (block : CDTPEventFunc P A) (startOk : Bool)
    (call : EventCall P A) :
    ((t.startEventThread block startOk call).threads.all.map eventThread
      ++ (t.startEventThread block startOk call).notStarted.map made).Perm
      ((t.threads.all.map eventThread ++ t.notStarted.map made) ++ [made call]) := by
  cases startOk with
  | true =>
    -- the new thread stands before the calls that are lost
    show ((t.threads.start (call.packed block)).all.map eventThread ++ t.notStarted.map made).Perm _
    rw [Tasks.Pool.all_start, List.map_append, List.map_singleton, eventThread_packed, List.append_assoc,
      List.append_assoc]
    exact List.perm_append_comm.append_left _
  | false =>
    show (t.threads.all.map eventThread ++ (t.notStarted ++ [call]).map made).Perm _
    rw [List.map_append, List.map_singleton, List.append_assoc]

theorem startEventThreads_perm (block : CDTPEventFunc P A) (startOk : Bool)
    (calls : List (EventCall P A)) : ∀ t : Threaded S P A,
    ((calls.foldl (fun t call => t.startEventThread block startOk call) t).threads.all.map eventThread
      ++ (calls.foldl (fun t call => t.startEventThread block startOk call) t).notStarted.map made).Perm
      ((t.threads.all.map eventThread ++ t.notStarted.map made) ++ calls.map made) := by
  induction calls with
  | nil => intro t; rw [List.map_nil, List.append_nil]; rfl
  | cons call calls ih =>
    intro t
    refine (ih (t.startEventThread block startOk call)).trans ?_
    refine ((startEventThread_perm t block startOk call).append_right (calls.map made)).trans ?_
    rw [List.append_assoc]
    exact List.Perm.refl _

theorem startEventThreads_loop (block : CDTPEventFunc P A) (startOk : Bool)
    (calls : List (EventCall P A)) : ∀ t : Threaded S P A,
    (calls.foldl (fun t call => t.startEventThread block startOk call) t).loop = t.loop := by
  induction calls with
  | nil => intro t; rfl
  | cons call calls ih =>
    intro t
    refine (ih (t.startEventThread block startOk call)).trans ?_
    cases startOk with
    | true => rfl
    | false => rfl

variable {step : S → I → S} {due : S → List (EventCall P A)} {t : Threaded S P A}

/-- The loop does not notice its threads. -/
theorem threadedStep_loop (j : ThreadedInput I P A) :
    (threadedStep step due t j).loop = Runs.run step t.loop j.ofLoop.toList := by
  cases j with
  | loop i block startOk => exact startEventThreads_loop block startOk _ _
  | thread k => rfl

theorem threadedStep_accounted (hdue : ∀ s i, due s <+: due (step s i)) (h : Accounted due t)
    (j : ThreadedInput I P A) : Accounted due (threadedStep step due t j) := by
  cases j with
  | thread k =>
    have hfinish := ((Tasks.Pool.all_finish t.threads k).map eventThread).append_right
      (t.notStarted.map made)
    exact hfinish.trans h
  | loop i block startOk =>
    obtain ⟨new, hnew⟩ := hdue t.loop i
    have hdrop : (due (step t.loop i)).drop (due t.loop).length = new := by
      rw [← hnew, List.drop_left]
    have hperm := startEventThreads_perm block startOk new { t with loop := step t.loop i }
    have hloop := startEventThreads_loop block startOk new { t with loop := step t.loop i }
    rw [Accounted, threadedStep, hdrop, hloop]
    refine hperm.trans ?_
    rw [← hnew, List.map_append]
    exact h.append_right _

theorem run_threadedStep_loop : ∀ (js : List (ThreadedInput I P A)) (t : Threaded S P A),
    (Runs.run (threadedStep step due) t js).loop
      = Runs.run step t.loop (js.filterMap ThreadedInput.ofLoop) := by
  intro js
  induction js with
  | nil => intro t; rfl
  | cons j js ih =>
    intro t
    rw [Runs.run_cons, ih, threadedStep_loop]
    cases j with
    | loop i block startOk => rfl
    | thread k => rfl

/-- If every thread starts, nothing is lost. -/
theorem run_notStarted : ∀ (js : List (ThreadedInput I P A)) (t : Threaded S P A),
    (∀ j ∈ js, j.startFails = false) → t.notStarted = [] →
    (Runs.run (threadedStep step due) t js).notStarted = [] := by
  have hfold : ∀ (block : CDTPEventFunc P A) (calls : List (EventCall P A)) (t : Threaded S P A),
      t.notStarted = [] →
      (calls.foldl (fun t call => t.startEventThread block true call) t).notStarted = [] := by
    intro block calls
    induction calls with
    | nil => intro t h; exact h
    | cons call calls ih => intro t h; exact ih _ h
  intro js
  induction js with
  | nil => intro t _ h; exact h
  | cons j js ih =>
    intro t hjs h
    refine ih _ (fun j' hj' => hjs j' (List.mem_cons_of_mem _ hj')) ?_
    cases j with
    | thread k => exact h
    | loop i block startOk =>
      have hok : startOk = true := by
        have := hjs _ List.mem_cons_self
        simpa [ThreadedInput.startFails] using this
      subst hok
      exact hfold block _ _ h

/-- The threads of a pool run. -/
theorem run_threads (ks : List Nat) : ∀ t : Threaded S P A,
    Runs.run (threadedStep step due) t (ks.map (.thread : Nat → ThreadedInput I P A))
      = { t with threads := t.threads.finishes ks } := by
  induction ks with
  | nil => intro t; rfl
  | cons k ks ih => intro t; exact ih { t with threads := t.threads.finish k }

/-- While only the loop runs, its threads wait in the order in which they were started. -/
theorem run_loops (hdue : ∀ s i, due s <+: due (step s i)) (block : CDTPEventFunc P A) :
    ∀ (is : List I) (t : Threaded S P A),
      t.threads = { waiting := (due t.loop).map (EventCall.packed block), finished := [] } →
      (Runs.run (threadedStep step due) t (is.map fun i => .loop i block true)).threads
        = { waiting := (due (Runs.run (threadedStep step due) t
              (is.map fun i => .loop i block true)).loop).map (EventCall.packed block),
            finished := [] } := by
  have hfold : ∀ (calls : List (EventCall P A)) (t : Threaded S P A),
      calls.foldl (fun t call => t.startEventThread block true call) t
        = { t with threads := { t.threads with
              waiting := t.threads.waiting ++ calls.map (EventCall.packed block) } } := by
    intro calls
    induction calls with
    | nil => intro t; rw [List.map_nil, List.append_nil]; rfl
    | cons call calls ih =>
      intro t
      refine (ih (t.startEventThread block true call)).trans ?_
      show Threaded.mk t.loop (Tasks.Pool.mk ((t.threads.waiting ++ [_]) ++ _) _) _ = _
      rw [List.append_assoc]
      rfl
  intro is
  induction is with
  | nil => intro t h; exact h
  | cons i is ih =>
    intro t h
    refine ih _ ?_
    obtain ⟨new, hnew⟩ := hdue t.loop i
    have hdrop : (due (step t.loop i)).drop (due t.loop).length = new := by
      rw [← hnew, List.drop_left]
    rw [threadedStep, hdrop, hfold, h]
    show Tasks.Pool.mk _ _ = Tasks.Pool.mk ((due (step t.loop i)).map _) _
    rw [← hnew, List.map_append]

theorem loops_ofLoop (is : List I) (block : CDTPEventFunc P A) :
    (is.map fun i => .loop i block true).filterMap (ThreadedInput.ofLoop (P := P) (A := A)) = is := by
  rw [List.filterMap_map]
  exact List.filterMap_some

/-- In every run the calls made, to be made and lost are those that the loop wanted; and if every thread
    starts, they can be made in any order, but are always the same. -/
def AnyOrder (step : S → I → S) (due : S → List (EventCall P A)) (s₀ : S) : Prop :=
  (∀ js : List (ThreadedInput I P A),
    Accounted due (Runs.run (threadedStep step due) (threaded s₀) js)) ∧
  ∀ (is : List I) (calls : List (EventCall P A)),
    (∃ js : List (ThreadedInput I P A), js.filterMap ThreadedInput.ofLoop = is ∧
      (∀ j ∈ js, j.startFails = false) ∧
      (Runs.run (threadedStep step due) (threaded s₀) js).threads.waiting = [] ∧
      (Runs.run (threadedStep step due) (threaded s₀) js).called = calls.map made) ↔
    calls.Perm (due (Runs.run step s₀ is))

/-- It is so for every loop that only ever adds to what is due. -/
theorem anyOrder_of_loop (hdue : ∀ s i, due s <+: due (step s i)) {s₀ : S} (hstart : due s₀ = [])
    (block : CDTPEventFunc P A) : AnyOrder step due s₀ := by
  have haccounted : ∀ js : List (ThreadedInput I P A),
      Accounted due (Runs.run (threadedStep step due) (threaded s₀) js) := by
    intro js
    have h₀ : Accounted due (threaded s₀ : Threaded S P A) := by
      show ([] : List _).Perm ((due s₀).map made)
      rw [hstart]
      exact List.Perm.refl _
    exact @Runs.run_invariant _ _ (threadedStep step due) (Accounted due)
      (fun t j h => threadedStep_accounted hdue h j) js _ h₀
  refine ⟨haccounted, fun is calls => ⟨?_, ?_⟩⟩
  · rintro ⟨js, rfl, hstarts, hwaiting, hcalled⟩
    have h := haccounted js
    rw [Accounted, run_notStarted js _ hstarts rfl, List.map_nil, List.append_nil, Tasks.Pool.all,
      hwaiting, List.append_nil, run_threadedStep_loop] at h
    rw [Threaded.called] at hcalled
    rw [hcalled] at h
    exact (List.map_perm_map_iff fun a b hab => by simpa [made] using hab).mp h
  · -- first the loop, then the threads in the order that is asked for
    intro hperm
    have hloops := run_loops hdue block is (threaded s₀) (by rw [threaded, hstart]; rfl)
    obtain ⟨ks, hks⟩ := @Tasks.Pool.exists_finishes _ (calls.map (EventCall.packed block))
      (Runs.run (threadedStep step due) (threaded s₀) (is.map fun i => .loop i block true)).threads
      (by rw [hloops, run_threadedStep_loop, loops_ofLoop]; exact (hperm.map _).symm)
    refine ⟨is.map (fun i => .loop i block true) ++ ks.map .thread, ?_, ?_, ?_, ?_⟩
    · rw [List.filterMap_append, loops_ofLoop, List.filterMap_map]
      have hno : ks.filterMap (ThreadedInput.ofLoop ∘ (.thread : Nat → ThreadedInput I P A)) = [] :=
        List.filterMap_eq_nil_iff.mpr fun _ _ => rfl
      rw [hno, List.append_nil]
    · intro j hj
      rcases List.mem_append.mp hj with hj | hj
      · obtain ⟨i, -, rfl⟩ := List.mem_map.mp hj
        rfl
      · obtain ⟨k, -, rfl⟩ := List.mem_map.mp hj
        rfl
    · rw [Runs.run_append, run_threads, hks]
    · rw [Runs.run_append, run_threads, Threaded.called, hks, hloops]
      show ([] ++ calls.map (EventCall.packed block)).map eventThread = _
      rw [List.nil_append, List.map_map]
      exact List.map_congr_left fun call _ => eventThread_packed block call

end Threads

/-! ## The two loops -/

section Loops

variable {Ctx PKey P A : Type} {M : Machine}

/-- The server object, its event functions and their arguments. -/
structure ServerCallbacks (P A : Type) where
  server : P
  onRecv : P
  onConnect : P
  onDisconnect : P
  onRecvArg : VoidPtr A
  onConnectArg : VoidPtr A
  onDisconnectArg : VoidPtr A

/-- The call that an entry stands for, if it started one. -/
def ServerCallbacks.call (cb : ServerCallbacks P A) : Entry → Option (EventCall P A)
  | .connect id started =>
    if started then some (.serverOnConnect cb.onConnect cb.server id cb.onConnectArg) else none
  | .recv id _ payload =>
    payload.map fun d => .serverOnRecv cb.onRecv cb.server id (.data d.data) d.dataSize cb.onRecvArg
  | .disconnect id started =>
    if started then some (.serverOnDisconnect cb.onDisconnect cb.server id cb.onDisconnectArg) else none
  | .removed _ => none

def serverDue (cb : ServerCallbacks P A) (s : ServeState) : List (EventCall P A) :=
  s.log.filterMap cb.call

/-- The same of a client. -/
structure ClientCallbacks (P A : Type) where
  client : P
  onRecv : P
  onDisconnected : P
  onRecvArg : VoidPtr A
  onDisconnectedArg : VoidPtr A

def ClientCallbacks.call (cb : ClientCallbacks P A) : ClientEntry → Option (EventCall P A)
  | .recv _ payload =>
    payload.map fun d => .clientOnRecv cb.onRecv cb.client (.data d.data) d.dataSize cb.onRecvArg
  | .disconnected started =>
    if started then some (.clientOnDisconnected cb.onDisconnected cb.client cb.onDisconnectedArg)
    else none

def clientDue (cb : ClientCallbacks P A) (s : HandleState) : List (EventCall P A) :=
  s.log.filterMap cb.call

theorem dropClient_log (s : ServeState) (id : Nat) : s.log <+: (s.dropClient id).log := by
  cases hget : s.server.clients.get id with
  | none =>
    exact ⟨[], by rw [List.append_nil, dropClient_none hget]⟩
  | some client =>
    rw [dropClient_some hget]
    exact List.prefix_append _ _

theorem react_log (s : ServeState) (O : OpenSSL Ctx PKey) (id : Nat) (found : Received) :
    s.log <+: (s.react M O id found).log := by
  cases found with
  | headerEnd => exact dropClient_log s id
  | bodyEnd => exact dropClient_log s id
  | short => exact List.prefix_refl _
  | headerError e =>
    rw [ServeState.react]
    split
    · exact dropClient_log s id
    · split
      · exact List.prefix_refl _
      · exact List.prefix_refl _
  | bodyError e =>
    rw [ServeState.react]
    split
    · exact dropClient_log s id
    · exact List.prefix_refl _
  | frame buffer msgSize =>
    rw [ServeState.react]
    split
    · exact List.prefix_append _ _
    · exact List.prefix_append _ _

theorem removeClient_log (s : ServeState) (id : Nat) (closeOk : Bool) :
    s.log <+: (s.removeClient id closeOk).log := by
  unfold ServeState.removeClient
  split
  · exact List.prefix_refl _
  · split
    · exact List.prefix_refl _
    · cases closeOk with
      | false => exact List.prefix_append _ _
      | true => exact List.prefix_append _ _

/-- The history of the serve loop only grows. -/
theorem serveStep_log (s : ServeState) (i : ServeInput Ctx PKey) : s.log <+: (serveStep M s i).log := by
  unfold serveStep
  split
  · split
    · exact List.prefix_refl _
    · unfold ServeState.acceptError
      split
      · exact List.prefix_refl _
      · split
        · exact List.prefix_refl _
        · exact List.prefix_refl _
  · split
    · exact List.prefix_refl _
    · rename_i c O _ _ _
      rcases @acceptConnection_cases Ctx PKey M s c O with
        ⟨d, -, -, -, hs⟩ | ⟨-, status, rejected, errors, -, -, hs⟩
      · rw [hs]
        exact List.prefix_append _ _
      · rw [hs]
        exact List.prefix_refl _
  · rename_i id sock rest header body O _ _
    exact react_log (({ s with todo := rest }).buffered header) O id _
  · exact removeClient_log _ _ _
  · exact List.prefix_refl _

theorem closed_log (s : HandleState) (closeOk threadOk : Bool) :
    s.log <+: (s.closed closeOk threadOk).log := by
  show s.log <+: (s.disconnect closeOk threadOk).log ++ _
  rw [disconnect_log]
  exact List.prefix_append _ _

/-- That of the handle loop, too. -/
theorem handleStep_log (s : HandleState) (i : HandleInput Ctx PKey) :
    s.log <+: (handleStep M s i).log := by
  unfold handleStep
  split
  · rename_i header body O closeOk threadOk _
    split
    · exact List.prefix_refl _
    · show s.log <+:
        ((s.buffered header).react M O closeOk threadOk (receive M s.sizeBuffer header body)).log
      cases receive M s.sizeBuffer header body with
      | headerEnd => exact closed_log (s.buffered header) closeOk threadOk
      | bodyEnd => exact closed_log (s.buffered header) closeOk threadOk
      | short => exact List.prefix_refl _
      | bodyError e => exact List.prefix_refl _
      | headerError e =>
        rw [HandleState.react]
        split
        · exact List.prefix_refl _
        · exact List.prefix_refl _
      | frame buffer msgSize =>
        rw [HandleState.react]
        split
        · exact List.prefix_append _ _
        · exact List.prefix_append _ _
  · exact ⟨[], by rw [List.append_nil, disconnect_log]⟩
  · exact List.prefix_refl _

/-- **Callbacks in any order.**  Of the callbacks that a serve loop or a handle loop dispatches, in
    whatever run, none is called twice and none is made up; without failures all are called, and every
    order in which they can be called is one that the threads may choose: also a message before the one
    that was sent before it, or after `on_disconnect`. -/
theorem callbacks_any_order (M : Machine) (block : CDTPEventFunc P A) :
    (∀ (cb : ServerCallbacks P A) (onRecv onConnect onDisconnect : Bool) (sizeBuffer : Bytes),
      AnyOrder (serveStep M : ServeState → ServeInput Ctx PKey → ServeState) (serverDue cb)
        (startServe onRecv onConnect onDisconnect sizeBuffer)) ∧
    (∀ (cb : ClientCallbacks P A) (client : CDTPClient) (sizeBuffer : Bytes),
      AnyOrder (handleStep M : HandleState → HandleInput Ctx PKey → HandleState) (clientDue cb)
        (startHandle client sizeBuffer)) := by
  constructor
  · intro cb onRecv onConnect onDisconnect sizeBuffer
    exact anyOrder_of_loop (fun s i => (serveStep_log s i).filterMap cb.call) rfl block
  · intro cb client sizeBuffer
    exact anyOrder_of_loop (fun s i => (handleStep_log s i).filterMap cb.call) rfl block

end Loops

end Cdtp
