/-
  The threads that use and release client sockets, step by step.

  `_cdtp_server_serve`, `cdtp_server_remove_client` and `cdtp_server_stop` run on threads of their own and
  share the client map, without a lock.  Here every map operation, every call on a socket and every free
  is one step of one thread, and the threads take their steps in any order.  A `CDTPSocket` is known by
  its number in the order of allocation, so that memory which is used again cannot hide an access to
  a freed one; how often each was closed and freed is counted, and what goes wrong is recorded.

  A thread HOLDS a socket that it has in its snapshot of the map, and has POPPED one that it has taken out
  of the map and not freed yet.  The code frees what it has popped, whoever else holds it; if threads
  take out or close a socket only while no other one holds it, nothing goes wrong
  (`release_of_unshared`).
-/
import Cdtp.ClientMapRefinement
import Cdtp.Lib.CMem
import Cdtp.Lib.Runs

namespace Cdtp

open CMem

/-! ## What is shared -/

/-- What must not happen to a client socket: a thread reads the descriptor or the key out of a freed one;
    the lookup of `_cdtp_server_call_on_recv`, or the pop of `cdtp_server_stop`, finds none. -/
inductive Misuse where
  | freedSocket (sock : Nat)
  | getNull (id : Nat)
  | popNull (id : Nat)
  deriving DecidableEq, Repr

/-- What the threads share: the server object, the sockets it has made, and how often each was closed and
    freed. -/
structure Shared where
  serving : Bool
  onRecv : Bool
  clients : Clients Nat
  nextClientId : Nat
  nextSock : Nat
  closed : Nat → Nat
  freed : Nat → Nat
  misuses : List Misuse

/-- A new client socket is allocated and put into the map. -/
def Shared.addClient (g : Shared) : Shared :=
  { g with clients := (g.clients.set g.nextClientId g.nextSock).2,
           nextClientId := (g.nextClientId + 1) % SIZE_MOD, nextSock := g.nextSock + 1 }

def Shared.misuse (g : Shared) (m : Misuse) : Shared := { g with misuses := g.misuses ++ [m] }

/-- A thread reads `sock->sock` or `sock->key`. -/
def Shared.touch (g : Shared) (sock : Nat) : Shared :=
  if g.freed sock = 0 then g else g.misuse (.freedSocket sock)

def Shared.markClosed (g : Shared) (sock : Nat) : Shared :=
  { g with closed := Function.update g.closed sock (g.closed sock + 1) }

/-- `close(sock->sock)`, whether or not it succeeds. -/
def Shared.close (g : Shared) (sock : Nat) : Shared := (g.touch sock).markClosed sock

def Shared.free (g : Shared) (sock : Nat) : Shared :=
  { g with freed := Function.update g.freed sock (g.freed sock + 1) }

/-! ## The threads -/

/-- What a call on a socket brings: nothing there yet, the end of the stream (or EBADF), an error, or what
    was asked for. -/
inductive Outcome where
  | nothing
  | ended
  | failed
  | found
  deriving DecidableEq, Repr

/-- Where the serve loop stands: what it does next. -/
inductive ServePc where
  | test
  | accept
  | retest (accepted : Bool)
  | exchange
  | set
  | iter
  | next
  | header (id sock : Nat)
  | body (id sock : Nat)
  | contains (id : Nat)
  | pop (id : Nat)
  | close (sock : Nat)
  | free (sock : Nat)
  | get (id sock : Nat)
  | decrypt (id sock : Nat)
  deriving DecidableEq, Repr

/-- Where a call of `cdtp_server_remove_client` stands. -/
inductive RemovePc where
  | test (id : Nat)
  | pop (id : Nat)
  | close (sock : Nat)
  | free (sock : Nat)
  deriving DecidableEq, Repr

/-- `gaveUp` is no place of the code: the call has returned, because `close` failed, and has left behind a
    socket that is closed and still in the map. -/
inductive StopPc where
  | test
  | clear
  | iter
  | next
  | close (id sock : Nat)
  | pop (id sock : Nat)
  | free (sock : Nat)
  | gaveUp (id sock : Nat)
  deriving DecidableEq, Repr

/-- A thread; `todo` is what is left of its snapshot. -/
inductive Thread where
  | idle
  | serve (pc : ServePc) (todo : List (Nat × Nat))
  | remove (pc : RemovePc)
  | stop (pc : StopPc) (todo : List (Nat × Nat))
  | done
  deriving DecidableEq, Repr

/-- `_cdtp_server_serve`. -/
def serveAct (g : Shared) (o : Outcome) (todo : List (Nat × Nat)) : ServePc → Shared × Thread
  | .test => (g, if g.serving then .serve .accept todo else .done)
  | .accept =>
    match o with
    | .found => (g, .serve (.retest true) todo)
    | .nothing => (g, .serve (.retest false) todo)
    | _ => (g, .done)
  -- the server may have been stopped while the loop was in `accept`
  | .retest accepted =>
    (g, if g.serving then .serve (if accepted then .exchange else .iter) todo else .done)
  -- the new socket is not in the map yet, so nobody else knows it
  | .exchange => (g, if o = .found then .serve .set todo else .done)
  | .set => (g.addClient, .serve .iter todo)
  | .iter => (g, .serve .next g.clients.iter)
  | .next =>
    match todo with
    | [] => (g, .serve .test [])
    | (id, sock) :: rest => (g, .serve (.header id sock) rest)
  | .header id sock =>
    (g.touch sock,
      match o with
      | .nothing => .serve .next todo
      | .ended => .serve (.contains id) todo
      | .found => .serve (.body id sock) todo
      | .failed => .done)
  | .body id sock =>
    (g.touch sock,
      match o with
      | .ended => .serve (.contains id) todo
      | .found => if g.onRecv then .serve (.get id sock) todo else .serve .next todo
      | _ => .done)
  | .contains id => (g, if g.clients.contains id then .serve (.pop id) todo else .serve .next todo)
  | .pop id =>
    match g.clients.pop id with
    | (some client, clients) => ({ g with clients := clients }, .serve (.close client) todo)
    | (none, clients) => ({ g with clients := clients }, .serve .next todo)
  | .close client => (g.close client, .serve (.free client) todo)
  | .free client => (g.free client, .serve .next todo)
  -- `call_on_recv` looks the client up again, by its id
  | .get id _ =>
    match g.clients.get id with
    | some client => (g, .serve (.decrypt id client) todo)
    | none => (g.misuse (.getNull id), .done)
  | .decrypt _ client =>
    (g.touch client,
      match o with
      | .failed => .done
      | _ => .serve .next todo)

/-- `cdtp_server_remove_client`. -/
def removeAct (g : Shared) (o : Outcome) : RemovePc → Shared × Thread
  | .test id => (g, if g.serving then .remove (.pop id) else .done)
  | .pop id =>
    match g.clients.pop id with
    -- from here on no map operation finds the socket, but a snapshot may still hold it
    | (some client, clients) => ({ g with clients := clients }, .remove (.close client))
    | (none, clients) => ({ g with clients := clients }, .done)
  -- on a failed `close` the socket is leaked
  | .close client => (g.close client, if o = .failed then .done else .remove (.free client))
  | .free client => (g.free client, .done)

/-- `cdtp_server_stop`, as far as the client sockets go. -/
def stopAct (g : Shared) (o : Outcome) (todo : List (Nat × Nat)) : StopPc → Shared × Thread
  | .test => (g, if g.serving then .stop .clear todo else .done)
  | .clear => ({ g with serving := false }, .stop .iter todo)
  | .iter => (g, .stop .next g.clients.iter)
  | .next =>
    match todo with
    | [] => (g, .done)
    | (id, sock) :: rest => (g, .stop (.close id sock) rest)
  -- the descriptor is taken from the snapshot, before the pop
  | .close id sock =>
    (g.close sock, if o = .failed then .stop (.gaveUp id sock) [] else .stop (.pop id sock) todo)
  | .pop id _ =>
    match g.clients.pop id with
    | (some client, clients) => ({ g with clients := clients }, .stop (.free client) todo)
    | (none, clients) => ({ g with clients := clients }.misuse (.popNull id), .done)
  | .free client => (g.free client, .stop .next todo)
  | .gaveUp id sock => (g, .stop (.gaveUp id sock) todo)

/-- One step of a thread. -/
def Thread.act (t : Thread) (g : Shared) (o : Outcome) : Shared × Thread :=
  match t with
  | .serve pc todo => serveAct g o todo pc
  | .remove pc => removeAct g o pc
  | .stop pc todo => stopAct g o todo pc
  | .idle => (g, .idle)
  | .done => (g, .done)

/-! ## The system -/

/-- The server, and any number of threads. -/
structure System where
  shared : Shared
  threads : Nat → Thread

/-- The calls that other threads can make. -/
inductive Call where
  | remove (id : Nat)
  | stop
  deriving DecidableEq, Repr

def Call.start : Call → Thread
  | .remove id => .remove (.test id)
  | .stop => .stop .test []

/-- An idle thread makes a call, or a thread takes a step. -/
inductive SystemInput where
  | call (k : Nat) (c : Call)
  | step (k : Nat) (o : Outcome)

def System.set (s : System) (k : Nat) (r : Shared × Thread) : System :=
  { shared := r.1, threads := Function.update s.threads k r.2 }

/-- A thread that does nothing calls a function, or one that does goes on to its next access. -/
def systemStep (s : System) : SystemInput → System
  | .call k c => if s.threads k = .idle then s.set k (s.shared, c.start) else s
  | .step k o => s.set k ((s.threads k).act s.shared o)

/-- A server that has just been started: the serve loop is thread 0, all others are idle. -/
def startSystem (onRecv : Bool) : System where
  shared := { serving := true, onRecv := onRecv, clients := .empty, nextClientId := 0, nextSock := 0,
              closed := fun _ => 0, freed := fun _ => 0, misuses := [] }
  threads := fun k => if k = 0 then .serve .test [] else .idle

/-- No client socket was used after its release, or released twice. -/
def ReleasedOnce (s : System) : Prop :=
  s.shared.misuses = [] ∧ ∀ sock, s.shared.closed sock ≤ 1 ∧ s.shared.freed sock ≤ 1

/-! ## Holding and releasing -/

/-- The client whose socket the serve loop is about to use.  (The checks before a disconnect only use
    the id.) -/
def ServePc.current : ServePc → List (Nat × Nat)
  | .header id sock => [(id, sock)]
  | .body id sock => [(id, sock)]
  | .get id sock => [(id, sock)]
  | .decrypt id sock => [(id, sock)]
  | _ => []

def StopPc.current : StopPc → List (Nat × Nat)
  | .close id sock => [(id, sock)]
  | .pop id sock => [(id, sock)]
  | .gaveUp id sock => [(id, sock)]
  | _ => []

/-- The clients that the thread has in its snapshot and whose sockets it has still to use. -/
def Thread.held : Thread → List (Nat × Nat)
  | .serve pc todo => pc.current ++ todo
  | .stop pc todo => pc.current ++ todo
  | _ => []

/-- The id that the serve loop is concerned with. -/
def ServePc.ids : ServePc → List Nat
  | .contains id => [id]
  | .pop id => [id]
  | pc => pc.current.map Prod.fst

def Thread.ids : Thread → List Nat
  | .serve pc todo => pc.ids ++ todo.map Prod.fst
  | .stop pc todo => pc.current.map Prod.fst ++ todo.map Prod.fst
  | _ => []

/-- The socket that the thread has taken out of the map and not freed yet. -/
def Thread.popped : Thread → Option Nat
  | .serve (.close sock) _ => some sock
  | .serve (.free sock) _ => some sock
  | .remove (.close sock) => some sock
  | .remove (.free sock) => some sock
  | .stop (.free sock) _ => some sock
  | _ => none

/-- That socket, if the thread has still to close it. -/
def Thread.unclosed : Thread → Option Nat
  | .serve (.close sock) _ => some sock
  | .remove (.close sock) => some sock
  | _ => none

/-- The client that the thread has closed and left in the map. -/
def Thread.closing : Thread → List (Nat × Nat)
  | .stop (.pop id sock) _ => [(id, sock)]
  | .stop (.gaveUp id sock) _ => [(id, sock)]
  | _ => []

/-- The socket that the next step of the thread takes out of the map, or closes while it is in it. -/
def Thread.releases (g : Shared) : Thread → Option Nat
  | .serve (.pop id) _ => g.clients.get id
  | .remove (.pop id) => g.clients.get id
  | .stop (.close _ sock) _ => some sock
  | .stop (.pop id _) _ => g.clients.get id
  | _ => none

/-- A thread takes a socket out of the map, or closes it there, only while no other thread holds it. -/
def Unshared (s : System) : SystemInput → Prop
  | .call _ _ => True
  | .step k _ => ∀ sock, (s.threads k).releases s.shared = some sock →
      ∀ j, j ≠ k → sock ∉ (s.threads j).held.map Prod.snd

/-! ## The invariant of unshared releases -/

/-- The sockets: those in the map are allocated, distinct and not freed, and none was closed or freed
    twice. -/
structure HeapOk (g : Shared) : Prop where
  injective : ∀ id id' sock, g.clients.get id = some sock → g.clients.get id' = some sock → id = id'
  allocated : ∀ id sock, g.clients.get id = some sock → sock < g.nextSock
  live : ∀ id sock, g.clients.get id = some sock → g.freed sock = 0
  unused : ∀ sock, g.nextSock ≤ sock → g.closed sock = 0 ∧ g.freed sock = 0
  once : ∀ sock, g.closed sock ≤ 1 ∧ g.freed sock ≤ 1
  no_misuse : g.misuses = []

/-- One thread: what it holds is still in the map, what it has popped is in nobody's reach. -/
structure ThreadOk (g : Shared) (t : Thread) : Prop where
  held : ∀ id sock, (id, sock) ∈ t.held → g.clients.get id = some sock
  nodup : t.ids.Nodup
  popped : ∀ sock, t.popped = some sock →
    sock < g.nextSock ∧ (∀ id, g.clients.get id ≠ some sock) ∧ g.freed sock = 0
  unclosed : ∀ sock, t.unclosed = some sock → g.closed sock = 0

/-- The invariant: the heap and every thread are in order, no two threads have popped one socket, and who
    is stored is open or is being closed. -/
structure Safe (s : System) : Prop where
  heap : HeapOk s.shared
  threads : ∀ k, ThreadOk s.shared (s.threads k)
  popped_once : ∀ j k sock, (s.threads j).popped = some sock → (s.threads k).popped = some sock → j = k
  open_or_closing : ∀ id sock, s.shared.clients.get id = some sock →
    s.shared.closed sock = 0 ∨ ∃ k, (id, sock) ∈ (s.threads k).closing

theorem Safe.releasedOnce {s : System} (h : Safe s) : ReleasedOnce s := ⟨h.heap.no_misuse, h.heap.once⟩

theorem Thread.popped_of_unclosed {t : Thread} {sock : Nat} (h : t.unclosed = some sock) :
    t.popped = some sock := by
  unfold Thread.unclosed at h
  split at h
  · exact h
  · exact h
  · exact absurd h (by simp)

theorem Thread.held_of_closing {t : Thread} {x : Nat × Nat} (h : x ∈ t.closing) : x ∈ t.held := by
  unfold Thread.closing at h
  split at h
  · exact List.mem_append_left _ h
  · exact List.mem_append_left _ h
  · exact absurd h (by simp)

variable {s : System} {g : Shared} {k : Nat} {t : Thread}

/-- To see that the system is safe after a step of thread `k`, look at the sockets, at the other threads,
    and at `k`. -/
theorem Safe.set (h : Safe s) (hheap : HeapOk g) (hother : ∀ j, j ≠ k → ThreadOk g (s.threads j))
    (hown : ThreadOk g t)
    (honce : ∀ j sock, j ≠ k → (s.threads j).popped = some sock → t.popped ≠ some sock)
    (hopen : ∀ id sock, g.clients.get id = some sock → g.closed sock = 0 ∨
      (id, sock) ∈ t.closing ∨ ∃ j, j ≠ k ∧ (id, sock) ∈ (s.threads j).closing) :
    Safe (s.set k (g, t)) := by
  have hself : Function.update s.threads k t k = t := Function.update_self _ _ _
  have hne : ∀ j, j ≠ k → Function.update s.threads k t j = s.threads j :=
    fun j hj => Function.update_of_ne hj _ _
  refine ⟨hheap, ?_, ?_, ?_⟩
  · intro j
    show ThreadOk g (Function.update s.threads k t j)
    by_cases hj : j = k
    · rw [hj, hself]
      exact hown
    · rw [hne j hj]
      exact hother j hj
  · intro i j sock hi hj
    change (Function.update s.threads k t i).popped = some sock at hi
    change (Function.update s.threads k t j).popped = some sock at hj
    by_cases hik : i = k
    · by_cases hjk : j = k
      · rw [hik, hjk]
      · rw [hik, hself] at hi
        rw [hne j hjk] at hj
        exact absurd hi (honce j sock hjk hj)
    · rw [hne i hik] at hi
      by_cases hjk : j = k
      · rw [hjk, hself] at hj
        exact absurd hj (honce i sock hik hi)
      · rw [hne j hjk] at hj
        exact h.popped_once i j sock hi hj
  · intro id sock hget
    show g.closed sock = 0 ∨ ∃ j, (id, sock) ∈ (Function.update s.threads k t j).closing
    rcases hopen id sock hget with hopen | hclosing | ⟨j, hj, hclosing⟩
    · exact .inl hopen
    · exact .inr ⟨k, by rw [hself]; exact hclosing⟩
    · exact .inr ⟨j, by rw [hne j hj]; exact hclosing⟩

/-- A thread that is not concerned. -/
theorem ThreadOk.frame {g : Shared} (g' : Shared) (h : ThreadOk g t) (hnext : g.nextSock ≤ g'.nextSock)
    (hheld : ∀ id sock, (id, sock) ∈ t.held → g.clients.get id = some sock →
      g'.clients.get id = some sock)
    (hpopped : ∀ sock, t.popped = some sock → g.freed sock = 0 →
      (∀ id, g.clients.get id ≠ some sock) → sock < g.nextSock →
      (∀ id, g'.clients.get id ≠ some sock) ∧ g'.freed sock = 0)
    (hclosed : ∀ sock, t.unclosed = some sock → g.closed sock = 0 → g'.closed sock = 0) :
    ThreadOk g' t where
  held id sock hm := hheld id sock hm (h.held id sock hm)
  nodup := h.nodup
  popped sock hp := by
    obtain ⟨hlt, hout, hfreed⟩ := h.popped sock hp
    obtain ⟨hout', hfreed'⟩ := hpopped sock hp hfreed hout hlt
    exact ⟨Nat.lt_of_lt_of_le hlt hnext, hout', hfreed'⟩
  unclosed sock hu := hclosed sock hu (h.unclosed sock hu)

/-- Nothing but flags has changed. -/
structure SameSockets (g g' : Shared) : Prop where
  get_eq : g'.clients.get = g.clients.get
  next_eq : g'.nextSock = g.nextSock
  closed_eq : g'.closed = g.closed
  freed_eq : g'.freed = g.freed
  misuses_eq : g'.misuses = g.misuses

theorem SameSockets.refl (g : Shared) : SameSockets g g := ⟨rfl, rfl, rfl, rfl, rfl⟩

theorem SameSockets.heapOk {g g' : Shared} (hs : SameSockets g g') (h : HeapOk g) : HeapOk g' where
  injective := by rw [hs.get_eq]; exact h.injective
  allocated := by rw [hs.get_eq, hs.next_eq]; exact h.allocated
  live := by rw [hs.get_eq, hs.freed_eq]; exact h.live
  unused := by rw [hs.next_eq, hs.closed_eq, hs.freed_eq]; exact h.unused
  once := by rw [hs.closed_eq, hs.freed_eq]; exact h.once
  no_misuse := hs.misuses_eq.trans h.no_misuse

/-- A thread does not notice what leaves the sockets as they are. -/
theorem SameSockets.threadOk {g g' : Shared} (hs : SameSockets g g') (h : ThreadOk g t) :
    ThreadOk g' t where
  held := by rw [hs.get_eq]; exact h.held
  nodup := h.nodup
  popped := by rw [hs.get_eq, hs.next_eq, hs.freed_eq]; exact h.popped
  unclosed := by rw [hs.closed_eq]; exact h.unclosed

/-! ### What one step can do -/

/-- A socket in the map that is closed is being closed by `k`, or by another thread. -/
theorem Safe.open_or_own (h : Safe s) (k : Nat) {id sock : Nat}
    (hget : s.shared.clients.get id = some sock) :
    s.shared.closed sock = 0 ∨ (id, sock) ∈ (s.threads k).closing ∨
      ∃ j, j ≠ k ∧ (id, sock) ∈ (s.threads j).closing := by
  rcases h.open_or_closing id sock hget with hopen | ⟨j, hj⟩
  · exact .inl hopen
  · by_cases hjk : j = k
    · subst hjk
      exact .inr (.inl hj)
    · exact .inr (.inr ⟨j, hjk, hj⟩)

theorem Thread.forall_closing {P : Nat × Nat → Prop} (h : t.closing = []) :
    ∀ x ∈ t.closing, P x := by
  rw [h]
  exact List.forall_mem_nil P

/-- What has not been counted yet is counted once. -/
theorem count_le_one {f : Nat → Nat} {sock : Nat} (hzero : f sock = 0) (h : ∀ x, f x ≤ 1) (x : Nat) :
    Function.update f sock (f sock + 1) x ≤ 1 := by
  by_cases hx : x = sock
  · rw [hx, Function.update_self, hzero]
  · rw [Function.update_of_ne hx]
    exact h x

theorem Thread.unclosed_of_popped (h : t.popped = none) : t.unclosed = none := by
  cases hu : t.unclosed with
  | none => rfl
  | some sock =>
    rw [Thread.popped_of_unclosed hu] at h
    exact absurd h (by simp)

/-- A thread that has popped nothing need only hold what is in the map. -/
theorem ThreadOk.of_not_popped (hpopped : t.popped = none) (hids : t.ids.Nodup)
    (hheld : ∀ id sock, (id, sock) ∈ t.held → g.clients.get id = some sock) : ThreadOk g t where
  held := hheld
  nodup := hids
  popped sock hp := by
    rw [hpopped] at hp
    exact absurd hp (by simp)
  unclosed sock hu := by
    rw [Thread.unclosed_of_popped hpopped] at hu
    exact absurd hu (by simp)

/-- A thread goes on without touching the sockets, and holds what is in the map. -/
theorem Safe.move (h : Safe s) (hs : SameSockets s.shared g)
    (hheld : ∀ id sock, (id, sock) ∈ t.held → s.shared.clients.get id = some sock)
    (hids : t.ids.Nodup) (hpopped : t.popped = none)
    (hclosing : ∀ x ∈ (s.threads k).closing, x ∈ t.closing) : Safe (s.set k (g, t)) := by
  apply h.set (hs.heapOk h.heap) (fun j _ => hs.threadOk (h.threads j))
  · refine .of_not_popped hpopped hids ?_
    rw [hs.get_eq]
    exact hheld
  · rw [hpopped]
    simp
  · intro id sock hget
    rw [hs.get_eq] at hget
    rw [hs.closed_eq]
    rcases h.open_or_own k hget with hopen | hown | hother
    · exact .inl hopen
    · exact .inr (.inl (hclosing _ hown))
    · exact .inr (.inr hother)

theorem addClient_get {id sock : Nat} (h : g.addClient.clients.get id = some sock) :
    g.clients.get id = some sock ∨ (id = g.nextClientId ∧ sock = g.nextSock) := by
  change (g.clients.set g.nextClientId g.nextSock).2.get id = some sock at h
  by_cases hfree : g.clients.get g.nextClientId = none
  · rw [(Clients.set_of_none hfree g.nextSock).2] at h
    by_cases hid : id = g.nextClientId
    · rw [hid, Function.update_self] at h
      exact .inr ⟨hid, (Option.some.inj h).symm⟩
    · rw [Function.update_of_ne hid] at h
      exact .inl h
  · rw [Clients.set_of_some hfree] at h
    exact .inl h

/-- A new client has a socket of its own. -/
theorem HeapOk.addClient (h : HeapOk g) : HeapOk g.addClient where
  injective id id' sock hid hid' := by
    rcases addClient_get hid with hold | ⟨rfl, rfl⟩
    · rcases addClient_get hid' with hold' | ⟨-, rfl⟩
      · exact h.injective id id' sock hold hold'
      · exact absurd (h.allocated id _ hold) (Nat.lt_irrefl _)
    · rcases addClient_get hid' with hold' | ⟨rfl, -⟩
      · exact absurd (h.allocated id' _ hold') (Nat.lt_irrefl _)
      · rfl
  allocated id sock hid := by
    rcases addClient_get hid with hold | ⟨-, rfl⟩
    · exact Nat.lt_succ_of_lt (h.allocated id sock hold)
    · exact Nat.lt_succ_self _
  live id sock hid := by
    rcases addClient_get hid with hold | ⟨-, rfl⟩
    · exact h.live id sock hold
    · exact (h.unused _ (Nat.le_refl _)).2
  unused sock hle := h.unused sock (Nat.le_of_succ_le hle)
  once := h.once
  no_misuse := h.no_misuse

/-- A new client socket is put into the map. -/
theorem Safe.addClient (h : Safe s) (hheld : ∀ x ∈ t.held, x ∈ (s.threads k).held) (hids : t.ids.Nodup)
    (hpopped : t.popped = none) (hclosing : ∀ x ∈ (s.threads k).closing, x ∈ t.closing) :
    Safe (s.set k (s.shared.addClient, t)) := by
  apply h.set h.heap.addClient
  · intro j _
    apply (h.threads j).frame s.shared.addClient (Nat.le_succ _)
    · intro id sock _ hget
      exact Clients.get_set_of_some hget
    · intro sock _ hfreed hout hlt
      refine ⟨?_, hfreed⟩
      intro id hid
      rcases addClient_get hid with hold | ⟨-, rfl⟩
      · exact hout id hold
      · exact absurd hlt (Nat.lt_irrefl _)
    · exact fun sock _ hclosed => hclosed
  · refine .of_not_popped hpopped hids ?_
    intro id sock hm
    exact Clients.get_set_of_some ((h.threads k).held id sock (hheld _ hm))
  · rw [hpopped]
    simp
  · intro id sock hid
    rcases addClient_get hid with hold | ⟨-, rfl⟩
    · rcases h.open_or_own k hold with hopen | hown | hother
      · exact .inl hopen
      · exact .inr (.inl (hclosing _ hown))
      · exact .inr (.inr hother)
    · exact .inl (h.heap.unused _ (Nat.le_refl _)).1

/-- The map without the client `id`. -/
def Shared.without (g : Shared) (id : Nat) : Shared := { g with clients := (g.clients.pop id).2 }

theorem without_get {id id' sock : Nat} (h : (g.without id).clients.get id' = some sock) :
    id' ≠ id ∧ g.clients.get id' = some sock := by
  refine ⟨?_, Clients.get_of_get_pop h⟩
  rintro rfl
  change (g.clients.pop id').2.get id' = some sock at h
  rw [Clients.get_pop, Function.update_self] at h
  exact absurd h (by simp)

theorem get_without {id id' : Nat} (h : id' ≠ id) :
    (g.without id).clients.get id' = g.clients.get id' := by
  show (g.clients.pop id).2.get id' = _
  rw [Clients.get_pop, Function.update_of_ne h]

theorem sameSockets_without {id : Nat} (h : g.clients.get id = none) :
    SameSockets g (g.without id) where
  get_eq := by
    show (g.clients.pop id).2.get = _
    rw [Clients.get_pop, ← h, Function.update_eq_self]
  next_eq := rfl
  closed_eq := rfl
  freed_eq := rfl
  misuses_eq := rfl

theorem HeapOk.without (h : HeapOk g) (id : Nat) : HeapOk (g.without id) where
  injective i j sock hi hj := h.injective i j sock (without_get hi).2 (without_get hj).2
  allocated i sock hi := h.allocated i sock (without_get hi).2
  live i sock hi := h.live i sock (without_get hi).2
  unused := h.unused
  once := h.once
  no_misuse := h.no_misuse

/-- What no other thread holds is open, unless the thread itself is closing it. -/
theorem Safe.open_of_unshared (h : Safe s) {id sock : Nat}
    (hget : s.shared.clients.get id = some sock)
    (hunshared : ∀ j, j ≠ k → sock ∉ (s.threads j).held.map Prod.snd)
    (hclosing : (s.threads k).closing = []) : s.shared.closed sock = 0 := by
  rcases h.open_or_closing id sock hget with hopen | ⟨j, hj⟩
  · exact hopen
  · have hjk : j ≠ k := by
      rintro rfl
      rw [hclosing] at hj
      exact absurd hj (by simp)
    exact absurd (List.mem_map_of_mem (Thread.held_of_closing hj)) (hunshared j hjk)

/-- **A pop** of a client that no other thread holds: from now on its socket is the thread's own. -/
theorem Safe.take (h : Safe s) {id sock : Nat} (hget : s.shared.clients.get id = some sock)
    (hunshared : ∀ j, j ≠ k → sock ∉ (s.threads j).held.map Prod.snd)
    (hheld : ∀ id' sock', (id', sock') ∈ t.held →
      id' ≠ id ∧ s.shared.clients.get id' = some sock')
    (hids : t.ids.Nodup) (hpopped : t.popped = some sock)
    (hunclosed : t.unclosed = none ∨ (s.threads k).closing = [])
    (hclosing : ∀ x ∈ (s.threads k).closing, x.1 = id) :
    Safe (s.set k (s.shared.without id, t)) := by
  apply h.set (h.heap.without id)
  · intro j hj
    apply (h.threads j).frame (s.shared.without id) (Nat.le_refl _)
    · -- what another thread holds is not the client that leaves
      intro id' sock' hm hget'
      have hne : id' ≠ id := by
        rintro rfl
        rw [hget] at hget'
        rw [← Option.some.inj hget'] at hm
        exact hunshared j hj (List.mem_map_of_mem hm)
      rw [get_without hne]
      exact hget'
    · exact fun sock' _ hfreed hout _ => ⟨fun id' hid' => hout id' (without_get hid').2, hfreed⟩
    · exact fun sock' _ hclosed => hclosed
  · refine ⟨?_, hids, ?_, ?_⟩
    · intro id' sock' hm
      obtain ⟨hne, hget'⟩ := hheld id' sock' hm
      rw [get_without hne]
      exact hget'
    · intro sock' hp
      rw [hpopped] at hp
      rw [← Option.some.inj hp]
      refine ⟨h.heap.allocated id sock hget, ?_, h.heap.live id sock hget⟩
      intro id' hid'
      obtain ⟨hne, hget'⟩ := without_get hid'
      exact hne (h.heap.injective id' id sock hget' hget)
    · intro sock' hu
      rcases hunclosed with hnone | hnotClosing
      · rw [hnone] at hu
        exact absurd hu (by simp)
      · have hp := Thread.popped_of_unclosed hu
        rw [hpopped] at hp
        rw [← Option.some.inj hp]
        exact h.open_of_unshared hget hunshared hnotClosing
  · intro j sock' _ hj hp
    rw [hpopped] at hp
    rw [← Option.some.inj hp] at hj
    exact ((h.threads j).popped sock hj).2.1 id hget
  · intro id' sock' hid'
    obtain ⟨hne, hget'⟩ := without_get hid'
    rcases h.open_or_own k hget' with hopen | hown | hother
    · exact .inl hopen
    · exact absurd (hclosing _ hown) hne
    · exact .inr (.inr hother)

theorem touch_live {sock : Nat} (h : g.freed sock = 0) : g.touch sock = g := if_pos h

theorem close_live {sock : Nat} (h : g.freed sock = 0) : g.close sock = g.markClosed sock := by
  rw [Shared.close, touch_live h]

theorem HeapOk.markClosed (h : HeapOk g) {sock : Nat} (hlt : sock < g.nextSock)
    (hopen : g.closed sock = 0) : HeapOk (g.markClosed sock) where
  injective := h.injective
  allocated := h.allocated
  live := h.live
  unused sock' hle := by
    change g.nextSock ≤ sock' at hle
    have hne : sock' ≠ sock := by omega
    refine ⟨?_, (h.unused sock' hle).2⟩
    show Function.update g.closed sock _ sock' = 0
    rw [Function.update_of_ne hne]
    exact (h.unused sock' hle).1
  once sock' := by
    refine ⟨?_, (h.once sock').2⟩
    exact count_le_one hopen (fun x => (h.once x).1) sock'
  no_misuse := h.no_misuse

/-- **Closing** a socket that is open: one that the thread has popped, or one in the map that it goes on
    closing. -/
theorem Safe.close (h : Safe s) {sock : Nat} (hlt : sock < s.shared.nextSock)
    (hlive : s.shared.freed sock = 0) (hopen : s.shared.closed sock = 0)
    (hother : ∀ j, j ≠ k → (s.threads j).popped ≠ some sock)
    (hheld : ∀ x ∈ t.held, x ∈ (s.threads k).held) (hids : t.ids.Nodup)
    (hpopped : ∀ x, t.popped = some x → (s.threads k).popped = some x) (hunclosed : t.unclosed = none)
    (hclosing : (s.threads k).closing = [])
    (hmapped : ∀ id, s.shared.clients.get id = some sock → (id, sock) ∈ t.closing) :
    Safe (s.set k (s.shared.close sock, t)) := by
  have hclosed : ∀ x, x ≠ sock → (s.shared.markClosed sock).closed x = s.shared.closed x :=
    fun x hx => Function.update_of_ne hx _ _
  rw [close_live hlive]
  apply h.set (h.heap.markClosed hlt hopen)
  · intro j hj
    apply (h.threads j).frame (s.shared.markClosed sock) (Nat.le_refl _)
    · exact fun _ _ _ hget => hget
    · exact fun _ _ hfreed hout _ => ⟨hout, hfreed⟩
    · intro x hu hx
      have hne : x ≠ sock := by
        rintro rfl
        exact hother j hj (Thread.popped_of_unclosed hu)
      rw [hclosed x hne]
      exact hx
  · refine ⟨fun id x hm => (h.threads k).held id x (hheld _ hm), hids,
      fun x hp => (h.threads k).popped x (hpopped x hp), ?_⟩
    intro x hu
    rw [hunclosed] at hu
    exact absurd hu (by simp)
  · intro j x hj hjx hp
    exact hj (h.popped_once j k x hjx (hpopped x hp))
  · intro id x hget
    by_cases hx : x = sock
    · subst hx
      exact .inr (.inl (hmapped id hget))
    · rw [hclosed x hx]
      rcases h.open_or_own k hget with hopen' | hown | hothers
      · exact .inl hopen'
      · rw [hclosing] at hown
        exact absurd hown List.not_mem_nil
      · exact .inr (.inr hothers)

/-- **Freeing** a socket that the thread has popped. -/
theorem Safe.free (h : Safe s) {sock : Nat} (hsock : (s.threads k).popped = some sock)
    (hheld : ∀ x ∈ t.held, x ∈ (s.threads k).held) (hids : t.ids.Nodup) (hpopped : t.popped = none)
    (hclosing : (s.threads k).closing = []) : Safe (s.set k (s.shared.free sock, t)) := by
  obtain ⟨hlt, hout, hzero⟩ := (h.threads k).popped sock hsock
  have hfreed : ∀ x, x ≠ sock → (s.shared.free sock).freed x = s.shared.freed x :=
    fun x hx => Function.update_of_ne hx _ _
  have hmapped : ∀ id x, s.shared.clients.get id = some x → x ≠ sock := by
    rintro id x hget rfl
    exact hout id hget
  apply h.set
  · refine ⟨h.heap.injective, h.heap.allocated, ?_, ?_, ?_,
      h.heap.no_misuse⟩
    · intro id x hget
      rw [hfreed x (hmapped id x hget)]
      exact h.heap.live id x hget
    · intro x hle
      have hne : x ≠ sock := by
        rintro rfl
        exact absurd hlt (Nat.not_lt.mpr hle)
      rw [hfreed x hne]
      exact h.heap.unused x hle
    · intro x
      refine ⟨(h.heap.once x).1, ?_⟩
      exact count_le_one hzero (fun x => (h.heap.once x).2) x
  · intro j hj
    apply (h.threads j).frame (s.shared.free sock) (Nat.le_refl _)
    · exact fun _ _ _ hget => hget
    · intro x hp hx hout' _
      have hne : x ≠ sock := by
        rintro rfl
        exact hj (h.popped_once j k x hp hsock)
      rw [hfreed x hne]
      exact ⟨hout', hx⟩
    · exact fun _ _ hclosed => hclosed
  · exact .of_not_popped hpopped hids fun id x hm => (h.threads k).held id x (hheld _ hm)
  · rw [hpopped]
    simp
  · intro id x hget
    rcases h.open_or_own k hget with hopen | hown | hother
    · exact .inl hopen
    · rw [hclosing] at hown
      exact absurd hown List.not_mem_nil
    · exact .inr (.inr hother)

/-! ### Every step of every thread -/

/-- A thread that is done holds nothing. -/
theorem Safe.finish (h : Safe s) (hs : SameSockets s.shared g) (hclosing : (s.threads k).closing = []) :
    Safe (s.set k (g, .done)) := by
  apply h.move hs
  · exact fun _ _ hm => absurd hm (by simp [Thread.held])
  · exact List.nodup_nil
  · rfl
  · exact Thread.forall_closing hclosing

variable {todo : List (Nat × Nat)}

/-- The serve loop goes on to `pc`. -/
theorem Safe.serveTo (h : Safe s) (hs : SameSockets s.shared g) (hclosing : (s.threads k).closing = [])
    {pc : ServePc} (hpopped : (Thread.serve pc todo).popped = none)
    (hcurrent : ∀ id sock, (id, sock) ∈ pc.current → s.shared.clients.get id = some sock)
    (htodo : ∀ id sock, (id, sock) ∈ todo → s.shared.clients.get id = some sock)
    (hids : (pc.ids ++ todo.map Prod.fst).Nodup) : Safe (s.set k (g, .serve pc todo)) := by
  refine h.move hs ?_ hids hpopped ?_
  · intro id sock hm
    rcases List.mem_append.mp hm with hm | hm
    · exact hcurrent id sock hm
    · exact htodo id sock hm
  · exact Thread.forall_closing hclosing

/-- **Every step of the serve loop.** -/
theorem Safe.serve (h : Safe s) {pc : ServePc} (hk : s.threads k = .serve pc todo) (o : Outcome)
    (hunshared : ∀ sock, (Thread.serve pc todo).releases s.shared = some sock →
      ∀ j, j ≠ k → sock ∉ (s.threads j).held.map Prod.snd) :
    Safe (s.set k (serveAct s.shared o todo pc)) := by
  have hok := h.threads k
  rw [hk] at hok
  have hclosing : (s.threads k).closing = [] := by rw [hk]; rfl
  have hcurrent : ∀ id sock, (id, sock) ∈ pc.current → s.shared.clients.get id = some sock :=
    fun id sock hm => hok.held id sock (List.mem_append_left _ hm)
  have htodo : ∀ id sock, (id, sock) ∈ todo → s.shared.clients.get id = some sock :=
    fun id sock hm => hok.held id sock (List.mem_append_right _ hm)
  have hids : (pc.ids ++ todo.map Prod.fst).Nodup := hok.nodup
  have hrest : (todo.map Prod.fst).Nodup := hids.of_append_right
  have hrefl := SameSockets.refl s.shared
  have hnone : ∀ id sock, (id, sock) ∈ ([] : List (Nat × Nat)) → s.shared.clients.get id = some sock :=
    fun _ _ hm => absurd hm (by simp)
  have hnext : Safe (s.set k (s.shared, .serve .next todo)) :=
    h.serveTo hrefl hclosing rfl hnone htodo hrest
  have hdone : Safe (s.set k (s.shared, .done)) := h.finish hrefl hclosing
  cases pc with
  | test =>
    simp only [serveAct]
    split
    · exact h.serveTo hrefl hclosing rfl hnone htodo hrest
    · exact hdone
  | accept =>
    cases o with
    | found => exact h.serveTo hrefl hclosing rfl hnone htodo hrest
    | nothing => exact h.serveTo hrefl hclosing rfl hnone htodo hrest
    | ended => exact hdone
    | failed => exact hdone
  | retest accepted =>
    simp only [serveAct]
    split
    · cases accepted with
      | true => exact h.serveTo hrefl hclosing rfl hnone htodo hrest
      | false => exact h.serveTo hrefl hclosing rfl hnone htodo hrest
    · exact hdone
  | exchange =>
    simp only [serveAct]
    split
    · exact h.serveTo hrefl hclosing rfl hnone htodo hrest
    · exact hdone
  | set =>
    refine h.addClient ?_ hrest rfl ?_
    · rw [hk]
      exact fun _ hm => hm
    · exact Thread.forall_closing hclosing
  | iter =>
    exact h.serveTo hrefl hclosing rfl hnone (fun id sock => s.shared.clients.mem_iter_iff.mp)
      s.shared.clients.iter_nodup
  | next =>
    cases todo with
    | nil => exact h.serveTo hrefl hclosing rfl hnone hnone List.nodup_nil
    | cons x rest =>
      apply h.serveTo hrefl hclosing rfl
      · intro id sock hm
        exact htodo id sock (List.mem_singleton.mp hm ▸ List.mem_cons_self)
      · exact fun id sock hm => htodo id sock (List.mem_cons_of_mem _ hm)
      · exact hids
  | header id sock =>
    -- the loop holds this socket, so it is in the map and not freed
    have hlive := h.heap.live id sock (hcurrent id sock List.mem_cons_self)
    simp only [serveAct, touch_live hlive]
    cases o with
    | nothing => exact hnext
    | ended => exact h.serveTo hrefl hclosing rfl hnone htodo hids
    | failed => exact hdone
    | found => exact h.serveTo hrefl hclosing rfl hcurrent htodo hids
  | body id sock =>
    have hlive := h.heap.live id sock (hcurrent id sock List.mem_cons_self)
    simp only [serveAct, touch_live hlive]
    cases o with
    | nothing => exact hdone
    | ended => exact h.serveTo hrefl hclosing rfl hnone htodo hids
    | failed => exact hdone
    | found =>
      show Safe (s.set k (s.shared, if s.shared.onRecv then _ else _))
      split
      · exact h.serveTo hrefl hclosing rfl hcurrent htodo hids
      · exact hnext
  | contains id =>
    simp only [serveAct]
    split
    · exact h.serveTo hrefl hclosing rfl hnone htodo hids
    · exact hnext
  | pop id =>
    rw [serveAct, s.shared.clients.pop_eq id]
    cases hget : s.shared.clients.get id with
    | none =>
      exact h.serveTo (sameSockets_without hget) hclosing rfl hnone htodo hrest
    | some client =>
      refine h.take hget (hunshared client hget) ?_ hrest rfl (.inr hclosing) ?_
      · intro id' sock' hm
        refine ⟨?_, htodo id' sock' hm⟩
        rintro rfl
        exact (List.nodup_cons.mp hids).1 (List.mem_map_of_mem hm)
      · exact Thread.forall_closing hclosing
  | close client =>
    obtain ⟨hlt, hout, hlive⟩ := hok.popped client rfl
    refine h.close hlt hlive (hok.unclosed client rfl) ?_ ?_ hrest ?_ rfl hclosing ?_
    · intro j hj hp
      exact hj (h.popped_once j k client hp (by rw [hk]; rfl))
    · rw [hk]
      exact fun _ hm => hm
    · rw [hk]
      exact fun _ hp => hp
    · exact fun id hget => absurd hget (hout id)
  | free client =>
    refine h.free ?_ ?_ hrest rfl hclosing
    · rw [hk]
      rfl
    · rw [hk]
      exact fun _ hm => hm
  | get id sock =>
    have hget := hcurrent id sock List.mem_cons_self
    simp only [serveAct, hget]
    exact h.serveTo hrefl hclosing rfl hcurrent htodo hids
  | decrypt id sock =>
    have hlive := h.heap.live id sock (hcurrent id sock List.mem_cons_self)
    simp only [serveAct, touch_live hlive]
    cases o with
    | failed => exact hdone
    | nothing => exact hnext
    | ended => exact hnext
    | found => exact hnext

/-- **Every step of a removal.** -/
theorem Safe.remove (h : Safe s) {pc : RemovePc} (hk : s.threads k = .remove pc) (o : Outcome)
    (hunshared : ∀ sock, (Thread.remove pc).releases s.shared = some sock →
      ∀ j, j ≠ k → sock ∉ (s.threads j).held.map Prod.snd) :
    Safe (s.set k (removeAct s.shared o pc)) := by
  have hok := h.threads k
  rw [hk] at hok
  have hclosing : (s.threads k).closing = [] := by rw [hk]; rfl
  have hdone : Safe (s.set k (s.shared, .done)) := h.finish (SameSockets.refl _) hclosing
  cases pc with
  | test id =>
    simp only [removeAct]
    split
    · refine h.move (SameSockets.refl _) ?_ List.nodup_nil rfl ?_
      · exact fun _ _ hm => absurd hm (by simp [Thread.held])
      · exact Thread.forall_closing hclosing
    · exact hdone
  | pop id =>
    rw [removeAct, s.shared.clients.pop_eq id]
    cases hget : s.shared.clients.get id with
    | none => exact h.finish (sameSockets_without hget) hclosing
    | some client =>
      refine h.take hget (hunshared client hget) ?_ List.nodup_nil rfl (.inr hclosing) ?_
      · exact fun _ _ hm => absurd hm (by simp [Thread.held])
      · exact Thread.forall_closing hclosing
  | close client =>
    obtain ⟨hlt, hout, hlive⟩ := hok.popped client rfl
    have hother : ∀ j, j ≠ k → (s.threads j).popped ≠ some client :=
      fun j hj hp => hj (h.popped_once j k client hp (by rw [hk]; rfl))
    simp only [removeAct]
    split
    · refine h.close hlt hlive (hok.unclosed client rfl) hother ?_ List.nodup_nil ?_ rfl hclosing ?_
      · exact fun _ hm => absurd hm (by simp [Thread.held])
      · exact fun _ hp => absurd hp (by simp [Thread.popped])
      · exact fun id hget => absurd hget (hout id)
    · refine h.close hlt hlive (hok.unclosed client rfl) hother ?_ List.nodup_nil ?_ rfl hclosing ?_
      · exact fun _ hm => absurd hm (by simp [Thread.held])
      · rw [hk]
        exact fun _ hp => hp
      · exact fun id hget => absurd hget (hout id)
  | free client =>
    refine h.free ?_ ?_ List.nodup_nil rfl hclosing
    · rw [hk]
      rfl
    · exact fun _ hm => absurd hm (by simp [Thread.held])

/-- **Every step of a stop.** -/
theorem Safe.stop (h : Safe s) {pc : StopPc} (hk : s.threads k = .stop pc todo) (o : Outcome)
    (hunshared : ∀ sock, (Thread.stop pc todo).releases s.shared = some sock →
      ∀ j, j ≠ k → sock ∉ (s.threads j).held.map Prod.snd) :
    Safe (s.set k (stopAct s.shared o todo pc)) := by
  have hok := h.threads k
  rw [hk] at hok
  have hcurrent : ∀ id sock, (id, sock) ∈ pc.current → s.shared.clients.get id = some sock :=
    fun id sock hm => hok.held id sock (List.mem_append_left _ hm)
  have htodo : ∀ id sock, (id, sock) ∈ todo → s.shared.clients.get id = some sock :=
    fun id sock hm => hok.held id sock (List.mem_append_right _ hm)
  have hids : (pc.current.map Prod.fst ++ todo.map Prod.fst).Nodup := hok.nodup
  have hrest : (todo.map Prod.fst).Nodup := hids.of_append_right
  have hrefl := SameSockets.refl s.shared
  cases pc with
  | test =>
    have hclosing : (s.threads k).closing = [] := by rw [hk]; rfl
    simp only [stopAct]
    split
    · refine h.move hrefl htodo hrest rfl ?_
      exact Thread.forall_closing hclosing
    · exact h.finish hrefl hclosing
  | clear =>
    refine h.move ⟨rfl, rfl, rfl, rfl, rfl⟩ htodo hrest rfl ?_
    rw [hk]
    exact fun _ hm => absurd hm (by simp [Thread.closing])
  | iter =>
    refine h.move hrefl (fun id sock => s.shared.clients.mem_iter_iff.mp) s.shared.clients.iter_nodup
      rfl ?_
    rw [hk]
    exact fun _ hm => absurd hm (by simp [Thread.closing])
  | next =>
    have hclosing : (s.threads k).closing = [] := by rw [hk]; rfl
    cases todo with
    | nil => exact h.finish hrefl hclosing
    | cons x rest =>
      refine h.move hrefl (fun id sock hm => htodo id sock hm) hids rfl ?_
      exact Thread.forall_closing hclosing
  | close id sock =>
    have hclosing : (s.threads k).closing = [] := by rw [hk]; rfl
    have hget := hcurrent id sock List.mem_cons_self
    have hlt := h.heap.allocated id sock hget
    have hlive := h.heap.live id sock hget
    have hopen := h.open_of_unshared hget (hunshared sock rfl) hclosing
    have hother : ∀ j, j ≠ k → (s.threads j).popped ≠ some sock :=
      fun j _ hp => ((h.threads j).popped sock hp).2.1 id hget
    have hmapped : ∀ id', s.shared.clients.get id' = some sock → (id', sock) ∈ [(id, sock)] := by
      intro id' hget'
      rw [h.heap.injective id' id sock hget' hget]
      exact List.mem_cons_self
    simp only [stopAct]
    split
    · refine h.close hlt hlive hopen hother ?_ (List.nodup_singleton id) ?_ rfl hclosing hmapped
      · rw [hk]
        exact fun x hm => List.mem_append_left _ hm
      · exact fun _ hp => absurd hp (by simp [Thread.popped])
    · refine h.close hlt hlive hopen hother ?_ hids ?_ rfl hclosing hmapped
      · rw [hk]
        exact fun _ hm => hm
      · exact fun _ hp => absurd hp (by simp [Thread.popped])
  | pop id sock =>
    -- nobody else could take it since the close, so the pop finds it
    have hget := hcurrent id sock List.mem_cons_self
    rw [stopAct, s.shared.clients.pop_eq id]
    rw [Thread.releases] at hunshared
    rw [hget]
    refine h.take hget (hunshared sock hget) ?_ hrest rfl (.inl rfl) ?_
    · intro id' sock' hm
      have hmem : id' ∈ todo.map Prod.fst := List.mem_map_of_mem hm
      refine ⟨?_, htodo id' sock' hm⟩
      rintro rfl
      exact (List.nodup_cons.mp hids).1 hmem
    · rw [hk]
      intro x hm
      rw [List.mem_singleton.mp hm]
  | free client =>
    refine h.free ?_ ?_ hrest rfl (by rw [hk]; rfl)
    · rw [hk]
      rfl
    · rw [hk]
      exact fun _ hm => hm
  | gaveUp id sock =>
    refine h.move hrefl (fun id' sock' hm => hok.held id' sock' hm) hids rfl ?_
    rw [hk]
    exact fun _ hm => hm

/-- No step that keeps to the rule does any harm. -/
theorem systemStep_safe {i : SystemInput} (h : Safe s) (hi : Unshared s i) :
    Safe (systemStep s i) := by
  cases i with
  | call k c =>
    simp only [systemStep]
    split
    · rename_i hidle
      have hstart : c.start.held = [] ∧ c.start.ids = [] ∧ c.start.popped = none := by
        cases c with
        | remove id => exact ⟨rfl, rfl, rfl⟩
        | stop => exact ⟨rfl, rfl, rfl⟩
      refine h.move (SameSockets.refl _) ?_ (by rw [hstart.2.1]; exact List.nodup_nil) hstart.2.2 ?_
      · rw [hstart.1]
        exact fun _ _ hm => absurd hm (by simp)
      · rw [hidle]
        exact fun _ hm => absurd hm (by simp [Thread.closing])
    · exact h
  | step k o =>
    simp only [systemStep]
    have hunshared := hi
    cases hk : s.threads k with
    | serve pc todo =>
      rw [Unshared, hk] at hunshared
      exact h.serve hk o hunshared
    | remove pc =>
      rw [Unshared, hk] at hunshared
      exact h.remove hk o hunshared
    | stop pc todo =>
      rw [Unshared, hk] at hunshared
      exact h.stop hk o hunshared
    | idle =>
      refine h.move (SameSockets.refl _) ?_ List.nodup_nil rfl ?_
      · exact fun _ _ hm => absurd hm (by simp [Thread.held])
      · rw [hk]
        exact fun _ hm => hm
    | done => exact h.finish (SameSockets.refl _) (by rw [hk]; rfl)

theorem startSystem_safe (onRecv : Bool) : Safe (startSystem onRecv) where
  heap := by
    have hempty : ∀ id sock, (startSystem onRecv).shared.clients.get id ≠ some sock := by
      intro id sock h
      change (Clients.empty : Clients Nat).get id = some sock at h
      rw [Clients.get_empty] at h
      exact absurd h (by simp)
    refine ⟨fun id _ sock h => absurd h (hempty id sock), fun id sock h => absurd h (hempty id sock),
      fun id sock h => absurd h (hempty id sock), fun _ _ => ⟨rfl, rfl⟩, ?_, rfl⟩
    intro _
    exact ⟨Nat.zero_le 1, Nat.zero_le 1⟩
  threads k := by
    show ThreadOk _ (if k = 0 then .serve .test [] else .idle)
    split
    · exact ⟨fun _ _ hm => absurd hm (by simp [Thread.held, ServePc.current]), List.nodup_nil,
        fun _ hp => absurd hp (by simp [Thread.popped]), fun _ hu => absurd hu (by simp [Thread.unclosed])⟩
    · exact ⟨fun _ _ hm => absurd hm (by simp [Thread.held]), List.nodup_nil,
        fun _ hp => absurd hp (by simp [Thread.popped]), fun _ hu => absurd hu (by simp [Thread.unclosed])⟩
  popped_once j k sock hj _ := by
    have hnone : ((startSystem onRecv).threads j).popped = none := by
      show (if j = 0 then Thread.serve .test [] else .idle).popped = none
      split
      · rfl
      · rfl
    rw [hnone] at hj
    exact absurd hj (by simp)
  open_or_closing _ _ _ := .inl rfl

/-- **Unshared releases.**  However the steps of the serve loop, of any number of removals and of stops
    are interleaved: as long as a socket is taken out of the map, or closed in it, only while no other
    thread holds it, no client socket is used after its release, looked up in vain, closed twice or
    freed twice. -/
theorem release_of_unshared (onRecv : Bool) (is : List SystemInput)
    (h : Runs.Along systemStep Unshared (startSystem onRecv) is) :
    ReleasedOnce (Runs.run systemStep (startSystem onRecv) is) := by
  apply Safe.releasedOnce
  exact Runs.run_invariant_of_along (fun _ _ hs hi => systemStep_safe hs hi) is (startSystem onRecv)
    (startSystem_safe onRecv) h

/-! ### Schedules -/

/-- The serve loop admits a client and takes its snapshot. -/
def demoSnapshot : List SystemInput :=
  [.step 0 .nothing, .step 0 .found, .step 0 .nothing, .step 0 .found, .step 0 .nothing,
   .step 0 .nothing, .step 0 .nothing]

/-- A whole removal of client 0 on thread 1. -/
def demoRemoval : List SystemInput :=
  [.call 1 (.remove 0), .step 1 .nothing, .step 1 .nothing, .step 1 .nothing, .step 1 .nothing]

/-- Three ways in which it goes wrong.  A removal frees the socket between the snapshot and the header
    read; a removal takes the client out of the map between the body read and the lookup; a stop closes
    the socket, and the loop, which is told so, closes it again before the stop looks for it. -/
theorem release_shared :
    ¬ ReleasedOnce (Runs.run systemStep (startSystem true)
        (demoSnapshot ++ demoRemoval ++ [.step 0 .found])) ∧
      ¬ ReleasedOnce (Runs.run systemStep (startSystem true)
        (demoSnapshot ++ [.step 0 .found, .step 0 .found] ++ demoRemoval ++ [.step 0 .nothing])) ∧
      ¬ ReleasedOnce (Runs.run systemStep (startSystem true)
        (demoSnapshot ++ [.call 1 .stop, .step 1 .nothing, .step 1 .nothing, .step 1 .nothing,
          .step 1 .nothing, .step 1 .nothing, .step 0 .ended, .step 0 .nothing, .step 0 .nothing,
          .step 0 .nothing])) := by
  refine ⟨?_, ?_, ?_⟩
  · intro h
    have hmisuses : (Runs.run systemStep (startSystem true)
        (demoSnapshot ++ demoRemoval ++ [.step 0 .found])).shared.misuses = [.freedSocket 0] := by
      decide +kernel
    exact absurd (h.1.symm.trans hmisuses) (by simp)
  · intro h
    have hmisuses : (Runs.run systemStep (startSystem true)
        (demoSnapshot ++ [.step 0 .found, .step 0 .found] ++ demoRemoval ++
          [.step 0 .nothing])).shared.misuses = [.getNull 0] := by decide +kernel
    exact absurd (h.1.symm.trans hmisuses) (by simp)
  · intro h
    have hclosed := (h.2 0).1
    revert hclosed
    decide +kernel

theorem unshared_of_none {o : Outcome} (h : (s.threads k).releases s.shared = none) :
    Unshared s (.step k o) := by
  intro sock hs
  rw [h] at hs
  exact absurd hs (by simp)

theorem unshared_of_alone {o : Outcome} (h : ∀ j, j ≠ k → (s.threads j).held = []) :
    Unshared s (.step k o) := by
  intro sock _ j hj
  rw [h j hj]
  simp

/-- The thread that takes the step. -/
def SystemInput.thread : SystemInput → Nat
  | .call k _ => k
  | .step k _ => k

theorem run_threads_of_ne {j : Nat} : ∀ (is : List SystemInput) (s : System),
    (∀ i ∈ is, i.thread ≠ j) → (Runs.run systemStep s is).threads j = s.threads j := by
  intro is
  induction is with
  | nil => intro s _; rfl
  | cons i is ih =>
    intro s h
    rw [Runs.run_cons, ih _ fun i' hi' => h i' (List.mem_cons_of_mem _ hi')]
    have hi := h i List.mem_cons_self
    cases i with
    | call k c =>
      simp only [systemStep]
      split
      · exact Function.update_of_ne (fun heq => hi heq.symm) _ _
      · rfl
    | step k o => exact Function.update_of_ne (fun heq => hi heq.symm) _ _

/-- The same removal when the loop is through with its snapshot. -/
theorem release_of_unshared_demo :
    ReleasedOnce (Runs.run systemStep (startSystem true)
      (demoSnapshot ++ [.step 0 .nothing, .step 0 .nothing] ++ demoRemoval)) := by
  apply release_of_unshared
  have hpop : ∀ j, j ≠ 1 → ((Runs.run systemStep (startSystem true)
      (demoSnapshot ++ [.step 0 .nothing, .step 0 .nothing] ++
        [.call 1 (.remove 0), .step 1 .nothing])).threads j).held = [] := by
    intro j hj
    by_cases h0 : j = 0
    · subst h0
      decide +kernel
    · rw [run_threads_of_ne]
      · show (if j = 0 then Thread.serve .test [] else .idle).held = []
        rw [if_neg h0]
        rfl
      · intro i hi
        have hthread : i.thread = 0 ∨ i.thread = 1 := by
          simp only [demoSnapshot, List.cons_append, List.nil_append, List.mem_cons, List.not_mem_nil,
            or_false] at hi
          rcases hi with rfl | rfl | rfl | rfl | rfl | rfl | rfl | rfl | rfl | rfl | rfl <;> decide
        rcases hthread with h | h
        · rw [h]
          exact fun heq => h0 heq.symm
        · rw [h]
          exact fun heq => hj heq.symm
  refine ⟨unshared_of_none (by decide +kernel), unshared_of_none (by decide +kernel),
    unshared_of_none (by decide +kernel), unshared_of_none (by decide +kernel),
    unshared_of_none (by decide +kernel), unshared_of_none (by decide +kernel),
    unshared_of_none (by decide +kernel), unshared_of_none (by decide +kernel),
    unshared_of_none (by decide +kernel), trivial,
    unshared_of_none (by decide +kernel), unshared_of_alone hpop,
    unshared_of_none (by decide +kernel), unshared_of_none (by decide +kernel), trivial⟩

end Cdtp
