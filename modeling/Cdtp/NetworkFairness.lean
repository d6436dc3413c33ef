/-
  No client is starved.

  The serve loop takes a snapshot of its clients and gives each of them one turn, so a client that sends
  without end costs the others one turn for each of theirs.  `no_client_starves` says how long a message
  waits at most, in every orderly run and whatever the other clients do in it, as long as the server's
  reads find what is pending: for every snapshot but the last one, the oldest message of each client is
  dispatched, until all that the client had sent has been.
-/
import Cdtp.NetworkProgress

namespace Cdtp

open CMem Fifo Runs Progress

/-- The input takes a snapshot of the clients. -/
def Network.takesSnapshot {PKey : Type} (w : Network) : NetworkInput PKey → Bool
  | .idle _ => w.up.server.todo.isEmpty
  | .connect _ _ _ _ => w.up.server.todo.isEmpty
  | _ => false

/-- What has arrived from a client is there when the serve loop looks. -/
def Prompt {PKey : Type} : NetworkInput PKey → Prop
  | .serverTurn g _ => ∃ n, g = some (n + 1)
  | _ => True

/-- The number of messages of the client `id` that were dispatched. -/
def Network.dispatches (w : Network) (id : Nat) : Nat := (dispatched w.up.server.log id).length

/-- One, if the client `id` has still to be looked at in this iteration. -/
def Network.due (w : Network) (id : Nat) : Nat := if id ∈ w.up.server.todo.map Prod.fst then 1 else 0

/-- Since there were `start` messages dispatched of the client `id` and `sent` sent by it, `k` snapshots
    were taken. -/
structure Network.Served (id sent start k : Nat) (w : Network) : Prop where
  sent_le : sent ≤ (w.up.sent id).length
  served : sent ≤ w.dispatches id ∨
    (w.up.server.server.clients.get id ≠ none ∧ start + k ≤ w.dispatches id + w.due id)

section Steps

variable {Ctx PKey : Type} {M : Machine} {O : OpenSSL Ctx PKey} {Matching : PKey → PKey → Prop}
  {w w' : Network} {id sent start k : Nat}

/-- A client of whom nothing is pending has been served. -/
theorem NetInv.all_dispatched (h : NetInv M O w) (hpending : w.up.pending id = []) :
    (w.up.sent id).length ≤ w.dispatches id := by
  rcases hp : w.down id with _ | p
  · have hunborn := (h.views id).unborn hp
    have hsent : w.up.sent id = [] := hunborn.sent
    rw [hsent]
    exact Nat.zero_le _
  · have hcount := ((h.views id).linked p hp).counts.1.mpr hpending
    exact Nat.le_of_sub_eq_zero hcount

/-- So has one who is gone. -/
theorem NetInv.gone_dispatched (h : NetInv M O w) (hget : w.up.server.server.clients.get id = none) :
    (w.up.sent id).length ≤ w.dispatches id := by
  apply h.all_dispatched
  rcases hp : w.down id with _ | p
  · exact ((h.views id).unborn hp).pending
  · exact ((h.views id).linked p hp).drained hget

/-- A step of which the serve loop notices nothing. -/
theorem Network.Served.same (h : w.Served id sent start k) (hserver : w'.up.server = w.up.server)
    (hsent : (w.up.sent id).length ≤ (w'.up.sent id).length) : w'.Served id sent start k := by
  refine ⟨Nat.le_trans h.sent_le hsent, ?_⟩
  have hsame := h.served
  rw [Network.dispatches, Network.due] at hsame ⊢
  rw [hserver]
  exact hsame

/-- A snapshot has everybody in it who is stored. -/
theorem Network.Served.snapshot {s : ServeState} (h : w.Served id sent start k)
    (hsent : w'.up.sent = w.up.sent) (hserver : w'.up.server = s.snapshot)
    (htodo : w.up.server.todo = [])
    (hlog : (dispatched s.log id).length = w.dispatches id)
    (hget : w.up.server.server.clients.get id ≠ none → s.server.clients.get id ≠ none) :
    w'.Served id sent start (k + 1) := by
  have hdispatches : w'.dispatches id = w.dispatches id := by
    rw [Network.dispatches, hserver]
    exact hlog
  refine ⟨?_, ?_⟩
  · rw [hsent]
    exact h.sent_le
  · rw [hdispatches, hserver]
    rcases h.served with hall | ⟨hstored, hle⟩
    · exact .inl hall
    · refine .inr ⟨hget hstored, ?_⟩
      have hbefore : w.due id = 0 := by
        rw [Network.due, htodo]
        exact if_neg List.not_mem_nil
      have hafter : w'.due id = 1 := by
        obtain ⟨sock, hsock⟩ := Option.ne_none_iff_exists'.mp (hget hstored)
        rw [Network.due, hserver]
        exact if_pos (List.mem_map_of_mem ((Clients.mem_iter_iff _).mpr hsock))
      omega

/-- A turn of the client `one`: one message is dispatched, or there was none. -/
theorem Network.Served.turn {one : Nat} {sock : CDTPSocket} {rest : List (Nat × CDTPSocket)}
    (h : w.Served id sent start k) (htodo : w.up.server.todo = (one, sock) :: rest)
    (hsent : w'.up.sent = w.up.sent) (htodo' : w'.up.server.todo = rest)
    (hother : id ≠ one → w'.dispatches id = w.dispatches id ∧
      w'.up.server.server.clients.get id = w.up.server.server.clients.get id)
    (hself : id = one → sent ≤ w'.dispatches id ∨
      (w'.up.server.server.clients.get id = w.up.server.server.clients.get id ∧
        w'.dispatches id = w.dispatches id + 1)) : w'.Served id sent start k := by
  have hdue : w'.due id = if id ∈ rest.map Prod.fst then 1 else 0 := by rw [Network.due, htodo']
  refine ⟨by rw [hsent]; exact h.sent_le, ?_⟩
  by_cases hid : id = one
  · rcases hself hid with hall | ⟨hget, hdispatches⟩
    · exact .inl hall
    · have hbefore : w.due id = 1 := by
        rw [Network.due, htodo, hid]
        exact if_pos List.mem_cons_self
      rw [hget, hdispatches]
      rcases h.served with hall | ⟨hstored, hle⟩
      · exact .inl (Nat.le_succ_of_le hall)
      · exact .inr ⟨hstored, by omega⟩
  · obtain ⟨hdispatches, hget⟩ := hother hid
    have hbefore : w.due id = w'.due id := by
      rw [hdue, Network.due, htodo, List.map_cons]
      refine if_congr ?_ rfl rfl
      rw [List.mem_cons]
      exact ⟨fun hor => hor.resolve_left hid, .inr⟩
    rw [hdispatches, hget, ← hbefore]
    exact h.served

/-- What the entry `e` adds to what was dispatched. -/
theorem dispatches_append {e : Entry} (hlog : w'.up.server.log = w.up.server.log ++ [e])
    (id : Nat) : w'.dispatches id = w.dispatches id + (dispatchedBy id e).toList.length := by
  rw [Network.dispatches, hlog, dispatched_append, List.length_append]
  rfl

theorem NetInv.serverTurn_served (h : NetInv M O w) (hO : O.AESLaws) (hM : M.checked = false) {g b : Grant}
    (hfull : ∀ entry ∈ w.up.server.todo.head?,
      TurnInFull w.up.server.sizeBuffer (w.up.pending entry.1) g b)
    (hprompt : ∃ n, g = some (n + 1)) (hserved : w.Served id sent start k) :
    (w.serverTurn M O g b).Served id sent start k := by
  unfold Network.serverTurn
  rcases htodo : w.up.server.todo with _ | ⟨⟨one, sock⟩, rest⟩
  · exact hserved
  · obtain ⟨-, -, hget⟩ := h.loop.turn htodo
    obtain ⟨p, hp, -⟩ := h.stored hget
    -- if nothing is pending of the client, there is nothing left to dispatch
    have hdone : id = one → w.up.pending one = [] → sent ≤ w.dispatches id := by
      rintro rfl hpending
      exact Nat.le_trans hserved.sent_le (h.all_dispatched hpending)
    simp only
    split
    · rename_i hend
      obtain ⟨hpending, -⟩ := (clientGone_iff hp).mp hend.2
      rw [h.serverEnd_eq htodo]
      have hpop := w.up.server.server.clients.get_pop one
      generalize (w.up.server.server.clients.pop one).2 = clients at hpop ⊢
      refine hserved.turn htodo rfl rfl ?_ ?_
      · intro hne
        refine ⟨dispatches_append (e := .disconnect one _) rfl id, ?_⟩
        show clients.get id = _
        rw [hpop, Function.update_of_ne hne]
      · intro hid
        exact .inl (Nat.le_trans (hdone hid hpending)
          (Nat.le_of_eq (dispatches_append (e := .disconnect one _) rfl id).symm))
    · rcases h.serverRead_cases hO hM htodo (hfull (one, sock) (by rw [htodo]; rfl)) with
        ⟨hfinds, hs⟩ | ⟨-, c, a, waiting, header, pending, -, -, -, hs⟩
      · rw [hs]
        refine hserved.turn htodo rfl rfl (fun _ => ⟨rfl, rfl⟩) ?_
        intro hid
        left
        apply hdone hid
        by_contra hpending
        obtain ⟨n, rfl⟩ := hprompt
        rw [Grant.finds, read_some (by decide) hpending (Nat.succ_ne_zero n)] at hfinds
        exact absurd hfinds Bool.noConfusion
      · generalize w.wire M O (.turn g b O) = w' at hs ⊢
        have hlog : w'.up.server.log
            = w.up.server.log ++ [.recv one (a.body M O) (some (plainData a.payload))] := by rw [hs]
        have hserver : w'.up.server.server = w.up.server.server := by
          rw [hs]
          rfl
        have htodo' : w'.up.server.todo = rest := by
          rw [hs]
          rfl
        have hsent : w'.up.sent = w.up.sent := by rw [hs]
        have hcount := @dispatches_append w w' _ hlog id
        refine hserved.turn htodo hsent htodo' ?_ ?_
        · intro hne
          rw [dispatchedBy, if_neg hne.symm] at hcount
          exact ⟨hcount, by rw [hserver]⟩
        · intro hid
          rw [dispatchedBy, if_pos hid.symm] at hcount
          exact .inr ⟨by rw [hserver], hcount⟩

/-! ## What the others do -/

theorem clientSend_sent {one : Nat} {rand : Nat → UInt8} {payload : Bytes} (id : Nat) :
    (w.clientSend M O one rand payload).up.server = w.up.server ∧
      (w.up.sent id).length ≤ ((w.clientSend M O one rand payload).up.sent id).length := by
  unfold Network.clientSend
  split
  · exact ⟨rfl, Nat.le_refl _⟩
  · split
    · refine ⟨rfl, ?_⟩
      show _ ≤ (Function.update w.up.sent one (w.up.sent one ++ [_]) id).length
      by_cases hid : id = one
      · rw [hid, Function.update_self, List.length_append]
        exact Nat.le_add_right _ _
      · rw [Function.update_of_ne hid]
    · exact ⟨rfl, Nat.le_refl _⟩

/-- A removed client has been served; the others are where they were. -/
theorem NetInv.remove_served (h : NetInv M O w) {one : Nat} (hpending : w.up.pending one = [])
    (hserved : w.Served id sent start k) : (w.wire M O (.remove one true)).Served id sent start k := by
  show (w.setServer (serveStep M w.up.server (.remove one true : ServeInput Ctx PKey))).Served id sent
    start k
  rcases htodo : w.up.server.todo with _ | ⟨entry, rest⟩
  · have hs : serveStep M w.up.server (.remove one true : ServeInput Ctx PKey)
        = w.up.server.removeClient one true := by
      simp only [serveStep, h.running, htodo]
    rw [hs]
    have hpop := w.up.server.server.clients.get_pop one
    rcases hget : w.up.server.server.clients.get one with _ | client
    · rw [removeClient_none h.loop.serving hget]
      generalize (w.up.server.server.clients.pop one).2 = clients at hpop ⊢
      refine ⟨hserved.sent_le, hserved.served.imp (fun hall => hall) ?_⟩
      rintro ⟨hstored, hle⟩
      refine ⟨?_, hle⟩
      have hsame : clients.get = w.up.server.server.clients.get := by
        rw [hpop, ← hget, Function.update_eq_self]
      show clients.get id ≠ none
      rw [hsame]
      exact hstored
    · obtain ⟨errors, -, hr⟩ := removeClient_some h.loop.serving hget true
      rw [hr]
      generalize (w.up.server.server.clients.pop one).2 = clients at hpop ⊢
      have hsame : Network.dispatches (w.setServer { w.up.server with
          server := { w.up.server.server with clients := clients },
          log := w.up.server.log ++ [.removed one], closed := w.up.server.closed ++ [client.sock],
          errors := errors }) id = w.dispatches id :=
        dispatches_append (w := w) (e := .removed one) rfl id
      refine ⟨hserved.sent_le, ?_⟩
      by_cases hid : id = one
      · left
        rw [hsame]
        exact Nat.le_trans hserved.sent_le (h.all_dispatched (hid ▸ hpending))
      · refine hserved.served.imp (fun hall => Nat.le_trans hall (Nat.le_of_eq hsame.symm)) ?_
        rintro ⟨hstored, hle⟩
        refine ⟨?_, Nat.le_trans hle (Nat.le_of_eq (congrArg (· + _) hsame.symm))⟩
        show clients.get id ≠ none
        rw [hpop, Function.update_of_ne hid]
        exact hstored
  · have hs : serveStep M w.up.server (.remove one true : ServeInput Ctx PKey) = w.up.server := by
      simp only [serveStep, h.running, htodo]
    rw [hs]
    exact hserved

/-- **One step**, which takes a snapshot or not. -/
theorem networkStep_served (h : NetInv M O w) (hO : O.AESLaws) (hS : O.SealLaws Matching)
    (hM : M.checked = false) {i : NetworkInput PKey} (hi : Network.Orderly M O w i) (hprompt : Prompt i)
    (hserved : w.Served id sent start k) :
    (networkStep M O w i).Served id sent start (k + (w.takesSnapshot i).toNat) := by
  cases i with
  | idle e =>
    show (w.setServer (serveStep M w.up.server (.acceptError e : ServeInput Ctx PKey))).Served id sent
      start (k + w.up.server.todo.isEmpty.toNat)
    rcases @NetInv.idle_cases Ctx PKey M O w h e hi with ⟨hne, hs⟩ | ⟨htodo, hs⟩
    · rw [hs, List.isEmpty_eq_false_iff.mpr hne]
      exact hserved
    · rw [hs, htodo]
      exact hserved.snapshot rfl rfl htodo rfl fun hstored => hstored
  | connect c io client sizeBuffer =>
    show (if w.up.server.todo = [] then w.connect M O c io client sizeBuffer else w).Served id sent start
      (k + w.up.server.todo.isEmpty.toNat)
    by_cases htodo : w.up.server.todo = []
    · obtain ⟨key, -, -, hs⟩ := h.connect_server hS hM htodo (hi htodo)
      have hup := @connect_up Ctx PKey M O w c io client sizeBuffer
      rw [hs] at hup
      rw [if_pos htodo, htodo]
      refine hserved.snapshot (by rw [hup]; rfl) (by rw [hup]; rfl) htodo ?_ ?_
      · show (dispatched (w.up.server.log ++ [.connect _ _]) id).length = _
        rw [dispatched_append]
        exact congrArg List.length (List.append_nil _)
      · intro hstored
        obtain ⟨sock, hsock⟩ := Option.ne_none_iff_exists'.mp hstored
        show (w.up.server.server.clients.set _ _).2.get id ≠ none
        rw [Clients.get_set_of_some hsock]
        exact Option.some_ne_none sock
    · rw [if_neg htodo, List.isEmpty_eq_false_iff.mpr htodo]
      exact hserved
  | clientSend one rand payload =>
    obtain ⟨hserver, hsent⟩ := @clientSend_sent Ctx PKey M O w one rand payload id
    exact hserved.same hserver hsent
  | serverSend one rand payload =>
    have hup := @serverSend_up Ctx PKey M O w one rand payload
    exact hserved.same (congrArg Wired.server hup) (Nat.le_of_eq (by rw [networkStep, hup]))
  | sendAll rand payload =>
    have hup := @sendAll_up Ctx PKey M O w rand payload
    exact hserved.same (congrArg Wired.server hup) (Nat.le_of_eq (by rw [networkStep, hup]))
  | serverTurn g b => exact h.serverTurn_served hO hM hi hprompt hserved
  | clientTurn one g b threadOk =>
    have hup := @clientTurn_up Ctx PKey M O w one g b threadOk
    exact hserved.same (congrArg Wired.server hup) (Nat.le_of_eq (by rw [networkStep, hup]))
  | remove one => exact h.remove_served hi hserved
  | disconnect one threadOk =>
    have hup := @disconnect_up Ctx PKey M O w one threadOk
    exact hserved.same (congrArg Wired.server hup) (Nat.le_of_eq (by rw [networkStep, hup]))

/-! ## Every orderly run -/

/-- An orderly step, with prompt reads. -/
def Prompted (M : Machine) (O : OpenSSL Ctx PKey) (w : Network) (i : NetworkInput PKey) : Prop :=
  Network.Orderly M O w i ∧ Prompt i

/-- In the run `is` from `w` the server dispatches all that a client had sent, or as many messages of it
    as snapshots are taken, but for the last one. -/
def Serves (M : Machine) (O : OpenSSL Ctx PKey) (w : Network) (is : List (NetworkInput PKey)) : Prop :=
  ∀ id, (w.up.sent id).length ≤ (run (networkStep M O) w is).dispatches id ∨
    w.dispatches id + countAlong (networkStep M O) Network.takesSnapshot w is
      ≤ (run (networkStep M O) w is).dispatches id + 1

/-- **No client is starved.**  Whatever state an orderly run has led to, and however the run goes on from
    there, as long as the reads are prompt: every client gets its turn with each snapshot. -/
theorem no_client_starves (hO : O.AESLaws) (hS : O.SealLaws Matching) (hM : M.checked = false)
    {s₀ : ServeState} (hs : Fresh s₀) (honRecv : s₀.server.onRecv = true)
    (is js : List (NetworkInput PKey))
    (horderly : Along (networkStep M O) (Network.Orderly M O) (network s₀) is)
    (hprompted : Along (networkStep M O) (Prompted M O) (run (networkStep M O) (network s₀) is) js) :
    Serves M O (run (networkStep M O) (network s₀) is) js := by
  have h := run_invariant_of_along (fun w i h hi => networkStep_inv hO hS hM h hi) is (network s₀)
    (hs.netInv (M := M) (O := O) honRecv) horderly
  generalize run (networkStep M O) (network s₀) is = w at h hprompted ⊢
  intro id
  have hstart : w.Served id (w.up.sent id).length (w.dispatches id) 0 := by
    refine ⟨Nat.le_refl _, ?_⟩
    by_cases hget : w.up.server.server.clients.get id = none
    · exact .inl (h.gone_dispatched hget)
    · exact .inr ⟨hget, Nat.le_add_right _ _⟩
  have hstep : ∀ (w' : Network) (i : NetworkInput PKey) (k : Nat), NetInv M O w' → Prompted M O w' i →
      w'.Served id (w.up.sent id).length (w.dispatches id) k →
      NetInv M O (networkStep M O w' i) ∧ (networkStep M O w' i).Served id (w.up.sent id).length
        (w.dispatches id) (k + (w'.takesSnapshot i).toNat) :=
    fun w' i k h hi hserved =>
      ⟨networkStep_inv hO hS hM h hi.1, networkStep_served h hO hS hM hi.1 hi.2 hserved⟩
  have hend := run_counts hstep js w 0 h hprompted hstart
  rw [Nat.zero_add] at hend
  refine hend.served.imp (fun hall => hall) ?_
  rintro ⟨-, hle⟩
  have hdue : (run (networkStep M O) w js).due id ≤ 1 := by
    rw [Network.due]
    split
    · exact Nat.le_refl 1
    · exact Nat.zero_le 1
  omega

end Steps

/-- Two clients connect, and send two messages and one … -/
def demoRivals : List (NetworkInput Unit) :=
  [.connect demoConnection demoClientExchange demoClient [0, 0, 0, 0, 0],
   .serverTurn none none,
   .connect { demoConnection with sock := 5 } demoClientExchange demoClient [0, 0, 0, 0, 0],
   .clientSend 0 (fun _ => 9) [1, 2, 3],
   .clientSend 0 (fun _ => 9) [4],
   .clientSend 1 (fun _ => 9) [5, 6]]

/-- … and the loop goes round twice. -/
def demoRounds : List (NetworkInput Unit) :=
  [.serverTurn (some 5) (some 32), .serverTurn (some 5) (some 32), .idle .EAGAIN,
   .serverTurn (some 5) (some 32), .serverTurn (some 5) none]

theorem demoRivals_orderly : Along (networkStep plainMachine plainOpenSSL)
    (Network.Orderly plainMachine plainOpenSSL) (network demoStart) demoRivals := by
  refine ⟨fun _ => demo_connects (by decide) 4, ?_, fun _ => demo_connects (by decide +kernel) 5,
    ⟨by decide, ?_⟩, ⟨by decide, ?_⟩, ⟨by decide, ?_⟩, trivial⟩
  · simp only [Network.Orderly]
    decide +kernel
  · decide +kernel
  · decide +kernel
  · decide +kernel

/-- Neither client has to wait until the other has sent everything. -/
theorem no_client_starves_demo :
    let w := run (networkStep plainMachine plainOpenSSL) (network demoStart) demoRivals
    let w' := run (networkStep plainMachine plainOpenSSL) w demoRounds
    Serves plainMachine plainOpenSSL w demoRounds ∧ w'.dispatches 0 = 2 ∧ w'.dispatches 1 = 1 := by
  refine ⟨?_, by decide +kernel, by decide +kernel⟩
  apply no_client_starves plainOpenSSL_aesLaws plainOpenSSL_sealLaws rfl
    (startServe_fresh true true true rfl) rfl
  · exact demoRivals_orderly
  · refine ⟨⟨?_, 4, rfl⟩, ⟨?_, 4, rfl⟩, ⟨rfl, trivial⟩, ⟨?_, 4, rfl⟩, ⟨?_, 4, rfl⟩, trivial⟩
    all_goals
      simp only [Network.Orderly]
      decide +kernel

end Cdtp
