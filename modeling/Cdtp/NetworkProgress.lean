/-
  The network settles.

  In the midst of a run there are messages on their way, and connections that only one end has closed.
  `Network.outstanding` counts both.  A turn of the serve loop or of a handle loop helps if it finds
  something: a message, or behind the last one the end of the stream (`Network.helps`).

  `network_settles` is the balance of every orderly schedule of turns: what is outstanding goes down by
  one with each turn that helps, and otherwise stays; nothing is sent, and no connection is closed that
  both ends hold open.  And from every state that the network can get into, some schedule of turns leads
  to one in which all that was sent has been dispatched and every connection is closed at both ends or
  at neither.
-/
import Cdtp.Lib.Progress
import Cdtp.Network

namespace Cdtp

open CMem Fifo Runs Progress

/-! ## What is outstanding -/

/-- The messages that were sent and not dispatched, in both directions, and one more if only one end has
    closed the connection. -/
def View.outstanding (v : View) : Nat :=
  match v.down with
  | none => 0
  | some p =>
    (v.sent.length - v.dispatched.length)
      + (p.sent.length - (clientDispatched p.handle.log).length)
      + if p.handle.client.connected = v.stored.isSome then 0 else 1

def Network.outstanding (w : Network) : Nat :=
  ∑ id ∈ Finset.range w.up.server.server.nextClientId, (w.view id).outstanding

/-- The loops go on, and nobody else does anything. -/
def NetworkInput.isTurn {PKey : Type} : NetworkInput PKey → Bool
  | .idle _ => true
  | .serverTurn _ _ => true
  | .clientTurn _ _ _ _ => true
  | _ => false

/-- Whether the turn finds a message, or the end of a stream that was closed at its other end. -/
def Network.helps {PKey : Type} (w : Network) : NetworkInput PKey → Bool
  | .serverTurn g _ =>
    match w.up.server.todo with
    | [] => false
    | (id, _) :: _ => (g.isSome && w.clientGone id) || Grant.finds g (w.up.pending id)
  | .clientTurn id g _ _ =>
    match w.down id with
    | none => false
    | some p =>
      p.handle.client.connected &&
        ((g.isSome && p.pending.isEmpty && !w.up.server.server.clients.contains id)
          || Grant.finds g p.pending)
  | _ => false

/-- Both ends hold the connection open. -/
def View.Joined (v : View) : Prop :=
  ∃ p, v.down = some p ∧ p.handle.client.connected = true ∧ v.stored.isSome = true

/-- What was sent. -/
def View.sendings (v : View) : List ClientSending × Option (List ServerSending) :=
  (v.sent, v.down.map HandleWired.sent)

/-- All that was sent has been dispatched, and what one end has closed the other has closed. -/
structure Network.Settled (w : Network) : Prop where
  dispatched : ∀ id p, w.down id = some p →
    dispatched w.up.server.log id = (w.up.sent id).map (fun a => plainData a.payload) ∧
    clientDispatched p.handle.log = p.sent.map fun a => plainData a.payload
  closed : ∀ id, w.Open id

/-! ## What a turn does about it -/

/-- A turn of which `helped` says whether it helps has led from `v` to `v'`. -/
structure View.Turned (helped : Bool) (v v' : View) : Prop where
  sendings : v'.sendings = v.sendings
  joined : v.Joined → v'.Joined
  outstanding : helped.toNat + v'.outstanding = v.outstanding

theorem View.Turned.refl (v : View) : v.Turned false v := ⟨rfl, fun h => h, Nat.zero_add _⟩

section Turns

variable {Ctx PKey : Type} {M : Machine} {O : OpenSSL Ctx PKey} {Matching : PKey → PKey → Prop}
  {w w' : Network} {id : Nat} {v : View} {p : HandleWired ServerSending}

theorem View.outstanding_some (hp : v.down = some p) :
    v.outstanding = (v.sent.length - v.dispatched.length)
      + (p.sent.length - (clientDispatched p.handle.log).length)
      + if p.handle.client.connected = v.stored.isSome then 0 else 1 := by
  rw [View.outstanding, hp]

theorem View.Joined.connected (h : v.Joined) (hp : v.down = some p) :
    p.handle.client.connected = true ∧ v.stored.isSome = true := by
  obtain ⟨p', hp', hboth⟩ := h
  rw [hp, Option.some.injEq] at hp'
  rw [hp']
  exact hboth

/-- A channel that has received one more has one less to receive. -/
theorem receive_counts {α β : Type} {c : Channel α} {a : α} {waiting sent : List α} {f : α → β}
    {dispatched : List β} (hw : c.waiting = a :: waiting) (hsent : c.receive.sent = sent)
    (hdispatched : dispatched = c.received.map f) (b : β) :
    1 + (sent.length - (dispatched ++ [b]).length) = sent.length - dispatched.length := by
  rw [Channel.sent_receive_cons hw] at hsent
  rw [← hsent, Channel.sent, hw, hdispatched]
  simp only [List.length_append, List.length_map, List.length_cons, List.length_nil]
  omega

/-- The server dispatches a message. -/
theorem turned_serverRead (hp : v.down = some p) {c : Channel ClientSending} {a : ClientSending}
    {waiting : List ClientSending} (hw : c.waiting = a :: waiting) (hsent : c.receive.sent = v.sent)
    (hdispatched : v.dispatched = c.received.map fun a => plainData a.payload) (handed : List Bytes)
    (pending : Bytes) (payload : CryptoData) :
    v.Turned true { v with handed := handed, pending := pending,
                           dispatched := v.dispatched ++ [payload] } where
  sendings := rfl
  joined h := h
  outstanding := by
    have hless := receive_counts hw hsent hdispatched payload
    rw [View.outstanding_some hp]
    show 1 + View.outstanding _ = _
    rw [View.outstanding_some (by exact hp)]
    show 1 + (v.sent.length - (v.dispatched ++ [payload]).length + _
      + if p.handle.client.connected = v.stored.isSome then 0 else 1) = _
    omega

/-- The server notices that the client has left. -/
theorem turned_serverEnd (hp : v.down = some p) (hstored : v.stored.isSome = true)
    (hclosed : p.handle.client.connected = false) (departed : Bool) :
    v.Turned true { v with stored := none, departed := departed } where
  sendings := rfl
  joined h := by
    have hconnected := (h.connected hp).1
    rw [hclosed] at hconnected
    exact absurd hconnected Bool.noConfusion
  outstanding := by
    rw [View.outstanding_some hp, hclosed, hstored]
    show 1 + View.outstanding _ = _
    rw [View.outstanding_some (by exact hp), hclosed]
    exact Nat.add_comm 1 _

/-- The client dispatches a message. -/
theorem turned_clientRead (hp : v.down = some p) {c : Channel ServerSending} {a : ServerSending}
    {waiting : List ServerSending} (hw : c.waiting = a :: waiting) (hsent : c.receive.sent = p.sent)
    (hdispatched : clientDispatched p.handle.log = c.received.map fun a => plainData a.payload)
    {p' : HandleWired ServerSending} (hsame : p'.sent = p.sent)
    (hconnected : p'.handle.client.connected = p.handle.client.connected) (payload : CryptoData)
    (hlog : clientDispatched p'.handle.log = clientDispatched p.handle.log ++ [payload]) :
    v.Turned true { v with down := some p' } where
  sendings := by rw [View.sendings, View.sendings, hp, Option.map_some, Option.map_some, hsame]
  joined h := ⟨p', rfl, hconnected.trans (h.connected hp).1, (h.connected hp).2⟩
  outstanding := by
    have hless := receive_counts hw hsent hdispatched payload
    rw [View.outstanding_some hp]
    show 1 + View.outstanding _ = _
    rw [View.outstanding_some rfl, hsame, hconnected, hlog]
    show 1 + (v.sent.length - v.dispatched.length + _
      + if p.handle.client.connected = v.stored.isSome then 0 else 1) = _
    omega

/-- The client finds nothing. -/
theorem turned_clientAgain (hp : v.down = some p) {p' : HandleWired ServerSending}
    (hsame : p'.sent = p.sent) (hconnected : p'.handle.client.connected = p.handle.client.connected)
    (hlog : p'.handle.log = p.handle.log) : v.Turned false { v with down := some p' } where
  sendings := by rw [View.sendings, View.sendings, hp, Option.map_some, Option.map_some, hsame]
  joined h := ⟨p', rfl, hconnected.trans (h.connected hp).1, (h.connected hp).2⟩
  outstanding := by
    rw [View.outstanding_some hp]
    show 0 + View.outstanding _ = _
    rw [View.outstanding_some rfl, hsame, hconnected, hlog]
    exact Nat.zero_add _

/-- The client notices that the server has let go of it. -/
theorem turned_clientEnd (hp : v.down = some p) (hstored : v.stored.isSome = false)
    (hconnected : p.handle.client.connected = true) {p' : HandleWired ServerSending}
    (hsame : p'.sent = p.sent) (hclosed : p'.handle.client.connected = false)
    (hlog : clientDispatched p'.handle.log = clientDispatched p.handle.log) :
    v.Turned true { v with down := some p' } where
  sendings := by rw [View.sendings, View.sendings, hp, Option.map_some, Option.map_some, hsame]
  joined h := by
    have hyes := (h.connected hp).2
    rw [hstored] at hyes
    exact absurd hyes Bool.noConfusion
  outstanding := by
    rw [View.outstanding_some hp, hconnected, hstored]
    show 1 + View.outstanding _ = _
    rw [View.outstanding_some rfl, hsame, hlog, hclosed]
    show 1 + (_ + if false = v.stored.isSome then 0 else 1) = _
    rw [hstored]
    exact Nat.add_comm 1 _

/-- A turn has led from `w` to `w'`: it was about one client, or about none. -/
structure Network.Turned (helped : Bool) (w w' : Network) : Prop where
  next : w'.up.server.server.nextClientId = w.up.server.server.nextClientId
  one : ∃ id, (∀ id', id' ≠ id → w'.view id' = w.view id') ∧ (w.view id).Turned helped (w'.view id)

theorem Network.Turned.pass (hnext : w'.up.server.server.nextClientId = w.up.server.server.nextClientId)
    (h : ∀ id, w'.view id = w.view id) : Network.Turned false w w' := by
  refine ⟨hnext, 0, fun id _ => h id, ?_⟩
  rw [h]
  exact View.Turned.refl _

/-- The client `id` is at `p'` now. -/
theorem setDown_turned {helped : Bool} {p' : HandleWired ServerSending}
    (h : (w.view id).Turned helped { w.view id with down := some p' }) :
    Network.Turned helped w (w.setDown id p') := by
  refine ⟨rfl, id, ?_, ?_⟩
  · intro id' hne
    exact view_congr (.inl rfl) rfl rfl rfl (Function.update_of_ne hne _ _)
  · have hview : (w.setDown id p').view id = { w.view id with down := some p' } := by
      simp only [Network.view, Network.setDown, Function.update_self]
    rw [hview]
    exact h

/-- A turn of the serve loop. -/
theorem serverTurn_turned (h : NetInv M O w) (hO : O.AESLaws) (hM : M.checked = false) {g b : Grant}
    (hfull : ∀ entry ∈ w.up.server.todo.head?,
      TurnInFull w.up.server.sizeBuffer (w.up.pending entry.1) g b) :
    Network.Turned (w.helps (.serverTurn g b : NetworkInput PKey)) w (w.serverTurn M O g b) := by
  unfold Network.serverTurn Network.helps
  rcases htodo : w.up.server.todo with _ | ⟨⟨id, sock⟩, rest⟩
  · exact .pass rfl fun _ => rfl
  · obtain ⟨-, -, hget⟩ := h.loop.turn htodo
    obtain ⟨p, hp, hlinked⟩ := h.stored hget
    simp only
    by_cases hend : g.isSome = true ∧ w.clientGone id = true
    · obtain ⟨hpending, hclosed⟩ := (clientGone_iff hp).mp hend.2
      rw [if_pos hend, hend.1, hend.2, h.serverEnd_eq htodo]
      have hpop := w.up.server.server.clients.get_pop id
      generalize (w.up.server.server.clients.pop id).2 = clients at hpop ⊢
      refine ⟨rfl, id, ?_, ?_⟩
      · intro id' hne
        refine view_congr (.inr ⟨.disconnect id _, hne.symm, rfl⟩) ?_ rfl rfl rfl
        show clients.get id' = _
        rw [hpop, Function.update_of_ne hne]
      · have hview := @view_leave w id { ({ w.up.server with todo := rest }).buffered (.data []) with
            server := { w.up.server.server with clients := clients },
            closed := w.up.server.closed ++ [sock.sock],
            log := w.up.server.log ++ [.disconnect id w.up.server.server.onDisconnect] }
          (.disconnect id w.up.server.server.onDisconnect) hpop rfl ⟨rfl, rfl⟩
        rw [hview]
        exact turned_serverEnd (v := w.view id) hp (Option.isSome_iff_exists.mpr ⟨sock, hget⟩) hclosed _
    · have hno : (g.isSome && w.clientGone id) = false := by
        rw [Bool.eq_false_iff, ne_eq, Bool.and_eq_true]
        exact hend
      rw [if_neg hend, hno, Bool.false_or]
      rcases h.serverRead_cases hO hM htodo (hfull (id, sock) (by rw [htodo]; rfl)) with
        ⟨hfinds, hs⟩ | ⟨hfinds, c, a, waiting, header, pending, hdispatched, hw, hcarries, hs⟩
      · rw [hfinds, hs]
        exact .pass rfl fun _ => rfl
      · have hpending : (w.wire M O (.turn g b O)).up.pending id = pending := by
          rw [hs]
          exact Function.update_self _ _ _
        have hlog : (w.wire M O (.turn g b O)).up.server.log
            = w.up.server.log ++ [.recv id (a.body M O) (some (plainData a.payload))] := by
          rw [hs]
        have hserver : (w.wire M O (.turn g b O)).up.server.server = w.up.server.server := by
          rw [hs]
          rfl
        have hrest : (w.wire M O (.turn g b O)).up.sent = w.up.sent ∧
            (w.wire M O (.turn g b O)).down = w.down := by
          rw [hs]
          exact ⟨rfl, rfl⟩
        rw [hfinds]
        refine ⟨congrArg CDTPServer.nextClientId hserver, id, ?_, ?_⟩
        · intro id' hne
          rw [hs]
          exact view_congr (.inr ⟨.recv id _ _, hne.symm, rfl⟩) rfl rfl (Function.update_of_ne hne _ _)
            rfl
        · rw [view_received (by rw [hserver]) hlog (congrFun hrest.1 id) hpending
            (congrFun hrest.2 id)]
          exact turned_serverRead hp hw hcarries.sent_eq hdispatched _ _ _

/-- A turn of a handle loop. -/
theorem clientTurn_turned (h : NetInv M O w) (hO : O.AESLaws) (hM : M.checked = false) {g b : Grant}
    {threadOk : Bool} (hfull : ∀ p ∈ w.down id, p.handle.client.connected = true →
      TurnInFull p.handle.sizeBuffer p.pending g b) :
    Network.Turned (w.helps (.clientTurn id g b threadOk : NetworkInput PKey)) w
      (w.clientTurn M O id g b threadOk) := by
  unfold Network.clientTurn
  rcases hp : w.down id with _ | p
  · have hhelps : w.helps (.clientTurn id g b threadOk : NetworkInput PKey) = false := by
      simp only [Network.helps, hp]
    rw [hhelps]
    exact .pass rfl fun _ => rfl
  · have hlinked := (h.views id).linked p hp
    have hhelps : w.helps (.clientTurn id g b threadOk : NetworkInput PKey)
        = (p.handle.client.connected &&
            ((g.isSome && p.pending.isEmpty && !w.up.server.server.clients.contains id)
              || Grant.finds g p.pending)) := by
      simp only [Network.helps, hp]
    rw [hhelps]
    simp only
    rcases hconnected : p.handle.client.connected with _ | _
    · -- the loop ends, if it has not ended already
      have hclosed : ∀ header body, Network.Turned false w (w.setDown id { p with
          handle := handleStep M p.handle (.turn header body O true threadOk) }) := by
        intro header body
        obtain ⟨status, -, hs⟩ :=
          @handleStep_closed Ctx PKey M O p.handle hconnected header body threadOk
        rw [hs]
        exact setDown_turned (turned_clientAgain (p := p) hp rfl rfl rfl)
      rw [Bool.false_and]
      split
      · exact hclosed _ _
      · have hno : ¬ (p.handle.status = .running ∧ p.handle.client.connected = true) := by
          rw [hconnected]
          exact fun h => absurd h.2 (by decide)
        rw [Network.wireDown, handleWiredStep, if_neg hno]
        exact hclosed _ _
    · have hrun := hlinked.running hconnected
      rw [Bool.true_and]
      by_cases hend : g.isSome ∧ p.pending = [] ∧ w.up.server.server.clients.contains id = false
      · have hgone : (w.view id).stored.isSome = false := by
          have hcontains := hend.2.2
          rw [Clients.contains_eq] at hcontains
          exact hcontains
        obtain ⟨errors, hs⟩ := @handleStep_end Ctx PKey M O p.handle hrun hconnected threadOk
        rw [if_pos hend, hs, hend.1, hend.2.1, hend.2.2]
        refine setDown_turned (turned_clientEnd hp hgone hconnected rfl rfl ?_)
        show clientDispatched (p.handle.log ++ [.disconnected _]) = _
        rw [clientDispatched, filterMap_snoc]
        exact List.append_nil _
      · have hno : (g.isSome && p.pending.isEmpty && !w.up.server.server.clients.contains id) = false := by
          rw [Bool.eq_false_iff, ne_eq, Bool.and_eq_true, Bool.and_eq_true, List.isEmpty_iff,
            Bool.not_eq_true', and_assoc]
          exact hend
        rw [if_neg hend, hno, Bool.false_or, Network.wireDown]
        rcases hlinked.clientRead_cases hO hM hrun hconnected (hfull p hp hconnected) threadOk with
          ⟨hfinds, hs⟩ | ⟨hfinds, c, a, waiting, header, pending, hc, hw, hcarries, hs⟩
        · rw [hfinds, hs]
          exact setDown_turned (turned_clientAgain (p := p) hp rfl rfl rfl)
        · generalize handleWiredStep M (ServerSending.message M O) p (.turn g b O true threadOk) = p'
            at hs ⊢
          have hlog : p'.handle.log
              = p.handle.log ++ [.recv (a.body M O) (some (plainData a.payload))] := by rw [hs]
          have hclient : p'.handle.client = p.handle.client := by
            rw [hs]
            rfl
          rw [hfinds]
          refine setDown_turned (turned_clientRead hp hw hcarries.sent_eq hc.dispatched_eq (by rw [hs])
            (congrArg CDTPClient.connected hclient) (plainData a.payload) ?_)
          rw [hlog, clientDispatched, filterMap_snoc]
          rfl

/-- **One turn** of any loop. -/
theorem networkStep_turned (h : NetInv M O w) (hO : O.AESLaws) (hM : M.checked = false)
    {i : NetworkInput PKey} (hturn : i.isTurn = true) (hi : Network.Orderly M O w i) :
    Network.Turned (w.helps i) w (networkStep M O w i) := by
  cases i with
  | idle e =>
    show Network.Turned false w
      (w.setServer (serveStep M w.up.server (.acceptError e : ServeInput Ctx PKey)))
    rcases @NetInv.idle_cases Ctx PKey M O w h e hi with ⟨-, hs⟩ | ⟨-, hs⟩
    · rw [hs]
      exact .pass rfl fun _ => rfl
    · rw [hs]
      exact .pass rfl fun _ => rfl
  | serverTurn g b => exact serverTurn_turned h hO hM hi
  | clientTurn id g b threadOk => exact clientTurn_turned h hO hM hi
  | connect c io client sizeBuffer => exact absurd hturn Bool.noConfusion
  | clientSend id rand payload => exact absurd hturn Bool.noConfusion
  | serverSend id rand payload => exact absurd hturn Bool.noConfusion
  | sendAll rand payload => exact absurd hturn Bool.noConfusion
  | remove id => exact absurd hturn Bool.noConfusion
  | disconnect id threadOk => exact absurd hturn Bool.noConfusion

/-- What is left goes down with the turns that help. -/
theorem Network.Turned.outstanding {helped : Bool} (h : NetInv M O w) (ht : Network.Turned helped w w') :
    helped.toNat + w'.outstanding = w.outstanding := by
  obtain ⟨id, hother, hself⟩ := ht.one
  rw [Network.outstanding, Network.outstanding, ht.next]
  by_cases hid : id < w.up.server.server.nextClientId
  · exact sum_add_of_one (Finset.mem_range.mpr hid)
      (fun id' hne => congrArg View.outstanding (hother id' hne)) hself.outstanding
  · -- the id was never given out, so there is nothing to do for it
    have hnobody : (w.view id).outstanding = 0 := by
      have hdown : (w.view id).down = none := (h.ids id).mpr (Nat.not_lt.mp hid)
      rw [View.outstanding, hdown]
    have hno : helped.toNat = 0 := by
      have hzero := hself.outstanding
      omega
    rw [hno, Nat.zero_add]
    apply Finset.sum_congr rfl
    intro id' hid'
    rw [hother id' fun heq => hid (heq ▸ Finset.mem_range.mp hid')]

/-! ## When nothing is outstanding -/

/-- What is waiting in a stream was sent and not dispatched. -/
theorem waiting_counts {α β : Type} {c : Channel α} {sent : List α} {f : α → β} {dispatched : List β}
    (hsent : c.sent = sent) (hdispatched : dispatched = c.received.map f) :
    sent.length - dispatched.length = c.waiting.length := by
  rw [← hsent, hdispatched, Channel.sent, List.length_append, List.length_map]
  omega

theorem waiting_eq_nil_iff {α : Type} {body : α → Bytes} {c : Channel α} {sent : List α}
    {handed : List Bytes} {pending : Bytes} (h : Carries M body c sent handed pending) :
    c.waiting = [] ↔ pending = [] := by
  rw [h.pending_eq, frames_eq_nil_iff, List.map_eq_nil_iff]

theorem View.Linked.counts (h : v.Linked M O p) :
    (v.sent.length - v.dispatched.length = 0 ↔ v.pending = []) ∧
      (p.sent.length - (clientDispatched p.handle.log).length = 0 ↔ p.pending = []) := by
  obtain ⟨c, hc, hdispatched⟩ := h.up
  obtain ⟨c', hc'⟩ := h.down
  rw [waiting_counts hc.sent_eq hdispatched, waiting_counts hc'.carries.sent_eq hc'.dispatched_eq,
    List.length_eq_zero_iff, List.length_eq_zero_iff]
  exact ⟨waiting_eq_nil_iff hc, waiting_eq_nil_iff hc'.carries⟩

/-- If something is outstanding, one of the two ends has something to find. -/
theorem View.Linked.work (h : v.Linked M O p) (hp : v.down = some p) (hne : v.outstanding ≠ 0) :
    (p.handle.client.connected = true ∧ (p.pending ≠ [] ∨ v.stored = none)) ∨
      (v.stored ≠ none ∧ (v.pending ≠ [] ∨ p.handle.client.connected = false)) := by
  obtain ⟨hup, hdown⟩ := h.counts
  rw [View.outstanding_some hp] at hne
  by_contra hno
  rw [not_or] at hno
  obtain ⟨hclient, hserver⟩ := hno
  rcases hconnected : p.handle.client.connected with _ | _
  · have hstored : v.stored = none := by
      by_contra hstored
      exact hserver ⟨hstored, .inr hconnected⟩
    rw [hup.mpr (h.drained hstored), hdown.mpr (h.clientDrained hconnected), hconnected, hstored] at hne
    exact hne rfl
  · have hpending : p.pending = [] := by
      by_contra hpending
      exact hclient ⟨hconnected, .inl hpending⟩
    have hstored : v.stored ≠ none := fun hstored => hclient ⟨hconnected, .inr hstored⟩
    have hpending' : v.pending = [] := by
      by_contra hpending'
      exact hserver ⟨hstored, .inl hpending'⟩
    rw [hup.mpr hpending', hdown.mpr hpending, hconnected, Option.isSome_iff_ne_none.mpr hstored] at hne
    exact hne rfl

theorem NetInv.settled_iff (h : NetInv M O w) : w.outstanding = 0 ↔ w.Settled := by
  have hzero : w.outstanding = 0 ↔ ∀ id p, w.down id = some p → (w.view id).outstanding = 0 := by
    rw [Network.outstanding, Finset.sum_eq_zero_iff]
    constructor
    · intro hall id p hp
      apply hall id
      rw [Finset.mem_range]
      by_contra hid
      rw [(h.ids id).mpr (Nat.not_lt.mp hid)] at hp
      exact absurd hp.symm (Option.some_ne_none p)
    · intro hall id hid
      rcases hp : w.down id with _ | p
      · have hdown : (w.view id).down = none := hp
        rw [View.outstanding, hdown]
      · exact hall id p hp
  rw [hzero]
  have hopen : ∀ id p, w.down id = some p →
      ((if p.handle.client.connected = (w.view id).stored.isSome then 0 else 1) = 0 ↔
        (p.handle.client.connected = true ↔ w.up.server.server.clients.contains id = true)) := by
    intro id p _
    rw [Clients.contains_eq]
    show (if p.handle.client.connected = (w.up.server.server.clients.get id).isSome then 0 else 1) = 0 ↔ _
    cases p.handle.client.connected with
    | _ =>
      cases (w.up.server.server.clients.get id).isSome with
      | _ => decide
  constructor
  · intro hall
    refine ⟨?_, ?_⟩
    · intro id p hp
      have hlinked := (h.views id).linked p hp
      obtain ⟨c, hc, hdispatched⟩ := hlinked.up
      obtain ⟨c', hc'⟩ := hlinked.down
      have hnone := hall id p hp
      rw [View.outstanding_some (show (w.view id).down = some p from hp)] at hnone
      have hup := hlinked.counts.1.mp (by omega)
      have hdown := hlinked.counts.2.mp (by omega)
      rw [hc.pending_eq_nil_iff] at hup
      rw [hc'.carries.pending_eq_nil_iff] at hdown
      refine ⟨?_, ?_⟩
      · show (w.view id).dispatched = (w.view id).sent.map _
        rw [hdispatched, hup]
      · rw [hc'.dispatched_eq, hdown]
    · intro id p hp
      have hnone := hall id p hp
      rw [View.outstanding_some (show (w.view id).down = some p from hp)] at hnone
      exact (hopen id p hp).mp (by omega)
  · rintro ⟨hdispatched, hclosed⟩ id p hp
    obtain ⟨hup, hdown⟩ := hdispatched id p hp
    have hup : (w.view id).dispatched = (w.view id).sent.map fun a => plainData a.payload := hup
    rw [View.outstanding_some (show (w.view id).down = some p from hp),
      (hopen id p hp).mpr (hclosed id p hp), hup, hdown, List.length_map, List.length_map, Nat.sub_self,
      Nat.sub_self]

/-! ## A schedule that settles -/

/-- An orderly turn. -/
def Turning (M : Machine) (O : OpenSSL Ctx PKey) (w : Network) (i : NetworkInput PKey) : Prop :=
  i.isTurn = true ∧ Network.Orderly M O w i

/-- A read of the whole of something that is pending. -/
theorem read_some {pending : Bytes} {n k : Nat} (hn : n ≠ 0) (h : pending ≠ []) (hk : k ≠ 0) :
    Grant.read (some k) pending n = .data (pending.take k) := by
  rw [Grant.read, if_neg hn]
  exact if_neg fun hor => hor.elim h hk

theorem finds_five {pending : Bytes} (h : pending ≠ []) :
    Grant.finds (some CDTP_LENSIZE) pending = true := by
  rw [Grant.finds, read_some (by decide) h (by decide)]
  rfl

/-- A read that is granted as much as it asks for gets that much of what is pending. -/
theorem read_whole {pending : Bytes} {n : Nat} (h : n ≤ pending.length) :
    ((Grant.read (some n) pending n).got n).length = n := by
  rcases n with _ | n
  · rfl
  · have hne : pending ≠ [] := List.ne_nil_of_length_pos (by omega)
    rw [read_some (Nat.succ_ne_zero n) hne (Nat.succ_ne_zero n), ReadResult.got_ok rfl]
    show ((pending.take (n + 1)).take (n + 1)).length = n + 1
    rw [List.take_take, List.length_take]
    omega

/-- The transport can always bring the next frame whole. -/
theorem exists_turnInFull {sizeBuffer : Bytes} (hbuf : sizeBuffer.length = CDTP_LENSIZE)
    {bodies : List Bytes} (hsize : ∀ body ∈ bodies, body.length < 2 ^ 40) :
    ∃ b, TurnInFull sizeBuffer (frames M bodies) (some CDTP_LENSIZE) b := by
  rcases bodies with _ | ⟨body, rest⟩
  · exact ⟨none, .inl rfl⟩
  · have hlen : (frames M (body :: rest)).length
        = CDTP_LENSIZE + body.length + (frames M rest).length := by
      rw [frames, List.length_append, constructMessage_length]
    have hfive := @read_whole (frames M (body :: rest)) CDTP_LENSIZE (by omega)
    have hannounced : announced sizeBuffer (streamTurn sizeBuffer (frames M (body :: rest))
        (some CDTP_LENSIZE) (some body.length)).header = body.length :=
      announced_frames hbuf (hsize body List.mem_cons_self) hfive
    refine ⟨some body.length, .inr ⟨hfive, ?_⟩⟩
    rw [hannounced]
    show ((Grant.read (some body.length) _ (announced sizeBuffer (Grant.read _ _ _))).got _).length = _
    have hannounced : announced sizeBuffer (Grant.read (some CDTP_LENSIZE) (frames M (body :: rest))
        CDTP_LENSIZE) = body.length := hannounced
    rw [hannounced]
    apply read_whole
    rw [List.length_drop, hfive, hlen]
    omega

/-! ### The serve loop gets to everybody -/

/-- The serve loop passes over the clients at the front of its snapshot. -/
theorem exists_skip (hO : O.AESLaws) (hS : O.SealLaws Matching) (hM : M.checked = false)
    (back : List (Nat × CDTPSocket)) :
    ∀ (front : List (Nat × CDTPSocket)) (w : Network), NetInv M O w →
      w.up.server.todo = front ++ back →
      ∃ is s, Along (networkStep M O) (Turning M O) w is ∧
        run (networkStep M O) w is = w.setServer s ∧ s.server = w.up.server.server ∧
        s.log = w.up.server.log ∧ s.todo = back := by
  intro front
  induction front with
  | nil => intro w _ htodo; exact ⟨[], w.up.server, trivial, rfl, rfl, rfl, htodo⟩
  | cons entry front ih =>
    intro w h htodo
    obtain ⟨id, sock⟩ := entry
    have hnothing : Grant.finds none (w.up.pending id) = false := rfl
    have hok : Turning M O w (.serverTurn none none) := ⟨rfl, fun entry _ => .inl rfl⟩
    have hs : networkStep M O w (.serverTurn none none)
        = w.setServer (({ w.up.server with todo := front ++ back }).buffered (.error .EAGAIN)) := by
      have hno : ¬ (Option.isSome (none : Grant) = true ∧ w.clientGone id = true) := fun h =>
        absurd h.1 Bool.noConfusion
      simp only [networkStep, Network.serverTurn, htodo, List.cons_append, if_neg hno, Network.wire]
      rw [wiredStep_again h.running htodo hnothing]
      rfl
    have h' := networkStep_inv hO hS hM h hok.2
    rw [hs] at h'
    obtain ⟨is, s, halong, hrun, hserver, hlog, hback⟩ := ih _ h' rfl
    refine ⟨.serverTurn none none :: is, s, ⟨hok, ?_⟩, ?_, hserver, hlog, hback⟩
    · rw [hs]
      exact halong
    · rw [run_cons, hs, hrun]
      rfl

theorem setServer_view {s : ServeState} (hserver : s.server = w.up.server.server)
    (hlog : s.log = w.up.server.log) (id : Nat) : (w.setServer s).view id = w.view id := by
  simp only [Network.view, Network.setServer, hserver, hlog]

/-- **The serve loop gets to everybody**: to any client that is stored, and on the way nothing happens. -/
theorem exists_walk (hO : O.AESLaws) (hS : O.SealLaws Matching) (hM : M.checked = false)
    (h : NetInv M O w) {sock : CDTPSocket} (hget : w.up.server.server.clients.get id = some sock) :
    ∃ is s rest, Along (networkStep M O) (Turning M O) w is ∧
      run (networkStep M O) w is = w.setServer s ∧ s.server = w.up.server.server ∧
      s.log = w.up.server.log ∧ s.todo = (id, sock) :: rest := by
  have hkeep := fun w i h (hi : Turning M O w i) => networkStep_inv hO hS hM h hi.2
  -- to the head of the loop
  obtain ⟨is, s, halong, hrun, hserver, hlog, htodo⟩ :=
    exists_skip hO hS hM [] w.up.server.todo w h (List.append_nil _).symm
  have h₁ := run_invariant_of_along hkeep is w h halong
  rw [hrun] at h₁
  -- where the snapshot is taken, with the client somewhere in it
  have hidle : Turning M O (w.setServer s) (.idle .EAGAIN : NetworkInput PKey) := ⟨rfl, rfl⟩
  have hsnapshot : networkStep M O (w.setServer s) (.idle .EAGAIN : NetworkInput PKey)
      = w.setServer s.snapshot := by
    show (w.setServer s).setServer (serveStep M s (.acceptError .EAGAIN : ServeInput Ctx PKey)) = _
    rcases @NetInv.idle_cases Ctx PKey M O _ h₁ .EAGAIN rfl with ⟨hne, -⟩ | ⟨-, hs⟩
    · exact absurd htodo hne
    · rw [show serveStep M s (.acceptError .EAGAIN : ServeInput Ctx PKey) = s.snapshot from hs]
      rfl
  have h₂ := hkeep _ _ h₁ hidle
  rw [hsnapshot] at h₂
  have hmem : (id, sock) ∈ s.server.clients.iter := by
    rw [hserver]
    exact (Clients.mem_iter_iff _).mpr hget
  obtain ⟨front, back, hsplit⟩ := List.append_of_mem hmem
  -- and up to it
  obtain ⟨js, s', halong', hrun', hserver', hlog', htodo'⟩ :=
    exists_skip hO hS hM ((id, sock) :: back) front _ h₂ hsplit
  refine ⟨is ++ .idle .EAGAIN :: js, s', back, along_append halong ?_, ?_, hserver'.trans hserver,
    hlog'.trans hlog, htodo'⟩
  · rw [hrun]
    refine ⟨hidle, ?_⟩
    rw [hsnapshot]
    exact halong'
  · rw [run_append, hrun, run_cons, hsnapshot, hrun']
    rfl

/-- **There is always a way to the next turn that helps.** -/
theorem exists_help (hO : O.AESLaws) (hS : O.SealLaws Matching) (hM : M.checked = false)
    (h : NetInv M O w) (hne : w.outstanding ≠ 0) :
    ∃ is, Along (networkStep M O) (Turning M O) w is ∧
      (run (networkStep M O) w is).outstanding < w.outstanding := by
  obtain ⟨id, -, hid⟩ := Finset.exists_ne_zero_of_sum_ne_zero hne
  rcases hp : w.down id with _ | p
  · have hdown : (w.view id).down = none := hp
    rw [View.outstanding, hdown] at hid
    exact absurd rfl hid
  · have hlinked := (h.views id).linked p hp
    rcases hlinked.work hp hid with ⟨hconnected, hwork⟩ | ⟨hstored, hwork⟩
    · -- the client has something to find
      obtain ⟨c, hc⟩ := hlinked.down
      have hsize : ∀ body ∈ c.waiting.map (ServerSending.body M O), body.length < 2 ^ 40 := by
        intro body hbody
        obtain ⟨a, ha, rfl⟩ := List.mem_map.mp hbody
        have hsent : a ∈ p.sent := hc.carries.sent_eq ▸ Channel.mem_sent_of_mem_waiting ha
        exact Nat.lt_trans ((hlinked.down_allowed a hsent).spec (O := O) hO hM).2.1 (by decide)
      obtain ⟨b, hfull⟩ := @exists_turnInFull M p.handle.sizeBuffer hlinked.buffer _ hsize
      rw [← hc.carries.pending_eq] at hfull
      have hok : Turning M O w (.clientTurn id (some CDTP_LENSIZE) b true) := by
        refine ⟨rfl, ?_⟩
        intro p' hp' _
        rw [hp, Option.mem_some] at hp'
        rw [← hp']
        exact hfull
      have hhelps : w.helps (.clientTurn id (some CDTP_LENSIZE) b true : NetworkInput PKey) = true := by
        simp only [Network.helps, hp, hconnected, Bool.true_and]
        by_cases hpending : p.pending = []
        · have hgone : w.up.server.server.clients.contains id = false := by
            rw [Clients.contains_eq]
            exact Option.isSome_eq_false_iff.mpr
              (Option.isNone_iff_eq_none.mpr (hwork.resolve_left fun h => h hpending))
          rw [hpending, hgone]
          rfl
        · rw [finds_five hpending, Bool.or_true]
      refine ⟨[.clientTurn id (some CDTP_LENSIZE) b true], ⟨hok, trivial⟩, ?_⟩
      have hleft := (networkStep_turned h hO hM hok.1 hok.2).outstanding h
      rw [hhelps] at hleft
      show (networkStep M O w (.clientTurn id (some CDTP_LENSIZE) b true)).outstanding < _
      exact Nat.lt_of_succ_le (Nat.le_of_eq ((Nat.add_comm _ 1).trans hleft))
    · -- the server has something to find, once it gets there
      obtain ⟨sock, hget⟩ := Option.ne_none_iff_exists'.mp hstored
      obtain ⟨is, s, rest, halong, hrun, hserver, hlog, htodo⟩ := exists_walk hO hS hM h hget
      have h' := run_invariant_of_along
        (fun w i h (hi : Turning M O w i) => networkStep_inv hO hS hM h hi.2) is w h halong
      rw [hrun] at h'
      have hsame : (w.setServer s).outstanding = w.outstanding := by
        rw [Network.outstanding, Network.outstanding]
        show ∑ id ∈ Finset.range s.server.nextClientId, _ = _
        rw [hserver]
        exact Finset.sum_congr rfl fun id' _ => congrArg View.outstanding (setServer_view hserver hlog id')
      obtain ⟨c, hc, -⟩ := hlinked.up
      have hsize : ∀ body ∈ c.waiting.map (ClientSending.body M O), body.length < 2 ^ 40 := by
        intro body hbody
        obtain ⟨a, ha, rfl⟩ := List.mem_map.mp hbody
        have hsent : a ∈ (w.view id).sent := hc.sent_eq ▸ Channel.mem_sent_of_mem_waiting ha
        exact Nat.lt_trans ((hlinked.up_allowed a hsent).1.spec hO hM).2.1 (by decide)
      obtain ⟨b, hfull⟩ := @exists_turnInFull M s.sizeBuffer h'.loop.buffer _ hsize
      rw [← hc.pending_eq] at hfull
      have hok : Turning M O (w.setServer s) (.serverTurn (some CDTP_LENSIZE) b) := by
        refine ⟨rfl, ?_⟩
        intro entry hentry
        have hentry : entry ∈ s.todo.head? := hentry
        rw [htodo, List.head?_cons, Option.mem_some] at hentry
        rw [← hentry]
        exact hfull
      have hhelps : (w.setServer s).helps (.serverTurn (some CDTP_LENSIZE) b : NetworkInput PKey)
          = true := by
        have hhead : (w.setServer s).up.server.todo = (id, sock) :: rest := htodo
        simp only [Network.helps, hhead]
        by_cases hpending : w.up.pending id = []
        · have hgone : (w.setServer s).clientGone id = true :=
            (clientGone_iff (w := w.setServer s) hp).mpr
              ⟨hpending, hwork.resolve_left fun h => h hpending⟩
          rw [hgone]
          rfl
        · rw [show Grant.finds (some CDTP_LENSIZE) ((w.setServer s).up.pending id) = true from
            finds_five hpending, Bool.or_true]
      refine ⟨is ++ [.serverTurn (some CDTP_LENSIZE) b], along_append halong ?_, ?_⟩
      · rw [hrun]
        exact ⟨hok, trivial⟩
      · have hleft := (networkStep_turned h' hO hM hok.1 hok.2).outstanding h'
        rw [hhelps, hsame] at hleft
        rw [run_append, hrun]
        show (networkStep M O (w.setServer s) (.serverTurn (some CDTP_LENSIZE) b)).outstanding < _
        exact Nat.lt_of_succ_le (Nat.le_of_eq ((Nat.add_comm _ 1).trans hleft))

/-! ## Every state that can be reached -/

/-- What holds of a network that is left to its loops. -/
structure Settles (M : Machine) (O : OpenSSL Ctx PKey) (w : Network) : Prop where
  /-- a schedule of turns does what is outstanding exactly as far as it has turns that help -/
  balance : ∀ is, Along (networkStep M O) (Turning M O) w is →
    countAlong (networkStep M O) Network.helps w is + (run (networkStep M O) w is).outstanding
      = w.outstanding
  /-- and changes neither what was sent, nor that a connection is open at both ends -/
  kept : ∀ is, Along (networkStep M O) (Turning M O) w is → ∀ id,
    ((run (networkStep M O) w is).view id).sendings = (w.view id).sendings ∧
    ((w.view id).Joined → ((run (networkStep M O) w is).view id).Joined)
  /-- nothing is left when everything has been dispatched and noticed -/
  settled : ∀ is, Along (networkStep M O) (Turning M O) w is →
    ((run (networkStep M O) w is).outstanding = 0 ↔ (run (networkStep M O) w is).Settled)
  /-- which some schedule achieves -/
  settles : ∃ is, Along (networkStep M O) (Turning M O) w is ∧ (run (networkStep M O) w is).Settled

/-- The state `w'` after some turns from `w`. -/
theorem run_kept (hO : O.AESLaws) (hS : O.SealLaws Matching) (hM : M.checked = false) :
    ∀ (is : List (NetworkInput PKey)) (w : Network), NetInv M O w →
      Along (networkStep M O) (Turning M O) w is → ∀ id,
      ((run (networkStep M O) w is).view id).sendings = (w.view id).sendings ∧
      ((w.view id).Joined → ((run (networkStep M O) w is).view id).Joined) := by
  intro is
  induction is with
  | nil => intro w _ _ id; exact ⟨rfl, fun h => h⟩
  | cons i is ih =>
    intro w h halong id
    obtain ⟨hsent, hjoined⟩ := ih _ (networkStep_inv hO hS hM h halong.1.2) halong.2 id
    obtain ⟨one, hother, hself⟩ := (networkStep_turned h hO hM halong.1.1 halong.1.2).one
    rw [run_cons]
    by_cases hid : id = one
    · subst hid
      exact ⟨hsent.trans hself.sendings, fun h => hjoined (hself.joined h)⟩
    · rw [hother id hid] at hsent hjoined
      exact ⟨hsent, hjoined⟩

theorem NetInv.settles (hO : O.AESLaws) (hS : O.SealLaws Matching) (hM : M.checked = false)
    (h : NetInv M O w) : Settles M O w := by
  have hkeep := fun w i h (hi : Turning M O w i) => networkStep_inv hO hS hM h hi.2
  refine ⟨?_, fun is halong => run_kept hO hS hM is w h halong,
    fun is halong => (run_invariant_of_along hkeep is w h halong).settled_iff, ?_⟩
  · intro is halong
    have hstep : ∀ w i, NetInv M O w → Turning M O w i → NetInv M O (networkStep M O w i) ∧
        (w.helps i).toNat + (networkStep M O w i).outstanding = w.outstanding :=
      fun w i h hi => ⟨hkeep w i h hi, (networkStep_turned h hO hM hi.1 hi.2).outstanding h⟩
    exact count_add_measure hstep is w h halong
  · have hmore : ∀ w, NetInv M O w → w.outstanding ≠ 0 → ∃ is,
        Along (networkStep M O) (Turning M O) w is ∧
          (run (networkStep M O) w is).outstanding < w.outstanding :=
      fun w h hne => exists_help hO hS hM h hne
    obtain ⟨is, halong, hdone⟩ := exists_run_done hkeep hmore w h
    exact ⟨is, halong, (run_invariant_of_along hkeep is w h halong).settled_iff.mp hdone⟩

/-- **The network settles.**  Whatever orderly run has led to its state: left to its loops, the network
    dispatches what is on its way and notices what was closed, one turn that helps at a time and nothing
    else; and it can always get to the end of that. -/
theorem network_settles (hO : O.AESLaws) (hS : O.SealLaws Matching) (hM : M.checked = false)
    {s₀ : ServeState} (hs : Fresh s₀) (honRecv : s₀.server.onRecv = true)
    (is : List (NetworkInput PKey))
    (horderly : Along (networkStep M O) (Network.Orderly M O) (network s₀) is) :
    Settles M O (run (networkStep M O) (network s₀) is) := by
  have h := run_invariant_of_along (fun w i h hi => networkStep_inv hO hS hM h hi) is (network s₀)
    (hs.netInv (M := M) (O := O) honRecv) horderly
  exact h.settles hO hS hM

end Turns

/-- A client connects, and a message leaves at either end. -/
theorem demoSends_orderly : Along (networkStep plainMachine plainOpenSSL)
    (Network.Orderly plainMachine plainOpenSSL) (network demoStart) (demoNetwork.take 3) := by
  refine ⟨fun _ => demo_connects (by decide) 4, ⟨by decide, ?_⟩, ⟨by decide, ?_⟩, trivial⟩
  · decide +kernel
  · decide +kernel

theorem network_settles_demo : Settles plainMachine plainOpenSSL
    (run (networkStep plainMachine plainOpenSSL) (network demoStart) (demoNetwork.take 3)) := by
  apply network_settles plainOpenSSL_aesLaws plainOpenSSL_sealLaws rfl (startServe_fresh true true true rfl)
    rfl
  exact demoSends_orderly

example : (run (networkStep plainMachine plainOpenSSL) (network demoStart)
    (demoNetwork.take 3)).outstanding = 2 := by decide +kernel

end Cdtp
