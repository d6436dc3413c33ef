/-
  The network on a wire that somebody else holds.

  A frame is the length of a body and the body, and a body is a nonce and a ciphertext: it carries no
  counter, nothing about its direction and no tag.  Here whatever an end sends goes onto a tape and no
  further, and whoever holds the tape plays any message of a connection into either of its two streams, as
  often as they like.  What they play is, to the network, what the other end has sent, so `sent` counts it
  there.  They leave the key exchange alone and play messages whole.

  `wire_unauthenticated` says how far that goes.  The holder of the tape makes either end dispatch any
  messages of the connection in any order, those that this end has sent itself among them; but nothing
  that was not sent on the connection, and no loop is stopped by it.
-/
import Cdtp.NetworkProgress

namespace Cdtp

open CMem Runs Progress

/-! ## The tape -/

/-- A message that was sent.  Only the bytes are seen on the wire; the rest says what is in them. -/
structure Recorded where
  rand : Nat → UInt8
  payload : Bytes
  message : Bytes

/-- The network, and what was recorded of each connection. -/
structure Tapped where
  net : Network
  tape : Nat → List Recorded

/-- The server, the clients and the transport go on, or a message is played to the server or to a
    client. -/
inductive TappedInput (PKey : Type) where
  | own (i : NetworkInput PKey)
  | playUp (id k : Nat)
  | playDown (id k : Nat)

/-- Nothing was recorded yet. -/
def tapped (w : Network) : Tapped := { net := w, tape := fun _ => [] }

section Steps

variable {Ctx PKey : Type}

/-- A message of the connection `id` goes on its tape. -/
def Tapped.record (t : Tapped) (id : Nat) (m : Recorded) : Tapped :=
  { t with tape := Function.update t.tape id (t.tape id ++ [m]) }

/-- `cdtp_client_send`. -/
def Tapped.clientSend (M : Machine) (O : OpenSSL Ctx PKey) (t : Tapped) (id : Nat) (rand : Nat → UInt8)
    (payload : Bytes) : Tapped :=
  match t.net.down id with
  | none => t
  | some p =>
    if p.handle.client.connected then
      let a : ClientSending := { client := p.handle.client, rand := rand, payload := payload }
      t.record id { rand := rand, payload := payload, message := a.message M O }
    else t

/-- `cdtp_server_send`. -/
def Tapped.serverSend (M : Machine) (O : OpenSSL Ctx PKey) (t : Tapped) (id : Nat) (rand : Nat → UInt8)
    (payload : Bytes) : Tapped :=
  if t.net.up.server.server.clients.contains id then
    let a : ServerSending :=
      { server := t.net.up.server.server, clientId := id, rand := rand, payload := payload }
    t.record id { rand := rand, payload := payload, message := a.message M O }
  else t

/-- `cdtp_server_send_all`. -/
def Tapped.sendAll (M : Machine) (O : OpenSSL Ctx PKey) (t : Tapped) (rand : Nat → Nat → UInt8)
    (payload : Bytes) : Tapped :=
  t.net.up.server.server.clients.iter.foldl (fun t c => t.serverSend M O c.1 (rand c.1) payload) t

/-- Only what is sent is held back. -/
def Tapped.own (M : Machine) (O : OpenSSL Ctx PKey) (t : Tapped) : NetworkInput PKey → Tapped
  | .clientSend id rand payload => t.clientSend M O id rand payload
  | .serverSend id rand payload => t.serverSend M O id rand payload
  | .sendAll rand payload => t.sendAll M O rand payload
  | i => { t with net := networkStep M O t.net i }

/-- The bytes of `m` reach the server as if the client `id` had sent them. -/
def Network.insertUp (w : Network) (id : Nat) (m : Recorded) : Network :=
  match w.down id with
  | none => w
  | some p =>
    if p.handle.client.connected then
      let a : ClientSending := { client := p.handle.client, rand := m.rand, payload := m.payload }
      { w with up := { w.up with
          pending := Function.update w.up.pending id (w.up.pending id ++ m.message),
          sent := Function.update w.up.sent id (w.up.sent id ++ [a]) } }
    else w

/-- They reach the client as if the server had. -/
def Network.insertDown (w : Network) (id : Nat) (m : Recorded) : Network :=
  match w.down id with
  | none => w
  | some p =>
    if w.up.server.server.clients.contains id then
      let a : ServerSending :=
        { server := w.up.server.server, clientId := id, rand := m.rand, payload := m.payload }
      w.setDown id { p with pending := p.pending ++ m.message, sent := p.sent ++ [a] }
    else w

/-- What is to be played is counted from the start of the tape. -/
def tappedStep (M : Machine) (O : OpenSSL Ctx PKey) (t : Tapped) : TappedInput PKey → Tapped
  | .own i => t.own M O i
  | .playUp id k =>
    match (t.tape id)[k]? with
    | none => t
    | some m => { t with net := t.net.insertUp id m }
  | .playDown id k =>
    match (t.tape id)[k]? with
    | none => t
    | some m => { t with net := t.net.insertDown id m }

/-- The ends and the transport behave as on their own wire, and nothing is played into a connection that
    one end has closed. -/
def Tapped.Orderly (M : Machine) (O : OpenSSL Ctx PKey) (t : Tapped) : TappedInput PKey → Prop
  | .own i => Network.Orderly M O t.net i
  | .playUp id _ => t.net.Open id
  | .playDown id _ => t.net.Open id

/-- Nobody sends anything: messages are played, and the loops turn. -/
def Tapped.Played (M : Machine) (O : OpenSSL Ctx PKey) (t : Tapped) : TappedInput PKey → Prop
  | .own i => Turning M O t.net i
  | .playUp id _ => t.net.Open id
  | .playDown id _ => t.net.Open id

end Steps

/-! ## What the steps of the network leave -/

section Kept

variable {Ctx PKey : Type} {M : Machine} {O : OpenSSL Ctx PKey} {w : Network}

/-- Nothing was sent, and nobody has got another key. -/
structure Network.Kept (w w' : Network) : Prop where
  sent : w'.up.sent = w.up.sent
  down : ∀ id p', w'.down id = some p' → (w.down id = none ∧ p'.sent = []) ∨
    ∃ p, w.down id = some p ∧ p'.handle.client.sock = p.handle.client.sock ∧ p'.sent = p.sent
  nobody : ∀ id, w'.down id = none → w.down id = none

/-- A client that disconnects keeps its key. -/
theorem disconnect_sock (s : HandleState) (closeOk threadOk : Bool) :
    (s.disconnect closeOk threadOk).client.sock = s.client.sock := by
  unfold HandleState.disconnect
  split
  · rfl
  · cases closeOk with
    | false => rfl
    | true => cases threadOk <;> rfl

/-- The handle loop never touches the socket of its client, nor the key. -/
theorem handleStep_sock (s : HandleState) (i : HandleInput Ctx PKey) :
    (handleStep M s i).client.sock = s.client.sock := by
  cases i with
  | disconnect closeOk threadOk =>
    rw [handleStep_disconnect]
    exact disconnect_sock s closeOk threadOk
  | turn header body O closeOk threadOk =>
    cases hs : s.status with
    | returned => rw [handleStep_stopped (by simp [hs])]
    | crashed => rw [handleStep_stopped (by simp [hs])]
    | running =>
      simp only [handleStep, hs]
      split
      · rfl
      · rw [HandleState.turn]
        cases receive M s.sizeBuffer header body with
        | headerEnd => exact disconnect_sock _ closeOk threadOk
        | bodyEnd => exact disconnect_sock _ closeOk threadOk
        | headerError e =>
          show (if e.againOrWouldBlock then s.buffered header else _).client.sock = _
          split <;> rfl
        | bodyError e => rfl
        | short => rfl
        | frame buffer msgSize =>
          rw [HandleState.react]
          split <;> rfl

/-- What the server alone does changes no client. -/
theorem Network.Kept.server {s : ServeState} : w.Kept (w.setServer s) :=
  ⟨rfl, fun _ p' hp' => .inr ⟨p', hp', rfl, rfl⟩, fun _ h => h⟩

/-- A client that goes on keeps its key, and what was sent to it. -/
theorem Network.Kept.setDown {id : Nat} {p p' : HandleWired ServerSending} (hp : w.down id = some p)
    (hsock : p'.handle.client.sock = p.handle.client.sock) (hsent : p'.sent = p.sent) :
    w.Kept (w.setDown id p') := by
  refine ⟨rfl, ?_, ?_⟩
  · intro id' q hq
    by_cases hid : id' = id
    · subst hid
      have hq : Function.update w.down id' (some p') id' = some q := hq
      rw [Function.update_self, Option.some.injEq] at hq
      rw [← hq]
      exact .inr ⟨p, hp, hsock, hsent⟩
    · have hq : Function.update w.down id (some p') id' = some q := hq
      rw [Function.update_of_ne hid] at hq
      exact .inr ⟨q, hq, rfl, rfl⟩
  · intro id' hno
    by_cases hid : id' = id
    · subst hid
      have hno : Function.update w.down id' (some p') id' = none := hno
      rw [Function.update_self] at hno
      exact absurd hno (by simp)
    · have hno : Function.update w.down id (some p') id' = none := hno
      rw [Function.update_of_ne hid] at hno
      exact hno

/-- A new client is not in the place of another. -/
theorem connect_kept (h : NetInv M O w) {c : Connection PKey} {io : ClientExchange} {client : CDTPClient}
    {sizeBuffer : Bytes} : w.Kept (w.connect M O c io client sizeBuffer) := by
  have hnew : w.down w.up.server.server.nextClientId = none := (h.ids _).mpr (Nat.le_refl _)
  unfold Network.connect
  split
  · refine ⟨rfl, ?_, ?_⟩
    · intro id p' hp'
      by_cases hid : id = w.up.server.server.nextClientId
      · subst hid
        have hp' : Function.update w.down w.up.server.server.nextClientId _ _ = some p' := hp'
        rw [Function.update_self, Option.some.injEq] at hp'
        rw [← hp']
        exact .inl ⟨hnew, rfl⟩
      · have hp' : Function.update w.down _ _ id = some p' := hp'
        rw [Function.update_of_ne hid] at hp'
        exact .inr ⟨p', hp', rfl, rfl⟩
    · intro id hno
      by_cases hid : id = w.up.server.server.nextClientId
      · rw [hid]
        exact hnew
      · have hno : Function.update w.down _ _ id = none := hno
        rw [Function.update_of_ne hid] at hno
        exact hno
  · exact .server

/-- A turn of the serve loop takes bytes out of a stream. -/
theorem serverTurn_kept {g b : Grant} : w.Kept (w.serverTurn M O g b) := by
  unfold Network.serverTurn
  split
  · exact .server
  · split
    · exact .server
    · refine ⟨?_, fun _ p' hp' => .inr ⟨p', hp', rfl, rfl⟩, fun _ h => h⟩
      show (wiredStep M (ClientSending.message M O) w.up (.turn g b O)).sent = w.up.sent
      rw [wiredStep]
      split <;> rfl

/-- A turn of a client … -/
theorem clientTurn_kept {id : Nat} {g b : Grant} {threadOk : Bool} :
    w.Kept (w.clientTurn M O id g b threadOk) := by
  unfold Network.clientTurn
  cases hp : w.down id with
  | none => exact .server
  | some p =>
    simp only
    split
    · exact .setDown hp (handleStep_sock _ _) rfl
    · exact .setDown hp (handleStep_sock _ _) rfl

/-- … and its disconnect keep both. -/
theorem disconnect_kept {id : Nat} {threadOk : Bool} : w.Kept (w.disconnect M O id threadOk) := by
  unfold Network.disconnect
  cases hp : w.down id with
  | none => exact .server
  | some p => exact .setDown hp (handleStep_sock _ _) rfl

end Kept

/-! ## What is on the tape -/

section Tape

variable {Ctx PKey : Type} {M : Machine} {O : OpenSSL Ctx PKey} {Matching : PKey → PKey → Prop}
  {t t' : Tapped} {id : Nat} {p : HandleWired ServerSending}

/-- The bytes are the frame that the payload is sent as under the key `key`, whichever end sends it. -/
structure Recorded.Under (M : Machine) (O : OpenSSL Ctx PKey) (key : AESKey) (m : Recorded) : Prop where
  size : m.payload.length ≤ 2 ^ 31 - 64
  message_eq : m.message = constructMessage M (sealedBody M O key m.rand m.payload)
    (sealedBody M O key m.rand m.payload).length

/-- The invariant of the tapped network. -/
structure TappedInv (M : Machine) (O : OpenSSL Ctx PKey) (t : Tapped) : Prop where
  net : NetInv M O t.net
  under : ∀ id, ∀ m ∈ t.tape id, ∃ p, t.net.down id = some p ∧ m.Under M O p.handle.client.sock.key
  up : ∀ id, ∀ a ∈ t.net.up.sent id, ∃ m ∈ t.tape id, m.payload = a.payload
  down : ∀ id p, t.net.down id = some p → ∀ a ∈ p.sent, ∃ m ∈ t.tape id, m.payload = a.payload

/-- Nothing is on the tapes yet. -/
theorem Fresh.tappedInv {s : ServeState} (h : Fresh s) (honRecv : s.server.onRecv = true) :
    TappedInv M O (tapped (network s)) where
  net := h.netInv honRecv
  under _ _ hm := absurd hm (by simp [tapped])
  up _ _ ha := absurd ha (by simp [tapped, network, wired])
  down _ _ hp := absurd hp (by simp [tapped, network])

/-- Steps in which nothing is sent leave the tape, and what was let through is still on it. -/
theorem TappedInv.kept (h : TappedInv M O t) {w : Network} (hw : NetInv M O w) (hkept : t.net.Kept w) :
    TappedInv M O { t with net := w } where
  net := hw
  under id m hm := by
    obtain ⟨p, hp, hunder⟩ := h.under id m hm
    cases hp' : w.down id with
    | none => exact absurd (hp.symm.trans (hkept.nobody id hp')) (by simp)
    | some p' =>
      rcases hkept.down id p' hp' with ⟨hno, -⟩ | ⟨q, hq, hsock, -⟩
      · exact absurd (hp.symm.trans hno) (by simp)
      · obtain rfl : p = q := Option.some.inj (hp.symm.trans hq)
        rw [← hsock] at hunder
        exact ⟨p', rfl, hunder⟩
  up id a ha := by
    rw [hkept.sent] at ha
    exact h.up id a ha
  down id p' hp' a ha := by
    rcases hkept.down id p' hp' with ⟨-, hsent⟩ | ⟨p, hp, -, hsent⟩
    · rw [hsent] at ha
      exact absurd ha (by simp)
    · rw [hsent] at ha
      exact h.down id p hp a ha

/-- One more message on the tape, under the key of its connection. -/
theorem TappedInv.record (h : TappedInv M O t) (hp : t.net.down id = some p) {m : Recorded}
    (hm : m.Under M O p.handle.client.sock.key) : TappedInv M O (t.record id m) := by
  have hmem : ∀ id', ∀ m' ∈ t.tape id', m' ∈ (t.record id m).tape id' := by
    intro id' m' hm'
    show m' ∈ Function.update t.tape id (t.tape id ++ [m]) id'
    by_cases hid : id' = id
    · subst hid
      rw [Function.update_self]
      exact List.mem_append_left _ hm'
    · rw [Function.update_of_ne hid]
      exact hm'
  refine ⟨h.net, Fifo.forall_mem_update h.under ⟨p, hp, hm⟩, ?_, ?_⟩
  · intro id' a ha
    obtain ⟨m', hm', hpayload⟩ := h.up id' a ha
    exact ⟨m', hmem id' m' hm', hpayload⟩
  · intro id' p' hp' a ha
    obtain ⟨m', hm', hpayload⟩ := h.down id' p' hp' a ha
    exact ⟨m', hmem id' m' hm', hpayload⟩

/-- **A client's message** is recorded as it is sent. -/
theorem TappedInv.clientSend (h : TappedInv M O t) (hO : O.AESLaws) (hM : M.checked = false)
    {rand : Nat → UInt8} {payload : Bytes} (hsize : payload.length ≤ 2 ^ 31 - 64) :
    TappedInv M O (t.clientSend M O id rand payload) := by
  unfold Tapped.clientSend
  cases hp : t.net.down id with
  | none => exact h
  | some p =>
    simp only
    split
    · rename_i hconnected
      have ha : (ClientSending.mk p.handle.client rand payload).Allowed :=
        ⟨hconnected, ((h.net.views id).linked p hp).full, hsize⟩
      exact h.record hp ⟨hsize, (ha.sentAs hO hM).message_eq⟩
    · exact h

/-- What the server sends to a client that it has stored is sealed under the client's key. -/
theorem TappedInv.allowed (h : TappedInv M O t) {sock : CDTPSocket}
    (hget : t.net.up.server.server.clients.get id = some sock) (hp : t.net.down id = some p)
    (rand : Nat → UInt8) {payload : Bytes} (hsize : payload.length ≤ 2 ^ 31 - 64) :
    (ServerSending.mk t.net.up.server.server id rand payload).Allowed p.handle.client.sock.key := by
  have hlinked := (h.net.views id).linked p hp
  exact ⟨h.net.loop.serving, ⟨sock, hget, hlinked.stored_key sock hget⟩, hlinked.full, hsize⟩

/-- So the message on the wire is the frame of that body. -/
theorem ServerSending.Allowed.message_eq {a : ServerSending} {key : AESKey} (h : a.Allowed key)
    (hO : O.AESLaws) (hM : M.checked = false) :
    a.message M O = constructMessage M (sealedBody M O key a.rand a.payload)
      (sealedBody M O key a.rand a.payload).length := by
  rw [(h.sentAs hO hM).message_eq, h.body_eq]

/-- **A message of the server** is recorded as it is sent. -/
theorem TappedInv.serverSend (h : TappedInv M O t) (hO : O.AESLaws) (hM : M.checked = false)
    {rand : Nat → UInt8} {payload : Bytes} (hsize : payload.length ≤ 2 ^ 31 - 64) :
    TappedInv M O (t.serverSend M O id rand payload) := by
  unfold Tapped.serverSend
  split
  · rename_i hcontains
    rw [Clients.contains_eq] at hcontains
    obtain ⟨sock, hget⟩ := Option.isSome_iff_exists.mp hcontains
    obtain ⟨p, hp, -⟩ := h.net.stored hget
    exact h.record hp ⟨hsize, (h.allowed hget hp rand hsize).message_eq hO hM⟩
  · exact h

/-- So is each copy of a broadcast. -/
theorem TappedInv.sendAll (h : TappedInv M O t) (hO : O.AESLaws) (hM : M.checked = false)
    {rand : Nat → Nat → UInt8} {payload : Bytes} (hsize : payload.length ≤ 2 ^ 31 - 64) :
    TappedInv M O (t.sendAll M O rand payload) := by
  unfold Tapped.sendAll
  generalize t.net.up.server.server.clients.iter = cs
  induction cs generalizing t with
  | nil => exact h
  | cons c cs ih => exact ih (h.serverSend hO hM hsize)

/-! ## What is played -/

/-- **A message that is played** to the server is one that the client could have sent, -/
theorem TappedInv.insertUp_eq (h : TappedInv M O t) (hO : O.AESLaws) (hM : M.checked = false)
    {m : Recorded} (hm : m ∈ t.tape id) :
    t.net.insertUp id m = t.net.clientSend M O id m.rand m.payload := by
  unfold Network.insertUp Network.clientSend
  cases hp : t.net.down id with
  | none => rfl
  | some p =>
    obtain ⟨q, hq, hunder⟩ := h.under id m hm
    obtain rfl : p = q := Option.some.inj (hp.symm.trans hq)
    simp only
    split
    · rename_i hconnected
      have ha : (ClientSending.mk p.handle.client m.rand m.payload).Allowed :=
        ⟨hconnected, ((h.net.views id).linked p hp).full, hunder.size⟩
      have hmessage : m.message = (ClientSending.mk p.handle.client m.rand m.payload).message M O :=
        hunder.message_eq.trans (ha.sentAs hO hM).message_eq.symm
      rw [hmessage]
      rfl
    · rfl

/-- and a client cannot tell it from one of the server's, even if it has sent it itself. -/
theorem TappedInv.insertDown_eq (h : TappedInv M O t) (hO : O.AESLaws) (hM : M.checked = false)
    {m : Recorded} (hm : m ∈ t.tape id) :
    t.net.insertDown id m = t.net.serverSend M O id m.rand m.payload := by
  unfold Network.insertDown Network.serverSend
  cases hp : t.net.down id with
  | none => rfl
  | some p =>
    obtain ⟨q, hq, hunder⟩ := h.under id m hm
    obtain rfl : p = q := Option.some.inj (hp.symm.trans hq)
    simp only
    split
    · rename_i hcontains
      rw [Clients.contains_eq] at hcontains
      obtain ⟨sock, hget⟩ := Option.isSome_iff_exists.mp hcontains
      have hmessage : m.message
          = (ServerSending.mk t.net.up.server.server id m.rand m.payload).message M O :=
        hunder.message_eq.trans ((h.allowed hget hp m.rand hunder.size).message_eq hO hM).symm
      rw [hmessage]
      rfl
    · rfl

/-- **A play to the server** puts back on the wire what could have been sent there. -/
theorem TappedInv.playUp (h : TappedInv M O t) (hO : O.AESLaws) (hM : M.checked = false)
    {m : Recorded} (hm : m ∈ t.tape id) (hopen : t.net.Open id) :
    TappedInv M O { t with net := t.net.insertUp id m } := by
  obtain ⟨p, hp, hunder⟩ := h.under id m hm
  have hnet : NetInv M O (t.net.insertUp id m) := by
    rw [h.insertUp_eq hO hM hm]
    exact h.net.clientSend hO hM hunder.size hopen
  unfold Network.insertUp at hnet ⊢
  rw [hp] at hnet ⊢
  simp only at hnet ⊢
  split
  · rename_i hconnected
    rw [if_pos hconnected] at hnet
    exact ⟨hnet, h.under, Fifo.forall_mem_update h.up ⟨m, hm, rfl⟩, h.down⟩
  · exact h

/-- **A play to the client**: the key is the same in both directions. -/
theorem TappedInv.playDown (h : TappedInv M O t) (hO : O.AESLaws) (hM : M.checked = false)
    {m : Recorded} (hm : m ∈ t.tape id) (hopen : t.net.Open id) :
    TappedInv M O { t with net := t.net.insertDown id m } := by
  obtain ⟨p, hp, hunder⟩ := h.under id m hm
  have hnet : NetInv M O (t.net.insertDown id m) := by
    rw [h.insertDown_eq hO hM hm]
    exact h.net.serverSend hO hM hunder.size hopen
  unfold Network.insertDown at hnet ⊢
  rw [hp] at hnet ⊢
  simp only at hnet ⊢
  split
  · rename_i hcontains
    rw [if_pos hcontains] at hnet
    refine ⟨hnet, ?_, h.up, ?_⟩
    · intro id' m' hm'
      obtain ⟨p', hp', hunder'⟩ := h.under id' m' hm'
      by_cases hid : id' = id
      · subst hid
        obtain rfl : p = p' := Option.some.inj (hp.symm.trans hp')
        exact ⟨_, Function.update_self _ _ _, hunder'⟩
      · exact ⟨p', (Function.update_of_ne hid _ _).trans hp', hunder'⟩
    · intro id' p' hp' a ha
      by_cases hid : id' = id
      · subst hid
        have hp' : Function.update t.net.down id' _ id' = some p' := hp'
        rw [Function.update_self, Option.some.injEq] at hp'
        subst hp'
        rcases List.mem_append.mp ha with hold | hnew
        · exact h.down id' p hp a hold
        · rw [List.mem_singleton.mp hnew]
          exact ⟨m, hm, rfl⟩
      · have hp' : Function.update t.net.down id _ id' = some p' := hp'
        rw [Function.update_of_ne hid] at hp'
        exact h.down id' p' hp' a ha
  · exact h

/-- Every orderly step keeps the invariant. -/
theorem tappedStep_inv (hO : O.AESLaws) (hS : O.SealLaws Matching) (hM : M.checked = false)
    {i : TappedInput PKey} (h : TappedInv M O t) (hi : Tapped.Orderly M O t i) :
    TappedInv M O (tappedStep M O t i) := by
  cases i with
  | playUp id k =>
    rw [tappedStep]
    split
    · exact h
    · rename_i m hm
      exact h.playUp hO hM (List.mem_of_getElem? hm) hi
  | playDown id k =>
    rw [tappedStep]
    split
    · exact h
    · rename_i m hm
      exact h.playDown hO hM (List.mem_of_getElem? hm) hi
  | own i =>
    have hnet := fun (hi : Network.Orderly M O t.net i) => networkStep_inv hO hS hM h.net hi
    cases i with
    | clientSend id rand payload => exact h.clientSend hO hM hi.1
    | serverSend id rand payload => exact h.serverSend hO hM hi.1
    | sendAll rand payload => exact h.sendAll hO hM hi.1
    | idle e => exact h.kept (hnet hi) .server
    | connect c io client sizeBuffer =>
      refine h.kept (hnet hi) ?_
      rw [networkStep]
      split
      · exact connect_kept h.net
      · exact .server
    | serverTurn g b => exact h.kept (hnet hi) serverTurn_kept
    | clientTurn id g b threadOk => exact h.kept (hnet hi) clientTurn_kept
    | remove id => exact h.kept (hnet hi) .server
    | disconnect id threadOk => exact h.kept (hnet hi) disconnect_kept

/-! ## The serve loop does not notice -/

theorem Tapped.serverSend_net {rand : Nat → UInt8} {payload : Bytes} :
    (t.serverSend M O id rand payload).net = t.net := by
  unfold Tapped.serverSend
  split
  · rfl
  · rfl

theorem Tapped.sendAll_net {rand : Nat → Nat → UInt8} {payload : Bytes} :
    (t.sendAll M O rand payload).net = t.net := by
  unfold Tapped.sendAll
  generalize t.net.up.server.server.clients.iter = cs
  induction cs generalizing t with
  | nil => rfl
  | cons c cs ih => exact ih.trans Tapped.serverSend_net

theorem Tapped.clientSend_net {rand : Nat → UInt8} {payload : Bytes} :
    (t.clientSend M O id rand payload).net = t.net := by
  unfold Tapped.clientSend
  split
  · rfl
  · split
    · rfl
    · rfl

theorem insertUp_server {w : Network} {m : Recorded} : (w.insertUp id m).up.server = w.up.server := by
  unfold Network.insertUp
  split
  · rfl
  · split
    · rfl
    · rfl

theorem insertDown_server {w : Network} {m : Recorded} :
    (w.insertDown id m).up.server = w.up.server := by
  unfold Network.insertDown
  split
  · rfl
  · split
    · rfl
    · rfl

/-- Whoever plays messages gives out no ids. -/
theorem tappedStep_numbered {i : TappedInput PKey} (h : Numbered t.net.up.server)
    (hi : Tapped.Orderly M O t i) : Numbered (tappedStep M O t i).net.up.server := by
  cases i with
  | playUp id k =>
    rw [tappedStep]
    split
    · exact h
    · rw [insertUp_server]
      exact h
  | playDown id k =>
    rw [tappedStep]
    split
    · exact h
    · rw [insertDown_server]
      exact h
  | own i =>
    have hnet := networkStep_numbered h hi
    rw [tappedStep]
    cases i with
    | clientSend id rand payload =>
      rw [Tapped.own, Tapped.clientSend_net]
      exact h
    | serverSend id rand payload =>
      rw [Tapped.own, Tapped.serverSend_net]
      exact h
    | sendAll rand payload =>
      rw [Tapped.own, Tapped.sendAll_net]
      exact h
    | _ => exact hnet

end Tape

/-! ## What the holder of the tape can do -/

section Playing

variable {Ctx PKey : Type} {M : Machine} {O : OpenSSL Ctx PKey} {Matching : PKey → PKey → Prop}
  {t t' t'' : Tapped} {id : Nat} {ups downs : List Bytes}

/-- The payloads `ups` were let through to the server and `downs` to the client `id`, whose connection
    both ends hold open. -/
structure Tapped.Passed (id : Nat) (ups downs : List Bytes) (t t' : Tapped) : Prop where
  tape : t'.tape = t.tape
  joined : (t'.net.view id).Joined
  up : (t'.net.up.sent id).map ClientSending.payload = (t.net.up.sent id).map ClientSending.payload ++ ups
  down : ∀ p, t.net.down id = some p → ∃ p', t'.net.down id = some p' ∧
    p'.sent.map ServerSending.payload = p.sent.map ServerSending.payload ++ downs

/-- No play, nothing passed. -/
theorem Tapped.Passed.refl (h : (t.net.view id).Joined) : Tapped.Passed id [] [] t t :=
  ⟨rfl, h, (List.append_nil _).symm, fun p hp => ⟨p, hp, (List.append_nil _).symm⟩⟩

/-- Plays in a row. -/
theorem Tapped.Passed.trans {ups' downs' : List Bytes} (h : Tapped.Passed id ups downs t t')
    (h' : Tapped.Passed id ups' downs' t' t'') :
    Tapped.Passed id (ups ++ ups') (downs ++ downs') t t'' where
  tape := h'.tape.trans h.tape
  joined := h'.joined
  up := by rw [h'.up, h.up, List.append_assoc]
  down p hp := by
    obtain ⟨p', hp', hsent⟩ := h.down p hp
    obtain ⟨p'', hp'', hsent'⟩ := h'.down p' hp'
    exact ⟨p'', hp'', by rw [hsent', hsent, List.append_assoc]⟩

/-- Joined ends have neither closed. -/
theorem View.Joined.open {w : Network} (h : (w.view id).Joined) : w.Open id := by
  intro p hp
  obtain ⟨hconnected, hstored⟩ := h.connected hp
  rw [Clients.contains_eq]
  exact ⟨fun _ => hstored, fun _ => hconnected⟩

/-- One play to the server. -/
theorem insertUp_passed (h : (t.net.view id).Joined) (m : Recorded) :
    Tapped.Passed id [m.payload] [] t { t with net := t.net.insertUp id m } := by
  obtain ⟨p, hp, hconnected, hstored⟩ := h
  have hp : t.net.down id = some p := hp
  have hw : t.net.insertUp id m = { t.net with up := { t.net.up with
      pending := Function.update t.net.up.pending id (t.net.up.pending id ++ m.message),
      sent := Function.update t.net.up.sent id (t.net.up.sent id ++
        [{ client := p.handle.client, rand := m.rand, payload := m.payload }]) } } := by
    rw [Network.insertUp, hp]
    exact if_pos hconnected
  rw [hw]
  refine ⟨rfl, ⟨p, hp, hconnected, hstored⟩, ?_, fun q hq => ⟨q, hq, (List.append_nil _).symm⟩⟩
  show (Function.update t.net.up.sent id _ id).map ClientSending.payload = _
  rw [Function.update_self, List.map_append]
  rfl

/-- One play to the client. -/
theorem insertDown_passed (h : (t.net.view id).Joined) (m : Recorded) :
    Tapped.Passed id [] [m.payload] t { t with net := t.net.insertDown id m } := by
  obtain ⟨p, hp, hconnected, hstored⟩ := h
  have hp : t.net.down id = some p := hp
  have hcontains : t.net.up.server.server.clients.contains id = true := by
    rw [Clients.contains_eq]
    exact hstored
  have hw : t.net.insertDown id m = t.net.setDown id { p with
      pending := p.pending ++ m.message,
      sent := p.sent ++ [{ server := t.net.up.server.server, clientId := id, rand := m.rand,
                           payload := m.payload }] } := by
    rw [Network.insertDown, hp]
    exact if_pos hcontains
  rw [hw]
  refine ⟨rfl, ⟨_, Function.update_self _ _ _, hconnected, hstored⟩, (List.append_nil _).symm, ?_⟩
  intro q hq
  obtain rfl : p = q := Option.some.inj (hp.symm.trans hq)
  refine ⟨_, Function.update_self _ _ _, ?_⟩
  rw [List.map_append]
  rfl

/-- Any messages on the tape, in any order, by inputs that let through what `up` and `down` say. -/
theorem exists_plays {up down : Recorded → List Bytes}
    (hplay : ∀ (t : Tapped) m, (t.net.view id).Joined → m ∈ t.tape id → ∃ i : TappedInput PKey,
      Tapped.Played M O t i ∧ Tapped.Passed id (up m) (down m) t (tappedStep M O t i)) :
    ∀ (ms : List Recorded) (t : Tapped), (t.net.view id).Joined → (∀ m ∈ ms, m ∈ t.tape id) →
      ∃ is, Along (tappedStep M O) (Tapped.Played M O) t is ∧
        Tapped.Passed id (ms.flatMap up) (ms.flatMap down) t (run (tappedStep M O) t is) := by
  intro ms
  induction ms with
  | nil => intro t hjoined _; exact ⟨[], trivial, .refl hjoined⟩
  | cons m ms ih =>
    intro t hjoined hms
    obtain ⟨i, hi, hpassed⟩ := hplay t m hjoined (hms m List.mem_cons_self)
    obtain ⟨is, his, hrest⟩ := ih _ hpassed.joined fun m' hm' => by
      rw [hpassed.tape]
      exact hms m' (List.mem_cons_of_mem m hm')
    exact ⟨i :: is, ⟨hi, his⟩, hpassed.trans hrest⟩

/-- Any list of recorded messages can be played to the server … -/
theorem exists_plays_up (hjoined : (t.net.view id).Joined) {ms : List Recorded}
    (hms : ∀ m ∈ ms, m ∈ t.tape id) : ∃ is, Along (tappedStep M O) (Tapped.Played M O) t is ∧
      Tapped.Passed id (ms.map Recorded.payload) [] t (run (tappedStep M O) t is) := by
  have hplay : ∀ (t : Tapped) m, (t.net.view id).Joined → m ∈ t.tape id → ∃ i : TappedInput PKey,
      Tapped.Played M O t i ∧ Tapped.Passed id [m.payload] [] t (tappedStep M O t i) := by
    intro t m hjoined hm
    obtain ⟨k, hk⟩ := List.getElem?_of_mem hm
    refine ⟨.playUp id k, hjoined.open, ?_⟩
    rw [tappedStep, hk]
    exact insertUp_passed hjoined m
  obtain ⟨is, his, hpassed⟩ := exists_plays hplay ms t hjoined hms
  refine ⟨is, his, ?_⟩
  rw [List.flatMap_eq_nil_iff.mpr fun _ _ => rfl] at hpassed
  rw [List.map_eq_flatMap]
  exact hpassed

/-- … and to the client. -/
theorem exists_plays_down (hjoined : (t.net.view id).Joined) {ms : List Recorded}
    (hms : ∀ m ∈ ms, m ∈ t.tape id) : ∃ is, Along (tappedStep M O) (Tapped.Played M O) t is ∧
      Tapped.Passed id [] (ms.map Recorded.payload) t (run (tappedStep M O) t is) := by
  have hplay : ∀ (t : Tapped) m, (t.net.view id).Joined → m ∈ t.tape id → ∃ i : TappedInput PKey,
      Tapped.Played M O t i ∧ Tapped.Passed id [] [m.payload] t (tappedStep M O t i) := by
    intro t m hjoined hm
    obtain ⟨k, hk⟩ := List.getElem?_of_mem hm
    refine ⟨.playDown id k, hjoined.open, ?_⟩
    rw [tappedStep, hk]
    exact insertDown_passed hjoined m
  obtain ⟨is, his, hpassed⟩ := exists_plays hplay ms t hjoined hms
  refine ⟨is, his, ?_⟩
  rw [List.flatMap_eq_nil_iff.mpr fun _ _ => rfl] at hpassed
  rw [List.map_eq_flatMap]
  exact hpassed

/-- The turns of the loops are those of the network. -/
theorem run_turns : ∀ (is : List (NetworkInput PKey)) (t : Tapped),
    Along (networkStep M O) (Turning M O) t.net is →
    Along (tappedStep M O) (Tapped.Played M O) t (is.map .own) ∧
      run (tappedStep M O) t (is.map .own) = { t with net := run (networkStep M O) t.net is } := by
  intro is
  induction is with
  | nil => intro t _; exact ⟨trivial, rfl⟩
  | cons i is ih =>
    intro t halong
    have hstep : tappedStep M O t (.own i) = { t with net := networkStep M O t.net i } := by
      have hturn := halong.1.1
      cases i <;> first | rfl | exact absurd hturn Bool.noConfusion
    have hrest := ih { t with net := networkStep M O t.net i } halong.2
    rw [List.map_cons, run_cons, hstep]
    refine ⟨⟨halong.1, ?_⟩, hrest.2⟩
    rw [hstep]
    exact hrest.1

/-- Plays are steps like others. -/
theorem Tapped.Played.orderly {i : TappedInput PKey} (h : t.Played M O i) : t.Orderly M O i := by
  cases i with
  | own i => exact h.2
  | playUp id k => exact h
  | playDown id k => exact h

/-- After some turns everything that was let through has been dispatched. -/
theorem TappedInv.exists_dispatched (h : TappedInv M O t) (hO : O.AESLaws) (hS : O.SealLaws Matching)
    (hM : M.checked = false) (hjoined : (t.net.view id).Joined) :
    ∃ is, Along (tappedStep M O) (Tapped.Played M O) t is ∧
      Tapped.Passed id [] [] t (run (tappedStep M O) t is) ∧ (run (tappedStep M O) t is).net.Settled := by
  have hsettles := h.net.settles hO hS hM
  obtain ⟨is, halong, hsettled⟩ := hsettles.settles
  obtain ⟨hplayed, hrun⟩ := run_turns is t halong
  refine ⟨is.map .own, hplayed, ?_⟩
  rw [hrun]
  obtain ⟨hsendings, hopen⟩ := hsettles.kept is halong id
  obtain ⟨hsent, hdown⟩ := Prod.ext_iff.mp hsendings
  have hsent : (run (networkStep M O) t.net is).up.sent id = t.net.up.sent id := hsent
  refine ⟨⟨rfl, hopen hjoined, ?_, ?_⟩, hsettled⟩
  · show ((run (networkStep M O) t.net is).up.sent id).map ClientSending.payload = _
    rw [hsent, List.append_nil]
  · intro p hp
    have hdown : ((run (networkStep M O) t.net is).down id).map HandleWired.sent
        = (t.net.down id).map HandleWired.sent := hdown
    rw [hp, Option.map_some, Option.map_eq_some_iff] at hdown
    obtain ⟨p', hp', hsent'⟩ := hdown
    exact ⟨p', hp', by rw [hsent', List.append_nil]⟩

/-- What is certain about the network with the tape, and what is not. -/
structure Unauthenticated (M : Machine) (O : OpenSSL Ctx PKey) (t : Tapped) : Prop where
  /-- what is played goes through the loops like what was sent -/
  safe : NetworkSafe t.net
  /-- nothing is dispatched but what was sent on the connection, by either end -/
  to_server : ∀ id, ∀ d ∈ dispatched t.net.up.server.log id, ∃ m ∈ t.tape id, d = plainData m.payload
  to_client : ∀ id p, t.net.down id = some p →
    ∀ d ∈ clientDispatched p.handle.log, ∃ m ∈ t.tape id, d = plainData m.payload
  /-- and any of it can be made the next that the two ends of an open connection dispatch, in any order,
      any number of times, while neither of them sends anything -/
  replay : ∀ id p, t.net.down id = some p → (t.net.view id).Joined →
    ∀ ups downs : List Recorded, (∀ m ∈ ups, m ∈ t.tape id) → (∀ m ∈ downs, m ∈ t.tape id) →
    ∃ is, Along (tappedStep M O) (Tapped.Played M O) t is ∧
      ∃ p', (run (tappedStep M O) t is).net.down id = some p' ∧
      dispatched (run (tappedStep M O) t is).net.up.server.log id
        = ((t.net.up.sent id).map ClientSending.payload ++ ups.map Recorded.payload).map plainData ∧
      clientDispatched p'.handle.log
        = (p.sent.map ServerSending.payload ++ downs.map Recorded.payload).map plainData

/-- **A replay**: any two lists of recorded messages can be played, and the loops can be let run until both
    are dispatched behind what was sent. -/
theorem TappedInv.replay (h : TappedInv M O t) (hO : O.AESLaws) (hS : O.SealLaws Matching)
    (hM : M.checked = false) {p : HandleWired ServerSending} (hp : t.net.down id = some p)
    (hjoined : (t.net.view id).Joined) {ms ns : List Recorded} (hms : ∀ m ∈ ms, m ∈ t.tape id)
    (hns : ∀ m ∈ ns, m ∈ t.tape id) :
    ∃ is, Along (tappedStep M O) (Tapped.Played M O) t is ∧
      ∃ p', (run (tappedStep M O) t is).net.down id = some p' ∧
      dispatched (run (tappedStep M O) t is).net.up.server.log id
        = ((t.net.up.sent id).map ClientSending.payload ++ ms.map Recorded.payload).map plainData ∧
      clientDispatched p'.handle.log
        = (p.sent.map ServerSending.payload ++ ns.map Recorded.payload).map plainData := by
  -- first everything is played, then the loops turn until they have dispatched it
  obtain ⟨is, his, hup⟩ := @exists_plays_up Ctx PKey M O t id hjoined ms hms
  obtain ⟨js, hjs, hdown⟩ := @exists_plays_down Ctx PKey M O _ id hup.joined ns (by rwa [hup.tape])
  have hplayed := along_append his hjs
  rw [← run_append] at hdown
  have hinv : TappedInv M O (run (tappedStep M O) t (is ++ js)) :=
    run_invariant_of_along (fun t i h hi => tappedStep_inv hO hS hM h hi.orderly) (is ++ js) t h hplayed
  obtain ⟨ks, hks, hturns, hsettled⟩ := hinv.exists_dispatched hO hS hM hdown.joined
  rw [← run_append] at hturns hsettled
  have hall := (hup.trans hdown).trans hturns
  simp only [List.append_nil, List.nil_append] at hall
  obtain ⟨p', hp', hsent⟩ := hall.down p hp
  obtain ⟨hserver, hclient⟩ := hsettled.dispatched id p' hp'
  refine ⟨is ++ js ++ ks, along_append hplayed hks, p', hp', ?_, ?_⟩
  · rw [hserver, ← hall.up, List.map_map]
    rfl
  · rw [hclient, ← hsent, List.map_map]
    rfl

/-- What was dispatched was sent. -/
theorem mem_tape_of_inOrder {α : Type} {tape : List Recorded} {sent : List α} {payload : α → Bytes}
    {dispatched : List CryptoData} {pending : Bytes}
    (horder : InOrder dispatched (sent.map payload) pending)
    (htape : ∀ a ∈ sent, ∃ m ∈ tape, m.payload = payload a) :
    ∀ d ∈ dispatched, ∃ m ∈ tape, d = plainData m.payload := by
  intro d hd
  have hmem := horder.1.subset hd
  rw [List.map_map, List.mem_map] at hmem
  obtain ⟨a, ha, rfl⟩ := hmem
  obtain ⟨m, hm, hpayload⟩ := htape a ha
  exact ⟨m, hm, by rw [hpayload]; rfl⟩

/-- **The wire is not authenticated.**  In every orderly run in which somebody else holds the wire, the
    loops run on and dispatch only what was sent on their connection; and whatever was sent on it, by
    either end, can be dispatched next by the server and by the client, in any order and again. -/
theorem wire_unauthenticated (hO : O.AESLaws) (hS : O.SealLaws Matching) (hM : M.checked = false)
    {s₀ : ServeState} (hs : Fresh s₀) (honRecv : s₀.server.onRecv = true)
    (is : List (TappedInput PKey))
    (horderly : Along (tappedStep M O) (Tapped.Orderly M O) (tapped (network s₀)) is) :
    Unauthenticated M O (run (tappedStep M O) (tapped (network s₀)) is) := by
  have hstep : ∀ (t : Tapped) (i : TappedInput PKey), TappedInv M O t ∧ Numbered t.net.up.server →
      Tapped.Orderly M O t i →
      TappedInv M O (tappedStep M O t i) ∧ Numbered (tappedStep M O t i).net.up.server :=
    fun t i h hi => ⟨tappedStep_inv hO hS hM h.1 hi, tappedStep_numbered h.2 hi⟩
  obtain ⟨h, hnumbered⟩ := run_invariant_of_along hstep is (tapped (network s₀))
    ⟨hs.tappedInv honRecv, hs.numbered⟩ horderly
  have hsafe := h.net.safe hnumbered
  refine ⟨hsafe, ?_, ?_, ?_⟩
  · intro id
    cases hp : (run (tappedStep M O) (tapped (network s₀)) is).net.down id with
    | none =>
      rw [(hsafe.nobody id hp).2]
      exact fun d hd => absurd hd (by simp)
    | some p => exact mem_tape_of_inOrder (hsafe.connections id p hp).to_server (h.up id)
  · intro id p hp
    exact mem_tape_of_inOrder (hsafe.connections id p hp).to_client (h.down id p hp)
  · intro id p hp hjoined ups downs hups hdowns
    exact h.replay hO hS hM hp hjoined hups hdowns

end Playing

/-- A client connects and sends one message, which is played twice to the server and once to the client
    itself. -/
def demoTapped : List (TappedInput Unit) :=
  [.own (.connect demoConnection demoClientExchange demoClient [0, 0, 0, 0, 0]),
   .own (.clientSend 0 (fun _ => 9) [1, 2, 3]),
   .playUp 0 0,
   .playUp 0 0,
   .playDown 0 0]

/-- The run is safe as far as it goes, and every list of its two messages can be played again. -/
theorem wire_unauthenticated_demo : Unauthenticated plainMachine plainOpenSSL
    (run (tappedStep plainMachine plainOpenSSL) (tapped (network demoStart)) demoTapped) := by
  apply wire_unauthenticated plainOpenSSL_aesLaws plainOpenSSL_sealLaws rfl
    (startServe_fresh true true true rfl) rfl
  refine ⟨fun _ => demo_connects (by decide) 4, ⟨by decide, ?_⟩, ?_, ?_, ?_, trivial⟩
  · show Network.Open _ 0
    decide +kernel
  all_goals
    simp only [Tapped.Orderly]
    decide +kernel

/-- One turn later the client has got its own message back. -/
example : ((run (tappedStep plainMachine plainOpenSSL) (tapped (network demoStart))
    (demoTapped ++ [.own (.clientTurn 0 (some 5) (some 48) true)])).net.down 0).map
      (fun p => clientDispatched p.handle.log) = some [plainData [1, 2, 3]] := by decide +kernel

end Cdtp
