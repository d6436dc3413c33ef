/-
  The blocks of a server (`server.c`): which part of the serve loop allocates them, which frees them, and
  which forgets them.

  `HeapServe` is the serve loop of `Server` with the blocks behind its pointers: the client map of
  `ClientMapNodes` with its table, three for each client in it, those of the snapshot that an iteration
  works on, that of the serve thread, and those that the event threads and their callbacks have.  The loop
  decides as before (`serveStep`); beside it stand the calls of `malloc` and `free` that go with each
  branch.

  The specification of a part is `Moved`: the map is the one that the loop has then, its blocks, those of
  the clients in it and of all else that something points to are accounted for, and so many others are
  lost.  Among these are the nodes of every table that a `_cdtp_client_map_set` or `_pop` replaces.
-/
import Mathlib.Data.List.Perm.Basic
import Cdtp.ClientMapNodes
import Cdtp.ServerSpec
import Cdtp.ThreadBlocks

namespace Cdtp

open CMem hiding malloc
open Ownership

/-! ## State -/

/-- The blocks of a client: its `CDTPSocket`, and its key. -/
structure ClientBlocks where
  sock : Nat
  key : Boxed

def ClientBlocks.blocks (c : ClientBlocks) : Multiset Nat := {c.sock} + c.key.blocks

/-- A serve loop and its blocks. -/
structure HeapServe where
  loop : ServeState
  /-- the `CDTPServeFunc`, until the loop has returned -/
  info : Option Nat
  /-- the blocks that the pointers in the map point to, by client id -/
  clients : Nat → ClientBlocks
  /-- the client map, with the blocks of its table -/
  table : HeapMap CDTPSocket
  /-- the snapshot of this iteration: the iterator, its array, and an entry for each client -/
  iter : List Nat
  events : Events

/-- A client's blocks are those behind its pointer from now on, unless its id is taken. -/
def HeapServe.enter (hs : HeapServe) (id : Nat) (c : ClientBlocks) : HeapServe :=
  if (hs.loop.server.clients.get id).isSome then hs
  else { hs with clients := Function.update hs.clients id c }

/-- A function of `threading.c`, called by the loop. -/
def HeapServe.start (hs : HeapServe) (f : Events → HeapM Events) : HeapM HeapServe := do
  let events ← f hs.events
  pure { hs with events := events }

/-- A call of the client map. -/
def HeapServe.callMap (hs : HeapServe) (call : TableCall CDTPSocket) : HeapM HeapServe := do
  let r ← heapTableCall hs.table call
  pure { hs with table := r.2 }

/-! ## The parts of the loop -/

section Functions

variable {Ctx PKey : Type}

/-- `_cdtp_server_call_on_connect`. -/
def heapCallOnConnect (startOk : Bool) (hs : HeapServe) : HeapM HeapServe :=
  hs.start (heapEvent hs.loop.server.onConnect startOk)

/-- `_cdtp_server_call_on_disconnect`. -/
def heapCallOnDisconnect (startOk : Bool) (hs : HeapServe) : HeapM HeapServe :=
  hs.start (heapEvent hs.loop.server.onDisconnect startOk)

/-- `_cdtp_server_call_on_recv`. -/
def heapServerCallOnRecv (M : Machine) (O : OpenSSL Ctx PKey) (startOk : Bool) (clientId : Nat)
    (data : Bytes) (dataSize buffer : Nat) (hs : HeapServe) : HeapM HeapServe :=
  hs.start (heapCallOnRecv (serverCallOnRecv M O hs.loop.server clientId data dataSize) startOk buffer)

/-- The key and the socket of a client that was popped. -/
def heapFreeClient (c : ClientBlocks) : HeapM Unit := do
  heapAesKeyFree c.key
  free c.sock

/-- The three branches of the loop that drop a client. -/
def heapDropClient (startOk : Bool) (clientId : Nat) (hs : HeapServe) : HeapM HeapServe :=
  if hs.loop.server.clients.contains clientId then do
    let popped ← hs.callMap (.pop clientId)
    heapFreeClient (hs.clients clientId)
    heapCallOnDisconnect startOk popped
  else pure hs

/-- What a turn does about what the reads found; the buffer for a body is there once a header was read. -/
def heapReact (M : Machine) (O : OpenSSL Ctx PKey) (startOk : Bool) (clientId : Nat) (hs : HeapServe) :
    Received → HeapM HeapServe
  | .headerEnd => heapDropClient startOk clientId hs
  | .headerError e => if e = .EBADF then heapDropClient startOk clientId hs else pure hs
  | .bodyError e => do
    let _buffer ← malloc
    if e = .EBADF then heapDropClient startOk clientId hs else pure hs
  | .bodyEnd => do
    let _buffer ← malloc
    heapDropClient startOk clientId hs
  | .short => do
    let _buffer ← malloc
    pure hs
  | .frame data size => do
    let buffer ← malloc
    heapServerCallOnRecv M O startOk clientId data size buffer hs

/-- `_cdtp_client_map_iter`. -/
def heapSnapshot (hs : HeapServe) : HeapM HeapServe := do
  let iter ← mallocs (2 + hs.loop.server.clients.iter.length)
  pure { hs with iter := iter }

/-- At the end of an iteration, `_cdtp_client_map_iter_free`. -/
def heapEndIteration (hs : HeapServe) : HeapM HeapServe :=
  if hs.loop.status = .running ∧ hs.loop.todo = [] then do
    frees hs.iter
    pure { hs with iter := [] }
  else pure hs

/-- Behind the accept part: take the snapshot, unless the loop is over. -/
def heapBeginIteration (hs : HeapServe) : HeapM HeapServe :=
  if hs.loop.status = .running then do
    let hs ← heapSnapshot hs
    heapEndIteration hs
  else pure hs

/-- The calls of OpenSSL for the private key of a key exchange. -/
def privateKeyCalls (M : Machine) (O : OpenSSL Ctx PKey) (privateKey : RSAPrivateKey) : KeyCalls :=
  match cryptoOpensslRsaPrivateKey M O privateKey with
  | .ok (some _) => { newMemBuf := true, readPem := true }
  | _ => { newMemBuf := true, readPem := false }

/-- All calls of `_cdtp_crypto_rsa_key_pair` succeed. -/
def allPairCalls : PairCalls where
  gen := true
  newPublic := true
  writePublic := true
  newPrivate := true
  writePrivate := true
  readPublic := true
  readPrivate := true

/-- `_cdtp_server_exchange_keys`: it returns false without freeing anything. -/
def heapServerExchangeKeys (M : Machine) (O : OpenSSL Ctx PKey) (io : ServerExchange PKey) :
    HeapM Exchanged :=
  match serverKeyMessage M O io.rsaGen with
  | .error _ => pure .crashed
  | .ok (keys, _) => do
    match ← heapRsaKeyPair allPairCalls with
    | none => pure .crashed
    | some rsaKeys => do
      let publicKeyData ← heapRsaPublicKeyToBytes
      let publicKeyEncoded ← heapConstructMessage
      if io.sendFailed then pure .failed
      else if io.header.code CDTP_LENSIZE = 0 ∨ io.header.code CDTP_LENSIZE = -1 then pure .failed
      else do
        let buffer ← malloc
        match serverReceiveKey M O keys io.header io.body with
        | .error _ => pure .crashed
        | .ok none => pure .failed
        | .ok (some aesKey) => do
          match ← heapRsaDecrypt (privateKeyCalls M O keys.privateKey) allCalls with
          | none => pure .crashed
          | some keyData => do
            let key ← heapAesKeyFrom
            heapRsaKeyPairFree rsaKeys
            heapCryptoDataFree publicKeyData
            frees [publicKeyEncoded, buffer]
            heapCryptoDataFree keyData
            pure (.key aesKey key)

/-- `accept` returned a socket.  `id` is the id that the connection has been given. -/
def heapAcceptConnection (M : Machine) (startOk : Bool) (c : Connection PKey) (O : OpenSSL Ctx PKey)
    (id : Nat) (hs : HeapServe) : HeapM HeapServe :=
  if c.blockingOk = false then pure hs
  else do
    let newClient ← malloc
    match ← heapServerExchangeKeys M O c.exchange with
    | .crashed => pure hs
    | .failed => pure hs
    | .key aesKey key =>
      if c.nonBlockingOk = false then pure hs
      else do
        let entered := hs.enter id { sock := newClient, key := key }
        let stored ← entered.callMap (.set id (some { sock := c.sock, key := aesKey }))
        heapCallOnConnect startOk stored

/-! ## Calls from other threads -/

/-- `cdtp_server_remove_client`. -/
def heapRemoveClient (clientId : Nat) (closeOk : Bool) (hs : HeapServe) : HeapM HeapServe := do
  let popped ← hs.callMap (.pop clientId)
  if (hs.loop.server.clients.get clientId).isSome && closeOk then do
    heapFreeClient (hs.clients clientId)
    pure popped
  else pure popped

/-- `cdtp_server_send`. -/
def heapServerSend (M : Machine) (O : OpenSSL Ctx PKey) (server : CDTPServer)
    (rand : Option (Nat → UInt8)) (clientId : Nat) (data : Bytes) (sendOk : Bool) : HeapM Unit :=
  match serverSend M O server rand clientId data data.length with
  | .error _ => pure ()
  | .ok (.error _) => pure ()
  | .ok (.ok _) => heapSendMessage sendOk

/-- The loop of `cdtp_server_send_all`. -/
def heapServerSends (M : Machine) (O : OpenSSL Ctx PKey) (server : CDTPServer)
    (rand : Nat → Option (Nat → UInt8)) (data : Bytes) (sendOk : Nat → Bool) : List Nat → HeapM Unit
  | [] => pure ()
  | id :: ids => do
    heapServerSend M O server (rand id) id data (sendOk id)
    heapServerSends M O server rand data sendOk ids

/-- `cdtp_server_send_all`. -/
def heapServerSendAll (M : Machine) (O : OpenSSL Ctx PKey) (server : CDTPServer)
    (rand : Nat → Option (Nat → UInt8)) (data : Bytes) (sendOk : Nat → Bool) : HeapM Unit :=
  if server.serving = false then pure ()
  else do
    let ids := server.clients.iter.map Prod.fst
    let iter ← mallocs (2 + ids.length)
    heapServerSends M O server rand data sendOk ids
    frees iter

/-! ## What is lost -/

/-- The nodes that a call of the client map leaves behind: those of the table that it replaces. -/
def mapLost (clients : Clients CDTPSocket) (call : TableCall CDTPSocket) : Nat :=
  match effectCall clients.map call with
  | some (e, _) => e.replaced
  | none => 0

def dropLost (s : ServeState) (startOk : Bool) (id : Nat) : Nat :=
  if (s.server.clients.get id).isSome then
    mapLost s.server.clients (.pop id) + eventLost s.server.onDisconnect startOk 0
  else 0

/-- A turn loses the buffer of every body that does not come whole. -/
def reactLost (s : ServeState) (startOk : Bool) (id : Nat) : Received → Nat
  | .headerEnd => dropLost s startOk id
  | .headerError e => if e = .EBADF then dropLost s startOk id else 0
  | .bodyError e => 1 + if e = .EBADF then dropLost s startOk id else 0
  | .bodyEnd => 1 + dropLost s startOk id
  | .short => 1
  | .frame _ _ => eventLost s.server.onRecv startOk 1

/-- A key exchange that fails loses the key pair (5), the public key's copy (2) and its message, and the
    buffer for the reply once there is one; one that succeeds at most a `BIO`. -/
def exchangeLost (M : Machine) (O : OpenSSL Ctx PKey) (io : ServerExchange PKey) : Nat :=
  match serverKeyMessage M O io.rsaGen with
  | .error _ => 0
  | .ok (keys, _) =>
    if io.sendFailed then 8
    else if io.header.code CDTP_LENSIZE = 0 ∨ io.header.code CDTP_LENSIZE = -1 then 8
    else if (readFrame M io.header io.body).isSome then (privateKeyCalls M O keys.privateKey).lost
    else 9

/-- With a connection that does not become a client its socket is lost, and its key if there is one. -/
def acceptLost (M : Machine) (s : ServeState) (startOk : Bool) (c : Connection PKey)
    (O : OpenSSL Ctx PKey) : Nat :=
  if c.blockingOk = false then 0
  else
    match serverExchangeKeys M O c.exchange with
    | .ok (some key) =>
      exchangeLost M O c.exchange +
        if c.nonBlockingOk = false then 3
        else (if (s.server.clients.get s.server.nextClientId).isSome then 3 else 0) +
          (mapLost s.server.clients
              (.set s.server.nextClientId (some { sock := c.sock, key := key })) +
            eventLost s.server.onConnect startOk 0)
    | _ => exchangeLost M O c.exchange + 1

/-- A removal loses the client if its descriptor cannot be closed. -/
def removeLost (s : ServeState) (id : Nat) (closeOk : Bool) : Nat :=
  mapLost s.server.clients (.pop id) +
    if (s.server.clients.get id).isSome ∧ closeOk = false then 3 else 0

def sendLost (M : Machine) (O : OpenSSL Ctx PKey) (server : CDTPServer) (rand : Option (Nat → UInt8))
    (clientId : Nat) (data : Bytes) (sendOk : Bool) : Nat :=
  match serverSend M O server rand clientId data data.length with
  | .ok (.ok _) => messageLost sendOk
  | _ => 0

def sendAllLost (M : Machine) (O : OpenSSL Ctx PKey) (server : CDTPServer)
    (rand : Nat → Option (Nat → UInt8)) (data : Bytes) (sendOk : Nat → Bool) : Nat :=
  if server.serving = false then 0
  else ((server.clients.iter.map Prod.fst).map fun id =>
    sendLost M O server (rand id) id data (sendOk id)).sum

end Functions

/-! ## What is owned -/

/-- The blocks of all clients in a map. -/
def stored (clients : Clients CDTPSocket) (blocks : Nat → ClientBlocks) : Multiset Nat :=
  ((clients.iter.map Prod.fst).map fun id => (blocks id).blocks).sum

/-- Everything that something points to. -/
def HeapServe.owned (hs : HeapServe) (clients : Clients CDTPSocket) : Multiset Nat :=
  hs.events.blocks + (hs.table.blocks + stored clients hs.clients + (hs.iter : Multiset Nat) +
    given (fun b => {b}) hs.info)

/-- The table is that of the clients, and has a node for each slot. -/
structure HeapServe.Tabled (hs : HeapServe) (clients : Clients CDTPSocket) : Prop where
  map : hs.table.map = clients.map
  nodes : hs.table.nodes.length = clients.map.capacity

section Stored

variable {clients : Clients CDTPSocket} {blocks : Nat → ClientBlocks} {id : Nat} {sock : CDTPSocket}

theorem mem_ids_iff : id ∈ clients.iter.map Prod.fst ↔ clients.get id ≠ none := by
  rw [List.mem_map]
  constructor
  · rintro ⟨⟨id', sock⟩, hmem, rfl⟩
    rw [clients.mem_iter_iff.mp hmem]
    exact Option.some_ne_none sock
  · intro h
    obtain ⟨sock, hsock⟩ := Option.ne_none_iff_exists'.mp h
    exact ⟨(id, sock), clients.mem_iter_iff.mpr hsock, rfl⟩

/-- Maps with the same clients, in whatever slots. -/
theorem stored_congr {clients' : Clients CDTPSocket} (h : clients'.get = clients.get) :
    stored clients' blocks = stored clients blocks := by
  have hperm : (clients'.iter.map Prod.fst).Perm (clients.iter.map Prod.fst) := by
    rw [List.perm_ext_iff_of_nodup clients'.iter_nodup clients.iter_nodup]
    intro id
    rw [mem_ids_iff, mem_ids_iff, h]
  rw [stored, stored, (hperm.map _).sum_eq]

/-- **A client put in** brings its blocks. -/
theorem stored_set (h : clients.get id = none) (c : ClientBlocks) :
    stored (clients.set id sock).2 (Function.update blocks id c) = c.blocks + stored clients blocks := by
  have hid : id ∉ clients.iter.map Prod.fst := fun hmem => mem_ids_iff.mp hmem h
  have hperm : ((clients.set id sock).2.iter.map Prod.fst).Perm (id :: clients.iter.map Prod.fst) := by
    rw [List.perm_ext_iff_of_nodup (clients.set id sock).2.iter_nodup
      (List.nodup_cons.mpr ⟨hid, clients.iter_nodup⟩)]
    intro id'
    rw [List.mem_cons, mem_ids_iff, mem_ids_iff, (Clients.set_of_none h sock).2]
    by_cases heq : id' = id
    · subst heq
      simp
    · rw [Function.update_of_ne heq]
      simp [heq]
  have hothers : (clients.iter.map Prod.fst).map (fun id' => (Function.update blocks id c id').blocks)
      = (clients.iter.map Prod.fst).map fun id' => (blocks id').blocks := by
    apply List.map_congr_left
    intro id' hmem
    have hne : id' ≠ id := by
      rintro rfl
      exact hid hmem
    rw [Function.update_of_ne hne]
  rw [stored, (hperm.map _).sum_eq, List.map_cons, List.sum_cons, Function.update_self, hothers, stored]

/-- **A client taken out** takes its blocks along. -/
theorem stored_pop (h : clients.get id = some sock) :
    stored clients blocks = (blocks id).blocks + stored (clients.pop id).2 blocks := by
  have hnone : (clients.pop id).2.get id = none := by
    rw [Clients.get_pop, Function.update_self]
  -- putting it in again leads back to the same clients
  have hback : ((clients.pop id).2.set id sock).2.get = clients.get := by
    rw [(Clients.set_of_none hnone sock).2, Clients.get_pop, Function.update_idem, ← h,
      Function.update_eq_self]
  have hset := @stored_set (clients.pop id).2 blocks id sock hnone (blocks id)
  rw [Function.update_eq_self] at hset
  rw [← stored_congr hback, hset]

theorem card_blocks (blocks : Nat → ClientBlocks) (ids : List Nat) :
    (ids.map fun id => (blocks id).blocks).sum.card = 3 * ids.length := by
  induction ids with
  | nil => rfl
  | cons id ids ih =>
    rw [List.map_cons, List.sum_cons, Multiset.card_add, ih, List.length_cons]
    show 3 + 3 * ids.length = 3 * (ids.length + 1)
    omega

theorem HeapMap.card_blocks (m : HeapMap CDTPSocket) : m.blocks.card = 2 + m.nodes.length := by
  rw [HeapMap.blocks, Multiset.card_add, Multiset.coe_card]
  rfl

/-- **How many blocks are owned.** -/
theorem card_owned {hs : HeapServe} {clients : Clients CDTPSocket} (h : hs.Tabled clients) :
    (hs.owned clients).card = 2 + clients.map.capacity + 3 * clients.iter.length + hs.iter.length +
      hs.info.toList.length + hs.events.count := by
  rw [HeapServe.owned, Multiset.card_add, Multiset.card_add, Multiset.card_add, Multiset.card_add,
    Events.card_blocks, HeapMap.card_blocks, h.nodes, stored, card_blocks, List.length_map,
    Multiset.coe_card, card_given_option, Nat.add_comm]

end Stored

/-! ## The parts, again -/

/-- A part of the loop has run: the map is now `clients`, everything it stores is accounted for, and
    `lost` blocks are not. -/
structure Moved (hs : HeapServe) (clients : Clients CDTPSocket) (lost : Nat) (P : Multiset Nat)
    (hs' : HeapServe) (R : Multiset Nat) : Prop where
  loop : hs'.loop = hs.loop
  iter : hs'.iter = hs.iter
  info : hs'.info = hs.info
  tabled : hs'.Tabled clients
  balance : Balance (hs'.owned clients) lost P R

section Parts

variable {Ctx PKey : Type} {M : Machine} {O : OpenSSL Ctx PKey} {hs : HeapServe}
  {clients : Clients CDTPSocket} {P : Multiset Nat} {startOk : Bool} {id lost : Nat}

theorem Moved.same (h : hs.Tabled clients) : Moved hs clients 0 P hs (hs.owned clients + P) :=
  ⟨rfl, rfl, rfl, h, Balance.same⟩

/-- Nothing moves, and some blocks are forgotten. -/
theorem Moved.forget (h : hs.Tabled clients) {L : Multiset Nat} (hcard : L.card = lost) :
    Moved hs clients lost P hs (L + (hs.owned clients + P)) :=
  ⟨rfl, rfl, rfl, h, Balance.forget hcard⟩

/-- What was lost before counts as well. -/
theorem Moved.add {L R : Multiset Nat} {hs' : HeapServe}
    (h : Moved hs clients lost (L + P) hs' R) : Moved hs clients (L.card + lost) P hs' R :=
  ⟨h.loop, h.iter, h.info, h.tabled, h.balance.add⟩

/-- So do the nodes that a call of the map has left behind before. -/
theorem Moved.called {table : HeapMap CDTPSocket} {L R : Multiset Nat} {hs' : HeapServe}
    (h : Moved { hs with table := table } clients lost (L + P) hs' R) :
    Moved hs clients (L.card + lost) P hs' R :=
  ⟨h.loop, h.iter, h.info, h.tabled, h.balance.add⟩

/-- **What a function of the threads does, the loop does**: the rest of its blocks stay. -/
theorem start_triple (ht : hs.Tabled clients) {f : Events → HeapM Events} {B : Multiset Nat}
    (h : ∀ P, Triple (B + (hs.events.blocks + P)) (f hs.events) (Keeps lost P)) :
    Triple (B + (hs.owned clients + P)) (hs.start f) (Moved hs clients lost P) := by
  apply (Triple.part h).bind
  intro events R hbalance
  exact Triple.pure ⟨rfl, rfl, rfl, ⟨ht.map, ht.nodes⟩, hbalance⟩

theorem heapCallOnConnect_triple (ht : hs.Tabled clients) :
    Triple (hs.owned clients + P) (heapCallOnConnect startOk hs)
      (Moved hs clients (eventLost hs.loop.server.onConnect startOk 0) P) := by
  rw [← zero_add (hs.owned clients + P)]
  apply start_triple ht
  intro P
  rw [zero_add]
  exact heapEvent_triple _

theorem heapCallOnDisconnect_triple (ht : hs.Tabled clients) :
    Triple (hs.owned clients + P) (heapCallOnDisconnect startOk hs)
      (Moved hs clients (eventLost hs.loop.server.onDisconnect startOk 0) P) := by
  rw [← zero_add (hs.owned clients + P)]
  apply start_triple ht
  intro P
  rw [zero_add]
  exact heapEvent_triple _

theorem heapFreeClient_triple (c : ClientBlocks) :
    Triple (c.blocks + P) (heapFreeClient c) fun _ R => R = P := by
  apply freeBoxed_then (P := {c.sock} + P)
  · rw [ClientBlocks.blocks]
    abel
  · exact Triple.free

/-- A popped client is freed whole. -/
theorem heapFreeClient_then {β : Type} {k : Unit → HeapM β} {Q : β → Multiset Nat → Prop}
    {sock : CDTPSocket} (h : clients.get id = some sock)
    (hk : Triple (hs.owned (clients.pop id).2 + P) (k ()) Q) :
    Triple (hs.owned clients + P) (heapFreeClient (hs.clients id) >>= k) Q := by
  have hP : hs.owned clients + P = (hs.clients id).blocks + (hs.owned (clients.pop id).2 + P) := by
    simp only [HeapServe.owned, @stored_pop clients hs.clients id sock h]
    abel
  rw [hP]
  apply (heapFreeClient_triple _).bind
  rintro _ R rfl
  exact hk

/-! ### The client map -/

/-- **A call of the map**: the blocks of the table are those of the new one, and the nodes of the one that
    it replaces are lost. -/
theorem callMap_triple {call : TableCall CDTPSocket} {reply : MapReply CDTPSocket}
    {clients' : Clients CDTPSocket} (ht : hs.Tabled clients)
    (hcall : tableCall clients.map call = some (reply, clients'.map)) :
    Triple (hs.table.blocks + P) (hs.callMap call) fun hs' R =>
      ∃ table L, hs' = { hs with table := table } ∧
        HeapServe.Tabled { hs with table := table } clients' ∧ L.card = mapLost clients call ∧
        R = table.blocks + (L + P) := by
  have hkept : hs.table.Kept := ⟨ht.map ▸ clients.wf, by rw [ht.nodes, ht.map]⟩
  apply ((heapTableCall_triple hkept call).frame P).bind
  rintro ⟨a, table⟩ - ⟨R, rfl, hr⟩
  have hreply := hr.reply
  rw [ht.map, hcall, Option.some.injEq, Prod.mk.injEq] at hreply
  have hlost : mapLost clients call = a.effect.replaced := by
    have heffect := hr.effect
    rw [ht.map] at heffect
    rw [mapLost, heffect]
  refine Triple.pure ⟨table, a.replaced, rfl, ⟨hreply.2.symm, ?_⟩, ?_, ?_⟩
  · show table.nodes.length = _
    rw [hr.kept.nodes, ← hreply.2]
  · rw [hlost, Multiset.coe_card, hr.length_replaced hkept]
  · rw [hr.owned, add_assoc]

/-- The same, by the loop: the blocks of the clients stay. -/
theorem callMap_then {call : TableCall CDTPSocket} {reply : MapReply CDTPSocket}
    {clients' owners : Clients CDTPSocket} {β : Type} {k : HeapServe → HeapM β}
    {Q : β → Multiset Nat → Prop} (ht : hs.Tabled clients)
    (hcall : tableCall clients.map call = some (reply, clients'.map))
    (hk : ∀ (table : HeapMap CDTPSocket) (L : Multiset Nat),
      HeapServe.Tabled { hs with table := table } clients' → L.card = mapLost clients call →
      Triple (HeapServe.owned { hs with table := table } owners + (L + P)) (k { hs with table := table })
        Q) :
    Triple (hs.owned owners + P) (hs.callMap call >>= k) Q := by
  let rest : Multiset Nat := stored owners hs.clients + (hs.iter : Multiset Nat) +
    given (fun b => {b}) hs.info + hs.events.blocks + P
  have hP : hs.owned owners + P = hs.table.blocks + rest := by
    simp only [rest, HeapServe.owned]
    abel
  rw [hP]
  apply (callMap_triple ht hcall).bind
  rintro - R ⟨table, L, rfl, ht', hcard, rfl⟩
  have howned : table.blocks + (L + rest)
      = HeapServe.owned { hs with table := table } owners + (L + P) := by
    simp only [rest, HeapServe.owned]
    abel
  rw [howned]
  exact hk table L ht' hcard

theorem tableCall_pop (clients : Clients CDTPSocket) (id : Nat) :
    tableCall clients.map (.pop id) = some (.sock (clients.pop id).1, (clients.pop id).2.map) := by
  rw [tableCall, (clients.pop_spec id).1]
  rfl

theorem tableCall_set (clients : Clients CDTPSocket) (id : Nat) (sock : CDTPSocket) :
    tableCall clients.map (.set id (some sock))
      = some (.bool (clients.set id sock).1, (clients.set id sock).2.map) := by
  rw [tableCall, (clients.set_spec id sock).1]
  rfl

/-- **A client is dropped** with its three blocks. -/
theorem heapDropClient_triple (ht : hs.Tabled hs.loop.server.clients) :
    Triple (hs.owned hs.loop.server.clients + P) (heapDropClient startOk id hs)
      (Moved hs (hs.loop.dropClient id).server.clients (dropLost hs.loop startOk id) P) := by
  rw [heapDropClient, dropLost, Clients.contains_eq]
  rcases hget : hs.loop.server.clients.get id with _ | sock
  · rw [dropClient_none hget]
    exact Triple.pure (Moved.same ht)
  · rw [dropClient_some hget]
    apply callMap_then ht (tableCall_pop _ id)
    intro table L ht' hcard
    rw [Option.isSome_some, if_pos rfl, ← hcard]
    apply @heapFreeClient_then { hs with table := table } _ _ _ _ _ _ _ hget
    exact (heapCallOnDisconnect_triple ht').mono fun _ _ h => h.called

theorem serverCallOnRecv_isSome {server : CDTPServer} {data : Bytes} {size : Nat}
    {payload : Option CryptoData} (h : serverCallOnRecv M O server id data size = .ok payload) :
    payload.isSome = server.onRecv := by
  simp only [serverCallOnRecv, ← bind_assoc] at h
  exact isSome_of_registered h

theorem dropClient_clients {s s' : ServeState} (h : s.server = s'.server) :
    (s.dropClient id).server.clients = (s'.dropClient id).server.clients := by
  have hclients : s.server.clients = s'.server.clients := by rw [h]
  rcases hget : s.server.clients.get id with _ | client
  · rw [dropClient_none hget, dropClient_none (hclients ▸ hget), hclients]
  · rw [dropClient_some hget, dropClient_some (hclients ▸ hget), hclients]

/-- **A turn**: only the buffer of a body that does not come whole is forgotten. -/
theorem heapReact_triple (ht : hs.Tabled hs.loop.server.clients) {s : ServeState}
    (hserver : s.server = hs.loop.server) (r : Received) :
    Triple (hs.owned hs.loop.server.clients + P) (heapReact M O startOk id hs r) fun hs' R =>
      (s.react M O id r).status = .crashed ∨
        Moved hs (s.react M O id r).server.clients (reactLost hs.loop startOk id r) P hs' R := by
  have hclients : s.server.clients = hs.loop.server.clients := by rw [hserver]
  have hdropped := @dropClient_clients id s hs.loop hserver
  have hdrop : ∀ P, Triple (hs.owned hs.loop.server.clients + P) (heapDropClient startOk id hs)
      (Moved hs (s.dropClient id).server.clients (dropLost hs.loop startOk id) P) := by
    intro P
    rw [hdropped]
    exact heapDropClient_triple ht
  -- behind the header there is a buffer, which a body that is not whole leaves behind
  have hbuffered : ∀ b, Triple ({b} + (hs.owned hs.loop.server.clients + P))
      (heapDropClient startOk id hs)
      (Moved hs (s.dropClient id).server.clients (1 + dropLost hs.loop startOk id) P) := by
    intro b
    rw [show {b} + (hs.owned hs.loop.server.clients + P)
      = hs.owned hs.loop.server.clients + ({b} + P) by abel]
    apply (hdrop ({b} + P)).mono
    intro hs' R h
    exact h.add
  cases r with
  | headerEnd => exact (hdrop P).mono fun _ _ h => .inr h
  | headerError e =>
    rw [heapReact, reactLost, ServeState.react]
    by_cases hbad : e = .EBADF
    · rw [if_pos hbad, if_pos hbad, if_pos hbad]
      exact (hdrop P).mono fun _ _ h => .inr h
    · rw [if_neg hbad, if_neg hbad, if_neg hbad]
      refine Triple.pure (.inr ?_)
      split
      · rw [hclients]
        exact Moved.same ht
      · show Moved hs s.server.clients 0 P hs _
        rw [hclients]
        exact Moved.same ht
  | bodyError e =>
    apply Triple.malloc_then
    intro buffer
    rw [reactLost, ServeState.react]
    by_cases hbad : e = .EBADF
    · rw [if_pos hbad, if_pos hbad, if_pos hbad]
      exact (hbuffered buffer).mono fun _ _ h => .inr h
    · rw [if_neg hbad, if_neg hbad, if_neg hbad]
      refine Triple.pure (.inr ?_)
      show Moved hs s.server.clients 1 P hs _
      rw [hclients]
      exact Moved.forget ht (Multiset.card_singleton buffer)
  | bodyEnd =>
    apply Triple.malloc_then
    intro buffer
    exact (hbuffered buffer).mono fun _ _ h => .inr h
  | short =>
    apply Triple.malloc_then
    intro buffer
    refine Triple.pure (.inr ?_)
    show Moved hs s.server.clients 1 P hs _
    rw [hclients]
    exact Moved.forget ht (Multiset.card_singleton buffer)
  | frame data size =>
    apply Triple.malloc_then
    intro buffer
    rw [ServeState.react, hserver, heapServerCallOnRecv]
    rcases hcall : serverCallOnRecv M O hs.loop.server id data size with e | payload
    · exact Triple.pure (.inl rfl)
    · show Triple _ _ fun hs' R => _ ∨ Moved hs hs.loop.server.clients
        (eventLost hs.loop.server.onRecv startOk 1) P hs' R
      rw [← serverCallOnRecv_isSome hcall]
      apply (start_triple ht fun P => heapCallOnRecv_triple).mono
      intro hs' R h
      exact .inr h

/-- **A key exchange** keeps the key of the client, and otherwise all it had or nothing. -/
theorem heapServerExchangeKeys_triple (io : ServerExchange PKey) :
    Triple P (heapServerExchangeKeys M O io)
      (ExchangeBlocks (serverExchangeKeys M O io) (exchangeLost M O io) P) := by
  rw [heapServerExchangeKeys]
  rcases hmsg : serverKeyMessage M O io.rsaGen with e | ⟨keys, message⟩
  · exact Triple.pure (.inl ⟨⟨e, by rw [serverExchangeKeys, hmsg]; rfl⟩, rfl⟩)
  have hrest : serverExchangeKeys M O io
      = if io.sendFailed then pure none else serverReceiveKey M O keys io.header io.body := by
    rw [serverExchangeKeys, hmsg, ok_bind]
  have hlost : exchangeLost M O io
      = if io.sendFailed then 8
        else if io.header.code CDTP_LENSIZE = 0 ∨ io.header.code CDTP_LENSIZE = -1 then 8
        else if (readFrame M io.header io.body).isSome then (privateKeyCalls M O keys.privateKey).lost
        else 9 := by
    rw [exchangeLost, hmsg]
  rw [hrest, hlost]
  apply (heapRsaKeyPair_triple allPairCalls).bind
  rintro r R ⟨hsome, L, rfl, hcard⟩
  obtain ⟨rsaKeys, rfl⟩ := Option.isSome_iff_exists.mp hsome
  obtain rfl := Multiset.card_eq_zero.mp hcard
  rw [given, add_zero]
  apply allocBoxed_triple.bind
  rintro publicKeyData R rfl
  apply heapConstructMessage_triple.bind
  rintro publicKeyEncoded R rfl
  -- the eight blocks at hand when the first message is sent
  have height : ({publicKeyEncoded} + publicKeyData.blocks + rsaKeys.blocks).card = 8 := rfl
  have hassoc : {publicKeyEncoded} + (publicKeyData.blocks + (rsaKeys.blocks + P))
      = ({publicKeyEncoded} + publicKeyData.blocks + rsaKeys.blocks) + P := by
    abel
  rw [hassoc]
  by_cases hsend : io.sendFailed = true
  · rw [if_pos hsend, if_pos hsend, if_pos hsend]
    exact Triple.pure (.inr (.inl ⟨rfl, rfl, _, rfl, height⟩))
  rw [if_neg hsend, if_neg hsend, if_neg hsend]
  by_cases hheader : io.header.code CDTP_LENSIZE = 0 ∨ io.header.code CDTP_LENSIZE = -1
  · rw [if_pos hheader, if_pos hheader, serverReceiveKey, readFrame_of_header hheader]
    exact Triple.pure (.inr (.inl ⟨rfl, rfl, _, rfl, height⟩))
  rw [if_neg hheader, if_neg hheader]
  apply Triple.malloc_then
  intro buffer
  rcases hreceive : serverReceiveKey M O keys io.header io.body with e | r
  · exact Triple.pure (.inl ⟨⟨e, rfl⟩, rfl⟩)
  have hframe : (readFrame M io.header io.body).isSome = r.isSome := by
    rw [serverReceiveKey] at hreceive
    rcases hread : readFrame M io.header io.body with _ | ⟨reply, size⟩
    · rw [hread] at hreceive
      rw [← Except.ok.inj hreceive]
      rfl
    · rw [hread] at hreceive
      obtain ⟨d, -, hreceive⟩ := bind_eq_ok_iff.mp hreceive
      obtain ⟨d', -, hreceive⟩ := bind_eq_ok_iff.mp hreceive
      obtain ⟨key, -, hreceive⟩ := bind_eq_ok_iff.mp hreceive
      rw [← Except.ok.inj hreceive]
      rfl
  rw [hframe]
  cases r with
  | none =>
    rw [← add_assoc]
    exact Triple.pure (.inr (.inl ⟨rfl, rfl, _, rfl, rfl⟩))
  | some key =>
    apply (heapRsaDecrypt_triple (privateKeyCalls M O keys.privateKey) allCalls).bind
    rintro r R ⟨hsome, L, rfl, hcard⟩
    obtain ⟨keyData, rfl⟩ := Option.isSome_iff_exists.mp hsome
    apply allocBoxed_triple.bind
    rintro b R rfl
    have hpair : b.blocks + (given Boxed.blocks (some keyData) + L +
        ({buffer} + ({publicKeyEncoded} + publicKeyData.blocks + rsaKeys.blocks + P)))
        = rsaKeys.blocks + (publicKeyData.blocks + ({publicKeyEncoded} + {buffer} +
          (keyData.blocks + (b.blocks + L + P)))) := by
      rw [given]
      abel
    rw [hpair]
    apply (heapRsaKeyPairFree_triple rsaKeys).bind
    rintro _ R rfl
    apply freeBoxed_then rfl
    apply Triple.frees_then (P := keyData.blocks + (b.blocks + L + P))
    · simp only [coe_cons_eq, Multiset.coe_nil]
      abel
    apply freeBoxed_then rfl
    exact Triple.pure (.inr (.inr ⟨key, b, rfl, rfl, L, rfl, hcard⟩))

/-- **A new client** is entered with its three blocks, or they are forgotten if its id is taken. -/
theorem owned_enter (c : ClientBlocks) (sock : CDTPSocket) :
    ∃ L, L.card = (if (hs.loop.server.clients.get id).isSome then 3 else 0) ∧
      c.blocks + (hs.owned hs.loop.server.clients + P)
        = (hs.enter id c).owned (hs.loop.server.clients.set id sock).2 + (L + P) := by
  rcases hget : hs.loop.server.clients.get id with _ | taken
  · refine ⟨0, rfl, ?_⟩
    rw [HeapServe.enter, hget, Option.isSome_none, if_neg Bool.noConfusion]
    simp only [HeapServe.owned, stored_set hget]
    abel
  · -- `_cdtp_client_map_set` refuses it
    refine ⟨c.blocks, rfl, ?_⟩
    have hsame := @Clients.set_of_some CDTPSocket hs.loop.server.clients id
      (by rw [hget]; exact Option.some_ne_none taken) sock
    rw [HeapServe.enter, hget, Option.isSome_some, if_pos rfl]
    simp only [HeapServe.owned, stored_congr hsame]
    abel

/-- All else stays. -/
theorem enter_kept (hs : HeapServe) (id : Nat) (c : ClientBlocks) :
    (hs.enter id c).loop = hs.loop ∧ (hs.enter id c).iter = hs.iter ∧
      (hs.enter id c).info = hs.info ∧ (hs.enter id c).table = hs.table := by
  rw [HeapServe.enter]
  split
  · exact ⟨rfl, rfl, rfl, rfl⟩
  · exact ⟨rfl, rfl, rfl, rfl⟩

/-- **An accepted connection** becomes a client with its three blocks, or what it had is forgotten. -/
theorem heapAcceptConnection_triple (ht : hs.Tabled hs.loop.server.clients) (c : Connection PKey) :
    Triple (hs.owned hs.loop.server.clients + P)
      (heapAcceptConnection M startOk c O hs.loop.server.nextClientId hs) fun hs' R =>
      (hs.loop.acceptConnection M O c).status = .crashed ∨
        Moved hs (hs.loop.acceptConnection M O c).server.clients (acceptLost M hs.loop startOk c O) P
          hs' R := by
  rw [heapAcceptConnection, acceptLost]
  rcases hblocking : c.blockingOk with _ | _
  · rw [if_pos rfl, if_pos rfl]
    refine Triple.pure (.inr ?_)
    simp only [ServeState.acceptConnection, hblocking]
    exact Moved.same ht
  rw [if_neg (by decide), if_neg (by decide)]
  apply Triple.malloc_then
  intro newClient
  apply (heapServerExchangeKeys_triple c.exchange).bind
  rintro r R (⟨⟨e, hexchange⟩, rfl⟩ | ⟨hexchange, rfl, L, rfl, hcard⟩ |
    ⟨key, b, hexchange, rfl, L, rfl, hcard⟩)
  · refine Triple.pure (.inl ?_)
    simp only [ServeState.acceptConnection, hblocking, hexchange]
    rfl
  · rw [hexchange]
    refine Triple.pure (.inr ?_)
    simp only [ServeState.acceptConnection, hblocking, hexchange]
    rw [← add_assoc L, ← hcard, ← Multiset.card_singleton newClient, ← Multiset.card_add]
    exact Moved.forget ht rfl
  rw [hexchange, ← hcard]
  -- what the exchange lost is lost in any case; left are the socket and the key
  let client : ClientBlocks := { sock := newClient, key := b }
  have hheld : b.blocks + L + ({newClient} + (hs.owned hs.loop.server.clients + P))
      = client.blocks + (hs.owned hs.loop.server.clients + (L + P)) := by
    rw [ClientBlocks.blocks]
    abel
  rw [hheld]
  dsimp only
  rcases hnonBlocking : c.nonBlockingOk with _ | _
  · rw [if_pos rfl, if_pos rfl]
    refine Triple.pure (.inr ?_)
    simp only [ServeState.acceptConnection, hblocking, hexchange, hnonBlocking]
    apply Moved.add
    exact Moved.forget ht rfl
  have hfalse : ¬ (true = false) := by decide
  rw [if_neg hfalse, if_neg hfalse]
  have hadmitted : (hs.loop.acceptConnection M O c).server.clients
      = (hs.loop.server.clients.set hs.loop.server.nextClientId { sock := c.sock, key := key }).2 := by
    simp only [ServeState.acceptConnection, hblocking, hexchange, hnonBlocking]
    rfl
  rw [hadmitted]
  obtain ⟨refused, hrefused, howned⟩ := @owned_enter hs (L + P) hs.loop.server.nextClientId client
    { sock := c.sock, key := key }
  obtain ⟨hloop, hiter, hinfo, htable⟩ := enter_kept hs hs.loop.server.nextClientId client
  have ht' : (hs.enter hs.loop.server.nextClientId client).Tabled hs.loop.server.clients :=
    ⟨htable ▸ ht.map, htable ▸ ht.nodes⟩
  have hset := tableCall_set hs.loop.server.clients hs.loop.server.nextClientId
    { sock := c.sock, key := key }
  rw [howned]
  apply callMap_then ht' hset
  intro table nodes ht'' hnodes
  have hevent : eventLost hs.loop.server.onConnect startOk 0
      = eventLost (hs.enter hs.loop.server.nextClientId client).loop.server.onConnect startOk 0 := by
    rw [hloop]
  rw [← hnodes, ← hrefused, hevent]
  apply (heapCallOnConnect_triple ht'').mono
  intro hs' R h
  have hmoved := h.called.add.add
  exact .inr ⟨hmoved.loop.trans hloop, hmoved.iter.trans hiter, hmoved.info.trans hinfo, hmoved.tabled,
    hmoved.balance⟩

/-- **A removal** frees the client, unless its descriptor cannot be closed. -/
theorem heapRemoveClient_triple (ht : hs.Tabled hs.loop.server.clients)
    (hserving : hs.loop.server.serving = true) (closeOk : Bool) :
    Triple (hs.owned hs.loop.server.clients + P) (heapRemoveClient id closeOk hs)
      (Moved hs (hs.loop.removeClient id closeOk).server.clients (removeLost hs.loop id closeOk) P) := by
  rw [heapRemoveClient, removeLost]
  apply callMap_then ht (tableCall_pop _ id)
  intro table L ht' hcard
  rw [← hcard]
  rcases hget : hs.loop.server.clients.get id with _ | sock
  · have hsame : (hs.loop.server.clients.pop id).2.get = hs.loop.server.clients.get := by
      rw [Clients.get_pop, ← hget, Function.update_eq_self]
    rw [removeClient_none hserving hget]
    apply Triple.pure
    apply Moved.called
    have hmoved := Moved.same (P := L + P) ht'
    simp only [HeapServe.owned, stored_congr hsame] at hmoved ⊢
    exact hmoved
  · obtain ⟨errors, -, hremoved⟩ := removeClient_some hserving hget closeOk
    rw [hremoved]
    cases closeOk with
    | true =>
      apply @heapFreeClient_then { hs with table := table } _ _ _ _ _ _ _ hget
      exact Triple.pure (Moved.same ht').called
    | false =>
      have hP : HeapServe.owned { hs with table := table } hs.loop.server.clients + (L + P)
          = (hs.clients id).blocks +
            (HeapServe.owned { hs with table := table } (hs.loop.server.clients.pop id).2 + (L + P)) := by
        simp only [HeapServe.owned, @stored_pop hs.loop.server.clients hs.clients id sock hget]
        abel
      rw [hP]
      have hcard : (hs.clients id).blocks.card = 3 := rfl
      exact Triple.pure (Moved.forget ht' hcard).called

theorem heapServerSend_triple (server : CDTPServer) (rand : Option (Nat → UInt8)) (data : Bytes)
    (sendOk : Bool) : Triple P (heapServerSend M O server rand id data sendOk) fun _ R =>
      ∃ L, R = L + P ∧ L.card = sendLost M O server rand id data sendOk := by
  rw [heapServerSend, sendLost]
  rcases serverSend M O server rand id data data.length with e | (e | sent)
  · exact Triple.pure ⟨0, (zero_add P).symm, rfl⟩
  · exact Triple.pure ⟨0, (zero_add P).symm, rfl⟩
  · exact heapSendMessage_triple sendOk

theorem heapServerSends_triple (server : CDTPServer) (rand : Nat → Option (Nat → UInt8)) (data : Bytes)
    (sendOk : Nat → Bool) (ids : List Nat) :
    Triple P (heapServerSends M O server rand data sendOk ids) fun _ R => ∃ L, R = L + P ∧
      L.card = (ids.map fun id => sendLost M O server (rand id) id data (sendOk id)).sum := by
  induction ids generalizing P with
  | nil => exact Triple.pure ⟨0, (zero_add P).symm, rfl⟩
  | cons id ids ih =>
    apply (heapServerSend_triple server (rand id) data (sendOk id)).bind
    rintro _ R ⟨L, rfl, hcard⟩
    apply ih.mono
    rintro _ R ⟨L', rfl, hcard'⟩
    refine ⟨L + L', by abel, ?_⟩
    rw [Multiset.card_add, hcard, hcard', List.map_cons, List.sum_cons]

/-- **A message to all** frees its own snapshot. -/
theorem heapServerSendAll_triple (server : CDTPServer) (rand : Nat → Option (Nat → UInt8))
    (data : Bytes) (sendOk : Nat → Bool) :
    Triple P (heapServerSendAll M O server rand data sendOk) fun _ R =>
      ∃ L, R = L + P ∧ L.card = sendAllLost M O server rand data sendOk := by
  rw [heapServerSendAll, sendAllLost]
  by_cases hserving : server.serving = false
  · rw [if_pos hserving, if_pos hserving]
    exact Triple.pure ⟨0, (zero_add P).symm, rfl⟩
  rw [if_neg hserving, if_neg hserving]
  apply (Triple.mallocs _).bind
  rintro iter R ⟨rfl, -⟩
  apply (heapServerSends_triple server rand data sendOk _).bind
  rintro _ R ⟨L, rfl, hcard⟩
  have hP : L + ((iter : Multiset Nat) + P) = (iter : Multiset Nat) + (L + P) := by abel
  rw [hP]
  apply (Triple.frees iter).mono
  rintro _ R rfl
  exact ⟨L, rfl, hcard⟩

/-! ### The snapshot -/

/-- At the head of the loop there is no snapshot; the thread has its block while it runs. -/
structure HeapServe.Settled (hs : HeapServe) : Prop where
  tabled : hs.Tabled hs.loop.server.clients
  iter : hs.loop.status = .running → hs.loop.todo = [] → hs.iter = []
  running : hs.loop.status = .running → hs.info.isSome = true
  returned : hs.loop.status = .returned → hs.info = none

/-- A part of the loop that only takes or frees the snapshot. -/
structure Sighted (hs : HeapServe) (clients : Clients CDTPSocket) (P : Multiset Nat) (hs' : HeapServe)
    (R : Multiset Nat) : Prop where
  loop : hs'.loop = hs.loop
  info : hs'.info = hs.info
  table : hs'.table = hs.table
  iter : hs.loop.status = .running → hs.loop.todo = [] → hs'.iter = []
  owned : R = hs'.owned clients + P

/-- At the end of an iteration, the snapshot is freed. -/
theorem heapEndIteration_triple : Triple (hs.owned clients + P) (heapEndIteration hs)
    (Sighted hs clients P) := by
  rw [heapEndIteration]
  by_cases hend : hs.loop.status = .running ∧ hs.loop.todo = []
  · rw [if_pos hend]
    apply Triple.frees_then (P := HeapServe.owned { hs with iter := [] } clients + P)
    · simp only [HeapServe.owned, Multiset.coe_nil]
      abel
    · exact Triple.pure ⟨rfl, rfl, rfl, fun _ _ => rfl, rfl⟩
  · rw [if_neg hend]
    exact Triple.pure ⟨rfl, rfl, rfl, fun hrunning htodo => absurd ⟨hrunning, htodo⟩ hend, rfl⟩

/-- **An iteration begins** with a snapshot of its own. -/
theorem heapBeginIteration_triple (hiter : hs.iter = []) :
    Triple (hs.owned clients + P) (heapBeginIteration hs) (Sighted hs clients P) := by
  rw [heapBeginIteration]
  by_cases hrunning : hs.loop.status = .running
  · rw [if_pos hrunning]
    have hsnapshot : Triple (hs.owned clients + P) (heapSnapshot hs) fun hs' R =>
        (∃ iter, hs' = { hs with iter := iter }) ∧ R = hs'.owned clients + P := by
      apply (Triple.mallocs _).bind
      rintro iter R ⟨rfl, -⟩
      refine Triple.pure ⟨⟨iter, rfl⟩, ?_⟩
      simp only [HeapServe.owned, hiter, Multiset.coe_nil]
      abel
    apply hsnapshot.bind
    rintro - R ⟨⟨iter, rfl⟩, rfl⟩
    exact heapEndIteration_triple.mono fun _ _ h => ⟨h.loop, h.info, h.table, h.iter, h.owned⟩
  · rw [if_neg hrunning]
    exact Triple.pure ⟨rfl, rfl, rfl, fun h => absurd h hrunning, rfl⟩

end Parts

end Cdtp
