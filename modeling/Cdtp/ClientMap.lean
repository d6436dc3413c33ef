/-
  The client map (`map.c`): an open-addressing hash table from client ids to client sockets.

  The table is an array of nodes probed linearly from `client_id % capacity`, wrapping at the
  capacity.  Three points decide how it is modelled:

  * `_cdtp_client_map_pop` clears its slot WITHOUT a tombstone, so a probe chain can have holes.  The
    lookups stay right because they do not stop at a hole: `contains`, `get` and `pop` run the same
    do-while loop over the whole cycle (`clientMapFind`).
  * `_cdtp_client_map_set` and the rehash in `_cdtp_client_map_resize` look for a free slot with a
    while loop that nothing bounds.  It is `CyclicScan.skipBusy`, and an operation whose loop never
    ends returns `none`.
  * `set` and `pop` call `_cdtp_client_map_try_resize` first — `pop` also for an id it will not find.

  A socket is whatever `σ` is: the map stores the pointer (`none` is NULL) and never looks through it.
  `size_t` values are `Nat`: `size` counts live heap nodes of 24 bytes each, so with the allocations
  succeeding (the source checks no `malloc`) it stays far below `2 ^ 60`, and neither `size * 4` nor
  `capacity * 2` reaches `2 ^ 64`.
-/
import Mathlib.Tactic.Ring
import Cdtp.Lib.CyclicScan
import Cdtp.Lib.SlotTable

namespace Cdtp

/-- `SIZE_MAX` of a 64-bit `size_t`. -/
def SIZE_MAX : Nat := 2 ^ 64 - 1

/-- Minimum capacity of a client map. -/
def CDTP_MAP_MIN_CAPACITY : Nat := 16

/-- Starting capacity of a client map. -/
def CDTP_MAP_START_CAPACITY : Nat := CDTP_MAP_MIN_CAPACITY

/-! ## Data -/

/-- `CDTPClientMapNode`; `sock = none` is the NULL pointer. -/
structure ClientMapNode (σ : Type) where
  allocated : Bool
  clientId : Nat
  sock : Option σ
  deriving DecidableEq, Repr

/-- `CDTPClientMap`. -/
structure ClientMap (σ : Type) where
  size : Nat
  capacity : Nat
  nodes : List (ClientMapNode σ)
  deriving DecidableEq, Repr

/-- `CDTPClientMapIterNode`. -/
structure ClientMapIterNode (σ : Type) where
  clientId : Nat
  sock : Option σ
  deriving DecidableEq, Repr

/-- `CDTPClientMapIter`; `clients` holds the entries that were written. -/
structure ClientMapIter (σ : Type) where
  size : Nat
  clients : List (ClientMapIterNode σ)
  deriving DecidableEq, Repr

variable {σ : Type}

/-- `_cdtp_client_map_node`: a fresh node. -/
def clientMapNode : ClientMapNode σ := { allocated := false, clientId := SIZE_MAX, sock := none }

/-- `map->nodes[i]`. -/
def ClientMap.node (m : ClientMap σ) (i : Nat) : ClientMapNode σ := m.nodes.getD i clientMapNode

/-- `*map->nodes[i] = node`. -/
def ClientMap.setNode (m : ClientMap σ) (i : Nat) (node : ClientMapNode σ) : ClientMap σ :=
  { m with nodes := m.nodes.set i node }

@[simp] theorem ClientMap.setNode_size (m : ClientMap σ) (i : Nat) (node : ClientMapNode σ) :
    (m.setNode i node).size = m.size := rfl
@[simp] theorem ClientMap.setNode_capacity (m : ClientMap σ) (i : Nat) (node : ClientMapNode σ) :
    (m.setNode i node).capacity = m.capacity := rfl
@[simp] theorem ClientMap.setNode_nodes (m : ClientMap σ) (i : Nat) (node : ClientMapNode σ) :
    (m.setNode i node).nodes = m.nodes.set i node := rfl

/-! ## The operations -/

/-- A table of fresh nodes, as `_cdtp_client_map` and `_cdtp_client_map_resize` allocate it. -/
def ClientMap.fresh (size capacity : Nat) : ClientMap σ :=
  { size := size, capacity := capacity, nodes := List.replicate capacity clientMapNode }

/-- `_cdtp_client_map`: the empty map. -/
def clientMap : ClientMap σ := ClientMap.fresh 0 CDTP_MAP_START_CAPACITY

/-- `_cdtp_client_map_hash`. -/
def clientMapHash (m : ClientMap σ) (key : Nat) : Nat := key % m.capacity

/-- The while loop of `set` and of the rehash: the first unallocated slot from `clientId`'s hash, if
    the loop gets there within `fuel` tests. -/
def clientMapFreeSlot (fuel : Nat) (m : ClientMap σ) (clientId : Nat) : Option Nat :=
  CyclicScan.skipBusy (fun i => (m.node i).allocated) m.capacity fuel (clientMapHash m clientId)

/-- One turn of the rehash loop: move an old node into the new table. -/
def clientMapRehash (fuel : Nat) (m : ClientMap σ) (old : ClientMapNode σ) :
    Option (ClientMap σ) :=
  if old.allocated then
    (clientMapFreeSlot fuel m old.clientId).map fun hash =>
      m.setNode hash { allocated := true, clientId := old.clientId, sock := old.sock }
  else some m

/-- `_cdtp_client_map_resize` with `fuel` tests allowed to each inner loop. -/
def clientMapResizeWithin (fuel : Nat) (m : ClientMap σ) (newCapacity : Nat) :
    Option (ClientMap σ) :=
  m.nodes.foldlM (clientMapRehash fuel) (ClientMap.fresh m.size newCapacity)

/-- `_cdtp_client_map_resize`; `none` if an inner loop never ends (a loop that ends at all ends within
    `newCapacity` tests, `clientMapFreeSlot_stops_iff`). -/
def clientMapResize (m : ClientMap σ) (newCapacity : Nat) : Option (ClientMap σ) :=
  clientMapResizeWithin newCapacity m newCapacity

/-- `_cdtp_client_map_resize_up`. -/
def clientMapResizeUp (m : ClientMap σ) : Option (ClientMap σ) := clientMapResize m (m.capacity * 2)

/-- `_cdtp_client_map_resize_down`. -/
def clientMapResizeDown (m : ClientMap σ) : Option (ClientMap σ) :=
  clientMapResize m (m.capacity / 2)

/-- `_cdtp_client_map_try_resize`, with its return code. -/
def clientMapTryResize (m : ClientMap σ) : Option (Int × ClientMap σ) :=
  if m.size ≥ m.capacity then (clientMapResizeUp m).map fun m' => (1, m')
  else if m.capacity > CDTP_MAP_MIN_CAPACITY ∧ m.size * 4 ≤ m.capacity then
    (clientMapResizeDown m).map fun m' => (-1, m')
  else some (0, m)

/-- The do-while loop shared by `contains`, `get` and `pop`: the slot that holds `clientId`. -/
def clientMapFind (m : ClientMap σ) (clientId : Nat) : Option Nat :=
  CyclicScan.scanCycle (fun i => (m.node i).allocated && (m.node i).clientId == clientId) m.capacity
    (clientMapHash m clientId) m.capacity (clientMapHash m clientId)

/-- `_cdtp_client_map_contains`. -/
def clientMapContains (m : ClientMap σ) (clientId : Nat) : Bool := (clientMapFind m clientId).isSome

/-- `_cdtp_client_map_get`. -/
def clientMapGet (m : ClientMap σ) (clientId : Nat) : Option σ :=
  match clientMapFind m clientId with
  | some hash => (m.node hash).sock
  | none => none

/-- `_cdtp_client_map_set`; `none` if it never returns. -/
def clientMapSet (m : ClientMap σ) (clientId : Nat) (sock : Option σ) :
    Option (Bool × ClientMap σ) :=
  if clientMapContains m clientId then some (false, m)
  else do
    let (_, m) ← clientMapTryResize m
    let hash ← clientMapFreeSlot m.capacity m clientId
    let m := m.setNode hash { allocated := true, clientId := clientId, sock := sock }
    some (true, { m with size := m.size + 1 })

/-- `_cdtp_client_map_pop`; `none` if it never returns. -/
def clientMapPop (m : ClientMap σ) (clientId : Nat) : Option (Option σ × ClientMap σ) := do
  let (_, m) ← clientMapTryResize m
  match clientMapFind m clientId with
  | some hash =>
    let sock := (m.node hash).sock
    let m := m.setNode hash { allocated := false, clientId := SIZE_MAX, sock := none }
    some (sock, { m with size := m.size - 1 })
  | none => some (none, m)

/-- `_cdtp_client_map_iter`: the allocated slots, in slot order. -/
def clientMapIter (m : ClientMap σ) : ClientMapIter σ :=
  { size := m.size
    clients := m.nodes.filterMap fun node =>
      if node.allocated then some { clientId := node.clientId, sock := node.sock } else none }

/-! ## The map as a slot table -/

/-- What a node stores. -/
def ClientMapNode.content (node : ClientMapNode σ) : Option (Nat × Option σ) :=
  if node.allocated then some (node.clientId, node.sock) else none

@[simp] theorem clientMapNode_content : (clientMapNode : ClientMapNode σ).content = none := rfl

theorem ClientMapNode.content_eq_none_iff {node : ClientMapNode σ} :
    node.content = none ↔ node.allocated = false := by
  rw [content]
  split <;> simp_all

theorem ClientMapNode.content_eq_some_iff {node : ClientMapNode σ} {id : Nat} {p : Option σ} :
    node.content = some (id, p) ↔
      node.allocated = true ∧ node.clientId = id ∧ node.sock = p := by
  rw [content]
  split <;> simp_all

/-- The (id, socket) pairs of the map, in slot order. -/
def ClientMap.entries (m : ClientMap σ) : List (Nat × Option σ) :=
  SlotTable.entries ClientMapNode.content m.nodes

@[simp] theorem ClientMap.fresh_entries (size capacity : Nat) :
    (ClientMap.fresh size capacity : ClientMap σ).entries = [] :=
  SlotTable.entries_replicate clientMapNode_content capacity

/-- There are as many entries as allocated slots. -/
theorem ClientMap.entries_length (m : ClientMap σ) :
    m.entries.length = m.nodes.countP (·.allocated) := by
  rw [entries, SlotTable.entries, List.length_filterMap_eq_countP]
  refine List.countP_congr ?_
  intro node _
  rw [Option.isSome_iff_ne_none, ne_eq, ClientMapNode.content_eq_none_iff, Bool.not_eq_false]

/-- The iterator lists the entries. -/
theorem clientMapIter_clients (m : ClientMap σ) :
    (clientMapIter m).clients.map (fun c => (c.clientId, c.sock)) = m.entries := by
  rw [clientMapIter, ClientMap.entries, SlotTable.entries, List.map_filterMap]
  congr 1
  funext node
  rw [ClientMapNode.content]
  split <;> rfl

theorem clientMapHash_lt {m : ClientMap σ} (hcap : 0 < m.capacity) (key : Nat) :
    clientMapHash m key < m.capacity :=
  Nat.mod_lt key hcap

theorem ClientMap.node_eq {m : ClientMap σ} {i : Nat} (hi : i < m.nodes.length) :
    m.node i = m.nodes[i] := by
  rw [node, List.getD_eq_getElem?_getD, List.getElem?_eq_getElem hi, Option.getD_some]

/-- The while loop for a free slot ends iff an unallocated slot exists, and then within `capacity`
    tests. -/
theorem clientMapFreeSlot_stops_iff {m : ClientMap σ} (hcap : 0 < m.capacity) (clientId : Nat) :
    (∃ fuel, clientMapFreeSlot fuel m clientId ≠ none) ↔
      ∃ j < m.capacity, (m.node j).allocated = false :=
  CyclicScan.skipBusy_stops_iff (clientMapHash_lt hcap clientId)

theorem clientMapFreeSlot_some {m : ClientMap σ} (hcap : 0 < m.capacity) {fuel clientId hash : Nat}
    (h : clientMapFreeSlot fuel m clientId = some hash) :
    hash < m.capacity ∧ (m.node hash).allocated = false :=
  CyclicScan.skipBusy_some fuel _ hash (clientMapHash_lt hcap clientId) h

/-- A table whose array has its capacity and fewer entries than slots gives a free slot. -/
theorem clientMapFreeSlot_of_room {m : ClientMap σ} (hlen : m.nodes.length = m.capacity)
    (hroom : m.entries.length < m.capacity) (clientId : Nat) :
    ∃ hash, clientMapFreeSlot m.capacity m clientId = some hash := by
  rw [← hlen] at hroom
  obtain ⟨j, hj, hfree⟩ := SlotTable.exists_free hroom
  refine CyclicScan.skipBusy_free (clientMapHash_lt (by omega) clientId) ⟨j, by omega, ?_⟩
  rw [ClientMap.node_eq hj]
  exact ClientMapNode.content_eq_none_iff.mp hfree

/-- What the lookup loop finds is a slot that stores the id. -/
theorem clientMapFind_some {m : ClientMap σ} (hlen : m.nodes.length = m.capacity)
    {clientId hash : Nat} (h : clientMapFind m clientId = some hash) :
    ∃ hh : hash < m.nodes.length,
      m.nodes[hash].content = some (clientId, (m.node hash).sock) := by
  have hcap : 0 < m.capacity := by
    by_contra hzero
    rw [clientMapFind, Nat.eq_zero_of_not_pos hzero] at h
    exact absurd h (by simp [CyclicScan.scanCycle])
  obtain ⟨hlt, hhit⟩ := CyclicScan.scanCycle_some (clientMapHash_lt hcap clientId) h
  have hh : hash < m.nodes.length := by omega
  refine ⟨hh, ?_⟩
  rw [ClientMap.node_eq hh] at hhit ⊢
  rw [Bool.and_eq_true, beq_iff_eq] at hhit
  exact ClientMapNode.content_eq_some_iff.mpr ⟨hhit.1, hhit.2, rfl⟩

/-- The lookup loop fails iff no slot stores the id. -/
theorem clientMapFind_eq_none_iff {m : ClientMap σ} (hlen : m.nodes.length = m.capacity)
    {clientId : Nat} :
    clientMapFind m clientId = none ↔ ∀ p, (clientId, p) ∉ m.entries := by
  rcases Nat.eq_zero_or_pos m.capacity with hzero | hcap
  · -- a table without slots finds nothing and stores nothing
    have hnil : m.nodes = [] := List.length_eq_zero_iff.mp (hlen.trans hzero)
    refine ⟨fun _ p hp => ?_, fun _ => by rw [clientMapFind, hzero]; rfl⟩
    rw [ClientMap.entries, hnil] at hp
    exact absurd hp List.not_mem_nil
  rw [clientMapFind, CyclicScan.scanCycle_eq_none_iff (clientMapHash_lt hcap clientId)]
  constructor
  · intro h p hp
    obtain ⟨i, hi, hc⟩ := SlotTable.mem_entries_iff.mp hp
    obtain ⟨hal, hid, -⟩ := ClientMapNode.content_eq_some_iff.mp hc
    have hmiss := h i (by omega)
    rw [ClientMap.node_eq hi, hal, hid] at hmiss
    exact absurd hmiss (by simp)
  · intro h j hj
    have hj' : j < m.nodes.length := by omega
    rw [ClientMap.node_eq hj', Bool.and_eq_false_iff, beq_eq_false_iff_ne]
    by_cases hal : m.nodes[j].allocated = true
    · refine Or.inr fun hid => h m.nodes[j].sock (SlotTable.mem_entries_iff.mpr ⟨j, hj', ?_⟩)
      exact ClientMapNode.content_eq_some_iff.mpr ⟨hal, hid, rfl⟩
    · exact Or.inl (by simpa using hal)

end Cdtp
