/-
  The loop of `cdtp_server_stop` over the clients: emptying the map through a snapshot of it.

  The loop walks a list that was fixed before it started, and each of its pops may rehash the table that
  the list was read from.  What relates the two is the partial map: the ids still ahead are bound to the
  sockets the list gives them (`Clients.get_pop_of_nodup`), whatever slots they sit in by now.  At the
  end nothing is bound, and the occupancy bound leaves an empty table no capacity but 16.

  `stopRounds` is the loop with every `close` succeeding.  `closeClients_stopRounds` connects it to the
  loop of `ServerState.stop`, which also knows the closes that fail.
-/
import Cdtp.ServerStop

namespace Cdtp

variable {σ : Type}

/-! ## The loop -/

/-- What a round of the loop did: it closed the socket that the snapshot lists, and freed the client that
    the pop returned. -/
structure StopRound (σ : Type) where
  clientId : Nat
  closed : σ
  freed : σ

/-- Round `i` of the loop; `none` if the pop never returns, or if the round follows a NULL pointer. -/
def stopRound (it : ClientMapIter σ) (m : ClientMap σ) (i : Nat) :
    Option (StopRound σ × ClientMap σ) := do
  let listed ← it.clients[i]?
  let sock ← listed.sock
  let (client, m) ← clientMapPop m listed.clientId
  let client ← client
  some ({ clientId := listed.clientId, closed := sock, freed := client }, m)

/-- The loop of `cdtp_server_stop` over a snapshot of `m`. -/
def stopRounds (m : ClientMap σ) : Option (List (StopRound σ) × ClientMap σ) :=
  Runs.answers (stopRound (clientMapIter m)) m (List.range (clientMapIter m).size)

/-- The loop has emptied `m`, which is `m'` now: every pop returned the socket that the snapshot lists,
    every client was closed and freed once, and the table is back at its starting capacity. -/
structure Drained (m m' : ClientMap σ) (rounds : List (StopRound σ)) : Prop where
  closed : rounds.map (fun r => { clientId := r.clientId, sock := some r.closed })
    = (clientMapIter m).clients
  popped : rounds.map (fun r => { clientId := r.clientId, sock := some r.freed })
    = (clientMapIter m).clients
  clients : ∀ id sock, clientMapGet m id = some sock ↔
    { clientId := id, closed := sock, freed := sock } ∈ rounds
  once : (rounds.map (·.clientId)).Nodup
  /-- a socket that is nobody else's is closed once, and freed once -/
  sockets : (∀ id id' sock, clientMapGet m id = some sock → clientMapGet m id' = some sock →
    id = id') → (rounds.map (·.closed)).Nodup ∧ (rounds.map (·.freed)).Nodup
  size : m'.size = 0
  unallocated : ∀ i < m'.capacity, (m'.node i).allocated = false
  capacity : m'.capacity = CDTP_MAP_START_CAPACITY

/-! ## The rounds -/

section Rounds

/-- A pair of the partial map, as the snapshot lists it. -/
def listedNode (x : Nat × σ) : ClientMapIterNode σ := { clientId := x.1, sock := some x.2 }

/-- The round in which a pair of the snapshot is closed, popped and freed. -/
def roundOf (x : Nat × σ) : StopRound σ := { clientId := x.1, closed := x.2, freed := x.2 }

theorem Clients.iter_listed (c : Clients σ) :
    (clientMapIter c.map).clients = c.iter.map listedNode := by
  have hnonNull : ∀ n ∈ (clientMapIter c.map).clients, n.sock ≠ none := by
    intro n hn
    refine c.nonNull n.clientId n.sock ?_
    rw [← clientMapIter_clients]
    exact List.mem_map_of_mem hn
  rw [Clients.iter]
  generalize (clientMapIter c.map).clients = listed at hnonNull
  induction listed with
  | nil => rfl
  | cons n listed ih =>
    obtain ⟨sock, hsock⟩ := Option.ne_none_iff_exists'.mp (hnonNull n List.mem_cons_self)
    rw [List.filterMap_cons, hsock, Option.map_some, List.map_cons,
      ← ih fun n' hn' => hnonNull n' (List.mem_cons_of_mem n hn'), listedNode, ← hsock]

theorem Clients.iter_size (c : Clients σ) : (clientMapIter c.map).size = c.iter.length := by
  have hlen := congrArg List.length c.iter_listed
  rw [List.length_map] at hlen
  rw [← hlen]
  exact (mapRel_iter c.rel).2.1

/-- One round, for a client that is listed with the socket it is bound to. -/
theorem stopRound_eq {it : ClientMapIter σ} {c : Clients σ} {i : Nat} {x : Nat × σ}
    (hlisted : it.clients[i]? = some (listedNode x)) (hget : c.get x.1 = some x.2) :
    stopRound it c.map i = some (roundOf x, (c.pop x.1).2.map) := by
  have hpop := (c.pop_spec x.1).1
  rw [c.pop_fst, hget] at hpop
  simp [stopRound, hlisted, listedNode, hpop, roundOf]

/-- **The loop from round `k` on**, with `xs` still ahead of it in the snapshot. -/
theorem stopRounds_from (it : ClientMapIter σ) : ∀ (xs : List (Nat × σ)) (k : Nat) (c : Clients σ),
    it.clients.drop k = xs.map listedNode → (xs.map Prod.fst).Nodup →
    (∀ x ∈ xs, c.get x.1 = some x.2) →
    Runs.answers (stopRound it) c.map (List.range' k xs.length)
      = some (xs.map roundOf, (c.popAll (xs.map Prod.fst)).map) := by
  intro xs
  induction xs with
  | nil => intro k c _ _ _; rfl
  | cons x xs ih =>
    intro k c hahead hnodup hmem
    have hlisted : it.clients[k]? = some (listedNode x) := by
      have hhead := congrArg (fun l => l[0]?) hahead
      simpa using hhead
    have hahead' : it.clients.drop (k + 1) = xs.map listedNode := by
      rw [← List.tail_drop, hahead, List.map_cons, List.tail_cons]
    have hpop := Clients.get_pop_of_nodup hnodup hmem
    rw [List.map_cons, List.nodup_cons] at hnodup
    have hround := stopRound_eq hlisted (hmem x List.mem_cons_self)
    have hrest := ih (k + 1) (c.pop x.1).2 hahead' hnodup.2 hpop
    rw [List.length_cons, List.range'_succ]
    simp [Runs.answers, hround, hrest, Clients.popAll]

/-- **The loop of `cdtp_server_stop`** over any map closes, pops and frees what the snapshot lists. -/
theorem stopRounds_eq (c : Clients σ) :
    stopRounds c.map
      = some (c.iter.map roundOf, (c.popAll (c.iter.map Prod.fst)).map) := by
  rw [stopRounds, c.iter_size, List.range_eq_range']
  refine stopRounds_from (clientMapIter c.map) c.iter 0 c ?_ c.iter_nodup ?_
  · rw [List.drop_zero]
    exact c.iter_listed
  · intro x hx
    exact c.mem_iter_iff.mp hx

end Rounds

/-! ## The table at the end -/

/-- **An empty table has the starting capacity**: the occupancy bound allows no other. -/
theorem ClientMap.WF.of_no_entries {m : ClientMap σ} (h : m.WF) (hnone : m.entries = []) :
    m.size = 0 ∧ (∀ i < m.capacity, (m.node i).allocated = false) ∧
      m.capacity = CDTP_MAP_START_CAPACITY := by
  have hsize : m.size = 0 := by rw [h.size_eq, hnone]; rfl
  refine ⟨hsize, ?_, ?_⟩
  · intro i hi
    rw [← h.length] at hi
    rw [ClientMap.node_eq hi, ← ClientMapNode.content_eq_none_iff]
    rcases hcontent : m.nodes[i].content with _ | ⟨id, p⟩
    · rfl
    · have hmem : (id, p) ∈ m.entries := SlotTable.mem_entries_iff.mpr ⟨i, hi, hcontent⟩
      rw [hnone] at hmem
      exact absurd hmem List.not_mem_nil
  · have hmin := h.min_le_capacity
    have hocc := h.occupancy
    have h16 : CDTP_MAP_MIN_CAPACITY = 16 := rfl
    rw [CDTP_MAP_START_CAPACITY]
    omega

theorem Clients.no_entries {c : Clients σ} (hnone : ∀ id, c.get id = none) :
    c.map.entries = [] := by
  rw [List.eq_nil_iff_forall_not_mem]
  rintro ⟨id, p⟩ hp
  exact c.rel.not_mem (hnone id) p hp

/-- What the loop leaves of any map. -/
theorem Clients.drained (c : Clients σ) :
    Drained c.map (c.popAll (c.iter.map Prod.fst)).map (c.iter.map roundOf) := by
  obtain ⟨hsize, hfree, hcap⟩ :=
    (c.popAll (c.iter.map Prod.fst)).wf.of_no_entries (Clients.no_entries c.get_popAll_iter)
  have hlisted : (c.iter.map roundOf).map (fun r => listedNode (r.clientId, r.closed))
      = (clientMapIter c.map).clients := by
    rw [c.iter_listed, List.map_map]
    rfl
  have honce : ((c.iter.map roundOf).map (·.clientId)).Nodup := by
    rw [List.map_map]
    exact c.iter_nodup
  refine ⟨hlisted, ?_, ?_, honce, ?_, hsize, hfree, hcap⟩
  · show (c.iter.map roundOf).map (fun r => listedNode (r.clientId, r.freed)) = _
    rw [← hlisted, List.map_map, List.map_map]
    rfl
  · intro id sock
    show c.get id = some sock ↔ roundOf (id, sock) ∈ c.iter.map roundOf
    rw [← c.mem_iter_iff]
    constructor
    · exact fun hmem => List.mem_map_of_mem hmem
    · intro hmem
      obtain ⟨x, hx, heq⟩ := List.mem_map.mp hmem
      rw [roundOf, roundOf, StopRound.mk.injEq] at heq
      have hsame : x = (id, sock) := Prod.ext heq.1 heq.2.1
      exact hsame ▸ hx
  · intro hdistinct
    have hnodup : (c.iter.map Prod.snd).Nodup := by
      refine List.Nodup.map_on ?_ (List.Nodup.of_map Prod.fst c.iter_nodup)
      intro x hx y hy hxy
      have hx' := c.mem_iter_iff.mp hx
      have hy' := c.mem_iter_iff.mp hy
      rw [hxy] at hx'
      exact Prod.ext (hdistinct x.1 y.1 y.2 hx' hy') hxy
    rw [List.map_map, List.map_map]
    exact ⟨hnodup, hnodup⟩

/-- **Emptying a map through its snapshot is exact**, for every map that a sequence of calls reaches from
    `_cdtp_client_map()`, although each pop may rehash the table. -/
theorem clientMap_drained (calls : List (MapCall σ)) :
    ∃ replies m, Runs.answers mapCall clientMap calls = some (replies, m) ∧
      ∃ rounds m', stopRounds m = some (rounds, m') ∧ Drained m m' rounds := by
  obtain ⟨replies, m, f, hrun, -, hrel⟩ := clientMap_refines_partialMap calls
  exact ⟨replies, m, hrun, _, _, stopRounds_eq (Clients.ofRel ⟨f, hrel⟩),
    (Clients.ofRel ⟨f, hrel⟩).drained⟩

/-- Twenty clients whose ids collide, in a table of 32 slots that shrinks under the loop. -/
example : ((Runs.answers mapCall clientMap
      ((List.range 20).map fun i => MapCall.set (16 * i) i)).bind fun r =>
        (stopRounds r.2).map fun d => (r.2.capacity, d.1.length, d.2.capacity))
    = some (32, 20, 16) := by
  decide

/-! ## The loop in `ServerState.stop` -/

/-- With every close succeeding, the loop of `stop` is `stopRounds`: the same closes, and the same table
    at the end. -/
theorem closeClients_stopRounds {o : StopOutcome} (s : ServerState)
    (hok : ∀ c ∈ s.server.clients.iter, o.closeOk c.1 = true) :
    ∃ rounds clients, stopRounds s.server.clients.map = some (rounds, clients.map) ∧
      s.closeClients o s.server.clients.iter
        = ({ s with
              server := { s.server with clients := clients },
              closes := s.closes ++ rounds.map (·.closed.sock) }, true) := by
  refine ⟨_, _, stopRounds_eq s.server.clients, ?_⟩
  rw [closeClients_ok _ s s.server.clients.iter_nodup
    (fun c hc => s.server.clients.mem_iter_iff.mp hc) hok, List.map_map]
  rfl

end Cdtp
