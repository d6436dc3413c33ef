/-
  The client map refines a finite partial map from ids to sockets.

  1. **Calls.**  `MapCall` and `MapReply` are the five calls of `map.h` and what they return;
     `mapCall` performs one on the table.
  2. **Specification.**  `MapSpec` says which reply a partial map `f : Nat → Option σ` allows, and the
     map it becomes.  It knows nothing of slots, hashes or capacities.  The iterator's order is left
     open: any listing of the bindings, each once.
  3. **Refinement.**  `MapRel` relates a well-formed table to the partial map its entries are the
     graph of.  One call preserves it (`mapCall_refines`), and so does every sequence of calls.

  `Clients` packages a table with its invariant, so that code above the map uses total operations and
  four facts about lookups instead of slots.
-/
import Cdtp.ClientMapSpec
import Cdtp.Lib.Runs

namespace Cdtp

variable {σ : Type}

/-! ## Calls and replies -/

/-- A call of the client map; the socket given to `set` is not NULL. -/
inductive MapCall (σ : Type) where
  | set (clientId : Nat) (sock : σ)
  | get (clientId : Nat)
  | contains (clientId : Nat)
  | pop (clientId : Nat)
  | iter

/-- What a call returns. -/
inductive MapReply (σ : Type) where
  | bool (b : Bool)
  | sock (p : Option σ)
  | iter (it : ClientMapIter σ)
  deriving DecidableEq

/-- One call on the table; `none` if it never returns. -/
def mapCall (m : ClientMap σ) : MapCall σ → Option (MapReply σ × ClientMap σ)
  | .set id sock => (clientMapSet m id (some sock)).map fun r => (.bool r.1, r.2)
  | .get id => some (.sock (clientMapGet m id), m)
  | .contains id => some (.bool (clientMapContains m id), m)
  | .pop id => (clientMapPop m id).map fun r => (.sock r.1, r.2)
  | .iter => some (.iter (clientMapIter m), m)

/-! ## The abstract partial map -/

/-- The replies a partial map allows, and what it becomes. -/
def MapSpec (f : Nat → Option σ) : MapCall σ → MapReply σ → (Nat → Option σ) → Prop
  | .set id sock, .bool b, f' =>
    (f id = none ∧ b = true ∧ f' = Function.update f id (some sock)) ∨
      (f id ≠ none ∧ b = false ∧ f' = f)
  | .get id, .sock p, f' => p = f id ∧ f' = f
  | .contains id, .bool b, f' => b = (f id).isSome ∧ f' = f
  | .pop id, .sock p, f' => p = f id ∧ f' = Function.update f id none
  | .iter, .iter it, f' =>
    f' = f ∧ it.size = it.clients.length ∧ it.clients.Nodup ∧
      ∀ id p, { clientId := id, sock := p } ∈ it.clients ↔ ∃ s, p = some s ∧ f id = some s
  | _, _, _ => False

/-- The table is well formed and its entries are the graph of `f`. -/
def MapRel (m : ClientMap σ) (f : Nat → Option σ) : Prop :=
  m.WF ∧ SlotTable.Represents m.entries (fun id => (f id).map some)

/-! ## One call refines -/

section Refinement

variable {m : ClientMap σ} {f : Nat → Option σ}

/-- A new table stores the empty map. -/
theorem mapRel_clientMap : MapRel (clientMap : ClientMap σ) (fun _ => none) :=
  ⟨clientMap_wf, by rw [clientMap, ClientMap.fresh_entries]; exact SlotTable.Represents.empty⟩

/-- What is in the table is what the map says. -/
theorem MapRel.mem_iff (h : MapRel m f) {id : Nat} {p : Option σ} :
    (id, p) ∈ m.entries ↔ ∃ s, p = some s ∧ f id = some s := by
  rw [h.2.2 id p, Option.map_eq_some_iff]
  exact ⟨fun ⟨s, hs, hp⟩ => ⟨s, hp.symm, hs⟩, fun ⟨s, hp, hs⟩ => ⟨s, hs, hp.symm⟩⟩

/-- A value of the map is in the table … -/
theorem MapRel.mem (h : MapRel m f) {id : Nat} {s : σ} (hs : f id = some s) :
    (id, some s) ∈ m.entries :=
  h.mem_iff.mpr ⟨s, rfl, hs⟩

/-- … and where the map has none the table has nothing, not even NULL. -/
theorem MapRel.not_mem (h : MapRel m f) {id : Nat} (hno : f id = none) (p : Option σ) :
    (id, p) ∉ m.entries := by
  intro hp
  obtain ⟨s, -, hs⟩ := h.mem_iff.mp hp
  rw [hno] at hs
  exact absurd hs (by simp)

/-- An update, seen through `some`. -/
theorem update_map_some (f : Nat → Option σ) (id : Nat) (v : Option σ) :
    (fun i => (Function.update f id v i).map some)
      = Function.update (fun i => (f i).map some) id (v.map some) := by
  funext i
  by_cases hi : i = id
  · subst hi
    rw [Function.update_self, Function.update_self]
  · rw [Function.update_of_ne hi, Function.update_of_ne hi]

/-- **`set`** stores the pair, and says whether it was new. -/
theorem mapRel_set (h : MapRel m f) (id : Nat) (sock : σ) :
    ∃ b m' f', clientMapSet m id (some sock) = some (b, m') ∧
      MapSpec f (.set id sock) (.bool b) f' ∧ MapRel m' f' := by
  rcases hf : f id with _ | s
  · obtain ⟨m', hset, hwf, hperm⟩ := clientMapSet_of_not_mem h.1 (h.not_mem hf) (some sock)
    refine ⟨true, m', _, hset, Or.inl ⟨hf, rfl, rfl⟩, hwf, ?_⟩
    rw [update_map_some]
    exact (h.2.bind (by rw [hf]; rfl)).perm hperm
  · exact ⟨false, m, f, clientMapSet_of_mem h.1 (h.mem hf) (some sock),
      Or.inr ⟨by rw [hf]; simp, rfl, rfl⟩, h⟩

/-- **`get`** finds what is stored. -/
theorem mapRel_get (h : MapRel m f) (id : Nat) : clientMapGet m id = f id := by
  rcases hf : f id with _ | s
  · exact clientMapGet_of_not_mem h.1.keyed (h.not_mem hf)
  · exact clientMapGet_of_mem h.1.keyed (h.mem hf)

/-- **`contains`** finds whether anything is. -/
theorem mapRel_contains (h : MapRel m f) (id : Nat) :
    clientMapContains m id = (f id).isSome := by
  rw [Bool.eq_iff_iff, clientMapContains_iff h.1.keyed, Option.isSome_iff_exists]
  constructor
  · rintro ⟨p, hp⟩
    obtain ⟨s, -, hs⟩ := h.mem_iff.mp hp
    exact ⟨s, hs⟩
  · rintro ⟨s, hs⟩
    exact ⟨some s, h.mem hs⟩

/-- **`pop`** takes out what is stored. -/
theorem mapRel_pop (h : MapRel m f) (id : Nat) :
    ∃ m', clientMapPop m id = some (f id, m') ∧ MapRel m' (Function.update f id none) := by
  rcases hf : f id with _ | s
  · -- nothing is unbound, but the table may have shrunk
    obtain ⟨m', hpop, hwf, hperm⟩ := clientMapPop_of_not_mem h.1 (h.not_mem hf)
    refine ⟨m', hpop, hwf, ?_⟩
    rw [← hf, Function.update_eq_self]
    exact h.2.perm hperm
  · obtain ⟨m', hpop, hwf, hperm⟩ := clientMapPop_of_mem h.1 (h.mem hf)
    refine ⟨m', hpop, hwf, ?_⟩
    rw [update_map_some]
    exact (h.2.perm hperm.symm).unbind.2

/-- **The iterator** has every pair once. -/
theorem mapRel_iter (h : MapRel m f) :
    MapSpec f .iter (.iter (clientMapIter m)) f := by
  have hclients := clientMapIter_clients m
  refine ⟨rfl, ?_, ?_, ?_⟩
  · show m.size = _
    rw [h.1.size_eq, ← hclients, List.length_map]
  · refine List.Nodup.of_map (fun c => (c.clientId, c.sock)) ?_
    rw [hclients]
    exact h.2.nodup
  · intro id p
    rw [← h.mem_iff, ← hclients, List.mem_map]
    constructor
    · intro hm
      exact ⟨_, hm, rfl⟩
    · rintro ⟨⟨id', p'⟩, hm, heq⟩
      obtain ⟨rfl, rfl⟩ := Prod.mk.inj heq
      exact hm

/-- **One call**: it returns, with a reply the partial map allows, and the relation is kept. -/
theorem mapCall_refines (m : ClientMap σ) (f : Nat → Option σ) (call : MapCall σ)
    (h : MapRel m f) :
    ∃ r m' f', mapCall m call = some (r, m') ∧ MapSpec f call r f' ∧ MapRel m' f' := by
  cases call with
  | set id sock =>
    obtain ⟨b, m', f', hset, hspec, hrel⟩ := mapRel_set h id sock
    exact ⟨.bool b, m', f', by rw [mapCall, hset]; rfl, hspec, hrel⟩
  | get id => exact ⟨_, m, f, rfl, ⟨mapRel_get h id, rfl⟩, h⟩
  | contains id => exact ⟨_, m, f, rfl, ⟨mapRel_contains h id, rfl⟩, h⟩
  | pop id =>
    obtain ⟨m', hpop, hrel⟩ := mapRel_pop h id
    exact ⟨.sock (f id), m', _, by rw [mapCall, hpop]; rfl, ⟨rfl, rfl⟩, hrel⟩
  | iter => exact ⟨_, m, f, rfl, mapRel_iter h, h⟩

/-- **The client map is a partial map.**  Every sequence of calls from `_cdtp_client_map()` returns,
    and its replies are replies of the empty partial map to the same calls. -/
theorem clientMap_refines_partialMap (calls : List (MapCall σ)) :
    ∃ replies m f, Runs.answers mapCall clientMap calls = some (replies, m) ∧
      Runs.Allowed MapSpec (fun _ => none) calls replies f ∧ MapRel m f :=
  Runs.answers_refine mapCall_refines calls clientMap (fun _ => none) mapRel_clientMap

end Refinement

/-- Colliding ids, `SIZE_MAX` among them, and a pop that leaves a hole in the probe chain. -/
example : (Runs.answers mapCall (clientMap : ClientMap Nat)
    [.set 15 1, .set SIZE_MAX 2, .set 31 3, .pop SIZE_MAX, .get 31, .contains SIZE_MAX]).map
      Prod.fst
    = some [.bool true, .bool true, .bool true, .sock (some 2), .sock (some 3), .bool false] := by
  decide

/-! ## The map with its invariant -/

/-- A client map that satisfies its invariant and stores no NULL. -/
structure Clients (σ : Type) where
  map : ClientMap σ
  wf : map.WF
  nonNull : ∀ id p, (id, p) ∈ map.entries → p ≠ none

namespace Clients

/-- The partial map that the table stores. -/
def get (c : Clients σ) (id : Nat) : Option σ := clientMapGet c.map id

/-- The table stores the map that `get` reads from it. -/
theorem rel (c : Clients σ) : MapRel c.map c.get := by
  refine ⟨c.wf, c.wf.distinct, ?_⟩
  intro id p
  rw [Option.map_eq_some_iff]
  constructor
  · intro hp
    obtain ⟨s, rfl⟩ := Option.ne_none_iff_exists'.mp (c.nonNull id p hp)
    exact ⟨s, clientMapGet_of_mem c.wf.keyed hp, rfl⟩
  · rintro ⟨s, hs, rfl⟩
    by_contra hno
    refine absurd hs ?_
    rw [get, clientMapGet_of_not_mem c.wf.keyed]
    · simp
    · intro p hp
      have hps := clientMapGet_of_mem c.wf.keyed hp
      rw [← get, hs] at hps
      rw [hps] at hno
      exact hno hp

/-- Any table related to a partial map can be packaged. -/
def ofRel {m : ClientMap σ} (h : ∃ f, MapRel m f) : Clients σ where
  map := m
  wf := h.elim fun _ hf => hf.1
  nonNull := by
    obtain ⟨f, hf⟩ := h
    rintro id p hp rfl
    obtain ⟨s, hs, -⟩ := hf.mem_iff.mp hp
    exact absurd hs (by simp)

/-- And no other. -/
theorem get_of_rel {c : Clients σ} {f : Nat → Option σ} (h : MapRel c.map f) : c.get = f :=
  funext (mapRel_get h)

/-- `_cdtp_client_map()`. -/
def empty : Clients σ := ofRel ⟨_, mapRel_clientMap⟩

/-- Nobody is stored yet. -/
@[simp] theorem get_empty (id : Nat) : (empty : Clients σ).get id = none := by
  have h : (empty : Clients σ).get = fun _ => none := get_of_rel mapRel_clientMap
  rw [h]

/-- `_cdtp_client_map_contains`. -/
def contains (c : Clients σ) (id : Nat) : Bool := clientMapContains c.map id

/-- A client is there if `get` finds it. -/
@[simp] theorem contains_eq (c : Clients σ) (id : Nat) : c.contains id = (c.get id).isSome :=
  mapRel_contains c.rel id

/-- `_cdtp_client_map_set`, which always returns. -/
def set (c : Clients σ) (id : Nat) (sock : σ) : Bool × Clients σ :=
  match h : clientMapSet c.map id (some sock) with
  | some (b, m) => (b, ofRel (by
      obtain ⟨b', m', f', hset, -, hrel⟩ := mapRel_set c.rel id sock
      rw [h, Option.some.injEq, Prod.mk.injEq] at hset
      exact ⟨f', hset.2 ▸ hrel⟩))
  | none => (false, c)

/-- `_cdtp_client_map_pop`, which always returns. -/
def pop (c : Clients σ) (id : Nat) : Option σ × Clients σ :=
  match h : clientMapPop c.map id with
  | some (p, m) => (p, ofRel (by
      obtain ⟨m', hpop, hrel⟩ := mapRel_pop c.rel id
      rw [h, Option.some.injEq, Prod.mk.injEq] at hpop
      exact ⟨_, hpop.2 ▸ hrel⟩))
  | none => (none, c)

/-- `_cdtp_client_map_iter`: the snapshot of ids and sockets. -/
def iter (c : Clients σ) : List (Nat × σ) :=
  (clientMapIter c.map).clients.filterMap fun n => n.sock.map fun s => (n.clientId, s)

/-- What `set` does to the table, and to the map. -/
theorem set_spec (c : Clients σ) (id : Nat) (sock : σ) :
    clientMapSet c.map id (some sock) = some ((c.set id sock).1, (c.set id sock).2.map) ∧
      MapSpec c.get (.set id sock) (.bool (c.set id sock).1) (c.set id sock).2.get := by
  obtain ⟨b, m', f', hset, hspec, hrel⟩ := mapRel_set c.rel id sock
  have hmap : (c.set id sock).1 = b ∧ (c.set id sock).2.map = m' := by
    unfold set
    split
    · rename_i b' m'' h
      rw [hset, Option.some.injEq, Prod.mk.injEq] at h
      exact ⟨h.1.symm, h.2.symm⟩
    · rename_i h
      rw [hset] at h
      exact absurd h (by simp)
  refine ⟨by rw [hmap.1, hmap.2]; exact hset, ?_⟩
  rw [← hmap.2] at hrel
  rw [hmap.1, get_of_rel hrel]
  exact hspec

/-- What `pop` does to both. -/
theorem pop_spec (c : Clients σ) (id : Nat) :
    clientMapPop c.map id = some ((c.pop id).1, (c.pop id).2.map) ∧
      (c.pop id).1 = c.get id ∧ (c.pop id).2.get = Function.update c.get id none := by
  obtain ⟨m', hpop, hrel⟩ := mapRel_pop c.rel id
  have hmap : (c.pop id).1 = c.get id ∧ (c.pop id).2.map = m' := by
    unfold pop
    split
    · rename_i p m'' h
      rw [hpop, Option.some.injEq, Prod.mk.injEq] at h
      exact ⟨h.1.symm, h.2.symm⟩
    · rename_i h
      rw [hpop] at h
      exact absurd h (by simp)
  refine ⟨by rw [hmap.1, hmap.2]; exact hpop, hmap.1, ?_⟩
  rw [← hmap.2] at hrel
  exact get_of_rel hrel

/-- A new id is bound, and `set` says so. -/
theorem set_of_none {c : Clients σ} {id : Nat} (h : c.get id = none) (sock : σ) :
    (c.set id sock).1 = true ∧
      (c.set id sock).2.get = Function.update c.get id (some sock) := by
  rcases (c.set_spec id sock).2 with ⟨-, hb, hf⟩ | ⟨hne, -, -⟩
  · exact ⟨hb, hf⟩
  · exact absurd h hne

/-- An id that is taken keeps its socket. -/
theorem set_of_some {c : Clients σ} {id : Nat} (h : c.get id ≠ none) (sock : σ) :
    (c.set id sock).2.get = c.get := by
  rcases (c.set_spec id sock).2 with ⟨hnone, -, -⟩ | ⟨-, -, hget⟩
  · exact absurd hnone h
  · exact hget

/-- An insertion takes nothing away. -/
theorem get_set_of_some {c : Clients σ} {id id' : Nat} {sock new : σ} (h : c.get id = some sock) :
    (c.set id' new).2.get id = some sock := by
  by_cases hfree : c.get id' = none
  · have hne : id ≠ id' := by
      rintro rfl
      rw [hfree] at h
      exact absurd h (by simp)
    rw [(set_of_none hfree new).2, Function.update_of_ne hne]
    exact h
  · rw [set_of_some hfree]
    exact h

/-- After an insertion the id is bound, to the new socket or to an old one. -/
theorem isSome_set {c : Clients σ} {id : Nat} {sock : σ} : ((c.set id sock).2.get id).isSome := by
  by_cases h : c.get id = none
  · rw [(set_of_none h sock).2, Function.update_self]
    rfl
  · rw [set_of_some h, Option.isSome_iff_ne_none]
    exact h

/-- `pop` returns what was stored. -/
@[simp] theorem pop_fst (c : Clients σ) (id : Nat) : (c.pop id).1 = c.get id := (c.pop_spec id).2.1

/-- And then it is gone, and it alone. -/
@[simp] theorem get_pop (c : Clients σ) (id : Nat) :
    (c.pop id).2.get = Function.update c.get id none := (c.pop_spec id).2.2

/-- Both at once. -/
theorem pop_eq (c : Clients σ) (id : Nat) : c.pop id = (c.get id, (c.pop id).2) :=
  Prod.ext (c.pop_fst id) rfl

/-- A pop adds nothing. -/
theorem get_of_get_pop {c : Clients σ} {id id' : Nat} {sock : σ}
    (h : (c.pop id).2.get id' = some sock) : c.get id' = some sock := by
  rw [get_pop] at h
  by_cases hne : id' = id
  · rw [hne, Function.update_self] at h
    exact absurd h (by simp)
  · rw [Function.update_of_ne hne] at h
    exact h

/-- The clients behind the first are still in the map after the first was taken out. -/
theorem get_pop_of_nodup {c : Clients σ} {x : Nat × σ} {rest : List (Nat × σ)}
    (hnodup : ((x :: rest).map Prod.fst).Nodup) (hmem : ∀ y ∈ x :: rest, c.get y.1 = some y.2) :
    ∀ y ∈ rest, (c.pop x.1).2.get y.1 = some y.2 := by
  intro y hy
  have hne : y.1 ≠ x.1 := by
    intro heq
    rw [List.map_cons, List.nodup_cons] at hnodup
    exact hnodup.1 (heq ▸ List.mem_map_of_mem hy)
  rw [get_pop, Function.update_of_ne hne]
  exact hmem y (List.mem_cons_of_mem x hy)

/-- `_cdtp_client_map_pop` of one id after the other. -/
def popAll (c : Clients σ) : List Nat → Clients σ
  | [] => c
  | id :: ids => popAll (c.pop id).2 ids

/-- A list of ids popped: they are gone, and all others are where they were. -/
theorem get_popAll (ids : List Nat) : ∀ (c : Clients σ) (id : Nat),
    (c.popAll ids).get id = if id ∈ ids then none else c.get id := by
  induction ids with
  | nil => intro c id; rw [popAll, if_neg List.not_mem_nil]
  | cons first ids ih =>
    intro c id
    rw [popAll, ih]
    by_cases hrest : id ∈ ids
    · rw [if_pos hrest, if_pos (List.mem_cons_of_mem first hrest)]
    · rw [if_neg hrest, get_pop]
      by_cases heq : id = first
      · rw [heq, Function.update_self, if_pos List.mem_cons_self]
      · rw [Function.update_of_ne heq, if_neg]
        rw [List.mem_cons]
        rintro (h | h)
        · exact heq h
        · exact hrest h

/-- The iterator has the pairs that `get` finds. -/
theorem mem_iter_iff (c : Clients σ) {id : Nat} {s : σ} :
    (id, s) ∈ c.iter ↔ c.get id = some s := by
  obtain ⟨-, -, -, hmem⟩ := mapRel_iter c.rel
  rw [iter, List.mem_filterMap]
  constructor
  · rintro ⟨⟨id', p⟩, hn, hp⟩
    obtain ⟨s', rfl, hs'⟩ := (hmem id' p).mp hn
    obtain ⟨rfl, rfl⟩ := Prod.mk.inj (Option.some.inj hp)
    exact hs'
  · intro hs
    exact ⟨⟨id, some s⟩, (hmem id (some s)).mpr ⟨s, rfl, hs⟩, rfl⟩

/-- The snapshot lists every id once. -/
theorem iter_nodup (c : Clients σ) : (c.iter.map Prod.fst).Nodup := by
  have hsub : (c.iter.map Prod.fst).Sublist (c.map.entries.map Prod.fst) := by
    rw [← clientMapIter_clients, iter, List.map_map]
    induction (clientMapIter c.map).clients with
    | nil => exact List.Sublist.slnil
    | cons n ns ih =>
      rw [List.filterMap_cons]
      cases n.sock with
      | none => exact ih.cons _
      | some s => exact ih.cons_cons _
  exact c.wf.distinct.sublist hsub

/-- Popping all the ids of the snapshot leaves nothing in the map. -/
theorem get_popAll_iter (c : Clients σ) (id : Nat) :
    (c.popAll (c.iter.map Prod.fst)).get id = none := by
  rw [get_popAll]
  by_cases hid : id ∈ c.iter.map Prod.fst
  · rw [if_pos hid]
  · rw [if_neg hid]
    by_contra hne
    obtain ⟨s, hs⟩ := Option.ne_none_iff_exists'.mp hne
    exact hid (List.mem_map_of_mem (c.mem_iter_iff.mpr hs))

end Clients

end Cdtp
