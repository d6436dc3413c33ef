/-
  The blocks of a client map: what it allocates, and what it gives back (`map.c`).

  A map is a block, its array is one, and each of its nodes is one.  `_cdtp_client_map_resize` allocates a
  new array and as many new nodes as it has slots, copies what is stored, and then frees the old array:
  the array, but not the nodes it points to, to which nothing points any more.  `_cdtp_client_map_free`
  frees the table that is there in the end.  So a map that has been resized leaves nodes behind.

  `clientMap_leak_exact` says which: the nodes of every table that a resize has replaced, and nothing else
  is left or freed twice.  How many that can be is a question of costs: a resize takes as many insertions
  and removals as make a third of its price (`ClientMap.potential`), and `clientMap_leaks_forever` has
  lives that pay no more than that, with as few clients as one likes and for as long as one likes, and
  that end with an empty map.
-/
import Mathlib.Data.Finset.Card
import Mathlib.Data.Finset.Range
import Cdtp.ClientMapResizing
import Cdtp.Lib.Costs
import Cdtp.Lib.Ownership

namespace Cdtp

open Ownership Costs

variable {σ : Type}

/-! ## The blocks -/

/-- A client map, the block it is, the block of its array, and the blocks of its nodes by slot. -/
structure HeapMap (σ : Type) where
  map : ClientMap σ
  self : Nat
  array : Nat
  nodes : List Nat

/-- A client map iterator: its block, the block of its array, and those of its entries. -/
structure HeapIter where
  size : Nat
  self : Nat
  clients : Nat
  entries : List Nat

/-- `_cdtp_client_map`. -/
def heapClientMap : HeapM (HeapMap σ) := do
  let self ← malloc
  let array ← malloc
  let nodes ← mallocs CDTP_MAP_START_CAPACITY
  pure { map := clientMap, self := self, array := array, nodes := nodes }

/-- `_cdtp_client_map_resize`. -/
def heapClientMapResize (m : HeapMap σ) (newCapacity : Nat) : HeapM (HeapMap σ) := do
  -- `realloc`, to the size that the array has
  free m.array
  let oldNodes ← malloc
  let array ← malloc
  let nodes ← mallocs newCapacity
  free oldNodes
  pure { m with array := array, nodes := nodes }

/-- `_cdtp_client_map_iter`. -/
def heapClientMapIter (m : HeapMap σ) : HeapM HeapIter := do
  let self ← malloc
  let clients ← malloc
  let entries ← mallocs (clientMapIter m.map).clients.length
  pure { size := (clientMapIter m.map).size, self := self, clients := clients, entries := entries }

/-- `_cdtp_client_map_iter_free`. -/
def heapClientMapIterFree (it : HeapIter) : HeapM Unit := do
  frees (it.entries.take it.size)
  free it.clients
  free it.self

/-- `_cdtp_client_map_free`. -/
def heapClientMapFree (m : HeapMap σ) : HeapM Unit := do
  frees (m.nodes.take m.map.capacity)
  free m.array
  free m.self

/-- What a call answers, what it does to the table, and the nodes of the table that it replaces. -/
structure HeapAnswer (σ : Type) where
  reply : MapReply σ
  effect : CallEffect
  replaced : List Nat

/-- What a call does to the blocks: it allocates if it resizes, and the iterator is freed by the one who
    asked for it. -/
def HeapMap.after (m : HeapMap σ) (reply : MapReply σ) (e : CallEffect) (map : ClientMap σ) :
    TableCall σ → HeapM (HeapAnswer σ × HeapMap σ)
  | .iter => do
    let it ← heapClientMapIter m
    heapClientMapIterFree it
    pure ({ reply := reply, effect := e, replaced := [] }, { m with map := map })
  | _ =>
    if e.code = 0 then
      pure ({ reply := reply, effect := e, replaced := [] }, { m with map := map })
    else do
      let resized ← heapClientMapResize m e.capacity
      pure ({ reply := reply, effect := e, replaced := m.nodes }, { resized with map := map })

/-- A call; it faults if it never returns. -/
def heapTableCall (m : HeapMap σ) (call : TableCall σ) : HeapM (HeapAnswer σ × HeapMap σ) :=
  match tableCall m.map call, effectCall m.map call with
  | some (reply, map), some (e, _) => m.after reply e map call
  | _, _ => wild

/-- A map from `_cdtp_client_map` to `_cdtp_client_map_free`. -/
def heapMapLife (calls : List (TableCall σ)) : HeapM (List (HeapAnswer σ) × HeapMap σ) := do
  let m ← heapClientMap
  let r ← answers heapTableCall m calls
  heapClientMapFree r.2
  pure r

/-- How many nodes the table had that a call replaced. -/
def CallEffect.replaced (e : CallEffect) : Nat :=
  if e.code = 1 then e.capacity / 2 else if e.code = -1 then e.capacity * 2 else 0

/-! ## One call -/

section Call

variable {m m' : ClientMap σ} {call : TableCall σ} {e : CallEffect}

/-- The table before and after a call, with its capacity, and with what it stores. -/
inductive CapacityMoved (m m' : ClientMap σ) (e : CallEffect) : Prop
  | keep (hcode : e.code = 0) (hreplaced : e.replaced = 0) (hcap : m'.capacity = m.capacity)
  | grow (hcode : e.code = 1) (hreplaced : e.replaced = m.capacity) (hfull : m.size = m.capacity)
      (hcap : m'.capacity = 2 * m.capacity)
  | shrink (hcode : e.code = -1) (hreplaced : e.replaced = m.capacity)
      (hgt : CDTP_MAP_MIN_CAPACITY < m.capacity) (hquarter : m.capacity = 4 * m.size)
      (hcap : 2 * m'.capacity = m.capacity)

/-- **One call**: it keeps the table, or replaces one that is full or a quarter full. -/
theorem effectCall_capacity (h : m.WF) (hcall : effectCall m call = some (e, m')) :
    CapacityMoved m m' e ∧ m'.capacity = e.capacity ∧ e.changed = changesEntries m call := by
  obtain ⟨c, m₁, r, m₂, hresize, htable, -, -, hcases, hcap, -⟩ := tableCall_spec h call
  simp only [effectCall, hresize, htable, Option.bind_eq_bind, Option.bind_some, Option.some.injEq,
    Prod.mk.injEq] at hcall
  obtain ⟨rfl, rfl⟩ := hcall
  refine ⟨?_, hcap, rfl⟩
  rcases hcases with ⟨rfl, rfl⟩ | hcases
  · exact .keep rfl rfl hcap
  · cases hcases with
    | grow hfull hgrow =>
      refine .grow rfl ?_ hfull (by omega)
      show m₁.capacity / 2 = m.capacity
      omega
    | shrink hgt hquarter hshrink =>
      refine .shrink rfl ?_ hgt (by omega) (by omega)
      show m₁.capacity * 2 = m.capacity
      omega
    | keep hsame hroom hocc =>
      subst hsame
      exact .keep rfl rfl hcap

/-- What has been saved up for the next resize: three for every entry more or less on the way to it. -/
def ClientMap.potential (m : ClientMap σ) : Nat :=
  m.size + (2 * m.size - m.capacity) +
    if m.capacity = CDTP_MAP_MIN_CAPACITY then 0 else 2 * (m.capacity - 2 * m.size)

/-- **A resize is paid for** by the calls before it that changed the entries, three nodes by each. -/
theorem effectCall_potential (h : m.WF) (hcall : effectCall m call = some (e, m')) :
    m'.WF ∧ e.replaced + m'.potential ≤ m.potential + 3 * e.changed.toNat := by
  obtain ⟨hwf, hdesc⟩ := effectCall_describes h hcall
  obtain ⟨hcases, -, -⟩ := effectCall_capacity h hcall
  have hmoved := hdesc.moved
  have hle := h.size_le_capacity
  have hle' := hwf.size_le_capacity
  have hmin := hwf.min_le_capacity
  have hocc := h.occupancy
  have hbool := Bool.toNat_le e.changed
  rw [show CDTP_MAP_MIN_CAPACITY = 16 from rfl] at *
  refine ⟨hwf, ?_⟩
  rw [ClientMap.potential, ClientMap.potential, show CDTP_MAP_MIN_CAPACITY = 16 from rfl]
  cases hcases with
  | keep hcode hreplaced hcap =>
    rw [hreplaced, hcap]
    split_ifs <;> omega
  | grow hcode hreplaced hfull hcap =>
    rw [hreplaced, hcap]
    split_ifs <;> omega
  | shrink hcode hreplaced hgt hquarter hcap =>
    rw [hreplaced]
    split_ifs <;> omega

end Call

/-! ## A whole life -/

section Life

variable {m : HeapMap σ}

/-- The blocks that the map is made of. -/
def HeapMap.blocks (m : HeapMap σ) : Multiset Nat := {m.self} + {m.array} + (m.nodes : Multiset Nat)

theorem heapClientMap_triple : Triple 0 (heapClientMap : HeapM (HeapMap σ)) fun m R =>
    R = m.blocks ∧ m.map = clientMap ∧ m.nodes.length = CDTP_MAP_START_CAPACITY := by
  apply Triple.malloc_then
  intro self
  apply Triple.malloc_then
  intro array
  apply (Triple.mallocs CDTP_MAP_START_CAPACITY).bind
  rintro nodes R ⟨rfl, hlen⟩
  refine Triple.pure ⟨?_, rfl, hlen⟩
  rw [HeapMap.blocks]
  abel

/-- **A resize** gives back the old array, and forgets the old nodes. -/
theorem heapClientMapResize_triple (newCapacity : Nat) :
    Triple m.blocks (heapClientMapResize m newCapacity) fun m' R =>
      R = m'.blocks + (m.nodes : Multiset Nat) ∧ m'.nodes.length = newCapacity := by
  apply Triple.free_then (show m.blocks = {m.array} + ({m.self} + (m.nodes : Multiset Nat)) by
    rw [HeapMap.blocks]; abel)
  apply Triple.malloc_then
  intro oldNodes
  apply Triple.malloc_then
  intro array
  apply (Triple.mallocs newCapacity).bind
  rintro nodes R ⟨rfl, hlen⟩
  apply Triple.free_then (P := {m.self} + {array} + (nodes : Multiset Nat) + (m.nodes : Multiset Nat))
  · abel
  · exact Triple.pure ⟨rfl, hlen⟩

/-- An iterator that lists as many entries as it says is freed whole. -/
theorem heapClientMapIter_triple (h : (clientMapIter m.map).clients.length = (clientMapIter m.map).size)
    {β : Type} {b : β} {P : Multiset Nat} :
    Triple P (do let it ← heapClientMapIter m; heapClientMapIterFree it; pure b) fun b' R =>
      b' = b ∧ R = P := by
  have hiter : Triple 0 (heapClientMapIter m) fun it R =>
      R = {it.self} + {it.clients} + (it.entries : Multiset Nat) ∧ it.entries.length = it.size := by
    apply Triple.malloc_then
    intro self
    apply Triple.malloc_then
    intro clients
    apply (Triple.mallocs (clientMapIter m.map).clients.length).bind
    rintro entries R ⟨rfl, hlen⟩
    refine Triple.pure ⟨?_, by rw [hlen, h]⟩
    abel
  have hfree : ∀ it : HeapIter, it.entries.length = it.size →
      Triple ({it.self} + {it.clients} + (it.entries : Multiset Nat)) (heapClientMapIterFree it)
        fun _ R => R = 0 := by
    intro it hlen
    rw [heapClientMapIterFree, ← hlen, List.take_length]
    apply (Triple.frees it.entries).call (F := {it.clients} + {it.self})
      (show _ = (it.entries : Multiset Nat) + 0 + ({it.clients} + {it.self}) by abel)
    rintro - R rfl
    apply Triple.free_then (P := {it.self}) (by abel)
    exact (Triple.free (P := 0)).mono fun _ _ hR => hR
  apply hiter.call (zero_add P).symm
  rintro it R ⟨rfl, hlen⟩
  apply (hfree it hlen).call rfl
  rintro - R rfl
  exact Triple.pure ⟨rfl, zero_add P⟩

/-- Between two calls: a well-formed table with a node for each slot. -/
structure HeapMap.Kept (m : HeapMap σ) : Prop where
  wf : m.map.WF
  nodes : m.nodes.length = m.map.capacity

/-- Every call returns, with the table that its effect tells of. -/
theorem tableCall_of_effectCall {m m' : ClientMap σ} {call : TableCall σ} {e : CallEffect}
    (h : effectCall m call = some (e, m')) : ∃ reply, tableCall m call = some (reply, m') := by
  simp only [effectCall, Option.bind_eq_bind, Option.bind_eq_some_iff, Option.some.injEq,
    Prod.mk.injEq] at h
  obtain ⟨_, -, ⟨reply, map⟩, htable, -, rfl⟩ := h
  exact ⟨reply, htable⟩

/-- What a call answers and does, and that the nodes it leaves behind are those of the table it replaced. -/
structure HeapAnswer.Of (m : HeapMap σ) (call : TableCall σ) (r : HeapAnswer σ × HeapMap σ)
    (R : Multiset Nat) : Prop where
  kept : r.2.Kept
  reply : tableCall m.map call = some (r.1.reply, r.2.map)
  effect : effectCall m.map call = some (r.1.effect, r.2.map)
  owned : R = r.2.blocks + (r.1.replaced : Multiset Nat)
  replaced : r.1.replaced = if r.1.effect.code = 0 then [] else m.nodes

theorem HeapAnswer.Of.length_replaced {call : TableCall σ} {r : HeapAnswer σ × HeapMap σ}
    {R : Multiset Nat} (h : m.Kept) (hr : HeapAnswer.Of m call r R) :
    r.1.replaced.length = r.1.effect.replaced := by
  obtain ⟨hcases, -, -⟩ := effectCall_capacity h.wf hr.effect
  rw [hr.replaced]
  cases hcases with
  | keep hcode hreplaced =>
    rw [if_pos hcode, hreplaced]
    rfl
  | grow hcode hreplaced =>
    rw [if_neg (by rw [hcode]; decide), hreplaced, h.nodes]
  | shrink hcode hreplaced =>
    rw [if_neg (by rw [hcode]; decide), hreplaced, h.nodes]

/-- **One call**: what it leaves behind are the nodes of the table it replaced. -/
theorem heapTableCall_triple (h : m.Kept) (call : TableCall σ) :
    Triple m.blocks (heapTableCall m call) (HeapAnswer.Of m call) := by
  obtain ⟨e, map, heffect, hwf, -⟩ := effectCall_spec h.wf call
  obtain ⟨reply, htable⟩ := tableCall_of_effectCall heffect
  obtain ⟨hcases, hcap, -⟩ := effectCall_capacity h.wf heffect
  rw [heapTableCall, htable, heffect]
  -- all calls but `iter`, which never resizes
  have hother : Triple m.blocks
      (if e.code = 0 then
        pure ({ reply := reply, effect := e, replaced := [] }, { m with map := map })
      else do
        let resized ← heapClientMapResize m e.capacity
        pure ({ reply := reply, effect := e, replaced := m.nodes }, { resized with map := map }))
      (HeapAnswer.Of m call) := by
    by_cases hcode : e.code = 0
    · rw [if_pos hcode]
      have hsame : map.capacity = m.map.capacity := by
        cases hcases with
        | keep _ _ hcap' => exact hcap'
        | grow hone => exact absurd (hone.symm.trans hcode) (by decide)
        | shrink hone => exact absurd (hone.symm.trans hcode) (by decide)
      exact Triple.pure
        ⟨⟨hwf, h.nodes.trans hsame.symm⟩, htable, heffect, (add_zero _).symm, (if_pos hcode).symm⟩
    · rw [if_neg hcode]
      apply (heapClientMapResize_triple e.capacity).bind
      rintro m' R ⟨rfl, hlen⟩
      exact Triple.pure ⟨⟨hwf, hlen.trans hcap.symm⟩, htable, heffect, rfl, (if_neg hcode).symm⟩
  cases call with
  | iter =>
    have hsame : effectCall m.map .iter
        = some ({ code := 0, capacity := m.map.capacity, size := m.map.size, changed := false }, m.map) :=
      rfl
    rw [hsame, Option.some.injEq, Prod.mk.injEq] at heffect
    obtain ⟨rfl, rfl⟩ := heffect
    have hsize : (clientMapIter m.map).clients.length = (clientMapIter m.map).size := by
      have hlen := congrArg List.length (clientMapIter_clients m.map)
      rw [List.length_map, ← h.wf.size_eq] at hlen
      exact hlen
    apply (heapClientMapIter_triple hsize).mono
    rintro r R ⟨rfl, rfl⟩
    exact ⟨h, htable, rfl, (add_zero _).symm, rfl⟩
  | set id sock => exact hother
  | get id => exact hother
  | contains id => exact hother
  | pop id => exact hother

theorem changes_append (es es' : List CallEffect) : changes (es ++ es') = changes es + changes es' :=
  List.countP_append

theorem changes_singleton (e : CallEffect) : changes [e] = e.changed.toNat := by
  rw [changes_cons]
  rfl

/-- What the calls have answered and left behind so far, and what it has been paid with. -/
structure Leaves (m : HeapMap σ) (calls : List (TableCall σ)) (answers : List (HeapAnswer σ))
    (P : Multiset Nat) : Prop where
  kept : m.Kept
  replies : Runs.answers tableCall clientMap calls = some (answers.map HeapAnswer.reply, m.map)
  effects : Runs.answers effectCall clientMap calls = some (answers.map HeapAnswer.effect, m.map)
  left : P = m.blocks + (answers.flatMap HeapAnswer.replaced : List Nat)
  count : (answers.flatMap HeapAnswer.replaced).length
    = total CallEffect.replaced (answers.map HeapAnswer.effect)
  paid : total CallEffect.replaced (answers.map HeapAnswer.effect) + m.map.potential
    ≤ 3 * changes (answers.map HeapAnswer.effect)

/-- One call more. -/
theorem Leaves.call {calls : List (TableCall σ)} {answers : List (HeapAnswer σ)} {P : Multiset Nat}
    (h : Leaves m calls answers P) (call : TableCall σ) :
    Triple P (heapTableCall m call) fun r R => Leaves r.2 (calls ++ [call]) (answers ++ [r.1]) R := by
  rw [h.left]
  apply ((heapTableCall_triple h.kept call).frame _).mono
  rintro ⟨a, m'⟩ - ⟨R, rfl, hr⟩
  have hlen := hr.length_replaced h.kept
  obtain ⟨-, hpaid⟩ := effectCall_potential h.kept.wf hr.effect
  have hbefore := h.paid
  have hsum : total CallEffect.replaced ((answers ++ [a]).map HeapAnswer.effect)
      = total CallEffect.replaced (answers.map HeapAnswer.effect) + a.effect.replaced := by
    rw [List.map_append, total_append]
    rfl
  have hleft : (answers ++ [a]).flatMap HeapAnswer.replaced
      = answers.flatMap HeapAnswer.replaced ++ a.replaced := by
    rw [List.flatMap_append, List.flatMap_singleton]
  refine ⟨hr.kept, ?_, ?_, ?_, ?_, ?_⟩
  · rw [List.map_append]
    exact answers_append h.replies (Runs.answers_cons_iff.mpr ⟨call, [], m'.map, rfl, hr.reply, rfl⟩)
  · rw [List.map_append]
    exact answers_append h.effects (Runs.answers_cons_iff.mpr ⟨call, [], m'.map, rfl, hr.effect, rfl⟩)
  · rw [hr.owned, hleft, ← Multiset.coe_add]
    abel
  · rw [hleft, List.length_append, h.count, hlen, hsum]
  · rw [hsum, List.map_append, changes_append]
    show _ ≤ 3 * (changes (answers.map HeapAnswer.effect) + changes [a.effect])
    rw [changes_singleton]
    dsimp only at hpaid ⊢
    omega

/-- A map that is freed gives back its blocks. -/
theorem heapClientMapFree_triple (h : m.nodes.length = m.map.capacity) {P : Multiset Nat} :
    Triple (m.blocks + P) (heapClientMapFree m) fun _ R => R = P := by
  rw [heapClientMapFree, ← h, List.take_length]
  apply (Triple.frees m.nodes).call (F := {m.array} + {m.self} + P)
    (show _ = (m.nodes : Multiset Nat) + 0 + ({m.array} + {m.self} + P) by
      rw [HeapMap.blocks]; abel)
  rintro - R rfl
  apply Triple.free_then (P := {m.self} + P) (by abel)
  exact Triple.free

/-- The whole life of a map leaves behind the nodes of the tables that were replaced. -/
theorem heapMapLife_triple (calls : List (TableCall σ)) :
    Triple 0 (heapMapLife calls) fun r R => Leaves r.2 calls r.1 (r.2.blocks + R) := by
  apply heapClientMap_triple.bind
  rintro m - ⟨rfl, hmap, hlen⟩
  have hstart : Leaves m [] [] m.blocks :=
    { kept := ⟨by rw [hmap]; exact clientMap_wf, by rw [hlen, hmap]; rfl⟩
      replies := by rw [hmap]; rfl
      effects := by rw [hmap]; rfl
      left := (add_zero _).symm
      count := rfl
      paid := by rw [hmap]; exact Nat.le_refl 0 }
  have hrun := @Triple.answers _ _ _ heapTableCall Leaves
    (fun _ _ _ _ call h => h.call call) calls m [] [] m.blocks hstart
  apply hrun.bind
  rintro ⟨answers, m'⟩ R hleaves
  -- the table that is there in the end is freed
  have hleft := hleaves.left
  rw [hleft]
  apply (heapClientMapFree_triple hleaves.kept.nodes).bind
  rintro - R rfl
  rw [hleft] at hleaves
  exact Triple.pure hleaves

/-- From an empty heap: the life of a map returns, so that nothing was freed that was not on loan, and
    leaves the nodes of the replaced tables. -/
theorem heapMapLife_run (calls : List (TableCall σ)) :
    ∃ answers m h, heapMapLife calls Heap.empty = some ((answers, m), h) ∧
      h.live.Perm (answers.flatMap HeapAnswer.replaced) ∧ Leaves m calls answers (m.blocks + h.live) := by
  obtain ⟨⟨answers, m⟩, h, hrun, hleaves⟩ := (heapMapLife_triple calls).run
  exact ⟨answers, m, h, hrun, Multiset.coe_eq_coe.mp (add_left_cancel hleaves.left), hleaves⟩

end Life

/-! ## What a map leaves behind -/

/-- **The leak, exactly.**  Over every sequence of calls, from `_cdtp_client_map` to
    `_cdtp_client_map_free`: no block is freed twice, or without having been allocated; every call answers
    what it answers on the table; what is still on loan at the end are the nodes of the tables that a
    resize replaced, as many as these had slots; and that is at most three for each insertion or removal,
    less the clients that are still stored. -/
theorem clientMap_leak_exact (calls : List (TableCall σ)) :
    ∃ answers m h, heapMapLife calls Heap.empty = some ((answers, m), h) ∧
      Runs.answers tableCall clientMap calls = some (answers.map HeapAnswer.reply, m.map) ∧
      Runs.answers effectCall clientMap calls = some (answers.map HeapAnswer.effect, m.map) ∧
      h.live.Perm (answers.flatMap HeapAnswer.replaced) ∧
      h.live.length = total CallEffect.replaced (answers.map HeapAnswer.effect) ∧
      h.live.length + m.map.size ≤ 3 * changes (answers.map HeapAnswer.effect) := by
  obtain ⟨answers, m, h, hrun, hperm, hleaves⟩ := heapMapLife_run calls
  have hlen := hperm.length_eq.trans hleaves.count
  have hpaid := hleaves.paid
  refine ⟨answers, m, h, hrun, hleaves.replies, hleaves.effects, hperm, hlen, ?_⟩
  have hsize : m.map.size ≤ m.map.potential := by
    rw [ClientMap.potential]
    omega
  omega

/-! ## A map that leaks for ever -/

section Forever

variable {m m' : ClientMap σ} {n : Nat}

/-- The ids of a call are at most `n`. -/
def TableCall.Within (n : Nat) : TableCall σ → Prop
  | .set id _ => id ≤ n
  | .get id => id ≤ n
  | .contains id => id ≤ n
  | .pop id => id ≤ n
  | .iter => True

/-- The call meets no more than `n` entries. -/
def CallEffect.Within (n : Nat) (e : CallEffect) : Prop := e.size ≤ n

/-- A well-formed table whose ids are at most `n`. -/
structure ClientMap.Within (m : ClientMap σ) (n : Nat) : Prop where
  wf : m.WF
  ids : ∀ x ∈ m.entries, x.1 ≤ n

/-- From `m` to `m'`, with ids and sizes of at most `n`, leaving `leaked` nodes behind in `changed`
    insertions and removals. -/
abbrev MapTrip (n : Nat) (m m' : ClientMap σ) (leaked changed : Nat) : Prop :=
  Trip effectCall (TableCall.Within n) (CallEffect.Within n) CallEffect.replaced
    (fun e => e.changed.toNat) m m' leaked changed

theorem effectCall_of_tableCall (h : m.WF) {call : TableCall σ} {r : MapReply σ}
    (htable : tableCall m call = some (r, m')) :
    ∃ e, effectCall m call = some (e, m') ∧ e.size = m.size := by
  obtain ⟨c, m₁, r', m'', hresize, hcall, -, hsize, -⟩ := tableCall_spec h call
  rw [htable, Option.some.injEq, Prod.mk.injEq] at hcall
  obtain ⟨rfl, rfl⟩ := hcall
  exact ⟨{ code := c, capacity := m₁.capacity, size := m₁.size, changed := changesEntries m call },
    by simp [effectCall, hresize, htable], hsize⟩

/-- An id that is free. -/
theorem ClientMap.Within.exists_free (h : m.Within n) (hroom : m.size ≤ n) :
    ∃ id ≤ n, ∀ p, (id, p) ∉ m.entries := by
  have hcard : (m.entries.map Prod.fst).toFinset.card < (Finset.range (n + 1)).card := by
    rw [List.toFinset_card_of_nodup h.wf.distinct, List.length_map, ← h.wf.size_eq, Finset.card_range]
    omega
  obtain ⟨id, hid, hno⟩ := Finset.exists_mem_notMem_of_card_lt_card hcard
  rw [List.mem_toFinset] at hno
  refine ⟨id, Nat.lt_succ_iff.mp (Finset.mem_range.mp hid), ?_⟩
  intro p hp
  exact hno (List.mem_map_of_mem hp)

/-- One client more. -/
theorem ClientMap.Within.insert (h : m.Within n) (hroom : m.size ≤ n) (sock : σ) :
    ∃ e m', m'.Within n ∧ m'.size = m.size + 1 ∧ CapacityMoved m m' e ∧
      MapTrip n m m' e.replaced 1 := by
  obtain ⟨id, hid, hno⟩ := h.exists_free hroom
  obtain ⟨m', hset, hwf, hperm⟩ := clientMapSet_of_not_mem h.wf hno (some sock)
  have htable : tableCall m (.set id (some sock)) = some (.bool true, m') := by
    rw [tableCall, hset]
    rfl
  obtain ⟨e, hcall, hsize⟩ := effectCall_of_tableCall h.wf htable
  obtain ⟨hcases, -, hchanged⟩ := effectCall_capacity h.wf hcall
  have hnew : changesEntries m (.set id (some sock)) = true := by
    have habsent : clientMapContains m id = false := by
      rw [Bool.eq_false_iff, ne_eq, clientMapContains_iff h.wf.keyed]
      rintro ⟨p, hp⟩
      exact hno p hp
    rw [changesEntries, habsent]
    rfl
  have hone : e.changed.toNat = 1 := by rw [hchanged, hnew]; rfl
  refine ⟨e, m', ⟨hwf, ?_⟩, ?_, hcases, ?_⟩
  · intro x hx
    rcases List.mem_cons.mp (hperm.mem_iff.mp hx) with rfl | hx
    · exact hid
    · exact h.ids x hx
  · rw [hwf.size_eq, hperm.length_eq, List.length_cons, ← h.wf.size_eq]
  · rw [← hone]
    exact Trip.single hcall hid (show e.size ≤ n by omega)

/-- One client less. -/
theorem ClientMap.Within.remove (h : m.Within n) (hle : m.size ≤ n) (hpos : 0 < m.size) :
    ∃ e m', m'.Within n ∧ m'.size + 1 = m.size ∧ CapacityMoved m m' e ∧
      MapTrip n m m' e.replaced 1 := by
  rw [h.wf.size_eq] at hpos
  obtain ⟨⟨id, p⟩, hp⟩ := List.exists_mem_of_length_pos hpos
  obtain ⟨m', hpop, hwf, hperm⟩ := clientMapPop_of_mem h.wf hp
  have htable : tableCall m (.pop id) = some (.sock p, m') := by
    rw [tableCall, hpop]
    rfl
  obtain ⟨e, hcall, hsize⟩ := effectCall_of_tableCall h.wf htable
  obtain ⟨hcases, -, hchanged⟩ := effectCall_capacity h.wf hcall
  have hold : changesEntries m (.pop id) = true := (clientMapContains_iff h.wf.keyed).mpr ⟨p, hp⟩
  have hone : e.changed.toNat = 1 := by rw [hchanged, hold]; rfl
  refine ⟨e, m', ⟨hwf, ?_⟩, ?_, hcases, ?_⟩
  · intro x hx
    exact h.ids x (hperm.mem_iff.mpr (List.mem_cons_of_mem _ hx))
  · rw [h.wf.size_eq, hperm.length_eq, List.length_cons, ← hwf.size_eq]
  · rw [← hone]
    exact Trip.single hcall (h.ids _ hp) (show e.size ≤ n by omega)

/-- Insertions that fit into the table, behind a resize. -/
theorem ClientMap.Within.inserts (sock : σ) (j : Nat) : ∀ m : ClientMap σ, m.Within n →
    m.size + j ≤ m.capacity → m.size + j ≤ n + 1 →
    (m.capacity = CDTP_MAP_MIN_CAPACITY ∨ m.capacity < 4 * m.size) →
    ∃ m', m'.Within n ∧ m'.size = m.size + j ∧ m'.capacity = m.capacity ∧ MapTrip n m m' 0 j := by
  induction j with
  | zero =>
    intro m h _ _ _
    exact ⟨m, h, rfl, rfl, Trip.refl m⟩
  | succ j ih =>
    intro m h hfit hn hocc
    obtain ⟨e, m₁, h₁, hsize, hcases, htrip⟩ := h.insert (by omega) sock
    cases hcases with
    | keep _ hreplaced hcap =>
      obtain ⟨m', h', hsize', hcap', hrest⟩ := ih m₁ h₁ (by omega) (by omega) (by omega)
      rw [hreplaced] at htrip
      rw [Nat.add_comm j 1]
      exact ⟨m', h', by omega, by omega, htrip.trans hrest⟩
    | grow _ _ hfull => omega
    | shrink _ _ hgt hquarter => omega

/-- Removals that leave more than a quarter of the table in use. -/
theorem ClientMap.Within.removes (j : Nat) : ∀ m : ClientMap σ, m.Within n → m.size < m.capacity →
    m.size ≤ n → m.capacity < 4 * (m.size + 1 - j) →
    ∃ m', m'.Within n ∧ m'.size + j = m.size ∧ m'.capacity = m.capacity ∧ MapTrip n m m' 0 j := by
  induction j with
  | zero =>
    intro m h _ _ _
    exact ⟨m, h, rfl, rfl, Trip.refl m⟩
  | succ j ih =>
    intro m h hroom hn hocc
    obtain ⟨e, m₁, h₁, hsize, hcases, htrip⟩ := h.remove hn (by omega)
    cases hcases with
    | keep _ hreplaced hcap =>
      obtain ⟨m', h', hsize', hcap', hrest⟩ := ih m₁ h₁ (by omega) (by omega) (by omega)
      rw [hreplaced] at htrip
      rw [Nat.add_comm j 1]
      exact ⟨m', h', by omega, by omega, htrip.trans hrest⟩
    | grow _ _ hfull => omega
    | shrink _ _ hgt hquarter => omega

/-- A table for `2 * c` clients that has just grown. -/
structure JustGrown (n c : Nat) (m : ClientMap σ) : Prop where
  within : m.Within n
  size_eq : m.size = c + 1
  capacity_eq : m.capacity = 2 * c

/-- The table grows when it is full. -/
theorem ClientMap.Within.grow (h : m.Within n) (sock : σ) (hfull : m.size = m.capacity)
    (hn : m.size ≤ n) :
    ∃ m', JustGrown n m.capacity m' ∧ MapTrip n m m' m.capacity 1 := by
  obtain ⟨e, m', h', hsize, hcases, htrip⟩ := h.insert hn sock
  have hmin := h.wf.min_le_capacity
  have hmin16 : CDTP_MAP_MIN_CAPACITY = 16 := rfl
  have hle := h'.wf.size_le_capacity
  cases hcases with
  | keep _ _ hcap => omega
  | grow _ hreplaced _ hcap =>
    rw [hreplaced] at htrip
    exact ⟨m', ⟨h', by omega, by omega⟩, htrip⟩
  | shrink _ _ hgt hquarter => omega

/-- **A round**: clients go until the table is halved, and come until it is doubled.  It replaces two
    tables, of `2 * c` and of `c` slots. -/
theorem JustGrown.round {c d : Nat} (sock : σ) (hc : c = 2 * d) (hd : 8 ≤ d) (hn : c + 1 ≤ n)
    (h : JustGrown n c m) : ∃ m', JustGrown n c m' ∧ MapTrip n m m' (3 * c) (c + 4) := by
  have hmin16 : CDTP_MAP_MIN_CAPACITY = 16 := rfl
  have hsize := h.size_eq
  have hcap := h.capacity_eq
  obtain ⟨m₁, h₁, hsize₁, hcap₁, hgoing⟩ :=
    ClientMap.Within.removes (d + 1) m h.within (by omega) (by omega) (by omega)
  -- a quarter is left: the next removal halves the table
  obtain ⟨e, m₂, h₂, hsize₂, hcases, hhalved⟩ := h₁.remove (by omega) (by omega)
  have hhalf : e.replaced = 2 * c ∧ m₂.capacity = c := by
    have hocc := h₂.wf.occupancy
    cases hcases with
    | keep _ _ hkept => omega
    | grow _ _ hfull => omega
    | shrink _ hreplaced _ _ hcap₂ => exact ⟨by omega, by omega⟩
  rw [hhalf.1] at hhalved
  obtain ⟨m₃, h₃, hsize₃, hcap₃, hcoming⟩ :=
    ClientMap.Within.inserts sock (d + 1) m₂ h₂ (by omega) (by omega) (by omega)
  obtain ⟨m₄, h₄, hdoubled⟩ := h₃.grow sock (by omega) (by omega)
  have htrip := ((hgoing.trans hhalved).trans hcoming).trans hdoubled
  have hcap₃' : m₃.capacity = c := by omega
  rw [hcap₃'] at h₄ htrip
  refine ⟨m₄, h₄, ?_⟩
  rw [show 3 * c = 0 + 2 * c + 0 + c by omega, show c + 4 = d + 1 + 1 + (d + 1) + 1 by omega]
  exact htrip

/-- As many clients come as make the table grow `k + 1` times. -/
theorem justGrown_exists (sock : σ) (k : Nat) (hn : 16 * 2 ^ k + 1 ≤ n) :
    ∃ m : ClientMap σ, JustGrown n (16 * 2 ^ k) m ∧
      ∃ leaked, MapTrip n (clientMap : ClientMap σ) m leaked (16 * 2 ^ k + 1) := by
  induction k with
  | zero =>
    have hstart : (clientMap : ClientMap σ).Within n := by
      refine ⟨clientMap_wf, ?_⟩
      intro x hx
      rw [clientMap, ClientMap.fresh_entries] at hx
      exact absurd hx List.not_mem_nil
    have hsize : (clientMap : ClientMap σ).size = 0 := rfl
    have hcap : (clientMap : ClientMap σ).capacity = 16 := rfl
    obtain ⟨m₁, h₁, hsize₁, hcap₁, hcoming⟩ :=
      ClientMap.Within.inserts sock 16 clientMap hstart (by omega) (by omega) (Or.inl hcap)
    obtain ⟨m₂, h₂, hgrown⟩ := h₁.grow sock (by omega) (by omega)
    rw [hcap₁, hcap] at h₂
    exact ⟨m₂, h₂, _, hcoming.trans hgrown⟩
  | succ k ih =>
    rw [Nat.pow_succ] at hn ⊢
    obtain ⟨m, h, leaked, htrip⟩ := ih (by omega)
    have hsize := h.size_eq
    have hcap := h.capacity_eq
    have hpow := Nat.two_pow_pos k
    obtain ⟨m₁, h₁, hsize₁, hcap₁, hcoming⟩ :=
      ClientMap.Within.inserts sock (16 * 2 ^ k - 1) m h.within (by omega) (by omega) (by omega)
    obtain ⟨m₂, h₂, hgrown⟩ := h₁.grow sock (by omega) (by omega)
    have hcap₂ : m₁.capacity = 16 * (2 ^ k * 2) := by omega
    rw [hcap₂] at h₂
    refine ⟨m₂, h₂, leaked + 0 + m₁.capacity, ?_⟩
    rw [show 16 * (2 ^ k * 2) + 1 = 16 * 2 ^ k + 1 + (16 * 2 ^ k - 1) + 1 by omega]
    exact (htrip.trans hcoming).trans hgrown

theorem total_changed (effects : List CallEffect) :
    total (fun e => e.changed.toNat) effects = changes effects := by
  induction effects with
  | nil => rfl
  | cons e effects ih => rw [total_cons, changes_cons, ih]

/-- All clients go. -/
theorem ClientMap.Within.drain (size : Nat) : ∀ m : ClientMap σ, m.Within n → m.size = size → size ≤ n →
    ∃ m' leaked, m'.size = 0 ∧ MapTrip n m m' leaked size := by
  induction size with
  | zero =>
    intro m _ hsize _
    exact ⟨m, 0, hsize, Trip.refl m⟩
  | succ size ih =>
    intro m h hsize hn
    obtain ⟨e, m₁, h₁, hsize₁, -, hgone⟩ := h.remove (by omega) (by omega)
    obtain ⟨m', leaked, hempty, hrest⟩ := ih m₁ h₁ (by omega) (by omega)
    rw [Nat.add_comm size 1]
    exact ⟨m', _, hempty, hgone.trans hrest⟩

/-- **Few clients leak without bound.**  For every table size `c` that the map can have there are lives, of
    any length, that never store more than `c + 1` clients and end with none, and that leave behind `3 * c`
    nodes for every `c + 4` of their insertions and removals, but for the first and the last `c + 1`:
    close to the three for each that are the most. -/
theorem clientMap_leaks_forever (sock : σ) (k rounds : Nat) :
    ∃ (calls : List (TableCall σ)) (answers : List (HeapAnswer σ)) (m : HeapMap σ) (h : Heap),
      heapMapLife calls Heap.empty = some ((answers, m), h) ∧
      (∀ call ∈ calls, call.Within (16 * 2 ^ k + 1)) ∧
      (∀ a ∈ answers, a.effect.Within (16 * 2 ^ k + 1)) ∧
      m.map.size = 0 ∧
      changes (answers.map HeapAnswer.effect)
        = 16 * 2 ^ k + 1 + rounds * (16 * 2 ^ k + 4) + (16 * 2 ^ k + 1) ∧
      rounds * (3 * (16 * 2 ^ k)) ≤ h.live.length := by
  obtain ⟨m₁, h₁, leaked, hcoming⟩ :=
    @justGrown_exists σ (16 * 2 ^ k + 1) sock k (Nat.le_refl _)
  have hpow := Nat.two_pow_pos k
  obtain ⟨m₂, h₂, hrounds⟩ := Trip.rounds (fun m h =>
    JustGrown.round (d := 8 * 2 ^ k) sock (by omega) (by omega) (Nat.le_refl _) h) rounds m₁ h₁
  obtain ⟨m₃, leaked', hempty, hgoing⟩ :=
    ClientMap.Within.drain (16 * 2 ^ k + 1) m₂ h₂.within h₂.size_eq (Nat.le_refl _)
  obtain ⟨calls, effects, hrun, hids, hsizes, hcost, hcredit⟩ := (hcoming.trans hrounds).trans hgoing
  obtain ⟨answers, m, heap, hlife, hperm, hleaves⟩ := heapMapLife_run calls
  have heffects := hleaves.effects
  rw [hrun, Option.some.injEq, Prod.mk.injEq] at heffects
  obtain ⟨rfl, hmap⟩ := heffects
  refine ⟨calls, answers, m, heap, hlife, hids, ?_, hmap ▸ hempty, ?_, ?_⟩
  · intro a ha
    exact hsizes a.effect (List.mem_map_of_mem ha)
  · rw [← total_changed, hcredit]
  · rw [hperm.length_eq, hleaves.count, hcost]
    omega

end Forever

end Cdtp
