/-
  The client map's representation invariant, and one specification lemma for each operation.

  `ClientMap.WF` is what every table reachable from `_cdtp_client_map()` satisfies.  Two of its
  clauses carry the rest.  The ids of the allocated slots are pairwise DISTINCT, so the first hit of
  a full-cycle scan is the only one.  And the OCCUPANCY bound — the capacity is 16 or at most four
  times the size — is what makes the one halving per call enough: a shrink fires exactly at a quarter,
  so the halved table is half full and the entries fit (`clientMapTryResize_spec`).

  Every write is stated on the ENTRIES up to `Perm`: a rehash permutes them, `set` conses a pair, `pop`
  takes one away.  Nothing later looks at slots again.
-/
import Cdtp.ClientMap
import Mathlib.Algebra.Order.Ring.Nat
import Mathlib.Tactic.Ring

namespace Cdtp

variable {σ : Type}

/-! ## The invariant -/

/-- The array has the table's capacity, and its unallocated nodes are blank. -/
structure ClientMap.Shaped (m : ClientMap σ) : Prop where
  length : m.nodes.length = m.capacity
  blank : ∀ node ∈ m.nodes, node.allocated = false → node = clientMapNode

/-- The array has the table's capacity, and no id is stored twice: all that lookups rest on. -/
structure ClientMap.Keyed (m : ClientMap σ) : Prop where
  length : m.nodes.length = m.capacity
  distinct : (m.entries.map Prod.fst).Nodup

/-- The representation invariant of a client map. -/
structure ClientMap.WF (m : ClientMap σ) : Prop extends m.Shaped where
  capacity_pow : ∃ k, m.capacity = CDTP_MAP_MIN_CAPACITY * 2 ^ k
  size_eq : m.size = m.entries.length
  distinct : (m.entries.map Prod.fst).Nodup
  occupancy : m.capacity = CDTP_MAP_MIN_CAPACITY ∨ m.capacity ≤ 4 * m.size

theorem ClientMap.fresh_shaped (size capacity : Nat) :
    (ClientMap.fresh size capacity : ClientMap σ).Shaped where
  length := List.length_replicate
  blank := fun _ hnode _ => List.eq_of_mem_replicate hnode

/-- The new map is well-formed. -/
theorem clientMap_wf : (clientMap : ClientMap σ).WF where
  toShaped := ClientMap.fresh_shaped 0 CDTP_MAP_START_CAPACITY
  capacity_pow := ⟨0, rfl⟩
  size_eq := by rw [clientMap, ClientMap.fresh_entries]; rfl
  distinct := by rw [clientMap, ClientMap.fresh_entries]; exact List.nodup_nil
  occupancy := Or.inl rfl

namespace ClientMap

variable {m : ClientMap σ}

theorem WF.min_le_capacity (h : m.WF) : CDTP_MAP_MIN_CAPACITY ≤ m.capacity := by
  obtain ⟨k, hk⟩ := h.capacity_pow
  rw [hk]
  exact Nat.le_mul_of_pos_right _ (Nat.two_pow_pos k)

theorem WF.capacity_pos (h : m.WF) : 0 < m.capacity :=
  Nat.lt_of_lt_of_le (by decide) h.min_le_capacity

/-- The counter never exceeds the slots. -/
theorem WF.size_le_capacity (h : m.WF) : m.size ≤ m.capacity := by
  rw [h.size_eq, ← h.length]
  exact SlotTable.entries_length_le

theorem WF.keyed (h : m.WF) : m.Keyed := ⟨h.length, h.distinct⟩

/-- An id is stored with one socket only. -/
theorem Keyed.sock_unique (h : m.Keyed) {id : Nat} {p q : Option σ} (hp : (id, p) ∈ m.entries)
    (hq : (id, q) ∈ m.entries) : p = q :=
  congrArg Prod.snd (List.inj_on_of_nodup_map h.distinct hp hq rfl)

/-! ## Writing one node -/

theorem Shaped.setNode (h : m.Shaped) (i : Nat) (node : ClientMapNode σ)
    (hnode : node.allocated = false → node = clientMapNode) : (m.setNode i node).Shaped where
  length := by rw [setNode_nodes, List.length_set, h.length]; rfl
  blank := by
    intro node' hmem hfree
    rcases List.mem_or_eq_of_mem_set hmem with hold | rfl
    · exact h.blank node' hold hfree
    · exact hnode hfree

/-- Filling a free slot adds one entry. -/
theorem Shaped.entries_fill (h : m.Shaped) {i : Nat} (hi : i < m.capacity)
    (hfree : (m.node i).allocated = false) (id : Nat) (p : Option σ) :
    (m.setNode i { allocated := true, clientId := id, sock := p }).entries.Perm
      ((id, p) :: m.entries) := by
  have hi' : i < m.nodes.length := by rw [h.length]; exact hi
  rw [node_eq hi'] at hfree
  exact SlotTable.entries_fill hi' (ClientMapNode.content_eq_none_iff.mpr hfree) rfl

theorem Shaped.entries_clear {i : Nat} (hi : i < m.nodes.length) {id : Nat} {p : Option σ}
    (hfull : m.nodes[i].content = some (id, p)) :
    m.entries.Perm ((id, p) :: (m.setNode i clientMapNode).entries) :=
  SlotTable.entries_clear hi hfull clientMapNode_content

end ClientMap

/-! ## The rehash loop -/

/-- A table as the rehash fills it: `m` has taken over `moved` and its size and capacity are as before. -/
structure ClientMap.Rehashed (m m' : ClientMap σ) (moved : List (Nat × Option σ)) : Prop
    extends m'.Shaped where
  capacity : m'.capacity = m.capacity
  size : m'.size = m.size
  entries : m'.entries.Perm (moved ++ m.entries)

/-- **One turn of the rehash loop that ends**, whatever the number of tests it was allowed: an allocated
    node is moved, an unallocated one is dropped.  It would have ended within one cycle as well. -/
theorem clientMapRehash_some {fuel : Nat} {m m' : ClientMap σ} (h : m.Shaped)
    (hcap : 0 < m.capacity) {old : ClientMapNode σ} (hrun : clientMapRehash fuel m old = some m') :
    m.Rehashed m' old.content.toList ∧ clientMapRehash m.capacity m old = some m' := by
  rw [clientMapRehash] at hrun ⊢
  by_cases hal : old.allocated = true
  · have hcontent : old.content = some (old.clientId, old.sock) := by
      rw [ClientMapNode.content, if_pos hal]
    rw [if_pos hal, Option.map_eq_some_iff] at hrun
    obtain ⟨hash, hfind, rfl⟩ := hrun
    obtain ⟨hhash, hfree⟩ := clientMapFreeSlot_some hcap hfind
    have hcycle : clientMapFreeSlot m.capacity m old.clientId = some hash :=
      CyclicScan.skipBusy_within_cap (clientMapHash_lt hcap old.clientId) hfind
    rw [if_pos hal, hcycle, hcontent]
    exact ⟨⟨h.setNode hash _ (fun hf => absurd hf (by simp)), rfl, rfl,
      h.entries_fill hhash hfree old.clientId old.sock⟩, rfl⟩
  · have hcontent : old.content = none :=
      ClientMapNode.content_eq_none_iff.mpr (by simpa using hal)
    rw [if_neg hal, Option.some.injEq] at hrun
    subst hrun
    rw [if_neg hal, hcontent]
    exact ⟨⟨h, rfl, rfl, List.Perm.refl _⟩, rfl⟩

/-- One turn of the rehash loop ends when the new table has room. -/
theorem clientMapRehash_returns {m : ClientMap σ} (h : m.Shaped) (old : ClientMapNode σ)
    (hroom : old.content.toList.length + m.entries.length ≤ m.capacity) :
    ∃ m', clientMapRehash m.capacity m old = some m' := by
  rw [clientMapRehash]
  by_cases hal : old.allocated = true
  · rw [ClientMapNode.content, if_pos hal, Option.toList_some, List.length_singleton] at hroom
    obtain ⟨hash, hfind⟩ := clientMapFreeSlot_of_room h.length (by omega) old.clientId
    rw [if_pos hal, hfind]
    exact ⟨_, rfl⟩
  · exact ⟨m, by rw [if_neg hal]⟩

/-- **The rehash loop that ends** has moved exactly what the old nodes `olds` store. -/
theorem clientMapRehash_foldlM_some {fuel : Nat} : ∀ (olds : List (ClientMapNode σ))
    (m m' : ClientMap σ), m.Shaped → 0 < m.capacity →
    olds.foldlM (clientMapRehash fuel) m = some m' →
    m.Rehashed m' (SlotTable.entries ClientMapNode.content olds) ∧
      olds.foldlM (clientMapRehash m.capacity) m = some m' := by
  intro olds
  induction olds with
  | nil =>
    intro m m' h _ hrun
    cases hrun
    exact ⟨⟨h, rfl, rfl, List.Perm.refl _⟩, rfl⟩
  | cons old olds ih =>
    intro m m' h hcap hrun
    rw [List.foldlM_cons, Option.bind_eq_bind, Option.bind_eq_some_iff] at hrun
    obtain ⟨m₁, hturn, hrest⟩ := hrun
    obtain ⟨hmoved, hturn'⟩ := clientMapRehash_some h hcap hturn
    obtain ⟨hmoved', hrest'⟩ :=
      ih m₁ m' hmoved.toShaped (by rw [hmoved.capacity]; exact hcap) hrest
    refine ⟨⟨hmoved'.toShaped, hmoved'.capacity.trans hmoved.capacity,
      hmoved'.size.trans hmoved.size, ?_⟩, ?_⟩
    · rw [SlotTable.entries_cons]
      refine hmoved'.entries.trans ((hmoved.entries.append_left _).trans ?_)
      rw [← List.append_assoc]
      exact List.perm_append_comm.append_right m.entries
    · rw [List.foldlM_cons, hturn']
      rw [hmoved.capacity] at hrest'
      exact hrest'

/-- The rehash loop over the old nodes `olds` ends if what they store still fits. -/
theorem clientMapRehash_foldlM_returns : ∀ (olds : List (ClientMapNode σ)) (m : ClientMap σ),
    m.Shaped → 0 < m.capacity →
    (SlotTable.entries ClientMapNode.content olds).length + m.entries.length ≤ m.capacity →
    ∃ m', olds.foldlM (clientMapRehash m.capacity) m = some m' := by
  intro olds
  induction olds with
  | nil => intro m _ _ _; exact ⟨m, rfl⟩
  | cons old olds ih =>
    intro m h hcap hroom
    rw [SlotTable.entries_cons, List.length_append] at hroom
    obtain ⟨m₁, hturn⟩ := clientMapRehash_returns h old (by omega)
    obtain ⟨hmoved, -⟩ := clientMapRehash_some h hcap hturn
    have hlen := hmoved.entries.length_eq
    rw [List.length_append] at hlen
    obtain ⟨m₂, hrest⟩ := ih m₁ hmoved.toShaped (by rw [hmoved.capacity]; exact hcap)
      (by rw [hmoved.capacity]; omega)
    rw [hmoved.capacity] at hrest
    exact ⟨m₂, by rw [List.foldlM_cons, hturn]; exact hrest⟩

/-- **`_cdtp_client_map_resize` that ends** keeps the entries. -/
theorem clientMapResizeWithin_some {fuel newCapacity : Nat} {m m' : ClientMap σ}
    (hpos : 0 < newCapacity) (hrun : clientMapResizeWithin fuel m newCapacity = some m') :
    (m'.Shaped ∧ m'.capacity = newCapacity ∧ m'.size = m.size ∧ m'.entries.Perm m.entries) ∧
      clientMapResize m newCapacity = some m' := by
  obtain ⟨hmoved, hrun'⟩ := clientMapRehash_foldlM_some m.nodes _ m'
    (ClientMap.fresh_shaped m.size newCapacity) hpos hrun
  have hentries := hmoved.entries
  rw [ClientMap.fresh_entries, List.append_nil] at hentries
  exact ⟨⟨hmoved.toShaped, hmoved.capacity, hmoved.size, hentries⟩, hrun'⟩

/-- **`_cdtp_client_map_resize`** to a capacity that holds the entries ends, and keeps them all. -/
theorem clientMapResize_spec (m : ClientMap σ) (newCapacity : Nat) (hpos : 0 < newCapacity)
    (hfit : m.entries.length ≤ newCapacity) :
    ∃ m', clientMapResize m newCapacity = some m' ∧ m'.Shaped ∧ m'.capacity = newCapacity ∧
      m'.size = m.size ∧ m'.entries.Perm m.entries := by
  have hempty : (ClientMap.fresh m.size newCapacity : ClientMap σ).entries = [] :=
    ClientMap.fresh_entries m.size newCapacity
  obtain ⟨m', hrun⟩ := clientMapRehash_foldlM_returns m.nodes _
    (ClientMap.fresh_shaped m.size newCapacity) hpos (by rw [hempty]; exact hfit)
  exact ⟨m', hrun, (clientMapResizeWithin_some hpos hrun).1⟩

/-- What the return code of `_cdtp_client_map_try_resize` says of the tables before and after. -/
inductive ResizeOutcome (m m' : ClientMap σ) : Int → Prop
  | grow (hfull : m.size = m.capacity) (hcap : m'.capacity = m.capacity * 2) : ResizeOutcome m m' 1
  | shrink (hgt : CDTP_MAP_MIN_CAPACITY < m.capacity) (hquarter : m.size * 4 = m.capacity)
      (hcap : m'.capacity = m.capacity / 2) : ResizeOutcome m m' (-1)
  | keep (hsame : m' = m) (hroom : m.size < m.capacity)
      (hocc : m.capacity = CDTP_MAP_MIN_CAPACITY ∨ m.capacity < m.size * 4) : ResizeOutcome m m' 0

/-- **`_cdtp_client_map_try_resize`, case by case.**  Under the invariant it grows exactly when the table
    is full, and shrinks exactly when the table is a quarter full: the size cannot be below that. -/
theorem clientMapTryResize_cases {m : ClientMap σ} (h : m.WF) :
    ∃ c m', clientMapTryResize m = some (c, m') ∧ m'.Shaped ∧ m'.size = m.size ∧
      m'.entries.Perm m.entries ∧ ResizeOutcome m m' c := by
  have hsize := h.size_eq
  have hle := h.size_le_capacity
  have hocc := h.occupancy
  obtain ⟨k, hk⟩ := h.capacity_pow
  have hmin : CDTP_MAP_MIN_CAPACITY = 16 := rfl
  have hpow := Nat.two_pow_pos k
  rw [hmin] at hocc hk
  rw [clientMapTryResize, hmin]
  by_cases hfull : m.size ≥ m.capacity
  · -- full: grow to twice the size
    obtain ⟨m', hrun, hshape, hcap, hsz, hperm⟩ :=
      clientMapResize_spec m (m.capacity * 2) (by omega) (by omega)
    refine ⟨1, m', by rw [if_pos hfull, clientMapResizeUp, hrun]; rfl, hshape, hsz, hperm,
      .grow (by omega) hcap⟩
  · by_cases hquarter : m.capacity > 16 ∧ m.size * 4 ≤ m.capacity
    · -- exactly a quarter full: halve
      obtain ⟨m', hrun, hshape, hcap, hsz, hperm⟩ :=
        clientMapResize_spec m (m.capacity / 2) (by omega) (by omega)
      refine ⟨-1, m', by rw [if_neg hfull, if_pos hquarter, clientMapResizeDown, hrun]; rfl, hshape,
        hsz, hperm, .shrink hquarter.1 (by omega) hcap⟩
    · refine ⟨0, m, by rw [if_neg hfull, if_neg hquarter], h.toShaped, rfl, List.Perm.refl _,
        .keep rfl (by omega) (by omega)⟩

/-- **`_cdtp_client_map_try_resize`** keeps the invariant and the entries, and leaves a free slot — and
    one entry above the occupancy bound, which is what lets `pop` take an entry away. -/
theorem clientMapTryResize_spec {m : ClientMap σ} (h : m.WF) :
    ∃ c m', clientMapTryResize m = some (c, m') ∧ m'.WF ∧ m'.entries.Perm m.entries ∧
      m'.size < m'.capacity ∧
      (m'.capacity = CDTP_MAP_MIN_CAPACITY ∨ m'.capacity + 4 ≤ 4 * m'.size) := by
  obtain ⟨k, hk⟩ := h.capacity_pow
  have hpow := Nat.two_pow_pos k
  have hmin : CDTP_MAP_MIN_CAPACITY = 16 := rfl
  rw [hmin] at hk
  obtain ⟨c, m', hrun, hshape, hsz, hperm, hcases⟩ := clientMapTryResize_cases h
  have hsize : m'.size = m'.entries.length := by rw [hsz, h.size_eq, hperm.length_eq]
  have hdistinct := (hperm.map Prod.fst).nodup_iff.mpr h.distinct
  cases hcases with
  | grow hfull hcap =>
    refine ⟨1, m', hrun, ⟨hshape, ⟨k + 1, ?_⟩, hsize, hdistinct, by omega⟩, hperm, by omega, by omega⟩
    rw [hcap, hk, hmin, Nat.pow_succ, Nat.mul_assoc]
  | shrink hgt hquarter hcap =>
    have hkpos : k ≠ 0 := by
      rintro rfl
      omega
    obtain ⟨j, rfl⟩ := Nat.exists_eq_succ_of_ne_zero hkpos
    refine ⟨-1, m', hrun, ⟨hshape, ⟨j, ?_⟩, hsize, hdistinct, by omega⟩, hperm, by omega, by omega⟩
    rw [Nat.pow_succ] at hk
    rw [hcap, hk, hmin]
    omega
  | keep hsame hroom hocc =>
    -- neither full nor a quarter full, and the capacity is a multiple of 4
    subst hsame
    exact ⟨0, m', hrun, h, hperm, hroom, by omega⟩

/-! ## Lookups -/

section Lookup

variable {m : ClientMap σ} {id : Nat} {p : Option σ}

theorem clientMapFind_of_mem (h : m.Keyed) (hp : (id, p) ∈ m.entries) :
    ∃ hash, ∃ hh : hash < m.nodes.length, clientMapFind m id = some hash ∧
      m.nodes[hash].content = some (id, p) ∧ (m.node hash).sock = p := by
  rcases hfind : clientMapFind m id with _ | hash
  · exact absurd hp ((clientMapFind_eq_none_iff h.length).mp hfind p)
  · obtain ⟨hh, hcontent⟩ := clientMapFind_some h.length hfind
    have hsock : (m.node hash).sock = p :=
      h.sock_unique (SlotTable.mem_entries_iff.mpr ⟨hash, hh, hcontent⟩) hp
    rw [hsock] at hcontent
    exact ⟨hash, hh, rfl, hcontent, hsock⟩

theorem clientMapContains_iff (h : m.Keyed) :
    clientMapContains m id = true ↔ ∃ p, (id, p) ∈ m.entries := by
  rw [clientMapContains]
  rcases hfind : clientMapFind m id with _ | hash
  · have hno := (clientMapFind_eq_none_iff h.length).mp hfind
    exact ⟨fun hc => absurd hc (by simp), fun ⟨p, hp⟩ => absurd hp (hno p)⟩
  · obtain ⟨hh, hcontent⟩ := clientMapFind_some h.length hfind
    exact ⟨fun _ => ⟨_, SlotTable.mem_entries_iff.mpr ⟨hash, hh, hcontent⟩⟩, fun _ => rfl⟩

/-- `_cdtp_client_map_get` finds the socket of an entry. -/
theorem clientMapGet_of_mem (h : m.Keyed) (hp : (id, p) ∈ m.entries) : clientMapGet m id = p := by
  obtain ⟨hash, -, hfind, -, hsock⟩ := clientMapFind_of_mem h hp
  rw [clientMapGet, hfind]
  exact hsock

theorem clientMapGet_of_not_mem (h : m.Keyed) (hno : ∀ p, (id, p) ∉ m.entries) :
    clientMapGet m id = none := by
  rw [clientMapGet, (clientMapFind_eq_none_iff h.length).mpr hno]

end Lookup

/-! ## Updates -/

section Update

variable {m : ClientMap σ} {id : Nat} {p : Option σ}

/-- `set` on an id in use changes nothing. -/
theorem clientMapSet_of_mem (h : m.WF) (hp : (id, p) ∈ m.entries) (sock : Option σ) :
    clientMapSet m id sock = some (false, m) := by
  rw [clientMapSet, if_pos ((clientMapContains_iff h.keyed).mpr ⟨p, hp⟩)]

/-- **`set` on a free id** ends, and conses the pair. -/
theorem clientMapSet_of_not_mem (h : m.WF) (hno : ∀ p, (id, p) ∉ m.entries) (sock : Option σ) :
    ∃ m', clientMapSet m id sock = some (true, m') ∧ m'.WF ∧
      m'.entries.Perm ((id, sock) :: m.entries) := by
  -- the id stays absent over the resize, which only permutes the entries
  have hcontains : ¬ clientMapContains m id = true := by
    rw [clientMapContains_iff h.keyed]
    exact fun ⟨p, hp⟩ => hno p hp
  obtain ⟨c, m₁, hresize, h₁, hperm, hroom, -⟩ := clientMapTryResize_spec h
  obtain ⟨hash, hfind⟩ :=
    clientMapFreeSlot_of_room h₁.length (by rw [← h₁.size_eq]; exact hroom) id
  obtain ⟨hhash, hfree⟩ := clientMapFreeSlot_some h₁.capacity_pos hfind
  have hfill := h₁.entries_fill hhash hfree id sock
  have hfill' := hfill.trans (hperm.cons (id, sock))
  refine ⟨{ m₁.setNode hash { allocated := true, clientId := id, sock := sock } with
    size := m₁.size + 1 }, by rw [clientMapSet, if_neg hcontains, hresize]; simp [hfind], ?_,
    hfill'⟩
  have hshape := h₁.setNode hash { allocated := true, clientId := id, sock := sock }
    (fun hf => absurd hf (by simp))
  have hnew : id ∉ m.entries.map Prod.fst := by
    intro hmem
    obtain ⟨⟨_, p⟩, hp, rfl⟩ := List.mem_map.mp hmem
    exact hno p hp
  refine ⟨⟨hshape.length, hshape.blank⟩, h₁.capacity_pow, ?_, ?_, ?_⟩
  · show m₁.size + 1 = _
    rw [h₁.size_eq]
    exact hfill.length_eq.symm
  · exact (hfill'.map Prod.fst).nodup_iff.mpr (List.nodup_cons.mpr ⟨hnew, h.distinct⟩)
  · have := h₁.occupancy
    show m₁.capacity = _ ∨ m₁.capacity ≤ 4 * (m₁.size + 1)
    omega

/-- **`pop` of a stored id** returns its socket and takes the pair away. -/
theorem clientMapPop_of_mem (h : m.WF) (hp : (id, p) ∈ m.entries) :
    ∃ m', clientMapPop m id = some (p, m') ∧ m'.WF ∧ m.entries.Perm ((id, p) :: m'.entries) := by
  obtain ⟨c, m₁, hresize, h₁, hperm, -, hocc⟩ := clientMapTryResize_spec h
  obtain ⟨hash, hh, hfind, hcontent, hsock⟩ := clientMapFind_of_mem h₁.keyed (hperm.mem_iff.mpr hp)
  have hclear := ClientMap.Shaped.entries_clear hh hcontent
  have hclear' := hperm.symm.trans hclear
  refine ⟨{ m₁.setNode hash clientMapNode with size := m₁.size - 1 }, ?_, ?_, hclear'⟩
  · rw [clientMapPop, hresize]
    simp only [Option.bind_eq_bind, Option.bind_some, hfind, hsock]
    rfl
  have hshape := h₁.setNode hash clientMapNode (fun _ => rfl)
  have hlen := hclear.length_eq
  rw [List.length_cons, ← h₁.size_eq] at hlen
  refine ⟨⟨hshape.length, hshape.blank⟩, h₁.capacity_pow, ?_, ?_, ?_⟩
  · show m₁.size - 1 = (m₁.setNode hash clientMapNode).entries.length
    omega
  · have hnd := (hclear'.map Prod.fst).nodup_iff.mp h.distinct
    exact (List.nodup_cons.mp hnd).2
  -- the resize left one entry above the bound, and that one is gone now
  · show m₁.capacity = _ ∨ m₁.capacity ≤ 4 * (m₁.size - 1)
    omega

/-- `pop` of an absent id returns NULL; it may still have rehashed the table. -/
theorem clientMapPop_of_not_mem (h : m.WF) (hno : ∀ p, (id, p) ∉ m.entries) :
    ∃ m', clientMapPop m id = some (none, m') ∧ m'.WF ∧ m'.entries.Perm m.entries := by
  obtain ⟨c, m₁, hresize, h₁, hperm, -, -⟩ := clientMapTryResize_spec h
  have hfind : clientMapFind m₁ id = none :=
    (clientMapFind_eq_none_iff h₁.length).mpr
      fun p hp => hno p (hperm.mem_iff.mp hp)
  refine ⟨m₁, ?_, h₁, hperm⟩
  rw [clientMapPop, hresize]
  simp only [Option.bind_eq_bind, Option.bind_some, hfind]

end Update

end Cdtp
