/-
  Rehashing a table of any layout: it ends exactly when the entries fit, and then loses nothing.

  The tables here need not be reachable: the ids of the allocated slots are pairwise distinct, and that
  is all — a node may sit in a slot where linear probing would never have put it.  What a table stores is
  read slot by slot (`Holds`), as a reader of `map.c` sees it.

  1. **An ended rehash.**  `RehashOf` lists what the new table has kept.  Both tables are `Keyed`, so a
     pair held in some slot is an entry, entries are permuted, and an entry is held in one slot only.
  2. **When it ends.**  Enough room ends every inner loop (`clientMapResize_spec`); an ended rehash, the
     other way round, has its entries in `newCapacity` slots.
-/
import Cdtp.ClientMapSpec

namespace Cdtp

variable {σ : Type}

/-- Slot `i` is allocated and holds the socket `p` under `id`. -/
def ClientMap.Holds (m : ClientMap σ) (i id : Nat) (p : Option σ) : Prop :=
  i < m.capacity ∧ m.node i = { allocated := true, clientId := id, sock := p }

/-- No id is held in two slots. -/
def ClientMap.DistinctIds (m : ClientMap σ) : Prop :=
  ∀ i j id p q, m.Holds i id p → m.Holds j id q → i = j

/-- `m'` is `m` rehashed into `newCapacity` slots, with nothing lost and nothing added. -/
structure ClientMap.RehashOf (m m' : ClientMap σ) (newCapacity : Nat) : Prop where
  capacity : m'.capacity = newCapacity
  slots : m'.nodes.length = newCapacity
  size : m'.size = m.size
  once : ∀ i id p, m.Holds i id p → ∃! j, m'.Holds j id p
  nothingElse : ∀ j, j < newCapacity → (m'.node j).allocated = true →
    ∃ i id p, m.Holds i id p ∧ m'.Holds j id p
  distinct : m'.DistinctIds
  get : ∀ id, clientMapGet m' id = clientMapGet m id
  contains : ∀ id, clientMapContains m' id = clientMapContains m id

section Slots

variable {m m' : ClientMap σ}

theorem ClientMap.holds_iff (hlen : m.nodes.length = m.capacity) {i id : Nat} {p : Option σ} :
    m.Holds i id p ↔ ∃ hi : i < m.nodes.length, m.nodes[i].content = some (id, p) := by
  constructor
  · rintro ⟨hi, hnode⟩
    rw [← hlen] at hi
    rw [ClientMap.node_eq hi] at hnode
    exact ⟨hi, by rw [hnode]; rfl⟩
  · rintro ⟨hi, hcontent⟩
    refine ⟨by omega, ?_⟩
    rw [ClientMap.node_eq hi]
    obtain ⟨hal, hid, hsock⟩ := ClientMapNode.content_eq_some_iff.mp hcontent
    rw [← hal, ← hid, ← hsock]

/-- A pair is held in some slot iff it is an entry. -/
theorem ClientMap.mem_entries_iff_holds (hlen : m.nodes.length = m.capacity) {id : Nat}
    {p : Option σ} : (id, p) ∈ m.entries ↔ ∃ i, m.Holds i id p := by
  rw [ClientMap.entries, SlotTable.mem_entries_iff]
  exact exists_congr fun i => (ClientMap.holds_iff hlen).symm

/-- No id is held in two slots iff the entries have pairwise distinct ids. -/
theorem ClientMap.keyed_iff_distinctIds (hlen : m.nodes.length = m.capacity) :
    m.Keyed ↔ m.DistinctIds := by
  constructor
  · intro h i j id p q hi hj
    obtain ⟨hi', hci⟩ := (ClientMap.holds_iff hlen).mp hi
    obtain ⟨hj', hcj⟩ := (ClientMap.holds_iff hlen).mp hj
    exact SlotTable.keys_nodup_iff.mp h.distinct i j id p q hi' hj' hci hcj
  · intro h
    refine ⟨hlen, SlotTable.keys_nodup_iff.mpr ?_⟩
    intro i j id p q hi hj hci hcj
    exact h i j id p q ((ClientMap.holds_iff hlen).mpr ⟨hi, hci⟩)
      ((ClientMap.holds_iff hlen).mpr ⟨hj, hcj⟩)

/-- Tables with the same entries answer every `get` and every `contains` alike. -/
theorem ClientMap.Keyed.lookups_eq (h : m.Keyed) (h' : m'.Keyed) (hperm : m'.entries.Perm m.entries)
    (id : Nat) :
    clientMapGet m' id = clientMapGet m id ∧ clientMapContains m' id = clientMapContains m id := by
  constructor
  · by_cases hin : ∃ p, (id, p) ∈ m.entries
    · obtain ⟨p, hp⟩ := hin
      rw [clientMapGet_of_mem h hp, clientMapGet_of_mem h' (hperm.mem_iff.mpr hp)]
    · have hno : ∀ p, (id, p) ∉ m.entries := not_exists.mp hin
      rw [clientMapGet_of_not_mem h hno,
        clientMapGet_of_not_mem h' fun p hp => hno p (hperm.mem_iff.mp hp)]
  · rw [Bool.eq_iff_iff, clientMapContains_iff h, clientMapContains_iff h']
    exact exists_congr fun p => hperm.mem_iff

/-- A table of `newCapacity` slots with the entries of `m` is `m` rehashed. -/
theorem ClientMap.Keyed.rehashOf {newCapacity : Nat} (h : m.Keyed) (hshape : m'.Shaped)
    (hcap : m'.capacity = newCapacity) (hsize : m'.size = m.size)
    (hperm : m'.entries.Perm m.entries) : m.RehashOf m' newCapacity := by
  have h' : m'.Keyed := ⟨hshape.length, (hperm.map Prod.fst).nodup_iff.mpr h.distinct⟩
  have hdistinct : m'.DistinctIds := (ClientMap.keyed_iff_distinctIds hshape.length).mp h'
  refine ⟨hcap, hshape.length.trans hcap, hsize, ?_, ?_, hdistinct,
    fun id => (h.lookups_eq h' hperm id).1, fun id => (h.lookups_eq h' hperm id).2⟩
  · intro i id p hi
    have hold : (id, p) ∈ m.entries := (ClientMap.mem_entries_iff_holds h.length).mpr ⟨i, hi⟩
    obtain ⟨j, hj⟩ :=
      (ClientMap.mem_entries_iff_holds hshape.length).mp (hperm.mem_iff.mpr hold)
    exact ⟨j, hj, fun k hk => hdistinct k j id p p hk hj⟩
  · intro j hj hal
    have hj' : m'.Holds j (m'.node j).clientId (m'.node j).sock := by
      refine ⟨by omega, ?_⟩
      rw [← hal]
    have hnew : ((m'.node j).clientId, (m'.node j).sock) ∈ m'.entries :=
      (ClientMap.mem_entries_iff_holds hshape.length).mpr ⟨j, hj'⟩
    obtain ⟨i, hi⟩ := (ClientMap.mem_entries_iff_holds h.length).mp (hperm.mem_iff.mp hnew)
    exact ⟨i, _, _, hi, hj'⟩

end Slots

/-- **`_cdtp_client_map_resize` ends iff the allocated slots fit** into the new capacity, and a table it
    returns, after however many tests, is the old one rehashed. -/
theorem clientMapResize_terminates_iff (m : ClientMap σ) (newCapacity : Nat)
    (hlen : m.nodes.length = m.capacity) (hdistinct : m.DistinctIds) (hpos : 0 < newCapacity) :
    ((∃ fuel, clientMapResizeWithin fuel m newCapacity ≠ none) ↔
        m.nodes.countP (·.allocated) ≤ newCapacity) ∧
      ∀ fuel m', clientMapResizeWithin fuel m newCapacity = some m' →
        clientMapResize m newCapacity = some m' ∧ m.RehashOf m' newCapacity := by
  have hkeyed : m.Keyed := (ClientMap.keyed_iff_distinctIds hlen).mpr hdistinct
  rw [← ClientMap.entries_length]
  refine ⟨⟨?_, ?_⟩, ?_⟩
  · rintro ⟨fuel, hends⟩
    obtain ⟨m', hrun⟩ := Option.ne_none_iff_exists'.mp hends
    obtain ⟨⟨hshape, hcap, -, hperm⟩, -⟩ := clientMapResizeWithin_some hpos hrun
    -- the entries all sit in the `newCapacity` slots of the table that was returned
    calc m.entries.length
        = m'.entries.length := hperm.length_eq.symm
      _ ≤ m'.nodes.length := SlotTable.entries_length_le
      _ = newCapacity := hshape.length.trans hcap
  · intro hfit
    obtain ⟨m', hrun, -⟩ := clientMapResize_spec m newCapacity hpos hfit
    refine ⟨newCapacity, ?_⟩
    show clientMapResize m newCapacity ≠ none
    rw [hrun]
    exact Option.some_ne_none m'
  · intro fuel m' hrun
    obtain ⟨⟨hshape, hcap, hsize, hperm⟩, hrun'⟩ := clientMapResizeWithin_some hpos hrun
    exact ⟨hrun', hkeyed.rehashOf hshape hcap hsize hperm⟩

/-- Three slots, two ids, and neither id in the slot it hashes to. -/
def oddTable : ClientMap Nat :=
  { size := 2
    capacity := 3
    nodes := [{ allocated := true, clientId := 5, sock := some 50 }, clientMapNode,
      { allocated := true, clientId := 3, sock := some 30 }] }

/-- Its rehash into two slots ends, its rehash into one slot does not. -/
theorem oddTable_rehash_ends :
    (∃ fuel, clientMapResizeWithin fuel oddTable 2 ≠ none) ∧
      ¬ ∃ fuel, clientMapResizeWithin fuel oddTable 1 ≠ none := by
  have hdistinct : oddTable.DistinctIds :=
    (ClientMap.keyed_iff_distinctIds rfl).mp ⟨rfl, by decide⟩
  constructor
  · exact (clientMapResize_terminates_iff oddTable 2 rfl hdistinct (by decide)).1.mpr (by decide)
  · intro hends
    have hfit := (clientMapResize_terminates_iff oddTable 1 rfl hdistinct (by decide)).1.mp hends
    exact absurd hfit (by decide)

end Cdtp
