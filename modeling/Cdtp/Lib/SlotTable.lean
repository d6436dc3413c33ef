/-
  Tables of slots, and the finite partial map such a table stores.

  A table is a list of slots of any type `S`; `content` says what a slot stores — a key and a value,
  or nothing.  The ENTRIES of a table are the contents in slot order.  Every write of a hash table
  is one `List.set`, and its effect on the entries is one of two: filling a free slot conses a pair
  (`entries_fill`), clearing a full one takes a pair away (`entries_clear`) — both up to `Perm`,
  which is all that lookups depend on.

  `Represents l f` says that the pairs `l` are the graph of the partial map `f : κ → Option ν`, each
  pair once.  It is stable under `Perm`, and consing and taking away a pair are the two updates of
  `f` (`Represents.bind`, `Represents.unbind`).
-/
import Mathlib.Data.List.Nodup
import Mathlib.Logic.Function.Basic

namespace SlotTable

variable {S κ ν : Type}

/-! ## The entries of a table -/

section Entries

variable (content : S → Option (κ × ν))

/-- What the slots store, in slot order. -/
def entries (slots : List S) : List (κ × ν) := slots.filterMap content

variable {content} {slots : List S} {kv : κ × ν}

theorem entries_cons (s : S) (slots : List S) :
    entries content (s :: slots) = (content s).toList ++ entries content slots := by
  rw [entries, List.filterMap_cons]
  cases content s <;> rfl

theorem mem_entries_iff :
    kv ∈ entries content slots ↔ ∃ i, ∃ hi : i < slots.length, content slots[i] = some kv := by
  rw [entries, List.mem_filterMap]
  constructor
  · rintro ⟨s, hs, hc⟩
    obtain ⟨i, hi, rfl⟩ := List.mem_iff_getElem.mp hs
    exact ⟨i, hi, hc⟩
  · rintro ⟨i, hi, hc⟩
    exact ⟨slots[i], List.getElem_mem hi, hc⟩

theorem entries_length_le : (entries content slots).length ≤ slots.length :=
  List.length_filterMap_le content slots

theorem entries_replicate {s : S} (hs : content s = none) (n : Nat) :
    entries content (List.replicate n s) = [] := by
  rw [entries, List.filterMap_eq_nil_iff]
  intro t ht
  rw [List.eq_of_mem_replicate ht]
  exact hs

/-- A table with fewer entries than slots has a free slot. -/
theorem exists_free (h : (entries content slots).length < slots.length) :
    ∃ i, ∃ hi : i < slots.length, content slots[i] = none := by
  by_contra hno
  have hfull : ∀ s ∈ slots, (content s).isSome := by
    intro s hs
    obtain ⟨i, hi, rfl⟩ := List.mem_iff_getElem.mp hs
    rcases hc : content slots[i] with _ | kv
    · exact absurd ⟨i, hi, hc⟩ hno
    · rfl
  have hlen : (entries content slots).length = slots.length := by
    rw [entries, List.length_filterMap_eq_countP, List.countP_eq_length]
    exact hfull
  omega

variable (content) in
/-- The entries, split around slot `i`. -/
theorem entries_split {i : Nat} (hi : i < slots.length) :
    entries content slots = entries content (slots.take i)
      ++ ((content slots[i]).toList ++ entries content (slots.drop (i + 1))) := by
  have hsplit : slots = slots.take i ++ slots[i] :: slots.drop (i + 1) := by
    rw [← List.drop_eq_getElem_cons hi, List.take_append_drop]
  conv => lhs; rw [hsplit]
  simp only [entries, List.filterMap_append, List.filterMap_cons]
  cases content slots[i] <;> simp

variable (content) in
theorem entries_set {i : Nat} (hi : i < slots.length) (s : S) :
    entries content (slots.set i s) = entries content (slots.take i)
      ++ ((content s).toList ++ entries content (slots.drop (i + 1))) := by
  rw [List.set_eq_take_append_cons_drop, if_pos hi]
  simp only [entries, List.filterMap_append, List.filterMap_cons]
  cases content s <;> simp

/-- With pairwise distinct keys no key is stored in two slots. -/
theorem slot_unique (hnd : ((entries content slots).map Prod.fst).Nodup) {i j : Nat}
    (hi : i < slots.length) (hj : j < slots.length) {k : κ} {v w : ν}
    (hci : content slots[i] = some (k, v)) (hcj : content slots[j] = some (k, w)) : j ≤ i := by
  by_contra hlt
  rw [entries_split content hi, hci, List.map_append, List.nodup_append] at hnd
  -- slot `j` is one of the slots behind slot `i`, so its key occurs once more
  have hmem : (k, w) ∈ entries content (slots.drop (i + 1)) := by
    refine mem_entries_iff.mpr ⟨j - (i + 1), by rw [List.length_drop]; omega, ?_⟩
    rw [List.getElem_drop]
    have hsum : i + 1 + (j - (i + 1)) = j := by omega
    simp only [hsum]
    exact hcj
  have hcons := hnd.2.1
  rw [Option.toList_some, List.singleton_append, List.map_cons, List.nodup_cons] at hcons
  exact hcons.1 (List.mem_map.mpr ⟨(k, w), hmem, rfl⟩)

/-- The keys are listed once each iff no key is stored in two slots. -/
theorem keys_nodup_iff :
    ((entries content slots).map Prod.fst).Nodup ↔
      ∀ i j k v w, ∀ hi : i < slots.length, ∀ hj : j < slots.length,
        content slots[i] = some (k, v) → content slots[j] = some (k, w) → i = j := by
  constructor
  · intro hnd i j k v w hi hj hci hcj
    exact Nat.le_antisymm (slot_unique hnd hj hi hcj hci) (slot_unique hnd hi hj hci hcj)
  · intro h
    rw [List.Nodup, List.pairwise_map, entries, List.pairwise_filterMap, List.pairwise_iff_getElem]
    rintro i j hi hj hlt ⟨k, v⟩ hci ⟨k', w⟩ hcj hkk
    have hsame : k = k' := hkk
    subst hsame
    exact absurd (h i j k v w hi hj hci hcj) (Nat.ne_of_lt hlt)

/-- **Filling a free slot** adds its pair to the entries. -/
theorem entries_fill {i : Nat} (hi : i < slots.length) (hfree : content slots[i] = none) {s : S}
    (hs : content s = some kv) :
    (entries content (slots.set i s)).Perm (kv :: entries content slots) := by
  rw [entries_set content hi, entries_split content hi, hfree, hs]
  exact List.perm_middle

/-- **Clearing a full slot** takes its pair from the entries. -/
theorem entries_clear {i : Nat} (hi : i < slots.length) (hfull : content slots[i] = some kv) {s : S}
    (hs : content s = none) :
    (entries content slots).Perm (kv :: entries content (slots.set i s)) := by
  rw [entries_set content hi, entries_split content hi, hfull, hs]
  exact List.perm_middle

end Entries

/-! ## Lists of pairs as partial maps -/

/-- `l` lists the graph of the partial map `f`, each pair once. -/
def Represents (l : List (κ × ν)) (f : κ → Option ν) : Prop :=
  (l.map Prod.fst).Nodup ∧ ∀ k v, (k, v) ∈ l ↔ f k = some v

namespace Represents

variable {l l' : List (κ × ν)} {f : κ → Option ν} {k : κ} {v : ν}

theorem empty : Represents ([] : List (κ × ν)) (fun _ => none) :=
  ⟨List.nodup_nil, fun k v => ⟨fun h => absurd h List.not_mem_nil, fun h => absurd h (by simp)⟩⟩

theorem perm (h : Represents l f) (hp : l'.Perm l) : Represents l' f :=
  ⟨(hp.map Prod.fst).nodup_iff.mpr h.1, fun k v => hp.mem_iff.trans (h.2 k v)⟩

/-- The pairs themselves are listed once each. -/
theorem nodup (h : Represents l f) : l.Nodup := List.Nodup.of_map Prod.fst h.1

theorem key_mem_iff (h : Represents l f) : k ∈ l.map Prod.fst ↔ f k ≠ none := by
  rw [List.mem_map, Option.ne_none_iff_exists']
  constructor
  · rintro ⟨⟨k', v⟩, hm, rfl⟩
    exact ⟨v, (h.2 _ _).mp hm⟩
  · rintro ⟨v, hv⟩
    exact ⟨(k, v), (h.2 _ _).mpr hv, rfl⟩

variable [DecidableEq κ]

/-- Consing a pair with a new key binds the key. -/
theorem bind (h : Represents l f) (hk : f k = none) :
    Represents ((k, v) :: l) (Function.update f k (some v)) := by
  have hnew : k ∉ l.map Prod.fst := by rw [h.key_mem_iff, hk]; simp
  refine ⟨List.nodup_cons.mpr ⟨hnew, h.1⟩, ?_⟩
  intro k' v'
  rw [List.mem_cons, h.2 k' v', Prod.mk.injEq]
  by_cases hkk : k' = k
  · subst hkk
    rw [Function.update_self, hk, Option.some.injEq]
    exact ⟨fun h => h.elim (fun h => h.2.symm) (fun h => absurd h (by simp)),
      fun h => Or.inl ⟨rfl, h.symm⟩⟩
  · rw [Function.update_of_ne hkk]
    exact ⟨fun h => h.elim (fun h => absurd h.1 hkk) id, Or.inr⟩

/-- Taking a pair away unbinds its key. -/
theorem unbind (h : Represents ((k, v) :: l) f) :
    f k = some v ∧ Represents l (Function.update f k none) := by
  obtain ⟨hnew, hnd⟩ := List.nodup_cons.mp h.1
  refine ⟨(h.2 k v).mp List.mem_cons_self, hnd, ?_⟩
  intro k' v'
  by_cases hkk : k' = k
  · subst hkk
    rw [Function.update_self]
    exact ⟨fun hm => absurd (List.mem_map.mpr ⟨_, hm, rfl⟩) hnew, fun h => absurd h (by simp)⟩
  · rw [Function.update_of_ne hkk, ← h.2 k' v', List.mem_cons, Prod.mk.injEq]
    exact ⟨Or.inr, fun h => h.elim (fun h => absurd h.1 hkk) id⟩

end Represents

end SlotTable
