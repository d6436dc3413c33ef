/-
  When the client map resizes, and what that costs.

  1. **Calls.**  `TableCall` are the five calls of `map.h` with any pointer given to `set`, NULL too.
     `tableCall` performs one; `resizeStep` is the `_cdtp_client_map_try_resize` inside it.
  2. **Reachable tables.**  `SlotInvariant` states the representation slot by slot, as the source's
     loops see it, and `ResizesSafely` is what the resize step relies on: a free slot for every
     probe, within `capacity` tests, and no wrap of the `size_t` arithmetic.  Both hold after every
     run of fewer than `2 ^ 58` calls: a call adds at most one entry, and the occupancy bound turns
     that into a bound on the capacity.
  3. **Resizes are far apart.**  `effectCall` is a call that reports its resize and whether it changed
     the entries.  A resize leaves the table half full; the next one needs it full or a quarter
     full; and a call moves the size by one at most.
-/
import Cdtp.ClientMapRefinement

namespace Cdtp

variable {σ : Type}

/-! ## Calls -/

/-- A call of the client map. -/
inductive TableCall (σ : Type) where
  | set (clientId : Nat) (sock : Option σ)
  | get (clientId : Nat)
  | contains (clientId : Nat)
  | pop (clientId : Nat)
  | iter
  deriving DecidableEq

/-- One call on the table; `none` if it never returns. -/
def tableCall (m : ClientMap σ) : TableCall σ → Option (MapReply σ × ClientMap σ)
  | .set id sock => (clientMapSet m id sock).map fun r => (.bool r.1, r.2)
  | .get id => some (.sock (clientMapGet m id), m)
  | .contains id => some (.bool (clientMapContains m id), m)
  | .pop id => (clientMapPop m id).map fun r => (.sock r.1, r.2)
  | .iter => some (.iter (clientMapIter m), m)

/-- A call whose `set` is given a socket, as a call. -/
def MapCall.toTable : MapCall σ → TableCall σ
  | .set id sock => .set id (some sock)
  | .get id => .get id
  | .contains id => .contains id
  | .pop id => .pop id
  | .iter => .iter

theorem mapCall_eq_tableCall (m : ClientMap σ) (call : MapCall σ) :
    mapCall m call = tableCall m call.toTable := by
  cases call <;> rfl

/-- The `_cdtp_client_map_try_resize` of a call: its return code, 0 when the call does not get there,
    and the table after it. -/
def resizeStep (m : ClientMap σ) : TableCall σ → Option (Int × ClientMap σ)
  | .set id _ => if clientMapContains m id then some (0, m) else clientMapTryResize m
  | .pop _ => clientMapTryResize m
  | _ => some (0, m)

/-- Whether a call inserts or removes an entry: a `set` of a new id, a `pop` of a stored one. -/
def changesEntries (m : ClientMap σ) : TableCall σ → Bool
  | .set id _ => !clientMapContains m id
  | .pop id => clientMapContains m id
  | _ => false

/-! ## One call -/

section Call

variable {m : ClientMap σ}

/-- How a call moves the size: by one iff it changes the entries. -/
def SizeMoved (m m' : ClientMap σ) (changed : Bool) : Prop :=
  if changed then m'.size = m.size + 1 ∨ m'.size + 1 = m.size else m'.size = m.size

/-- `set` returns the table of the resize step with one node written. -/
theorem clientMapSet_capacity {id : Nat} {sock : Option σ} {b : Bool} {c : Int}
    {m₁ m' : ClientMap σ} (hno : ¬ clientMapContains m id = true)
    (hresize : clientMapTryResize m = some (c, m₁)) (hset : clientMapSet m id sock = some (b, m')) :
    m'.capacity = m₁.capacity := by
  rw [clientMapSet, if_neg hno, hresize] at hset
  simp only [Option.bind_eq_bind, Option.bind_some, Option.bind_eq_some_iff, Option.some.injEq,
    Prod.mk.injEq] at hset
  obtain ⟨hash, -, -, rfl⟩ := hset
  rfl

/-- `pop` returns the table of the resize step, with one node cleared if it found the id. -/
theorem clientMapPop_capacity {id : Nat} {p : Option σ} {c : Int} {m₁ m' : ClientMap σ}
    (hresize : clientMapTryResize m = some (c, m₁)) (hpop : clientMapPop m id = some (p, m')) :
    m'.capacity = m₁.capacity := by
  rw [clientMapPop, hresize] at hpop
  simp only [Option.bind_eq_bind, Option.bind_some] at hpop
  rcases hfind : clientMapFind m₁ id with _ | hash <;>
    rw [hfind, Option.some.injEq, Prod.mk.injEq] at hpop <;> rw [← hpop.2]
  rfl

/-- **One call** returns: its resize step first, which keeps the size, and then the rest, which keeps the
    capacity and moves the size iff the call changes the entries. -/
theorem tableCall_spec (h : m.WF) (call : TableCall σ) :
    ∃ c m₁ r m', resizeStep m call = some (c, m₁) ∧ tableCall m call = some (r, m') ∧ m'.WF ∧
      m₁.size = m.size ∧ (c = 0 ∧ m₁ = m ∨ ResizeOutcome m m₁ c) ∧ m'.capacity = m₁.capacity ∧
      SizeMoved m m' (changesEntries m call) := by
  obtain ⟨c, m₁, hresize, -, hsize, -, hcases⟩ := clientMapTryResize_cases h
  cases call with
  | set id sock =>
    by_cases hin : clientMapContains m id = true
    · -- an id in use: `set` returns false before the resize step
      obtain ⟨p, hp⟩ := (clientMapContains_iff h.keyed).mp hin
      refine ⟨0, m, .bool false, m, by rw [resizeStep, if_pos hin], ?_, h, rfl, Or.inl ⟨rfl, rfl⟩,
        rfl, ?_⟩
      · rw [tableCall, clientMapSet_of_mem h hp sock]
        rfl
      · rw [SizeMoved, changesEntries, hin]
        rfl
    · have hno : ∀ p, (id, p) ∉ m.entries :=
        fun p hp => hin ((clientMapContains_iff h.keyed).mpr ⟨p, hp⟩)
      obtain ⟨m', hset, hwf, hperm⟩ := clientMapSet_of_not_mem h hno sock
      refine ⟨c, m₁, .bool true, m', by rw [resizeStep, if_neg hin, hresize], ?_, hwf, hsize,
        Or.inr hcases, clientMapSet_capacity hin hresize hset, ?_⟩
      · rw [tableCall, hset]
        rfl
      · have hlen := hperm.length_eq
        rw [List.length_cons, ← h.size_eq, ← hwf.size_eq] at hlen
        rw [SizeMoved, changesEntries, Bool.eq_false_iff.mpr hin]
        exact Or.inl hlen
  | pop id =>
    by_cases hin : clientMapContains m id = true
    · obtain ⟨p, hp⟩ := (clientMapContains_iff h.keyed).mp hin
      obtain ⟨m', hpop, hwf, hperm⟩ := clientMapPop_of_mem h hp
      refine ⟨c, m₁, .sock p, m', hresize, ?_, hwf, hsize, Or.inr hcases,
        clientMapPop_capacity hresize hpop, ?_⟩
      · rw [tableCall, hpop]
        rfl
      · have hlen := hperm.length_eq
        rw [List.length_cons, ← h.size_eq, ← hwf.size_eq] at hlen
        rw [SizeMoved, changesEntries, hin]
        exact Or.inr hlen.symm
    · -- an absent id: nothing is removed, but the table may have been resized
      have hno : ∀ p, (id, p) ∉ m.entries :=
        fun p hp => hin ((clientMapContains_iff h.keyed).mpr ⟨p, hp⟩)
      obtain ⟨m', hpop, hwf, hperm⟩ := clientMapPop_of_not_mem h hno
      refine ⟨c, m₁, .sock none, m', hresize, ?_, hwf, hsize, Or.inr hcases,
        clientMapPop_capacity hresize hpop, ?_⟩
      · rw [tableCall, hpop]
        rfl
      · rw [SizeMoved, changesEntries, Bool.eq_false_iff.mpr hin, hwf.size_eq, hperm.length_eq,
          ← h.size_eq]
        rfl
  | get id => exact ⟨0, m, _, m, rfl, rfl, h, rfl, Or.inl ⟨rfl, rfl⟩, rfl, rfl⟩
  | contains id => exact ⟨0, m, _, m, rfl, rfl, h, rfl, Or.inl ⟨rfl, rfl⟩, rfl, rfl⟩
  | iter => exact ⟨0, m, _, m, rfl, rfl, h, rfl, Or.inl ⟨rfl, rfl⟩, rfl, rfl⟩

theorem SizeMoved.le {m m' : ClientMap σ} {changed : Bool} (h : SizeMoved m m' changed) :
    m'.size ≤ m.size + changed.toNat ∧ m.size ≤ m'.size + changed.toNat := by
  cases changed with
  | false =>
    have hsame : m'.size = m.size := h
    exact ⟨Nat.le_of_eq hsame, Nat.le_of_eq hsame.symm⟩
  | true =>
    rcases (h : m'.size = m.size + 1 ∨ m'.size + 1 = m.size) with h | h <;>
      exact ⟨by rw [Bool.toNat_true]; omega, by rw [Bool.toNat_true]; omega⟩

end Call

/-! ## Reachable tables -/

/-- `sizeof(CDTPClientMapNode *)`. -/
def SIZEOF_POINTER : Nat := 8

/-- The representation invariant, slot by slot. -/
structure ClientMap.SlotInvariant (m : ClientMap σ) : Prop where
  length : m.nodes.length = m.capacity
  capacity_pow : ∃ k, m.capacity = CDTP_MAP_MIN_CAPACITY * 2 ^ k
  size_eq : m.size = m.nodes.countP (·.allocated)
  distinct : ∀ i < m.capacity, ∀ j < m.capacity, (m.node i).allocated = true →
    (m.node j).allocated = true → (m.node i).clientId = (m.node j).clientId → i = j
  blank : ∀ i < m.capacity, (m.node i).allocated = false →
    (m.node i).clientId = SIZE_MAX ∧ (m.node i).sock = none
  size_le : m.size ≤ m.capacity
  occupancy : m.capacity = CDTP_MAP_MIN_CAPACITY ∨ m.capacity ≤ 4 * m.size

/-- What the resize step does on a table that is not too large: it returns — each inner loop of the
    rehash ends within the new capacity — and leaves a table where a slot is free and every probe
    for one ends within `capacity` tests; and none of the products it computes reaches `2 ^ 64`. -/
structure ClientMap.ResizesSafely (m : ClientMap σ) : Prop where
  returns : ∃ c m', clientMapTryResize m = some (c, m') ∧
    (∃ j < m'.capacity, (m'.node j).allocated = false) ∧
    (∀ id, ∃ hash, clientMapFreeSlot m'.capacity m' id = some hash) ∧
    m'.capacity * SIZEOF_POINTER < 2 ^ 64
  size_noWrap : m.size * 4 < 2 ^ 64
  capacity_noWrap : m.capacity * 2 < 2 ^ 64
  array_noWrap : m.capacity * SIZEOF_POINTER < 2 ^ 64

section Reachable

variable {m : ClientMap σ}

theorem ClientMap.WF.slotInvariant (h : m.WF) : m.SlotInvariant where
  length := h.length
  capacity_pow := h.capacity_pow
  size_eq := by
    rw [h.size_eq, ClientMap.entries_length]
  distinct := by
    intro i hi j hj hali halj hid
    rw [← h.length] at hi hj
    rw [ClientMap.node_eq hi] at hali hid
    rw [ClientMap.node_eq hj] at halj hid
    have hci := ClientMapNode.content_eq_some_iff.mpr ⟨hali, hid, rfl⟩
    have hcj := ClientMapNode.content_eq_some_iff.mpr ⟨halj, rfl, rfl⟩
    exact SlotTable.keys_nodup_iff.mp h.distinct i j _ _ _ hi hj hci hcj
  blank := by
    intro i hi hfree
    rw [← h.length] at hi
    rw [ClientMap.node_eq hi] at hfree ⊢
    rw [h.blank _ (List.getElem_mem hi) hfree]
    exact ⟨rfl, rfl⟩
  size_le := h.size_le_capacity
  occupancy := h.occupancy

/-- Under `2 ^ 58` entries the resize step is safe. -/
theorem ClientMap.WF.resizesSafely (h : m.WF) (hsmall : m.size < 2 ^ 58) : m.ResizesSafely := by
  have hmin : CDTP_MAP_MIN_CAPACITY = 16 := rfl
  have hocc := h.occupancy
  obtain ⟨c, m', hresize, hwf, hperm, hroom, -⟩ := clientMapTryResize_spec h
  have hocc' := hwf.occupancy
  have hsize : m'.size = m.size := by rw [hwf.size_eq, hperm.length_eq, ← h.size_eq]
  have hlt : m'.entries.length < m'.capacity := by rw [← hwf.size_eq]; exact hroom
  have hfind := clientMapFreeSlot_of_room hwf.length hlt
  obtain ⟨j, hj⟩ := hfind 0
  refine ⟨⟨c, m', hresize, ⟨j, clientMapFreeSlot_some hwf.capacity_pos hj⟩, hfind, ?_⟩, by omega,
    by omega, ?_⟩
  · rw [SIZEOF_POINTER]
    omega
  · rw [SIZEOF_POINTER]
    omega

/-- **Every table that fewer than `2 ^ 58` calls reach** from `_cdtp_client_map()` satisfies the
    representation invariant, its next resize step is safe, and none of the calls runs forever. -/
theorem clientMap_reachable (calls : List (TableCall σ)) (hfew : calls.length < 2 ^ 58) :
    ∃ replies m, Runs.answers tableCall clientMap calls = some (replies, m) ∧ m.SlotInvariant ∧
      m.ResizesSafely := by
  have hstep : ∀ (m : ClientMap σ) (call : TableCall σ), m.WF →
      ∃ r m', tableCall m call = some (r, m') ∧ m'.WF ∧ m'.size ≤ m.size + 1 := by
    intro m call h
    obtain ⟨-, -, r, m', -, hcall, hwf, -, -, -, hmoved⟩ := tableCall_spec h call
    have hle := hmoved.le.1
    have hbool := Bool.toNat_le (changesEntries m call)
    exact ⟨r, m', hcall, hwf, by omega⟩
  obtain ⟨replies, m, hrun, hwf, hsize⟩ := Runs.answers_bounded hstep calls clientMap clientMap_wf
  have hzero : (clientMap : ClientMap σ).size = 0 := rfl
  exact ⟨replies, m, hrun, hwf.slotInvariant, hwf.resizesSafely (by omega)⟩

/-- Seventeen insertions, which grow the table, and a pop of an absent id. -/
theorem clientMap_reachable_grown :
    ((List.range 17).map (fun i => TableCall.set i (some i)) ++ [TableCall.pop 99]).length < 2 ^ 58 ∧
      ∃ replies m, Runs.answers tableCall (clientMap : ClientMap Nat)
          ((List.range 17).map (fun i => TableCall.set i (some i)) ++ [TableCall.pop 99])
          = some (replies, m) ∧ m.SlotInvariant ∧ m.ResizesSafely :=
  ⟨by decide, clientMap_reachable _ (by decide)⟩

end Reachable

/-! ## Resizes are far apart -/

/-- What one call does to the table: the return code of its resize step, the capacity and the size right
    after that step, and whether the call changed the entries. -/
structure CallEffect where
  code : Int
  capacity : Nat
  size : Nat
  changed : Bool
  deriving DecidableEq

/-- One call, reporting its effect. -/
def effectCall (m : ClientMap σ) (call : TableCall σ) : Option (CallEffect × ClientMap σ) := do
  let (code, m₁) ← resizeStep m call
  let (_, m') ← tableCall m call
  some ({ code := code, capacity := m₁.capacity, size := m₁.size,
          changed := changesEntries m call }, m')

/-- How many calls changed the entries. -/
def changes (effects : List CallEffect) : Nat := effects.countP (·.changed)

section Spacing

variable {m m' : ClientMap σ}

theorem changes_cons (e : CallEffect) (effects : List CallEffect) :
    changes (e :: effects) = e.changed.toNat + changes effects := by
  rw [changes, changes, List.countP_cons]
  cases e.changed <;> simp [Nat.add_comm]

/-- The effect `e` of a call that takes `m` to `m'`: a resize leaves the table half full and needs it
    full or a quarter full; the rest of the call moves the size by one at most. -/
structure CallEffect.Describes (e : CallEffect) (m m' : ClientMap σ) : Prop where
  half : e.code ≠ 0 → 2 * e.size = e.capacity
  threshold : e.code ≠ 0 → m.size = m.capacity ∨ 4 * m.size = m.capacity
  kept : e.code = 0 → e.capacity = m.capacity
  size_eq : e.size = m.size
  capacity_eq : m'.capacity = e.capacity
  moved : m'.size ≤ m.size + e.changed.toNat ∧ m.size ≤ m'.size + e.changed.toNat

theorem ResizeOutcome.half {c : Int} (h : ResizeOutcome m m' c) (hsize : m'.size = m.size)
    (hc : c ≠ 0) :
    2 * m'.size = m'.capacity ∧ (m.size = m.capacity ∨ 4 * m.size = m.capacity) := by
  cases h with
  | grow hfull hcap => exact ⟨by omega, Or.inl hfull⟩
  | shrink hgt hquarter hcap => exact ⟨by omega, Or.inr (by omega)⟩
  | keep => exact absurd rfl hc

theorem ResizeOutcome.same (h : ResizeOutcome m m' 0) : m' = m := by
  generalize hc : (0 : Int) = c at h
  cases h with
  | grow => exact absurd hc (by decide)
  | shrink => exact absurd hc (by decide)
  | keep hsame => exact hsame

theorem effectCall_spec (h : m.WF) (call : TableCall σ) :
    ∃ e m', effectCall m call = some (e, m') ∧ m'.WF ∧ e.Describes m m' := by
  obtain ⟨c, m₁, r, m', hresize, hcall, hwf, hsize, hcases, hcap, hmoved⟩ := tableCall_spec h call
  refine ⟨{ code := c, capacity := m₁.capacity, size := m₁.size, changed := changesEntries m call },
    m', by simp [effectCall, hresize, hcall], hwf, ?_⟩
  -- a call that does not get to its resize step reports code 0
  rcases hcases with ⟨rfl, rfl⟩ | hcases
  · exact ⟨fun hc => absurd rfl hc, fun hc => absurd rfl hc, fun _ => rfl, hsize, hcap, hmoved.le⟩
  · refine ⟨fun hc => (hcases.half hsize hc).1, fun hc => (hcases.half hsize hc).2, ?_, hsize, hcap,
      hmoved.le⟩
    intro hc
    have hc0 : c = 0 := hc
    subst hc0
    rw [hcases.same]

/-- The effect of a call that is known to return. -/
theorem effectCall_describes (h : m.WF) {call : TableCall σ} {e : CallEffect}
    (hcall : effectCall m call = some (e, m')) : m'.WF ∧ e.Describes m m' := by
  obtain ⟨e', m'', hcall', hwf, hdesc⟩ := effectCall_spec h call
  rw [hcall, Option.some.injEq, Prod.mk.injEq] at hcall'
  obtain ⟨rfl, rfl⟩ := hcall'
  exact ⟨hwf, hdesc⟩

theorem effects_wf {calls : List (TableCall σ)} {effects : List CallEffect} (h : m.WF)
    (hrun : Runs.answers effectCall m calls = some (effects, m')) : m'.WF := by
  induction effects generalizing m calls with
  | nil =>
    rw [(Runs.answers_nil_iff.mp hrun).2]
    exact h
  | cons e effects ih =>
    obtain ⟨call, calls', m₁, rfl, hcall, hrest⟩ := Runs.answers_cons_iff.mp hrun
    exact ih (effectCall_describes h hcall).1 hrest

/-- **Between two resizes** the capacity stays, and the size drifts by at most the number of calls that
    changed the entries. -/
theorem quiet_drift {calls : List (TableCall σ)} {effects : List CallEffect} (h : m.WF)
    (hrun : Runs.answers effectCall m calls = some (effects, m'))
    (hquiet : ∀ e ∈ effects, e.code = 0) :
    m'.WF ∧ m'.capacity = m.capacity ∧ m'.size ≤ m.size + changes effects ∧
      m.size ≤ m'.size + changes effects := by
  induction effects generalizing m calls with
  | nil =>
    rw [(Runs.answers_nil_iff.mp hrun).2]
    exact ⟨h, rfl, Nat.le_refl _, Nat.le_refl _⟩
  | cons e effects ih =>
    obtain ⟨call, calls', m₁, rfl, hcall, hrest⟩ := Runs.answers_cons_iff.mp hrun
    obtain ⟨hwf, hdesc⟩ := effectCall_describes h hcall
    obtain ⟨hwf', hcap, hup, hdown⟩ := ih hwf hrest fun x hx => hquiet x (List.mem_cons_of_mem e hx)
    have hmoved := hdesc.moved
    have hkept := hdesc.kept (hquiet e List.mem_cons_self)
    rw [changes_cons]
    exact ⟨hwf', by rw [hcap, hdesc.capacity_eq, hkept], by omega, by omega⟩

/-- **The map cannot thrash.**  Over every sequence of calls from an empty map: right after a resize the
    size is half the capacity, and from one resize to the next at least a quarter of that capacity
    many calls change the entries, so that at least three calls lie between them. -/
theorem clientMap_resizes_spaced (calls : List (TableCall σ)) :
    ∃ effects m, Runs.answers effectCall (clientMap : ClientMap σ) calls = some (effects, m) ∧
      (∀ e ∈ effects, e.code ≠ 0 → e.size = e.capacity / 2) ∧
      ∀ pre e mid e' post, effects = pre ++ e :: (mid ++ e' :: post) →
        e.code ≠ 0 → (∀ x ∈ mid, x.code = 0) → e'.code ≠ 0 →
        e.capacity / 4 ≤ changes (e :: mid) ∧ 3 ≤ mid.length := by
  have hstep : ∀ (m : ClientMap σ) (call : TableCall σ), m.WF →
      ∃ e m', effectCall m call = some (e, m') ∧ m'.WF ∧ m'.size ≤ m.size + 1 := by
    intro m call h
    obtain ⟨e, m', hcall, hwf, hdesc⟩ := effectCall_spec h call
    have hle := hdesc.moved.1
    have hbool := Bool.toNat_le e.changed
    exact ⟨e, m', hcall, hwf, by omega⟩
  obtain ⟨effects, m, hrun, -, -⟩ := Runs.answers_bounded hstep calls clientMap clientMap_wf
  refine ⟨effects, m, hrun, ?_, ?_⟩
  · intro e he hc
    obtain ⟨pre, post, rfl⟩ := List.append_of_mem he
    obtain ⟨calls₁, calls₂, m₁, rfl, hrun₁, hrun₂⟩ := Runs.answers_split hrun
    obtain ⟨call, -, m₂, -, hcall, -⟩ := Runs.answers_cons_iff.mp hrun₂
    have hhalf := (effectCall_describes (effects_wf clientMap_wf hrun₁) hcall).2.half hc
    omega
  · intro pre e mid e' post heq hc hquiet hc'
    subst heq
    -- the run, cut before the first resize, after it, and before the second
    obtain ⟨calls₁, calls₂, m₁, rfl, hrun₁, hrun₂⟩ := Runs.answers_split hrun
    obtain ⟨call, calls₃, m₂, rfl, hcall, hrun₃⟩ := Runs.answers_cons_iff.mp hrun₂
    obtain ⟨calls₄, calls₅, m₃, rfl, hrun₄, hrun₅⟩ := Runs.answers_split hrun₃
    obtain ⟨call', -, m₄, -, hcall', -⟩ := Runs.answers_cons_iff.mp hrun₅
    obtain ⟨hwf₂, hdesc⟩ := effectCall_describes (effects_wf clientMap_wf hrun₁) hcall
    obtain ⟨hwf₃, hcap, hup, hdown⟩ := quiet_drift hwf₂ hrun₄ hquiet
    obtain ⟨-, hdesc'⟩ := effectCall_describes hwf₃ hcall'
    have hhalf := hdesc.half hc
    have hsize := hdesc.size_eq
    have hcap₂ := hdesc.capacity_eq
    have hmoved := hdesc.moved
    have hmin := hwf₂.min_le_capacity
    have hmin16 : CDTP_MAP_MIN_CAPACITY = 16 := rfl
    have hcount : e.capacity / 4 ≤ changes (e :: mid) := by
      rw [changes_cons]
      rcases hdesc'.threshold hc' with hfull | hquarter
      · omega
      · omega
    have hle : changes (e :: mid) ≤ mid.length + 1 := List.countP_le_length
    exact ⟨hcount, by omega⟩

end Spacing

end Cdtp
