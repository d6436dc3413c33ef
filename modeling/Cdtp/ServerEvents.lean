/-
  Events and client ids over whole runs of the serve loop.

  Of a state, only its `History` matters here: the client map, the next id, and the logs.  One theorem,
  `serveStep_effect`, says everything that a step can do to it (`Effect`); the invariant `Coherent` is
  then a short case analysis over the effects, and holds of every run by induction.

  `Life id` is the language of the entries about one client: a connect, any number of receives, and at
  most one end, which is a disconnect or a removal.  The invariant says that the entries about every id
  form such a word, and that the client map holds exactly the ids whose word is open.
-/
import Cdtp.Lib.Runs
import Cdtp.ServerSpec

namespace Cdtp

open CMem

/-! ## The life of a client -/

/-- How far a client has come. -/
inductive Stage where
  | unseen
  | connected
  | ended
  deriving DecidableEq, Repr

/-- The words of entries about `id`, with the stage they lead to. -/
inductive Life (id : Nat) : List Entry → Stage → Prop where
  | unseen : Life id [] .unseen
  | connect (started : Bool) : Life id [.connect id started] .connected
  | recv {l : List Entry} (h : Life id l .connected) (body : Bytes) (payload : Option CryptoData) :
      Life id (l ++ [.recv id body payload]) .connected
  | disconnect {l : List Entry} (h : Life id l .connected) (started : Bool) :
      Life id (l ++ [.disconnect id started]) .ended
  | removed {l : List Entry} (h : Life id l .connected) : Life id (l ++ [.removed id]) .ended

/-- Nothing was said about a client that was not seen yet. -/
theorem Life.eq_nil {id : Nat} {l : List Entry} {stage : Stage} (h : Life id l stage)
    (hstage : stage = .unseen) : l = [] := by
  cases h with
  | unseen => rfl
  | _ => exact absurd hstage (by simp)

/-- The entries about one client. -/
def trace (log : List Entry) (id : Nat) : List Entry := log.filter fun e => e.id = id

theorem trace_append_self (log : List Entry) (e : Entry) :
    trace (log ++ [e]) e.id = trace log e.id ++ [e] := by
  rw [trace, List.filter_append, List.filter_singleton, decide_eq_true rfl]
  rfl

theorem trace_append_other {log : List Entry} {e : Entry} {id : Nat} (h : e.id ≠ id) :
    trace (log ++ [e]) id = trace log id := by
  rw [trace, List.filter_append, List.filter_singleton, decide_eq_false h]
  exact List.append_nil _

/-! ## What a step can do to the history -/

/-- The part of the loop's state that the events are about. -/
structure History where
  clients : Clients CDTPSocket
  nextClientId : Nat
  log : List Entry
  accepted : List (Nat × Nat)
  setResults : List Bool

def ServeState.history (s : ServeState) : History where
  clients := s.server.clients
  nextClientId := s.server.nextClientId
  log := s.log
  accepted := s.accepted
  setResults := s.setResults

/-- A new id for the accepted descriptor `sock`. -/
def History.allocate (h : History) (sock : Nat) : History :=
  { h with nextClientId := (h.nextClientId + 1) % SIZE_MOD,
           accepted := h.accepted ++ [(h.nextClientId, sock)] }

/-- The new socket enters the map, and `on_connect` is called. -/
def History.addClient (h : History) (id : Nat) (client : CDTPSocket) (started : Bool) : History :=
  { h with clients := (h.clients.set id client).2,
           setResults := h.setResults ++ [(h.clients.set id client).1],
           log := h.log ++ [.connect id started] }

/-- The client `id` leaves the map, with the entry `e`. -/
def History.leave (h : History) (id : Nat) (e : Entry) : History :=
  { h with clients := (h.clients.pop id).2, log := h.log ++ [e] }

/-- Everything that one step can do. -/
inductive Effect (h : History) : History → Prop where
  | quiet : Effect h h
  | allocated (sock : Nat) : Effect h (h.allocate sock)
  | admitted (client : CDTPSocket) (started : Bool) :
      Effect h ((h.allocate client.sock).addClient h.nextClientId client started)
  | received (id : Nat) (body : Bytes) (payload : Option CryptoData)
      (hid : (h.clients.get id).isSome) :
      Effect h { h with log := h.log ++ [.recv id body payload] }
  | dropped (id : Nat) (started : Bool) (hid : (h.clients.get id).isSome) :
      Effect h (h.leave id (.disconnect id started))
  | removed (id : Nat) (hid : (h.clients.get id).isSome) : Effect h (h.leave id (.removed id))
  -- a pop that finds nothing may still shrink the table
  | missed (id : Nat) (hid : h.clients.get id = none) :
      Effect h { h with clients := (h.clients.pop id).2 }

/-! ## Every step is one of the effects -/

section Step

variable {Ctx PKey : Type} {M : Machine} {s : ServeState}

theorem effect_dropClient (s : ServeState) (id : Nat) :
    Effect s.history (s.dropClient id).history := by
  cases hget : s.server.clients.get id with
  | none =>
    rw [dropClient_none hget]
    exact .quiet
  | some client =>
    rw [dropClient_some hget]
    exact .dropped id s.server.onDisconnect (by
      show (s.server.clients.get id).isSome
      rw [hget]
      rfl)

/-- Whoever connects is given an id, and enters the map if the key exchange succeeds. -/
theorem effect_acceptConnection (s : ServeState) (c : Connection PKey) (O : OpenSSL Ctx PKey) :
    Effect s.history (s.acceptConnection M O c).history := by
  rcases @acceptConnection_cases Ctx PKey M s c O with
    ⟨d, -, -, -, hs⟩ | ⟨-, status, rejected, errors, -, -, hs⟩
  · rw [hs]
    exact .admitted { sock := c.sock, key := { key := d.data, keySize := d.dataSize } }
      s.server.onConnect
  · rw [hs]
    exact .allocated c.sock

theorem effect_clientTurn {id : Nat} {client : CDTPSocket}
    (hget : s.server.clients.get id = some client) (header body : ReadResult) (O : OpenSSL Ctx PKey) :
    Effect s.history (s.clientTurn M O id header body).history := by
  have hid : (s.history.clients.get id).isSome := by
    show (s.server.clients.get id).isSome
    rw [hget]
    rfl
  rcases @clientTurn_cases Ctx PKey M O s id client hget header body with
    ⟨-, hs | hs | ⟨buffer, payload, hs⟩⟩ | ⟨-, log, status, errors, -, hlog, hs⟩
  · rw [hs]
    exact effect_dropClient (s.buffered header) id
  · rw [hs]
    exact .quiet
  · rw [hs]
    exact .received id buffer payload hid
  · rw [hs]
    rcases hlog with rfl | ⟨buffer, rfl⟩
    · exact .quiet
    · exact .received id buffer none hid

/-- A removal takes the client out of the map, or misses it. -/
theorem effect_removeClient (hserving : s.server.serving = true) (id : Nat) (closeOk : Bool) :
    Effect s.history (s.removeClient id closeOk).history := by
  cases hg : s.server.clients.get id with
  | none =>
    rw [removeClient_none hserving hg]
    exact .missed id hg
  | some client =>
    obtain ⟨errors, -, hr⟩ := removeClient_some hserving hg closeOk
    rw [hr]
    exact .removed id (by
      show (s.server.clients.get id).isSome
      rw [hg]
      rfl)

/-- **What a step does to the history.** -/
theorem serveStep_effect (h : LoopInv s) (i : ServeInput Ctx PKey) :
    Effect s.history (serveStep M s i).history := by
  unfold serveStep
  split
  · rw [h.serving, if_neg Bool.noConfusion]
    unfold ServeState.acceptError
    split
    · exact .quiet
    · split
      · exact .quiet
      · exact .quiet
  · rw [h.serving, if_neg Bool.noConfusion]
    exact effect_acceptConnection s _ _
  · rename_i id sock rest header body O hstatus htodo
    obtain ⟨-, -, hget⟩ := h.turn htodo
    exact @effect_clientTurn Ctx PKey M { s with todo := rest } id sock hget header body O
  · exact effect_removeClient h.serving _ _
  · exact .quiet

end Step

/-! ## The history of every run is coherent -/

/-- Ids are given out in order, every insertion succeeded, every stored client is an accepted one, and
    the entries about each id tell whether it is stored. -/
structure Coherent (h : History) : Prop where
  next_eq : h.nextClientId = h.accepted.length
  ids_eq : h.accepted.map Prod.fst = List.range h.accepted.length
  sets : ∀ b ∈ h.setResults, b = true
  stored : ∀ id client, h.clients.get id = some client → (id, client.sock) ∈ h.accepted
  life : ∀ id, ∃ stage, Life id (trace h.log id) stage ∧
    ((h.clients.get id).isSome ↔ stage = .connected) ∧ (h.accepted.length ≤ id → stage = .unseen)

theorem Fresh.coherent {s : ServeState} (h : Fresh s) : Coherent s.history where
  next_eq := by
    show s.server.nextClientId = s.accepted.length
    rw [h.nextClientId, h.accepted]
    rfl
  ids_eq := by
    show s.accepted.map Prod.fst = List.range s.accepted.length
    rw [h.accepted]
    rfl
  sets b hb := by
    have hb' : b ∈ s.setResults := hb
    rw [h.setResults] at hb'
    exact absurd hb' (by simp)
  stored id client hget := by
    have hget' : s.server.clients.get id = some client := hget
    rw [h.clients] at hget'
    exact absurd hget' (by simp)
  life id := by
    have htrace : trace s.history.log id = [] := by
      show trace s.log id = []
      rw [h.log]
      rfl
    have hget : s.history.clients.get id = none := h.clients id
    refine ⟨.unseen, by rw [htrace]; exact .unseen, ?_, fun _ => rfl⟩
    rw [hget]
    exact ⟨fun h => absurd h (by simp), fun h => absurd h (by simp)⟩

/-- A stored id has been given out. -/
theorem Coherent.lt {h : History} (hc : Coherent h) {id : Nat} {client : CDTPSocket}
    (hget : h.clients.get id = some client) : id < h.accepted.length := by
  have hmem : id ∈ h.accepted.map Prod.fst := List.mem_map_of_mem (hc.stored id client hget)
  rw [hc.ids_eq] at hmem
  exact List.mem_range.mp hmem

/-- The next id belongs to nobody. -/
theorem Coherent.next_fresh {h : History} (hc : Coherent h) :
    h.clients.get h.nextClientId = none := by
  cases hget : h.clients.get h.nextClientId with
  | none => rfl
  | some client =>
    have hlt := hc.lt hget
    rw [hc.next_eq] at hlt
    omega

theorem coherent_allocate {h : History} (hc : Coherent h) (sock : Nat)
    (hbound : (h.allocate sock).accepted.length < SIZE_MOD) : Coherent (h.allocate sock) := by
  have hlen : (h.allocate sock).accepted.length = h.accepted.length + 1 := by
    show (h.accepted ++ [_]).length = _
    rw [List.length_append]
    rfl
  refine ⟨?_, ?_, hc.sets, ?_, ?_⟩
  · show (h.nextClientId + 1) % SIZE_MOD = _
    rw [hlen, hc.next_eq, Nat.mod_eq_of_lt (by omega)]
  · rw [hlen, List.range_succ, ← hc.ids_eq]
    show (h.accepted ++ [(h.nextClientId, sock)]).map Prod.fst = _
    rw [List.map_append, hc.next_eq]
    rfl
  · intro id client hget
    exact List.mem_append_left _ (hc.stored id client hget)
  · intro id
    obtain ⟨stage, hlife, hmem, hunseen⟩ := hc.life id
    exact ⟨stage, hlife, hmem, fun hle => hunseen (by omega)⟩

/-- In a table with distinct keys, the pairs of a key are the one that is there. -/
theorem filter_key_eq_singleton {α : Type} {l : List (Nat × α)}
    (hkeys : l.map Prod.fst = List.range l.length) {k : Nat} {v : α} (hmem : (k, v) ∈ l) :
    l.filter (fun a => a.1 = k) = [(k, v)] := by
  have hnodup : (l.map Prod.fst).Nodup := by
    rw [hkeys]
    exact List.nodup_range
  clear hkeys
  induction l with
  | nil => exact absurd hmem (by simp)
  | cons a l ih =>
    rw [List.map_cons, List.nodup_cons] at hnodup
    rcases List.mem_cons.mp hmem with rfl | hmem
    · have hnone : l.filter (fun a => a.1 = k) = [] := by
        rw [List.filter_eq_nil_iff]
        intro b hb hbk
        exact hnodup.1 (List.mem_map.mpr ⟨b, hb, of_decide_eq_true hbk⟩)
      rw [List.filter_cons, if_pos (by simp), hnone]
    · have hne : a.1 ≠ k := by
        rintro rfl
        exact hnodup.1 (List.mem_map.mpr ⟨_, hmem, rfl⟩)
      rw [List.filter_cons, if_neg (by simp [hne]), ih hmem hnodup.2]

/-- The new client takes the id that was just given out, which nobody had before. -/
theorem coherent_addClient {h : History} (hc : Coherent h) (client : CDTPSocket) (started : Bool)
    (hbound : (h.allocate client.sock).accepted.length < SIZE_MOD) :
    Coherent ((h.allocate client.sock).addClient h.nextClientId client started) := by
  have hall := coherent_allocate hc client.sock hbound
  have hlen : (h.allocate client.sock).accepted.length = h.accepted.length + 1 := by
    show (h.accepted ++ [_]).length = _
    rw [List.length_append]
    rfl
  obtain ⟨hset, hget⟩ := Clients.set_of_none hc.next_fresh client
  refine ⟨hall.next_eq, hall.ids_eq, ?_, ?_, ?_⟩
  · intro b hb
    rcases List.mem_append.mp hb with hb | hb
    · exact hc.sets b hb
    · rw [List.mem_singleton.mp hb]
      exact hset
  · intro id client' hid
    have hid' : (h.clients.set h.nextClientId client).2.get id = some client' := hid
    by_cases hne : id = h.nextClientId
    · subst hne
      rw [hget, Function.update_self] at hid'
      have hclient : client' = client := (Option.some.inj hid').symm
      subst hclient
      exact List.mem_append_right _ List.mem_cons_self
    · rw [hget, Function.update_of_ne hne] at hid'
      exact hall.stored id client' hid'
  · intro id
    show ∃ stage, Life id (trace (h.log ++ [.connect h.nextClientId started]) id) stage ∧
      (((h.clients.set h.nextClientId client).2.get id).isSome ↔ stage = .connected) ∧
      ((h.allocate client.sock).accepted.length ≤ id → stage = .unseen)
    rw [hget]
    by_cases hne : id = h.nextClientId
    · subst hne
      -- nothing was said about this id yet
      obtain ⟨stage, hlife, -, hunseen⟩ := hc.life h.nextClientId
      have hstage := hunseen (by rw [hc.next_eq])
      subst hstage
      have hnil := hlife.eq_nil rfl
      have htrace := trace_append_self h.log (.connect h.nextClientId started)
      refine ⟨.connected, ?_, ?_, ?_⟩
      · change trace _ h.nextClientId = trace _ h.nextClientId ++ _ at htrace
        rw [htrace, hnil]
        exact .connect started
      · rw [Function.update_self]
        exact ⟨fun _ => rfl, fun _ => rfl⟩
      · intro hle
        rw [hlen, hc.next_eq] at hle
        omega
    · obtain ⟨stage, hlife, hmem, hunseen⟩ := hc.life id
      rw [Function.update_of_ne hne, trace_append_other (fun heq => hne heq.symm)]
      exact ⟨stage, hlife, hmem, fun hle => hunseen (by omega)⟩

/-- A stored client is in the middle of its life. -/
theorem Coherent.connected {h : History} (hc : Coherent h) {id : Nat}
    (hid : (h.clients.get id).isSome) : Life id (trace h.log id) .connected := by
  obtain ⟨stage, hlife, hmem, -⟩ := hc.life id
  rw [← hmem.mp hid]
  exact hlife

/-- One more entry about a stored client that stays. -/
theorem coherent_received {h : History} (hc : Coherent h) {id : Nat} {body : Bytes}
    {payload : Option CryptoData} (hid : (h.clients.get id).isSome) :
    Coherent { h with log := h.log ++ [.recv id body payload] } := by
  refine ⟨hc.next_eq, hc.ids_eq, hc.sets, hc.stored, ?_⟩
  intro id'
  obtain ⟨stage, hlife, hmem, hunseen⟩ := hc.life id'
  by_cases hne : id = id'
  · subst hne
    have htrace := trace_append_self h.log (.recv id body payload)
    refine ⟨stage, ?_, hmem, hunseen⟩
    show Life id (trace (h.log ++ [.recv id body payload]) id) stage
    change trace _ id = trace _ id ++ _ at htrace
    rw [htrace, hmem.mp hid]
    exact .recv (hc.connected hid) body payload
  · refine ⟨stage, ?_, hmem, hunseen⟩
    show Life id' (trace (h.log ++ [.recv id body payload]) id') stage
    rw [trace_append_other (show (Entry.recv id body payload).id ≠ id' from hne)]
    exact hlife

/-- A stored client leaves, with an entry that ends its life. -/
theorem coherent_leave {h : History} (hc : Coherent h) {e : Entry}
    (hid : (h.clients.get e.id).isSome)
    (hend : ∀ l, Life e.id l .connected → Life e.id (l ++ [e]) .ended) :
    Coherent (h.leave e.id e) := by
  have hget : (h.clients.pop e.id).2.get = Function.update h.clients.get e.id none :=
    h.clients.get_pop e.id
  refine ⟨hc.next_eq, hc.ids_eq, hc.sets, ?_, ?_⟩
  · intro id client hidc
    have hidc' : (h.clients.pop e.id).2.get id = some client := hidc
    by_cases hne : id = e.id
    · rw [hget, hne, Function.update_self] at hidc'
      exact absurd hidc' (by simp)
    · rw [hget, Function.update_of_ne hne] at hidc'
      exact hc.stored id client hidc'
  · intro id
    obtain ⟨stage, hlife, hmem, hunseen⟩ := hc.life id
    show ∃ stage, Life id (trace (h.log ++ [e]) id) stage ∧
      (((h.clients.pop e.id).2.get id).isSome ↔ stage = .connected) ∧
      (h.accepted.length ≤ id → stage = .unseen)
    rw [hget]
    by_cases hne : id = e.id
    · subst hne
      -- a client that ends was connected, so its id has been given out
      refine ⟨.ended, ?_, ?_, ?_⟩
      · rw [trace_append_self]
        exact hend _ (hc.connected hid)
      · rw [Function.update_self]
        exact ⟨fun h => absurd h (by simp), fun h => absurd h (by simp)⟩
      · intro hle
        have hstage := hunseen hle
        rw [hmem.mp hid] at hstage
        exact absurd hstage (by simp)
    · rw [Function.update_of_ne hne, trace_append_other (fun heq => hne heq.symm)]
      exact ⟨stage, hlife, hmem, hunseen⟩

theorem coherent_missed {h : History} (hc : Coherent h) {id : Nat} (hid : h.clients.get id = none) :
    Coherent { h with clients := (h.clients.pop id).2 } := by
  have hget : (h.clients.pop id).2.get = h.clients.get := by
    rw [Clients.get_pop, ← hid, Function.update_eq_self]
  refine ⟨hc.next_eq, hc.ids_eq, hc.sets, ?_, ?_⟩
  · intro id' client hidc
    exact hc.stored id' client (by rw [← hget]; exact hidc)
  · intro id'
    obtain ⟨stage, hlife, hmem, hunseen⟩ := hc.life id'
    refine ⟨stage, hlife, ?_, hunseen⟩
    rw [← hget] at hmem
    exact hmem

/-- Every effect keeps the history coherent, as long as no id is given out twice. -/
theorem Effect.coherent {h h' : History} (he : Effect h h') (hc : Coherent h)
    (hbound : h'.accepted.length < SIZE_MOD) : Coherent h' := by
  cases he with
  | quiet => exact hc
  | allocated sock => exact coherent_allocate hc sock hbound
  | admitted client started => exact coherent_addClient hc client started hbound
  | received id body payload hid => exact coherent_received hc hid
  | dropped id started hid =>
    exact @coherent_leave h hc (.disconnect id started) hid fun l hl => .disconnect hl started
  | removed id hid => exact @coherent_leave h hc (.removed id) hid fun l hl => .removed hl
  | missed id hid => exact coherent_missed hc hid

/-- A step accepts at most once, and no step takes an accept back. -/
theorem Effect.accepted_length {h h' : History} (he : Effect h h') :
    h'.accepted.length = h.accepted.length ∨ h'.accepted.length = h.accepted.length + 1 := by
  cases he with
  | allocated sock =>
    right
    show (h.accepted ++ [_]).length = _
    rw [List.length_append]
    rfl
  | admitted client started =>
    right
    show (h.accepted ++ [_]).length = _
    rw [List.length_append]
    rfl
  | _ => exact .inl rfl

theorem Effect.accepted_le {h h' : History} (he : Effect h h') :
    h.accepted.length ≤ h'.accepted.length := by
  have hlen := he.accepted_length
  omega

/-- Nothing more is said about a client that had an id and is not stored: ids are not given out again,
    and all entries but a connect are about stored clients. -/
theorem Effect.gone {h h' : History} (he : Effect h h') (hc : Coherent h) {id : Nat}
    (hid : h.clients.get id = none) (hlt : id < h.accepted.length) :
    trace h'.log id = trace h.log id ∧ h'.clients.get id = none ∧ id < h'.accepted.length := by
  have hlt' := Nat.lt_of_lt_of_le hlt he.accepted_le
  have hne : ∀ {id'}, (h.clients.get id').isSome → id' ≠ id := by
    rintro id' hsome rfl
    rw [hid] at hsome
    exact absurd hsome (by simp)
  -- taking another client out of the map
  have hpop : ∀ id', (h.clients.pop id').2.get id = none := by
    intro id'
    rw [Clients.get_pop]
    by_cases heq : id = id'
    · rw [heq, Function.update_self]
    · rw [Function.update_of_ne heq, hid]
  cases he with
  | quiet => exact ⟨rfl, hid, hlt⟩
  | allocated sock => exact ⟨rfl, hid, hlt'⟩
  | admitted client started =>
    have hnext : h.nextClientId ≠ id := by
      rw [hc.next_eq]
      omega
    refine ⟨trace_append_other hnext, ?_, hlt'⟩
    show (h.clients.set h.nextClientId client).2.get id = none
    rw [(Clients.set_of_none hc.next_fresh client).2, Function.update_of_ne (Ne.symm hnext), hid]
  | received id' body payload hsome => exact ⟨trace_append_other (hne hsome), hid, hlt'⟩
  | dropped id' started hsome => exact ⟨trace_append_other (hne hsome), hpop id', hlt'⟩
  | removed id' hsome => exact ⟨trace_append_other (hne hsome), hpop id', hlt'⟩
  | missed id' hmiss => exact ⟨rfl, hpop id', hlt'⟩

/-- The invariant of a whole run: the loop's own, and coherence until the ids run out. -/
def RunInv (s : ServeState) : Prop :=
  LoopInv s ∧ (s.accepted.length < SIZE_MOD → Coherent s.history)

theorem Fresh.runInv {s : ServeState} (h : Fresh s) : RunInv s := ⟨h.loopInv, fun _ => h.coherent⟩

/-- The client `id` is gone, and `word` is all that will ever be said about it. -/
def Gone (id : Nat) (word : List Entry) (s : ServeState) : Prop :=
  RunInv s ∧ (s.accepted.length < SIZE_MOD →
    trace s.log id = word ∧ s.server.clients.get id = none ∧ id < s.accepted.length)

section Run

variable {Ctx PKey : Type} {M : Machine}

theorem serveStep_runInv {s : ServeState} (h : RunInv s) (i : ServeInput Ctx PKey) :
    RunInv (serveStep M s i) := by
  obtain ⟨hloop, hcoherent⟩ := h
  have heffect := @serveStep_effect Ctx PKey M s hloop i
  refine ⟨serveStep_loopInv hloop i, ?_⟩
  intro hbound
  -- the bound on the accepts so far follows from the bound after the step
  exact heffect.coherent (hcoherent (Nat.lt_of_le_of_lt heffect.accepted_le hbound)) hbound

/-- Only an accept gives an id out. -/
theorem serveStep_accepted {s : ServeState} (h : LoopInv s) {i : ServeInput Ctx PKey}
    (hi : ∀ c O, i ≠ .acceptConnection c O) : (serveStep M s i).accepted = s.accepted := by
  unfold serveStep
  split
  · rw [h.serving, if_neg Bool.noConfusion]
    unfold ServeState.acceptError
    split
    · rfl
    · split
      · rfl
      · rfl
  · exact absurd rfl (hi _ _)
  · rename_i id sock rest header body O hstatus htodo
    obtain ⟨-, -, hget⟩ := h.turn htodo
    rcases @clientTurn_cases Ctx PKey M O { s with todo := rest } id sock hget header body with
      ⟨-, hs | hs | ⟨buffer, payload, hs⟩⟩ | ⟨-, log, status, errors, -, -, hs⟩
    · rw [hs]
      exact dropClient_accepted (({ s with todo := rest } : ServeState).buffered header) id
    · rw [hs]
      rfl
    · rw [hs]
      rfl
    · rw [hs]
      rfl
  · rename_i id closeOk _ _
    cases hg : s.server.clients.get id with
    | none => rw [removeClient_none h.serving hg]
    | some client =>
      obtain ⟨errors, -, hr⟩ := removeClient_some h.serving hg closeOk
      rw [hr]
  · rfl

/-- No step brings a client back. -/
theorem serveStep_gone {s : ServeState} {id : Nat} {word : List Entry} (h : Gone id word s)
    (i : ServeInput Ctx PKey) : Gone id word (serveStep M s i) := by
  obtain ⟨hinv, hgone⟩ := h
  have heffect := @serveStep_effect Ctx PKey M s hinv.1 i
  refine ⟨serveStep_runInv hinv i, ?_⟩
  intro hbound
  have hbefore := Nat.lt_of_le_of_lt heffect.accepted_le hbound
  obtain ⟨hword, hid, hlt⟩ := hgone hbefore
  obtain ⟨hsame, hrest⟩ := heffect.gone (hinv.2 hbefore) hid hlt
  exact ⟨hsame.trans hword, hrest⟩

/-- A removal that finds its client says so, and the client is gone. -/
theorem remove_gone {s : ServeState} (h : RunInv s) (hstatus : s.status = .running)
    (htodo : s.todo = []) {id : Nat} (hid : (s.server.clients.get id).isSome) (closeOk : Bool) :
    Gone id (trace s.log id ++ [.removed id])
      (@serveStep Ctx PKey M s (.remove id closeOk)) := by
  refine ⟨serveStep_runInv h _, ?_⟩
  obtain ⟨client, hget⟩ := Option.isSome_iff_exists.mp hid
  obtain ⟨errors, -, hremoved⟩ := removeClient_some h.1.serving hget closeOk
  have hstep : @serveStep Ctx PKey M s (.remove id closeOk) = s.removeClient id closeOk := by
    simp only [serveStep, hstatus, htodo]
  rw [hstep, hremoved]
  intro hbound
  refine ⟨trace_append_self s.log (.removed id), ?_, (h.2 hbound).lt hget⟩
  show (s.server.clients.pop id).2.get id = none
  rw [Clients.get_pop, Function.update_self]

/-- **Events and ids of every run.**  With fewer than `2 ^ 64` accepts, in every state that the loop
    reaches: every stored id is below the next one and belongs to exactly one accepted connection, whose
    descriptor it is stored with; every insertion returned true; and the entries about each id are a
    connect, then receives, then at most one end, the id being stored iff it is connected and has not
    ended.  A removal between two iterations that finds its client is such an end: it is entered, and is
    the last entry about the client. -/
theorem serve_events_wellFormed {s₀ : ServeState} (hs : Fresh s₀) (is : List (ServeInput Ctx PKey))
    (hcount : (Runs.run (serveStep M) s₀ is).accepted.length < 2 ^ 64) :
    let s := Runs.run (serveStep M) s₀ is
    (∀ id client, s.server.clients.get id = some client →
      id < s.server.nextClientId ∧
        s.accepted.filter (fun a => a.1 = id) = [(id, client.sock)]) ∧
    (∀ b ∈ s.setResults, b = true) ∧
    (∀ id, ∃ stage, Life id (trace s.log id) stage ∧
      ((s.server.clients.get id).isSome ↔ stage = .connected)) ∧
    (∀ before after id closeOk, is = before ++ .remove id closeOk :: after →
      let b := Runs.run (serveStep M) s₀ before
      b.status = .running → b.todo = [] → (b.server.clients.get id).isSome →
        trace s.log id = trace b.log id ++ [.removed id]) := by
  have hruns : ∀ is : List (ServeInput Ctx PKey), RunInv (Runs.run (serveStep M) s₀ is) := fun is =>
    @Runs.run_invariant _ _ (serveStep M) RunInv (fun _ i h => serveStep_runInv h i) is s₀ hs.runInv
  intro s
  have hc : Coherent s.history := (hruns is).2 hcount
  refine ⟨?_, hc.sets, ?_, ?_⟩
  · intro id client hget
    have hlt := hc.lt hget
    refine ⟨by rw [← hc.next_eq] at hlt; exact hlt, ?_⟩
    exact filter_key_eq_singleton hc.ids_eq (hc.stored id client hget)
  · intro id
    obtain ⟨stage, hlife, hmem, -⟩ := hc.life id
    exact ⟨stage, hlife, hmem⟩
  · intro before after id closeOk his b hstatus htodo hid
    have hend := @remove_gone Ctx PKey M b (hruns before) hstatus htodo id hid closeOk
    have hgone := @Runs.run_invariant _ _ (serveStep M) (Gone id (trace b.log id ++ [.removed id]))
      (fun _ i h => serveStep_gone h i) after _ hend
    rw [← Runs.run_cons, ← Runs.run_append, ← his] at hgone
    exact (hgone.2 hcount).1

end Run

/-- A client connects, is silent for one iteration and hangs up in the next. -/
def demoVisit : List (ServeInput Bytes Unit) :=
  [.acceptConnection demoConnection plainOpenSSL,
   .turn (.error .EAGAIN) (.error .EAGAIN) plainOpenSSL,
   .acceptError .EAGAIN,
   .turn (.data []) (.error .EAGAIN) plainOpenSSL]

/-- Two clients connect; the first one sends a message, and the user removes the second … -/
def demoVisits : List (ServeInput Bytes Unit) :=
  [.acceptConnection demoConnection plainOpenSSL,
   .turn (.error .EAGAIN) (.error .EAGAIN) plainOpenSSL,
   .acceptConnection { demoConnection with sock := 5 } plainOpenSSL,
   .turn (.data [0, 0, 0, 0, 32]) (.data demoBody) plainOpenSSL,
   .turn (.error .EAGAIN) (.error .EAGAIN) plainOpenSSL]

/-- … and then the first one hangs up. -/
def demoHangsUp : List (ServeInput Bytes Unit) :=
  [.acceptError .EAGAIN, .turn (.data []) (.error .EAGAIN) plainOpenSSL]

theorem serve_events_demo :
    let s := Runs.run (serveStep plainMachine) demoStart (demoVisits ++ .remove 1 true :: demoHangsUp)
    s.log = [.connect 0 true, .connect 1 true, .recv 0 demoBody (some ⟨[1, 2, 3], 3⟩), .removed 1,
        .disconnect 0 true] ∧
      (∃ stage, Life 0 (trace s.log 0) stage ∧
        ((s.server.clients.get 0).isSome ↔ stage = .connected)) ∧
      trace s.log 1
        = trace (Runs.run (serveStep plainMachine) demoStart demoVisits).log 1 ++ [.removed 1] := by
  have hfresh : Fresh demoStart := startServe_fresh true true true rfl
  have h := @serve_events_wellFormed Bytes Unit plainMachine demoStart hfresh
    (demoVisits ++ .remove 1 true :: demoHangsUp) (by decide +kernel)
  refine ⟨by decide +kernel, h.2.2.1 0, ?_⟩
  exact h.2.2.2 demoVisits demoHangsUp 1 true rfl (by decide +kernel) (by decide +kernel)
    (by decide +kernel)

end Cdtp
