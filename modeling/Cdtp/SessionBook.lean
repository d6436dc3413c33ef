/-
  The book of a client's blocks, over whole runs.

  A run is any sequence of calls, parts of the handle thread, event threads that return and callbacks
  that free their payloads.  `clientBlocks_exact` says which runs meet a fault, and what is on loan at the
  end of all others.

  The faults are real: `failed_connect_never_freed` has a server that closes the connection before it has
  sent its key, after which the client can never be freed.
-/
import Cdtp.SessionBlocks

namespace Cdtp

open CMem hiding malloc
open Ownership Runs

/-! ## Whole runs -/

section Life

variable {Ctx PKey : Type} {M : Machine}

instance (s : Session) : Decidable s.Handling := inferInstanceAs (Decidable (_ ∧ _))

/-- The book of a run that began in `s`. -/
def ClientBook (M : Machine) (s : Session) (hs : HeapSession) (past : List (ClientInput Ctx PKey))
    (P : Multiset Nat) : Prop :=
  hs.session = run (clientStep M) s past ∧ (hs.session.handle.status ≠ .crashed →
    hs.Whole ∧ ∃ L, P = hs.owned + L ∧ L.card = clientLostIn M s past)

theorem clientBook_step {s : Session} {hs : HeapSession} {past : List (ClientInput Ctx PKey)}
    {P : Multiset Nat} (h : ClientBook M s hs past P) (i : ClientInput Ctx PKey)
    (hkeyed : KeyedStep hs.session i) :
    Triple P (heapSessionStep M hs i) fun r R => r.2.session = clientStep M hs.session i ∧
      ClientBook M s r.2 (past ++ [i]) R := by
  obtain ⟨hsession, hbook⟩ := h
  have hafter : clientStep M hs.session i = run (clientStep M) s (past ++ [i]) := by
    rw [run_append, ← hsession]
    rfl
  by_cases hcrashed : hs.session.handle.status = .crashed
  · -- the process is gone, and stays so
    have hsame : clientStep M hs.session i = hs.session := by
      cases i with
      | call i startOk => exact if_pos fun hlive => hlive.1 hcrashed
      | finish k => rfl
      | dispose k => rfl
    rw [heapSessionStep, if_pos hcrashed]
    exact Triple.pure ⟨hsame.symm, hsame.symm.trans hafter, fun hno => absurd hcrashed hno⟩
  · obtain ⟨hwhole, L, rfl, hcard⟩ := hbook hcrashed
    apply (heapSessionStep_triple hwhole hcrashed i hkeyed).mono
    rintro r R ⟨hsession', hrest⟩
    refine ⟨hsession', hsession'.trans hafter, fun hno => ?_⟩
    obtain ⟨hwhole', L', rfl, hcard'⟩ := hrest hno
    refine ⟨hwhole', L' + L, add_assoc _ _ _, ?_⟩
    have hnow : spent (clientStep M) (clientStepLost M) (run (clientStep M) s past) [i]
        = clientStepLost M hs.session i := by
      rw [← hsession]
      rfl
    rw [Multiset.card_add, hcard, hcard', clientLostIn, clientLostIn, spent_append, hnow, Nat.add_comm]

/-- **How many blocks a client has.** -/
theorem HeapSession.Whole.card_owned {hs : HeapSession} (h : hs.Whole)
    (hno : hs.session.handle.status ≠ .crashed) :
    hs.owned.card = (if hs.session.freed then 0 else if hs.session.keySet then 4 else 2) +
      (if hs.session.Handling then 1 else 0) + hs.events.count := by
  have hkey : (given Boxed.blocks hs.key).card
      = if hs.session.keySet && !hs.session.freed then 2 else 0 := by
    rw [← h.fits.key]
    cases hs.key with
    | none => rfl
    | some key => rfl
  have hinfo : (given (fun b => ({b} : Multiset Nat)) hs.info).card
      = if hs.session.Handling then 1 else 0 := by
    rcases hstatus : hs.session.handle.status with _ | _ | _
    · have hsome := h.fits.info hstatus
      by_cases hstage : hs.session.stage = .notStarted
      · have hnone : hs.info = none := by
          rw [← Option.isNone_iff_eq_none, ← Option.not_isSome, hsome, hstage]
          rfl
        rw [if_neg fun hhandling => hhandling.1 hstage, hnone]
        rfl
      · obtain ⟨info, hinfo⟩ := Option.isSome_iff_exists.mp (hsome.trans (bne_iff_ne.mpr hstage))
        rw [if_pos ⟨hstage, hstatus⟩, hinfo]
        rfl
    · rw [if_neg fun hhandling => absurd (hstatus.symm.trans hhandling.2) (by decide),
        h.returned hstatus]
      rfl
    · exact absurd hstatus hno
  rw [HeapSession.owned, Multiset.card_add, Multiset.card_add, Multiset.card_add, Events.card_blocks,
    Multiset.coe_card, h.fits.object, hkey, hinfo]
  have hobject : ∀ freed keySet : Bool, (if freed then 0 else 2) + (if keySet && !freed then 2 else 0)
      = if freed then 0 else if keySet then 4 else 2 := by
    decide
  rw [hobject, Nat.add_comm]

/-- The book of a new client. -/
theorem heapClientRun_book (onRecv onDisconnected : Bool) (sock : Nat) (key : AESKey)
    (is : List (ClientInput Ctx PKey)) :
    (Along (clientStep M) KeyedStep (newSession onRecv onDisconnected sock key) is →
      Triple 0 (heapClientRun M (newSession onRecv onDisconnected sock key) is) fun hs R =>
        ClientBook M (newSession onRecv onDisconnected sock key) hs is R) ∧
    (¬ Along (clientStep M) KeyedStep (newSession onRecv onDisconnected sock key) is →
      Faults 0 (heapClientRun M (newSession onRecv onDisconnected sock key) is)) := by
  have hrun := fun (client socket : Nat) (P : Multiset Nat) =>
    @answers_iff_along HeapSession Session (ClientInput Ctx PKey) Unit (heapSessionStep M)
      HeapSession.session (clientStep M) KeyedStep
      (ClientBook M (newSession onRecv onDisconnected sock key))
      (fun hs past P i h hi => clientBook_step h i hi)
      (fun hs past P i h hno => by
        obtain ⟨-, hbook⟩ := h
        by_cases hcrashed : hs.session.handle.status = .crashed
        · -- nothing is used in a program that crashed
          refine absurd ?_ hno
          have hlive : ¬ hs.session.Live := fun hlive => hlive.1 hcrashed
          have hnil : usesOf hs.session i = [] := usesOf_of_not_live hlive i
          rw [KeyedStep, hnil]
          exact fun _ hu => absurd hu List.not_mem_nil
        · exact heapSessionStep_faults (hbook hcrashed).1 hcrashed i hno)
      is { session := newSession onRecv onDisconnected sock key, object := [socket, client], key := none,
           info := none, events := .none } [] P
  have hbegin : ∀ client socket : Nat, ClientBook M (newSession onRecv onDisconnected sock key)
      { session := newSession onRecv onDisconnected sock key, object := [socket, client], key := none,
        info := none, events := .none } ([] : List (ClientInput Ctx PKey))
      ({socket} + ({client} + 0)) := by
    intro client socket
    refine ⟨rfl, fun _ => ⟨⟨⟨rfl, rfl, fun _ => rfl⟩, ⟨fun _ _ => ⟨rfl, rfl⟩, ?_⟩,
      fun _ => rfl⟩, 0, ?_, rfl⟩⟩
    · exact fun hhandling => absurd rfl hhandling.1
    · show _ = (0 + 0 : Multiset Nat) + (([socket, client] : List Nat) + 0 + 0) + 0
      simp only [coe_cons_eq, Multiset.coe_nil]
      abel
  constructor
  · intro halong
    apply Triple.malloc_then
    intro client
    apply Triple.malloc_then
    intro socket
    apply ((hrun client socket _ (hbegin client socket)).1 halong).bind
    rintro r R ⟨-, hbook⟩
    exact Triple.pure hbook
  · intro hno
    apply Triple.malloc.bind_faults
    rintro client R rfl
    apply Triple.malloc.bind_faults
    rintro socket R rfl
    apply Faults.bind
    exact (hrun client socket _ (hbegin client socket)).2 hno

/-- **The blocks of a client, exactly.**  A run meets a fault, a block that is freed twice or was never
    allocated, if and only if it encrypts with a key or frees a key that was never set.  Every other run
    returns; at its end the client has its object (2 blocks) and its key (2) until it is freed, the handle
    thread has its block while it runs, the event threads and the callbacks have theirs, and the rest is
    what was lost. -/
theorem clientBlocks_exact (M : Machine) (onRecv onDisconnected : Bool) (sock : Nat) (key : AESKey)
    (is : List (ClientInput Ctx PKey)) :
    (heapClientRun M (newSession onRecv onDisconnected sock key) is Heap.empty = none ↔
      ∃ u ∈ (run (clientStep M) (newSession onRecv onDisconnected sock key) is).uses,
        u = .encrypt false ∨ u = .freeKey false) ∧
    ∀ hs h, heapClientRun M (newSession onRecv onDisconnected sock key) is Heap.empty = some (hs, h) →
      hs.session = run (clientStep M) (newSession onRecv onDisconnected sock key) is ∧
      (hs.session.handle.status ≠ .crashed → h.live.length
        = (if hs.session.freed then 0 else if hs.session.keySet then 4 else 2) +
          (if hs.session.Handling then 1 else 0) + hs.events.count +
          clientLostIn M (newSession onRecv onDisconnected sock key) is) := by
  obtain ⟨hreturns, hfaults⟩ := @heapClientRun_book Ctx PKey M onRecv onDisconnected sock key is
  have hkeyed := @along_keyed_iff Ctx PKey M is (newSession onRecv onDisconnected sock key)
    fun _ hu => absurd hu List.not_mem_nil
  constructor
  · constructor
    · intro hnone
      by_contra hno
      have hall : ∀ u ∈ (run (clientStep M) (newSession onRecv onDisconnected sock key) is).uses,
          u.HasKey := fun u hu => ⟨fun h => hno ⟨u, hu, .inl h⟩, fun h => hno ⟨u, hu, .inr h⟩⟩
      obtain ⟨hs, h, hsome, -⟩ := (hreturns (hkeyed.mpr hall)).run
      exact absurd (hnone.symm.trans hsome) (Option.some_ne_none _).symm
    · rintro ⟨u, hu, hwild⟩
      apply (hfaults ?_).run
      intro halong
      have hhas := hkeyed.mp halong u hu
      exact hwild.elim hhas.1 hhas.2
  · intro hs h hsome
    by_cases halong : Along (clientStep M) KeyedStep (newSession onRecv onDisconnected sock key) is
    · obtain ⟨hs', h', hsome', hsession, hbook⟩ := (hreturns halong).run
      obtain ⟨rfl, rfl⟩ := Prod.mk.inj (Option.some.inj (hsome.symm.trans hsome'))
      refine ⟨hsession, fun hno => ?_⟩
      obtain ⟨hwhole, L, hlive, hcard⟩ := hbook hno
      have hcount := congrArg Multiset.card hlive
      rw [Multiset.coe_card, Multiset.card_add, hwhole.card_owned hno, hcard] at hcount
      exact hcount
    · exact absurd ((hfaults halong).run.symm.trans hsome) (Option.some_ne_none _).symm

end Life

/-! ## A client that cannot be freed -/

section Keyless

variable {Ctx PKey : Type} {M : Machine} {O : OpenSSL Ctx PKey} {s : Session}

/-- It has no key, and will not connect any more. -/
def Session.Keyless (s : Session) : Prop :=
  s.keySet = false ∧ (s.handle.client.done = true ∨ s.handle.client.connected = true)

theorem keyless_step (h : s.Keyless) (i : SessionInput Ctx PKey) : (sessionStep M s i).Keyless := by
  obtain ⟨hkey, hclient⟩ := h
  unfold sessionStep
  split
  · exact ⟨hkey, hclient⟩
  cases i with
  | connect O o io sizeBuffer =>
    rcases @connect_cases Ctx PKey M O s o io sizeBuffer with ⟨e, heq⟩ | ⟨hdone, hconnected, -⟩
    · dsimp only
      rw [heq]
      exact ⟨hkey, hclient⟩
    · exact absurd hclient (not_or.mpr ⟨ne_true_of_eq_false hdone, ne_true_of_eq_false hconnected⟩)
  | send O rand data sendOk =>
    dsimp only [Session.send]
    split
    · exact ⟨hkey, hclient⟩
    · split
      · exact ⟨hkey, hclient⟩
      · exact ⟨hkey, hclient⟩
      · split
        · exact ⟨hkey, hclient⟩
        · exact ⟨hkey, hclient⟩
  | disconnect closeOk threadOk =>
    dsimp only
    unfold Session.disconnect
    rcases hconnected : s.handle.client.connected with _ | _
    · exact ⟨hkey, hclient⟩
    unfold HandleState.disconnect
    rw [hconnected]
    cases closeOk with
    | false => exact ⟨hkey, .inl rfl⟩
    | true =>
      cases threadOk with
      | false => exact ⟨hkey, .inl rfl⟩
      | true => exact ⟨hkey, .inl rfl⟩
  | free =>
    dsimp only [Session.free]
    split
    · exact ⟨hkey, hclient⟩
    · exact ⟨hkey, hclient⟩
  | handleInit nonBlockingOk =>
    dsimp only [Session.handleInit]
    split
    · exact ⟨hkey, hclient⟩
    · split
      · exact ⟨hkey, hclient⟩
      · exact ⟨hkey, hclient⟩
  | turn O header body closeOk threadOk =>
    obtain ⟨-, hkeySet, -, -, hsame⟩ := @turn_kept Ctx PKey M O s header body closeOk threadOk
    refine ⟨hkeySet.trans hkey, ?_⟩
    rcases hsame with hsame | hdone
    · rw [hsame]
      exact hclient
    · exact .inl hdone

theorem establish_freed (o : ConnectOutcome) (io : ClientExchange) (sizeBuffer : Bytes) :
    (s.establish M O o io sizeBuffer).freed = s.freed := by
  unfold Session.establish
  dsimp only
  split
  · rfl
  · split
    · rfl
    · rfl
    · split
      · rfl
      · rfl

/-- A client that is freed has logged with which key. -/
theorem freed_step (i : SessionInput Ctx PKey) (startOk : Bool)
    (h : (sessionStep M s i).freed = true) :
    s.freed = true ∨ usesOf s (.call i startOk) = [.freeKey s.keySet] := by
  unfold sessionStep at h
  by_cases hlive : s.Live
  · rw [if_neg (not_not.mpr hlive)] at h
    cases i with
    | connect O o io sizeBuffer =>
      left
      rcases @connect_cases Ctx PKey M O s o io sizeBuffer with ⟨e, heq⟩ | ⟨-, -, -, -, heq⟩
      · dsimp only at h
        rw [heq] at h
        exact h
      · dsimp only at h
        rw [heq] at h
        exact (establish_freed o io sizeBuffer).symm.trans h
    | send O rand data sendOk =>
      left
      dsimp only [Session.send] at h
      split at h
      · exact h
      · split at h
        · exact h
        · exact h
        · split at h
          · exact h
          · exact h
    | disconnect closeOk threadOk =>
      left
      dsimp only [Session.disconnect] at h
      split at h
      · exact h
      · split at h
        · exact h
        · split at h
          · exact h
          · exact h
    | free =>
      dsimp only [Session.free] at h
      by_cases hdone : s.handle.client.done = false
      · rw [if_pos hdone] at h
        exact .inl h
      · exact .inr (if_neg (not_or.mpr ⟨not_not.mpr hlive, hdone⟩))
    | handleInit nonBlockingOk =>
      left
      dsimp only [Session.handleInit] at h
      split at h
      · exact h
      · split at h
        · exact h
        · exact h
    | turn O header body closeOk threadOk =>
      exact .inl ((@turn_kept Ctx PKey M O s header body closeOk threadOk).1.symm.trans h)
  · rw [if_pos hlive] at h
    exact .inl h

/-- **Without a key** a client is freed with the wild pointer. -/
theorem keyless_run (is : List (ClientInput Ctx PKey)) : ∀ s : Session, s.Keyless →
    (s.freed = true → .freeKey false ∈ s.uses) →
    (run (clientStep M) s is).freed = true → .freeKey false ∈ (run (clientStep M) s is).uses := by
  induction is with
  | nil => intro s _ hlogged; exact hlogged
  | cons i is ih =>
    intro s hkeyless hlogged
    apply ih (clientStep M s i)
    · cases i with
      | call i startOk => exact keyless_step hkeyless i
      | finish k => exact hkeyless
      | dispose k => exact hkeyless
    · intro hfreed
      rw [clientStep_uses]
      cases i with
      | finish k => exact List.mem_append_left _ (hlogged hfreed)
      | dispose k => exact List.mem_append_left _ (hlogged hfreed)
      | call i startOk =>
        rcases freed_step i startOk hfreed with hfreed | huses
        · exact List.mem_append_left _ (hlogged hfreed)
        · apply List.mem_append_right
          rw [huses, hkeyless.1]
          exact List.mem_cons_self

/-- The connect gets behind `connect`, and then cannot make its socket blocking or exchange keys. -/
def KeylessConnect (M : Machine) (O : OpenSSL Ctx PKey) (o : ConnectOutcome) (io : ClientExchange) :
    Prop :=
  o.addressOk = true ∧ o.connectOk = true ∧
    (o.blockingOk = false ∨ clientExchangeKeys M O io = .ok none)

/-- It leaves the client connected, and without a key. -/
theorem keyless_connect {onRecv onDisconnected : Bool} {sock : Nat} {key : AESKey} {o : ConnectOutcome}
    {io : ClientExchange} {sizeBuffer : Bytes} (h : KeylessConnect M O o io) :
    ((newSession onRecv onDisconnected sock key).connect M O o io sizeBuffer).Keyless ∧
      ((newSession onRecv onDisconnected sock key).connect M O o io sizeBuffer).freed = false := by
  obtain ⟨haddress, hconnect, hfails⟩ := h
  unfold Session.connect
  rw [haddress, hconnect]
  show (Session.establish M O _ o io sizeBuffer).Keyless ∧ _ = _
  unfold Session.establish
  rcases hfails with hblocking | hexchange
  · rw [hblocking]
    exact ⟨⟨rfl, .inr rfl⟩, rfl⟩
  · rw [hexchange]
    dsimp only
    split
    · exact ⟨⟨rfl, .inr rfl⟩, rfl⟩
    · exact ⟨⟨rfl, .inr rfl⟩, rfl⟩

/-- **A failed connect is final.**  If the first connect of a client fails behind `connect`, then every run
    that frees the client, whatever else it does before and after, frees a key that was never set, which is
    a fault. -/
theorem failed_connect_never_freed {o : ConnectOutcome} {io : ClientExchange}
    (h : KeylessConnect M O o io) (onRecv onDisconnected : Bool) (sock : Nat) (key : AESKey)
    (sizeBuffer : Bytes) (startOk : Bool) (is : List (ClientInput Ctx PKey))
    (hfreed : (run (clientStep M) (newSession onRecv onDisconnected sock key)
      (.call (.connect O o io sizeBuffer) startOk :: is)).freed = true) :
    .freeKey false ∈ (run (clientStep M) (newSession onRecv onDisconnected sock key)
      (.call (.connect O o io sizeBuffer) startOk :: is)).uses ∧
    heapClientRun M (newSession onRecv onDisconnected sock key)
      (.call (.connect O o io sizeBuffer) startOk :: is) Heap.empty = none := by
  obtain ⟨hkeyless, hnot⟩ := @keyless_connect Ctx PKey M O onRecv onDisconnected sock key o io sizeBuffer h
  have hfirst : clientStep M (newSession onRecv onDisconnected sock key)
      (.call (.connect O o io sizeBuffer) startOk)
      = (newSession onRecv onDisconnected sock key).logConnect
          ((newSession onRecv onDisconnected sock key).connect M O o io sizeBuffer) := rfl
  have hlogged := keyless_run is (clientStep M (newSession onRecv onDisconnected sock key)
    (.call (.connect O o io sizeBuffer) startOk)) (by rw [hfirst]; exact hkeyless)
    (by rw [hfirst]; exact fun htrue => absurd (hnot.symm.trans htrue) Bool.noConfusion) hfreed
  obtain ⟨-, hfaults⟩ := @heapClientRun_book Ctx PKey M onRecv onDisconnected sock key
    (.call (.connect O o io sizeBuffer) startOk :: is)
  refine ⟨hlogged, (hfaults ?_).run⟩
  rw [along_keyed_iff _ _ fun _ hu => absurd hu List.not_mem_nil]
  exact fun hall => (hall _ hlogged).2 rfl

/-- A server that closes the connection at once; the client disconnects, and is freed. -/
theorem failed_connect_never_freed_demo :
    let is : List (ClientInput Bytes Unit) :=
      [.call (.connect plainOpenSSL demoOutcome { demoClientExchange with header := .data [] } []) true,
        .call (.disconnect true true) true, .call .free true]
    .freeKey false ∈ (run (clientStep plainMachine) (newSession true true 3 demoKey) is).uses ∧
      heapClientRun plainMachine (newSession true true 3 demoKey) is Heap.empty = none := by
  apply failed_connect_never_freed ⟨rfl, rfl, .inr ?_⟩
  · decide +kernel
  · decide +kernel

end Keyless

end Cdtp
