/-
  The blocks of the threads (`threading.c`), and of what both ends do alike.

  Each thread takes a block along that says what it is to do, and frees it when it returns; a body that
  goes to a callback is from then on the callback's.  `Events` has the event threads that have not
  returned, and the payloads of those that have.  `Keeps` is the specification that the functions here
  share: what the threads had they have, and a number of blocks nobody has any more.
-/
import Mathlib.Algebra.BigOperators.Group.List.Basic
import Cdtp.KeyExchange
import Cdtp.CryptoBlocks

namespace Cdtp

open CMem hiding malloc
open Ownership

/-! ## Threads -/

/-- What an event thread has: its `CDTPEventFunc`, and the payload of an `on_recv`. -/
structure EventBlocks where
  info : Nat
  payload : Option Nat

def EventBlocks.blocks (t : EventBlocks) : Multiset Nat := {t.info} + given (fun b => {b}) t.payload

/-- The threads that run, and the payloads that belong to a callback. -/
structure Events where
  threads : List EventBlocks
  payloads : List Nat

def Events.none : Events where
  threads := []
  payloads := []

def Events.blocks (events : Events) : Multiset Nat :=
  (events.threads.map EventBlocks.blocks).sum + (events.payloads : Multiset Nat)

/-- How many blocks these are. -/
def Events.count (events : Events) : Nat :=
  (events.threads.map fun t => 1 + t.payload.toList.length).sum + events.payloads.length

/-- `_cdtp_start_thread_on_*`: nothing is freed if the thread does not start. -/
def heapStartThread (startOk : Bool) (payload : Option Nat) (events : Events) : HeapM Events := do
  let info ← malloc
  if startOk = false then pure events
  else pure { events with threads := events.threads ++ [{ info := info, payload := payload }] }

/-- An event without a payload, for which a callback may be registered. -/
def heapEvent (registered startOk : Bool) (events : Events) : HeapM Events :=
  if registered then heapStartThread startOk none events else pure events

/-- `_cdtp_event_thread` returns: it frees its `CDTPEventFunc`; the payload is the callback's. -/
def heapFinish (k : Nat) (events : Events) : HeapM Events :=
  match events.threads[k]? with
  | none => pure events
  | some t => do
    free t.info
    pure { threads := events.threads.eraseIdx k, payloads := t.payload.toList ++ events.payloads }

/-- A callback frees its payload. -/
def heapDispose (k : Nat) (events : Events) : HeapM Events :=
  match events.payloads[k]? with
  | none => pure events
  | some payload => do
    free payload
    pure { events with payloads := events.payloads.eraseIdx k }

/-- `_cdtp_start_serve_thread` and `_cdtp_start_handle_thread`: the block of a thread that has started. -/
def heapStartLoop (startOk : Bool) : HeapM (Option Nat) := do
  let info ← malloc
  if startOk = false then pure none else pure (some info)

/-- `_cdtp_serve_thread` and `_cdtp_handle_thread`, behind the loop. -/
def heapEndLoop : Option Nat → HeapM Unit
  | none => pure ()
  | some info => free info

/-! ## Messages -/

/-- Every OpenSSL call succeeds. -/
def allCalls : CipherCalls := { ctxNew := true, init := true, update := true, final := true }

/-- `_cdtp_server_call_on_recv` and `_cdtp_client_call_on_recv`, of a body in `buffer`; `payload` is what
    they decrypt it to.  Where that fails the process is gone. -/
def heapCallOnRecv (payload : Run (Option CryptoData)) (startOk : Bool) (buffer : Nat)
    (events : Events) : HeapM Events :=
  match payload with
  | .error _ => pure events
  | .ok none => do
    free buffer
    pure events
  | .ok (some _) => do
    match ← heapAesDecrypt allCalls with
    | none => pure events
    | some dataDecrypted => do
      let payload ← heapCryptoDataUnwrap dataDecrypted
      let events ← heapStartThread startOk (some payload) events
      free buffer
      pure events

/-- `cdtp_server_send` and `cdtp_client_send`, once they encrypt. -/
def heapSendMessage (sendOk : Bool) : HeapM Unit := do
  match ← heapAesEncrypt true allCalls with
  | none => pure ()
  | some dataEncrypted => do
    let message ← heapConstructMessage
    if sendOk = false then pure ()
    else do
      heapCryptoDataFree dataEncrypted
      free message

/-- How a key exchange ends. -/
inductive Exchanged where
  | crashed
  | failed
  | key (key : AESKey) (blocks : Boxed)

/-! ## What is lost -/

/-- The blocks of the threads are in their hands, and `lost` others are in no one's. -/
def Keeps (lost : Nat) (P : Multiset Nat) (events : Events) (R : Multiset Nat) : Prop :=
  Balance events.blocks lost P R

/-- A thread that is needed and does not start. -/
def eventLost (registered startOk : Bool) (payload : Nat) : Nat :=
  if registered && !startOk then 1 + payload else 0

/-- A message that cannot be sent is lost, and what was encrypted for it. -/
def messageLost (sendOk : Bool) : Nat := if sendOk = false then 3 else 0

/-- What the blocks of a key exchange come to, next to what it returns. -/
def ExchangeBlocks (keys : Run (Option AESKey)) (lost : Nat) (P : Multiset Nat) (r : Exchanged)
    (R : Multiset Nat) : Prop :=
  ((∃ e, keys = .error e) ∧ r = .crashed) ∨
    (keys = .ok none ∧ r = .failed ∧ ∃ L, R = L + P ∧ L.card = lost) ∨
    ∃ key b, keys = .ok (some key) ∧ r = .key key b ∧ ∃ L, R = b.blocks + L + P ∧ L.card = lost

/-- Behind a header that was not read, no frame is read. -/
theorem readFrame_of_header {M : Machine} {header body : ReadResult}
    (h : header.code CDTP_LENSIZE = 0 ∨ header.code CDTP_LENSIZE = -1) :
    readFrame M header body = none := if_pos h

/-- A callback gets a payload iff it is registered. -/
theorem isSome_of_registered {registered : Bool} {decrypted : Run CryptoData}
    {payload : Option CryptoData}
    (h : (if registered then decrypted >>= fun d => pure (some d) else pure none) = .ok payload) :
    payload.isSome = registered := by
  cases registered with
  | false =>
    rw [← Except.ok.inj h]
    rfl
  | true =>
    obtain ⟨d, -, h⟩ := bind_eq_ok_iff.mp h
    rw [← Except.ok.inj h]
    rfl

section Triples

variable {P : Multiset Nat} {events : Events} {startOk : Bool} {lost : Nat}

theorem card_given_option (b : Option Nat) :
    (given (fun b => ({b} : Multiset Nat)) b).card = b.toList.length := by
  cases b with
  | none => rfl
  | some b => rfl

theorem Events.card_blocks (events : Events) : events.blocks.card = events.count := by
  have hthreads : ∀ threads : List EventBlocks, (threads.map EventBlocks.blocks).sum.card
      = (threads.map fun t => 1 + t.payload.toList.length).sum := by
    intro threads
    induction threads with
    | nil => rfl
    | cons t threads ih =>
      rw [List.map_cons, List.sum_cons, List.map_cons, List.sum_cons, Multiset.card_add, ih,
        EventBlocks.blocks, Multiset.card_add, card_given_option, Multiset.card_singleton]
  rw [Events.blocks, Multiset.card_add, hthreads, Multiset.coe_card]
  rfl

/-- **A thread** takes its blocks, or nobody does. -/
theorem heapStartThread_triple (payload : Option Nat) :
    Triple (given (fun b => {b}) payload + (events.blocks + P)) (heapStartThread startOk payload events)
      (Keeps (eventLost true startOk payload.toList.length) P) := by
  apply Triple.malloc_then
  intro info
  cases startOk with
  | false =>
    rw [if_pos rfl, ← add_assoc]
    apply Triple.pure
    apply Balance.forget
    rw [Multiset.card_add, card_given_option, Multiset.card_singleton]
    rfl
  | true =>
    rw [if_neg (by decide)]
    refine Triple.pure ⟨0, ?_, rfl⟩
    simp only [Events.blocks, List.map_append, List.sum_append, List.map_cons, List.map_nil,
      List.sum_cons, List.sum_nil, EventBlocks.blocks]
    abel

theorem heapEvent_triple (registered : Bool) :
    Triple (events.blocks + P) (heapEvent registered startOk events)
      (Keeps (eventLost registered startOk 0) P) := by
  cases registered with
  | false => exact Triple.pure Balance.same
  | true =>
    have h := @heapStartThread_triple P events startOk none
    rw [given, zero_add] at h
    exact h

/-- **A thread returns**; its payload stays. -/
theorem heapFinish_triple (k : Nat) :
    Triple (events.blocks + P) (heapFinish k events) (Keeps 0 P) := by
  rw [heapFinish]
  rcases hget : events.threads[k]? with _ | t
  · exact Triple.pure Balance.same
  obtain ⟨hk, rfl⟩ := List.getElem?_eq_some_iff.mp hget
  have hperm := ((List.getElem_cons_eraseIdx_perm hk).map EventBlocks.blocks).sum_eq
  rw [List.map_cons, List.sum_cons] at hperm
  have hpayload : (events.threads[k].payload.toList : Multiset Nat)
      = given (fun b => {b}) events.threads[k].payload := by
    cases events.threads[k].payload with
    | none => rfl
    | some payload => rfl
  let after : Events :=
    { threads := events.threads.eraseIdx k,
      payloads := events.threads[k].payload.toList ++ events.payloads }
  apply Triple.free_then (P := after.blocks + P)
  · simp only [after, Events.blocks, ← hperm, EventBlocks.blocks, ← Multiset.coe_add, hpayload]
    abel
  · exact Triple.pure Balance.same

theorem heapDispose_triple (k : Nat) :
    Triple (events.blocks + P) (heapDispose k events) (Keeps 0 P) := by
  rw [heapDispose]
  rcases hget : events.payloads[k]? with _ | payload
  · exact Triple.pure Balance.same
  obtain ⟨hk, rfl⟩ := List.getElem?_eq_some_iff.mp hget
  have hperm : (events.payloads : Multiset Nat)
      = {events.payloads[k]} + (events.payloads.eraseIdx k : Multiset Nat) := by
    rw [← coe_cons_eq, Multiset.coe_eq_coe]
    exact (List.getElem_cons_eraseIdx_perm hk).symm
  let after : Events := { events with payloads := events.payloads.eraseIdx k }
  apply Triple.free_then (P := after.blocks + P)
  · simp only [after, Events.blocks, hperm]
    abel
  · exact Triple.pure Balance.same

/-- **The thread of a loop.** -/
theorem heapStartLoop_triple (startOk : Bool) : Triple P (heapStartLoop startOk) fun info R =>
    info.isSome = startOk ∧
      ∃ L, R = given (fun b => {b}) info + L + P ∧ L.card = eventLost true startOk 0 := by
  apply Triple.malloc_then
  intro info
  cases startOk with
  | false => exact Triple.pure ⟨rfl, {info}, by rw [given, zero_add], rfl⟩
  | true => exact Triple.pure ⟨rfl, 0, by rw [given, add_zero], rfl⟩

theorem heapEndLoop_triple {info : Option Nat} :
    Triple (given (fun b => {b}) info + P) (heapEndLoop info) fun _ R => R = P := by
  cases info with
  | none => exact Triple.pure (zero_add P)
  | some info => exact Triple.free

theorem heapEndLoop_then {β : Type} {info : Option Nat} {P' : Multiset Nat} {k : Unit → HeapM β}
    {Q : β → Multiset Nat → Prop} (hP : P' = given (fun b => {b}) info + P) (hk : Triple P (k ()) Q) :
    Triple P' (heapEndLoop info >>= k) Q := by
  rw [hP]
  apply heapEndLoop_triple.bind
  rintro _ R rfl
  exact hk

/-- **A body is received**: its buffer is freed, and the payload goes to a thread. -/
theorem heapCallOnRecv_triple {buffer : Nat} {payload : Option CryptoData} :
    Triple ({buffer} + (events.blocks + P)) (heapCallOnRecv (.ok payload) startOk buffer events)
      (Keeps (eventLost payload.isSome startOk 1) P) := by
  cases payload with
  | none =>
    apply Triple.free_then rfl
    exact Triple.pure Balance.same
  | some payload =>
    apply (heapAesDecrypt_triple allCalls).bind
    rintro r R ⟨hsome, L, rfl, hcard⟩
    obtain ⟨dataDecrypted, rfl⟩ := Option.isSome_iff_exists.mp hsome
    obtain rfl := Multiset.card_eq_zero.mp hcard
    have hunwrap : Triple (dataDecrypted.blocks + ({buffer} + (events.blocks + P)))
        (heapCryptoDataUnwrap dataDecrypted) fun payload R =>
          R = {payload} + ({buffer} + (events.blocks + P)) := by
      apply Triple.free_then (P := {dataDecrypted.data} + ({buffer} + (events.blocks + P)))
      · rw [Boxed.blocks]
        abel
      · exact Triple.pure rfl
    rw [given, add_zero]
    apply hunwrap.bind
    rintro payload R rfl
    have hthread := @heapStartThread_triple ({buffer} + P) events startOk (some payload)
    have hP : {payload} + ({buffer} + (events.blocks + P))
        = given (fun b => {b}) (some payload) + (events.blocks + ({buffer} + P)) := by
      rw [given]
      abel
    rw [hP]
    apply hthread.bind
    rintro events' R ⟨L, rfl, hcard⟩
    apply Triple.free_then (P := events'.blocks + L + P) (by abel)
    exact Triple.pure ⟨L, rfl, hcard⟩

/-- **A message** is freed once it is sent, and forgotten if it cannot be sent. -/
theorem heapSendMessage_triple (sendOk : Bool) : Triple P (heapSendMessage sendOk) fun _ R =>
    ∃ L, R = L + P ∧ L.card = messageLost sendOk := by
  apply (heapAesEncrypt_triple true allCalls).bind
  rintro r R ⟨hsome, L, rfl, hcard⟩
  obtain ⟨dataEncrypted, rfl⟩ := Option.isSome_iff_exists.mp hsome
  obtain rfl := Multiset.card_eq_zero.mp hcard
  rw [given, add_zero]
  apply heapConstructMessage_triple.bind
  rintro message R rfl
  cases sendOk with
  | false =>
    refine Triple.pure ⟨{message} + dataEncrypted.blocks, ?_, rfl⟩
    rw [add_assoc]
  | true =>
    apply freeBoxed_then (P := {message} + P) (by abel)
    apply (Triple.free (P := P)).mono
    rintro _ R rfl
    exact ⟨0, (zero_add R).symm, rfl⟩

end Triples

end Cdtp
