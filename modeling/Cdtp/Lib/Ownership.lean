/-
  Who owns what on the heap.

  A heap is only a book of blocks: which numbers have been given out, and which of these have not been
  given back.  `free` of a block that is not on loan, because it never was or was given back before, is a
  fault, and a program that meets one does not return.

  `Triple P m Q`: a program `m` that owns the blocks `P` returns; of the blocks it then owns `Q` says
  what they are; and all other blocks are where they were.  That last part is in the definition, so a
  triple holds next to any other owner (`Triple.frame`), and a program is reasoned about one call at a time
  (`Triple.bind`).  Blocks that nobody frees do not disappear from `Q`: a leak has to be accounted for.

  `Balance` is how `Q` mostly reads: so many blocks are accounted for, and a number of others has no owner
  any more.

  `Faults P m` is the opposite: a program that owns `P` meets a fault.  `answers_iff_along` has both, for a
  machine that faults at some steps and returns from all others.
-/
import Mathlib.Algebra.Order.Group.Multiset
import Mathlib.Tactic.Abel
import Cdtp.Lib.Runs

namespace Ownership

/-! ## The heap -/

/-- The blocks given out are numbered; `live` are those that are on loan. -/
structure Heap where
  next : Nat
  live : List Nat
  given : ∀ b ∈ live, b < next
  distinct : live.Nodup

namespace Heap

def empty : Heap where
  next := 0
  live := []
  given _ h := absurd h List.not_mem_nil
  distinct := List.nodup_nil

/-- The next block. -/
def give (h : Heap) : Heap where
  next := h.next + 1
  live := h.next :: h.live
  given := by
    intro b hb
    rcases List.mem_cons.mp hb with rfl | hb
    · exact Nat.lt_succ_self _
    · exact Nat.lt_succ_of_lt (h.given b hb)
  distinct := List.nodup_cons.mpr ⟨fun hb => Nat.lt_irrefl _ (h.given _ hb), h.distinct⟩

/-- A block comes back. -/
def take (h : Heap) (b : Nat) : Heap where
  next := h.next
  live := h.live.erase b
  given c hc := h.given c (List.mem_of_mem_erase hc)
  distinct := h.distinct.erase b

end Heap

/-- Programs that allocate and free; `none` is a fault. -/
abbrev HeapM (α : Type) := StateT Heap Option α

/-- `malloc`, which succeeds. -/
def malloc : HeapM Nat := fun h => some (h.next, h.give)

/-- `free` of a block that has to be on loan. -/
def free (b : Nat) : HeapM Unit := fun h => if b ∈ h.live then some ((), h.take b) else none

/-- The use of a pointer that points nowhere. -/
def wild {α : Type} : HeapM α := fun _ => none

/-- `n` times `malloc`. -/
def mallocs : Nat → HeapM (List Nat)
  | 0 => pure []
  | n + 1 => do
    let b ← malloc
    let bs ← mallocs n
    pure (b :: bs)

/-- `free` of each of some blocks. -/
def frees : List Nat → HeapM Unit
  | [] => pure ()
  | b :: bs => do
    free b
    frees bs

/-- Feed inputs to a machine that works on the heap, and collect its answers. -/
def answers {S I O : Type} (step : S → I → HeapM (O × S)) : S → List I → HeapM (List O × S)
  | s, [] => pure ([], s)
  | s, i :: is => do
    let r ← step s i
    let rest ← answers step r.2 is
    pure (r.1 :: rest.1, rest.2)

/-! ## Triples -/

/-- From the blocks `P`, the program returns with blocks that `Q` describes, and touches no others. -/
def Triple {α : Type} (P : Multiset Nat) (m : HeapM α) (Q : α → Multiset Nat → Prop) : Prop :=
  ∀ (h : Heap) (F : Multiset Nat), (h.live : Multiset Nat) = P + F →
    ∃ a h' R, m h = some (a, h') ∧ (h'.live : Multiset Nat) = R + F ∧ Q a R

section Rules

variable {α β : Type} {P F : Multiset Nat} {m : HeapM α} {Q : α → Multiset Nat → Prop}

/-- A program that owns nothing returns from the empty heap, and what is on loan then is what it owns. -/
theorem Triple.run (h : Triple 0 m Q) :
    ∃ a h', m Heap.empty = some (a, h') ∧ Q a (h'.live : Multiset Nat) := by
  obtain ⟨a, h', R, hrun, hlive, hq⟩ := h Heap.empty 0 rfl
  rw [add_zero] at hlive
  exact ⟨a, h', hrun, hlive ▸ hq⟩

theorem Triple.pure {a : α} (h : Q a P) : Triple P (pure a : HeapM α) Q :=
  fun heap _ hlive => ⟨a, heap, P, rfl, hlive, h⟩

/-- **The rule of sequence.** -/
theorem Triple.bind {k : α → HeapM β} {Q' : β → Multiset Nat → Prop} (hm : Triple P m Q)
    (hk : ∀ a R, Q a R → Triple R (k a) Q') : Triple P (m >>= k) Q' := by
  intro h F hlive
  obtain ⟨a, h₁, R, hrun, hlive₁, hq⟩ := hm h F hlive
  obtain ⟨b, h₂, R', hrun', hlive₂, hq'⟩ := hk a R hq h₁ F hlive₁
  refine ⟨b, h₂, R', ?_, hlive₂, hq'⟩
  show (m h).bind (fun x => k x.1 x.2) = _
  rw [hrun]
  exact hrun'

/-- **The frame rule.** -/
theorem Triple.frame (h : Triple P m Q) (F : Multiset Nat) :
    Triple (P + F) m fun a R => ∃ R', R = R' + F ∧ Q a R' := by
  intro heap G hlive
  rw [add_assoc] at hlive
  obtain ⟨a, h', R, hrun, hlive', hq⟩ := h heap (F + G) hlive
  exact ⟨a, h', R + F, hrun, by rw [hlive', add_assoc], R, rfl, hq⟩

theorem Triple.mono {Q' : α → Multiset Nat → Prop} (h : Triple P m Q) (hq : ∀ a R, Q a R → Q' a R) :
    Triple P m Q' := by
  intro heap F hlive
  obtain ⟨a, h', R, hrun, hlive', hq₀⟩ := h heap F hlive
  exact ⟨a, h', R, hrun, hlive', hq a R hq₀⟩

theorem Triple.malloc : Triple P malloc fun b R => R = {b} + P := by
  intro h F hlive
  refine ⟨h.next, h.give, {h.next} + P, rfl, ?_, rfl⟩
  show ((h.next :: h.live : List Nat) : Multiset Nat) = _
  rw [← Multiset.cons_coe, hlive, ← Multiset.singleton_add, add_assoc]

theorem Triple.free {b : Nat} : Triple ({b} + P) (free b) fun _ R => R = P := by
  intro h F hlive
  have hmem : b ∈ h.live := by
    rw [← Multiset.mem_coe, hlive, add_assoc, Multiset.singleton_add]
    exact Multiset.mem_cons_self b _
  refine ⟨(), h.take b, P, if_pos hmem, ?_, rfl⟩
  show ((h.live.erase b : List Nat) : Multiset Nat) = _
  rw [← Multiset.coe_erase, hlive, add_assoc, Multiset.singleton_add, Multiset.erase_cons_head]

/-- A call of a program whose triple is known, by an owner of more than it needs. -/
theorem Triple.call {P' : Multiset Nat} {k : α → HeapM β} {Q' : β → Multiset Nat → Prop}
    (hm : Triple P m Q) (hP : P' = P + F) (hk : ∀ a R, Q a R → Triple (R + F) (k a) Q') :
    Triple P' (m >>= k) Q' := by
  rw [hP]
  apply (hm.frame F).bind
  rintro a - ⟨R, rfl, hq⟩
  exact hk a R hq

/-- `malloc`, and on. -/
theorem Triple.malloc_then {k : Nat → HeapM β} {Q' : β → Multiset Nat → Prop}
    (hk : ∀ b, Triple ({b} + P) (k b) Q') : Triple P (Ownership.malloc >>= k) Q' := by
  apply Triple.malloc.bind
  rintro b - rfl
  exact hk b

/-- `free` of a block that is among those owned, and on. -/
theorem Triple.free_then {b : Nat} {P' : Multiset Nat} {k : Unit → HeapM β}
    {Q' : β → Multiset Nat → Prop} (hP : P' = {b} + P) (hk : Triple P (k ()) Q') :
    Triple P' (Ownership.free b >>= k) Q' := by
  rw [hP]
  apply Triple.free.bind
  intro _ R hR
  rw [hR]
  exact hk

/-- **Many blocks at once.** -/
theorem Triple.mallocs (n : Nat) :
    Triple P (mallocs n) fun bs R => R = (bs : Multiset Nat) + P ∧ bs.length = n := by
  induction n generalizing P with
  | zero => exact Triple.pure ⟨(zero_add P).symm, rfl⟩
  | succ n ih =>
    apply Triple.malloc_then
    intro b
    apply ih.bind
    rintro bs R ⟨rfl, hlen⟩
    refine Triple.pure ⟨?_, by rw [List.length_cons, hlen]⟩
    rw [← Multiset.cons_coe, ← Multiset.singleton_add]
    abel

theorem Triple.frees (bs : List Nat) :
    Triple ((bs : Multiset Nat) + P) (frees bs) fun _ R => R = P := by
  induction bs with
  | nil => exact Triple.pure (zero_add P)
  | cons b bs ih =>
    refine Triple.free_then ?_ ih
    rw [← Multiset.cons_coe, ← Multiset.singleton_add, add_assoc]

theorem coe_cons_eq (b : Nat) (bs : List Nat) :
    ((b :: bs : List Nat) : Multiset Nat) = {b} + (bs : Multiset Nat) := by
  rw [← Multiset.cons_coe, Multiset.singleton_add]

/-- `free` of several blocks that are among those owned, and on. -/
theorem Triple.frees_then {bs : List Nat} {P' : Multiset Nat} {k : Unit → HeapM β}
    {Q' : β → Multiset Nat → Prop} (hP : P' = (bs : Multiset Nat) + P) (hk : Triple P (k ()) Q') :
    Triple P' (Ownership.frees bs >>= k) Q' := by
  rw [hP]
  apply (Triple.frees bs).bind
  intro _ R hR
  rw [hR]
  exact hk

/-- **Runs.**  What holds of the state, of the inputs and answers so far and of the blocks owned, and is
    kept by every step, holds at the end of every run. -/
theorem Triple.answers {S I O : Type} {step : S → I → HeapM (O × S)}
    {Inv : S → List I → List O → Multiset Nat → Prop}
    (hstep : ∀ s is os P i, Inv s is os P →
      Triple P (step s i) fun r R => Inv r.2 (is ++ [i]) (os ++ [r.1]) R) :
    ∀ (is : List I) (s : S) (past : List I) (os : List O) (P : Multiset Nat), Inv s past os P →
      Triple P (answers step s is) fun r R => Inv r.2 (past ++ is) (os ++ r.1) R := by
  intro is
  induction is with
  | nil =>
    intro s past os P h
    apply Triple.pure
    rw [List.append_nil, List.append_nil]
    exact h
  | cons i is ih =>
    intro s past os P h
    apply (hstep s past os P i h).bind
    rintro ⟨o, s'⟩ R h'
    apply (ih s' (past ++ [i]) (os ++ [o]) R h').bind
    rintro ⟨os', s''⟩ R' h''
    apply Triple.pure
    rw [List.append_assoc, List.append_assoc] at h''
    exact h''

end Rules

/-! ## Balances -/

/-- Of the blocks `R`, those in `O` are accounted for, those in `P` are somebody else's, and `lost` have no
    owner any more. -/
def Balance (O : Multiset Nat) (lost : Nat) (P R : Multiset Nat) : Prop :=
  ∃ L, R = O + L + P ∧ L.card = lost

section Balance

variable {α : Type} {O L P R B rest : Multiset Nat} {lost : Nat}

theorem Balance.same : Balance O 0 P (O + P) := ⟨0, by rw [add_zero], rfl⟩

/-- Some blocks are forgotten. -/
theorem Balance.forget (h : L.card = lost) : Balance O lost P (L + (O + P)) := ⟨L, by abel, h⟩

/-- What was lost before counts as well. -/
theorem Balance.add (h : Balance O lost (L + P) R) : Balance O (L.card + lost) P R := by
  obtain ⟨L', rfl, hcard⟩ := h
  refine ⟨L + L', by abel, ?_⟩
  rw [Multiset.card_add, hcard]

/-- **The balance of a part**: who owns more than the program works on keeps the rest. -/
theorem Triple.part {m : HeapM α} {after : α → Multiset Nat}
    (h : ∀ P, Triple (B + (O + P)) m fun a R => Balance (after a) lost P R) :
    Triple (B + (O + rest + P)) m fun a R => Balance (after a + rest) lost P R := by
  rw [add_assoc O]
  apply (h (rest + P)).mono
  rintro a R ⟨L, rfl, hcard⟩
  exact ⟨L, by abel, hcard⟩

end Balance

/-! ## Faults -/

/-- A program that owns the blocks `P` meets a fault, whatever else there is. -/
def Faults {α : Type} (P : Multiset Nat) (m : HeapM α) : Prop :=
  ∀ (h : Heap) (F : Multiset Nat), (h.live : Multiset Nat) = P + F → m h = none

section Faults

variable {α β : Type} {P : Multiset Nat} {m : HeapM α} {Q : α → Multiset Nat → Prop}

theorem Faults.wild : Faults P (wild : HeapM α) := fun _ _ _ => rfl

theorem Faults.run (h : Faults 0 m) : m Heap.empty = none := h Heap.empty 0 rfl

theorem Faults.bind {k : α → HeapM β} (hm : Faults P m) : Faults P (m >>= k) := by
  intro h F hlive
  show (m h).bind (fun x => k x.1 x.2) = none
  rw [hm h F hlive]
  rfl

/-- A fault behind a program that returns. -/
theorem Triple.bind_faults {k : α → HeapM β} (hm : Triple P m Q)
    (hk : ∀ a R, Q a R → Faults R (k a)) : Faults P (m >>= k) := by
  intro h F hlive
  obtain ⟨a, h₁, R, hrun, hlive₁, hq⟩ := hm h F hlive
  show (m h).bind (fun x => k x.1 x.2) = none
  rw [hrun]
  exact hk a R hq h₁ F hlive₁

/-- **Runs that may fault.**  The machine follows the abstract machine `next`.  If it returns from the
    steps that are `safe` and faults at all others, then a run along safe steps returns with what they
    keep, and every other run faults. -/
theorem answers_iff_along {S A I O : Type} {step : S → I → HeapM (O × S)} {abs : S → A}
    {next : A → I → A} {safe : A → I → Prop} {Inv : S → List I → Multiset Nat → Prop}
    (hsafe : ∀ s past P i, Inv s past P → safe (abs s) i →
      Triple P (step s i) fun r R => abs r.2 = next (abs s) i ∧ Inv r.2 (past ++ [i]) R)
    (hwild : ∀ s past P i, Inv s past P → ¬ safe (abs s) i → Faults P (step s i)) :
    ∀ (is : List I) (s : S) (past : List I) (P : Multiset Nat), Inv s past P →
      (Runs.Along next safe (abs s) is → Triple P (answers step s is) fun r R =>
        abs r.2 = Runs.run next (abs s) is ∧ Inv r.2 (past ++ is) R) ∧
      (¬ Runs.Along next safe (abs s) is → Faults P (answers step s is)) := by
  intro is
  induction is with
  | nil =>
    intro s past P h
    refine ⟨fun _ => Triple.pure ⟨rfl, ?_⟩, fun hno => absurd trivial hno⟩
    rw [List.append_nil]
    exact h
  | cons i is ih =>
    intro s past P h
    constructor
    · rintro ⟨hi, hrest⟩
      apply (hsafe s past P i h hi).bind
      rintro ⟨o, s'⟩ R ⟨habs, h'⟩
      rw [← habs] at hrest
      apply ((ih s' (past ++ [i]) R h').1 hrest).bind
      rintro ⟨os, s''⟩ R' ⟨habs', h''⟩
      apply Triple.pure
      rw [List.append_assoc] at h''
      refine ⟨?_, h''⟩
      rw [Runs.run_cons, ← habs]
      exact habs'
    · intro hno
      by_cases hi : safe (abs s) i
      · apply (hsafe s past P i h hi).bind_faults
        rintro ⟨o, s'⟩ R ⟨habs, h'⟩
        apply Faults.bind
        apply (ih s' (past ++ [i]) R h').2
        rw [habs]
        exact fun hrest => hno ⟨hi, hrest⟩
      · exact (hwild s past P i h hi).bind

end Faults

end Ownership
