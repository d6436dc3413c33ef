/-
  What a run costs in total.

  A machine that answers its inputs (`Lib.Runs`) is charged for each answer.  The sum is taken along a
  run, and `Trip.rounds` bounds it from below: a trip that leads back to where it started, at a price,
  can be made as often as one likes, and costs that price every time.
-/
import Mathlib.Algebra.GroupWithZero.Nat
import Cdtp.Lib.Runs

namespace Costs

variable {S I O : Type} {step : S → I → Option (O × S)}

/-- The sum of `cost` over the answers of a run. -/
def total (cost : O → Nat) (os : List O) : Nat := (os.map cost).sum

@[simp] theorem total_nil (cost : O → Nat) : total cost [] = 0 := rfl

@[simp] theorem total_cons (cost : O → Nat) (o : O) (os : List O) :
    total cost (o :: os) = cost o + total cost os := rfl

@[simp] theorem total_append (cost : O → Nat) (os os' : List O) :
    total cost (os ++ os') = total cost os + total cost os' := by
  rw [total, List.map_append, List.sum_append]
  rfl

/-- A run that goes on is the one run behind the other. -/
theorem answers_append {is is' : List I} {s s₁ s₂ : S} {os os' : List O}
    (h : Runs.answers step s is = some (os, s₁)) (h' : Runs.answers step s₁ is' = some (os', s₂)) :
    Runs.answers step s (is ++ is') = some (os ++ os', s₂) := by
  induction os generalizing s is with
  | nil =>
    obtain ⟨rfl, rfl⟩ := Runs.answers_nil_iff.mp h
    exact h'
  | cons o os ih =>
    obtain ⟨i, is, t, rfl, hstep, hrest⟩ := Runs.answers_cons_iff.mp h
    exact Runs.answers_cons_iff.mpr ⟨i, is ++ is', t, rfl, hstep, ih hrest⟩

/-- From `s` to `s'` with inputs and answers that meet their conditions, at the cost `c` and the credit
    `d`. -/
def Trip (step : S → I → Option (O × S)) (Fits : I → Prop) (Allowed : O → Prop) (cost credit : O → Nat)
    (s s' : S) (c d : Nat) : Prop :=
  ∃ is os, Runs.answers step s is = some (os, s') ∧ (∀ i ∈ is, Fits i) ∧ (∀ o ∈ os, Allowed o) ∧
    total cost os = c ∧ total credit os = d

section Trips

variable {Fits : I → Prop} {Allowed : O → Prop} {cost credit : O → Nat} {s s₁ s₂ : S} {c d c' d' : Nat}

/-- No step costs nothing. -/
theorem Trip.refl (s : S) : Trip step Fits Allowed cost credit s s 0 0 :=
  ⟨[], [], rfl, fun _ h => absurd h List.not_mem_nil, fun _ h => absurd h List.not_mem_nil, rfl, rfl⟩

/-- One step. -/
theorem Trip.single {i : I} {o : O} (hstep : step s i = some (o, s₁)) (hi : Fits i) (ho : Allowed o) :
    Trip step Fits Allowed cost credit s s₁ (cost o) (credit o) := by
  refine ⟨[i], [o], Runs.answers_cons_iff.mpr ⟨i, [], s₁, rfl, hstep, rfl⟩, ?_, ?_, rfl, rfl⟩
  · intro j hj
    rw [List.mem_singleton.mp hj]
    exact hi
  · intro o' ho'
    rw [List.mem_singleton.mp ho']
    exact ho

/-- Costs and credits add up. -/
theorem Trip.trans (h : Trip step Fits Allowed cost credit s s₁ c d)
    (h' : Trip step Fits Allowed cost credit s₁ s₂ c' d') :
    Trip step Fits Allowed cost credit s s₂ (c + c') (d + d') := by
  obtain ⟨is, os, hrun, hfits, hall, rfl, rfl⟩ := h
  obtain ⟨is', os', hrun', hfits', hall', rfl, rfl⟩ := h'
  refine ⟨is ++ is', os ++ os', answers_append hrun hrun', ?_, ?_, total_append _ _ _,
    total_append _ _ _⟩
  · intro i hi
    exact (List.mem_append.mp hi).elim (hfits i) (hfits' i)
  · intro o ho
    exact (List.mem_append.mp ho).elim (hall o) (hall' o)

/-- **Rounds.**  If every state of a kind has a trip to one of that kind, then `n` rounds of them cost `n`
    times as much. -/
theorem Trip.rounds {Inv : S → Prop}
    (hround : ∀ s, Inv s → ∃ s', Inv s' ∧ Trip step Fits Allowed cost credit s s' c d) :
    ∀ (n : Nat) (s : S), Inv s →
      ∃ s', Inv s' ∧ Trip step Fits Allowed cost credit s s' (n * c) (n * d) := by
  intro n
  induction n with
  | zero =>
    intro s hs
    rw [Nat.zero_mul, Nat.zero_mul]
    exact ⟨s, hs, Trip.refl s⟩
  | succ n ih =>
    intro s hs
    obtain ⟨s₁, hs₁, htrip⟩ := hround s hs
    obtain ⟨s₂, hs₂, hrest⟩ := ih s₁ hs₁
    rw [Nat.succ_mul, Nat.succ_mul, Nat.add_comm (n * c), Nat.add_comm (n * d)]
    exact ⟨s₂, hs₂, htrip.trans hrest⟩

end Trips

end Costs
