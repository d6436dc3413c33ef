/-
  Progress by a measure.

  The steps of a run that are marked are counted (`countAlong`), and `run_counts` is the invariant rule
  for statements about that number.  If the marked steps are those that help, and what is left to do is
  measured so that such a step takes one off and every other step leaves it as it is, then

  * `count_add_measure` — a run does what is left exactly as far as it has helpful steps, so no schedule
    can have more of them than there was to do, and one with as many is done;
  * `exists_run_done` — and if there is always a way to the next helpful step, then one can get done.
-/
import Mathlib.Algebra.BigOperators.Group.Finset.Basic
import Mathlib.Algebra.Order.BigOperators.Group.Finset
import Cdtp.Lib.Runs

namespace Progress

open Runs

variable {S I : Type} {step : S → I → S} {helps : S → I → Bool} {Inv : S → Prop}
  {ok : S → I → Prop} {measure : S → Nat}

/-- The steps of a run that are marked. -/
def countAlong (step : S → I → S) (marked : S → I → Bool) : S → List I → Nat
  | _, [] => 0
  | s, i :: is => (marked s i).toNat + countAlong step marked (step s i) is

/-- **The counting rule.**  An invariant that says how many marked steps there were, and that a step
    carries on, holds after every run. -/
theorem run_counts {marked : S → I → Bool} {Counted : Nat → S → Prop}
    (hstep : ∀ s i k, Inv s → ok s i → Counted k s →
      Inv (step s i) ∧ Counted (k + (marked s i).toNat) (step s i)) :
    ∀ (is : List I) (s : S) (k : Nat), Inv s → Along step ok s is → Counted k s →
      Counted (k + countAlong step marked s is) (run step s is) := by
  intro is
  induction is with
  | nil => intro s k _ _ h; exact h
  | cons i is ih =>
    intro s k hs hok h
    obtain ⟨hs', h'⟩ := hstep s i k hs hok.1 h
    have hrest := ih (step s i) _ hs' hok.2 h'
    rw [run_cons, countAlong, ← Nat.add_assoc]
    exact hrest

/-- **Every run** does what is left, one by one. -/
theorem count_add_measure
    (hstep : ∀ s i, Inv s → ok s i →
      Inv (step s i) ∧ (helps s i).toNat + measure (step s i) = measure s) :
    ∀ (is : List I) (s : S), Inv s → Along step ok s is →
      countAlong step helps s is + measure (run step s is) = measure s := by
  intro is
  induction is with
  | nil => intro s _ _; exact Nat.zero_add _
  | cons i is ih =>
    intro s hs hok
    obtain ⟨hs', hmeasure⟩ := hstep s i hs hok.1
    have hrest := ih (step s i) hs' hok.2
    rw [run_cons, countAlong]
    omega

theorem along_append : ∀ {is js : List I} {s : S}, Along step ok s is →
    Along step ok (run step s is) js → Along step ok s (is ++ js) := by
  intro is
  induction is with
  | nil => intro js s _ h; exact h
  | cons i is ih => intro js s h h'; exact ⟨h.1, ih h.2 h'⟩

/-- **Some run** gets everything done. -/
theorem exists_run_done (hstep : ∀ s i, Inv s → ok s i → Inv (step s i))
    (hmore : ∀ s, Inv s → measure s ≠ 0 →
      ∃ is, Along step ok s is ∧ measure (run step s is) < measure s) (s : S) (hs : Inv s) :
    ∃ is, Along step ok s is ∧ measure (run step s is) = 0 := by
  generalize hleft : measure s = left
  induction left using Nat.strongRecOn generalizing s with
  | ind left ih =>
    by_cases hdone : measure s = 0
    · exact ⟨[], trivial, hdone⟩
    · obtain ⟨is, hok, hless⟩ := hmore s hs hdone
      have hs' := run_invariant_of_along hstep is s hs hok
      obtain ⟨js, hok', hdone'⟩ := ih (measure (run step s is)) (by omega) _ hs' rfl
      refine ⟨is ++ js, along_append hok hok', ?_⟩
      rw [run_append]
      exact hdone'

/-- What is left in many places goes down by what it goes down in one of them. -/
theorem sum_add_of_one {κ : Type} [DecidableEq κ] {places : Finset κ} {left left' : κ → Nat} {k : κ}
    {d : Nat} (hk : k ∈ places) (hother : ∀ k', k' ≠ k → left' k' = left k')
    (hself : d + left' k = left k) :
    d + ∑ k ∈ places, left' k = ∑ k ∈ places, left k := by
  have hrest : ∑ k ∈ places.erase k, left' k = ∑ k ∈ places.erase k, left k :=
    Finset.sum_congr rfl fun k' hk' => hother k' (Finset.ne_of_mem_erase hk')
  have hleft := Finset.add_sum_erase places left hk
  have hleft' := Finset.add_sum_erase places left' hk
  omega

end Progress
