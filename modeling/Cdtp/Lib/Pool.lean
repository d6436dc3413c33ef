/-
  Tasks that are started in some order and finish in any.

  A `Pool` holds the tasks that are still waiting, in the order in which they were started, and those that
  have finished, in the order in which they did.  Whoever schedules them may pick any task that waits.

  * `all_start`, `all_finish` — a start adds a task, a finish neither loses nor repeats one;
  * `exists_finishes` — and every order is possible: the waiting tasks can be made to finish as any
    permutation of themselves.
-/
import Mathlib.Data.List.Perm.Basic

namespace Tasks

structure Pool (α : Type) where
  waiting : List α
  finished : List α

namespace Pool

variable {α : Type}

/-- No tasks. -/
def empty : Pool α := { waiting := [], finished := [] }

/-- Every task that was ever started, those that have finished first. -/
def all (p : Pool α) : List α := p.finished ++ p.waiting

def start (p : Pool α) (a : α) : Pool α := { p with waiting := p.waiting ++ [a] }

/-- The `k`-th waiting task finishes, if there is one. -/
def finish (p : Pool α) (k : Nat) : Pool α :=
  match p.waiting[k]? with
  | none => p
  | some a => { waiting := p.waiting.eraseIdx k, finished := p.finished ++ [a] }

/-- Tasks finish one after the other. -/
def finishes (p : Pool α) (ks : List Nat) : Pool α := ks.foldl finish p

@[simp] theorem all_empty : (empty : Pool α).all = [] := rfl

theorem all_start (p : Pool α) (a : α) : (p.start a).all = p.all ++ [a] :=
  (List.append_assoc _ _ _).symm

/-- A task that finishes is still one of them, and the only one that changes its place. -/
theorem all_finish (p : Pool α) (k : Nat) : (p.finish k).all.Perm p.all := by
  unfold finish
  cases hk : p.waiting[k]? with
  | none => exact List.Perm.refl _
  | some a =>
    obtain ⟨hlt, rfl⟩ := List.getElem?_eq_some_iff.mp hk
    have hwaiting : (p.waiting[k] :: p.waiting.eraseIdx k).Perm p.waiting :=
      List.getElem_cons_eraseIdx_perm hlt
    show ((p.finished ++ [p.waiting[k]]) ++ p.waiting.eraseIdx k).Perm (p.finished ++ p.waiting)
    rw [List.append_assoc]
    exact hwaiting.append_left p.finished

/-- **Every order is possible.** -/
theorem exists_finishes : ∀ {l : List α} {p : Pool α}, p.waiting.Perm l →
    ∃ ks, p.finishes ks = { waiting := [], finished := p.finished ++ l } := by
  intro l
  induction l with
  | nil =>
    intro p h
    refine ⟨[], ?_⟩
    rw [List.append_nil, ← h.eq_nil]
    rfl
  | cons a l ih =>
    intro p h
    -- the first of the list waits somewhere: let it finish first
    obtain ⟨k, hlt, hk⟩ := List.getElem_of_mem (h.symm.subset List.mem_cons_self)
    have hfinish : p.finish k
        = { waiting := p.waiting.eraseIdx k, finished := p.finished ++ [a] } := by
      rw [finish, List.getElem?_eq_getElem hlt, hk]
    have hrest : (p.waiting.eraseIdx k).Perm l := by
      have hall := (List.getElem_cons_eraseIdx_perm hlt).trans h
      rw [hk] at hall
      exact hall.cons_inv
    obtain ⟨ks, hks⟩ := ih (p := { waiting := p.waiting.eraseIdx k, finished := p.finished ++ [a] }) hrest
    refine ⟨k :: ks, ?_⟩
    show (p.finish k).finishes ks = _
    rw [hfinish, hks, List.append_assoc]
    rfl

end Pool

end Tasks
