/-
  A place for one value: writing overwrites what is there, taking empties it.

  The writes fall into rounds: those before the first take, those between one take and the next, and those
  since the last.  A take gets the last value of its round, and the place has that of the round that is not
  over (`run_eq`).  So a value is taken once, or is overwritten by a later one, or is still there: what has
  been taken and what is there is a part of what was written, in order (`seen_sublist`), and all of it
  exactly if no round writes twice (`seen_eq_written_iff`).
-/
import Mathlib.Data.List.Induction
import Mathlib.Data.List.ReduceOption

namespace Mailbox

variable {α : Type}

/-- What happens to the place: a value is put there, or what is there is taken. -/
inductive Op (α : Type) where
  | write (a : α)
  | take

/-- What the takes have got, and the place. -/
structure State (α : Type) where
  taken : List (Option α)
  place : Option α

/-- The state after one of them. -/
def step (s : State α) : Op α → State α
  | .write a => { s with place := some a }
  | .take => { taken := s.taken ++ [s.place], place := none }

/-- From an empty place. -/
def run (ops : List (Op α)) : State α := ops.foldl step { taken := [], place := none }

/-- The writes of the rounds that a take has ended, and of the one that is not over. -/
structure Rounds (α : Type) where
  ended : List (List α)
  current : List α

/-- A value joins its round; taking ends the round. -/
def Rounds.add (r : Rounds α) : Op α → Rounds α
  | .write a => { r with current := r.current ++ [a] }
  | .take => { ended := r.ended ++ [r.current], current := [] }

/-- The values, cut where something was taken. -/
def rounds (ops : List (Op α)) : Rounds α := ops.foldl Rounds.add { ended := [], current := [] }

/-- All rounds, the last one included. -/
def Rounds.all (r : Rounds α) : List (List α) := r.ended ++ [r.current]

/-- All that was written. -/
def written (ops : List (Op α)) : List α := (rounds ops).all.flatten

/-- What was taken, and what is still there. -/
def State.seen (s : State α) : List α := s.taken.reduceOption ++ s.place.toList

/-- One operation more. -/
theorem run_append_singleton (ops : List (Op α)) (o : Op α) : run (ops ++ [o]) = step (run ops) o := by
  rw [run, List.foldl_append]
  rfl

/-- The same of the rounds. -/
theorem rounds_append_singleton (ops : List (Op α)) (o : Op α) :
    rounds (ops ++ [o]) = (rounds ops).add o := by
  rw [rounds, List.foldl_append]
  rfl

/-- **What a take gets** is the last value of its round. -/
theorem run_eq (ops : List (Op α)) :
    run ops
      = { taken := (rounds ops).ended.map List.getLast?, place := (rounds ops).current.getLast? } := by
  induction ops using List.reverseRecOn with
  | nil => rfl
  | append_singleton ops o ih =>
    rw [run_append_singleton, rounds_append_singleton, ih]
    cases o with
    | write a =>
      rw [step, Rounds.add, List.getLast?_concat]
    | take =>
      rw [step, Rounds.add, List.map_append]
      rfl

/-- What is there was written. -/
theorem write_mem_of_place {ops : List (Op α)} {a : α} (h : (run ops).place = some a) :
    Op.write a ∈ ops := by
  induction ops using List.reverseRecOn with
  | nil => exact absurd h (Option.some_ne_none a).symm
  | append_singleton ops o ih =>
    rw [run_append_singleton] at h
    cases o with
    | write b =>
      have hb : some b = some a := h
      rw [Option.some.inj hb]
      exact List.mem_append_right _ List.mem_cons_self
    | take =>
      have hnone : (none : Option α) = some a := h
      exact absurd hnone.symm (Option.some_ne_none a)

/-- And so was what was taken. -/
theorem write_mem_of_taken {ops : List (Op α)} {a : α} (h : some a ∈ (run ops).taken) :
    Op.write a ∈ ops := by
  induction ops using List.reverseRecOn with
  | nil => exact absurd h List.not_mem_nil
  | append_singleton ops o ih =>
    rw [run_append_singleton] at h
    cases o with
    | write b => exact List.mem_append_left _ (ih h)
    | take =>
      rcases List.mem_append.mp h with h | h
      · exact List.mem_append_left _ (ih h)
      · exact List.mem_append_left _ (write_mem_of_place (List.mem_singleton.mp h).symm)

/-- The last values of some rounds, the first round first. -/
theorem filterMap_getLast?_cons (values : List α) (rounds : List (List α)) :
    (values :: rounds).filterMap List.getLast?
      = values.getLast?.toList ++ rounds.filterMap List.getLast? := by
  cases h : values.getLast? with
  | none => rw [List.filterMap_cons_none h]; rfl
  | some a => rw [List.filterMap_cons_some h]; rfl

/-- **What is seen** of every round is its last value. -/
theorem seen_run (ops : List (Op α)) : (run ops).seen = (rounds ops).all.filterMap List.getLast? := by
  rw [run_eq, State.seen, Rounds.all, List.filterMap_append, filterMap_getLast?_cons, List.filterMap_nil,
    List.append_nil, List.reduceOption, List.filterMap_map]
  rfl

/-- The last value is one of them … -/
theorem getLast?_toList_sublist (values : List α) : values.getLast?.toList.Sublist values := by
  cases h : values.getLast? with
  | none => exact List.nil_sublist _
  | some a => exact List.singleton_sublist.mpr (List.mem_of_getLast? h)

/-- … so those of all rounds are some of all values, in order. -/
theorem filterMap_getLast?_sublist (rounds : List (List α)) :
    (rounds.filterMap List.getLast?).Sublist rounds.flatten := by
  induction rounds with
  | nil => exact List.Sublist.refl _
  | cons values rounds ih =>
    rw [filterMap_getLast?_cons, List.flatten_cons]
    exact (getLast?_toList_sublist values).append ih

/-- **Nothing is made up**, nothing is taken twice, and the order is kept. -/
theorem seen_sublist (ops : List (Op α)) : (run ops).seen.Sublist (written ops) := by
  rw [seen_run]
  exact filterMap_getLast?_sublist _

/-- It is all of them iff there are no two. -/
theorem getLast?_toList_eq_iff (values : List α) :
    values.getLast?.toList = values ↔ values.length ≤ 1 := by
  constructor
  · intro h
    rw [← h]
    cases values.getLast? with
    | none => exact Nat.zero_le 1
    | some a => exact Nat.le_refl 1
  · intro h
    match values, h with
    | [], _ => rfl
    | [a], _ => rfl

/-- **Nothing is missed** iff no round has two. -/
theorem filterMap_getLast?_eq_iff (rounds : List (List α)) :
    rounds.filterMap List.getLast? = rounds.flatten ↔ ∀ values ∈ rounds, values.length ≤ 1 := by
  induction rounds with
  | nil => exact ⟨fun _ values hmem => absurd hmem List.not_mem_nil, fun _ => rfl⟩
  | cons values rounds ih =>
    rw [filterMap_getLast?_cons, List.flatten_cons, List.forall_mem_cons, ← ih, ← getLast?_toList_eq_iff]
    constructor
    · intro h
      -- both parts can only be shorter, so neither is
      have hle := (getLast?_toList_sublist values).length_le
      have hle' := (filterMap_getLast?_sublist rounds).length_le
      have hlen := congrArg List.length h
      rw [List.length_append, List.length_append] at hlen
      exact ⟨(getLast?_toList_sublist values).eq_of_length (by omega),
        (filterMap_getLast?_sublist rounds).eq_of_length (by omega)⟩
    · rintro ⟨hvalues, hrounds⟩
      rw [hvalues, hrounds]

/-- **Nothing is lost** exactly if no round writes twice. -/
theorem seen_eq_written_iff (ops : List (Op α)) :
    (run ops).seen = written ops ↔ ∀ values ∈ (rounds ops).all, values.length ≤ 1 := by
  rw [seen_run]
  exact filterMap_getLast?_eq_iff _

end Mailbox
