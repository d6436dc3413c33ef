/-
  A channel that loses, duplicates and reorders nothing.

  `Channel α` is the abstract picture of one direction of a connection: what the receiver has taken out,
  oldest first, and what is still on its way.  `send` puts a message in at the back, `receive` takes one
  out at the front.  What was sent is never stored but is by definition the one followed by the other,
  so that conservation (`received_prefix_sent`, `received_eq_sent_iff`) holds by construction; a system
  that is shown to act as a channel inherits it.
-/
import Mathlib.Data.List.Basic
import Mathlib.Logic.Function.Basic

namespace Fifo

/-- A channel keeps what was received as well. -/
structure Channel (α : Type) where
  received : List α
  waiting : List α

namespace Channel

variable {α : Type}

/-- Nothing sent yet. -/
def empty : Channel α := { received := [], waiting := [] }

/-- All that was ever put in. -/
def sent (c : Channel α) : List α := c.received ++ c.waiting

/-- A value goes to the end. -/
def send (c : Channel α) (a : α) : Channel α := { c with waiting := c.waiting ++ [a] }

/-- Take the oldest message, if there is one. -/
def receive (c : Channel α) : Channel α :=
  match c.waiting with
  | [] => c
  | a :: rest => { received := c.received ++ [a], waiting := rest }

@[simp] theorem sent_empty : (empty : Channel α).sent = [] := rfl

@[simp] theorem sent_send (c : Channel α) (a : α) : (c.send a).sent = c.sent ++ [a] :=
  (List.append_assoc _ _ _).symm

@[simp] theorem received_send (c : Channel α) (a : α) : (c.send a).received = c.received := rfl

@[simp] theorem waiting_send (c : Channel α) (a : α) : (c.send a).waiting = c.waiting ++ [a] := rfl

/-- The first one that waits is received. -/
theorem receive_cons {c : Channel α} {a : α} {rest : List α} (h : c.waiting = a :: rest) :
    c.receive = { received := c.received ++ [a], waiting := rest } := by
  rw [receive, h]

/-- Receiving sends nothing. -/
theorem sent_receive_cons {c : Channel α} {a : α} {rest : List α} (h : c.waiting = a :: rest) :
    c.receive.sent = c.sent := by
  rw [receive_cons h]
  show (c.received ++ [a]) ++ rest = c.received ++ c.waiting
  rw [h, List.append_assoc]
  rfl

/-- What waits was sent. -/
theorem mem_sent_of_mem_waiting {c : Channel α} {a : α} (h : a ∈ c.waiting) : a ∈ c.sent :=
  List.mem_append_right _ h

/-- What arrives is what was sent, in order, up to some point. -/
theorem received_prefix_sent (c : Channel α) : c.received <+: c.sent := List.prefix_append _ _

/-- Everything has arrived iff nothing is on its way. -/
theorem received_eq_sent_iff (c : Channel α) : c.received = c.sent ↔ c.waiting = [] := by
  constructor
  · intro h
    exact List.append_right_eq_self.mp h.symm
  · intro h
    rw [sent, h, List.append_nil]

end Channel

/-- Queues by key: what holds of all their elements still does when one that it holds of is put in. -/
theorem forall_mem_update {κ α : Type} [DecidableEq κ] {P : κ → α → Prop} {queue : κ → List α}
    {k : κ} {a : α} (h : ∀ k', ∀ x ∈ queue k', P k' x) (ha : P k a) :
    ∀ k', ∀ x ∈ Function.update queue k (queue k ++ [a]) k', P k' x := by
  intro k' x hx
  by_cases hk : k' = k
  · subst hk
    rw [Function.update_self] at hx
    rcases List.mem_append.mp hx with hold | hnew
    · exact h k' x hold
    · rw [List.mem_singleton.mp hnew]
      exact ha
  · rw [Function.update_of_ne hk] at hx
    exact h k' x hx

end Fifo
