/-
  Two threads that disconnect one client, step by step.

  The handle thread calls `cdtp_client_disconnect` when it finds the end of the stream, and then reports
  the disconnect, whatever came of the call; a user's thread may call it at any time.  Both test
  `connected` and clear it afterwards, without a lock.  Here every read or write of `connected` and `done`
  and every call on the socket or on the thread is one step, and the two take their steps in any order.

  A disconnect takes effect once as long as the user's thread clears the flag only while it is still set
  and the handle thread has not decided to disconnect, and the handle thread decides so only while it is
  set.  From any other step there is no way back: when both threads have come to rest the socket has been
  closed twice, or a disconnect has been reported that was the user's (`disconnect_once`).
-/
import Cdtp.Interleaving
import Cdtp.Server

namespace Cdtp

open Runs

/-! ## The threads -/

/-- Where the handle thread stands: what it does next. -/
inductive HandlePc where
  | test
  | header
  /-- the test behind the header read, which found `o` -/
  | retest (o : Outcome)
  | body
  -- in `cdtp_client_disconnect`
  | disconnectTest
  | clear
  | setDone
  | close
  | detach
  -- behind it
  | dispatch
  | returned
  deriving DecidableEq, Repr

/-- Where the user's thread stands in `cdtp_client_disconnect`. -/
inductive UserPc where
  | idle
  | test
  | clear
  | setDone
  | close
  | join
  deriving DecidableEq, Repr

inductive Side where
  | handle
  | user
  deriving DecidableEq, Repr

structure Contest where
  connected : Bool
  done : Bool
  peerClosed : Bool
  handle : HandlePc
  user : UserPc
  /-- calls of `close` on the client's socket -/
  closes : Nat
  /-- who changed `connected` from true to false -/
  changedBy : Option Side
  /-- calls of `_cdtp_client_call_on_disconnected` -/
  dispatches : Nat
  handleErrors : List CDTPError
  userErrors : List CDTPError
  /-- a call of the user's has returned, and reported no error -/
  userOk : Bool

/-- What a read can bring: data while the socket is open, the end of the stream if the server has closed
    the connection, or at a body of no bytes; an error at any time. -/
def Contest.canRead (s : Contest) (atBody : Bool) : Outcome → Bool
  | .failed => true
  | .ended => s.closes == 0 && (s.peerClosed || atBody)
  | _ => s.closes == 0

/-- `connected = false`. -/
def Contest.clearBy (s : Contest) (side : Side) : Contest :=
  { s with connected := false, changedBy := if s.connected then some side else s.changedBy }

theorem clearBy_of_set {s : Contest} (h : s.connected = true) (side : Side) :
    (s.clearBy side).changedBy = some side :=
  if_pos h

theorem clearBy_of_cleared {s : Contest} (h : s.connected = false) (side : Side) :
    (s.clearBy side).changedBy = s.changedBy :=
  if_neg (by rw [h]; exact Bool.false_ne_true)

def Contest.handleFails (s : Contest) (e : CDTPError) : Contest :=
  { s with handleErrors := s.handleErrors ++ [e] }

def Contest.userFails (s : Contest) (e : CDTPError) : Contest :=
  { s with userErrors := s.userErrors ++ [e], user := .idle }

/-- Behind the header read, while `connected` is set. -/
def Contest.afterHeader (s : Contest) : Outcome → Contest
  | .ended => { s with handle := .disconnectTest }
  | .nothing => { s with handle := .test }
  | .found => { s with handle := .body }
  | .failed => { s.handleFails .CDTP_CLIENT_RECV_FAILED with handle := .returned }

/-- Behind the body read.  `failed` is also a body that is too short, and "nothing there" is an error. -/
def Contest.afterBody (s : Contest) : Outcome → Contest
  | .ended => { s with handle := .disconnectTest }
  | .found => { s with handle := .test }
  | .nothing => { s.handleFails .CDTP_CLIENT_RECV_FAILED with handle := .returned }
  | .failed => { s.handleFails .CDTP_CLIENT_RECV_FAILED with handle := .returned }

/-- `_cdtp_client_handle`. -/
def handleAct (s : Contest) (o : Outcome) : HandlePc → Contest
  | .test => { s with handle := if s.connected then .header else .returned }
  | .header => if s.canRead false o then { s with handle := .retest o } else s
  | .retest o => if s.connected = false then { s with handle := .returned } else s.afterHeader o
  | .body => if s.canRead true o then s.afterBody o else s
  | .disconnectTest =>
    if s.connected then { s with handle := .clear }
    -- the result of the call is not looked at
    else { s.handleFails .CDTP_CLIENT_NOT_CONNECTED with handle := .dispatch }
  | .clear => { s.clearBy .handle with handle := .setDone }
  | .setDone => { s with done := true, handle := .close }
  | .close =>
    if o = .failed then
      { s.handleFails .CDTP_CLIENT_DISCONNECT_FAILED with closes := s.closes + 1, handle := .dispatch }
    else { s with closes := s.closes + 1, handle := .detach }
  | .detach =>
    if o = .failed then
      { s.handleFails .CDTP_HANDLE_THREAD_NOT_CLOSING with handle := .dispatch }
    else { s with handle := .dispatch }
  | .dispatch => { s with dispatches := s.dispatches + 1, handle := .returned }
  | .returned => s

/-- `cdtp_client_disconnect`, called by the user's thread. -/
def userAct (s : Contest) (o : Outcome) : UserPc → Contest
  | .idle => { s with user := .test }
  | .test => if s.connected then { s with user := .clear } else s.userFails .CDTP_CLIENT_NOT_CONNECTED
  | .clear => { s.clearBy .user with user := .setDone }
  | .setDone => { s with done := true, user := .close }
  | .close =>
    if o = .failed then
      { s with closes := s.closes + 1 }.userFails .CDTP_CLIENT_DISCONNECT_FAILED
    else { s with closes := s.closes + 1, user := .join }
  | .join =>
    if o = .failed then s.userFails .CDTP_HANDLE_THREAD_NOT_CLOSING
    -- `pthread_join` waits for the handle thread
    else if s.handle = .returned then { s with userOk := true, user := .idle }
    else s

/-- The server closes the connection, or a thread takes a step. -/
inductive ContestInput where
  | peerCloses
  | handle (o : Outcome)
  | user (o : Outcome)
  deriving DecidableEq, Repr

def contestStep (s : Contest) : ContestInput → Contest
  | .peerCloses => { s with peerClosed := true }
  | .handle o => handleAct s o s.handle
  | .user o => userAct s o s.user

/-- A client that has just been connected. -/
def startContest : Contest where
  connected := true
  done := false
  peerClosed := false
  handle := .test
  user := .idle
  closes := 0
  changedBy := none
  dispatches := 0
  handleErrors := []
  userErrors := []
  userOk := false

/-- **A disconnect takes effect once, by one side.** -/
structure Once (s : Contest) : Prop where
  closes : s.closes ≤ 1
  dispatches : s.dispatches ≤ 1
  own : 1 ≤ s.dispatches → s.changedBy = some .handle
  user : s.userOk = true → s.dispatches = 0 ∧ CDTPError.CDTP_CLIENT_NOT_CONNECTED ∉ s.handleErrors

/-- Both threads have come to their end. -/
def AtRest (s : Contest) : Prop := s.handle = .returned ∧ s.user = .idle

/-! ## The condition -/

/-- The handle thread has decided to disconnect, and not done it yet. -/
@[simp] def HandlePc.Committed (pc : HandlePc) : Prop := pc = .disconnectTest ∨ pc = .clear

/-- The user's thread clears the flag only while it is set and the handle thread is not about to; and the
    handle thread takes the end of the stream at a body for a disconnect only while it is set.  (Behind a
    header it tests that itself.) -/
def ContestOk (s : Contest) : ContestInput → Prop
  | .peerCloses => True
  | .handle o => s.handle = .body → o = .ended → s.canRead true o = true → s.connected = true
  | .user _ => s.user = .clear → s.connected = true ∧ ¬ s.handle.Committed

/-! ## What most steps leave as it was -/

/-- The handle thread has cleared the flag, and is still to close the socket. -/
@[simp] def HandlePc.closing : HandlePc → Nat
  | .setDone => 1
  | .close => 1
  | _ => 0

@[simp] def UserPc.closing : UserPc → Nat
  | .setDone => 1
  | .close => 1
  | _ => 0

/-- The handle thread has cleared the flag, and not returned. -/
@[simp] def HandlePc.Cleared (pc : HandlePc) : Prop :=
  pc = .setDone ∨ pc = .close ∨ pc = .detach ∨ pc = .dispatch

@[simp] def UserPc.Cleared (pc : UserPc) : Prop := pc = .setDone ∨ pc = .close ∨ pc = .join

/-- The handle thread is sure to call `close`. -/
@[simp] def HandlePc.willClose : HandlePc → Nat
  | .clear => 1
  | .setDone => 1
  | .close => 1
  | _ => 0

@[simp] def UserPc.willClose : UserPc → Nat
  | .clear => 1
  | .setDone => 1
  | .close => 1
  | _ => 0

section Moves

/-- A step of the handle thread that neither clears the flag nor reports the disconnect. -/
structure HandleMoves (o : Outcome) (s t : Contest) : Prop where
  connected : t.connected = s.connected
  changedBy : t.changedBy = s.changedBy
  user : t.user = s.user
  userOk : t.userOk = s.userOk
  dispatches : t.dispatches = s.dispatches
  closing : t.closes + t.handle.closing = s.closes + s.handle.closing
  willClose : s.closes + s.handle.willClose ≤ t.closes + t.handle.willClose
  committed : t.handle.Committed →
    s.connected = true ∨ (s.handle = .body ∧ o = .ended ∧ s.canRead true o = true)
  cleared : t.handle.Cleared → s.handle.Cleared ∨ (s.handle = .disconnectTest ∧ s.connected = false)
  returned : s.handle = .returned → t.handle = .returned
  errors : CDTPError.CDTP_CLIENT_NOT_CONNECTED ∈ t.handleErrors →
    CDTPError.CDTP_CLIENT_NOT_CONNECTED ∈ s.handleErrors ∨
      (s.handle = .disconnectTest ∧ s.connected = false)

variable {s t : Contest} {o : Outcome}

theorem HandleMoves.refl (h : ¬ s.handle.Committed) : HandleMoves o s s :=
  ⟨rfl, rfl, rfl, rfl, rfl, rfl, Nat.le_refl _, fun hc => absurd hc h, Or.inl, id, Or.inl⟩

/-- **What the handle thread does** at all other places. -/
theorem handleAct_moves (s : Contest) (o : Outcome) (hclear : s.handle ≠ .clear)
    (hdispatch : s.handle ≠ .dispatch) : HandleMoves o s (handleAct s o s.handle) := by
  cases hpc : s.handle with
  | test =>
    rw [handleAct]
    cases hconnected : s.connected <;> constructor <;> simp [hpc, hconnected]
  | header =>
    rw [handleAct]
    split
    · constructor <;> simp [hpc]
    · exact .refl (by simp [hpc])
  | retest header =>
    rw [handleAct]
    by_cases hconnected : s.connected = false
    · rw [if_pos hconnected]
      constructor <;> simp [hpc]
    · -- the loop goes on, so the flag was still set
      rw [if_neg hconnected]
      have hset : s.connected = true := Bool.not_eq_false _ ▸ hconnected
      cases header <;> constructor <;> simp [hpc, hset, Contest.afterHeader, Contest.handleFails]
  | body =>
    rw [handleAct]
    by_cases hread : s.canRead true o = true
    · rw [if_pos hread]
      cases o <;> constructor <;> simp [hpc, hread, Contest.afterBody, Contest.handleFails]
    · rw [if_neg hread]
      exact .refl (by simp [hpc])
  | disconnectTest =>
    rw [handleAct]
    by_cases hset : s.connected = true
    · rw [if_pos hset]
      constructor <;> simp [hpc, hset]
    · rw [if_neg hset]
      constructor <;> simp [hpc, hset, Contest.handleFails]
  | clear => exact absurd hpc hclear
  | setDone =>
    rw [handleAct]
    constructor <;> simp [hpc]
  | close =>
    rw [handleAct]
    split <;> constructor <;> simp [hpc, Contest.handleFails]
  | detach =>
    rw [handleAct]
    split <;> constructor <;> simp [hpc, Contest.handleFails]
  | dispatch => exact absurd hpc hdispatch
  | returned => exact .refl (by simp [hpc])

/-- A step of the user's thread that does not clear the flag. -/
structure UserMoves (s t : Contest) : Prop where
  connected : t.connected = s.connected
  changedBy : t.changedBy = s.changedBy
  handle : t.handle = s.handle
  handleErrors : t.handleErrors = s.handleErrors
  dispatches : t.dispatches = s.dispatches
  closing : t.closes + t.user.closing = s.closes + s.user.closing
  willClose : s.closes + s.user.willClose ≤ t.closes + t.user.willClose
  cleared : t.user.Cleared → s.user.Cleared
  userOk : t.userOk = true → s.userOk = true ∨ s.user.Cleared

theorem userAct_moves (s : Contest) (o : Outcome) (hclear : s.user ≠ .clear) :
    UserMoves s (userAct s o s.user) := by
  cases hpc : s.user with
  | idle => constructor <;> simp [userAct, hpc]
  | test =>
    rw [userAct]
    split <;> constructor <;> simp [hpc, Contest.userFails]
  | clear => exact absurd hpc hclear
  | setDone => constructor <;> simp [userAct, hpc]
  | close =>
    rw [userAct]
    split <;> constructor <;> simp [hpc, Contest.userFails]
  | join =>
    rw [userAct]
    split
    · constructor <;> simp [hpc, Contest.userFails]
    · split
      · constructor <;> simp [hpc]
      · exact ⟨rfl, rfl, rfl, rfl, rfl, rfl, Nat.le_refl _, id, Or.inl⟩

end Moves

/-! ## Along the condition -/

structure Orderly (s : Contest) : Prop where
  changedBy : s.changedBy = none ↔ s.connected = true
  closes : s.closes + s.handle.closing + s.user.closing = if s.connected then 0 else 1
  committed : s.handle.Committed → s.connected = true
  handle : s.handle.Cleared → s.changedBy = some .handle
  user : s.user.Cleared → s.changedBy = some .user
  dispatches : s.dispatches = 0 ∨
    (s.dispatches = 1 ∧ s.handle = .returned ∧ s.changedBy = some .handle)
  errors : CDTPError.CDTP_CLIENT_NOT_CONNECTED ∉ s.handleErrors
  userOk : s.userOk = true → s.changedBy = some .user

theorem orderly_start : Orderly startContest := by
  constructor <;> simp [startContest]

/-- While the flag is set nobody has cleared it; then it was one side alone. -/
theorem Orderly.once {s : Contest} (h : Orderly s) : Once s where
  closes := by
    have hcloses := h.closes
    split at hcloses <;> omega
  dispatches := by
    rcases h.dispatches with hzero | ⟨hone, -⟩ <;> omega
  own hpos := by
    rcases h.dispatches with hzero | ⟨-, -, hside⟩
    · omega
    · exact hside
  user hok := by
    refine ⟨?_, h.errors⟩
    rcases h.dispatches with hzero | ⟨-, -, hside⟩
    · exact hzero
    · exact absurd (hside.symm.trans (h.userOk hok)) (by decide)

section Steps

variable {s t : Contest} {o : Outcome}

/-- A step of the handle thread that leaves the flag alone. -/
theorem HandleMoves.orderly (hmoves : HandleMoves o s t) (h : Orderly s)
    (hok : s.handle = .body → o = .ended → s.canRead true o = true → s.connected = true) :
    Orderly t := by
  -- it has decided to disconnect, so the flag is still set
  have htest : ¬ (s.handle = .disconnectTest ∧ s.connected = false) := by
    rintro ⟨hpc, hfalse⟩
    exact absurd (hfalse.symm.trans (h.committed (Or.inl hpc))) (by decide)
  refine ⟨?_, ?_, ?_, ?_, ?_, ?_, ?_, ?_⟩
  · rw [hmoves.changedBy, hmoves.connected]
    exact h.changedBy
  · rw [hmoves.connected, hmoves.user, hmoves.closing]
    exact h.closes
  · intro hc
    rw [hmoves.connected]
    rcases hmoves.committed hc with hset | ⟨hpc, hended, hread⟩
    · exact hset
    · exact hok hpc hended hread
  · intro hc
    rw [hmoves.changedBy]
    exact h.handle ((hmoves.cleared hc).resolve_right htest)
  · rw [hmoves.user, hmoves.changedBy]
    exact h.user
  · rw [hmoves.dispatches, hmoves.changedBy]
    rcases h.dispatches with hzero | ⟨hone, hreturned, hside⟩
    · exact Or.inl hzero
    · exact Or.inr ⟨hone, hmoves.returned hreturned, hside⟩
  · intro hmem
    exact h.errors ((hmoves.errors hmem).resolve_right htest)
  · rw [hmoves.userOk, hmoves.changedBy]
    exact h.userOk

/-- A step of the user's thread that leaves it alone. -/
theorem UserMoves.orderly (hmoves : UserMoves s t) (h : Orderly s) : Orderly t := by
  refine ⟨?_, ?_, ?_, ?_, ?_, ?_, ?_, ?_⟩
  · rw [hmoves.changedBy, hmoves.connected]
    exact h.changedBy
  · have hbefore := h.closes
    have hclosing := hmoves.closing
    rw [hmoves.connected, hmoves.handle]
    omega
  · rw [hmoves.connected, hmoves.handle]
    exact h.committed
  · rw [hmoves.changedBy, hmoves.handle]
    exact h.handle
  · intro hc
    rw [hmoves.changedBy]
    exact h.user (hmoves.cleared hc)
  · rw [hmoves.dispatches, hmoves.handle, hmoves.changedBy]
    exact h.dispatches
  · rw [hmoves.handleErrors]
    exact h.errors
  · intro hok
    rw [hmoves.changedBy]
    exact (hmoves.userOk hok).elim h.userOk h.user

/-- **The flag is cleared** by the handle thread: the user's thread has not cleared it. -/
theorem orderly_handleClears (h : Orderly s) (hpc : s.handle = .clear) :
    Orderly { s.clearBy .handle with handle := .setDone } := by
  have hconnected : s.connected = true := h.committed (Or.inr hpc)
  have hnone : s.changedBy = none := h.changedBy.mpr hconnected
  have hcloses := h.closes
  rw [hconnected, hpc] at hcloses
  have hchanged := clearBy_of_set hconnected .handle
  refine ⟨?_, ?_, ?_, fun _ => hchanged, ?_, ?_, h.errors, ?_⟩
  · simp [hconnected, Contest.clearBy]
  · simp [Contest.clearBy] at hcloses ⊢
    omega
  · simp
  · intro huser
    exact absurd ((h.user huser).symm.trans hnone) (by simp)
  · rcases h.dispatches with hzero | ⟨-, hreturned, -⟩
    · exact Or.inl hzero
    · exact absurd (hpc.symm.trans hreturned) (by decide)
  · intro hok
    exact absurd ((h.userOk hok).symm.trans hnone) (by simp)

/-- And by the user's, while the handle thread is not about to. -/
theorem orderly_userClears (h : Orderly s) (hpc : s.user = .clear) (hconnected : s.connected = true)
    (hno : ¬ s.handle.Committed) : Orderly { s.clearBy .user with user := .setDone } := by
  have hnone : s.changedBy = none := h.changedBy.mpr hconnected
  have hcloses := h.closes
  rw [hconnected, hpc] at hcloses
  have hchanged := clearBy_of_set hconnected .user
  refine ⟨?_, ?_, fun hcommitted => absurd hcommitted hno, ?_, fun _ => hchanged, ?_, h.errors,
    fun _ => hchanged⟩
  · simp [hconnected, Contest.clearBy]
  · simp [Contest.clearBy] at hcloses ⊢
    omega
  · intro hhandle
    exact absurd ((h.handle hhandle).symm.trans hnone) (by simp)
  · rcases h.dispatches with hzero | ⟨-, -, hside⟩
    · exact Or.inl hzero
    · exact absurd (hside.symm.trans hnone) (by simp)

/-- The disconnect is reported, once, by the side that cleared the flag. -/
theorem orderly_dispatch (h : Orderly s) (hpc : s.handle = .dispatch) :
    Orderly { s with dispatches := s.dispatches + 1, handle := .returned } := by
  have hside : s.changedBy = some .handle := h.handle (Or.inr (Or.inr (Or.inr hpc)))
  have hcloses := h.closes
  rw [hpc] at hcloses
  refine ⟨h.changedBy, hcloses, ?_, ?_, h.user, ?_, h.errors, h.userOk⟩
  · simp
  · simp
  · rcases h.dispatches with hzero | ⟨-, hreturned, -⟩
    · exact Or.inr ⟨by rw [hzero], rfl, hside⟩
    · exact absurd (hpc.symm.trans hreturned) (by decide)

theorem orderly_handle (h : Orderly s)
    (hok : s.handle = .body → o = .ended → s.canRead true o = true → s.connected = true) :
    Orderly (handleAct s o s.handle) := by
  by_cases hclear : s.handle = .clear
  · rw [hclear]
    exact orderly_handleClears h hclear
  by_cases hdispatch : s.handle = .dispatch
  · rw [hdispatch]
    exact orderly_dispatch h hdispatch
  exact (handleAct_moves s o hclear hdispatch).orderly h hok

theorem orderly_user (h : Orderly s)
    (hok : s.user = .clear → s.connected = true ∧ ¬ s.handle.Committed) :
    Orderly (userAct s o s.user) := by
  by_cases hclear : s.user = .clear
  · rw [hclear]
    exact orderly_userClears h hclear (hok hclear).1 (hok hclear).2
  exact (userAct_moves s o hclear).orderly h

/-- **A step that meets the condition** keeps the threads in order. -/
theorem contestStep_orderly (h : Orderly s) (i : ContestInput) (hok : ContestOk s i) :
    Orderly (contestStep s i) := by
  cases i with
  | peerCloses => exact ⟨h.changedBy, h.closes, h.committed, h.handle, h.user, h.dispatches, h.errors,
      h.userOk⟩
  | handle o => exact orderly_handle h hok
  | user o => exact orderly_user h hok

/-! ## Off the condition -/

/-- The socket is closed twice, or sure to be. -/
def ClosesTwice (s : Contest) : Prop := 2 ≤ s.closes + s.handle.willClose + s.user.willClose

/-- A disconnect is reported that was the user's, or sure to be. -/
structure ReportsUser (s : Contest) : Prop where
  connected : s.connected = false
  changedBy : s.changedBy = some .user
  dispatches : s.handle = .disconnectTest ∨ s.handle = .dispatch ∨ 1 ≤ s.dispatches

/-- No way back. -/
def Lost (s : Contest) : Prop := ClosesTwice s ∨ ReportsUser s

/-- At rest, what was sure to come has come. -/
theorem Lost.not_once (h : Lost s) (hrest : AtRest s) : ¬ Once s := by
  intro honce
  rcases h with htwice | hreports
  · have hcloses := honce.closes
    rw [ClosesTwice, hrest.1, hrest.2] at htwice
    simp at htwice
    omega
  · have hpos : 1 ≤ s.dispatches := by
      rcases hreports.dispatches with h | h | h
      · exact absurd (hrest.1.symm.trans h) (by decide)
      · exact absurd (hrest.1.symm.trans h) (by decide)
      · exact h
    exact absurd ((honce.own hpos).symm.trans hreports.changedBy) (by decide)

/-- Whoever is sure to close does not stop being so but by closing. -/
theorem handleAct_closes (s : Contest) (o : Outcome) :
    s.closes + s.handle.willClose
      ≤ (handleAct s o s.handle).closes + (handleAct s o s.handle).handle.willClose := by
  by_cases hclear : s.handle = .clear
  · rw [hclear]
    exact Nat.le_refl _
  by_cases hdispatch : s.handle = .dispatch
  · rw [hdispatch]
    exact Nat.le_refl _
  exact (handleAct_moves s o hclear hdispatch).willClose

theorem userAct_closes (s : Contest) (o : Outcome) :
    s.closes + s.user.willClose
      ≤ (userAct s o s.user).closes + (userAct s o s.user).user.willClose := by
  by_cases hclear : s.user = .clear
  · rw [hclear]
    exact Nat.le_refl _
  exact (userAct_moves s o hclear).willClose

/-- What a step of the handle thread leaves as it was. -/
structure HandleFrame (s t : Contest) : Prop where
  user : t.user = s.user
  connected : s.connected = false → t.connected = false
  changedBy : s.connected = false → t.changedBy = s.changedBy
  dispatches : s.dispatches ≤ t.dispatches

theorem handleAct_frame (s : Contest) (o : Outcome) : HandleFrame s (handleAct s o s.handle) := by
  by_cases hclear : s.handle = .clear
  · rw [hclear]
    exact ⟨rfl, fun _ => rfl, fun hfalse => clearBy_of_cleared hfalse .handle, Nat.le_refl _⟩
  by_cases hdispatch : s.handle = .dispatch
  · rw [hdispatch]
    exact ⟨rfl, id, fun _ => rfl, Nat.le_succ _⟩
  have hmoves := handleAct_moves s o hclear hdispatch
  exact ⟨hmoves.user, fun hfalse => hmoves.connected.trans hfalse, fun _ => hmoves.changedBy,
    hmoves.dispatches.ge⟩

/-- What a step of the user's thread leaves as it was. -/
structure UserFrame (s t : Contest) : Prop where
  handle : t.handle = s.handle
  connected : s.connected = false → t.connected = false
  changedBy : s.connected = false → t.changedBy = s.changedBy
  dispatches : t.dispatches = s.dispatches

theorem userAct_frame (s : Contest) (o : Outcome) : UserFrame s (userAct s o s.user) := by
  by_cases hclear : s.user = .clear
  · rw [hclear]
    exact ⟨rfl, fun _ => rfl, fun hfalse => clearBy_of_cleared hfalse .user, rfl⟩
  have hmoves := userAct_moves s o hclear
  exact ⟨hmoves.handle, fun hfalse => hmoves.connected.trans hfalse, fun _ => hmoves.changedBy,
    hmoves.dispatches⟩

/-- **No step leads back.** -/
theorem contestStep_lost (h : Lost s) (i : ContestInput) : Lost (contestStep s i) := by
  cases i with
  | peerCloses =>
    rcases h with htwice | hreports
    · exact Or.inl htwice
    · exact Or.inr ⟨hreports.connected, hreports.changedBy, hreports.dispatches⟩
  | handle o =>
    have hframe := handleAct_frame s o
    rcases h with htwice | hreports
    · have hcloses := handleAct_closes s o
      left
      rw [contestStep, ClosesTwice, hframe.user]
      rw [ClosesTwice] at htwice
      omega
    · refine Or.inr ⟨hframe.connected hreports.connected,
        (hframe.changedBy hreports.connected).trans hreports.changedBy, ?_⟩
      rcases hreports.dispatches with hpc | hpc | hpos
      · -- the test of `cdtp_client_disconnect` fails, and the disconnect is reported all the same
        right; left
        rw [contestStep, hpc, handleAct, hreports.connected]
        rfl
      · right; right
        rw [contestStep, hpc, handleAct]
        exact Nat.le_add_left 1 s.dispatches
      · exact Or.inr (Or.inr (hpos.trans hframe.dispatches))
  | user o =>
    have hframe := userAct_frame s o
    rcases h with htwice | hreports
    · have hcloses := userAct_closes s o
      left
      rw [contestStep, ClosesTwice, hframe.handle]
      rw [ClosesTwice] at htwice
      omega
    · refine Or.inr ⟨hframe.connected hreports.connected,
        (hframe.changedBy hreports.connected).trans hreports.changedBy, ?_⟩
      rw [contestStep, hframe.handle, hframe.dispatches]
      exact hreports.dispatches

/-- **A step off the condition** leads there. -/
theorem contestStep_of_not_ok (h : Orderly s) (i : ContestInput) (hno : ¬ ContestOk s i) :
    Lost (contestStep s i) := by
  cases i with
  | peerCloses => exact absurd trivial hno
  | handle o =>
    -- a body ends while the flag is not set: the user's thread has cleared it, and not closed yet
    obtain ⟨hpc, hno⟩ := Classical.not_imp.mp hno
    obtain ⟨rfl, hno⟩ := Classical.not_imp.mp hno
    obtain ⟨hread, hconnected⟩ := Classical.not_imp.mp hno
    have hfalse : s.connected = false := Bool.eq_false_iff.mpr hconnected
    have hopen : s.closes = 0 := by
      simp only [Contest.canRead, Bool.and_eq_true, beq_iff_eq] at hread
      exact hread.1
    have huser : s.user.Cleared := by
      have hcloses := h.closes
      rw [hfalse, hpc, hopen] at hcloses
      cases hu : s.user <;> rw [hu] at hcloses <;> simp at hcloses ⊢
    right
    rw [contestStep, hpc, handleAct, if_pos hread]
    exact ⟨hfalse, h.user huser, Or.inl rfl⟩
  | user o =>
    obtain ⟨hpc, hno⟩ := Classical.not_imp.mp hno
    rw [contestStep, hpc, userAct]
    cases hconnected : s.connected with
    | false =>
      -- the handle thread has cleared the flag, and closes the socket as well
      left
      have hcloses := h.closes
      rw [hconnected, hpc] at hcloses
      have hle : s.handle.closing ≤ s.handle.willClose := by
        cases s.handle <;> simp
      have hone : s.closes + s.handle.closing + 0 = 1 := hcloses
      show 2 ≤ s.closes + s.handle.willClose + 1
      omega
    | true =>
      have hcommitted : s.handle.Committed := by
        by_contra hfree
        exact hno ⟨hconnected, hfree⟩
      rcases hcommitted with hhandle | hhandle
      · exact Or.inr ⟨rfl, clearBy_of_set hconnected .user, Or.inl hhandle⟩
      · left
        simp [ClosesTwice, Contest.clearBy, hhandle]

end Steps

/-! ## Every run -/

/-- **When a disconnect takes effect once**: in every state of every run that meets the condition; and a
    run in which both threads come to rest, and it has, does meet it. -/
theorem disconnect_once (is : List ContestInput) :
    (Along contestStep ContestOk startContest is → Always contestStep Once startContest is) ∧
    (AtRest (run contestStep startContest is) → Once (run contestStep startContest is) →
      Along contestStep ContestOk startContest is) := by
  constructor
  · exact @always_of_along _ _ contestStep Orderly Once ContestOk (fun s h => h.once)
      (fun s i h hok => contestStep_orderly h i hok) is startContest orderly_start
  · intro hrest honce
    by_contra hno
    have hlost := @doomed_of_not_along _ _ contestStep Orderly ContestOk Lost
      (fun s i h hok => contestStep_orderly h i hok) (fun s i h hno => contestStep_of_not_ok h i hno)
      (fun s i h => contestStep_lost h i) is startContest orderly_start hno
    exact hlost.not_once hrest honce

/-! ## Two contests -/

/-- The server closes, the handle thread reads the end of the stream, and both threads pass their test
    before either clears the flag. -/
def bothTest : List ContestInput :=
  [.peerCloses, .handle .found, .handle .ended, .handle .found, .user .found, .user .found,
    .handle .found, .user .found, .handle .found, .user .found, .handle .found, .user .found,
    .handle .found]

/-- The user's thread disconnects while the handle thread is about to. -/
def userFirst : List ContestInput :=
  [.peerCloses, .handle .found, .handle .ended, .handle .found, .user .found, .user .found,
    .user .found, .user .found, .user .found, .handle .found, .handle .found, .user .found]

/-- The socket is closed twice.  And the user's call reports no error, but the handle thread an error and
    the disconnect. -/
theorem disconnect_twice :
    (run contestStep startContest bothTest).closes = 2 ∧
    ¬ Always contestStep Once startContest bothTest ∧
    (run contestStep startContest userFirst).userOk = true ∧
    (run contestStep startContest userFirst).dispatches = 1 ∧
    (run contestStep startContest userFirst).changedBy = some .user ∧
    (run contestStep startContest userFirst).handleErrors = [.CDTP_CLIENT_NOT_CONNECTED] ∧
    ¬ Always contestStep Once startContest userFirst := by
  refine ⟨by decide, ?_, by decide, by decide, by decide, by decide, ?_⟩
  · intro h
    have hrun := (always_iff_initial _ _).mp h bothTest (List.prefix_refl _)
    exact absurd hrun.closes (by decide)
  · intro h
    have hrun := (always_iff_initial _ _).mp h userFirst (List.prefix_refl _)
    exact absurd (hrun.user (by decide)).1 (by decide)

end Cdtp
