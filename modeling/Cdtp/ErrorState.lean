/-
  How errors are reported (`util.c`).

  Two numbers of the process have the last error: a report overwrites both, `cdtp_get_error` empties the
  one and `cdtp_get_underlying_error` the other.  Or a function is registered, and then every report is a
  call of it.

  `errors_reported` is about a process that runs a client, a server or the send functions, and in which
  anybody uses the globals at any time between two of their steps: reads, registers a function, clears it,
  or reports an error of his own (an event thread that could not be started, a socket that could not be
  set up, a failing OpenSSL call).  Every report goes to the function that is registered then, or else
  into the two numbers, each of which is a `Mailbox`: a report is read once from it, or overwritten by a
  later one, or still there.  A program that reads after each of its steps misses none, if it is a client
  or a server, since none of their steps reports twice.
-/
import Cdtp.ClientSession
import Cdtp.Lib.Mailbox
import Cdtp.Sending
import Cdtp.ServerSpec

namespace Cdtp

open CMem

/-! ## The globals of `util.c` -/

/-- The code that is no error. -/
def CDTP_SUCCESS : Int := 0

/-- The number of an error. -/
def CDTPError.code : CDTPError → Int
  | .CDTP_WINSOCK_INIT_FAILED => 1
  | .CDTP_SERVER_SOCK_INIT_FAILED => 2
  | .CDTP_SERVER_SETSOCKOPT_FAILED => 3
  | .CDTP_SERVER_CANNOT_RESTART => 4
  | .CDTP_SERVER_NOT_SERVING => 5
  | .CDTP_SERVER_ALREADY_SERVING => 6
  | .CDTP_SERVER_ADDRESS_FAILED => 7
  | .CDTP_SERVER_BIND_FAILED => 8
  | .CDTP_SERVER_LISTEN_FAILED => 9
  | .CDTP_SERVER_STOP_FAILED => 10
  | .CDTP_SERVE_THREAD_NOT_CLOSING => 11
  | .CDTP_CLIENT_DOES_NOT_EXIST => 12
  | .CDTP_CLIENT_REMOVE_FAILED => 13
  | .CDTP_SERVER_SEND_FAILED => 14
  | .CDTP_EVENT_THREAD_START_FAILED => 15
  | .CDTP_SERVE_THREAD_START_FAILED => 16
  | .CDTP_HANDLE_THREAD_START_FAILED => 17
  | .CDTP_SOCKET_ACCEPT_FAILED => 18
  | .CDTP_SERVER_RECV_FAILED => 19
  | .CDTP_CLIENT_SOCK_INIT_FAILED => 20
  | .CDTP_CLIENT_CANNOT_RECONNECT => 21
  | .CDTP_CLIENT_ALREADY_CONNECTED => 22
  | .CDTP_CLIENT_ADDRESS_FAILED => 23
  | .CDTP_CLIENT_CONNECT_FAILED => 24
  | .CDTP_CLIENT_DISCONNECT_FAILED => 25
  | .CDTP_HANDLE_THREAD_NOT_CLOSING => 26
  | .CDTP_CLIENT_NOT_CONNECTED => 27
  | .CDTP_CLIENT_SEND_FAILED => 28
  | .CDTP_CLIENT_RECV_FAILED => 29
  | .CDTP_OPENSSL_ERROR => 30
  | .CDTP_SERVER_KEY_EXCHANGE_FAILED => 31
  | .CDTP_CLIENT_KEY_EXCHANGE_FAILED => 32
  | .CDTP_SERVER_NOT_DONE => 33
  | .CDTP_CLIENT_NOT_DONE => 34

/-- A number that a getter answers is an error. -/
def isError (code : Int) : Bool := code ≠ CDTP_SUCCESS

/-- No error looks like success. -/
theorem isError_code (e : CDTPError) : isError e.code = true := by
  cases e with
  | _ => decide

/-- `CDTP_ERROR` and its neighbours; `F` are the functions that can be registered, `A` their argument. -/
structure ErrorState (F A : Type) where
  error : Int
  errorUnder : Int
  onErrorRegistered : Bool
  onError : F
  onErrorArg : A

/-- A call of the registered function. -/
structure ErrorCall (F A : Type) where
  onError : F
  cdtpErr : Int
  underlyingErr : Int
  arg : A

/-- A use of the globals: a report, by whatever part of the library, or a call of one of the functions of
    `cdtp.h`. -/
inductive ErrorUse (F A : Type) where
  | setError (cdtpErr : CDTPError) (underlyingErr : Int)
  | getError
  | getUnderlyingError
  | onError (onError : F) (arg : A)
  | onErrorClear

section Globals

variable {F A : Type}

/-- `cdtp_error`. -/
def ErrorState.cdtpError (s : ErrorState F A) : Bool := s.error ≠ CDTP_SUCCESS

/-- `cdtp_get_error`. -/
def ErrorState.cdtpGetError (s : ErrorState F A) : Int × ErrorState F A :=
  (s.error, { s with error := CDTP_SUCCESS })

/-- `cdtp_get_underlying_error`. -/
def ErrorState.cdtpGetUnderlyingError (s : ErrorState F A) : Int × ErrorState F A :=
  (s.errorUnder, { s with errorUnder := 0 })

/-- `_cdtp_set_error`; `_cdtp_set_err` is the same with `errno`. -/
def ErrorState.setError (s : ErrorState F A) (cdtpErr underlyingErr : Int) :
    List (ErrorCall F A) × ErrorState F A :=
  if s.onErrorRegistered = false then
    ([], { s with error := cdtpErr, errorUnder := underlyingErr })
  else
    ([{ onError := s.onError, cdtpErr := cdtpErr, underlyingErr := underlyingErr,
        arg := s.onErrorArg }], s)

/-- `cdtp_on_error`. -/
def ErrorState.cdtpOnError (s : ErrorState F A) (onError : F) (arg : A) : ErrorState F A :=
  { s with onErrorRegistered := true, onError := onError, onErrorArg := arg }

/-- `cdtp_on_error_clear`. -/
def ErrorState.cdtpOnErrorClear (s : ErrorState F A) : ErrorState F A :=
  { s with onErrorRegistered := false }

/-- The globals, the answers of the two getters so far, and the calls of registered functions. -/
structure ErrorChannel (F A : Type) where
  state : ErrorState F A
  codes : List Int
  underlying : List Int
  called : List (ErrorCall F A)

/-- One use, and what it calls or returns. -/
def ErrorChannel.use (c : ErrorChannel F A) : ErrorUse F A → ErrorChannel F A
  | .setError e underlyingErr =>
    let r := c.state.setError e.code underlyingErr
    { c with state := r.2, called := c.called ++ r.1 }
  | .getError =>
    let r := c.state.cdtpGetError
    { c with state := r.2, codes := c.codes ++ [r.1] }
  | .getUnderlyingError =>
    let r := c.state.cdtpGetUnderlyingError
    { c with state := r.2, underlying := c.underlying ++ [r.1] }
  | .onError f arg => { c with state := c.state.cdtpOnError f arg }
  | .onErrorClear => { c with state := c.state.cdtpOnErrorClear }

/-- A process in which nothing has been reported and nothing is registered.  The function and its argument
    are what was there before: nobody reads them. -/
def noErrors (onError : F) (arg : A) : ErrorChannel F A where
  state :=
    { error := CDTP_SUCCESS, errorUnder := 0, onErrorRegistered := false, onError := onError,
      onErrorArg := arg }
  codes := []
  underlying := []
  called := []

/-! ## What becomes of a report -/

/-- The function that is registered, with its argument, behind one more use. -/
def register (r : Option (F × A)) : ErrorUse F A → Option (F × A)
  | .onError f arg => some (f, arg)
  | .onErrorClear => none
  | _ => r

/-- The function that is registered in the end, with its argument. -/
def registered (uses : List (ErrorUse F A)) : Option (F × A) := uses.foldl register none

/-- The call that a report is, if a function is registered. -/
def heardOf (r : Option (F × A)) : ErrorUse F A → List (ErrorCall F A)
  | .setError e underlyingErr =>
    r.toList.map fun x =>
      { onError := x.1, cdtpErr := e.code, underlyingErr := underlyingErr, arg := x.2 }
  | _ => []

/-- What a use does to `CDTP_ERROR`. -/
def codeOps (r : Option (F × A)) : ErrorUse F A → List (Mailbox.Op Int)
  | .setError e _ => if r.isSome then [] else [.write e.code]
  | .getError => [.take]
  | _ => []

/-- And to `CDTP_ERROR_UNDER`. -/
def underlyingOps (r : Option (F × A)) : ErrorUse F A → List (Mailbox.Op Int)
  | .setError _ underlyingErr => if r.isSome then [] else [.write underlyingErr]
  | .getUnderlyingError => [.take]
  | _ => []

/-- What all uses do, each with the function that is registered then. -/
def collect {β : Type} (f : Option (F × A) → ErrorUse F A → List β) :
    Option (F × A) → List (ErrorUse F A) → List β
  | _, [] => []
  | r, u :: uses => f r u ++ collect f (register r u) uses

/-- What a list of uses does, cut in two. -/
theorem collect_append {β : Type} (f : Option (F × A) → ErrorUse F A → List β)
    (uses uses' : List (ErrorUse F A)) : ∀ r : Option (F × A),
    collect f r (uses ++ uses') = collect f r uses ++ collect f (uses.foldl register r) uses' := by
  induction uses with
  | nil => intro r; rfl
  | cons u uses ih =>
    intro r
    rw [List.cons_append, collect, collect, ih, List.append_assoc]
    rfl

/-- One use more. -/
theorem collect_append_singleton {β : Type} (f : Option (F × A) → ErrorUse F A → List β)
    (uses : List (ErrorUse F A)) (u : ErrorUse F A) :
    collect f none (uses ++ [u]) = collect f none uses ++ f (registered uses) u := by
  rw [collect_append]
  show _ ++ (f (registered uses) u ++ []) = _
  rw [List.append_nil]

/-- A number of the globals, and what its getter has answered, are what a mailbox says they are; `empty` is
    the answer of an empty one. -/
def NumberShows (empty : Int) (ops : List (Mailbox.Op Int)) (answers : List Int) (number : Int) : Prop :=
  answers = (Mailbox.run ops).taken.map (fun a => a.getD empty) ∧
    number = (Mailbox.run ops).place.getD empty

section NumberShows

variable {empty number : Int} {ops : List (Mailbox.Op Int)} {answers : List Int}

/-- Nothing happens to it. -/
theorem NumberShows.keep (h : NumberShows empty ops answers number) :
    NumberShows empty (ops ++ []) answers number := by
  rw [List.append_nil]
  exact h

/-- A report overwrites it. -/
theorem NumberShows.write (h : NumberShows empty ops answers number) (a : Int) :
    NumberShows empty (ops ++ [.write a]) answers a := by
  rw [NumberShows, Mailbox.run_append_singleton]
  exact ⟨h.1, rfl⟩

/-- The getter returns it, and puts back the answer of an empty place. -/
theorem NumberShows.take (h : NumberShows empty ops answers number) :
    NumberShows empty (ops ++ [.take]) (answers ++ [number]) empty := by
  rw [NumberShows, Mailbox.run_append_singleton]
  refine ⟨?_, rfl⟩
  show answers ++ [number] = (_ ++ [_]).map _
  rw [List.map_append, ← h.1, h.2]
  rfl

end NumberShows

/-- What the uses of the globals have come to. -/
structure Reported (uses : List (ErrorUse F A)) (c : ErrorChannel F A) : Prop where
  flag : c.state.onErrorRegistered = (registered uses).isSome
  function : ∀ x ∈ registered uses, c.state.onError = x.1 ∧ c.state.onErrorArg = x.2
  /-- the function that was registered when a report was made has got it -/
  called : c.called = collect heardOf none uses
  /-- and all other reports have gone to the two numbers -/
  code : NumberShows CDTP_SUCCESS (collect codeOps none uses) c.codes c.state.error
  underlying : NumberShows 0 (collect underlyingOps none uses) c.underlying c.state.errorUnder

/-- Before the first use. -/
theorem noErrors_reported (onError : F) (arg : A) : Reported [] (noErrors onError arg) where
  flag := rfl
  function x hx := absurd hx (Option.not_mem_none x)
  called := rfl
  code := ⟨rfl, rfl⟩
  underlying := ⟨rfl, rfl⟩

/-- **One use.** -/
theorem Reported.use {uses : List (ErrorUse F A)} {c : ErrorChannel F A} (h : Reported uses c)
    (u : ErrorUse F A) : Reported (uses ++ [u]) (c.use u) := by
  have hregistered : registered (uses ++ [u]) = register (registered uses) u := by
    rw [registered, List.foldl_append]
    rfl
  have hcalled := collect_append_singleton heardOf uses u
  have hcode := collect_append_singleton codeOps uses u
  have hunder := collect_append_singleton underlyingOps uses u
  have hsame : c.called = collect heardOf none uses ++ [] := by rw [List.append_nil, h.called]
  cases u with
  | setError e underlyingErr =>
    rcases hr : registered uses with _ | ⟨f, arg⟩
    · -- nothing is registered: the report is kept
      rw [hr] at hregistered hcalled hcode hunder
      have hflag : c.state.onErrorRegistered = false := by rw [h.flag, hr]; rfl
      have huse : c.use (.setError e underlyingErr)
          = { c with state := { c.state with error := e.code, errorUnder := underlyingErr },
                     called := c.called ++ [] } := by
        rw [ErrorChannel.use, ErrorState.setError, if_pos hflag]
      rw [huse]
      refine ⟨?_, ?_, ?_, ?_, ?_⟩
      · rw [hregistered]
        exact hflag
      · rw [hregistered]
        exact fun x hx => absurd hx (Option.not_mem_none x)
      · rw [hcalled, h.called]
        rfl
      · rw [hcode]
        exact h.code.write e.code
      · rw [hunder]
        exact h.underlying.write underlyingErr
    · -- it is a call
      rw [hr] at hregistered hcalled hcode hunder
      have hflag : c.state.onErrorRegistered = true := by rw [h.flag, hr]; rfl
      obtain ⟨hfun, harg⟩ := h.function (f, arg) hr
      have huse : c.use (.setError e underlyingErr)
          = { c with called := c.called ++
                [{ onError := f, cdtpErr := e.code, underlyingErr := underlyingErr, arg := arg }] } := by
        rw [ErrorChannel.use, ErrorState.setError, hflag, if_neg Bool.noConfusion, hfun, harg]
      rw [huse]
      refine ⟨?_, ?_, ?_, ?_, ?_⟩
      · rw [hregistered]
        exact hflag
      · rw [hregistered]
        exact hr ▸ h.function
      · rw [hcalled, h.called]
        rfl
      · rw [hcode]
        exact h.code.keep
      · rw [hunder]
        exact h.underlying.keep
  | getError =>
    refine ⟨hregistered ▸ h.flag, hregistered ▸ h.function, hcalled ▸ hsame, ?_, ?_⟩
    · rw [hcode]
      exact h.code.take
    · rw [hunder]
      exact h.underlying.keep
  | getUnderlyingError =>
    refine ⟨hregistered ▸ h.flag, hregistered ▸ h.function, hcalled ▸ hsame, ?_, ?_⟩
    · rw [hcode]
      exact h.code.keep
    · rw [hunder]
      exact h.underlying.take
  | onError f arg =>
    refine ⟨by rw [hregistered]; rfl, ?_, hcalled ▸ hsame, ?_, ?_⟩
    · rw [hregistered]
      rintro x ⟨⟩
      exact ⟨rfl, rfl⟩
    · rw [hcode]
      exact h.code.keep
    · rw [hunder]
      exact h.underlying.keep
  | onErrorClear =>
    refine ⟨by rw [hregistered]; rfl, ?_, hcalled ▸ hsame, ?_, ?_⟩
    · rw [hregistered]
      exact fun x hx => absurd hx (Option.not_mem_none x)
    · rw [hcode]
      exact h.code.keep
    · rw [hunder]
      exact h.underlying.keep

/-- **Any uses**, one after the other. -/
theorem Reported.uses {uses : List (ErrorUse F A)} {c : ErrorChannel F A} (h : Reported uses c)
    (uses' : List (ErrorUse F A)) : Reported (uses ++ uses') (uses'.foldl ErrorChannel.use c) := by
  induction uses' generalizing uses c with
  | nil =>
    rw [List.append_nil]
    exact h
  | cons u uses' ih =>
    rw [List.append_cons]
    exact ih (h.use u)

/-- No report is kept as a success. -/
theorem code_of_write {uses : List (ErrorUse F A)} {a : Int} : ∀ r : Option (F × A),
    Mailbox.Op.write a ∈ collect codeOps r uses → isError a = true := by
  induction uses with
  | nil => intro r h; exact absurd h List.not_mem_nil
  | cons u uses ih =>
    intro r h
    rcases List.mem_append.mp h with h | h
    · cases u with
      | setError e underlyingErr =>
        rw [codeOps] at h
        split at h
        · exact absurd h List.not_mem_nil
        · have ha := List.mem_singleton.mp h
          rw [Mailbox.Op.write.inj ha]
          exact isError_code e
      | getError => cases List.mem_singleton.mp h
      | getUnderlyingError => exact absurd h List.not_mem_nil
      | onError f arg => exact absurd h List.not_mem_nil
      | onErrorClear => exact absurd h List.not_mem_nil
    · exact ih _ h

/-- The flag tells whether there is a report that nobody has read. -/
theorem Reported.cdtpError {uses : List (ErrorUse F A)} {c : ErrorChannel F A} (h : Reported uses c) :
    c.state.cdtpError = (Mailbox.run (collect codeOps none uses)).place.isSome := by
  rw [ErrorState.cdtpError, h.code.2]
  cases hp : (Mailbox.run (collect codeOps none uses)).place with
  | none => rfl
  | some a => exact code_of_write none (Mailbox.write_mem_of_place hp)

/-- The codes that were read, and the one that is there: a success stands for none. -/
def ErrorChannel.seen (c : ErrorChannel F A) : List Int :=
  (c.codes ++ [c.state.error]).filter isError

/-- The answers that are not a success are those that an empty place did not give. -/
theorem filter_getD {taken : List (Option Int)} (h : ∀ a, some a ∈ taken → isError a = true) :
    (taken.map fun a => a.getD CDTP_SUCCESS).filter isError
      = taken.reduceOption := by
  induction taken with
  | nil => rfl
  | cons a taken ih =>
    have hrest := ih fun b hb => h b (List.mem_cons_of_mem _ hb)
    cases a with
    | none =>
      rw [List.map_cons, List.filter_cons_of_neg (by decide), hrest]
      rfl
    | some a =>
      have ha := h a List.mem_cons_self
      rw [List.map_cons, Option.getD_some, List.filter_cons_of_pos ha, hrest]
      rfl

/-- The codes that were read, or can be, are those that the mailbox shows. -/
theorem Reported.seen {uses : List (ErrorUse F A)} {c : ErrorChannel F A} (h : Reported uses c) :
    c.seen = (Mailbox.run (collect codeOps none uses)).seen := by
  obtain ⟨hcodes, herror⟩ := h.code
  have htaken : ∀ a, some a ∈ (Mailbox.run (collect codeOps none uses)).taken ++
      [(Mailbox.run (collect codeOps none uses)).place] → isError a = true := by
    intro a ha
    rcases List.mem_append.mp ha with ha | ha
    · exact code_of_write none (Mailbox.write_mem_of_taken ha)
    · exact code_of_write none (Mailbox.write_mem_of_place (List.mem_singleton.mp ha).symm)
  have hlast : [(Mailbox.run (collect codeOps none uses)).place].reduceOption
      = (Mailbox.run (collect codeOps none uses)).place.toList := by
    cases (Mailbox.run (collect codeOps none uses)).place with
    | none => rfl
    | some a => rfl
  rw [ErrorChannel.seen, hcodes, herror, Mailbox.State.seen, ← hlast, ← List.reduceOption_append,
    ← filter_getD htaken, List.map_append]
  rfl

end Globals

/-! ## A process -/

section Programs

variable {S I F A : Type}

/-- A step of the program, with the underlying errors of its reports; or a use of the globals by anybody. -/
inductive ProcessInput (I F A : Type) where
  | act (i : I) (underlying : Nat → Int)
  | use (u : ErrorUse F A)

/-- A part of the library, with the globals that it reports to. -/
structure Process (S F A : Type) where
  program : S
  channel : ErrorChannel F A

/-- What a step of the program reports. -/
def newReports (step : S → I → S) (errors : S → List CDTPError) (s : S) (i : I)
    (underlying : Nat → Int) : List (CDTPError × Int) :=
  ((errors (step s i)).drop (errors s).length).mapIdx fun k e => (e, underlying k)

/-- The uses of the globals in a step of the process. -/
def stepUses (step : S → I → S) (errors : S → List CDTPError) (s : S) :
    ProcessInput I F A → List (ErrorUse F A)
  | .act i underlying => (newReports step errors s i underlying).map fun e => .setError e.1 e.2
  | .use u => [u]

/-- A use from outside changes nothing in the part. -/
def programStep (step : S → I → S) (s : S) : ProcessInput I F A → S
  | .act i _ => step s i
  | .use _ => s

/-- A step of the part makes the reports that it adds to its list of errors. -/
def reportingStep (step : S → I → S) (errors : S → List CDTPError) (p : Process S F A)
    (x : ProcessInput I F A) : Process S F A :=
  { program := programStep step p.program x
    channel := (stepUses step errors p.program x).foldl ErrorChannel.use p.channel }

/-- All uses of a run. -/
def runUses (step : S → I → S) (errors : S → List CDTPError) :
    S → List (ProcessInput I F A) → List (ErrorUse F A)
  | _, [] => []
  | s, x :: xs => stepUses step errors s x ++ runUses step errors (programStep step s x) xs

/-- The errors that the program itself has reported in a run. -/
def ownErrors (step : S → I → S) (errors : S → List CDTPError) :
    S → List (ProcessInput I F A) → List CDTPError
  | _, [] => []
  | s, .act i underlying :: xs =>
    (newReports step errors s i underlying).map Prod.fst ++ ownErrors step errors (step s i) xs
  | s, .use _ :: xs => ownErrors step errors s xs

/-- A process at its start. -/
def launch (s : S) (onError : F) (arg : A) : Process S F A where
  program := s
  channel := noErrors onError arg

variable {step : S → I → S} {errors : S → List CDTPError}

/-- The globals see the uses, and those reports between them. -/
theorem run_channel : ∀ (xs : List (ProcessInput I F A)) (p : Process S F A),
    (Runs.run (reportingStep step errors) p xs).channel
      = (runUses step errors p.program xs).foldl ErrorChannel.use p.channel := by
  intro xs
  induction xs with
  | nil => intro p; rfl
  | cons x xs ih =>
    intro p
    rw [Runs.run_cons, ih, runUses, List.foldl_append]
    rfl

/-- The part goes on as if nobody were listening. -/
theorem run_program : ∀ (xs : List (ProcessInput I F A)) (p : Process S F A),
    (Runs.run (reportingStep step errors) p xs).program = Runs.run (programStep step) p.program xs := by
  intro xs
  induction xs with
  | nil => intro p; rfl
  | cons x xs ih => intro p; exact ih _

/-- What a step reports are the errors that it adds. -/
theorem newReports_errors (hgrows : ∀ s i, errors s <+: errors (step s i)) (s : S) (i : I)
    (underlying : Nat → Int) :
    errors s ++ (newReports step errors s i underlying).map Prod.fst = errors (step s i) := by
  obtain ⟨new, hnew⟩ := hgrows s i
  have hdrop : (errors (step s i)).drop (errors s).length = new := by rw [← hnew, List.drop_left]
  have hmap : (newReports step errors s i underlying).map Prod.fst = new := by
    rw [newReports, hdrop]
    exact List.ext_getElem (by simp) fun k _ _ => by simp
  rw [hmap, hnew]

/-- **The program's errors** are all reported. -/
theorem own_errors (hgrows : ∀ s i, errors s <+: errors (step s i)) :
    ∀ (xs : List (ProcessInput I F A)) (s : S),
      errors s ++ ownErrors step errors s xs = errors (Runs.run (programStep step) s xs) := by
  intro xs
  induction xs with
  | nil => intro s; exact List.append_nil _
  | cons x xs ih =>
    intro s
    cases x with
    | act i underlying =>
      rw [Runs.run_cons, ownErrors, ← List.append_assoc, newReports_errors hgrows]
      exact ih (step s i)
    | use u => exact ih s

/-- What has become of every report of a process. -/
structure ErrorsAccounted (step : S → I → S) (errors : S → List CDTPError) (s₀ : S)
    (xs : List (ProcessInput I F A)) (p : Process S F A) : Prop where
  /-- the program has reported its errors, in order -/
  own : ownErrors step errors s₀ xs = errors p.program
  /-- those and all others went to the function that was registered then, or to the two numbers -/
  reported : Reported (runUses step errors s₀ xs) p.channel
  /-- the flag tells whether there is one that nobody has read -/
  flag : p.channel.state.cdtpError
    = (Mailbox.run (collect codeOps none (runUses step errors s₀ xs))).place.isSome
  /-- of those that no function got, each was read once, was overwritten, or is there -/
  once : p.channel.seen.Sublist (Mailbox.written (collect codeOps none (runUses step errors s₀ xs)))
  /-- and none was overwritten if `cdtp_get_error` was called between any two of them -/
  all_iff : p.channel.seen = Mailbox.written (collect codeOps none (runUses step errors s₀ xs)) ↔
    ∀ codes ∈ (Mailbox.rounds (collect codeOps none (runUses step errors s₀ xs))).all, codes.length ≤ 1

/-- A part that never takes an error back reports each of them once. -/
theorem accounted_of_grows (hgrows : ∀ s i, errors s <+: errors (step s i)) {s₀ : S} (hs : errors s₀ = [])
    (onError : F) (arg : A) (xs : List (ProcessInput I F A)) :
    ErrorsAccounted step errors s₀ xs
      (Runs.run (reportingStep step errors) (launch s₀ onError arg) xs) := by
  have hreported := (noErrors_reported onError arg).uses (runUses step errors s₀ xs)
  have hchannel := @run_channel S I F A step errors xs (launch s₀ onError arg)
  have howned := own_errors hgrows xs s₀
  rw [hs, List.nil_append] at howned
  rw [List.nil_append] at hreported
  refine ⟨?_, ?_, ?_, ?_, ?_⟩
  · rw [run_program]
    exact howned
  · rw [hchannel]
    exact hreported
  · rw [hchannel]
    exact hreported.cdtpError
  · rw [hchannel]
    exact hreported.seen ▸ Mailbox.seen_sublist _
  · rw [hchannel]
    exact hreported.seen ▸ Mailbox.seen_eq_written_iff _

/-! ## A program that reads after each of its steps -/

/-- The steps, with a call of `cdtp_get_error` behind each. -/
def readingAfter (acts : List (I × (Nat → Int))) : List (ProcessInput I F A) :=
  acts.flatMap fun a => [.act a.1 a.2, .use .getError]

/-- A step that reports once, or not at all. -/
def AtMostOne (before after : List CDTPError) : Prop :=
  after = before ∨ ∃ e, after = before ++ [e]

/-- So does one whose steps report one error at most. -/
theorem AtMostOne.prefix_of {before after : List CDTPError} (h : AtMostOne before after) :
    before <+: after := by
  rcases h with rfl | ⟨e, rfl⟩
  · exact List.prefix_refl _
  · exact List.prefix_append _ _

/-- **Reading after each step** misses nothing, if no step reports twice. -/
theorem codes_readingAfter (hone : ∀ s i, AtMostOne (errors s) (errors (step s i)))
    (acts : List (I × (Nat → Int))) : ∀ p : Process S F A,
    p.channel.state.onErrorRegistered = false → p.channel.state.error = CDTP_SUCCESS →
    p.channel.codes.filter isError = (errors p.program).map CDTPError.code →
    (Runs.run (reportingStep step errors) p (readingAfter acts)).channel.codes.filter isError
      = (errors (Runs.run step p.program (acts.map Prod.fst))).map CDTPError.code := by
  induction acts with
  | nil => intro p _ _ h; exact h
  | cons a acts ih =>
    intro p hflag herror hcodes
    have hrun : Runs.run (reportingStep step errors) p (readingAfter (a :: acts))
        = Runs.run (reportingStep step errors)
            (reportingStep step errors (reportingStep step errors p (.act a.1 a.2)) (.use .getError))
            (readingAfter acts) := rfl
    rw [hrun]
    rcases hone p.program a.1 with hsame | ⟨e, hnew⟩
    · -- no report: the look finds a success
      have hnone : newReports step errors p.program a.1 a.2 = [] := by
        rw [newReports, hsame, List.drop_length]
        rfl
      have hp : reportingStep step errors (reportingStep step errors p (.act a.1 a.2)) (.use .getError)
          = { program := step p.program a.1,
              channel := { p.channel with
                state := { p.channel.state with error := CDTP_SUCCESS },
                codes := p.channel.codes ++ [p.channel.state.error] } } := by
        simp only [reportingStep, stepUses, hnone]
        rfl
      rw [hp]
      refine ih _ hflag rfl ?_
      show (p.channel.codes ++ [p.channel.state.error]).filter _ = (errors (step p.program a.1)).map _
      rw [List.filter_append, hcodes, hsame, herror, List.filter_cons_of_neg (by decide)]
      exact List.append_nil _
    · have hone : newReports step errors p.program a.1 a.2 = [(e, a.2 0)] := by
        rw [newReports, hnew, List.drop_left]
        rfl
      have hp : reportingStep step errors (reportingStep step errors p (.act a.1 a.2)) (.use .getError)
          = { program := step p.program a.1,
              channel := { p.channel with
                state := { p.channel.state with error := CDTP_SUCCESS, errorUnder := a.2 0 },
                codes := p.channel.codes ++ [e.code],
                called := p.channel.called ++ [] } } := by
        simp only [reportingStep, stepUses, hone, List.map_cons, List.map_nil, List.foldl_cons,
          List.foldl_nil, ErrorChannel.use, ErrorState.setError, hflag]
        rfl
      rw [hp]
      refine ih _ hflag rfl ?_
      show (p.channel.codes ++ [e.code]).filter _ = (errors (step p.program a.1)).map _
      rw [List.filter_append, hcodes, hnew, List.map_append,
        List.filter_cons_of_pos (isError_code e)]
      rfl

end Programs

/-! ## Clients and servers -/

section Machines

variable {Ctx PKey : Type} {M : Machine} {O : OpenSSL Ctx PKey}

/-- No error. -/
theorem AtMostOne.same (errors : List CDTPError) : AtMostOne errors errors := .inl rfl

/-- One error. -/
theorem AtMostOne.report (errors : List CDTPError) (e : CDTPError) : AtMostOne errors (errors ++ [e]) :=
  .inr ⟨e, rfl⟩

/-- The calls and the branches of the loops, one by one: each ends at its first error. -/
theorem disconnect_atMostOne (s : HandleState) (closeOk threadOk : Bool) :
    AtMostOne s.errors (s.disconnect closeOk threadOk).errors := by
  unfold HandleState.disconnect
  split
  · exact .report _ _
  · cases closeOk with
    | false => exact .report _ _
    | true =>
      cases threadOk with
      | false => exact .report _ _
      | true => exact .same _

theorem handleReact_atMostOne (s : HandleState) (closeOk threadOk : Bool) (found : Received) :
    AtMostOne s.errors (s.react M O closeOk threadOk found).errors := by
  cases found with
  | headerEnd => exact disconnect_atMostOne s closeOk threadOk
  | bodyEnd => exact disconnect_atMostOne s closeOk threadOk
  | short => exact .report _ _
  | bodyError e => exact .report _ _
  | headerError e =>
    rw [HandleState.react]
    split
    · exact .same _
    · exact .report _ _
  | frame buffer msgSize =>
    rw [HandleState.react]
    split
    · exact .same _
    · exact .same _

/-- Every step of the handle loop. -/
theorem handleStep_atMostOne (s : HandleState) (i : HandleInput Ctx PKey) :
    AtMostOne s.errors (handleStep M s i).errors := by
  unfold handleStep
  split
  · rename_i header body O closeOk threadOk _
    split
    · exact .same _
    · exact handleReact_atMostOne (s.buffered header) closeOk threadOk _
  · exact disconnect_atMostOne s _ _
  · exact .same _

theorem connect_atMostOne (s : Session) (o : ConnectOutcome) (io : ClientExchange) (sizeBuffer : Bytes) :
    AtMostOne s.handle.errors (s.connect M O o io sizeBuffer).handle.errors := by
  unfold Session.connect
  split
  · exact .report _ _
  split
  · exact .report _ _
  split
  · exact .report _ _
  split
  · exact .report _ _
  unfold Session.establish
  split
  · exact .report _ _
  split
  · exact .same _
  · exact .report _ _
  · split
    · exact .report _ _
    · exact .same _

theorem send_atMostOne (s : Session) (rand : Option (Nat → UInt8)) (data : Bytes) (sendOk : Bool) :
    AtMostOne s.handle.errors (s.send M O rand data sendOk).handle.errors := by
  unfold Session.send
  split
  · exact .report _ _
  dsimp only
  split
  · exact .same _
  · exact .report _ _
  · split
    · exact .report _ _
    · exact .same _

theorem sessionDisconnect_atMostOne (s : Session) (closeOk threadOk : Bool) :
    AtMostOne s.handle.errors (s.disconnect closeOk threadOk).handle.errors := by
  have h := disconnect_atMostOne s.handle closeOk threadOk
  unfold Session.disconnect
  split
  · exact .report _ _
  split
  · exact h
  split
  · exact h
  · exact h

/-- No part of the life of a client reports twice. -/
theorem sessionStep_atMostOne (s : Session) (i : SessionInput Ctx PKey) :
    AtMostOne s.handle.errors (sessionStep M s i).handle.errors := by
  unfold sessionStep
  split
  · exact .same _
  split
  · exact connect_atMostOne s _ _ _
  · exact send_atMostOne s _ _ _
  · exact sessionDisconnect_atMostOne s _ _
  · unfold Session.free
    split
    · exact .report _ _
    · exact .same _
  · unfold Session.handleInit
    split
    · exact .same _
    split
    · exact .report _ _
    · exact .same _
  · unfold Session.turn
    split
    · exact .same _
    · exact handleStep_atMostOne s.handle _

/-- A client that is dropped is no error. -/
theorem dropClient_errors (s : ServeState) (id : Nat) : (s.dropClient id).errors = s.errors := by
  cases hget : s.server.clients.get id with
  | none => rw [dropClient_none hget]
  | some client => rw [dropClient_some hget]

theorem serveReact_atMostOne (s : ServeState) (id : Nat) (found : Received) :
    AtMostOne s.errors (s.react M O id found).errors := by
  have hdrop : AtMostOne s.errors (s.dropClient id).errors := by
    rw [dropClient_errors]
    exact .same _
  cases found with
  | headerEnd => exact hdrop
  | bodyEnd => exact hdrop
  | short => exact .report _ _
  | headerError e =>
    rw [ServeState.react]
    split
    · exact hdrop
    split
    · exact .same _
    · exact .report _ _
  | bodyError e =>
    rw [ServeState.react]
    split
    · exact hdrop
    · exact .report _ _
  | frame buffer msgSize =>
    rw [ServeState.react]
    split
    · exact .same _
    · exact .same _

theorem acceptConnection_atMostOne (s : ServeState) (c : Connection PKey) :
    AtMostOne s.errors (s.acceptConnection M O c).errors := by
  unfold ServeState.acceptConnection
  simp only
  split
  · exact .report _ _
  split
  · exact .same _
  · exact .report _ _
  · split
    · exact .report _ _
    · exact .same _

theorem removeClient_atMostOne (s : ServeState) (id : Nat) (closeOk : Bool) :
    AtMostOne s.errors (s.removeClient id closeOk).errors := by
  unfold ServeState.removeClient
  split
  · exact .report _ _
  split
  · exact .report _ _
  · cases closeOk with
    | false => exact .report _ _
    | true => exact .same _

/-- Nor does any part of the serve loop. -/
theorem serveStep_atMostOne (s : ServeState) (i : ServeInput Ctx PKey) :
    AtMostOne s.errors (serveStep M s i).errors := by
  unfold serveStep
  split
  · split
    · exact .same _
    unfold ServeState.acceptError
    split
    · exact .same _
    split
    · exact .report _ _
    · exact .same _
  · split
    · exact .same _
    · exact acceptConnection_atMostOne s _
  · rename_i id sock rest header body O _ _
    exact serveReact_atMostOne (({ s with todo := rest }).buffered header) id _
  · exact removeClient_atMostOne s _ _
  · exact .same _

theorem serverSend_atMostOne (s : SendState) (clientId : Nat) (data : Payload)
    (rand : Option (Nat → UInt8)) (result : SendResult) :
    AtMostOne s.errors (s.serverSend M O clientId data rand result).errors := by
  unfold SendState.serverSend
  split
  · exact .same _
  split
  · exact .report _ _
  · exact .report _ _
  · split
    · exact .report _ _
    · exact .same _

/-- A send to all clients may report once for each of them. -/
theorem serverSends_grow (data : Payload) (rand : Nat → Option (Nat → UInt8)) (result : Nat → SendResult)
    (cs : List (Nat × CDTPSocket)) : ∀ s : SendState,
    s.errors <+:
      (cs.foldl (fun s c => s.serverSend M O c.1 data (rand c.1) (result c.1)) s).errors := by
  induction cs with
  | nil => intro s; exact List.prefix_refl _
  | cons c cs ih =>
    intro s
    exact (serverSend_atMostOne s c.1 data (rand c.1) (result c.1)).prefix_of.trans (ih _)

/-- A broadcast reports an error for each client that it cannot send to, in order. -/
theorem sendStep_grows (s : SendState) (c : SendCall) : s.errors <+: (sendStep M O s c).errors := by
  cases c with
  | serverSend clientId data rand result =>
    exact (serverSend_atMostOne s clientId data rand result).prefix_of
  | serverSendAll data rand result =>
    show _ <+: (s.serverSendAll M O data rand result).errors
    unfold SendState.serverSendAll
    split
    · exact List.prefix_refl _
    split
    · exact List.prefix_append _ _
    exact serverSends_grow data rand result s.server.clients.iter s
  | clientSend data rand result =>
    show _ <+: (s.clientSend M O data rand result).errors
    unfold SendState.clientSend
    split
    · exact List.prefix_refl _
    split
    · exact List.prefix_append _ _
    · exact List.prefix_append _ _
    · split
      · exact List.prefix_append _ _
      · exact List.prefix_refl _

/-- **What becomes of the errors.**  In every process that runs a client, a serve loop or the send
    functions, and in which anybody uses the globals at any time between two of their steps: every report
    goes, in order and with its underlying error, to the function that is registered when it is made; or,
    if none is, to the two numbers, where it is read once, is overwritten by a later one, or waits.  And
    who reads after each part of a client's life, or of the serve loop, reads every error of it, in
    order. -/
theorem errors_reported (F A : Type) (onError : F) (arg : A) (M : Machine) (O : OpenSSL Ctx PKey) :
    (∀ (onRecv onDisconnected : Bool) (sock : Nat) (key : AESKey),
      let start := newSession onRecv onDisconnected sock key
      let step : Session → SessionInput Ctx PKey → Session := sessionStep M
      let errors : Session → List CDTPError := fun s => s.handle.errors
      (∀ xs : List (ProcessInput (SessionInput Ctx PKey) F A), ErrorsAccounted step errors start xs
        (Runs.run (reportingStep step errors) (launch start onError arg) xs)) ∧
      ∀ acts, (Runs.run (reportingStep step errors) (launch start onError arg)
          (readingAfter acts)).channel.codes.filter isError
        = (errors (Runs.run step start (acts.map Prod.fst))).map CDTPError.code) ∧
    (∀ (onRecv onConnect onDisconnect : Bool) (sizeBuffer : Bytes),
      let start := startServe onRecv onConnect onDisconnect sizeBuffer
      let step : ServeState → ServeInput Ctx PKey → ServeState := serveStep M
      (∀ xs : List (ProcessInput (ServeInput Ctx PKey) F A),
        ErrorsAccounted step ServeState.errors start xs
        (Runs.run (reportingStep step ServeState.errors) (launch start onError arg) xs)) ∧
      ∀ acts, (Runs.run (reportingStep step ServeState.errors) (launch start onError arg)
          (readingAfter acts)).channel.codes.filter isError
        = (Runs.run step start (acts.map Prod.fst)).errors.map CDTPError.code) ∧
    (∀ (server : CDTPServer) (client : CDTPClient) (xs : List (ProcessInput SendCall F A)),
      ErrorsAccounted (sendStep M O) SendState.errors (startSending server client) xs
        (Runs.run (reportingStep (sendStep M O) SendState.errors)
          (launch (startSending server client) onError arg) xs)) := by
  refine ⟨?_, ?_, ?_⟩
  · intro onRecv onDisconnected sock key start step errors
    have hone : ∀ s i, AtMostOne (errors s) (errors (step s i)) := sessionStep_atMostOne
    have hgrows := fun s i => (hone s i).prefix_of
    exact ⟨accounted_of_grows hgrows rfl onError arg,
      fun acts => codes_readingAfter hone acts _ rfl rfl rfl⟩
  · intro onRecv onConnect onDisconnect sizeBuffer start step
    have hone : ∀ s i, AtMostOne s.errors (step s i).errors := serveStep_atMostOne
    have hgrows := fun s i => (hone s i).prefix_of
    exact ⟨accounted_of_grows hgrows rfl onError arg,
      fun acts => codes_readingAfter hone acts _ rfl rfl rfl⟩
  · intro server client
    have hgrows : ∀ s i, SendState.errors s <+: SendState.errors (sendStep M O s i) := sendStep_grows
    exact accounted_of_grows hgrows rfl onError arg

end Machines

end Cdtp
