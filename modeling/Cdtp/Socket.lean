/-
  Sockets as the receive loops of server and client see them.

  One turn of a loop is a `read` of the 5-byte header and, if that finds anything, a second `read` of as
  many bytes as the header announces.  Both loops classify the outcomes alike; `receive` is that common
  part, and the loops differ in what they do about each case.

  On the other side of the socket is a byte stream and a scheduler: a `Grant` says how much of what is
  pending one read may take.  `streamTurn` runs the two reads of a turn against a stream.  If a stream of
  frames is read by turns that get all they ask for (`FullTurn`), each turn takes exactly one frame
  (`streamTurn_frame`), whatever the header buffer held before.
-/
import Cdtp.Wire

namespace Cdtp

open CMem

/-! ## One read -/

/-- The values of `errno` that the code tells apart. -/
inductive Errno where
  | EAGAIN
  | EWOULDBLOCK
  | EBADF
  | ENOTSOCK
  | ECONNRESET
  | other
  deriving DecidableEq, Repr

/-- `CDTP_EAGAIN_OR_WOULDBLOCK`. -/
def Errno.againOrWouldBlock : Errno → Bool
  | .EAGAIN => true
  | .EWOULDBLOCK => true
  | _ => false

/-- The outcome of one `read`: an error, or bytes, of which the caller gets as many as it asked for;
    no bytes is the end of the stream. -/
structure ReadResult where
  failed : Bool
  bytes : Bytes
  errno : Errno
  deriving DecidableEq, Repr

/-- The bytes that `read(fd, buf, n)` puts into the buffer. -/
def ReadResult.got (r : ReadResult) (n : Nat) : Bytes := if r.failed then [] else r.bytes.take n

/-- The value of `recv_code = read(fd, buf, n)`, narrowed to `int`. -/
def ReadResult.code (r : ReadResult) (n : Nat) : Int :=
  if r.failed then -1 else toInt (r.got n).length

/-- Bytes that have arrived. -/
def ReadResult.data (bytes : Bytes) : ReadResult :=
  { failed := false, bytes := bytes, errno := .other }

/-- A failed read. -/
def ReadResult.error (e : Errno) : ReadResult := { failed := true, bytes := [], errno := e }

theorem ReadResult.got_ok {r : ReadResult} (h : r.failed = false) (n : Nat) :
    r.got n = r.bytes.take n := by
  rw [ReadResult.got, h, if_neg Bool.false_ne_true]

theorem ReadResult.code_ok {r : ReadResult} (h : r.failed = false) (n : Nat) :
    r.code n = toInt (r.bytes.take n).length := by
  rw [ReadResult.code, h, if_neg Bool.false_ne_true, ReadResult.got_ok h]

theorem ReadResult.got_failed {r : ReadResult} (h : r.failed = true) (n : Nat) : r.got n = [] := by
  rw [ReadResult.got, h, if_pos rfl]

/-! ## One turn of a receive loop -/

/-- What a turn finds. -/
inductive Received where
  | headerEnd
  | headerError (e : Errno)
  | bodyError (e : Errno)
  | bodyEnd
  | short
  | frame (body : Bytes) (size : Nat)
  deriving DecidableEq, Repr

/-- The second read, of `msgSize` bytes. -/
def receiveBody (M : Machine) (msgSize : Nat) (body : ReadResult) : Received :=
  if body.code msgSize = -1 then .bodyError body.errno
  else if body.code msgSize = 0 then .bodyEnd
  else if ofInt (body.code msgSize) ≠ msgSize then .short
  else .frame (splice (malloc M msgSize) 0 (body.got msgSize)) msgSize

/-- Both reads.  `sizeBuffer` is the header buffer of the loop, which lives as long as the loop does: a
    header read that returns fewer than five bytes leaves the rest of it as it was. -/
def receive (M : Machine) (sizeBuffer : Bytes) (header body : ReadResult) : Received :=
  if header.code CDTP_LENSIZE = 0 then .headerEnd
  else if header.code CDTP_LENSIZE = -1 then .headerError header.errno
  else receiveBody M (decodeMessageSize (splice sizeBuffer 0 (header.got CDTP_LENSIZE))) body

/-! ## Streams -/

/-- What the transport grants one read: `none` is EAGAIN, `some k` at most `k` of the pending bytes. -/
abbrev Grant := Option Nat

/-- `read(fd, buf, n)` with `pending` bytes in the stream. -/
def Grant.read (g : Grant) (pending : Bytes) (n : Nat) : ReadResult :=
  -- a read of no bytes returns 0, even from an empty stream
  if n = 0 then .data []
  else
    match g with
    | none => .error .EAGAIN
    | some k => if pending = [] ∨ k = 0 then .error .EAGAIN else .data (pending.take k)

/-- The size that the header announces, after the first read of a turn. -/
def announced (sizeBuffer : Bytes) (header : ReadResult) : Nat :=
  decodeMessageSize (splice sizeBuffer 0 (header.got CDTP_LENSIZE))

/-- The reads of one turn, and the stream behind them. -/
structure StreamTurn where
  header : ReadResult
  body : ReadResult
  rest : Bytes

def streamTurn (sizeBuffer pending : Bytes) (h b : Grant) : StreamTurn :=
  let header := h.read pending CDTP_LENSIZE
  let behind := pending.drop (header.got CDTP_LENSIZE).length
  let body := b.read behind (announced sizeBuffer header)
  { header := header, body := body,
    -- the second read is made only if the first one found something
    rest := if header.failed then pending
            else behind.drop (body.got (announced sizeBuffer header)).length }

/-- Every read of the turn that is made gets all the bytes it asks for (which an `int` can count), or
    the first one gets nothing. -/
def FullTurn (sizeBuffer pending : Bytes) (h b : Grant) : Prop :=
  (streamTurn sizeBuffer pending h b).header.failed = true ∨
    (((streamTurn sizeBuffer pending h b).header.got CDTP_LENSIZE).length = CDTP_LENSIZE ∧
      ((streamTurn sizeBuffer pending h b).body.got
          (announced sizeBuffer (streamTurn sizeBuffer pending h b).header)).length
        = announced sizeBuffer (streamTurn sizeBuffer pending h b).header ∧
      announced sizeBuffer (streamTurn sizeBuffer pending h b).header < 2 ^ 31)

instance (sizeBuffer pending : Bytes) (h b : Grant) :
    Decidable (FullTurn sizeBuffer pending h b) := inferInstanceAs (Decidable (_ ∨ _))

/-- The byte stream of a list of frame bodies. -/
def frames (M : Machine) : List Bytes → Bytes
  | [] => []
  | body :: bodies => constructMessage M body body.length ++ frames M bodies

@[simp] theorem frames_nil (M : Machine) : frames M [] = [] := rfl

theorem frames_append (M : Machine) (xs ys : List Bytes) :
    frames M (xs ++ ys) = frames M xs ++ frames M ys := by
  induction xs with
  | nil => rfl
  | cons x xs ih => rw [List.cons_append, frames, frames, ih, List.append_assoc]

theorem frames_eq_nil_iff {M : Machine} {bodies : List Bytes} : frames M bodies = [] ↔ bodies = [] := by
  constructor
  · intro h
    cases bodies with
    | nil => rfl
    | cons body bodies =>
      have hlen := congrArg List.length h
      rw [frames, List.length_append, constructMessage_length] at hlen
      rw [List.length_nil] at hlen
      unfold CDTP_LENSIZE at hlen
      omega
  · rintro rfl
    rfl

theorem Grant.read_failed_or {g : Grant} {pending : Bytes} {n : Nat} (hn : n ≠ 0) :
    g.read pending n = .error .EAGAIN ∨
      ∃ k, g.read pending n = .data (pending.take k) ∧ pending ≠ [] := by
  unfold Grant.read
  rw [if_neg hn]
  rcases g with _ | k
  · exact .inl rfl
  · by_cases h : pending = [] ∨ k = 0
    · exact .inl (if_pos h)
    · exact .inr ⟨k, if_neg h, fun hp => h (.inl hp)⟩

/-- What a successful read got is the front of what is pending. -/
theorem Grant.read_got {g : Grant} {pending : Bytes} {n : Nat} :
    ∃ m, (g.read pending n).got n = pending.take m := by
  by_cases hn : n = 0
  · exact ⟨0, by rw [hn]; simp [Grant.read, ReadResult.got, ReadResult.data]⟩
  · rcases @Grant.read_failed_or g pending n hn with h | ⟨k, h, -⟩
    · exact ⟨0, by rw [h]; rfl⟩
    · refine ⟨min n k, ?_⟩
      rw [h, ReadResult.got_ok rfl]
      exact List.take_take

/-- A read that got as many bytes as it asked for got the first `n` pending ones. -/
theorem Grant.read_got_full {g : Grant} {pending : Bytes} {n : Nat}
    (h : ((g.read pending n).got n).length = n) :
    (g.read pending n).got n = pending.take n ∧ n ≤ pending.length := by
  obtain ⟨m, hm⟩ := @Grant.read_got g pending n
  rw [hm, List.length_take] at h
  refine ⟨?_, by omega⟩
  rw [hm, List.take_eq_take_iff]
  omega

/-- After a header read of five bytes, the header buffer holds just those. -/
theorem announced_full {sizeBuffer : Bytes} (hbuf : sizeBuffer.length = CDTP_LENSIZE)
    {header : ReadResult} (h : (header.got CDTP_LENSIZE).length = CDTP_LENSIZE) :
    announced sizeBuffer header = decodeMessageSize (header.got CDTP_LENSIZE) := by
  rw [announced, splice_all (by omega)]

/-- A header read of five bytes and a body read of all that they announce are a frame. -/
theorem receive_full {M : Machine} {sizeBuffer : Bytes} {header body : ReadResult}
    (hok : header.failed = false) (hfive : (header.got CDTP_LENSIZE).length = CDTP_LENSIZE)
    (hbody : (body.got (announced sizeBuffer header)).length = announced sizeBuffer header)
    (hpos : 0 < announced sizeBuffer header) (hint : announced sizeBuffer header < 2 ^ 31) :
    receive M sizeBuffer header body
      = .frame (body.got (announced sizeBuffer header)) (announced sizeBuffer header) := by
  have hcode : header.code CDTP_LENSIZE = 5 := by
    rw [ReadResult.got_ok hok] at hfive
    rw [ReadResult.code_ok hok, hfive]
    decide
  have hbodyOk : body.failed = false := by
    cases hf : body.failed with
    | false => rfl
    | true =>
      rw [ReadResult.got_failed hf, List.length_nil] at hbody
      omega
  have hbodyCode : body.code (announced sizeBuffer header) = announced sizeBuffer header := by
    rw [ReadResult.got_ok hbodyOk] at hbody
    rw [ReadResult.code_ok hbodyOk, hbody, toInt_of_lt hint]
  have hback : ofInt (announced sizeBuffer header : Int) = announced sizeBuffer header :=
    ofInt_natCast (by unfold SIZE_MOD; omega)
  rw [receive, hcode, if_neg (by decide), if_neg (by decide)]
  show receiveBody M (announced sizeBuffer header) body = _
  rw [receiveBody, hbodyCode, if_neg (by omega), if_neg (by omega), hback, if_neg (fun h => h rfl),
    splice_all (by rw [malloc_length, hbody])]

/-- A header read of five bytes announces the first frame of the stream. -/
theorem announced_frames {M : Machine} {sizeBuffer : Bytes} (hbuf : sizeBuffer.length = CDTP_LENSIZE)
    {body : Bytes} {bodies : List Bytes} (hlt : body.length < 2 ^ 40) {h : Grant}
    (hfive : ((h.read (frames M (body :: bodies)) CDTP_LENSIZE).got CDTP_LENSIZE).length
      = CDTP_LENSIZE) :
    announced sizeBuffer (h.read (frames M (body :: bodies)) CDTP_LENSIZE) = body.length := by
  rw [announced_full hbuf hfive, (Grant.read_got_full hfive).1, frames, decodeMessageSize_frame hlt]

/-- Every read of the turn that is made gets all the bytes it asks for, or the first one gets nothing. -/
def TurnInFull (sizeBuffer pending : Bytes) (h b : Grant) : Prop :=
  (streamTurn sizeBuffer pending h b).header.failed = true ∨
    (((streamTurn sizeBuffer pending h b).header.got CDTP_LENSIZE).length = CDTP_LENSIZE ∧
      ((streamTurn sizeBuffer pending h b).body.got
          (announced sizeBuffer (streamTurn sizeBuffer pending h b).header)).length
        = announced sizeBuffer (streamTurn sizeBuffer pending h b).header)

instance (sizeBuffer pending : Bytes) (h b : Grant) :
    Decidable (TurnInFull sizeBuffer pending h b) := inferInstanceAs (Decidable (_ ∨ _))

/-- On frames that an `int` can count, that is a full turn. -/
theorem TurnInFull.fullTurn {M : Machine} {sizeBuffer : Bytes}
    (hbuf : sizeBuffer.length = CDTP_LENSIZE) {bodies : List Bytes}
    (hsize : ∀ body ∈ bodies, body.length < 2 ^ 31) {h b : Grant}
    (hfull : TurnInFull sizeBuffer (frames M bodies) h b) :
    FullTurn sizeBuffer (frames M bodies) h b := by
  rcases hfull with hfailed | ⟨hfive, hall⟩
  · exact .inl hfailed
  · rcases bodies with _ | ⟨body, bodies⟩
    -- without frames there is nothing that a header read could get
    · rcases @Grant.read_failed_or h (frames M []) CDTP_LENSIZE (by decide) with hagain | ⟨k, -, hne⟩
      · refine .inl ?_
        show (h.read (frames M []) CDTP_LENSIZE).failed = true
        rw [hagain]
        rfl
      · exact absurd rfl hne
    · have hlt := hsize body List.mem_cons_self
      have hsizeIs : announced sizeBuffer
          (streamTurn sizeBuffer (frames M (body :: bodies)) h b).header = body.length :=
        announced_frames hbuf (Nat.lt_trans hlt (by decide)) hfive
      exact .inr ⟨hfive, hall, by rw [hsizeIs]; exact hlt⟩

/-- **One turn, one frame.**  A full turn on a stream of frames finds nothing and takes nothing, or it
    receives the first frame and leaves the others. -/
theorem streamTurn_frame {M M' : Machine} {sizeBuffer : Bytes}
    (hbuf : sizeBuffer.length = CDTP_LENSIZE) {bodies : List Bytes}
    (hsize : ∀ body ∈ bodies, 0 < body.length ∧ body.length < 2 ^ 40) {h b : Grant}
    (hfull : FullTurn sizeBuffer (frames M bodies) h b) :
    ((streamTurn sizeBuffer (frames M bodies) h b).header = .error .EAGAIN ∧
      (streamTurn sizeBuffer (frames M bodies) h b).rest = frames M bodies) ∨
    ∃ body bodies', bodies = body :: bodies' ∧
      (streamTurn sizeBuffer (frames M bodies) h b).header.failed = false ∧
      (streamTurn sizeBuffer (frames M bodies) h b).rest = frames M bodies' ∧
      receive M' sizeBuffer (streamTurn sizeBuffer (frames M bodies) h b).header
        (streamTurn sizeBuffer (frames M bodies) h b).body = .frame body body.length := by
  -- the fields of the turn refer to each other: name it, and unfold one field at a time
  unfold FullTurn at hfull
  generalize ht : streamTurn sizeBuffer (frames M bodies) h b = t at hfull ⊢
  have hheader : t.header = h.read (frames M bodies) CDTP_LENSIZE := by rw [← ht]; rfl
  rcases @Grant.read_failed_or h (frames M bodies) CDTP_LENSIZE (by decide) with hagain | ⟨k, hk, hne⟩
  · rw [hagain] at hheader
    refine .inl ⟨hheader, ?_⟩
    rw [← ht]
    show (if (h.read (frames M bodies) CDTP_LENSIZE).failed then _ else _) = _
    rw [hagain]
    exact if_pos rfl
  · have hok : t.header.failed = false := by rw [hheader, hk]; rfl
    rcases bodies with _ | ⟨body, bodies⟩
    · exact absurd rfl hne
    · obtain ⟨hpos, hlt⟩ := hsize body List.mem_cons_self
      have hframe : frames M (body :: bodies)
          = constructMessage M body body.length ++ frames M bodies := rfl
      rcases hfull with hfailed | ⟨hfive, hall, hint⟩
      · rw [hok] at hfailed
        exact absurd hfailed (by simp)
      · -- the five bytes of the header read are the header of the first frame
        have hsizeIs : announced sizeBuffer t.header = body.length := by
          rw [hheader] at hfive ⊢
          exact announced_frames hbuf hlt hfive
        have hbehind : (frames M (body :: bodies)).drop (t.header.got CDTP_LENSIZE).length
            = body ++ frames M bodies := by
          rw [hfive, hframe, drop_frame]
        have hbody : t.body = b.read (body ++ frames M bodies) body.length := by
          have hdef : t.body = b.read
              ((frames M (body :: bodies)).drop (t.header.got CDTP_LENSIZE).length)
              (announced sizeBuffer t.header) := by
            rw [← ht]
            rfl
          rw [hdef, hbehind, hsizeIs]
        have hbodyGot : t.body.got body.length = body := by
          rw [hsizeIs, hbody] at hall
          rw [hbody, (Grant.read_got_full hall).1, List.take_left]
        refine .inr ⟨body, bodies, rfl, hok, ?_, ?_⟩
        · have hdef : t.rest = if t.header.failed then frames M (body :: bodies)
              else ((frames M (body :: bodies)).drop (t.header.got CDTP_LENSIZE).length).drop
                (t.body.got (announced sizeBuffer t.header)).length := by
            rw [← ht]
            rfl
          rw [hdef, hok, if_neg Bool.false_ne_true, hbehind, hsizeIs, hbodyGot, List.drop_left]
        · have hrec := @receive_full M' sizeBuffer t.header t.body hok hfive hall
            (by rw [hsizeIs]; exact hpos) hint
          rw [hsizeIs, hbodyGot] at hrec
          exact hrec

end Cdtp
