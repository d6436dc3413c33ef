/-
  The wire format as a code: sizes as five bytes, and lists of payloads as one byte stream.

  `_cdtp_encode_message_size` and `_cdtp_decode_message_size` are inverse between the sizes below
  `2 ^ 40` and the strings of five bytes, and keep the order.  A stream of frames is taken apart by
  REPEATED DECODING (`splitStream`): deconstruct the message at the front, drop its five bytes and its
  body, go on.  What that accepts is exactly the streams `frames M payloads`, and it gives back exactly
  these payloads (`splitStream_eq_some_iff`); unique decodability is a corollary.
-/
import Cdtp.Socket

namespace Cdtp

open CMem

/-! ## Sizes -/

section Sizes

variable {M : Machine}

/-- Any size survives up to its low 40 bits. -/
theorem decode_encode (M : Machine) (size : Nat) :
    decodeMessageSize (encodeMessageSize M size) = size % 2 ^ 40 := by
  have hlen : (BigEndian.toBytes CDTP_LENSIZE size).length = CDTP_LENSIZE :=
    BigEndian.toBytes_length _ _
  rw [encodeMessageSize_eq, decodeMessageSize_eq (by omega), List.take_of_length_le (by omega),
    BigEndian.ofBytes_toBytes]
  rfl

theorem encode_decode (M : Machine) {b : Bytes} (hb : b.length = CDTP_LENSIZE) :
    encodeMessageSize M (decodeMessageSize b) = b := by
  rw [encodeMessageSize_eq, decodeMessageSize_eq (by omega), List.take_of_length_le (by omega), ← hb,
    BigEndian.toBytes_ofBytes]

theorem encode_lt_iff (M : Machine) {s t : Nat} (hs : s < 2 ^ 40) (ht : t < 2 ^ 40) :
    encodeMessageSize M s < encodeMessageSize M t ↔ s < t := by
  rw [encodeMessageSize_eq, encodeMessageSize_eq]
  exact BigEndian.toBytes_lt_iff hs ht

end Sizes

/-! ## One frame -/

/-- A message whose bytes are all there is taken apart into its size and what follows the header. -/
theorem deconstructMessage_eq (M : Machine) {message : Bytes}
    (h : CDTP_LENSIZE + decodeMessageSize message ≤ message.length) :
    deconstructMessage M message
      = ((message.drop CDTP_LENSIZE).take (decodeMessageSize message), decodeMessageSize message) := by
  have hlen : ((message.drop CDTP_LENSIZE).take (decodeMessageSize message)).length
      = decodeMessageSize message := by
    rw [List.length_take, List.length_drop]
    omega
  rw [deconstructMessage, copyLoop_eq_splice h (by rw [malloc_length]; omega),
    splice_all (by rw [hlen, malloc_length])]

/-- **One frame.**  Deconstructing a stream that starts with a frame gives its payload and its size. -/
theorem deconstruct_construct (M : Machine) {p : Bytes} (hp : p.length < 2 ^ 40) (r : Bytes) :
    deconstructMessage M (constructMessage M p p.length ++ r) = (p, p.length) := by
  have hsize := decodeMessageSize_message hp r (M := M)
  rw [deconstructMessage_eq M (by rw [hsize, List.length_append, constructMessage_length]; omega),
    hsize, drop_frame, List.take_left]

/-- A message whose bytes are all there starts with the frame of what it is taken apart into. -/
theorem construct_deconstruct (M : Machine) {message : Bytes}
    (h : CDTP_LENSIZE + decodeMessageSize message ≤ message.length) :
    constructMessage M (deconstructMessage M message).1 (deconstructMessage M message).1.length
      ++ message.drop (CDTP_LENSIZE + decodeMessageSize message) = message := by
  have hlen : ((message.drop CDTP_LENSIZE).take (decodeMessageSize message)).length
      = decodeMessageSize message := by
    rw [List.length_take, List.length_drop]
    omega
  have hheader : (message.take CDTP_LENSIZE).length = CDTP_LENSIZE := by
    rw [List.length_take]
    omega
  have hdigits := BigEndian.toBytes_ofBytes (message.take CDTP_LENSIZE)
  rw [hheader, ← decodeMessageSize_eq (by omega)] at hdigits
  rw [deconstructMessage_eq M h, constructMessage_eq, hlen, hdigits, List.append_assoc,
    ← List.drop_drop, List.take_append_drop, List.take_append_drop]

/-! ## Streams -/

/-- Repeated decoding, with `fuel` bounding the number of frames: the payloads of the stream, or `none`
    if it does not end with the end of a frame. -/
def splitFrames (M : Machine) : Nat → Bytes → Option (List Bytes)
  | 0, _ => none
  | fuel + 1, stream =>
    if stream = [] then some []
    else if stream.length < CDTP_LENSIZE + decodeMessageSize stream then none
    else
      (splitFrames M fuel (stream.drop (CDTP_LENSIZE + (deconstructMessage M stream).2))).map
        ((deconstructMessage M stream).1 :: ·)

/-- Repeated decoding of a whole stream: every frame takes at least one byte. -/
def splitStream (M : Machine) (stream : Bytes) : Option (List Bytes) :=
  splitFrames M (stream.length + 1) stream

section Streams

variable {M : Machine}

/-- The frames of a list of payloads are split back into the list. -/
theorem splitFrames_frames (M : Machine) : ∀ (payloads : List Bytes) (fuel : Nat),
    (∀ p ∈ payloads, p.length < 2 ^ 40) → (frames M payloads).length < fuel →
    splitFrames M fuel (frames M payloads) = some payloads := by
  intro payloads
  induction payloads with
  | nil =>
    intro fuel _ hfuel
    obtain ⟨fuel, rfl⟩ := Nat.exists_eq_succ_of_ne_zero (Nat.ne_of_gt (Nat.zero_lt_of_lt hfuel))
    rw [splitFrames, frames_nil, if_pos rfl]
  | cons p payloads ih =>
    intro fuel hlt hfuel
    obtain ⟨fuel, rfl⟩ := Nat.exists_eq_succ_of_ne_zero (Nat.ne_of_gt (Nat.zero_lt_of_lt hfuel))
    have hp := hlt p List.mem_cons_self
    have hne : frames M (p :: payloads) ≠ [] := fun h => absurd (frames_eq_nil_iff.mp h) (by simp)
    have hpair := deconstruct_construct M hp (frames M payloads)
    have hsize := decodeMessageSize_message hp (frames M payloads) (M := M)
    have hdrop : (constructMessage M p p.length ++ frames M payloads).drop (CDTP_LENSIZE + p.length)
        = frames M payloads :=
      List.drop_left' (constructMessage_length M p)
    have hlen : (constructMessage M p p.length ++ frames M payloads).length
        = CDTP_LENSIZE + p.length + (frames M payloads).length := by
      rw [List.length_append, constructMessage_length]
    rw [frames] at hfuel
    rw [splitFrames, if_neg hne, frames, hsize, if_neg (by omega), hpair]
    dsimp only
    rw [hdrop, ih fuel (fun q hq => hlt q (List.mem_cons_of_mem p hq)) ?_]
    · rfl
    · have hpos : 0 < CDTP_LENSIZE := by decide
      omega

/-- A stream that is split was the frames of its parts, each of them one a header can announce. -/
theorem frames_of_splitFrames : ∀ {fuel : Nat} {stream : Bytes} {payloads : List Bytes},
    splitFrames M fuel stream = some payloads →
    stream = frames M payloads ∧ ∀ p ∈ payloads, p.length < 2 ^ 40 := by
  intro fuel
  induction fuel with
  | zero => intro stream payloads h; exact absurd h (by simp [splitFrames])
  | succ fuel ih =>
    intro stream payloads h
    rw [splitFrames] at h
    by_cases hempty : stream = []
    · rw [if_pos hempty, Option.some.injEq] at h
      subst h hempty
      exact ⟨rfl, fun p hp => absurd hp List.not_mem_nil⟩
    · rw [if_neg hempty] at h
      by_cases hshort : stream.length < CDTP_LENSIZE + decodeMessageSize stream
      · rw [if_pos hshort] at h
        exact absurd h (by simp)
      · rw [if_neg hshort, Option.map_eq_some_iff] at h
        obtain ⟨rest, hrest, rfl⟩ := h
        obtain ⟨hstream, hlt⟩ := ih hrest
        have hfront := construct_deconstruct M (Nat.le_of_not_lt hshort)
        have hparts := deconstructMessage_eq M (Nat.le_of_not_lt hshort)
        refine ⟨?_, ?_⟩
        · rw [frames, ← hstream]
          exact hfront.symm
        · intro p hp
          rcases List.mem_cons.mp hp with rfl | hp
          · have hle : (deconstructMessage M stream).1.length ≤ decodeMessageSize stream := by
              rw [hparts]
              exact List.length_take_le _ _
            exact Nat.lt_of_le_of_lt hle (decodeMessageSize_lt stream)
          · exact hlt p hp

/-- **Repeated decoding** accepts exactly the streams of frames, and gives back their payloads. -/
theorem splitStream_eq_some_iff {stream : Bytes} {payloads : List Bytes} :
    splitStream M stream = some payloads ↔
      stream = frames M payloads ∧ ∀ p ∈ payloads, p.length < 2 ^ 40 := by
  constructor
  · intro h
    exact frames_of_splitFrames h
  · rintro ⟨rfl, hlt⟩
    exact splitFrames_frames M payloads _ hlt (Nat.lt_succ_self _)

/-- **Unique decodability.** -/
theorem frames_inj {ps qs : List Bytes} (hp : ∀ p ∈ ps, p.length < 2 ^ 40)
    (hq : ∀ q ∈ qs, q.length < 2 ^ 40) (h : frames M ps = frames M qs) : ps = qs := by
  have hps : splitStream M (frames M ps) = some ps := splitStream_eq_some_iff.mpr ⟨rfl, hp⟩
  have hqs : splitStream M (frames M ps) = some qs := splitStream_eq_some_iff.mpr ⟨h, hq⟩
  rw [hps] at hqs
  exact Option.some.inj hqs

/-- **The wire format is a bijection and uniquely decodable**, for sizes, frames and streams. -/
theorem wireFormat_bijective (M : Machine) :
    (∀ size < 2 ^ 40, decodeMessageSize (encodeMessageSize M size) = size) ∧
    (∀ b : Bytes, b.length = CDTP_LENSIZE → encodeMessageSize M (decodeMessageSize b) = b) ∧
    (∀ s < 2 ^ 40, ∀ t < 2 ^ 40, encodeMessageSize M s < encodeMessageSize M t ↔ s < t) ∧
    (∀ size, decodeMessageSize (encodeMessageSize M size) = size % 2 ^ 40) ∧
    (∀ p r : Bytes, p.length < 2 ^ 40 →
      deconstructMessage M (constructMessage M p p.length ++ r) = (p, p.length)) ∧
    (∀ (stream : Bytes) (payloads : List Bytes), splitStream M stream = some payloads ↔
      stream = frames M payloads ∧ ∀ p ∈ payloads, p.length < 2 ^ 40) ∧
    (∀ ps qs : List Bytes, (∀ p ∈ ps, p.length < 2 ^ 40) → (∀ q ∈ qs, q.length < 2 ^ 40) →
      frames M ps = frames M qs → ps = qs) := by
  refine ⟨?_, fun b hb => encode_decode M hb, fun s hs t ht => encode_lt_iff M hs ht,
    decode_encode M, fun p r hp => deconstruct_construct M hp r,
    fun stream payloads => splitStream_eq_some_iff, fun ps qs hp hq h => frames_inj hp hq h⟩
  intro size hsize
  rw [decode_encode, Nat.mod_eq_of_lt hsize]

end Streams

end Cdtp
