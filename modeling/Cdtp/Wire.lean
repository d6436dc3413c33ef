/-
  The wire format (`util.c`): a message on the wire is its size in `CDTP_LENSIZE = 5` big-endian bytes,
  followed by that many bytes of body.

  `_cdtp_encode_message_size` fills its five bytes from the last to the first, shifting the size down;
  `_cdtp_decode_message_size` reads them from the first to the last, shifting up.  Both loops are
  modelled as they run and identified with the digits of `BigEndian` (`encodeMessageSize_eq`,
  `decodeMessageSize_eq`), so a size below `2 ^ 40` survives the wire and a larger one is cut to its
  low 40 bits.
-/
import Cdtp.Lib.BigEndian
import Cdtp.Lib.CMem

namespace Cdtp

open CMem

/-- Length of the size portion of each message. -/
def CDTP_LENSIZE : Nat := 5

/-! ## The functions of `util.c` -/

/-- The loop of `_cdtp_encode_message_size`, with `i` bytes still to fill. -/
def encodeLoop : Nat → Nat → Bytes → Bytes
  | 0, _, encodedSize => encodedSize
  | i + 1, size, encodedSize =>
    encodeLoop i (size >>> 8) (encodedSize.set i (UInt8.ofNat (size % 256)))

/-- `_cdtp_encode_message_size`. -/
def encodeMessageSize (M : Machine) (size : Nat) : Bytes :=
  encodeLoop CDTP_LENSIZE size (malloc M CDTP_LENSIZE)

/-- `_cdtp_decode_message_size`: reads the first `CDTP_LENSIZE` bytes. -/
def decodeMessageSize (encodedSize : Bytes) : Nat :=
  (List.range CDTP_LENSIZE).foldl
    (fun size i => (size <<< 8) + (encodedSize.getD i 0).toNat) 0

/-- `for (i = 0; i < n; i++) dst[i + dstOff] = src[i + srcOff];` -/
def copyLoop (dst : Bytes) (dstOff : Nat) (src : Bytes) (srcOff n : Nat) : Bytes :=
  (List.range n).foldl (fun dst i => dst.set (i + dstOff) (src.getD (i + srcOff) 0)) dst

/-- `_cdtp_construct_message`. -/
def constructMessage (M : Machine) (data : Bytes) (dataSize : Nat) : Bytes :=
  let message := malloc M (CDTP_LENSIZE + dataSize)
  let size := encodeMessageSize M dataSize
  let message := copyLoop message 0 size 0 CDTP_LENSIZE
  copyLoop message CDTP_LENSIZE data 0 dataSize

/-- `_cdtp_deconstruct_message`: the data and its size. -/
def deconstructMessage (M : Machine) (message : Bytes) : Bytes × Nat :=
  let dataSize := decodeMessageSize message
  (copyLoop (malloc M dataSize) 0 message CDTP_LENSIZE dataSize, dataSize)

/-! ## What they compute -/

/-- A copy loop that stays in both blocks is one splice. -/
theorem copyLoop_eq_splice {dst src : Bytes} {dstOff srcOff : Nat} : ∀ {n : Nat},
    srcOff + n ≤ src.length → dstOff + n ≤ dst.length →
    copyLoop dst dstOff src srcOff n = splice dst dstOff ((src.drop srcOff).take n) := by
  intro n
  induction n with
  | zero =>
    intro _ _
    rw [copyLoop, splice]
    simp
  | succ n ih =>
    intro hsrc hdst
    have hprev := ih (by omega) (by omega)
    rw [copyLoop] at hprev ⊢
    have hlen : ((src.drop srcOff).take n).length = n := by
      rw [List.length_take, List.length_drop]
      omega
    rw [List.range_succ, List.foldl_append, hprev]
    apply List.ext_getElem?
    intro i
    simp only [List.foldl_cons, List.foldl_nil, splice, List.getD_eq_getElem?_getD]
    rw [List.getElem?_set]
    simp only [List.getElem?_append, List.length_append, List.length_take, List.length_drop,
      List.getElem?_take, List.getElem?_drop]
    grind

theorem encodeLoop_eq : ∀ (i size : Nat) (buf : Bytes), i ≤ buf.length →
    encodeLoop i size buf = BigEndian.toBytes i size ++ buf.drop i := by
  intro i
  induction i with
  | zero => intro size buf _; rfl
  | succ i ih =>
    intro size buf hi
    have hdrop : (buf.set i (UInt8.ofNat (size % 256))).drop i
        = UInt8.ofNat (size % 256) :: buf.drop (i + 1) := by
      rw [List.drop_eq_getElem_cons (by rw [List.length_set]; omega), List.getElem_set_self,
        List.drop_set_of_lt (by omega)]
    rw [encodeLoop, ih _ _ (by rw [List.length_set]; omega), hdrop, BigEndian.toBytes,
      List.append_assoc, Nat.shiftRight_eq_div_pow]
    rfl

/-- The encoder writes the size in base 256. -/
theorem encodeMessageSize_eq (M : Machine) (size : Nat) :
    encodeMessageSize M size = BigEndian.toBytes CDTP_LENSIZE size := by
  rw [encodeMessageSize, encodeLoop_eq _ _ _ (by rw [malloc_length]),
    List.drop_eq_nil_of_le (by rw [malloc_length]), List.append_nil]

/-- The decoder reads the first five bytes in base 256. -/
theorem decodeMessageSize_eq {encodedSize : Bytes} (h : CDTP_LENSIZE ≤ encodedSize.length) :
    decodeMessageSize encodedSize = BigEndian.ofBytes (encodedSize.take CDTP_LENSIZE) := by
  match encodedSize, h with
  | b₀ :: b₁ :: b₂ :: b₃ :: b₄ :: rest, _ =>
    show ((((0 <<< 8 + b₀.toNat) <<< 8 + b₁.toNat) <<< 8 + b₂.toNat) <<< 8 + b₃.toNat) <<< 8
        + b₄.toNat
      = ((((0 * 256 + b₀.toNat) * 256 + b₁.toNat) * 256 + b₂.toNat) * 256 + b₃.toNat) * 256
        + b₄.toNat
    simp only [Nat.shiftLeft_eq]

/-- Five bytes cannot announce more than 40 bits. -/
theorem decodeMessageSize_lt (encodedSize : Bytes) : decodeMessageSize encodedSize < 2 ^ 40 := by
  have hbyte : ∀ i, (encodedSize.getD i 0).toNat < 256 := fun i => UInt8.toNat_lt _
  have h0 := hbyte 0
  have h1 := hbyte 1
  have h2 := hbyte 2
  have h3 := hbyte 3
  have h4 := hbyte 4
  show ((((0 <<< 8 + (encodedSize.getD 0 0).toNat) <<< 8 + (encodedSize.getD 1 0).toNat) <<< 8
    + (encodedSize.getD 2 0).toNat) <<< 8 + (encodedSize.getD 3 0).toNat) <<< 8
    + (encodedSize.getD 4 0).toNat < 2 ^ 40
  simp only [Nat.shiftLeft_eq]
  omega

/-- **A frame** is the encoded size followed by the body; no uninitialised byte is left in it. -/
theorem constructMessage_eq (M : Machine) (data : Bytes) :
    constructMessage M data data.length
      = BigEndian.toBytes CDTP_LENSIZE data.length ++ data := by
  have hsize : (encodeMessageSize M data.length).length = CDTP_LENSIZE := by
    rw [encodeMessageSize_eq, BigEndian.toBytes_length]
  have hfront : copyLoop (malloc M (CDTP_LENSIZE + data.length)) 0
      (encodeMessageSize M data.length) 0 CDTP_LENSIZE
      = encodeMessageSize M data.length
        ++ (malloc M (CDTP_LENSIZE + data.length)).drop CDTP_LENSIZE := by
    rw [copyLoop_eq_splice (by omega) (by rw [malloc_length]; omega), List.drop_zero,
      List.take_of_length_le (by omega), splice_zero (by rw [malloc_length]; omega), hsize]
  have hrest : ((malloc M (CDTP_LENSIZE + data.length)).drop CDTP_LENSIZE).length = data.length := by
    rw [List.length_drop, malloc_length]
    omega
  have hbody := @splice_append (encodeMessageSize M data.length)
    ((malloc M (CDTP_LENSIZE + data.length)).drop CDTP_LENSIZE) data (by omega)
  have htail : ((malloc M (CDTP_LENSIZE + data.length)).drop CDTP_LENSIZE).drop data.length = [] :=
    List.drop_eq_nil_of_le (by omega)
  rw [htail, List.append_nil, hsize] at hbody
  rw [constructMessage, hfront, copyLoop_eq_splice (by omega)
    (by rw [List.length_append, hsize, hrest]), List.drop_zero, List.take_length, hbody,
    encodeMessageSize_eq]

@[simp] theorem constructMessage_length (M : Machine) (data : Bytes) :
    (constructMessage M data data.length).length = CDTP_LENSIZE + data.length := by
  rw [constructMessage_eq, List.length_append, BigEndian.toBytes_length]

theorem take_frame (M : Machine) (body rest : Bytes) :
    (constructMessage M body body.length ++ rest).take CDTP_LENSIZE
      = BigEndian.toBytes CDTP_LENSIZE body.length := by
  rw [constructMessage_eq, List.append_assoc]
  exact List.take_left' (BigEndian.toBytes_length _ _)

/-- A stream that starts with a frame announces its body. -/
theorem decodeMessageSize_message {M : Machine} {body : Bytes} (h : body.length < 2 ^ 40)
    (rest : Bytes) :
    decodeMessageSize (constructMessage M body body.length ++ rest) = body.length := by
  rw [decodeMessageSize_eq (by rw [List.length_append, constructMessage_length]; omega),
    take_frame, BigEndian.ofBytes_toBytes_of_lt h]

/-- So do its first five bytes alone. -/
theorem decodeMessageSize_frame {M : Machine} {body : Bytes} (h : body.length < 2 ^ 40)
    (rest : Bytes) :
    decodeMessageSize ((constructMessage M body body.length ++ rest).take CDTP_LENSIZE)
      = body.length := by
  have hlen := BigEndian.toBytes_length CDTP_LENSIZE body.length
  rw [take_frame, decodeMessageSize_eq (by omega), List.take_of_length_le (by omega),
    BigEndian.ofBytes_toBytes_of_lt h]

/-- Behind the first five bytes comes the body. -/
theorem drop_frame (M : Machine) (body rest : Bytes) :
    (constructMessage M body body.length ++ rest).drop CDTP_LENSIZE = body ++ rest := by
  rw [constructMessage_eq, List.append_assoc]
  exact List.drop_left' (BigEndian.toBytes_length _ _)

end Cdtp
