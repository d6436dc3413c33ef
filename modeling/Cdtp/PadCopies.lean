/-
  The copies that an encryption makes, and the one among them that leaves its blocks.

  Both branches of `_cdtp_crypto_pad_data` allocate room for the data and its prefix, and then copy that
  many bytes — not the data's own number — from the data to BEHIND the prefix.  The copy reads one or two
  bytes past the end of its source, and writes as many past the end of the room: for every plaintext, on
  both branches.  `_cdtp_crypto_unpad_data` counts the bytes that are left, and has it right.

  `CopiesInside` runs a function on the checking machine, which stops at the first access outside a
  block.  From the padded data on, the assembly of the output included, both encryptions are inside
  (`encryptPadded_copiesInside`); so the pad copy is the only one to blame.
-/
import Cdtp.PadPrefix

namespace Cdtp

open CMem

variable {Ctx PKey : Type}

/-- Every copy of the run reads and writes inside its blocks, whatever fresh memory holds. -/
def CopiesInside {α : Type} (run : Machine → Run α) : Prop :=
  ∀ garbage : Nat → UInt8,
    run { checked := true, garbage := garbage } ≠ .error .readOutside ∧
      run { checked := true, garbage := garbage } ≠ .error .writeOutside

/-- A run with no other fault than a sum that wraps copies inside its blocks. -/
theorem copiesInside_of_wraps {α : Type} {run : Machine → Run α}
    (h : ∀ M e, run M = .error e → e = .wraps) : CopiesInside run := by
  intro garbage
  constructor
  · intro hout
    exact absurd (h _ _ hout) (by decide)
  · intro hout
    exact absurd (h _ _ hout) (by decide)

theorem copiesInside_of_ok {α : Type} {run : Machine → Run α} {a : α} (h : ∀ M, run M = .ok a) :
    CopiesInside run := by
  refine copiesInside_of_wraps fun M e herr => ?_
  rw [h M] at herr
  exact absurd herr (by simp)

/-- A run that a checking machine always stops at a read outside a block. -/
theorem not_copiesInside {α : Type} {run : Machine → Run α}
    (h : ∀ M : Machine, M.checked = true → run M = .error .readOutside) : ¬ CopiesInside run := by
  intro hinside
  exact (hinside fun _ => 0).1 (h { checked := true, garbage := fun _ => 0 } rfl)

/-! ## The padding -/

/-- `_cdtp_crypto_data` copies inside its blocks. -/
theorem cryptoData_copiesInside (p : Bytes) :
    CopiesInside fun M => cryptoData M p p.length :=
  copiesInside_of_ok fun _ => cryptoData_eq

/-- **The pad copy**, behind a prefix of `k` bytes, reads past its source and writes past its room. -/
theorem padCopy_outside {M : Machine} (hM : M.checked = true) {room d : Bytes} {k : Nat}
    (hk : 0 < k) (hroom : room.length = d.length + k) :
    memcpy M room k d 0 (d.length + k) = .error .readOutside ∧
      ¬ 0 + (d.length + k) ≤ d.length ∧ ¬ k + (d.length + k) ≤ room.length := by
  have hread : ¬ 0 + (d.length + k) ≤ d.length := by omega
  refine ⟨?_, hread, by omega⟩
  rw [memcpy, if_pos ⟨hM, hread⟩]

/-- Either branch, behind its prefix: the room is large enough for the prefix, and the copy leaves it. -/
theorem padBranch_outside {M : Machine} (hM : M.checked = true) (d : Bytes) {front : Bytes}
    (hfront : 0 < front.length) (k : Bytes → Run CryptoData) :
    (store M (malloc M (d.length + front.length)) 0 front >>= fun paddedData =>
      memcpy M paddedData front.length d 0 (d.length + front.length) >>= k)
      = .error .readOutside := by
  have hprefix : 0 + front.length ≤ (malloc M (d.length + front.length)).length := by
    rw [malloc_length]
    omega
  have hroom : (splice (malloc M (d.length + front.length)) 0 front).length
      = d.length + front.length := by
    rw [splice_length, malloc_length]
  rw [store_ok hprefix, ok_bind, (padCopy_outside hM hfront hroom).1, error_bind]

/-- **`_cdtp_crypto_pad_data`** stops a checking machine, for every data. -/
theorem cryptoPadData_outside {M : Machine} (hM : M.checked = true) (d : Bytes) :
    cryptoPadData M { data := d, dataSize := d.length } = .error .readOutside := by
  rw [cryptoPadData]
  show (if (d.length + 1) % 16 = 0 then _ else _) = _
  by_cases hlong : (d.length + 1) % 16 = 0
  · rw [if_pos hlong]
    exact @padBranch_outside M hM d [1, 255] (by decide) _
  · rw [if_neg hlong]
    exact @padBranch_outside M hM d [0] (by decide) _

/-! ## The encryptions -/

/-- **From the padded data on**, both encryptions copy inside their blocks. -/
theorem encryptPadded_copiesInside {O : OpenSSL Ctx PKey} (hO : O.CBCWrites) (d : Bytes)
    (hint : (padded d).length + 15 < 2 ^ 31) :
    (∀ r key, CopiesInside fun M => aesEncryptPadded M O r key
        { data := padded d, dataSize := (padded d).length }) ∧
      ∀ rand publicKey, CopiesInside fun M => rsaEncryptPadded M O rand publicKey
        { data := padded d, dataSize := (padded d).length } :=
  ⟨fun r key => copiesInside_of_wraps fun _ _ => aesEncryptPadded_inside hO r key d hint,
    fun rand publicKey =>
      copiesInside_of_wraps fun _ _ => rsaEncryptPadded_inside hO rand publicKey d hint⟩

/-- **The copies of an encryption** stay inside their blocks only where none is made: in AES encryption
    when `RAND_bytes` fails, and never in RSA encryption. -/
theorem encrypt_copiesInside_iff (O : OpenSSL Ctx PKey) (p : Bytes) :
    (∀ rand key, (CopiesInside fun M => cryptoAesEncrypt M O rand key p p.length) ↔ rand = none) ∧
      ∀ rand publicKey,
        ¬ CopiesInside fun M => cryptoRsaEncrypt M O rand publicKey p p.length := by
  constructor
  · intro rand key
    constructor
    · intro hinside
      rcases rand with _ | r
      · rfl
      · refine absurd hinside (not_copiesInside fun M hM => ?_)
        rw [cryptoAesEncrypt, cryptoData_eq, ok_bind, cryptoPadData_outside hM]
        rfl
    · rintro rfl
      exact copiesInside_of_ok fun M => rfl
  · intro rand publicKey
    refine not_copiesInside fun M hM => ?_
    rw [cryptoRsaEncrypt, cryptoData_eq, ok_bind, cryptoPadData_outside hM]
    rfl

/-- Three bytes take the short prefix, fifteen the long one. -/
theorem encrypt_copies_outside :
    (¬ CopiesInside fun M => cryptoAesEncrypt M plainOpenSSL (some fun _ => 7)
        { key := List.replicate 32 1, keySize := 32 } [1, 2, 3] 3) ∧
      ¬ CopiesInside fun M => cryptoRsaEncrypt M plainOpenSSL (fun _ => 7)
        { key := pubPem, keySize := 3 } (List.replicate 15 2) 15 := by
  constructor
  · intro hinside
    exact (hinside fun _ => 170).1 rfl
  · intro hinside
    exact (hinside fun _ => 170).1 rfl

end Cdtp
