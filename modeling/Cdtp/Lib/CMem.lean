/-
  C memory blocks and the two integer types that C code measures them with.

  A block is the list of its bytes; its length is the size it was allocated with.  `splice` is what a
  copy does to a block, and `memcpy` adds the question of bounds, which a `Machine` answers in one of
  two ways:

  * `checked := true` is the program under a sanitizer: the first access outside a block, and the
    first size computation that wraps, stops it with a `Fault`.  "No fault" is memory safety.
  * `checked := false` is the plain machine.  A copy whose count exceeds the destination affects the
    bytes outside it, which nothing reads; what it fetches from outside the source is garbage.

  Fresh memory holds whatever `garbage` says, so a result that does not mention it does not depend on
  uninitialised bytes.  Sizes are 64-bit and unsigned (`Nat` with an explicit modulus where they are
  subtracted), `int` is 32-bit two's complement (`Int`, `toInt`/`ofInt` for the conversions).
-/
import Mathlib.Data.List.Basic
import Mathlib.Tactic.Ring

namespace CMem

abbrev Bytes := List UInt8

/-- Why a program stops. -/
inductive Fault where
  | readOutside
  | writeOutside
  | wraps
  | nullDeref
  deriving DecidableEq, Repr

/-- What the machine decides: whether it checks, and what fresh memory holds. -/
structure Machine where
  checked : Bool
  garbage : Nat → UInt8

/-- A computation either faults or returns; sequencing is the `Except` monad. -/
abbrev Run (α : Type) := Except Fault α

@[simp] theorem ok_bind {α β : Type} (a : α) (f : α → Run β) : (Except.ok a >>= f) = f a := rfl
@[simp] theorem error_bind {α β : Type} (e : Fault) (f : α → Run β) :
    ((Except.error e : Run α) >>= f) = Except.error e := rfl
@[simp] theorem pure_eq_ok {α : Type} (a : α) : (pure a : Run α) = Except.ok a := rfl

/-- A sequence returns iff both parts do. -/
theorem bind_eq_ok_iff {α β : Type} {x : Run α} {f : α → Run β} {b : β} :
    (x >>= f) = .ok b ↔ ∃ a, x = .ok a ∧ f a = .ok b := by
  cases x with
  | error e => exact ⟨fun h => absurd h (by simp), fun ⟨a, ha, _⟩ => absurd ha (by simp)⟩
  | ok a => exact ⟨fun h => ⟨a, rfl, h⟩, fun ⟨a', ha, hb⟩ => Except.ok.inj ha ▸ hb⟩

/-- `*p` stops every machine when `p` is NULL. -/
def deref {α : Type} : Option α → Run α
  | some a => .ok a
  | none => .error .nullDeref

@[simp] theorem deref_some {α : Type} (a : α) : deref (some a) = .ok a := rfl
@[simp] theorem deref_none {α : Type} : deref (none : Option α) = .error .nullDeref := rfl

/-! ## Sizes and ints -/

/-- The number of values of a `size_t`. -/
def SIZE_MOD : Nat := 2 ^ 64

/-- The `int` that a `size_t` converts to. -/
def toInt (n : Nat) : Int := Int.bmod n (2 ^ 32)

/-- The `size_t` that an `int` converts to. -/
def ofInt (i : Int) : Nat := (i % (SIZE_MOD : Int)).toNat

theorem toInt_of_lt {n : Nat} (h : n < 2 ^ 31) : toInt n = n := by
  unfold toInt
  exact Int.bmod_eq_of_le (by omega) (by omega)

theorem ofInt_natCast {n : Nat} (h : n < SIZE_MOD) : ofInt n = n := by
  unfold ofInt
  rw [Int.emod_eq_of_lt (by omega) (by omega), Int.toNat_natCast]

/-- A size that an `int` cannot hold does not survive the two conversions. -/
theorem ofInt_toInt_ne {n : Nat} (h : 2 ^ 31 ≤ n) (hn : n < 2 ^ 40) : ofInt (toInt n) ≠ n := by
  have hlt : toInt n < 2 ^ 31 := @Int.bmod_lt (n : Int) (2 ^ 32) (by decide)
  have hle : -2 ^ 31 ≤ toInt n := @Int.le_bmod (n : Int) (2 ^ 32) (by decide)
  have hmod : (SIZE_MOD : Int) = 18446744073709551616 := rfl
  rw [ofInt, hmod]
  omega

/-- `(int) n`; a checking machine stops if the value does not fit. -/
def castInt (M : Machine) (n : Nat) : Run Int :=
  if M.checked = true ∧ ¬ n < 2 ^ 31 then .error .wraps else .ok (toInt n)

/-- `a - b` on `size_t`; a checking machine stops if it goes below zero. -/
def subSize (M : Machine) (a b : Nat) : Run Nat :=
  if M.checked = true ∧ ¬ b ≤ a then .error .wraps
  else .ok ((a + (SIZE_MOD - b % SIZE_MOD)) % SIZE_MOD)

/-- `a + b` on `int`; a checking machine stops if it overflows. -/
def addInt (M : Machine) (a b : Int) : Run Int :=
  if M.checked = true ∧ ¬ (-2 ^ 31 ≤ a + b ∧ a + b < 2 ^ 31) then .error .wraps
  else .ok (Int.bmod (a + b) (2 ^ 32))

section Sizes

variable {M : Machine}

theorem castInt_ok {n : Nat} (h : n < 2 ^ 31) : castInt M n = .ok (n : Int) := by
  rw [castInt, if_neg (fun hc => hc.2 h), toInt_of_lt h]

theorem subSize_ok {a b : Nat} (h : b ≤ a) (ha : a < SIZE_MOD) : subSize M a b = .ok (a - b) := by
  rw [subSize, if_neg (fun hc => hc.2 h), Nat.mod_eq_of_lt (by omega : b < SIZE_MOD)]
  have hsum : a + (SIZE_MOD - b) = a - b + SIZE_MOD := by omega
  rw [hsum, Nat.add_mod_right, Nat.mod_eq_of_lt (by omega)]

theorem addInt_ok {a b : Nat} (h : a + b < 2 ^ 31) : addInt M a b = .ok ((a + b : Nat) : Int) := by
  rw [addInt, if_neg (fun hc => hc.2 (by omega)), Int.bmod_eq_of_le (by omega) (by omega)]
  rfl

theorem castInt_checked (hM : M.checked = true) {n : Nat} {i : Int} :
    castInt M n = .ok i ↔ n < 2 ^ 31 ∧ i = n := by
  by_cases h : n < 2 ^ 31
  · rw [castInt_ok h, Except.ok.injEq]
    exact ⟨fun hi => ⟨h, hi.symm⟩, fun hi => hi.2.symm⟩
  · rw [castInt, if_pos ⟨hM, h⟩]
    exact ⟨fun hc => absurd hc (by simp), fun hc => absurd hc.1 h⟩

theorem subSize_checked (hM : M.checked = true) {a b n : Nat} (ha : a < SIZE_MOD) :
    subSize M a b = .ok n ↔ b ≤ a ∧ n = a - b := by
  by_cases h : b ≤ a
  · rw [subSize_ok h ha, Except.ok.injEq]
    exact ⟨fun hi => ⟨h, hi.symm⟩, fun hi => hi.2.symm⟩
  · rw [subSize, if_pos ⟨hM, h⟩]
    exact ⟨fun hc => absurd hc (by simp), fun hc => absurd hc.1 h⟩

theorem addInt_checked (hM : M.checked = true) {a b : Nat} {i : Int} :
    addInt M a b = .ok i ↔ a + b < 2 ^ 31 ∧ i = ((a + b : Nat) : Int) := by
  by_cases h : a + b < 2 ^ 31
  · rw [addInt_ok h, Except.ok.injEq]
    exact ⟨fun hi => ⟨h, hi.symm⟩, fun hi => hi.2.symm⟩
  · rw [addInt, if_pos ⟨hM, by omega⟩]
    exact ⟨fun hc => absurd hc (by simp), fun hc => absurd hc.1 h⟩

end Sizes

/-! ## Blocks -/

/-- A fresh block of `n` bytes.  Allocation succeeds. -/
def malloc (M : Machine) (n : Nat) : Bytes := (List.range n).map M.garbage

/-- `realloc` to `n` bytes: the old contents as far as they go. -/
def realloc (M : Machine) (block : Bytes) (n : Nat) : Bytes :=
  block.take n ++ (malloc M n).drop block.length

/-- `block` with `chunk` written at offset `off`, as far as the block goes. -/
def splice (block : Bytes) (off : Nat) (chunk : Bytes) : Bytes :=
  block.take off ++ chunk.take (block.length - off) ++ block.drop (off + chunk.length)

/-- The `count` bytes from `off` on; garbage from where `src` ends. -/
def peek (M : Machine) (src : Bytes) (off count : Nat) : Bytes :=
  (src.drop off).take count ++ malloc M (count - (src.length - off))

/-- Write `chunk` into `dst` at `off`. -/
def store (M : Machine) (dst : Bytes) (off : Nat) (chunk : Bytes) : Run Bytes :=
  if M.checked = true ∧ ¬ off + chunk.length ≤ dst.length then .error .writeOutside
  else .ok (splice dst off chunk)

/-- `memcpy(dst + dstOff, src + srcOff, count)`. -/
def memcpy (M : Machine) (dst : Bytes) (dstOff : Nat) (src : Bytes) (srcOff count : Nat) :
    Run Bytes :=
  if M.checked = true ∧ ¬ srcOff + count ≤ src.length then .error .readOutside
  else if M.checked = true ∧ ¬ dstOff + count ≤ dst.length then .error .writeOutside
  else .ok (splice dst dstOff (peek M src srcOff count))

/-- `block[i]`. -/
def readByte (M : Machine) (block : Bytes) (i : Nat) : Run UInt8 :=
  match block[i]? with
  | some b => .ok b
  | none => if M.checked = true then .error .readOutside else .ok (M.garbage i)

section Blocks

variable {M : Machine}

@[simp] theorem malloc_length (n : Nat) : (malloc M n).length = n := by simp [malloc]

@[simp] theorem realloc_length (block : Bytes) (n : Nat) : (realloc M block n).length = n := by
  rw [realloc, List.length_append, List.length_take, List.length_drop, malloc_length]
  omega

/-- Shrinking keeps the front. -/
theorem realloc_of_le {block : Bytes} {n : Nat} (h : n ≤ block.length) :
    realloc M block n = block.take n := by
  rw [realloc, List.drop_eq_nil_of_le (by rw [malloc_length]; exact h), List.append_nil]

@[simp] theorem peek_length (src : Bytes) (off count : Nat) : (peek M src off count).length = count := by
  rw [peek, List.length_append, List.length_take, List.length_drop, malloc_length]
  omega

/-- Inside the block, `peek` is a slice. -/
theorem peek_of_le {src : Bytes} {off count : Nat} (h : off + count ≤ src.length) :
    peek M src off count = (src.drop off).take count := by
  have hrest : count - (src.length - off) = 0 := by omega
  rw [peek, hrest]
  exact List.append_nil _

@[simp] theorem peek_all (src : Bytes) : peek M src 0 src.length = src := by
  rw [peek_of_le (by omega), List.drop_zero, List.take_length]

/-- A write that fits, behind a known front. -/
theorem splice_append {front rest chunk : Bytes} (h : chunk.length ≤ rest.length) :
    splice (front ++ rest) front.length chunk = front ++ chunk ++ rest.drop chunk.length := by
  rw [splice, List.take_left, List.length_append, Nat.add_sub_cancel_left, List.take_of_length_le h,
    List.drop_append, List.drop_eq_nil_of_le (by omega), List.nil_append]
  congr 2
  omega

/-- A write at the start of a block. -/
theorem splice_zero {block chunk : Bytes} (h : chunk.length ≤ block.length) :
    splice block 0 chunk = chunk ++ block.drop chunk.length :=
  @splice_append [] block chunk h

/-- A write of the whole block. -/
theorem splice_all {block chunk : Bytes} (h : chunk.length = block.length) :
    splice block 0 chunk = chunk := by
  rw [splice_zero (by omega), h, List.drop_length, List.append_nil]

@[simp] theorem splice_length (block chunk : Bytes) (off : Nat) :
    (splice block off chunk).length = block.length := by
  rw [splice, List.length_append, List.length_append, List.length_take, List.length_take,
    List.length_drop]
  omega

/-- Byte by byte: inside the written range a splice is the chunk, outside it the block. -/
theorem getElem?_splice {block chunk : Bytes} {off : Nat} (h : off + chunk.length ≤ block.length)
    (i : Nat) :
    (splice block off chunk)[i]?
      = if off ≤ i ∧ i < off + chunk.length then chunk[i - off]? else block[i]? := by
  have hfront : (block.take off).length = off := by
    rw [List.length_take]
    omega
  rw [splice, List.take_of_length_le (by omega : chunk.length ≤ block.length - off),
    List.append_assoc]
  rcases Nat.lt_or_ge i off with hlt | hge
  · rw [if_neg (by omega), List.getElem?_append_left (by omega), List.getElem?_take_of_lt hlt]
  · rw [List.getElem?_append_right (by omega), hfront]
    rcases Nat.lt_or_ge i (off + chunk.length) with hin | hout
    · rw [if_pos ⟨hge, hin⟩, List.getElem?_append_left (by omega)]
    · rw [if_neg (by omega), List.getElem?_append_right (by omega), List.getElem?_drop]
      congr 1
      omega

/-- A slice that was just written reads back. -/
theorem slice_splice {block chunk : Bytes} {off : Nat} (h : off + chunk.length ≤ block.length) :
    ((splice block off chunk).drop off).take chunk.length = chunk := by
  refine List.ext_getElem? fun i => ?_
  rw [List.getElem?_take, List.getElem?_drop, getElem?_splice h]
  rcases Nat.lt_or_ge i chunk.length with hlt | hge
  · rw [if_pos hlt, if_pos (by omega), Nat.add_sub_cancel_left]
  · rw [if_neg (by omega), List.getElem?_eq_none hge]

/-- A slice that a write does not touch is what it was. -/
theorem slice_splice_disjoint {block chunk : Bytes} {off pos n : Nat}
    (h : off + chunk.length ≤ block.length) (hdisjoint : pos + n ≤ off ∨ off + chunk.length ≤ pos) :
    ((splice block off chunk).drop pos).take n = (block.drop pos).take n := by
  refine List.ext_getElem? fun i => ?_
  rw [List.getElem?_take, List.getElem?_take, List.getElem?_drop, List.getElem?_drop,
    getElem?_splice h]
  rcases Nat.lt_or_ge i n with hlt | hge
  · rw [if_pos hlt, if_pos hlt, if_neg (by omega)]
  · rw [if_neg (by omega), if_neg (by omega)]

theorem memcpy_ok {dst src : Bytes} {dstOff srcOff count : Nat}
    (hsrc : srcOff + count ≤ src.length) (hdst : dstOff + count ≤ dst.length) :
    memcpy M dst dstOff src srcOff count = .ok (splice dst dstOff ((src.drop srcOff).take count)) := by
  rw [memcpy, if_neg (fun hc => hc.2 hsrc), if_neg (fun hc => hc.2 hdst), peek_of_le hsrc]

theorem memcpy_plain (hM : M.checked = false) {dst src : Bytes} {dstOff srcOff count : Nat} :
    memcpy M dst dstOff src srcOff count = .ok (splice dst dstOff (peek M src srcOff count)) := by
  rw [memcpy, if_neg (by rw [hM]; simp), if_neg (by rw [hM]; simp)]

/-- On a checking machine a copy returns only if it stays inside both blocks. -/
theorem memcpy_checked (hM : M.checked = true) {dst src out : Bytes} {dstOff srcOff count : Nat} :
    memcpy M dst dstOff src srcOff count = .ok out ↔
      (srcOff + count ≤ src.length ∧ dstOff + count ≤ dst.length) ∧
        out = splice dst dstOff ((src.drop srcOff).take count) := by
  by_cases hsrc : srcOff + count ≤ src.length
  · by_cases hdst : dstOff + count ≤ dst.length
    · rw [memcpy_ok hsrc hdst, Except.ok.injEq]
      exact ⟨fun h => ⟨⟨hsrc, hdst⟩, h.symm⟩, fun h => h.2.symm⟩
    · rw [memcpy, if_neg (fun hc => hc.2 hsrc), if_pos ⟨hM, hdst⟩]
      exact ⟨fun h => absurd h (by simp), fun h => absurd h.1.2 hdst⟩
  · rw [memcpy, if_pos ⟨hM, hsrc⟩]
    exact ⟨fun h => absurd h (by simp), fun h => absurd h.1.1 hsrc⟩

/-- Copying `count` bytes to the start of a block of that size is a slice. -/
theorem memcpy_slice {dst src : Bytes} {srcOff count : Nat} (hsrc : srcOff + count ≤ src.length)
    (hdst : dst.length = count) :
    memcpy M dst 0 src srcOff count = .ok ((src.drop srcOff).take count) := by
  have hlen : ((src.drop srcOff).take count).length = count := by
    rw [List.length_take, List.length_drop]
    omega
  rw [memcpy_ok hsrc (by omega), splice_all (by omega)]

/-- A copy behind a known front, of the first bytes of its source. -/
theorem memcpy_behind {front rest src : Bytes} {off count : Nat} (hoff : off = front.length)
    (hsrc : count ≤ src.length) (hrest : count ≤ rest.length) :
    memcpy M (front ++ rest) off src 0 count
      = .ok (front ++ (src.take count ++ rest.drop count)) := by
  have hlen : (src.take count).length = count := by
    rw [List.length_take]
    omega
  rw [memcpy_ok (by omega) (by rw [List.length_append]; omega), List.drop_zero, hoff,
    splice_append (by omega), hlen, List.append_assoc]

/-- A copy that fills what is left behind the front. -/
theorem memcpy_rest {front rest src : Bytes} {off : Nat} (hoff : off = front.length)
    (hrest : rest.length = src.length) :
    memcpy M (front ++ rest) off src 0 src.length = .ok (front ++ src) := by
  rw [memcpy_behind hoff (Nat.le_refl _) (by omega), List.take_length, ← hrest, List.drop_length,
    List.append_nil]

/-- On a checking machine, a copy that fills a block of its size returns a slice or stops. -/
theorem memcpy_fill_checked (hM : M.checked = true) {dst src out : Bytes} {srcOff count : Nat}
    (hdst : dst.length = count) :
    memcpy M dst 0 src srcOff count = .ok out ↔
      srcOff + count ≤ src.length ∧ out = (src.drop srcOff).take count := by
  by_cases hsrc : srcOff + count ≤ src.length
  · rw [memcpy_slice hsrc hdst, Except.ok.injEq]
    exact ⟨fun h => ⟨hsrc, h.symm⟩, fun h => h.2.symm⟩
  · rw [memcpy_checked hM]
    exact ⟨fun h => absurd h.1.1 hsrc, fun h => absurd h.1 hsrc⟩

theorem store_ok {dst chunk : Bytes} {off : Nat} (h : off + chunk.length ≤ dst.length) :
    store M dst off chunk = .ok (splice dst off chunk) := by
  rw [store, if_neg (fun hc => hc.2 h)]

end Blocks

end CMem
