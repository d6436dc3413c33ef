/-
  Big-endian byte strings: `toBytes n s` is `s` in `n` base-256 digits, most significant first, and
  `ofBytes` reads any byte string back.  They are inverse up to the width: reading `n` digits gives
  `s % 256 ^ n` (`ofBytes_toBytes`), and every byte string is the expansion of its own value
  (`toBytes_ofBytes`).  Byte strings of one length compare lexicographically as their values do
  (`ofBytes_lt_iff`).
-/
import Mathlib.Data.List.Induction
import Mathlib.Tactic.Ring

namespace BigEndian

/-- The `n` low base-256 digits of `s`, most significant first. -/
def toBytes : Nat → Nat → List UInt8
  | 0, _ => []
  | n + 1, s => toBytes n (s / 256) ++ [UInt8.ofNat (s % 256)]

/-- The value of a byte string read as base-256 digits. -/
def ofBytes (bs : List UInt8) : Nat := bs.foldl (fun s b => s * 256 + b.toNat) 0

@[simp] theorem toBytes_length (n s : Nat) : (toBytes n s).length = n := by
  induction n generalizing s with
  | zero => rfl
  | succ n ih => rw [toBytes, List.length_append, ih, List.length_singleton]

@[simp] theorem ofBytes_nil : ofBytes [] = 0 := rfl

theorem ofBytes_snoc (bs : List UInt8) (b : UInt8) :
    ofBytes (bs ++ [b]) = ofBytes bs * 256 + b.toNat := by
  rw [ofBytes, List.foldl_append]
  rfl

/-- Writing and reading back keeps the value modulo the width. -/
theorem ofBytes_toBytes (n s : Nat) : ofBytes (toBytes n s) = s % 256 ^ n := by
  induction n generalizing s with
  | zero => rw [toBytes, ofBytes_nil, Nat.pow_zero, Nat.mod_one]
  | succ n ih =>
    have hdigit : (UInt8.ofNat (s % 256)).toNat = s % 256 := by
      rw [UInt8.toNat_ofNat']
      omega
    rw [toBytes, ofBytes_snoc, ih, hdigit, Nat.pow_succ, Nat.mul_comm (256 ^ n) 256,
      Nat.mod_mul, Nat.mul_comm]
    omega

theorem ofBytes_toBytes_of_lt {n s : Nat} (h : s < 256 ^ n) : ofBytes (toBytes n s) = s := by
  rw [ofBytes_toBytes, Nat.mod_eq_of_lt h]

theorem ofBytes_lt (bs : List UInt8) : ofBytes bs < 256 ^ bs.length := by
  induction bs using List.reverseRecOn with
  | nil => exact Nat.one_pos
  | append_singleton bs b ih =>
    have hb : b.toNat < 256 := UInt8.toNat_lt b
    rw [ofBytes_snoc, List.length_append, List.length_singleton, Nat.pow_succ]
    omega

/-- Every byte string is the expansion of its value. -/
theorem toBytes_ofBytes (bs : List UInt8) : toBytes bs.length (ofBytes bs) = bs := by
  induction bs using List.reverseRecOn with
  | nil => rfl
  | append_singleton bs b ih =>
    have hb : b.toNat < 256 := UInt8.toNat_lt b
    have hdiv : (ofBytes bs * 256 + b.toNat) / 256 = ofBytes bs := by omega
    have hmod : (ofBytes bs * 256 + b.toNat) % 256 = b.toNat := by omega
    rw [List.length_append, List.length_singleton, toBytes, ofBytes_snoc, hdiv, hmod, ih,
      UInt8.ofNat_toNat]

/-! ## Order -/

/-- The first byte counts `256 ^ n` when `n` bytes follow. -/
theorem ofBytes_cons (b : UInt8) (bs : List UInt8) :
    ofBytes (b :: bs) = b.toNat * 256 ^ bs.length + ofBytes bs := by
  induction bs using List.reverseRecOn with
  | nil =>
    show 0 * 256 + b.toNat = b.toNat * 256 ^ 0 + 0
    omega
  | append_singleton bs c ih =>
    rw [← List.cons_append, ofBytes_snoc, ofBytes_snoc, ih, List.length_append,
      List.length_singleton, Nat.pow_succ, Nat.add_mul, Nat.mul_assoc, Nat.add_assoc]

/-- Two numbers of the same number of digits compare by their first digits, then by the rest. -/
theorem digit_lt_iff {x y u v P : Nat} (hu : u < P) (hv : v < P) :
    x * P + u < y * P + v ↔ x < y ∨ x = y ∧ u < v := by
  rcases Nat.lt_trichotomy x y with hlt | rfl | hgt
  · have hstep : (x + 1) * P ≤ y * P := Nat.mul_le_mul_right P hlt
    rw [Nat.add_mul, Nat.one_mul] at hstep
    exact ⟨fun _ => Or.inl hlt, fun _ => by omega⟩
  · constructor
    · intro h
      exact Or.inr ⟨rfl, by omega⟩
    · rintro (h | ⟨-, h⟩) <;> omega
  · have hstep : (y + 1) * P ≤ x * P := Nat.mul_le_mul_right P hgt
    rw [Nat.add_mul, Nat.one_mul] at hstep
    constructor
    · intro h
      omega
    · rintro (h | ⟨h, -⟩) <;> omega

/-- **Byte strings of one length compare lexicographically as their values do.** -/
theorem ofBytes_lt_iff : ∀ {as bs : List UInt8}, as.length = bs.length →
    (ofBytes as < ofBytes bs ↔ as < bs) := by
  intro as
  induction as with
  | nil =>
    intro bs h
    rw [List.length_nil, eq_comm, List.length_eq_zero_iff] at h
    subst h
    exact ⟨fun h => absurd h (Nat.lt_irrefl _), fun h => absurd h (List.lt_irrefl _)⟩
  | cons a as ih =>
    intro bs h
    cases bs with
    | nil => exact absurd h (by simp)
    | cons b bs =>
      rw [List.length_cons, List.length_cons, Nat.add_right_cancel_iff] at h
      have hbs := ofBytes_lt bs
      rw [← h] at hbs
      rw [ofBytes_cons, ofBytes_cons, ← h, digit_lt_iff (ofBytes_lt as) hbs, ih h,
        List.cons_lt_cons_iff, UInt8.lt_iff_toNat_lt, UInt8.toNat_inj]

theorem toBytes_lt_iff {n s t : Nat} (hs : s < 256 ^ n) (ht : t < 256 ^ n) :
    toBytes n s < toBytes n t ↔ s < t := by
  have hlen : (toBytes n s).length = (toBytes n t).length := by
    rw [toBytes_length, toBytes_length]
  rw [← ofBytes_lt_iff hlen, ofBytes_toBytes_of_lt hs, ofBytes_toBytes_of_lt ht]

end BigEndian
