/-
  Cyclic scans over the slots `0 … cap - 1` of a table, as open addressing performs them.

  Two loop shapes occur.  `skipBusy` is the WHILE loop that walks past busy slots until it meets a
  free one; nothing in the loop bounds it, so it carries a fuel and answers `none` while it has not
  stopped.  `scanCycle` is the DO-WHILE loop that tests every slot of one full cycle and leaves when
  it is back at its start.

  The arithmetic content is one fact: from any start below `cap` the indices `(start + k) % cap`,
  `k < cap`, meet every slot (`exists_offset`), and only `k = cap` returns to the start
  (`add_mod_eq_start`).  From it: the while loop stops iff some slot is free, and then within `cap`
  tests (`skipBusy_stops_iff`, `skipBusy_within_cap`); the do-while loop is the while loop that skips the
  slots which are no hit (`scanCycle_eq_skipBusy`), so it finds a hit iff there is one.
-/
import Mathlib.Data.Nat.Basic

namespace CyclicScan

/-! ## The two loops -/

/-- `while (busy(i)) i = (i + 1) % cap;` cut off after `fuel` tests: the slot the loop stops at, or
    `none` when it is still walking. -/
def skipBusy (busy : Nat → Bool) (cap : Nat) : Nat → Nat → Option Nat
  | 0, _ => none
  | fuel + 1, i => if busy i then skipBusy busy cap fuel ((i + 1) % cap) else some i

/-- `do { if (hit(i)) return i; i = (i + 1) % cap; } while (i != start);` with `none` for a loop
    that has come full circle. -/
def scanCycle (hit : Nat → Bool) (cap start : Nat) : Nat → Nat → Option Nat
  | 0, _ => none
  | fuel + 1, i =>
    if hit i then some i
    else if (i + 1) % cap = start then none
    else scanCycle hit cap start fuel ((i + 1) % cap)

/-! ## The cycle of indices -/

/-- The walk from `start` meets every slot within one cycle. -/
theorem exists_offset {cap start j : Nat} (hs : start < cap) (hj : j < cap) :
    ∃ k < cap, (start + k) % cap = j := by
  rcases Nat.lt_or_ge j start with hlt | hge
  · refine ⟨j + cap - start, by omega, ?_⟩
    have hsum : start + (j + cap - start) = j + cap := by omega
    rw [hsum, Nat.add_mod_right, Nat.mod_eq_of_lt hj]
  · refine ⟨j - start, by omega, ?_⟩
    have hsum : start + (j - start) = j := by omega
    rw [hsum, Nat.mod_eq_of_lt hj]

/-- Within one cycle only the last step returns to the start. -/
theorem add_mod_eq_start {cap start k : Nat} (hs : start < cap) (hk : 0 < k) (hkc : k ≤ cap) :
    (start + k) % cap = start ↔ k = cap := by
  constructor
  · intro h
    rcases Nat.lt_or_ge (start + k) cap with hlt | hge
    · rw [Nat.mod_eq_of_lt hlt] at h
      omega
    · rw [Nat.mod_eq_sub_mod hge, Nat.mod_eq_of_lt (by omega)] at h
      omega
  · rintro rfl
    rw [Nat.add_mod_right, Nat.mod_eq_of_lt hs]

/-- One more step of the walk, with the inner `%` folded away. -/
theorem step_mod (cap i k : Nat) : ((i + 1) % cap + k) % cap = (i + (k + 1)) % cap := by
  rw [Nat.mod_add_mod, Nat.add_assoc, Nat.add_comm 1 k]

/-! ## The while loop -/

section SkipBusy

variable {busy : Nat → Bool} {cap : Nat}

/-- The while loop is still walking after `fuel` tests iff the first `fuel` slots are busy. -/
theorem skipBusy_eq_none_iff : ∀ (fuel i : Nat), i < cap →
    (skipBusy busy cap fuel i = none ↔ ∀ k < fuel, busy ((i + k) % cap) = true) := by
  intro fuel
  induction fuel with
  | zero => intro i _; exact ⟨fun _ k hk => absurd hk (Nat.not_lt_zero k), fun _ => rfl⟩
  | succ fuel ih =>
    intro i hi
    have hnext : (i + 1) % cap < cap := Nat.mod_lt _ (by omega)
    have hi0 : (i + 0) % cap = i := Nat.mod_eq_of_lt hi
    rw [skipBusy]
    by_cases hb : busy i = true
    · rw [if_pos hb, ih _ hnext]
      constructor
      · intro h k hk
        cases k with
        | zero => rw [hi0]; exact hb
        | succ k => rw [← step_mod]; exact h k (by omega)
      · intro h k hk
        rw [step_mod]
        exact h (k + 1) (by omega)
    · rw [if_neg hb]
      constructor
      · intro h; exact absurd h (by simp)
      · intro h
        have h0 := h 0 (by omega)
        rw [hi0] at h0
        exact absurd h0 hb

/-- Where the while loop stops, the slot is free and inside the table. -/
theorem skipBusy_some : ∀ (fuel i j : Nat), i < cap → skipBusy busy cap fuel i = some j →
    j < cap ∧ busy j = false := by
  intro fuel
  induction fuel with
  | zero => intro i j _ h; exact absurd h (by simp [skipBusy])
  | succ fuel ih =>
    intro i j hi h
    rw [skipBusy] at h
    by_cases hb : busy i = true
    · rw [if_pos hb] at h
      exact ih _ j (Nat.mod_lt _ (by omega)) h
    · rw [if_neg hb, Option.some.injEq] at h
      subst h
      exact ⟨hi, by simpa using hb⟩

/-- With a free slot somewhere, `cap` tests are enough. -/
theorem skipBusy_free {i : Nat} (hi : i < cap) (hfree : ∃ j < cap, busy j = false) :
    ∃ j, skipBusy busy cap cap i = some j := by
  rcases hres : skipBusy busy cap cap i with _ | j
  · obtain ⟨j, hj, hbj⟩ := hfree
    obtain ⟨k, hk, rfl⟩ := exists_offset hi hj
    have hall := (skipBusy_eq_none_iff cap i hi).mp hres k hk
    rw [hall] at hbj
    exact absurd hbj (by simp)
  · exact ⟨j, rfl⟩

/-- **The while loop terminates iff some slot is free.** -/
theorem skipBusy_stops_iff {i : Nat} (hi : i < cap) :
    (∃ fuel, skipBusy busy cap fuel i ≠ none) ↔ ∃ j < cap, busy j = false := by
  constructor
  · rintro ⟨fuel, h⟩
    obtain ⟨j, hj⟩ := Option.ne_none_iff_exists'.mp h
    exact ⟨j, skipBusy_some fuel i j hi hj⟩
  · intro hfree
    obtain ⟨j, hj⟩ := skipBusy_free hi hfree
    exact ⟨cap, by rw [hj]; simp⟩

/-- More fuel does not move the slot the loop stops at. -/
theorem skipBusy_mono : ∀ (fuel more i j : Nat), fuel ≤ more →
    skipBusy busy cap fuel i = some j → skipBusy busy cap more i = some j := by
  intro fuel
  induction fuel with
  | zero => intro more i j _ h; exact absurd h (by simp [skipBusy])
  | succ fuel ih =>
    intro more i j hle h
    obtain ⟨more, rfl⟩ : ∃ m, more = m + 1 := ⟨more - 1, by omega⟩
    rw [skipBusy] at h ⊢
    by_cases hb : busy i = true
    · rw [if_pos hb] at h ⊢
      exact ih more _ j (by omega) h
    · rw [if_neg hb] at h ⊢
      exact h

/-- A loop that stops at all stops within `cap` tests, and at the same slot. -/
theorem skipBusy_within_cap {fuel i j : Nat} (hi : i < cap)
    (h : skipBusy busy cap fuel i = some j) : skipBusy busy cap cap i = some j := by
  obtain ⟨j', hj'⟩ := skipBusy_free hi ⟨j, skipBusy_some fuel i j hi h⟩
  -- both runs are prefixes of the run with the larger fuel
  have hmore := skipBusy_mono fuel (fuel + cap) i j (Nat.le_add_right fuel cap) h
  have hmore' := skipBusy_mono cap (fuel + cap) i j' (Nat.le_add_left cap fuel) hj'
  rw [hmore] at hmore'
  rw [hj', Option.some.inj hmore']

end SkipBusy

/-! ## The do-while loop -/

section ScanCycle

variable {hit : Nat → Bool} {cap start : Nat}

/-- The do-while loop, `k` steps into its cycle, walks past the misses. -/
theorem scanCycle_eq_aux (hit : Nat → Bool) (hs : start < cap) : ∀ n k, k + n = cap →
    scanCycle hit cap start n ((start + k) % cap)
      = skipBusy (fun i => !hit i) cap n ((start + k) % cap) := by
  intro n
  induction n with
  | zero => intro k _; rfl
  | succ n ih =>
    intro k hk
    have hnext : ((start + k) % cap + 1) % cap = (start + (k + 1)) % cap := by
      rw [Nat.mod_add_mod, Nat.add_assoc]
    rw [scanCycle, skipBusy, hnext]
    by_cases hh : hit ((start + k) % cap) = true
    · rw [if_pos hh, if_neg (by simp [hh])]
    · have hmiss : (!hit ((start + k) % cap)) = true := by simpa using hh
      rw [if_neg hh, if_pos hmiss]
      by_cases hwrap : (start + (k + 1)) % cap = start
      · -- back at the start: the fuel is used up at the same step
        have hn : n = 0 := by
          have := (add_mod_eq_start hs (by omega) (by omega)).mp hwrap
          omega
        rw [if_pos hwrap, hn]
        rfl
      · rw [if_neg hwrap]
        exact ih (k + 1) (by omega)

/-- **The do-while loop over a full cycle is the while loop over the misses.** -/
theorem scanCycle_eq_skipBusy (hs : start < cap) :
    scanCycle hit cap start cap start = skipBusy (fun i => !hit i) cap cap start := by
  have h := scanCycle_eq_aux hit hs cap 0 (Nat.zero_add cap)
  rwa [Nat.add_zero, Nat.mod_eq_of_lt hs] at h

/-- What the scan returns is a hit inside the table. -/
theorem scanCycle_some (hs : start < cap) {j : Nat}
    (h : scanCycle hit cap start cap start = some j) : j < cap ∧ hit j = true := by
  rw [scanCycle_eq_skipBusy hs] at h
  obtain ⟨hj, hb⟩ := skipBusy_some cap start j hs h
  exact ⟨hj, by simpa using hb⟩

/-- The scan returns nothing iff no slot is a hit. -/
theorem scanCycle_eq_none_iff (hs : start < cap) :
    scanCycle hit cap start cap start = none ↔ ∀ j < cap, hit j = false := by
  constructor
  · intro h j hj
    rw [scanCycle_eq_skipBusy hs] at h
    obtain ⟨k, hk, rfl⟩ := exists_offset hs hj
    simpa using (skipBusy_eq_none_iff cap start hs).mp h k hk
  · intro h
    rcases hres : scanCycle hit cap start cap start with _ | j
    · rfl
    · obtain ⟨hj, hh⟩ := scanCycle_some hs hres
      rw [h j hj] at hh
      exact absurd hh (by simp)

end ScanCycle

end CyclicScan
