/-
  Handles that are given out again.

  A system gives out handles for objects and takes them back, and a handle that was taken back is soon
  given out for another object.  Who keeps a handle for longer than its object then means the wrong one,
  and who gives it back twice takes an object from somebody else.

  `Table` says what is behind each handle, of our objects and of those of others, and what was behind
  the handles that we gave back, at that moment.  The books of what was opened and what has ended are
  `Exact` if the table agrees with them: `enter`, `close` and `closeAll` keep them so, and `give_other`
  says that others do not disturb them.
-/
import Mathlib.Data.List.Nodup

namespace Handles

/-- What is behind a handle. -/
inductive Behind (I : Type) where
  | free
  | mine (i : I)
  | other
  deriving DecidableEq, Repr

theorem Behind.free_ne_mine {I : Type} (i : I) : Behind.free ≠ .mine i := nofun

theorem Behind.other_ne_mine {I : Type} (i : I) : Behind.other ≠ .mine i := nofun

structure Table (H I : Type) where
  behind : H → Behind I
  /-- what was behind the handles that we gave back -/
  closes : List (Behind I)

section Table

variable {H I : Type}

/-- The table agrees with the objects that were opened, with their handles, and those that ended. -/
structure Table.Exact (t : Table H I) (opened : List (I × H)) (ended : List I) : Prop where
  distinct : (opened.map Prod.fst).Nodup
  behind_iff : ∀ h i, t.behind h = .mine i ↔ (i, h) ∈ opened ∧ i ∉ ended
  closes : t.closes = ended.map .mine

variable {t : Table H I} {opened : List (I × H)} {ended : List I} {h : H} {i : I}

/-- A handle of its own for each object. -/
theorem Table.Exact.handle_eq (he : t.Exact opened ended) {h' : H} (hi : (i, h) ∈ opened)
    (hi' : (i, h') ∈ opened) : h = h' := by
  have hpair := List.inj_on_of_nodup_map he.distinct hi hi' rfl
  exact congrArg Prod.snd hpair

variable [DecidableEq H]

/-- The handle `h` is given out for `b`. -/
def Table.give (t : Table H I) (h : H) (b : Behind I) : Table H I :=
  { t with behind := Function.update t.behind h b }

/-- We give a handle back. -/
def Table.close (t : Table H I) (h : H) : Table H I where
  behind := Function.update t.behind h .free
  closes := t.closes ++ [t.behind h]

/-- **A new object** gets a free handle. -/
theorem Table.Exact.enter (he : t.Exact opened ended) (hfree : t.behind h = .free)
    (hnew : i ∉ opened.map Prod.fst) (hended : i ∉ ended) :
    (t.give h (.mine i)).Exact (opened ++ [(i, h)]) ended where
  distinct := by
    rw [List.map_append, List.nodup_append]
    refine ⟨he.distinct, List.nodup_singleton _, ?_⟩
    intro i' hi' j hj
    rintro rfl
    rw [List.map_singleton, List.mem_singleton] at hj
    obtain rfl : i' = i := hj
    exact hnew hi'
  behind_iff := by
    intro h' j
    rw [List.mem_append, List.mem_singleton, Prod.mk.injEq]
    by_cases hh : h' = h
    · subst hh
      show Function.update t.behind h' (.mine i) h' = .mine j ↔ _
      rw [Function.update_self, Behind.mine.injEq]
      constructor
      · rintro rfl
        exact ⟨.inr ⟨rfl, rfl⟩, hended⟩
      · rintro ⟨hold | ⟨rfl, -⟩, hj⟩
        · -- the handle was free
          have hbehind := (he.behind_iff h' j).mpr ⟨hold, hj⟩
          rw [hfree] at hbehind
          exact absurd hbehind (Behind.free_ne_mine j)
        · rfl
    · show Function.update t.behind h (.mine i) h' = .mine j ↔ _
      rw [Function.update_of_ne hh, he.behind_iff]
      simp only [hh, and_false, or_false]
  closes := he.closes

/-- Handles that are not behind objects of ours come and go. -/
theorem Table.Exact.give_other (he : t.Exact opened ended) {b : Behind I}
    (hbefore : ∀ i, t.behind h ≠ .mine i) (hafter : ∀ i, b ≠ .mine i) :
    (t.give h b).Exact opened ended := by
  refine ⟨he.distinct, ?_, he.closes⟩
  intro h' i
  rw [← he.behind_iff]
  by_cases hh : h' = h
  · subst hh
    show Function.update t.behind h' b h' = _ ↔ _
    rw [Function.update_self]
    exact ⟨fun hi => absurd hi (hafter i), fun hi => absurd hi (hbefore i)⟩
  · show Function.update t.behind h b h' = _ ↔ _
    rw [Function.update_of_ne hh]

/-- **An object ends**: its own handle is given back. -/
theorem Table.Exact.close (he : t.Exact opened ended) (hopened : (i, h) ∈ opened)
    (hended : i ∉ ended) : (t.close h).Exact opened (ended ++ [i]) where
  distinct := he.distinct
  behind_iff := by
    have hbehind := (he.behind_iff h i).mpr ⟨hopened, hended⟩
    intro h' j
    rw [List.mem_append, List.mem_singleton, not_or]
    by_cases hh : h' = h
    · subst hh
      show Function.update t.behind h' .free h' = .mine j ↔ _
      rw [Function.update_self]
      constructor
      · exact fun h => absurd h (Behind.free_ne_mine j)
      · rintro ⟨hj, hnot, hne⟩
        have hbehind' := (he.behind_iff h' j).mpr ⟨hj, hnot⟩
        rw [hbehind, Behind.mine.injEq] at hbehind'
        exact absurd hbehind'.symm hne
    · show Function.update t.behind h .free h' = .mine j ↔ _
      rw [Function.update_of_ne hh, he.behind_iff]
      constructor
      · rintro ⟨hj, hnot⟩
        refine ⟨hj, hnot, ?_⟩
        rintro rfl
        exact hh (he.handle_eq hj hopened)
      · rintro ⟨hj, hnot, -⟩
        exact ⟨hj, hnot⟩
  closes := by
    have hbehind := (he.behind_iff h i).mpr ⟨hopened, hended⟩
    show t.closes ++ [t.behind h] = _
    rw [he.closes, hbehind, List.map_append, List.map_singleton]

/-- **Many end**, one after the other. -/
theorem Table.Exact.closeAll : ∀ (gone : List (I × H)) {t : Table H I} {ended : List I},
    t.Exact opened ended → (gone.map Prod.fst).Nodup →
    (∀ x ∈ gone, x ∈ opened ∧ x.1 ∉ ended) →
    ((gone.map Prod.snd).foldl Table.close t).Exact opened (ended ++ gone.map Prod.fst) := by
  intro gone
  induction gone with
  | nil =>
    intro t ended he _ _
    rw [List.map_nil, List.map_nil, List.append_nil]
    exact he
  | cons x gone ih =>
    intro t ended he hnodup hgone
    rw [List.map_cons, List.nodup_cons] at hnodup
    obtain ⟨hopened, hended⟩ := hgone x List.mem_cons_self
    have hfirst : (t.close x.2).Exact opened (ended ++ [x.1]) := he.close hopened hended
    have hrest := ih hfirst hnodup.2 fun y hy => by
      refine ⟨(hgone y (List.mem_cons_of_mem _ hy)).1, ?_⟩
      rw [List.mem_append, List.mem_singleton]
      rintro (hold | heq)
      · exact (hgone y (List.mem_cons_of_mem _ hy)).2 hold
      · exact hnodup.1 (heq ▸ List.mem_map_of_mem hy)
    rw [List.append_assoc, List.singleton_append] at hrest
    exact hrest

end Table

end Handles
