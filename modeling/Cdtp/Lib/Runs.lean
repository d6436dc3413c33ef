/-
  Runs of deterministic machines.

  A machine is a function `step : S → I → S`; a run feeds it a list of inputs, so every statement
  about all runs of all lengths is an induction over that list, made once here:

  * `run_invariant` — an invariant that every step preserves holds after every run;
  * `run_invariant_of_along` — the same when only the steps that meet a condition preserve it, along
    the runs all of whose steps meet it (`Along`);
  * `always_iff_along_of_inv`, `always_iff_along`, `always_iff_along_of_mem` — when a step that misses
    the condition also breaks the property, the property holds in every state a run passes through IFF
    all its steps meet the condition;
  * `doomed_of_not_along` — when it leads to a point of no return, every other run ends behind that.

  `spent` adds up what the steps of a run cost.

  A machine that ANSWERS its inputs, and may fail to, is `S → I → Option (O × S)`; `answers_refine`
  is forward simulation by an abstract machine given as a relation, `answers_bounded` is the
  invariant rule with a measure, and `answers_split` cuts a run where its answers are cut.
-/
import Mathlib.Data.List.Basic

namespace Runs

/-! ## Runs and their invariants -/

section Run

variable {S I : Type} {step : S → I → S}

/-- The state after feeding `is` to the machine. -/
def run (step : S → I → S) (s : S) (is : List I) : S := is.foldl step s

@[simp] theorem run_nil (s : S) : run step s [] = s := rfl
@[simp] theorem run_cons (s : S) (i : I) (is : List I) :
    run step s (i :: is) = run step (step s i) is := rfl

theorem run_append (s : S) (is js : List I) :
    run step s (is ++ js) = run step (run step s is) js := List.foldl_append

/-- What the steps of a run cost together. -/
def spent (step : S → I → S) (cost : S → I → Nat) : S → List I → Nat
  | _, [] => 0
  | s, i :: is => cost s i + spent step cost (step s i) is

@[simp] theorem spent_nil (cost : S → I → Nat) (s : S) : spent step cost s [] = 0 := rfl
@[simp] theorem spent_cons (cost : S → I → Nat) (s : S) (i : I) (is : List I) :
    spent step cost s (i :: is) = cost s i + spent step cost (step s i) is := rfl

theorem spent_append (cost : S → I → Nat) (is js : List I) : ∀ s : S,
    spent step cost s (is ++ js) = spent step cost s is + spent step cost (run step s is) js := by
  induction is with
  | nil => intro s; exact (Nat.zero_add _).symm
  | cons i is ih =>
    intro s
    rw [List.cons_append, spent_cons, spent_cons, ih, run_cons, Nat.add_assoc]

/-- Every step of the run meets `ok` in the state it is taken in. -/
def Along (step : S → I → S) (ok : S → I → Prop) : S → List I → Prop
  | _, [] => True
  | s, i :: is => ok s i ∧ Along step ok (step s i) is

instance decidableAlong {ok : S → I → Prop} [∀ s i, Decidable (ok s i)] :
    ∀ (s : S) (is : List I), Decidable (Along step ok s is)
  | _, [] => .isTrue trivial
  | s, i :: is =>
    @instDecidableAnd (ok s i) (Along step ok (step s i) is) inferInstance
      (decidableAlong (step s i) is)

/-- `P` holds in every state the run passes through, the first and the last included. -/
def Always (step : S → I → S) (P : S → Prop) : S → List I → Prop
  | s, [] => P s
  | s, i :: is => P s ∧ Always step P (step s i) is

instance decidableAlways {P : S → Prop} [∀ s, Decidable (P s)] :
    ∀ (s : S) (is : List I), Decidable (Always step P s is)
  | s, [] => inferInstanceAs (Decidable (P s))
  | s, i :: is => @instDecidableAnd (P s) _ inferInstance (decidableAlways (step s i) is)

variable {Inv P : S → Prop} {ok : S → I → Prop}

theorem run_invariant (hstep : ∀ s i, Inv s → Inv (step s i)) :
    ∀ (is : List I) (s : S), Inv s → Inv (run step s is) := by
  intro is
  induction is with
  | nil => intro s hs; exact hs
  | cons i is ih => intro s hs; exact ih (step s i) (hstep s i hs)

theorem run_invariant_of_along (hstep : ∀ s i, Inv s → ok s i → Inv (step s i)) :
    ∀ (is : List I) (s : S), Inv s → Along step ok s is → Inv (run step s is) := by
  intro is
  induction is with
  | nil => intro s hs _; exact hs
  | cons i is ih => intro s hs hok; exact ih (step s i) (hstep s i hs hok.1) hok.2

/-- `Always` is what it says: the property in the state after every prefix of the inputs. -/
theorem always_iff_initial : ∀ (is : List I) (s : S),
    Always step P s is ↔ ∀ pre, pre <+: is → P (run step s pre) := by
  intro is
  induction is with
  | nil =>
    intro s
    constructor
    · intro h pre hpre
      rw [List.prefix_nil.mp hpre]
      exact h
    · intro h
      exact h [] (List.prefix_refl [])
  | cons i is ih =>
    intro s
    constructor
    · rintro ⟨hs, hrest⟩ pre hpre
      cases pre with
      | nil => exact hs
      | cons j pre =>
        obtain ⟨rfl, hpre'⟩ := List.cons_prefix_cons.mp hpre
        exact (ih (step s j)).mp hrest pre hpre'
    · intro h
      refine ⟨h [] List.nil_prefix, (ih (step s i)).mpr ?_⟩
      intro pre hpre
      exact h (i :: pre) (List.cons_prefix_cons.mpr ⟨rfl, hpre⟩)

/-- A condition on the inputs alone can be added along the run. -/
theorem Along.and_of_mem {q : I → Prop} : ∀ {is : List I} {s : S}, Along step ok s is →
    (∀ i ∈ is, q i) → Along step (fun s i => ok s i ∧ q i) s is := by
  intro is
  induction is with
  | nil => intro s _ _; trivial
  | cons i is ih =>
    intro s h hq
    exact ⟨⟨h.1, hq i List.mem_cons_self⟩, ih h.2 fun j hj => hq j (List.mem_cons_of_mem _ hj)⟩

/-- An invariant that gives the property, kept along the run. -/
theorem always_of_along (hP : ∀ s, Inv s → P s) (hgood : ∀ s i, Inv s → ok s i → Inv (step s i)) :
    ∀ (is : List I) (s : S), Inv s → Along step ok s is → Always step P s is := by
  intro is
  induction is with
  | nil => intro s hs _; exact hP s hs
  | cons i is ih => intro s hs hok; exact ⟨hP s hs, ih (step s i) (hgood s i hs hok.1) hok.2⟩

/-- **The point of no return.**  If a step that misses the condition leads to where no step leads away
    from, then that is where every run ends that is not good. -/
theorem doomed_of_not_along {Doomed : S → Prop} (hgood : ∀ s i, Inv s → ok s i → Inv (step s i))
    (hbad : ∀ s i, Inv s → ¬ ok s i → Doomed (step s i))
    (hdoomed : ∀ s i, Doomed s → Doomed (step s i)) :
    ∀ (is : List I) (s : S), Inv s → ¬ Along step ok s is → Doomed (run step s is) := by
  intro is
  induction is with
  | nil => intro s _ hno; exact absurd trivial hno
  | cons i is ih =>
    intro s hs hno
    by_cases hok : ok s i
    · exact ih (step s i) (hgood s i hs hok) fun hrest => hno ⟨hok, hrest⟩
    · exact run_invariant hdoomed is (step s i) (hbad s i hs hok)

/-- **The exact condition.**  If good steps keep an invariant that gives the property, and every other
    step breaks the property, then it holds throughout a run iff all the steps of the run are good. -/
theorem always_iff_along_of_inv (hP : ∀ s, Inv s → P s)
    (hgood : ∀ s i, Inv s → ok s i → Inv (step s i))
    (hbad : ∀ s i, Inv s → ¬ ok s i → ¬ P (step s i)) :
    ∀ (is : List I) (s : S), Inv s → (Always step P s is ↔ Along step ok s is) := by
  intro is
  induction is with
  | nil => intro s hs; exact ⟨fun _ => trivial, fun _ => hP s hs⟩
  | cons i is ih =>
    intro s hs
    constructor
    · -- a bad step would break the property at once, so the first step is good
      rintro ⟨-, hrest⟩
      have hp' : P (step s i) := (always_iff_initial is (step s i)).mp hrest [] List.nil_prefix
      have hok : ok s i := by
        by_contra hno
        exact hbad s i hs hno hp'
      exact ⟨hok, (ih (step s i) (hgood s i hs hok)).mp hrest⟩
    · exact always_of_along hP hgood (i :: is) s hs

/-- The same, for an invariant that every step keeps. -/
theorem always_iff_along (hgood : ∀ s i, Inv s → P s → ok s i → P (step s i))
    (hbad : ∀ s i, Inv s → P s → ¬ ok s i → ¬ P (step s i))
    (hinv : ∀ s i, Inv s → Inv (step s i)) :
    ∀ (is : List I) (s : S), Inv s → P s → (Always step P s is ↔ Along step ok s is) := by
  intro is s hs hp
  apply @always_iff_along_of_inv S I step (fun s => Inv s ∧ P s) P ok
  · exact fun s h => h.2
  · exact fun s i h hok => ⟨hinv s i h.1, hgood s i h.1 h.2 hok⟩
  · exact fun s i h hno => hbad s i h.1 h.2 hno
  · exact ⟨hs, hp⟩

/-- The same, for runs all of whose inputs are lawful: only for those does one step decide. -/
theorem always_iff_along_of_mem {lawful : I → Prop}
    (hone : ∀ s i, lawful i → Inv s → P s → (P (step s i) ↔ ok s i))
    (hinv : ∀ s i, Inv s → Inv (step s i)) :
    ∀ (is : List I) (s : S), (∀ i ∈ is, lawful i) → Inv s → P s →
      (Always step P s is ↔ Along step ok s is) := by
  intro is
  induction is with
  | nil => intro s _ _ hp; exact ⟨fun _ => trivial, fun _ => hp⟩
  | cons i is ih =>
    intro s hlawful hs hp
    have hstep := hone s i (hlawful i List.mem_cons_self) hs hp
    have hrest := ih (step s i) (fun j hj => hlawful j (List.mem_cons_of_mem i hj)) (hinv s i hs)
    constructor
    · rintro ⟨-, h⟩
      have hp' : P (step s i) := (always_iff_initial is (step s i)).mp h [] List.nil_prefix
      exact ⟨hstep.mp hp', (hrest hp').mp h⟩
    · rintro ⟨hok, h⟩
      exact ⟨hp, (hrest (hstep.mpr hok)).mpr h⟩

end Run

/-! ## Machines that answer -/

section Answers

variable {S A I O : Type}

/-- Feed `is` to the machine and collect its answers; `none` if some step does not return. -/
def answers (step : S → I → Option (O × S)) : S → List I → Option (List O × S)
  | s, [] => some ([], s)
  | s, i :: is => do
    let (o, s) ← step s i
    let (os, s) ← answers step s is
    some (o :: os, s)

/-- The answers `os` to `is` are allowed by an abstract machine started in `a`, which ends in `a'`. -/
def Allowed (spec : A → I → O → A → Prop) : A → List I → List O → A → Prop
  | a, [], [], a' => a' = a
  | a, i :: is, o :: os, a' => ∃ b, spec a i o b ∧ Allowed spec b is os a'
  | _, _, _, _ => False

/-- **Forward simulation.**  If every step from related states returns, with an answer the abstract
    machine allows, into related states, then so does every run. -/
theorem answers_refine {step : S → I → Option (O × S)} {spec : A → I → O → A → Prop}
    {rel : S → A → Prop}
    (hstep : ∀ s a i, rel s a → ∃ o s' a', step s i = some (o, s') ∧ spec a i o a' ∧ rel s' a') :
    ∀ (is : List I) (s : S) (a : A), rel s a →
      ∃ os s' a', answers step s is = some (os, s') ∧ Allowed spec a is os a' ∧ rel s' a' := by
  intro is
  induction is with
  | nil => intro s a h; exact ⟨[], s, a, rfl, rfl, h⟩
  | cons i is ih =>
    intro s a h
    obtain ⟨o, s₁, a₁, hs, hspec, hrel⟩ := hstep s a i h
    obtain ⟨os, s₂, a₂, hrun, hall, hrel₂⟩ := ih s₁ a₁ hrel
    exact ⟨o :: os, s₂, a₂, by simp [answers, hs, hrun], ⟨a₁, hspec, hall⟩, hrel₂⟩

variable {step : S → I → Option (O × S)}

/-- **The invariant rule, with a measure.**  If every step returns, keeps the invariant and raises the
    measure by at most one, then every run returns, and raises it by at most its length. -/
theorem answers_bounded {Inv : S → Prop} {measure : S → Nat}
    (hstep : ∀ s i, Inv s → ∃ o s', step s i = some (o, s') ∧ Inv s' ∧ measure s' ≤ measure s + 1) :
    ∀ (is : List I) (s : S), Inv s →
      ∃ os s', answers step s is = some (os, s') ∧ Inv s' ∧ measure s' ≤ measure s + is.length := by
  intro is
  induction is with
  | nil => intro s h; exact ⟨[], s, rfl, h, Nat.le_refl _⟩
  | cons i is ih =>
    intro s h
    obtain ⟨o, s₁, hs, h₁, hle₁⟩ := hstep s i h
    obtain ⟨os, s₂, hrun, h₂, hle₂⟩ := ih s₁ h₁
    refine ⟨o :: os, s₂, by simp [answers, hs, hrun], h₂, ?_⟩
    rw [List.length_cons]
    omega

theorem answers_nil_iff {s s' : S} {is : List I} :
    answers step s is = some ([], s') ↔ is = [] ∧ s' = s := by
  cases is with
  | nil => simp [answers, eq_comm]
  | cons i is => simp [answers, Option.bind_eq_some_iff]

/-- A run with a first answer takes a first step. -/
theorem answers_cons_iff {s s' : S} {is : List I} {o : O} {os : List O} :
    answers step s is = some (o :: os, s') ↔
      ∃ i is' s₁, is = i :: is' ∧ step s i = some (o, s₁) ∧ answers step s₁ is' = some (os, s') := by
  constructor
  · intro h
    cases is with
    | nil => simp [answers] at h
    | cons i is' =>
      simp only [answers, Option.bind_eq_bind, Option.bind_eq_some_iff, Option.some.injEq,
        Prod.mk.injEq, List.cons.injEq, Prod.exists] at h
      obtain ⟨o', s₁, hs, os', s₂, hrun, ⟨rfl, rfl⟩, rfl⟩ := h
      exact ⟨i, is', s₁, rfl, hs, hrun⟩
  · rintro ⟨i, is', s₁, rfl, hs, hrun⟩
    simp [answers, hs, hrun]

/-- A run whose answers are cut in two is cut in two. -/
theorem answers_split : ∀ {os₁ os₂ : List O} {is : List I} {s s' : S},
    answers step s is = some (os₁ ++ os₂, s') →
      ∃ is₁ is₂ s₁, is = is₁ ++ is₂ ∧ answers step s is₁ = some (os₁, s₁) ∧
        answers step s₁ is₂ = some (os₂, s') := by
  intro os₁
  induction os₁ with
  | nil => intro os₂ is s s' h; exact ⟨[], is, s, rfl, rfl, h⟩
  | cons o os₁ ih =>
    intro os₂ is s s' h
    obtain ⟨i, is', s₁, rfl, hs, hrun⟩ := answers_cons_iff.mp h
    obtain ⟨is₁, is₂, s₂, rfl, hrun₁, hrun₂⟩ := ih hrun
    exact ⟨i :: is₁, is₂, s₂, rfl, answers_cons_iff.mpr ⟨i, is₁, s₁, rfl, hs, hrun₁⟩, hrun₂⟩

end Answers

end Runs
