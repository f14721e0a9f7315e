import Mathlib.Data.List.Induction

/-!
# Guarded runs

A deterministic system run on a list of inputs. An invariant that every step keeps under a
guard holds along every run whose inputs all meet the guard in the state they find.
`LastAll` speaks of the latest entries of a log that a run has written.
-/

namespace Runs

variable {σ : Type u} {ι : Type v}

/-- The state after the inputs, in order. -/
def run (step : ι → σ → σ) (s : σ) (inputs : List ι) : σ :=
  inputs.foldl (fun s i => step i s) s

/-- Every input meets the guard in the state it finds. -/
def Guarded (step : ι → σ → σ) (guard : ι → σ → Prop) : σ → List ι → Prop
  | _, [] => True
  | s, i :: inputs => guard i s ∧ Guarded step guard (step i s) inputs

variable {step : ι → σ → σ} {guard : ι → σ → Prop}

/-- The run rule. -/
theorem run_invariant (inv : σ → Prop) {s : σ} {inputs : List ι} (initial : inv s)
    (keeps : ∀ i s, inv s → guard i s → inv (step i s))
    (guarded : Guarded step guard s inputs) : inv (run step s inputs) := by
  induction inputs generalizing s with
  | nil => exact initial
  | cons i inputs ih => exact ih (keeps i s initial guarded.1) guarded.2

/-- The run rule for an invariant that needs no guard. -/
theorem run_invariant_always (inv : σ → Prop) {s : σ} (inputs : List ι) (initial : inv s)
    (keeps : ∀ i s, inv s → inv (step i s)) : inv (run step s inputs) := by
  induction inputs generalizing s with
  | nil => exact initial
  | cons i inputs ih => exact ih (keeps i s initial)

/-- A measure that every step brings down is used up along the run. -/
theorem run_exhausts (measure : σ → Nat) {valid : ι → Prop} {s : σ} {inputs : List ι}
    (falls : ∀ i s, valid i → measure (step i s) ≤ measure s - 1)
    (all : ∀ i ∈ inputs, valid i) : measure (run step s inputs) ≤ measure s - inputs.length := by
  induction inputs generalizing s with
  | nil => exact Nat.le_refl _
  | cons i inputs ih =>
    have first := falls i s (all i List.mem_cons_self)
    have rest := ih (s := step i s) fun j member => all j (List.mem_cons_of_mem i member)
    rw [List.length_cons]
    have whole : run step s (i :: inputs) = run step (step i s) inputs := rfl
    rw [whole]
    omega

theorem run_append (s : σ) (earlier later : List ι) :
    run step s (earlier ++ later) = run step (run step s earlier) later :=
  List.foldl_append

/-- What holds at the end of a run and not at its start came about in one of its steps. -/
theorem run_produces (bad : σ → Prop) {s : σ} {inputs : List ι} (initial : ¬ bad s)
    (ends : bad (run step s inputs)) :
    ∃ earlier i later, inputs = earlier ++ i :: later ∧ ¬ bad (run step s earlier) ∧
      bad (step i (run step s earlier)) := by
  induction inputs generalizing s with
  | nil => exact absurd ends initial
  | cons i inputs ih =>
    by_cases first : bad (step i s)
    · exact ⟨[], i, inputs, rfl, initial, first⟩
    · obtain ⟨earlier, j, later, rfl, before, after⟩ := ih first ends
      exact ⟨i :: earlier, j, later, rfl, before, after⟩

/-- What every input but one keeps holds at the first time of that input. -/
theorem run_until (bad : σ → Prop) (last : ι) {s : σ} (starts : bad s)
    (keeps : ∀ i s, bad s → i ≠ last → bad (step i s)) (inputs : List ι) :
    ∃ before, before ++ [last] <+: inputs ++ [last] ∧ bad (run step s before) := by
  induction inputs generalizing s with
  | nil => exact ⟨[], List.prefix_rfl, starts⟩
  | cons i inputs ih =>
    by_cases now : i = last
    · subst now
      exact ⟨[], ⟨inputs ++ [i], rfl⟩, starts⟩
    · obtain ⟨before, first, still⟩ := ih (keeps i s starts now)
      exact ⟨i :: before, List.cons_prefix_cons.mpr ⟨rfl, first⟩, still⟩

theorem guarded_of_forall {valid : ι → Prop} {s : σ} {inputs : List ι}
    (all : ∀ i ∈ inputs, valid i) : Guarded step (fun i _ => valid i) s inputs := by
  induction inputs generalizing s with
  | nil => trivial
  | cons i inputs ih =>
    exact ⟨all i List.mem_cons_self, ih fun j member => all j (List.mem_cons_of_mem i member)⟩

theorem guarded_and {guard' : ι → σ → Prop} {s : σ} {inputs : List ι}
    (one : Guarded step guard s inputs) (two : Guarded step guard' s inputs) :
    Guarded step (fun i s => guard i s ∧ guard' i s) s inputs := by
  induction inputs generalizing s with
  | nil => trivial
  | cons i inputs ih => exact ⟨⟨one.1, two.1⟩, ih one.2 two.2⟩

/-- Two guards that agree wherever an invariant holds. -/
theorem guarded_congr {guard' env : ι → σ → Prop} (inv : σ → Prop) {s : σ} {inputs : List ι}
    (initial : inv s) (allowed : Guarded step env s inputs)
    (keeps : ∀ i s, inv s → env i s → inv (step i s))
    (same : ∀ i s, inv s → env i s → (guard i s ↔ guard' i s)) :
    Guarded step guard s inputs ↔ Guarded step guard' s inputs := by
  induction inputs generalizing s with
  | nil => exact Iff.rfl
  | cons i inputs ih =>
    exact and_congr (same i s initial allowed.1) (ih (keeps i s initial allowed.1) allowed.2)

/-- A property that a step loses exactly by leaving the guard, as long as the environment keeps
    to its part: it holds after every prefix of the inputs if and only if every input meets the
    guard. -/
theorem always_iff_guarded (good inv : σ → Prop) {env : ι → σ → Prop} {s : σ} {inputs : List ι}
    (initial : inv s) (goodOfInv : ∀ s, inv s → good s) (allowed : Guarded step env s inputs)
    (keeps : ∀ i s, inv s → env i s → guard i s → inv (step i s))
    (breaks : ∀ i s, inv s → env i s → ¬ guard i s → ¬ good (step i s)) :
    (∀ prior, prior <+: inputs → good (run step s prior)) ↔ Guarded step guard s inputs := by
  induction inputs generalizing s with
  | nil =>
    refine ⟨fun _ => trivial, ?_⟩
    intro _ prior before
    rw [List.prefix_nil.mp before]
    exact goodOfInv s initial
  | cons i inputs ih =>
    constructor
    · intro always
      have met : guard i s := by
        apply Classical.byContradiction
        intro unmet
        exact breaks i s initial allowed.1 unmet (always [i] ⟨inputs, rfl⟩)
      refine ⟨met, (ih (keeps i s initial allowed.1 met) allowed.2).mp ?_⟩
      intro prior before
      exact always (i :: prior) (List.prefix_cons_inj i |>.mpr before)
    · rintro ⟨met, rest⟩ prior before
      cases prior with
      | nil => exact goodOfInv s initial
      | cons j prior =>
        obtain ⟨rfl, shorter⟩ := List.cons_prefix_cons.mp before
        exact (ih (keeps j s initial allowed.1 met) allowed.2).mpr rest prior shorter

/-- A property of histories that a further input keeps exactly under a condition: it holds of every
    prefix of the inputs if and only if every input meets the condition after those before it. -/
theorem prefixes_iff (good : List ι → Prop) (ok : List ι → ι → Prop) (initial : good [])
    (steps : ∀ prior i, good prior → (good (prior ++ [i]) ↔ ok prior i)) (inputs : List ι) :
    (∀ prior, prior <+: inputs → good prior) ↔
      ∀ prior i, prior ++ [i] <+: inputs → ok prior i := by
  constructor
  · intro always prior i early
    exact (steps prior i (always prior ((List.prefix_append _ _).trans early))).mp (always _ early)
  · intro all prior
    induction prior using List.reverseRecOn with
    | nil => exact fun _ => initial
    | append_singleton prior i ih =>
      intro early
      exact (steps prior i (ih ((List.prefix_append _ _).trans early))).mpr (all prior i early)

/-! ## The latest entries of a log -/

variable {α : Type w} {p : α → Prop}

/-- The log has `n` latest entries, and all of them satisfy `p`. -/
def LastAll (n : Nat) (p : α → Prop) (log : List α) : Prop :=
  ∃ older recent, log = older ++ recent ∧ recent.length = n ∧ ∀ a ∈ recent, p a

theorem LastAll.zero (p : α → Prop) (log : List α) : LastAll 0 p log := by
  refine ⟨log, [], log.append_nil.symm, rfl, ?_⟩
  intro a member
  cases member

theorem LastAll.concat {n : Nat} {log : List α} {a : α} (last : LastAll n p log) (next : p a) :
    LastAll (n + 1) p (log ++ [a]) := by
  obtain ⟨older, recent, rfl, length, all⟩ := last
  refine ⟨older, recent ++ [a], List.append_assoc _ _ _, ?_, ?_⟩
  · rw [List.length_append, length, List.length_singleton]
  · intro e member
    rcases List.mem_append.mp member with old | new
    · exact all e old
    · rw [List.mem_singleton.mp new]
      exact next

theorem LastAll.mono {m n : Nat} {log : List α} (last : LastAll n p log) (fewer : m ≤ n) :
    LastAll m p log := by
  obtain ⟨older, recent, rfl, length, all⟩ := last
  refine ⟨older ++ recent.take (n - m), recent.drop (n - m), ?_, ?_, ?_⟩
  · rw [List.append_assoc, List.take_append_drop]
  · rw [List.length_drop, length]
    omega
  · intro e member
    exact all e (List.mem_of_mem_drop member)

end Runs
