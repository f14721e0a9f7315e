import Mathlib.Data.List.Forall2

/-!
# Programs that print, run twice

A program changes a state and prints lines. Two programs are twins under a relation of their states
if from related states they print the same and leave related states. What a system prints over a
history of events then depends only on what the relation lets through.
-/

namespace TwoRuns

/-- What a run of a program printed, returned and left. -/
structure Ran (Line σ α : Type) where
  lines : List Line
  value : α
  state : σ

/-- A program that prints lines. -/
def Talk (Line σ α : Type) : Type := σ → Ran Line σ α

variable {Line σ τ α β γ δ : Type}

instance : Monad (Talk Line σ) where
  pure a := fun s => ⟨[], a, s⟩
  bind x f := fun s =>
    let first := x s
    let second := f first.value first.state
    ⟨first.lines ++ second.lines, second.value, second.state⟩

/-- Prints lines. -/
def say (lines : List Line) : Talk Line σ Unit :=
  fun s => ⟨lines, (), s⟩

/-- Changes the state and prints nothing. -/
def act (f : σ → α × σ) : Talk Line σ α :=
  fun s => ⟨[], (f s).1, (f s).2⟩

/-- A program on a part of the state. -/
def Talk.on (part : σ → τ) (put : τ → σ → σ) (x : Talk Line τ α) : Talk Line σ α :=
  fun s => ⟨(x (part s)).lines, (x (part s)).value, put (x (part s)).state s⟩

/-- What a program returns and leaves, whatever it prints. -/
def Talk.result (x : Talk Line σ α) (s : σ) : α × σ :=
  ((x s).value, (x s).state)

@[simp] theorem result_pure (a : α) (s : σ) : (pure a : Talk Line σ α).result s = (a, s) :=
  rfl

@[simp] theorem result_bind (x : Talk Line σ α) (f : α → Talk Line σ β) (s : σ) :
    (x >>= f).result s = (f (x.result s).1).result (x.result s).2 :=
  rfl

theorem result_bind_of {x : Talk Line σ α} {s t : σ} {a : α} (first : x.result s = (a, t))
    (f : α → Talk Line σ β) : (x >>= f).result s = (f a).result t := by
  rw [result_bind, first]

@[simp] theorem result_map (f : α → β) (x : Talk Line σ α) (s : σ) :
    (f <$> x).result s = (f (x.result s).1, (x.result s).2) :=
  rfl

@[simp] theorem result_say (lines : List Line) (s : σ) :
    (say lines : Talk Line σ Unit).result s = ((), s) :=
  rfl

@[simp] theorem result_act (f : σ → α × σ) (s : σ) : (act f : Talk Line σ α).result s = f s :=
  rfl

@[simp] theorem result_ite (c : Prop) [Decidable c] (x y : Talk Line σ α) (s : σ) :
    (if c then x else y).result s = if c then x.result s else y.result s :=
  apply_ite (fun z : Talk Line σ α => z.result s) c x y

@[simp] theorem result_on (part : σ → τ) (put : τ → σ → σ) (x : Talk Line τ α) (s : σ) :
    (x.on part put).result s = ((x.result (part s)).1, put (x.result (part s)).2 s) :=
  rfl

/-! ## Twins -/

/-- From related states the programs print the same lines, return related values and leave related
    states. -/
def Twins (S : σ → τ → Prop) (R : α → β → Prop) (x : Talk Line σ α) (y : Talk Line τ β) : Prop :=
  ∀ s t, S s t →
    (x s).lines = (y t).lines ∧ R (x s).value (y t).value ∧ S (x s).state (y t).state

section
variable {S : σ → τ → Prop} {R : α → β → Prop}

theorem Twins.mono {R' : α → β → Prop} {x : Talk Line σ α} {y : Talk Line τ β}
    (twins : Twins S R x y) (weaker : ∀ a b, R a b → R' a b) : Twins S R' x y := by
  intro s t related
  obtain ⟨lines, values, states⟩ := twins s t related
  exact ⟨lines, weaker _ _ values, states⟩

theorem Twins.bind {R' : γ → δ → Prop} {x : Talk Line σ α} {y : Talk Line τ β}
    {f : α → Talk Line σ γ} {g : β → Talk Line τ δ} (first : Twins S R x y)
    (second : ∀ a b, R a b → Twins S R' (f a) (g b)) : Twins S R' (x >>= f) (y >>= g) := by
  intro s t related
  obtain ⟨lines, values, states⟩ := first s t related
  obtain ⟨lines', values', states'⟩ := second _ _ values _ _ states
  refine ⟨?_, values', states'⟩
  change (x s).lines ++ (f (x s).value (x s).state).lines =
    (y t).lines ++ (g (y t).value (y t).state).lines
  rw [lines, lines']

/-- Programs on a part are twins if that part is related on its own. -/
theorem Twins.on {S' : γ → δ → Prop} {part : σ → γ} {put : γ → σ → σ} {part' : τ → δ}
    {put' : δ → τ → τ} {x : Talk Line γ α} {y : Talk Line δ β} (twins : Twins S' R x y)
    (inside : ∀ s t, S s t → S' (part s) (part' t))
    (back : ∀ s t c d, S s t → S' c d → S (put c s) (put' d t)) :
    Twins S R (x.on part put) (y.on part' put') := by
  intro s t states
  obtain ⟨lines, values, parts⟩ := twins _ _ (inside s t states)
  exact ⟨lines, values, back s t _ _ states parts⟩

end

/-! ## Histories -/

/-- What a system prints and returns for each event of a history. -/
def observe (step : γ → Talk Line σ α) : σ → List γ → List (List Line × α)
  | _, [] => []
  | s, e :: history =>
    ((step e s).lines, (step e s).value) :: observe step (step e s).state history

end TwoRuns
