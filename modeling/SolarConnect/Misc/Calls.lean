import Mathlib.Logic.Function.Basic

/-!
# Programs that make calls

A program runs up to its next call and goes on with the reply, whatever that is. Its calls with
their replies are a log, and a rule for the next call may look at the log. Threads take turns at
calls in front of one world; each of them makes the calls of its own program, so what the program
keeps to alone it keeps to in every interleaving.
-/

namespace Calls

/-- A program that returns an `α`. -/
inductive Prog (Call : Type u) (Reply : Call → Type v) (α : Type w)
  | pure (a : α)
  | call (c : Call) (next : Reply c → Prog Call Reply α)

/-- A call with its reply. -/
structure Entry (Call : Type u) (Reply : Call → Type v) where
  call : Call
  reply : Reply call

variable {Call : Type u} {Reply : Call → Type v}

namespace Prog

/-- One program after the other. -/
def bind : Prog Call Reply α → (α → Prog Call Reply β) → Prog Call Reply β
  | .pure a, f => f a
  | .call c next, f => .call c fun r => (next r).bind f

instance : Monad (Prog Call Reply) where
  pure := .pure
  bind := .bind

/-- A single call. -/
def perform (c : Call) : Prog Call Reply (Reply c) :=
  .call c .pure

/-- A program for each of the items, which hands its value on to the next. -/
def forEach (body : ι → α → Prog Call Reply α) : List ι → α → Prog Call Reply α
  | [], a => .pure a
  | i :: items, a => (body i a).bind (forEach body items)

end Prog

/-! ## Rules for calls -/

/-- Behind the log, the program makes only calls that are allowed there, and returns only values
    that meet `post`. -/
def Meets (allowed : List (Entry Call Reply) → Call → Prop)
    (post : List (Entry Call Reply) → α → Prop) :
    Prog Call Reply α → List (Entry Call Reply) → Prop
  | .pure a, log => post log a
  | .call c next, log =>
    allowed log c ∧ ∀ r, Meets allowed post (next r) (log ++ [⟨c, r⟩])

section
variable {allowed : List (Entry Call Reply) → Call → Prop}
  {post post' : List (Entry Call Reply) → α → Prop} {log : List (Entry Call Reply)}

theorem Meets.mono {p : Prog Call Reply α} (meets : Meets allowed post p log)
    (weaker : ∀ log a, post log a → post' log a) : Meets allowed post' p log := by
  induction p generalizing log with
  | pure a => exact weaker log a meets
  | call c next ih => exact ⟨meets.1, fun r => ih r (meets.2 r)⟩

theorem meets_bind {p : Prog Call Reply α} {f : α → Prog Call Reply β}
    {post : List (Entry Call Reply) → β → Prop} :
    Meets allowed post (p >>= f) log ↔
      Meets allowed (fun log a => Meets allowed post (f a) log) p log := by
  induction p generalizing log with
  | pure a => rfl
  | call c next ih => exact and_congr_right fun _ => forall_congr' fun r => ih r

theorem meets_perform_bind {c : Call} {f : Reply c → Prog Call Reply α} :
    Meets allowed post (Prog.perform c >>= f) log ↔
      allowed log c ∧ ∀ r, Meets allowed post (f r) (log ++ [⟨c, r⟩]) :=
  Iff.rfl

/-- The rule for one program after the other. -/
theorem Meets.bind {p : Prog Call Reply β} {f : β → Prog Call Reply α}
    {between : List (Entry Call Reply) → β → Prop} (first : Meets allowed between p log)
    (second : ∀ log b, between log b → Meets allowed post (f b) log) :
    Meets allowed post (p >>= f) log :=
  meets_bind.mpr (first.mono second)

/-- The rule for a loop: each turn keeps the invariant of the items that are done. -/
theorem Meets.forEach {body : ι → α → Prog Call Reply α}
    (inv : List ι → List (Entry Call Reply) → α → Prop) {items : List ι} {a : α}
    (initial : inv [] log a)
    (turn : ∀ done i rest, items = done ++ i :: rest → ∀ log a, inv done log a →
      Meets allowed (inv (done ++ [i])) (body i a) log) :
    Meets allowed (inv items) (Prog.forEach body items a) log := by
  suffices loop : ∀ rest done, items = done ++ rest → ∀ log a, inv done log a →
      Meets allowed (inv items) (Prog.forEach body rest a) log from
    loop items [] rfl log a initial
  intro rest
  induction rest with
  | nil =>
    intro done all log a holds
    rw [List.append_nil] at all
    exact all ▸ holds
  | cons i rest ih =>
    intro done all log a holds
    refine Meets.bind (turn done i rest all log a holds) fun log a next => ?_
    exact ih (done ++ [i]) (by rw [all, List.append_assoc]; rfl) log a next

end

/-! ## Programs that make calls of one kind -/

/-- Every call of the program is of that kind. -/
def Only (kind : Call → Prop) : Prog Call Reply α → Prop
  | .pure _ => True
  | .call c next => kind c ∧ ∀ r, Only kind (next r)

section
variable {kind : Call → Prop} {p : Prog Call Reply α}

theorem Only.mono {other : Call → Prop} (only : Only kind p) (weaker : ∀ c, kind c → other c) :
    Only other p := by
  induction p with
  | pure a => trivial
  | call c next ih => exact ⟨weaker c only.1, fun r => ih r (only.2 r)⟩

theorem only_pure (a : α) : Only kind (pure a : Prog Call Reply α) :=
  trivial

theorem only_perform {c : Call} (here : kind c) :
    Only kind (Prog.perform c : Prog Call Reply (Reply c)) :=
  ⟨here, fun _ => trivial⟩

theorem Only.bind {f : α → Prog Call Reply β} (first : Only kind p)
    (second : ∀ a, Only kind (f a)) : Only kind (p >>= f) := by
  induction p with
  | pure a => exact second a
  | call c next ih => exact ⟨first.1, fun r => ih r (first.2 r)⟩

theorem Only.forEach {body : ι → α → Prog Call Reply α} {items : List ι}
    (turn : ∀ i ∈ items, ∀ a, Only kind (body i a)) (a : α) :
    Only kind (Prog.forEach body items a) := by
  induction items generalizing a with
  | nil => trivial
  | cons i items ih =>
    obtain ⟨here, rest⟩ := List.forall_mem_cons.mp turn
    exact (here a).bind (ih rest)

/-- Such a program adds entries of the kind. -/
theorem Only.meets {allowed : List (Entry Call Reply) → Call → Prop} (only : Only kind p)
    (permits : ∀ log c, kind c → allowed log c) (log : List (Entry Call Reply)) :
    Meets allowed (fun log' _ => ∃ more, log' = log ++ more ∧ ∀ e ∈ more, kind e.call) p log := by
  induction p generalizing log with
  | pure a => exact ⟨[], (List.append_nil log).symm, List.forall_mem_nil _⟩
  | call c next ih =>
    refine ⟨permits log c only.1, fun r => ?_⟩
    refine (ih r (only.2 r) (log ++ [⟨c, r⟩])).mono fun log' a grown => ?_
    obtain ⟨more, rfl, kinds⟩ := grown
    exact ⟨⟨c, r⟩ :: more, List.append_assoc _ _ _, List.forall_mem_cons.mpr ⟨only.1, kinds⟩⟩

end

theorem Meets.and {allowed : List (Entry Call Reply) → Call → Prop}
    {post post' : List (Entry Call Reply) → α → Prop} {p : Prog Call Reply α}
    {log : List (Entry Call Reply)} (meets : Meets allowed post p log)
    (other : Meets allowed post' p log) :
    Meets allowed (fun log a => post log a ∧ post' log a) p log := by
  induction p generalizing log with
  | pure a => exact ⟨meets, other⟩
  | call c next ih => exact ⟨meets.1, fun r => ih r (meets.2 r) (other.2 r)⟩

/-! ## Runs of a program -/

/-- What is left of a program after the calls of a log. -/
inductive Went : Prog Call Reply α → List (Entry Call Reply) → Prog Call Reply α → Prop
  | start (p : Prog Call Reply α) : Went p [] p
  | call {c : Call} {next : Reply c → Prog Call Reply α} {r : Reply c}
    {log : List (Entry Call Reply)} {p : Prog Call Reply α} (rest : Went (next r) log p) :
    Went (.call c next) (⟨c, r⟩ :: log) p

/-- Whatever is allowed, a program makes a run of its own. -/
theorem meets_went {allowed : List (Entry Call Reply) → Call → Prop} (p : Prog Call Reply α)
    (permits : ∀ log c, allowed log c) (log : List (Entry Call Reply)) :
    Meets allowed (fun log' a => ∃ more, log' = log ++ more ∧ Went p more (.pure a)) p log := by
  induction p generalizing log with
  | pure a => exact ⟨[], (List.append_nil log).symm, .start _⟩
  | call c next ih =>
    refine ⟨permits log c, fun r => (ih r (log ++ [⟨c, r⟩])).mono fun log' a went => ?_⟩
    obtain ⟨more, rfl, went⟩ := went
    exact ⟨⟨c, r⟩ :: more, List.append_assoc _ _ _, .call went⟩

/-- The rules of a program hold along its runs. -/
theorem Meets.went {allowed : List (Entry Call Reply) → Call → Prop}
    {post : List (Entry Call Reply) → α → Prop} {p q : Prog Call Reply α}
    {log more : List (Entry Call Reply)} (meets : Meets allowed post p log)
    (went : Went p more q) : Meets allowed post q (log ++ more) := by
  induction went generalizing log with
  | start p =>
    rw [List.append_nil]
    exact meets
  | @call c next r more q rest ih =>
    have later := ih (meets.2 r)
    rw [List.append_assoc] at later
    exact later

/-! ## Interleavings -/

/-- Threads in front of one world. -/
structure System (Thread : Type w) (Call : Type u) (Reply : Call → Type v) (α : Type x)
    (σ : Type y) where
  threads : Thread → Prog Call Reply α
  world : σ

/-- What happens: a thread makes a call, or the world changes by itself. -/
inductive Event (Thread : Type w) (Call : Type u) (Reply : Call → Type v) (Change : Type x)
  | called (t : Thread) (entry : Entry Call Reply)
  | changed (change : Change)

section
variable {Thread : Type w} [DecidableEq Thread] {α : Type x} {σ : Type y} {Change : Type z}

/-- What the world does at a call, and how it changes. -/
structure World (Call : Type u) (Reply : Call → Type v) (σ : Type y) (Change : Type z) where
  serves : (c : Call) → σ → Reply c → σ → Prop
  change : Change → σ → σ

/-- One event. -/
inductive Step (w : World Call Reply σ Change) :
    System Thread Call Reply α σ → Event Thread Call Reply Change →
      System Thread Call Reply α σ → Prop
  | called {s : System Thread Call Reply α σ} {t : Thread} {c : Call}
    {next : Reply c → Prog Call Reply α} {r : Reply c} {world : σ}
    (waits : s.threads t = .call c next) (served : w.serves c s.world r world) :
    Step w s (.called t ⟨c, r⟩) ⟨Function.update s.threads t (next r), world⟩
  | changed {s : System Thread Call Reply α σ} (change : Change) :
    Step w s (.changed change) ⟨s.threads, w.change change s.world⟩

/-- A history of events. -/
inductive Run (w : World Call Reply σ Change) :
    System Thread Call Reply α σ → List (Event Thread Call Reply Change) →
      System Thread Call Reply α σ → Prop
  | start (s : System Thread Call Reply α σ) : Run w s [] s
  | step {s s' s'' : System Thread Call Reply α σ} {e : Event Thread Call Reply Change}
    {events : List (Event Thread Call Reply Change)} (first : Step w s e s')
    (rest : Run w s' events s'') : Run w s (e :: events) s''

/-- The calls of a thread. -/
def own (t : Thread) (events : List (Event Thread Call Reply Change)) :
    List (Entry Call Reply) :=
  events.filterMap fun
    | .called t' entry => if t' = t then some entry else none
    | .changed _ => none

theorem own_append (t : Thread) (a b : List (Event Thread Call Reply Change)) :
    own t (a ++ b) = own t a ++ own t b :=
  List.filterMap_append

theorem own_eq_append {t : Thread} {events : List (Event Thread Call Reply Change)}
    {x y : List (Entry Call Reply)} (split : own t events = x ++ y) :
    ∃ a b, events = a ++ b ∧ own t a = x ∧ own t b = y := by
  obtain ⟨a, b, rfl, front, back⟩ := List.filterMap_eq_append_iff.mp split
  exact ⟨a, b, rfl, front, back⟩

/-- The first call of a thread in a history. -/
theorem own_eq_cons {t : Thread} {events : List (Event Thread Call Reply Change)}
    {entry : Entry Call Reply} {y : List (Entry Call Reply)} (first : own t events = entry :: y) :
    ∃ a b, events = a ++ .called t entry :: b ∧ own t a = [] ∧ own t b = y := by
  obtain ⟨a, e, b, rfl, none, here, back⟩ := List.filterMap_eq_cons_iff.mp first
  cases e with
  | called t' e =>
    dsimp only at here
    split at here
    · rename_i same
      subst same
      cases here
      exact ⟨a, b, rfl, List.filterMap_eq_nil_iff.mpr none, back⟩
    · cases here
  | changed change => cases here

theorem own_cons (t : Thread) (entry : Entry Call Reply)
    (events : List (Event Thread Call Reply Change)) :
    own t (.called t entry :: events) = entry :: own t events := by
  simp [own]

variable {w : World Call Reply σ Change} {s s' : System Thread Call Reply α σ}
  {events : List (Event Thread Call Reply Change)}

theorem Run.append_iff {later : List (Event Thread Call Reply Change)} :
    Run w s (events ++ later) s' ↔ ∃ m, Run w s events m ∧ Run w m later s' := by
  induction events generalizing s with
  | nil =>
    refine ⟨fun run => ⟨s, .start s, run⟩, ?_⟩
    rintro ⟨m, first, rest⟩
    cases first
    exact rest
  | cons e events ih =>
    constructor
    · intro run
      cases run with
      | step first rest =>
        obtain ⟨m, front, back⟩ := ih.mp rest
        exact ⟨m, .step first front, back⟩
    · rintro ⟨m, front, back⟩
      cases front with
      | step first rest => exact .step first (ih.mpr ⟨m, rest, back⟩)

/-- Every thread makes the calls of its own program. -/
theorem Run.went (run : Run w s events s') (t : Thread) :
    Went (s.threads t) (own t events) (s'.threads t) := by
  induction run with
  | start s => exact .start _
  | @step s m s' e events first rest ih =>
    cases first with
    | @called t' c next r world waits served =>
      dsimp only at ih
      by_cases same : t' = t
      · subst same
        rw [Function.update_self] at ih
        simp only [own, List.filterMap_cons, if_true]
        rw [waits]
        exact .call ih
      · rw [Function.update_of_ne (Ne.symm same)] at ih
        simpa only [own, List.filterMap_cons, if_neg same] using ih
    | changed change => exact ih

/-- What a thread's program allows holds of its calls in every interleaving. -/
theorem Run.allowed {allowed : List (Entry Call Reply) → Call → Prop}
    {post : List (Entry Call Reply) → α → Prop} {t : Thread}
    (meets : Meets allowed post (s.threads t) [])
    {before after : List (Event Thread Call Reply Change)} {entry : Entry Call Reply}
    (run : Run w s (before ++ .called t entry :: after) s') :
    allowed (own t before) entry.call := by
  obtain ⟨m, front, back⟩ := Run.append_iff.mp run
  have rest := meets.went (front.went t)
  cases back with
  | step first later =>
    cases first with
    | called waits served =>
      rw [waits] at rest
      exact rest.1

/-- An invariant of the world is kept by a history whose events keep it. -/
theorem Run.world_invariant (inv : σ → Prop) (initial : inv s.world)
    (calls : ∀ t entry, .called t entry ∈ events → ∀ a b,
      w.serves entry.call a entry.reply b → inv a → inv b)
    (changes : ∀ change, .changed change ∈ events → ∀ a, inv a → inv (w.change change a))
    (run : Run w s events s') : inv s'.world := by
  induction run with
  | start s => exact initial
  | @step s m s' e events first rest ih =>
    refine ih ?_ (fun t entry later => calls t entry (List.mem_cons_of_mem _ later))
      fun change later => changes change (List.mem_cons_of_mem _ later)
    cases first with
    | called waits served => exact calls _ _ List.mem_cons_self _ _ served initial
    | changed change => exact changes change List.mem_cons_self _ initial

end

end Calls
