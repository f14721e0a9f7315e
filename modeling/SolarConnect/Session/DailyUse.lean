import SolarConnect.Misc.Spans
import SolarConnect.Session.Usage
import Mathlib.Algebra.BigOperators.Fin

/-!
# Daily use

An observer's ledger of the time sessions are open, kept beside a run: what the quota is meant
to bound. The timer's zero lies `wall` microseconds after the epoch, and both clocks advance
together. A second counts for a MAC and a UTC day when a session of that MAC is active, admitted
and not over during it. The observer sees each table an operation leaves on its way.
-/

namespace SolarConnect.Session

open Slots Spans

/-- A day of the timer. -/
def dayUs : Nat := 86400 * secondUs

/-- The day at a moment of the timer. -/
def dayAt (wall now : Nat) : Nat := (wall + now) / dayUs

/-- The part of the span from `a` to `b` that lies in a day. -/
def partOfDay (wall day a b : Nat) : Nat :=
  overlap (day * dayUs) ((day + 1) * dayUs) (wall + a) (wall + b)

/-- The time of a day during which the session is open between `a` and `b`. -/
def openTime (wall day a b : Nat) (session : ClientSession) : Nat :=
  if session.active && session.admitted then partOfDay wall day a (min b session.endTime) else 0

/-- The microseconds of each day that the session in a slot has been open, and the whole
    seconds of each day of a MAC's earlier sessions. -/
structure Ledger where
  running : Fin maxClients → Nat → Nat
  closed : Mac → Nat → Nat

/-- Nothing has been open. -/
def Ledger.empty : Ledger := ⟨fun _ _ => 0, fun _ _ => 0⟩

/-- Time passes from `a` to `b`. -/
def Ledger.elapse (wall a b : Nat) (sessions : SessionTable) (ledger : Ledger) : Ledger :=
  { ledger with
    running := fun i day => ledger.running i day + openTime wall day a b (sessions i) }

/-- Sessions end, restart and begin. -/
def Ledger.settle (before after : SessionTable) (ledger : Ledger) : Ledger where
  running i day :=
    if (before i).active = true ∧ ¬ EndedOrRestarted (before i) (after i) then
      ledger.running i day
    else 0
  closed mac day :=
    ledger.closed mac day + ∑ i,
      if (before i).active = true ∧ (before i).mac = mac ∧ EndedOrRestarted (before i) (after i)
      then ledger.running i day / secondUs else 0

/-- What the observer knows of a table: since when it has been there, and the ledger then. -/
structure Watch where
  clock : Nat
  sessions : SessionTable
  ledger : Ledger

/-- Another table takes the place of the one watched. -/
def Watch.next (wall : Nat) (w : Watch) (stage : Nat × SessionTable) : Watch where
  clock := stage.1
  sessions := stage.2
  ledger := (w.ledger.elapse wall w.clock stage.1 w.sessions).settle w.sessions stage.2

/-- The last reading of the timer before a slot is written: without an address there is a
    refresh first. -/
def writtenAt (m : Clocks) (req : StartRequest) : Nat := if req.ip = 0 then m.opened else m.now

/-- The tables an operation leaves, and what the timer reads then. A start leaves three: after its
    first refresh, with the slot written, and after its last one. -/
def stages (p : Platform) (m : Clocks) (op : Operation) (s : Server) :
    List (Nat × SessionTable) :=
  match (requestOf p m op s).filter fun req => Binds req with
  | some req =>
    let t := calledServer p m op s
    [(writtenAt m req, (openedServer p m req t).sessions),
      (writtenAt m req, (writtenServer p m req t).sessions),
      (m.closed, (step p m op s).sessions)]
  | none => [((lastRefresh p m op s).now, (step p m op s).sessions)]

/-- The server, the time of its last table, and the ledger. -/
structure Observed where
  server : Server
  clock : Nat
  ledger : Ledger

/-- A server at boot. -/
def atBoot (boot : Nat) : Observed := ⟨initSessions boot, boot, .empty⟩

/-- An operation under observation. -/
def observe (p : Platform) (wall : Nat) (input : Input) (o : Observed) : Observed :=
  let w := (stages p input.1 input.2 o.server).foldl (Watch.next wall)
    ⟨o.clock, o.server.sessions, o.ledger⟩
  { server := stepInput p input o.server, clock := w.clock, ledger := w.ledger }

/-- A run under observation, from boot at time `boot`. -/
def observed (p : Platform) (wall boot : Nat) (inputs : List Input) : Observed :=
  Runs.run (observe p wall) (atBoot boot) inputs

/-- The seconds of the day, up to the time `later`, that the sessions of the MAC are open, each
    in whole seconds. -/
def dailyUse (wall later : Nat) (o : Observed) (mac : Mac) (day : Nat) : Nat :=
  let ledger := o.ledger.elapse wall o.clock later o.server.sessions
  ledger.closed mac day + ∑ i,
    if (o.server.sessions i).active = true ∧ (o.server.sessions i).mac = mac then
      ledger.running i day / secondUs
    else 0

/-- The system clock is set, and goes with the timer: `start_or_resume_session` reads it for the day
    after the timer, and its callers have read it before. -/
structure ClockValid (wall : Nat) (m : Clocks) : Prop where
  clockSet : hasValidSystemTime m.asked = true
  capped : m.asked ≤ m.capped
  before : m.capped ≤ (wall + m.now) / secondUs
  since : (wall + m.now) / secondUs ≤ m.time
  upTo : m.time ≤ (wall + m.closed) / secondUs

/-- Both clocks go forward together, and the operation is an entry point:
    `start_or_resume_session` is called by `handle_client_connect` and `/confirm`. -/
structure InOrder (wall : Nat) (input : Input) (o : Observed) : Prop where
  forward : o.clock ≤ input.1.now
  asked : (wall + o.clock) / secondUs ≤ input.1.asked
  valid : ClockValid wall input.1
  entry : ∀ req, input.2 ≠ .startOrResume req

/-! ## Days -/

theorem dayAt_le (wall : Nat) {a b : Nat} (order : a ≤ b) : dayAt wall a ≤ dayAt wall b :=
  Nat.div_le_div_right (Nat.add_le_add_left order wall)

theorem dayAt_bounds (wall now : Nat) :
    dayAt wall now * dayUs ≤ wall + now ∧ wall + now < (dayAt wall now + 1) * dayUs := by
  have positive : 0 < dayUs := by decide
  refine ⟨Nat.div_mul_le_self _ _, ?_⟩
  exact Nat.lt_mul_of_div_lt (Nat.lt_succ_self _) positive

/-- Both clocks tell the same day. -/
theorem dayAt_together {wall now time : Nat} (together : time = (wall + now) / secondUs) :
    time / 86400 = dayAt wall now := by
  rw [together, dayAt, dayUs, Nat.div_div_eq_div_mul, Nat.mul_comm]

/-- A system clock that has been set stays set. -/
theorem hasValidSystemTime_mono {time later : Nat} (clockSet : hasValidSystemTime time = true)
    (order : time ≤ later) : hasValidSystemTime later = true := by
  simp only [hasValidSystemTime, decide_eq_true_eq] at clockSet ⊢
  omega

theorem ClockValid.time_set {wall : Nat} {m : Clocks} (valid : ClockValid wall m) :
    hasValidSystemTime m.time = true :=
  hasValidSystemTime_mono valid.clockSet (valid.capped.trans (valid.before.trans valid.since))

/-- The time a session is open adds up over adjoining spans. -/
theorem openTime_add (wall day : Nat) {a b c : Nat} (first : a ≤ b) (second : b ≤ c)
    (session : ClientSession) :
    openTime wall day a b session + openTime wall day b c session =
      openTime wall day a c session := by
  unfold openTime partOfDay
  split
  · by_cases finished : session.endTime ≤ b
    · rw [Nat.min_eq_right (finished.trans second), overlap_empty (a := wall + b) (by omega)]
      rw [Nat.min_eq_right finished, Nat.add_zero]
    · rw [Nat.min_eq_left (by omega)]
      exact overlap_append (by omega) (by omega)
  · rfl

theorem elapse_elapse (wall : Nat) {a b c : Nat} (first : a ≤ b) (second : b ≤ c)
    (sessions : SessionTable) (ledger : Ledger) :
    (ledger.elapse wall a b sessions).elapse wall b c sessions =
      ledger.elapse wall a c sessions := by
  unfold Ledger.elapse
  dsimp only
  congr 1
  funext i day
  rw [Nat.add_assoc, openTime_add wall day first second]

/-! ## A clock that is set -/

/-- The timer's zero when `firstMinute` begins. -/
def bootWall : Nat := 1699999999 * secondUs

/-- The clocks of `secondsIn` are read at one moment of a wall clock that is set. -/
theorem secondsIn_valid (k : Nat) : ClockValid bootWall (secondsIn k) := by
  have wallSeconds : (bootWall + (secondsIn k).now) / secondUs = 1700000000 + k := by
    simp only [bootWall, secondsIn, Clocks.still, secondUs]
    omega
  refine ⟨?_, Nat.le_refl _, wallSeconds.ge, wallSeconds.le, wallSeconds.ge⟩
  exact decide_eq_true (Nat.le_add_right 1700000000 k)

end SolarConnect.Session
