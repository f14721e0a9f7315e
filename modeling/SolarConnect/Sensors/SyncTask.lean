import SolarConnect.Sensors.PortTasks

/-!
# The sync task's calls

What `port_sensors_sync_task` does, call by call, is what its polling loop does on polls: the
clocks it asks and the upserts it attempts, with their bodies and results, are those of a run of
the loop, whatever the bus and the other tasks do in between. A poll has the statuses that the
iteration has read and the presence flags that it has loaded.
-/

namespace SolarConnect.PortSync.Ina219

open Bytes Calls

/-- What is seen of a task: the milliseconds and the seconds it was told, and its upserts. -/
inductive Seen
  | clock (nowMs : Int)
  | day (time : Nat)
  | posted (body : List Byte) (ok : Bool)

/-- Whether an upsert returned `ESP_OK`. -/
def isOk : Except Err Unit → Bool
  | .ok _ => true
  | .error _ => false

def Entry.seen? : Entry Call Reply → Option Seen
  | ⟨.timer, nowMs⟩ => some (.clock nowMs)
  | ⟨.time, now⟩ => some (.day now)
  | ⟨.upsert _ body, err⟩ => some (.posted body (isOk err))
  | _ => none

def seen (log : Log) : List Seen :=
  log.filterMap Entry.seen?

/-- The upsert of a port in a poll. -/
def upsertOf (nowMs : Int) (p : PortSensorId → PortPoll) (s : SyncState) (i : PortSensorId) :
    Option Seen :=
  (pollPort nowMs i (p i) (s.port i)).2.map fun row => .posted (Body row) (p i).upsertOk

/-- What is seen of the polling loop. -/
def shows : SyncState → List Poll → List Seen
  | _, [] => []
  | s, q :: polls =>
    [.clock q.nowMs, .day q.time] ++
      portSensorIds.filterMap (upsertOf q.nowMs q.port (updateDailyAnchorAndMaybeReset q.time s)) ++
      shows (poll q s) polls

/-- A presence flag that is loaded. -/
def Entry.flag? : Entry Call Reply → Option (PortSensorId × Bool)
  | ⟨.loadPresent i, present⟩ => some (i, present)
  | _ => none

def flags (log : Log) : List (PortSensorId × Bool) :=
  log.filterMap Entry.flag?

/-- The calls of an iteration make up the poll: it reads the sensors, asks the clocks, and then
    loads the flag of each port once. -/
def MakesUp (uninitialised : PortSensorId → Reading) (log : Log) (q : Poll) : Prop :=
  ∃ (reading rest : Log) (all : ReadAll),
    log = reading ++ ⟨.timer, q.nowMs⟩ :: ⟨.time, q.time⟩ :: rest ∧
      Went (portSensorsReadAll uninitialised) reading (pure all) ∧
      (∀ i, (q.port i).status = (all.readings i).status) ∧
      flags rest = portSensorIds.map fun i => (i, (q.port i).present)

theorem seen_append (a b : Log) : seen (a ++ b) = seen a ++ seen b :=
  List.filterMap_append

theorem flags_append (a b : Log) : flags (a ++ b) = flags a ++ flags b :=
  List.filterMap_append

theorem seen_quiet {more : Log} (quiet : ∀ e ∈ more, Quiet e.call) : seen more = [] := by
  refine List.filterMap_eq_nil_iff.mpr fun e member => ?_
  obtain ⟨c, r⟩ := e
  have unseen := quiet _ member
  cases c with
  | timer => exact absurd trivial unseen.2
  | time => exact absurd trivial unseen.2
  | upsert path body => exact absurd trivial unseen.1
  | loadInstalled | storeInstalled | paramConfig | driverInstall | probe | transfer
  | loadInitialized | storeInitialized | loadPresent | storePresent | loadDailyInUseSeconds
  | storeDailyInUseSeconds => rfl

/-- Anything may be called. -/
def Anything (_ : Log) (_ : Call) : Prop :=
  True

theorem anything (log : Log) (c : Call) : Anything log c :=
  trivial

/-- The effect of a port's poll on the statics. -/
def setPort (s : SyncState) (i : PortSensorId) (port : PortState) : SyncState :=
  { s with port := Function.update s.port i port }

/-- A port's part of the task is its part of a poll. -/
structure PortPolled (nowMs : Int) (readings : PortSensorId → Reading) (i : PortSensorId)
    (s : SyncState) (more : Log) (s' : SyncState) (p : PortPoll) : Prop where
  status : p.status = (readings i).status
  flag : flags more = [(i, p.present)]
  state : s' = setPort s i (pollPort nowMs i p (s.port i)).1
  seen : seen more =
    ((pollPort nowMs i p (s.port i)).2.map fun row => Seen.posted (Body row) p.upsertOk).toList

/-! What `pollPort` does to a port that is not read, to one that is to be pushed, and to one that is
not. -/

section
variable {nowMs : Int} {id : PortSensorId} {p : PortPoll} {s : PortState}

theorem pollPort_unread (unread : p.status ≠ .available ∧ p.status ≠ .inUse) :
    pollPort nowMs id p s = (s, none) := by
  rw [pollPort, if_pos unread, ite_self]

theorem pollPort_due (present : p.present = true)
    (read : ¬ (p.status ≠ .available ∧ p.status ≠ .inUse))
    (due : pushDue nowMs p.status (accumulate nowMs p.status s) = true) :
    pollPort nowMs id p s =
      (if p.upsertOk then pushed nowMs p.status (accumulate nowMs p.status s)
        else accumulate nowMs p.status s,
      some ⟨portSensorsPortKey id, portSensorsStatusString p.status,
        (accumulate nowMs p.status s).dailyInUseSeconds⟩) := by
  simp only [pollPort, present, Bool.not_true, Bool.false_eq_true, if_false, if_neg read, due,
    if_true]
  split <;> rfl

theorem pollPort_idle (present : p.present = true)
    (read : ¬ (p.status ≠ .available ∧ p.status ≠ .inUse))
    (idle : pushDue nowMs p.status (accumulate nowMs p.status s) ≠ true) :
    pollPort nowMs id p s = (accumulate nowMs p.status s, none) := by
  simp only [pollPort, present, Bool.not_true, Bool.false_eq_true, if_false, if_neg read, idle]

end

/-- One port of the task does what one port of a poll does. -/
theorem meets_syncPort_poll {nowMs : Int} {readings : PortSensorId → Reading} {i : PortSensorId}
    (own : (readings i).id = i) (s : SyncState) (log : Log) :
    Meets Anything (fun log' s' => ∃ more p, log' = log ++ more ∧
        PortPolled nowMs readings i s more s' p)
      (syncPort nowMs readings i s) log := by
  have unchanged : setPort s i (s.port i) = s := by
    rw [setPort, Function.update_eq_self]
  refine meets_perform_bind.mpr ⟨trivial, fun present => ?_⟩
  cases present with
  | false =>
    exact ⟨_, ⟨false, (readings i).status, true⟩, rfl, rfl, rfl, unchanged.symm, rfl⟩
  | true =>
    rw [if_pos rfl]
    dsimp only
    split
    · rename_i unread
      have polled := @pollPort_unread nowMs i ⟨true, (readings i).status, true⟩ (s.port i) unread
      refine ⟨_, ⟨true, (readings i).status, true⟩, rfl, rfl, rfl, ?_, ?_⟩
      · rw [polled, unchanged]
      · rw [polled]
        rfl
    · rename_i read
      refine meets_perform_bind.mpr ⟨trivial, fun stored => ?_⟩
      split
      · rename_i due
        refine meets_perform_bind.mpr ⟨trivial, fun err => ?_⟩
        rw [own]
        have polled (upsertOk : Bool) := @pollPort_due nowMs i
          ⟨true, (readings i).status, upsertOk⟩ (s.port i) rfl read due
        cases err with
        | ok _ =>
          refine ⟨_, ⟨true, (readings i).status, true⟩,
            by rw [List.append_assoc, List.append_assoc], rfl, rfl, ?_, ?_⟩
          · rw [polled]
            rfl
          · rw [polled]
            rfl
        | error err =>
          refine ⟨_, ⟨true, (readings i).status, false⟩,
            by rw [List.append_assoc, List.append_assoc], rfl, rfl, ?_, ?_⟩
          · rw [polled]
            rfl
          · rw [polled]
            rfl
      · rename_i idle
        have polled := @pollPort_idle nowMs i ⟨true, (readings i).status, true⟩ (s.port i) rfl read
          idle
        refine ⟨_, ⟨true, (readings i).status, true⟩, List.append_assoc _ _ _, rfl, rfl, ?_, ?_⟩
        · rw [polled]
          rfl
        · rw [polled]
          rfl

/-- The ports that are done have been polled. -/
structure Polled (nowMs : Int) (readings : PortSensorId → Reading) (s₀ : SyncState)
    (done : List PortSensorId) (more : Log) (s : SyncState) (p : PortSensorId → PortPoll) :
    Prop where
  status : ∀ i, (p i).status = (readings i).status
  flags : flags more = done.map fun i => (i, (p i).present)
  anchor : s.utcDayAnchor = s₀.utcDayAnchor
  polled : ∀ i ∈ done, s.port i = (pollPort nowMs i (p i) (s₀.port i)).1
  left : ∀ i, i ∉ done → s.port i = s₀.port i
  seen : seen more = done.filterMap (upsertOf nowMs p s₀)

theorem meets_syncPorts {nowMs : Int} {readings : PortSensorId → Reading}
    (own : ∀ i, (readings i).id = i) (s₀ : SyncState) (log₀ : Log) :
    Meets Anything (fun log s => ∃ more p, log = log₀ ++ more ∧
        Polled nowMs readings s₀ portSensorIds more s p)
      (Prog.forEach (syncPort nowMs readings) portSensorIds s₀) log₀ := by
  refine Meets.forEach (fun done log s => ∃ more p, log = log₀ ++ more ∧
      Polled nowMs readings s₀ done more s p)
    ⟨[], fun i => ⟨true, (readings i).status, true⟩, (List.append_nil _).symm, fun _ => rfl, rfl,
      rfl, List.forall_mem_nil _, fun _ _ => rfl, rfl⟩ ?_
  rintro done i rest all log s ⟨more, p, rfl, polled⟩
  have fresh : i ∉ done := by
    have nodup : portSensorIds.Nodup := by decide
    rw [all, List.nodup_middle, List.nodup_cons] at nodup
    exact fun member => nodup.1 (List.mem_append_left _ member)
  refine (meets_syncPort_poll (own i) s _).mono fun log' s' effect => ?_
  obtain ⟨last, here, rfl, status, flag, rfl, posted⟩ := effect
  have before := polled.left i fresh
  -- The answers that earlier ports got stay.
  have kept : ∀ j ∈ done, Function.update p i here j = p j := by
    intro j member
    have other : j ≠ i := fun same => fresh (same ▸ member)
    exact Function.update_of_ne other _ _
  refine ⟨more ++ last, Function.update p i here, List.append_assoc _ _ _,
    ⟨?_, ?_, polled.anchor, ?_, ?_, ?_⟩⟩
  · intro j
    by_cases same : j = i
    · subst same
      rw [Function.update_self, status]
    · rw [Function.update_of_ne same, polled.status]
  · have earlier : (done.map fun j => (j, (Function.update p i here j).present)) =
        done.map fun j => (j, (p j).present) :=
      List.map_congr_left fun j member => by rw [kept j member]
    rw [flags_append, polled.flags, flag, List.map_append, earlier, List.map_singleton,
      Function.update_self]
  · intro j member
    rcases List.mem_append.mp member with old | new
    · have other : j ≠ i := fun same => fresh (same ▸ old)
      rw [kept j old, ← polled.polled j old]
      exact Function.update_of_ne other _ _
    · obtain rfl := List.mem_singleton.mp new
      rw [Function.update_self, ← before]
      exact Function.update_self _ _ _
  · intro j absent
    rw [List.mem_append, not_or, List.mem_singleton] at absent
    rw [← polled.left j absent.1]
    exact Function.update_of_ne absent.2 _ _
  · have earlier : done.filterMap (upsertOf nowMs (Function.update p i here) s₀) =
        done.filterMap (upsertOf nowMs p s₀) := by
      refine List.filterMap_congr fun j member => ?_
      rw [upsertOf, upsertOf, kept j member]
    have one : [i].filterMap (upsertOf nowMs (Function.update p i here) s₀) =
        ((pollPort nowMs i here (s.port i)).2.map fun row =>
          Seen.posted (Body row) here.upsertOk).toList := by
      rw [before]
      simp only [List.filterMap_cons, List.filterMap_nil, upsertOf, Function.update_self]
      cases (pollPort nowMs i here (s₀.port i)).2 <;> rfl
    rw [seen_append, polled.seen, posted, List.filterMap_append, earlier, one]

/-- A publication loads no flag. -/
theorem meets_publish_flags (states : PortSensorId → PortState) (log : Log) :
    Meets Anything (fun log' _ => ∃ more, log' = log ++ more ∧ seen more = [] ∧ flags more = [])
      (Prog.forEach (fun i _ => publish i (states i)) portSensorIds ()) log := by
  refine Meets.forEach (fun _ log' _ => ∃ more, log' = log ++ more ∧ seen more = [] ∧
    flags more = []) ⟨[], (List.append_nil _).symm, rfl, rfl⟩ ?_
  rintro done i rest all log' u ⟨more, rfl, unseen, none⟩
  refine ⟨trivial, fun stored => ⟨more ++ [_], List.append_assoc _ _ _, ?_, ?_⟩⟩
  · rw [seen_append, unseen]
    rfl
  · rw [flags_append, none]
    rfl

/-- One iteration is a poll, which its calls make up. -/
theorem meets_syncIteration_poll (uninitialised : PortSensorId → Reading) (s : SyncState)
    (log : Log) :
    Meets Anything (fun log' s' => ∃ more q, log' = log ++ more ∧ MakesUp uninitialised more q ∧
        s' = poll q s ∧ seen more = shows s [q])
      (syncIteration uninitialised s) log := by
  have all : Meets Anything (fun log' all => AllBacked all.readings log')
      (portSensorsReadAll uninitialised) log :=
    meets_portSensorsReadAll (fun log c _ => anything log c) uninitialised
  have quiet : Only Quiet (portSensorsReadAll uninitialised) :=
    Only.forEach (fun i _ _ => ((only_portSensorsRead i).mono fun _ about => about.quiet).bind
      fun _ => only_pure _) _
  have reads := (quiet.meets (fun log c _ => anything log c) log).and
    (meets_went (portSensorsReadAll uninitialised) anything log)
  refine Meets.bind (all.and reads) fun log' all ⟨backed, grown, ran⟩ => ?_
  obtain ⟨reading, rfl, unseen⟩ := grown
  obtain ⟨same, equal, went⟩ := ran
  obtain rfl := List.append_cancel_left equal
  refine meets_perform_bind.mpr ⟨trivial, fun nowMs => ?_⟩
  refine meets_perform_bind.mpr ⟨trivial, fun now => ?_⟩
  refine Meets.bind (meets_publish_flags _ _) fun log' _ grown => ?_
  obtain ⟨published, rfl, unseen', none⟩ := grown
  refine (meets_syncPorts (fun i => (backed i).1) _ _).mono fun log' s' polled => ?_
  obtain ⟨ports, p, rfl, polled⟩ := polled
  refine ⟨reading ++ ⟨.timer, nowMs⟩ :: ⟨.time, now⟩ :: (published ++ ports), ⟨nowMs, now, p⟩,
    by simp, ⟨reading, published ++ ports, all, rfl, went, polled.status, ?_⟩, ?_, ?_⟩
  · rw [flags_append, none, polled.flags]
    rfl
  · have ports : s'.port = fun i => (pollPort nowMs i (p i)
        ((updateDailyAnchorAndMaybeReset now s).port i)).1 :=
      funext fun i => polled.polled i (by cases i <;> decide)
    rw [poll, ← ports, ← polled.anchor]
  · have clocks : seen (⟨.timer, nowMs⟩ :: ⟨.time, now⟩ :: (published ++ ports)) =
        [.clock nowMs, .day now] ++ seen (published ++ ports) := rfl
    rw [seen_append, seen_quiet unseen, clocks, seen_append, unseen', polled.seen]
    simp only [shows, List.append_nil, List.nil_append]

theorem shows_append (s : SyncState) (earlier later : List Poll) :
    shows s (earlier ++ later) = shows s earlier ++ shows (runPolls s earlier) later := by
  induction earlier generalizing s with
  | nil => rfl
  | cons q earlier ih =>
    simp only [List.cons_append, shows, ih, List.append_assoc]
    rfl

/-- The calls of a task, iteration by iteration, make up polls, and what is seen of them is what
    is seen of the polling loop on these. -/
structure Polls (uninitialised : PortSensorId → Reading) (log : Log) (published : Log)
    (iterations : List Log) (polls : List Poll) : Prop where
  calls : log = published ++ iterations.flatten
  madeUp : List.Forall₂ (MakesUp uninitialised) iterations polls
  seen : seen log = shows .init polls

/-- The iterations are a run of the polling loop. -/
theorem meets_portSensorsSyncTask_polls (uninitialised : PortSensorId → Reading)
    (count : Nat) :
    Meets Anything (fun log _ => ∃ published iterations polls,
        Polls uninitialised log published iterations polls ∧ polls.length = count)
      (portSensorsSyncTask uninitialised count) [] := by
  refine Meets.bind (meets_publish_flags _ []) fun published _ grown => ?_
  obtain ⟨more, same, unseen, -⟩ := grown
  rw [List.nil_append] at same
  subst same
  refine (Meets.forEach (fun (done : List Unit) log s => ∃ iterations polls,
    Polls uninitialised log published iterations polls ∧ polls.length = done.length ∧
      s = runPolls .init polls) ?_ ?_).mono fun log s ran => ?_
  · exact ⟨[], [], ⟨(List.append_nil _).symm, .nil, unseen⟩, rfl, rfl⟩
  · rintro done i rest all log s ⟨iterations, polls, so_far, length, rfl⟩
    refine (meets_syncIteration_poll uninitialised _ log).mono fun log' s' effect => ?_
    obtain ⟨more, q, rfl, made, rfl, next⟩ := effect
    refine ⟨iterations ++ [more], polls ++ [q], ⟨?_, ?_, ?_⟩, ?_, ?_⟩
    · rw [so_far.calls, List.flatten_append, List.flatten_singleton, List.append_assoc]
    · exact List.rel_append so_far.madeUp (.cons made .nil)
    · rw [seen_append, so_far.seen, next, shows_append]
    · rw [List.length_append, List.length_append, length]
      rfl
    · rw [runPolls, runPolls, List.foldl_append]
      rfl
  · obtain ⟨iterations, polls, ran, length, -⟩ := ran
    rw [List.length_replicate] at length
    exact ⟨published, iterations, polls, ran, length⟩

section
variable {Thread : Type} [DecidableEq Thread] {σ Change : Type}

/-- In every interleaving, once the sync task has gone through its iterations, its calls make up as
    many polls, with the statuses it has read and the flags it has loaded; and the clocks it asked
    and the upserts it attempted, in order and with their bodies and results, are those of the
    polling loop on these polls. -/
theorem sync_task_polls (w : World Call Reply σ Change) (uninitialised : PortSensorId → Reading)
    (jobs : Thread → List Job) (world : σ) {t : Thread} {count : Nat}
    (task : jobs t = [.syncTask count]) {events : List (Event Thread Call Reply Change)}
    {s : System Thread Call Reply Unit σ}
    (run : Run w (started uninitialised jobs world) events s) (finished : s.threads t = pure ()) :
    ∃ published iterations polls, own t events = published ++ iterations.flatten ∧
      List.Forall₂ (MakesUp uninitialised) iterations polls ∧ polls.length = count ∧
        seen (own t events) = shows .init polls := by
  have went := run.went t
  have meets : Meets Anything (fun log _ => ∃ published iterations polls,
      Polls uninitialised log published iterations polls ∧ polls.length = count)
        ((started uninitialised jobs world).threads t) [] := by
    change Meets _ _ (doJobs uninitialised (jobs t)) []
    rw [task]
    refine Meets.bind (Meets.bind (meets_portSensorsSyncTask_polls uninitialised count)
      fun log _ ran => ?_) fun _ _ ran => ran
    exact ran
  rw [finished] at went
  obtain ⟨published, iterations, polls, ran, length⟩ := meets.went went
  exact ⟨published, iterations, polls, ran.calls, ran.madeUp, length, ran.seen⟩

end

/-- A world that answers anything. -/
def anyWorld : World Call Reply Unit Unit where
  serves _ world _ world' := world' = world
  change _ world := world

/-- A task stores its accumulators. -/
def stored : List (Event Unit Call Reply Unit) :=
  portSensorIds.map fun i => .called () ⟨.storeDailyInUseSeconds i 0#32, ()⟩

/-- The first iteration, on a board without sensors. -/
def firstIteration : List (Event Unit Call Reply Unit) :=
  portSensorIds.map (fun _ => .called () ⟨.loadInitialized, false⟩) ++
    [.called () ⟨.timer, (5000 : Int)⟩, .called () ⟨.time, (0 : Nat)⟩] ++ stored ++
    portSensorIds.map fun i => .called () ⟨.loadPresent i, false⟩

theorem sync_task_polls_first :
    ∃ published iterations polls,
      own () (stored ++ firstIteration) = published ++ iterations.flatten ∧
        List.Forall₂ (MakesUp fillNotReadyReading) iterations polls ∧ polls.length = 1 ∧
          seen (own () (stored ++ firstIteration)) = shows .init polls := by
  have start : ∃ s, Run anyWorld
      (started fillNotReadyReading (fun _ : Unit => [.syncTask 1]) ())
        (stored ++ firstIteration) s ∧ s.threads () = pure () := by
    apply Exists.intro
    constructor
    · exact .step (.called rfl rfl) (.step (.called rfl rfl) (.step (.called rfl rfl)
        (.step (.called rfl rfl) (.step (.called rfl rfl) (.step (.called rfl rfl)
        (.step (.called rfl rfl) (.step (.called rfl rfl) (.step (.called rfl rfl)
        (.step (.called rfl rfl) (.step (.called rfl rfl) (.step (.called rfl rfl)
        (.step (.called rfl rfl) (.step (.called rfl rfl) (.step (.called rfl rfl)
        (.step (.called rfl rfl) (.step (.called rfl rfl) (.step (.called rfl rfl)
        (.start _))))))))))))))))))
    · rfl
  obtain ⟨s, run, finished⟩ := start
  exact sync_task_polls anyWorld fillNotReadyReading (fun _ : Unit => [.syncTask 1]) () rfl run
    finished

end SolarConnect.PortSync.Ina219
