import SolarConnect.Sensors.Ina219

/-!
# What the port tasks post

A row is backed if the sensor of its port acknowledged its calibration, sent its voltage and sent a
current that makes the row's status, and the task has left that sensor alone since. Every upsert of
every task is backed by the task's own transfers, however the tasks take turns. The sync task
attempts the upserts of the polling loop on the polls that its calls make up.
-/

namespace SolarConnect.PortSync.Ina219

open Bytes FlatJson CText Nvs Calls

/-! ## The threshold -/

/-- The current is above 50 mA exactly if the register is above 500: there `0.1f` is rounded up,
    and the product down again. -/
theorem inUse_iff (currentRaw : BitVec 16) :
    inUseThresholdMa < currentMa currentRaw ↔ 500 < currentRaw.toInt := by
  have limit : inUseThresholdMa = ((50 * 2 ^ 27 : Nat) : Int) := rfl
  rw [currentMa]
  generalize currentRaw.toInt = x
  rcases Int.le_total x 0 with low | high
  · have rounded := Binary32.round_nonpos (x := x * 13421773) (by omega)
    have positive : 0 < inUseThresholdMa := by decide
    omega
  · obtain ⟨n, rfl⟩ := Int.eq_ofNat_of_zero_le high
    have product : (n : Int) * 13421773 = ((n * 13421773 : Nat) : Int) := by
      rw [Int.natCast_mul]
      rfl
    rw [product, Binary32.round_ofNat, limit, Int.ofNat_lt]
    rcases Nat.lt_trichotomy n 500 with less | rfl | more
    · have below := Binary32.roundNat_le (n := n * 13421773) (m := 50 * 2 ^ 27) (by decide)
        (by omega)
      omega
    · decide
    · have above := Binary32.le_roundNat (n := n * 13421773) (m := 50 * 2 ^ 27 + 512) (by decide)
        (by omega)
      omega

/-- The status of a reading. -/
theorem measured_status (i : PortSensorId) (busRaw currentRaw : BitVec 16) :
    (measured i busRaw currentRaw).status =
      if 500 < currentRaw.toInt then .inUse else .available := by
  simp only [measured, inUse_iff]

/-! ## Calls to a sensor -/

/-- The address on the bus. -/
def Call.addr? : Call → Option Byte
  | .probe addr => some addr
  | .transfer addr _ _ => some addr
  | _ => none

def Call.IsUpsert : Call → Prop
  | .upsert _ _ => True
  | _ => False

def Call.IsClock : Call → Prop
  | .timer => True
  | .time => True
  | _ => False

/-- A call that is no upsert. -/
def Silent (c : Call) : Prop :=
  ¬ c.IsUpsert

/-- Nor one to a clock. -/
def Quiet (c : Call) : Prop :=
  Silent c ∧ ¬ c.IsClock

/-- A transfer reads a register, or writes one of the two that are set. -/
def Gentle (c : Call) : Prop :=
  ∀ addr tx rxLen, c = .transfer addr tx rxLen → (∃ reg, tx = [reg]) ∨
    tx = registerWrite regConfig config ∨ tx = registerWrite regCalibration calibration

/-- A call about the sensor of a port, or no sensor. -/
structure About (i : PortSensorId) (c : Call) : Prop where
  addr : ∀ addr, c.addr? = some addr → addr = i2cAddress i
  quiet : Quiet c
  gentle : Gentle c

theorem i2cAddress_injective {i j : PortSensorId} (same : i2cAddress i = i2cAddress j) : i = j := by
  revert same
  cases i <;> cases j <;> decide

section
variable {kind : Call → Prop}

theorem only_orReturn {first : Task (Except Err α)} {next : α → Task (Except Err β)}
    (only : Only kind first) (rest : ∀ a, Only kind (next a)) :
    Only kind (orReturn first next) := by
  refine only.bind fun r => ?_
  cases r with
  | error err => exact only_pure _
  | ok a => exact rest a

theorem only_orLose {i : PortSensorId} {out : Reading} {first : Task (Except Err α)}
    {next : α → Task (Except Err Unit × Reading)} (lose : kind (.storePresent i false))
    (only : Only kind first) (rest : ∀ a, Only kind (next a)) :
    Only kind (orLose i out first next) := by
  refine only.bind fun r => ?_
  cases r with
  | error err => exact (only_perform lose).bind fun _ => only_pure _
  | ok a => exact rest a

theorem only_ina219WriteU16 {addr reg : Byte} {value : BitVec 16}
    (here : kind (.transfer addr (registerWrite reg value) 0)) :
    Only kind (ina219WriteU16 addr reg value) :=
  (only_perform here).bind fun _ => only_pure _

theorem only_ina219ReadU16 {addr reg : Byte} (here : kind (.transfer addr [reg] 2)) :
    Only kind (ina219ReadU16 addr reg) :=
  (only_perform here).bind fun _ => only_pure _

end

theorem gentle_of_none {c : Call} (none : c.addr? = none) : Gentle c := by
  rintro addr tx rxLen rfl
  cases none

theorem about_of_none (i : PortSensorId) {c : Call} (none : c.addr? = none) (quiet : Quiet c) :
    About i c :=
  ⟨fun _ same => absurd (none.symm.trans same) (by simp), quiet, gentle_of_none none⟩

theorem about_probe (i : PortSensorId) : About i (.probe (i2cAddress i)) :=
  ⟨fun _ same => (Option.some.inj same).symm, ⟨id, id⟩, fun _ _ _ same => Call.noConfusion same⟩

theorem about_read (i : PortSensorId) (reg : Byte) :
    About i (.transfer (i2cAddress i) [reg] 2) := by
  refine ⟨fun _ same => (Option.some.inj same).symm, ⟨id, id⟩, ?_⟩
  rintro addr tx rxLen same
  cases same
  exact Or.inl ⟨reg, rfl⟩

theorem about_configuration (i : PortSensorId) :
    About i (.transfer (i2cAddress i) (registerWrite regConfig config) 0) := by
  refine ⟨fun _ same => (Option.some.inj same).symm, ⟨id, id⟩, ?_⟩
  rintro addr tx rxLen same
  cases same
  exact Or.inr (Or.inl rfl)

theorem about_calibration (i : PortSensorId) :
    About i (.transfer (i2cAddress i) (registerWrite regCalibration calibration) 0) := by
  refine ⟨fun _ same => (Option.some.inj same).symm, ⟨id, id⟩, ?_⟩
  rintro addr tx rxLen same
  cases same
  exact Or.inr (Or.inr rfl)

theorem only_ina219Configure (i : PortSensorId) : Only (About i) (ina219Configure (i2cAddress i)) :=
  only_orReturn (only_ina219WriteU16 (about_configuration i)) fun _ =>
    only_orReturn (only_ina219WriteU16 (about_calibration i)) fun _ =>
      only_orReturn (only_ina219ReadU16 (about_read i regConfig)) fun _ => only_pure _

theorem about_loadPresent (i : PortSensorId) : About i (.loadPresent i) :=
  about_of_none i rfl ⟨id, id⟩

theorem about_storePresent (i : PortSensorId) (present : Bool) :
    About i (.storePresent i present) :=
  about_of_none i rfl ⟨id, id⟩

theorem only_ensureSensorReady (i : PortSensorId) : Only (About i) (ensureSensorReady i) := by
  refine (only_perform (about_loadPresent i)).bind fun present => ?_
  cases present with
  | true => exact only_pure _
  | false =>
    exact only_orReturn (only_perform (about_probe i)) fun _ =>
      only_orReturn (only_ina219Configure i) fun _ =>
        (only_perform (about_storePresent i true)).bind fun _ => only_pure _

theorem only_portSensorsRead (i : PortSensorId) : Only (About i) (portSensorsRead i) := by
  have loads : About i .loadInitialized := about_of_none i rfl ⟨id, id⟩
  refine (only_perform loads).bind fun initialized => ?_
  cases initialized with
  | false => exact only_pure _
  | true =>
    refine (only_ensureSensorReady i).bind fun ready => ?_
    cases ready with
    | error err => exact only_pure _
    | ok _ =>
      have lose := about_storePresent i false
      exact only_orLose lose (only_ina219WriteU16 (about_calibration i)) fun _ =>
        only_orLose lose (only_ina219ReadU16 (about_read i regBusVoltage)) fun _ =>
          only_orLose lose (only_ina219ReadU16 (about_read i regCurrent)) fun _ => only_pure _

/-! ## Backed readings -/

/-- A status that is posted. -/
def Live (status : PortSensorStatus) : Prop :=
  status = .available ∨ status = .inUse

/-- The transfers of a good reading. -/
def measurement (i : PortSensorId) (set : Vector Byte 0) (bus current : Vector Byte 2) : Log :=
  [⟨.transfer (i2cAddress i) (registerWrite regCalibration calibration) 0, Except.ok set⟩,
    ⟨.transfer (i2cAddress i) [regBusVoltage] 2, Except.ok bus⟩,
    ⟨.transfer (i2cAddress i) [regCurrent] 2, Except.ok current⟩]

/-- The sensor of the port is left alone. -/
def Alone (i : PortSensorId) (more : Log) : Prop :=
  ∀ e ∈ more, e.call.addr? ≠ some (i2cAddress i)

/-- The status is what the last reading of the sensor makes it. -/
def Backed (i : PortSensorId) (status : PortSensorStatus) (log : Log) : Prop :=
  ∃ before set bus current later, log = before ++ (measurement i set bus current ++ later) ∧
    Alone i later ∧ status = if 500 < (word current).toInt then .inUse else .available

theorem Backed.append {i : PortSensorId} {status : PortSensorStatus} {log more : Log}
    (backed : Backed i status log) (alone : Alone i more) : Backed i status (log ++ more) := by
  obtain ⟨before, set, bus, current, later, rfl, left, shows⟩ := backed
  refine ⟨before, set, bus, current, later ++ more, ?_, ?_, shows⟩
  · simp only [List.append_assoc]
  · intro e member
    rcases List.mem_append.mp member with old | new
    · exact left e old
    · exact alone e new

theorem alone_of_about {i j : PortSensorId} (other : j ≠ i) {more : Log}
    (about : ∀ e ∈ more, About i e.call) : Alone j more := by
  intro e member same
  exact other (i2cAddress_injective ((about e member).addr _ same))

theorem alone_singleton (i : PortSensorId) {c : Call} (none : c.addr? = none) (r : Reply c) :
    Alone i [⟨c, r⟩] := by
  intro e member
  rw [List.mem_singleton.mp member, none]
  intro same
  cases same

section
variable {allowed : Log → Call → Prop} {log : Log}

/-- What a read does with the transfers of its end. -/
theorem meets_transfers (permits : ∀ log c, Silent c → allowed log c) (i : PortSensorId)
    (out : Reading) (own : out.id = i) (fault : ¬ Live out.status) :
    Meets allowed (fun log' r => r.2.id = i ∧ (Live r.2.status → Backed i r.2.status log'))
      (orLose i out (ina219WriteU16 (i2cAddress i) regCalibration calibration) fun _ =>
        orLose i out (ina219ReadU16 (i2cAddress i) regBusVoltage) fun busRaw =>
          orLose i out (ina219ReadU16 (i2cAddress i) regCurrent) fun currentRaw =>
            return (.ok (), measured i busRaw currentRaw)) log := by
  have failed : ∀ log' : Log, Live out.status → Backed i out.status log' :=
    fun _ live => absurd live fault
  refine ⟨permits _ _ id, fun set => ?_⟩
  cases set with
  | error err => exact ⟨permits _ _ id, fun _ => ⟨own, failed _⟩⟩
  | ok set =>
    refine ⟨permits _ _ id, fun bus => ?_⟩
    cases bus with
    | error err => exact ⟨permits _ _ id, fun _ => ⟨own, failed _⟩⟩
    | ok bus =>
      refine ⟨permits _ _ id, fun current => ?_⟩
      cases current with
      | error err => exact ⟨permits _ _ id, fun _ => ⟨own, failed _⟩⟩
      | ok current =>
        refine ⟨rfl, fun _ => ⟨log, set, bus, current, [], ?_, List.forall_mem_nil _, ?_⟩⟩
        · simp only [List.append_assoc]
          rfl
        · exact measured_status i (word bus) (word current)

theorem meets_portSensorsRead (permits : ∀ log c, Silent c → allowed log c) (i : PortSensorId) :
    Meets allowed (fun log' r => r.2.id = i ∧ (Live r.2.status → Backed i r.2.status log'))
      (portSensorsRead i) log := by
  refine meets_perform_bind.mpr ⟨permits _ _ id, fun initialized => ?_⟩
  cases initialized with
  | false => exact ⟨rfl, by rintro (h | h) <;> cases h⟩
  | true =>
    have fault : ¬ Live .fault := by rintro (h | h) <;> cases h
    refine Meets.bind ((only_ensureSensorReady i).meets
      (fun log c about => permits log c about.quiet.1) _) fun log' ready _ => ?_
    cases ready with
    | error err => exact ⟨rfl, fun live => absurd live fault⟩
    | ok _ => exact meets_transfers permits i _ rfl fault

/-- The readings that are live are backed. -/
def AllBacked (readings : PortSensorId → Reading) (log : Log) : Prop :=
  ∀ i, (readings i).id = i ∧ (Live (readings i).status → Backed i (readings i).status log)

theorem AllBacked.append {readings : PortSensorId → Reading} {more : Log}
    (backed : AllBacked readings log) (alone : ∀ i, Alone i more) :
    AllBacked readings (log ++ more) :=
  fun i => ⟨(backed i).1, fun live => ((backed i).2 live).append (alone i)⟩

theorem meets_portSensorsReadAll (permits : ∀ log c, Silent c → allowed log c)
    (uninitialised : PortSensorId → Reading) :
    Meets allowed (fun log' all => AllBacked all.readings log')
      (portSensorsReadAll uninitialised) log := by
  refine Meets.mono (Meets.forEach (fun done log (all : ReadAll) => ∀ i ∈ done,
    (all.readings i).id = i ∧ (Live (all.readings i).status →
      Backed i (all.readings i).status log)) (List.forall_mem_nil _) ?_)
    fun log all backed i => backed i (by cases i <;> decide)
  intro done i rest all log a backed
  have fresh : i ∉ done := by
    have nodup : portSensorIds.Nodup := by decide
    rw [all, List.nodup_middle, List.nodup_cons] at nodup
    exact fun member => nodup.1 (List.mem_append_left _ member)
  refine Meets.bind ((meets_portSensorsRead permits i).and ((only_portSensorsRead i).meets
    (fun log c about => permits log c about.quiet.1) log)) fun log' r ⟨⟨own, live⟩, grown⟩ => ?_
  obtain ⟨more, rfl, about⟩ := grown
  intro j member
  rcases List.mem_append.mp member with old | new
  · have other : j ≠ i := fun same => fresh (same ▸ old)
    simp only [Function.update_of_ne other]
    exact ⟨(backed j old).1, fun live =>
      ((backed j old).2 live).append (alone_of_about other about)⟩
  · obtain rfl := List.mem_singleton.mp new
    simp only [Function.update_self]
    exact ⟨own, live⟩

end

/-! ## Honest upserts -/

/-- An upsert posts the row of a port whose status is backed. -/
def Honest (log : Log) (c : Call) : Prop :=
  ∀ path body, c = .upsert path body → ∃ i status seconds,
    path = portStatePath ∧ seconds < 2 ^ 32 ∧ Backed i status log ∧
      body = Body ⟨portSensorsPortKey i, portSensorsStatusString status, seconds⟩

theorem honest_of_silent (log : Log) (c : Call) (silent : Silent c) : Honest log c := by
  rintro path body rfl
  exact absurd trivial silent

theorem honest_sync {readings : PortSensorId → Reading} {log : Log}
    (backed : AllBacked readings log) {i : PortSensorId}
    (live : Live (readings i).status) {seconds : Nat} (small : seconds < 2 ^ 32) :
    Honest log (.upsert portStatePath (Body ⟨portSensorsPortKey (readings i).id,
      portSensorsStatusString (readings i).status, seconds⟩)) := by
  rintro path body same
  cases same
  exact ⟨i, (readings i).status, seconds, rfl, small, (backed i).2 live, by rw [(backed i).1]⟩

theorem live_of_not_skipped {status : PortSensorStatus}
    (live : ¬ (status ≠ .available ∧ status ≠ .inUse)) : Live status := by
  by_cases free : status = .available
  · exact Or.inl free
  · exact Or.inr (not_not.mp fun other => live ⟨free, other⟩)

theorem meets_portSensorsSyncOnce (uninitialised : PortSensorId → Reading) (log : Log) :
    Meets Honest (fun _ _ => True) (portSensorsSyncOnce uninitialised) log := by
  refine Meets.bind (meets_portSensorsReadAll honest_of_silent uninitialised)
    fun log all backed => ?_
  refine Meets.mono (Meets.forEach (fun _ log _ => AllBacked all.readings log) backed ?_)
    fun _ _ _ => trivial
  intro done i rest _ log firstErr backed
  refine meets_perform_bind.mpr ⟨honest_of_silent _ _ id, fun present => ?_⟩
  have loaded := backed.append fun j => alone_singleton j rfl present
  cases present with
  | false => exact loaded
  | true =>
    rw [if_pos rfl]
    split
    · exact loaded
    · rename_i live
      refine meets_perform_bind.mpr ⟨honest_of_silent _ _ id, fun seconds => ?_⟩
      have counted := loaded.append fun j => alone_singleton j rfl seconds
      refine meets_perform_bind.mpr
        ⟨honest_sync counted (live_of_not_skipped live) seconds.isLt, fun err => ?_⟩
      exact counted.append fun j => alone_singleton j rfl err

/-- The accumulators fit. -/
def Bounded (s : SyncState) : Prop :=
  ∀ i, (s.port i).dailyInUseSeconds < 2 ^ 32

theorem accumulate_bounded (nowMs : Int) (status : PortSensorStatus) {s : PortState}
    (bounded : s.dailyInUseSeconds < 2 ^ 32) :
    (accumulate nowMs status s).dailyInUseSeconds < 2 ^ 32 := by
  unfold accumulate
  dsimp only
  split
  · exact Nat.mod_lt _ (by decide)
  · exact bounded

theorem Bounded.newDay {s : SyncState} (bounded : Bounded s) (now : Nat) :
    Bounded (updateDailyAnchorAndMaybeReset now s) := by
  intro i
  unfold updateDailyAnchorAndMaybeReset
  dsimp only
  split
  · exact bounded i
  · split
    · exact bounded i
    · exact Nat.two_pow_pos 32

theorem Bounded.update {s : SyncState} (bounded : Bounded s) {i : PortSensorId} {port : PortState}
    (small : port.dailyInUseSeconds < 2 ^ 32) :
    Bounded { s with port := Function.update s.port i port } := by
  intro j
  by_cases same : j = i
  · subst same
    simpa using small
  · simpa [Function.update_of_ne same] using bounded j

/-- A publication tells nobody outside. -/
theorem only_publish (states : PortSensorId → PortState) :
    Only (fun c => c.addr? = none ∧ Quiet c)
      (Prog.forEach (fun i _ => publish i (states i)) portSensorIds ()) := by
  refine Only.forEach (fun i _ _ => ?_) ()
  exact ⟨⟨rfl, id, id⟩, fun _ => trivial⟩

theorem meets_publish {allowed : Log → Call → Prop}
    (permits : ∀ log c, Silent c → allowed log c) (states : PortSensorId → PortState) (log : Log) :
    Meets allowed (fun log' _ => ∃ more, log' = log ++ more ∧ (∀ i, Alone i more) ∧
        ∀ e ∈ more, Quiet e.call)
      (Prog.forEach (fun i _ => publish i (states i)) portSensorIds ()) log := by
  refine ((only_publish states).meets (fun log c kind => permits log c kind.2.1) log).mono
    fun log' _ grown => ?_
  obtain ⟨more, rfl, kinds⟩ := grown
  refine ⟨more, rfl, fun i e member same => ?_, fun e member => (kinds e member).2⟩
  rw [(kinds e member).1] at same
  cases same

theorem meets_syncPort {nowMs : Int} {readings : PortSensorId → Reading} {i : PortSensorId}
    {s : SyncState} {log : Log} (backed : AllBacked readings log) (bounded : Bounded s) :
    Meets Honest (fun log' s' => AllBacked readings log' ∧ Bounded s')
      (syncPort nowMs readings i s) log := by
  refine meets_perform_bind.mpr ⟨honest_of_silent _ _ id, fun present => ?_⟩
  have loaded := backed.append fun j => alone_singleton j rfl present
  cases present with
  | false => exact ⟨loaded, bounded⟩
  | true =>
    rw [if_pos rfl]
    dsimp only
    split
    · exact ⟨loaded, bounded⟩
    · rename_i live
      have small := accumulate_bounded nowMs (readings i).status (bounded i)
      refine meets_perform_bind.mpr ⟨honest_of_silent _ _ id, fun stored => ?_⟩
      have published := loaded.append fun j => alone_singleton j rfl stored
      split
      · refine meets_perform_bind.mpr
          ⟨honest_sync published (live_of_not_skipped live) small, fun err => ?_⟩
        have posted := published.append fun j => alone_singleton j rfl err
        cases err with
        | ok _ => exact ⟨posted, bounded.update small⟩
        | error err => exact ⟨posted, bounded.update small⟩
      · exact ⟨published, bounded.update small⟩

theorem meets_syncIteration (uninitialised : PortSensorId → Reading) {s : SyncState}
    (bounded : Bounded s) (log : Log) :
    Meets Honest (fun _ s' => Bounded s') (syncIteration uninitialised s) log := by
  refine Meets.bind (meets_portSensorsReadAll honest_of_silent uninitialised)
    fun log all backed => ?_
  refine meets_perform_bind.mpr ⟨honest_of_silent _ _ id, fun nowMs => ?_⟩
  refine meets_perform_bind.mpr ⟨honest_of_silent _ _ id, fun now => ?_⟩
  have timed := (backed.append fun j => alone_singleton j rfl nowMs).append
    fun j => alone_singleton j rfl now
  refine Meets.bind (meets_publish honest_of_silent _ _) fun log' _ grown => ?_
  obtain ⟨more, rfl, alone, -⟩ := grown
  refine Meets.mono (Meets.forEach (fun _ log s => AllBacked all.readings log ∧ Bounded s)
    ⟨timed.append alone, bounded.newDay now⟩ ?_) fun _ _ holds => holds.2
  exact fun _ _ _ _ _ _ holds => meets_syncPort holds.1 holds.2

theorem meets_portSensorsSyncTask (uninitialised : PortSensorId → Reading) (iterations : Nat)
    (log : Log) :
    Meets Honest (fun _ _ => True) (portSensorsSyncTask uninitialised iterations) log := by
  refine Meets.bind (meets_publish honest_of_silent _ _) fun log' _ _ => ?_
  refine Meets.mono (Meets.forEach (fun _ _ s => Bounded s) (fun _ => Nat.two_pow_pos 32) ?_)
    fun _ _ _ => trivial
  exact fun _ _ _ _ log s bounded => meets_syncIteration uninitialised bounded log

/-! ## All the tasks -/

/-- What the tasks do: the start at boot, the sync task, and the requests of the test page. -/
inductive Job
  | init
  | syncTask (iterations : Nat)
  | syncOnce
  | readAll
  | scan

def Job.run (uninitialised : PortSensorId → Reading) : Job → Task Unit
  | .init => do
    let _ ← portSensorsInit
  | .syncTask iterations => do
    let _ ← portSensorsSyncTask uninitialised iterations
  | .syncOnce => do
    let _ ← portSensorsSyncOnce uninitialised
  | .readAll => do
    let _ ← portSensorsReadAll uninitialised
  | .scan => do
    let _ ← portSensorsScanI2c

/-- One job after the other. -/
def doJobs (uninitialised : PortSensorId → Reading) (jobs : List Job) : Task Unit :=
  Prog.forEach (fun job _ => job.run uninitialised) jobs ()

/-- A call that neither posts nor writes another register. -/
def Local (c : Call) : Prop :=
  Gentle c ∧ Silent c

theorem local_of_none {c : Call} (none : c.addr? = none) (silent : ¬ c.IsUpsert) : Local c :=
  ⟨gentle_of_none none, silent⟩

theorem only_i2cBusInstall : Only Local i2cBusInstall := by
  refine (only_perform (local_of_none rfl id)).bind fun installed => ?_
  cases installed with
  | true => exact only_pure _
  | false =>
    refine only_orReturn (only_perform (local_of_none rfl id)) fun _ => ?_
    refine (only_perform (local_of_none rfl id)).bind fun r => ?_
    have store : Only Local (storeInstalled >>= fun _ => pure (.ok ()) : Task (Except Err Unit)) :=
      (only_perform (local_of_none rfl id)).bind fun _ => only_pure _
    cases r with
    | ok _ => exact store
    | error err =>
      dsimp only
      split
      · exact store
      · exact only_pure _

theorem local_probe (addr : Byte) : Local (.probe addr) :=
  ⟨fun _ _ _ same => Call.noConfusion same, id⟩

theorem only_portSensorsScanI2c : Only Local portSensorsScanI2c := by
  refine only_orReturn only_i2cBusInstall fun _ => ?_
  refine Only.bind (Only.forEach (fun addr _ detected => ?_) []) fun _ => only_pure _
  refine (only_perform (local_probe addr)).bind fun r => ?_
  cases r <;> exact only_pure _

theorem About.local {i : PortSensorId} (c : Call) (about : About i c) : Local c :=
  ⟨about.gentle, about.quiet.1⟩

theorem only_initSensor (i : PortSensorId) : Only Local (initSensor i) := by
  have store : ∀ present, Only Local (storePresent i present) :=
    fun _ => only_perform (local_of_none rfl id)
  refine (only_perform (local_probe _)).bind fun r => ?_
  cases r with
  | error err => exact store _
  | ok _ =>
    refine ((only_ina219Configure i).mono About.local).bind fun r => ?_
    cases r <;> exact store _

theorem only_portSensorsInit : Only Local portSensorsInit := by
  refine (only_perform (local_of_none rfl id)).bind fun initialized => ?_
  cases initialized with
  | true => exact only_pure _
  | false =>
    refine only_orReturn only_i2cBusInstall fun _ => ?_
    refine only_portSensorsScanI2c.bind fun _ => ?_
    refine (Only.forEach (fun i _ _ => only_initSensor i) ()).bind fun _ => ?_
    exact (only_perform (local_of_none rfl id)).bind fun _ => only_pure _

theorem only_portSensorsReadAll (uninitialised : PortSensorId → Reading) :
    Only Local (portSensorsReadAll uninitialised) := by
  refine Only.forEach (fun i _ all => ?_) _
  exact ((only_portSensorsRead i).mono About.local).bind fun _ => only_pure _

theorem gentle_upsert (path body : List Byte) : Gentle (.upsert path body) :=
  gentle_of_none rfl

theorem only_portSensorsSyncOnce (uninitialised : PortSensorId → Reading) :
    Only Gentle (portSensorsSyncOnce uninitialised) := by
  refine ((only_portSensorsReadAll uninitialised).mono fun _ kind => kind.1).bind fun all => ?_
  refine Only.forEach (fun i _ firstErr => ?_) _
  refine (only_perform (gentle_of_none rfl)).bind fun present => ?_
  split
  · split
    · exact only_pure _
    · refine (only_perform (gentle_of_none rfl)).bind fun seconds => ?_
      exact (only_perform (gentle_upsert _ _)).bind fun _ => only_pure _
  · exact only_pure _

theorem only_syncPort (nowMs : Int) (readings : PortSensorId → Reading) (i : PortSensorId)
    (s : SyncState) : Only Gentle (syncPort nowMs readings i s) := by
  refine (only_perform (gentle_of_none rfl)).bind fun present => ?_
  split
  · dsimp only
    split
    · exact only_pure _
    · refine (only_perform (gentle_of_none rfl)).bind fun _ => ?_
      split
      · refine (only_perform (gentle_upsert _ _)).bind fun r => ?_
        cases r <;> exact only_pure _
      · exact only_pure _
  · exact only_pure _

theorem only_portSensorsSyncTask (uninitialised : PortSensorId → Reading) (iterations : Nat) :
    Only Gentle (portSensorsSyncTask uninitialised iterations) := by
  have publishes : ∀ states : PortSensorId → PortState, Only Gentle
      (Prog.forEach (fun i _ => publish i (states i)) portSensorIds ()) :=
    fun states => (only_publish states).mono fun _ kind => gentle_of_none kind.1
  refine (publishes _).bind fun _ => Only.forEach (fun _ _ s => ?_) _
  refine ((only_portSensorsReadAll uninitialised).mono fun _ kind => kind.1).bind fun all => ?_
  refine (only_perform (gentle_of_none rfl)).bind fun nowMs => ?_
  refine (only_perform (gentle_of_none rfl)).bind fun now => ?_
  exact (publishes _).bind fun _ => Only.forEach (fun i _ s => only_syncPort _ _ i s) _

theorem only_doJobs (uninitialised : PortSensorId → Reading) (jobs : List Job) :
    Only Gentle (doJobs uninitialised jobs) := by
  refine Only.forEach (fun job _ _ => ?_) ()
  have quiet : ∀ c, Local c → Gentle c := fun _ kind => kind.1
  cases job with
  | init => exact (only_portSensorsInit.mono quiet).bind fun _ => only_pure _
  | syncTask iterations =>
    exact (only_portSensorsSyncTask uninitialised iterations).bind fun _ => only_pure _
  | syncOnce => exact (only_portSensorsSyncOnce uninitialised).bind fun _ => only_pure _
  | readAll =>
    exact ((only_portSensorsReadAll uninitialised).mono quiet).bind fun _ => only_pure _
  | scan => exact (only_portSensorsScanI2c.mono quiet).bind fun _ => only_pure _

theorem meets_of_local {p : Task α} (only : Only Local p) (log : Log) :
    Meets Honest (fun _ _ => True) p log :=
  (only.meets (fun log c kind => honest_of_silent log c kind.2) log).mono fun _ _ _ => trivial

theorem meets_doJobs (uninitialised : PortSensorId → Reading) (jobs : List Job) (log : Log) :
    Meets Honest (fun _ _ => True) (doJobs uninitialised jobs) log := by
  refine Meets.forEach (fun _ _ _ => True) trivial fun _ job _ _ log _ _ => ?_
  have done : ∀ {α : Type} {p : Task α}, Meets Honest (fun _ _ => True) p log →
      Meets Honest (fun _ _ => True) (p >>= fun _ => pure ()) log :=
    fun meets => meets.bind fun _ _ _ => trivial
  cases job with
  | init => exact done (meets_of_local only_portSensorsInit log)
  | syncTask iterations => exact done (meets_portSensorsSyncTask uninitialised iterations log)
  | syncOnce => exact done (meets_portSensorsSyncOnce uninitialised log)
  | readAll => exact done (meets_of_local (only_portSensorsReadAll uninitialised) log)
  | scan => exact done (meets_of_local only_portSensorsScanI2c log)

/-! ## Rows -/

/-- The members of a row of `port_state`. -/
def portStateRow (i : PortSensorId) (status : PortSensorStatus) (seconds : Nat) : List Member :=
  [(ascii "station_id", .str (ascii "solar-hub-01")),
    (ascii "port_key", .str (ascii (portSensorsPortKey i))),
    (ascii "status", .str (ascii (portSensorsStatusString status))),
    (ascii "daily_in_use_seconds", .int seconds)]

/-- A payload fits and reads back. -/
theorem body_reads (i : PortSensorId) (status : PortSensorStatus) {seconds : Nat}
    (small : seconds < 2 ^ 32) :
    readObject (Body ⟨portSensorsPortKey i, portSensorsStatusString status, seconds⟩) =
      some (portStateRow i status seconds) := by
  have key : Clean (ascii (portSensorsPortKey i)) ∧ (ascii (portSensorsPortKey i)).length = 7 := by
    cases i <;> decide
  have shown : Clean (ascii (portSensorsStatusString status)) ∧
      (ascii (portSensorsStatusString status)).length ≤ 9 := by
    cases status <;> decide
  have digits : (decimal seconds).length ≤ 10 := decimal_length_le (by decide) (by omega)
  have clean : CleanMembers (portStateRow i status seconds) := by
    have station : Clean (ascii "solar-hub-01") := by decide
    exact cleanMembers_cons (by decide) station (cleanMembers_cons (by decide) key.1
      (cleanMembers_cons (by decide) shown.1 (cleanMembers_cons (by decide) trivial
        cleanMembers_nil)))
  have printed : Body ⟨portSensorsPortKey i, portSensorsStatusString status, seconds⟩ =
      writeObject (portStateRow i status seconds) := by
    refine (snprintf_of_fits ?_).trans rfl
    have parts : (ascii "\x7b\"station_id\":\"solar-hub-01\",\"port_key\":\"").length = 41 ∧
        (ascii "\",\"status\":\"").length = 12 ∧
        (ascii "\",\"daily_in_use_seconds\":").length = 25 ∧ (ascii "\x7d").length = 1 := by
      decide
    simp only [List.length_append]
    omega
  rw [printed, readObject_writeObject clean]

/-! ## Every interleaving -/

section
variable {Thread : Type} [DecidableEq Thread] {σ Change : Type}

/-- The tasks at their start. -/
def started (uninitialised : PortSensorId → Reading) (jobs : Thread → List Job) (world : σ) :
    System Thread Call Reply Unit σ :=
  ⟨fun t => doJobs uninitialised (jobs t), world⟩

/-- The sensors are written as `Gentle` says, by all the tasks. -/
theorem calls_gentle {w : World Call Reply σ Change} {uninitialised : PortSensorId → Reading}
    {jobs : Thread → List Job} {world : σ}
    {before after : List (Event Thread Call Reply Change)} {t : Thread} {entry : Entry Call Reply}
    {s : System Thread Call Reply Unit σ}
    (run : Run w (started uninitialised jobs world) (before ++ .called t entry :: after) s) :
    Gentle entry.call := by
  have meets : Meets (fun _ c => Gentle c) (fun _ _ => True)
      ((started uninitialised jobs world).threads t) [] :=
    ((only_doJobs uninitialised (jobs t)).meets (fun _ _ kind => kind) []).mono
      fun _ _ _ => trivial
  exact Run.allowed meets run

/-- However the tasks take turns and whatever bus, clocks and statics answer: what a task posts is
    the row of a port in `port_state`, and before it the task itself has read the sensor of that
    port last with its calibration set, and the current it got makes the status. -/
theorem posted_rows_measured (w : World Call Reply σ Change)
    (uninitialised : PortSensorId → Reading) (jobs : Thread → List Job) (world : σ)
    {before after : List (Event Thread Call Reply Change)} {t : Thread} {path body : List Byte}
    {r : Reply (.upsert path body)} {s : System Thread Call Reply Unit σ}
    (run : Run w (started uninitialised jobs world)
      (before ++ .called t ⟨.upsert path body, r⟩ :: after) s) :
    path = portStatePath ∧ ∃ i status seconds, Backed i status (own t before) ∧
      readObject body = some (portStateRow i status seconds) := by
  obtain ⟨i, status, seconds, onto, small, backed, rfl⟩ :=
    Run.allowed (meets_doJobs uninitialised (jobs t) []) run path body rfl
  exact ⟨onto, i, status, seconds, backed, body_reads i status small⟩

end

end SolarConnect.PortSync.Ina219
