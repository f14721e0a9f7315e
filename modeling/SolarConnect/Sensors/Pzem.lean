import Mathlib.Algebra.Order.Ring.Rat

/-!
# AC meter task

The loop `pzem_task` (`pzem_reader.c:215-254`): every successful read of the PZEM module is
cached, pushed to `station_state`, and compared with the outlet status last sent. A `float` is
the rational it denotes. The result of the `station_state` upsert is only logged.
-/

namespace SolarConnect.Pzem

/-- `PZEM_OUTLET_IN_USE_W`, the float `1.0f`. -/
def pzemOutletInUseW : ℚ := 1

/-- `pzem_reading_t` (`pzem_reader.h:37-43`), as a successful read fills it. -/
structure PzemReading where
  voltageV : ℚ
  currentA : ℚ
  powerW : ℚ
  energyWh : Nat
  deriving DecidableEq, Repr

/-- `s_energy_wh_at_midnight`, `s_pzem_utc_day_anchor` and `s_pzem_anchor_valid`. -/
structure EnergyAnchor where
  energyWhAtMidnight : Nat
  utcDayAnchor : Int
  valid : Bool
  deriving DecidableEq, Repr

/-- The statics of the task and its locals that outlive an iteration. -/
structure PzemState where
  lastReading : Option PzemReading
  energy : EnergyAnchor
  lastOutletInUse : Bool
  lastOutletPublished : Bool
  deriving DecidableEq, Repr

/-- The state at the head of `pzem_task`. -/
def PzemState.init : PzemState where
  lastReading := none
  energy := ⟨0, -1, false⟩
  lastOutletInUse := false
  lastOutletPublished := false

/-- The columns that `pzem_sync_station_state` upserts. -/
structure StationStateRow where
  acVoltageV : ℚ
  acCurrentA : ℚ
  acPowerW : ℚ
  acEnergyWh : Nat
  acEnergyWhToday : Nat
  deriving DecidableEq, Repr

/-- The columns that `pzem_sync_outlet_status` upserts. -/
structure OutletRow where
  portKey : String
  status : String
  deriving DecidableEq, Repr

/-- `energy_wh_today` (`pzem_reader.c:146-167`) when `time(NULL)` is `time`. -/
def energyWhToday (time cumulative : Nat) (a : EnergyAnchor) : Nat × EnergyAnchor :=
  let dayNow : Int := (time / 86400 : Nat)
  let a := if dayNow ≠ a.utcDayAnchor then ⟨cumulative, dayNow, true⟩ else a
  if cumulative < a.energyWhAtMidnight then (0, { a with energyWhAtMidnight := cumulative })
  else (cumulative - a.energyWhAtMidnight, a)

/-- `pzem_sync_station_state` (`pzem_reader.c:172-194`). -/
def pzemSyncStationState (time : Nat) (r : PzemReading) (a : EnergyAnchor) :
    StationStateRow × EnergyAnchor :=
  let (todayWh, a) := energyWhToday time r.energyWh a
  (⟨r.voltageV, r.currentA, r.powerW, r.energyWh, todayWh⟩, a)

/-- `pzem_sync_outlet_status` (`pzem_reader.c:200-213`). -/
def pzemSyncOutletStatus (inUse : Bool) : OutletRow :=
  ⟨"outlet", if inUse then "in_use" else "available"⟩

/-- `in_use_now`. -/
def inUseNow (r : PzemReading) : Bool :=
  decide (pzemOutletInUseW < r.powerW)

/-- One iteration of the loop: the reading, `none` when the read fails, `time(NULL)`, and
    whether the outlet upsert returns `ESP_OK` if there is one. -/
structure Pass where
  reading : Option PzemReading
  time : Nat
  outletOk : Bool

/-- The loop body of `pzem_task`: the state it leaves and the upserts it attempts. -/
def pzemPass (p : Pass) (s : PzemState) : PzemState × Option StationStateRow × Option OutletRow :=
  match p.reading with
  | none => (s, none, none)
  | some r =>
    let (row, energy) := pzemSyncStationState p.time r s.energy
    let s := { s with lastReading := some r, energy := energy }
    if !s.lastOutletPublished || inUseNow r != s.lastOutletInUse then
      -- The result of the upsert is not looked at here.
      ({ s with lastOutletInUse := inUseNow r, lastOutletPublished := true }, some row,
        some (pzemSyncOutletStatus (inUseNow r)))
    else (s, some row, none)

end SolarConnect.Pzem
