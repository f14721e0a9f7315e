import SolarConnect.Misc.Bytes
import Mathlib.Logic.Function.Basic

/-!
# RFID reader

The polling task of `rfid_reader.c`, the power outputs it drives and the battery's override.
What the MFRC522 answers to a frame comes from outside. `RFID_ENFORCE_AUTH` is the argument
`enforceAuth`.
-/

namespace SolarConnect.Rfid

open Bytes

/-- `s_power_pins`. -/
def powerPins : List Nat := [12, 14, 27, 26, 25, 13]

/-- `s_valid_uids`. -/
def validUids : List (List Byte) := [[0x43, 0x79, 0xAD, 0x38], [0xF3, 0x95, 0xCF, 0x1E]]

/-- `RFID_PRESENCE_TIMEOUT_MS`. -/
def presenceTimeoutMs : Nat := 1000

/-- `CONFIG_FREERTOS_HZ`. -/
def tickRateHz : Nat := 100

/-- `TickType_t`. -/
abbrev Tick := BitVec 32

/-- `timeout_ticks`, which is `pdMS_TO_TICKS(RFID_PRESENCE_TIMEOUT_MS)`. -/
def timeoutTicks : Nat := presenceTimeoutMs * tickRateHz / 1000

/-- The statics of `rfid_reader.c`, the local `last_valid_tick` of its task, the level of every
    GPIO, and the calls of the presence callback, latest first. -/
structure Reader where
  gpio : Nat → Nat
  portsActive : Bool
  portsAllowedByBattery : Bool
  cardPresent : Bool
  invalidLogged : Bool
  callback : Bool
  reports : List Bool
  lastValidTick : Tick

/-- The static initializers. -/
def Reader.boot (gpio : Nat → Nat) (callback : Bool) : Reader where
  gpio := gpio
  portsActive := false
  portsAllowedByBattery := true
  cardPresent := false
  invalidLogged := false
  callback := callback
  reports := []
  lastValidTick := 0

/-! ## Card -/

/-- What `pcd_transceive` (`rfid_reader.c:187-247`) stores in a buffer of `rx_size` bytes when
    the chip has received `answer`, `none` for an error. -/
def pcdTransceive (rxSize : Nat) (answer : Option (List Byte)) : Option (List Byte) :=
  answer.map (List.take rxSize)

/-- `picc_request_a` (`rfid_reader.c:249-258`). -/
def piccRequestA (answer : Option (List Byte)) : Bool :=
  match pcdTransceive 2 answer with
  | some rx => rx.length == 2
  | none => false

/-- `picc_anticoll` (`rfid_reader.c:262-278`): the UID, `none` for the result `false`. -/
def piccAnticoll (answer : Option (List Byte)) : Option (List Byte) :=
  match pcdTransceive 5 answer with
  | some [a, b, c, d, check] => if a ^^^ b ^^^ c ^^^ d = check then some [a, b, c, d] else none
  | _ => none

/-- `uid_is_authorized` (`rfid_reader.c:280-288`). -/
def uidIsAuthorized (uid : List Byte) : Bool :=
  validUids.contains uid

/-! ## Power outputs -/

/-- The loop over `s_power_pins` that sets their levels. -/
def setPowerPins (level : Nat) (gpio : Nat → Nat) : Nat → Nat :=
  powerPins.foldl (fun gpio pin => Function.update gpio pin level) gpio

/-- `power_pins_init` (`rfid_reader.c:290-298`). -/
def powerPinsInit (s : Reader) : Reader :=
  { s with gpio := setPowerPins 0 s.gpio, portsActive := false }

/-- `set_power_state` (`rfid_reader.c:305-322`). -/
def setPowerState (on : Bool) (s : Reader) : Reader :=
  let on := on && s.portsAllowedByBattery
  if s.portsActive = on then s
  else { s with portsActive := on, gpio := setPowerPins (if on then 1 else 0) s.gpio }

/-- `rfid_reader_set_ports_allowed` (`rfid_reader.c:324-337`). -/
def rfidReaderSetPortsAllowed (allowed : Bool) (s : Reader) : Reader :=
  if s.portsAllowedByBattery = allowed then s
  else
    let s := { s with portsAllowedByBattery := allowed }
    if !allowed && s.portsActive then setPowerState false s else s

/-! ## Polling task -/

/-- What one iteration of `rfid_task` meets: the ticks since the start of the scheduler, and what
    the chip receives in answer to REQA and to the anticollision frame. -/
structure Iteration where
  ticks : Nat
  reqa : Option (List Byte)
  anticoll : Option (List Byte)
  deriving DecidableEq, Repr

/-- `xTaskGetTickCount()`. -/
def Iteration.now (it : Iteration) : Tick :=
  BitVec.ofNat 32 it.ticks

/-- `(now - last_valid_tick) > timeout_ticks`. -/
def stale (now : Tick) (s : Reader) : Bool :=
  timeoutTicks < (now - s.lastValidTick).toNat

/-- A call of the presence callback, if there is one. -/
def report (present : Bool) (s : Reader) : Reader :=
  if s.callback then { s with reports := present :: s.reports } else s

/-- The check at the top of the loop. -/
def cutStalePower (enforceAuth : Bool) (now : Tick) (s : Reader) : Reader :=
  if enforceAuth && s.portsActive && stale now s then setPowerState false s else s

/-- The branch for an authorized UID. -/
def acceptCard (now : Tick) (s : Reader) : Reader :=
  let s := setPowerState true { s with lastValidTick := now, invalidLogged := false }
  if !s.cardPresent then report true { s with cardPresent := true } else s

/-- The branch for any other UID. -/
def rejectCard (enforceAuth : Bool) (s : Reader) : Reader :=
  let s := if enforceAuth then setPowerState false s else s
  let s := { s with invalidLogged := true }
  if s.cardPresent then report false { s with cardPresent := false } else s

/-- The rest of the loop body. A card that answers REQA and fails anticollision changes
    nothing. -/
def pollCard (enforceAuth : Bool) (it : Iteration) (s : Reader) : Reader :=
  if piccRequestA it.reqa then
    match piccAnticoll it.anticoll with
    | some uid => if uidIsAuthorized uid then acceptCard it.now s else rejectCard enforceAuth s
    | none => s
  else if s.cardPresent && stale it.now s then
    report false { s with cardPresent := false, invalidLogged := false }
  else s

/-- The loop body of `rfid_task` (`rfid_reader.c:339-408`). -/
def rfidIteration (enforceAuth : Bool) (it : Iteration) (s : Reader) : Reader :=
  pollCard enforceAuth it (cutStalePower enforceAuth it.now s)

/-- `rfid_reader_start` (`rfid_reader.c:412-494`) up to the start of the task, when the reader
    comes up. -/
def rfidReaderStart (enforceAuth : Bool) (s : Reader) : Reader :=
  let s := powerPinsInit s
  let s := if enforceAuth then s else setPowerState true s
  { s with lastValidTick := 0 }

/-! ## Frame facts -/

section
variable (on : Bool) (s : Reader)

@[simp] theorem setPowerState_allowed :
    (setPowerState on s).portsAllowedByBattery = s.portsAllowedByBattery := by
  unfold setPowerState
  dsimp only
  split <;> rfl

@[simp] theorem setPowerState_cardPresent : (setPowerState on s).cardPresent = s.cardPresent := by
  unfold setPowerState
  dsimp only
  split <;> rfl

@[simp] theorem setPowerState_lastValidTick :
    (setPowerState on s).lastValidTick = s.lastValidTick := by
  unfold setPowerState
  dsimp only
  split <;> rfl

/-- The outputs are on after the call exactly when that was asked for and the battery allows
    it. -/
@[simp] theorem setPowerState_active :
    (setPowerState on s).portsActive = (on && s.portsAllowedByBattery) := by
  unfold setPowerState
  dsimp only
  split
  · assumption
  · rfl

end

/-- The two readers have the same outputs and the same override. -/
structure SameOutputs (s s' : Reader) : Prop where
  gpio : s'.gpio = s.gpio
  active : s'.portsActive = s.portsActive
  allowed : s'.portsAllowedByBattery = s.portsAllowedByBattery

theorem sameOutputs_refl (s : Reader) : SameOutputs s s :=
  ⟨rfl, rfl, rfl⟩

theorem SameOutputs.trans {s s' s'' : Reader} (first : SameOutputs s s')
    (second : SameOutputs s' s'') : SameOutputs s s'' :=
  ⟨second.gpio.trans first.gpio, second.active.trans first.active,
    second.allowed.trans first.allowed⟩

theorem SameOutputs.setPowerState {s s' : Reader} (same : SameOutputs s s') (on : Bool) :
    SameOutputs (setPowerState on s) (setPowerState on s') := by
  unfold Rfid.setPowerState
  dsimp only
  rw [same.active, same.allowed, same.gpio]
  split
  · exact same
  · exact ⟨rfl, rfl, rfl⟩

/-- A report of the card leaves everything else alone. -/
theorem report_effect (present : Bool) (s : Reader) :
    SameOutputs s (report present s) ∧ (report present s).cardPresent = s.cardPresent ∧
      (report present s).lastValidTick = s.lastValidTick := by
  unfold report
  split <;> exact ⟨⟨rfl, rfl, rfl⟩, rfl, rfl⟩

/-! ## What an iteration does -/

/-- The iteration reads an authorized UID. -/
def Iteration.authorized (it : Iteration) : Bool :=
  piccRequestA it.reqa && (piccAnticoll it.anticoll).any uidIsAuthorized

/-- A card answers REQA and its UID is not read. -/
def Iteration.unread (it : Iteration) : Bool :=
  piccRequestA it.reqa && (piccAnticoll it.anticoll).isNone

/-- What the production build does after the staleness check, by what the card answers. -/
inductive PollEffect (it : Iteration) (s s' : Reader) : Prop
  | accepts (authorized : it.authorized = true) (outputs : SameOutputs (setPowerState true s) s')
    (card : s'.cardPresent = true) (valid : s'.lastValidTick = it.now)
  | rejects (foreign : it.authorized = false) (read : it.unread = false)
    (outputs : SameOutputs (setPowerState false s) s') (card : s'.cardPresent = false)
    (valid : s'.lastValidTick = s.lastValidTick)
  | collides (unread : it.unread = true) (foreign : it.authorized = false) (same : s' = s)
  | silent (foreign : it.authorized = false) (read : it.unread = false)
    (outputs : SameOutputs s s')
    (card : s'.cardPresent = (s.cardPresent && !stale it.now s))
    (valid : s'.lastValidTick = s.lastValidTick)

theorem acceptCard_effect (now : Tick) (s : Reader) :
    SameOutputs (setPowerState true s) (acceptCard now s) ∧
      (acceptCard now s).cardPresent = true ∧ (acceptCard now s).lastValidTick = now := by
  have noted : SameOutputs s { s with lastValidTick := now, invalidLogged := false } :=
    ⟨rfl, rfl, rfl⟩
  have powered := noted.setPowerState true
  have valid :=
    setPowerState_lastValidTick true { s with lastValidTick := now, invalidLogged := false }
  unfold acceptCard
  dsimp only
  generalize setPowerState true { s with lastValidTick := now, invalidLogged := false } = t
    at powered valid ⊢
  split
  · obtain ⟨outputs, card, tick⟩ := report_effect true { t with cardPresent := true }
    have marked : SameOutputs t { t with cardPresent := true } := ⟨rfl, rfl, rfl⟩
    exact ⟨powered.trans (marked.trans outputs), card, tick.trans valid⟩
  · rename_i present
    exact ⟨powered, by simpa using present, valid⟩

theorem rejectCard_effect (s : Reader) :
    SameOutputs (setPowerState false s) (rejectCard true s) ∧
      (rejectCard true s).cardPresent = false ∧
        (rejectCard true s).lastValidTick = s.lastValidTick := by
  have valid := setPowerState_lastValidTick false s
  unfold rejectCard
  dsimp only
  rw [if_pos rfl]
  generalize setPowerState false s = t at valid ⊢
  split
  · obtain ⟨outputs, card, tick⟩ :=
      report_effect false { t with invalidLogged := true, cardPresent := false }
    have marked : SameOutputs t { t with invalidLogged := true, cardPresent := false } :=
      ⟨rfl, rfl, rfl⟩
    exact ⟨marked.trans outputs, card, tick.trans valid⟩
  · rename_i absent
    exact ⟨⟨rfl, rfl, rfl⟩, by simpa using absent, valid⟩

theorem pollCard_effect (it : Iteration) (s : Reader) : PollEffect it s (pollCard true it s) := by
  unfold pollCard
  cases answered : piccRequestA it.reqa with
  | false =>
    have foreign : it.authorized = false := by simp [Iteration.authorized, answered]
    have read : it.unread = false := by simp [Iteration.unread, answered]
    rw [if_neg (by simp)]
    split
    · rename_i timeout
      rw [Bool.and_eq_true] at timeout
      obtain ⟨outputs, card, tick⟩ :=
        report_effect false { s with cardPresent := false, invalidLogged := false }
      have marked : SameOutputs s { s with cardPresent := false, invalidLogged := false } :=
        ⟨rfl, rfl, rfl⟩
      exact .silent foreign read (marked.trans outputs) (by simp [card, timeout.2]) tick
    · rename_i fresh
      refine .silent foreign read (sameOutputs_refl s) ?_ rfl
      cases present : s.cardPresent with
      | false => rfl
      | true => simpa [present] using fresh
  | true =>
    rw [if_pos rfl]
    cases uid : piccAnticoll it.anticoll with
    | none =>
      exact .collides (by simp [Iteration.unread, answered, uid])
        (by simp [Iteration.authorized, uid]) rfl
    | some uid =>
      have read : it.unread = false := by simp [Iteration.unread, uid]
      simp only
      split
      · rename_i known
        obtain ⟨outputs, card, tick⟩ := acceptCard_effect it.now s
        exact .accepts (by simp [Iteration.authorized, answered, uid, known]) outputs card tick
      · rename_i unknown
        obtain ⟨outputs, card, tick⟩ := rejectCard_effect s
        exact .rejects (by simp [Iteration.authorized, uid, unknown]) read outputs card tick

end SolarConnect.Rfid
