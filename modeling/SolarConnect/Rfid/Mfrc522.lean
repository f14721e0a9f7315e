import SolarConnect.Rfid.PowerOutputs

/-!
# MFRC522 driver

The register accesses behind a poll of the card, on a chip of any behaviour: it answers each read
as it likes, or not at all. Every SPI transfer is recorded. The polling task on this bus does what
the task of the reader does with the answers taken from the bus, so that the outputs are on only
if the bytes of an authorized UID came over it.
-/

namespace SolarConnect.Rfid.Mfrc522

open Bytes Runs

/-- `esp_err_t`. -/
abbrev Err := Int

/-- `ESP_FAIL` and `ESP_ERR_TIMEOUT`. -/
def espFail : Err := -1
def espErrTimeout : Err := 0x107

/-! ## Registers -/

def regCommand : Byte := 0x01
def regComIrq : Byte := 0x04
def regError : Byte := 0x06
def regFifoData : Byte := 0x09
def regFifoLevel : Byte := 0x0A
def regBitFraming : Byte := 0x0D
def regColl : Byte := 0x0E
def regTxControl : Byte := 0x14

def cmdIdle : Byte := 0x00
def cmdTransceive : Byte := 0x0C

def piccReqa : Byte := 0x26
def piccSelCl1 : Byte := 0x93

/-- A transfer of two bytes: a register is written, or read with what came back, `none` for an
    error of the bus. -/
inductive Transfer
  | write (reg value : Byte)
  | read (reg : Byte) (answer : Option Byte)
  deriving DecidableEq, Repr

/-- What the chip at the other end does. -/
structure Chip (σ : Type) where
  write (reg value : Byte) : σ → σ
  read (reg : Byte) : σ → Option Byte × σ

/-- The state of the chip, and the transfers so far. -/
structure Bus (σ : Type) where
  chip : σ
  transfers : List Transfer

variable {σ : Type} (chip : Chip σ)

/-- The address byte of a register. -/
def address (reg : Byte) : Byte :=
  (reg <<< 1) &&& 0x7E

/-- `mfrc522_write` (`rfid_reader.c:84-92`); no caller looks at the result. -/
def mfrc522Write (reg value : Byte) (bus : Bus σ) : Bus σ :=
  let tx := address reg
  ⟨chip.write tx value bus.chip, bus.transfers ++ [.write tx value]⟩

/-- `mfrc522_read` (`rfid_reader.c:94-108`). -/
def mfrc522Read (reg : Byte) (bus : Bus σ) : Option Byte × Bus σ :=
  let tx := 0x80 ||| address reg
  let (answer, after) := chip.read tx bus.chip
  (answer, ⟨after, bus.transfers ++ [.read tx answer]⟩)

/-- `mfrc522_set_bits` (`rfid_reader.c:110-116`). -/
def mfrc522SetBits (reg mask : Byte) (bus : Bus σ) : Bus σ :=
  match mfrc522Read chip reg bus with
  | (some v, bus) => mfrc522Write chip reg (v ||| mask) bus
  | (none, bus) => bus

/-- `mfrc522_clear_bits` (`rfid_reader.c:118-124`). -/
def mfrc522ClearBits (reg mask : Byte) (bus : Bus σ) : Bus σ :=
  match mfrc522Read chip reg bus with
  | (some v, bus) => mfrc522Write chip reg (v &&& ~~~mask) bus
  | (none, bus) => bus

/-- `pcd_antenna_on` (`rfid_reader.c:126-132`). -/
def pcdAntennaOn (bus : Bus σ) : Bus σ :=
  match mfrc522Read chip regTxControl bus with
  | (some v, bus) =>
    if v &&& 0x03 ≠ 0x03 then mfrc522Write chip regTxControl (v ||| 0x03) bus else bus
  | (none, bus) => bus

/-- `pcd_antenna_off` (`rfid_reader.c:134-137`). -/
def pcdAntennaOff (bus : Bus σ) : Bus σ :=
  mfrc522ClearBits chip regTxControl 0x03 bus

/-! ## Frames -/

/-- Several registers written one after the other. -/
def writeAll (writes : List (Byte × Byte)) (bus : Bus σ) : Bus σ :=
  writes.foldl (fun bus w => mfrc522Write chip w.1 w.2 bus) bus

/-- What `pcd_transceive` writes to send a frame, up to the start of the command. -/
def frameWrites (tx : List Byte) (txLastBits : Byte) : List (Byte × Byte) :=
  [(regCommand, cmdIdle), (regComIrq, 0x7F), (regFifoLevel, 0x80)] ++
    tx.map (fun b => (regFifoData, b)) ++
    [(regBitFraming, txLastBits &&& 0x07), (regCommand, cmdTransceive)]

/-- The loop on `REG_COMIRQ`, with `deadline_ms` turns left. -/
def awaitIrq : Nat → Bus σ → Option Err × Bus σ
  | 0, bus => (some espErrTimeout, bus)
  | deadlineMs + 1, bus =>
    match mfrc522Read chip regComIrq bus with
    | (none, bus) => (some espFail, bus)
    | (some irq, bus) =>
      if irq &&& 0x30 ≠ 0 then (none, bus)
      else if irq &&& 0x01 ≠ 0 then (some espErrTimeout, bus)
      else awaitIrq deadlineMs bus

/-- The loop that reads the FIFO, `none` as soon as a read fails. -/
def readFifo : Nat → Bus σ → Option (List Byte) × Bus σ
  | 0, bus => (some [], bus)
  | left + 1, bus =>
    match mfrc522Read chip regFifoData bus with
    | (none, bus) => (none, bus)
    | (some b, bus) =>
      let (rest, bus) := readFifo left bus
      (rest.map (b :: ·), bus)

/-- The end of `pcd_transceive`, once the chip has signalled an answer. -/
def fetchAnswer (rxSize : Nat) (bus : Bus σ) : Except Err (List Byte) × Bus σ :=
  let bus := mfrc522ClearBits chip regBitFraming 0x80 bus
  let (errReg, bus) := mfrc522Read chip regError bus
  if errReg.any fun v => v &&& 0x13 != 0 then (.error espFail, bus)
  else
    match mfrc522Read chip regFifoLevel bus with
    | (none, bus) => (.error espFail, bus)
    | (some fifoLevel, bus) =>
      let (rx, bus) := readFifo chip (min fifoLevel.toNat rxSize) bus
      match rx with
      | none => (.error espFail, bus)
      | some rx => (.ok rx, bus)

/-- `pcd_transceive` (`rfid_reader.c:187-247`): the bytes stored in `rx`. -/
def pcdTransceive (tx : List Byte) (rxSize : Nat) (txLastBits : Byte) (bus : Bus σ) :
    Except Err (List Byte) × Bus σ :=
  let bus := writeAll chip (frameWrites tx txLastBits) bus
  let bus := mfrc522SetBits chip regBitFraming 0x80 bus
  let (err, bus) := awaitIrq chip 36 bus
  match err with
  | some err => (.error err, bus)
  | none => fetchAnswer chip rxSize bus

/-- `picc_request_a` (`rfid_reader.c:249-258`), with the bytes received. -/
def piccRequestA (bus : Bus σ) : Except Err (List Byte) × Bus σ :=
  let bus := mfrc522Write chip regColl 0x80 bus
  pcdTransceive chip [piccReqa] 2 7 bus

/-- The frame of `picc_anticoll`. -/
def anticollFrame : List Byte :=
  [piccSelCl1, 0x20]

/-- `picc_anticoll` (`rfid_reader.c:262-278`), with the bytes received. -/
def piccAnticoll (bus : Bus σ) : Except Err (List Byte) × Bus σ :=
  let bus := mfrc522Write chip regColl 0x80 bus
  pcdTransceive chip anticollFrame 5 0 bus

/-- `err == ESP_OK && len == 2`. -/
def requestAnswered : Except Err (List Byte) → Bool
  | .ok rx => rx.length == 2
  | .error _ => false

/-- What `picc_anticoll` makes of the bytes: the UID, `none` for the result `false`. -/
def anticollUid : Except Err (List Byte) → Option (List Byte)
  | .ok [a, b, c, d, check] => if a ^^^ b ^^^ c ^^^ d = check then some [a, b, c, d] else none
  | _ => none

/-! ## Polling task -/

/-- The loop body of `rfid_task` (`rfid_reader.c:339-408`) at tick `ticks`, with the battery's
    calls between its staleness check and the answer of the card. -/
def rfidTaskBody (enforceAuth : Bool) (ticks : Nat) (calls : List Bool) (s : Reader × Bus σ) :
    Reader × Bus σ :=
  let (reader, bus) := s
  let now : Tick := BitVec.ofNat 32 ticks
  let reader := setPortsAllowedAll calls (cutStalePower enforceAuth now reader)
  let (request, bus) := piccRequestA chip bus
  if requestAnswered request then
    let (anticoll, bus) := piccAnticoll chip bus
    let reader :=
      match anticollUid anticoll with
      | some uid =>
        if uidIsAuthorized uid then acceptCard now reader else rejectCard enforceAuth reader
      | none => reader
    (reader, pcdAntennaOn chip (pcdAntennaOff chip bus))
  else if reader.cardPresent && stale now reader then
    (report false { reader with cardPresent := false, invalidLogged := false }, bus)
  else (reader, bus)

/-- What happens: a call from the battery task, or an iteration of `rfid_task`. -/
inductive Turn
  | setPortsAllowed (allowed : Bool)
  | iteration (ticks : Nat) (calls : List Bool)
  deriving DecidableEq, Repr

/-- A turn in the production build. -/
def turn : Turn → Reader × Bus σ → Reader × Bus σ
  | .setPortsAllowed allowed, (reader, bus) => (rfidReaderSetPortsAllowed allowed reader, bus)
  | .iteration ticks calls, s => rfidTaskBody chip true ticks calls s

/-- Reader and bus after the turns, from the start of the task. -/
def after (reader : Reader) (bus : Bus σ) (turns : List Turn) : Reader × Bus σ :=
  run (turn chip) (rfidReaderStart true reader, bus) turns

/-! ## What comes over the bus -/

/-- The transfers of several writes. -/
def wrote (writes : List (Byte × Byte)) : List Transfer :=
  writes.map fun w => .write (address w.1) w.2

/-- The transfers that read bytes from the FIFO. -/
def fetched (rx : List Byte) : List Transfer :=
  rx.map fun b => .read (0x80 ||| address regFifoData) (some b)

section
variable (chip : Chip σ)

@[simp] theorem mfrc522Write_transfers (reg value : Byte) (bus : Bus σ) :
    (mfrc522Write chip reg value bus).transfers = bus.transfers ++ wrote [(reg, value)] :=
  rfl

theorem mfrc522Read_transfers (reg : Byte) (bus : Bus σ) :
    (mfrc522Read chip reg bus).2.transfers =
      bus.transfers ++ [.read (0x80 ||| address reg) (mfrc522Read chip reg bus).1] :=
  rfl

theorem mfrc522Read_grows (reg : Byte) (bus : Bus σ) :
    bus.transfers <+: (mfrc522Read chip reg bus).2.transfers :=
  List.prefix_append _ _

theorem mfrc522SetBits_grows (reg mask : Byte) (bus : Bus σ) :
    bus.transfers <+: (mfrc522SetBits chip reg mask bus).transfers := by
  have read := mfrc522Read_grows chip reg bus
  unfold mfrc522SetBits
  split
  · rename_i v after answer
    rw [answer] at read
    exact read.trans (List.prefix_append _ _)
  · rename_i after answer
    rw [answer] at read
    exact read

theorem mfrc522ClearBits_grows (reg mask : Byte) (bus : Bus σ) :
    bus.transfers <+: (mfrc522ClearBits chip reg mask bus).transfers := by
  have read := mfrc522Read_grows chip reg bus
  unfold mfrc522ClearBits
  split
  · rename_i v after answer
    rw [answer] at read
    exact read.trans (List.prefix_append _ _)
  · rename_i after answer
    rw [answer] at read
    exact read

theorem writeAll_transfers (writes : List (Byte × Byte)) (bus : Bus σ) :
    (writeAll chip writes bus).transfers = bus.transfers ++ wrote writes := by
  induction writes generalizing bus with
  | nil => exact (List.append_nil _).symm
  | cons w writes ih =>
    have rest := ih (mfrc522Write chip w.1 w.2 bus)
    rw [mfrc522Write_transfers, List.append_assoc] at rest
    exact rest

theorem awaitIrq_grows (deadlineMs : Nat) (bus : Bus σ) :
    bus.transfers <+: (awaitIrq chip deadlineMs bus).2.transfers := by
  induction deadlineMs generalizing bus with
  | zero => exact List.prefix_rfl
  | succ deadlineMs ih =>
    have read := mfrc522Read_grows chip regComIrq bus
    unfold awaitIrq
    split
    · rename_i after answer
      rw [answer] at read
      exact read
    · rename_i irq after answer
      rw [answer] at read
      split
      · exact read
      split
      · exact read
      · exact read.trans (ih after)

variable {chip}

/-- The bytes are those that the last reads have brought. -/
theorem readFifo_transfers {left : Nat} {bus : Bus σ} {rx : List Byte}
    (received : (readFifo chip left bus).1 = some rx) :
    (readFifo chip left bus).2.transfers = bus.transfers ++ fetched rx ∧ rx.length = left := by
  induction left generalizing bus rx with
  | zero =>
    cases received
    exact ⟨(List.append_nil _).symm, rfl⟩
  | succ left ih =>
    have read := mfrc522Read_transfers chip regFifoData bus
    unfold readFifo at received ⊢
    split at received
    · cases received
    · rename_i b next answer
      obtain ⟨rest, found, rfl⟩ := Option.map_eq_some_iff.mp received
      obtain ⟨transfers, length⟩ := ih found
      rw [answer] at read
      refine ⟨?_, by rw [List.length_cons, length]⟩
      dsimp only at read ⊢
      rw [transfers, read, List.append_assoc]
      rfl

theorem fetchAnswer_transfers {rxSize : Nat} {bus : Bus σ} {rx : List Byte}
    (received : (fetchAnswer chip rxSize bus).1 = .ok rx) :
    (∃ front, bus.transfers <+: front ∧
      (fetchAnswer chip rxSize bus).2.transfers = front ++ fetched rx) ∧ rx.length ≤ rxSize := by
  have cleared := mfrc522ClearBits_grows chip regBitFraming 0x80 bus
  unfold fetchAnswer at received ⊢
  dsimp only at received ⊢
  generalize mfrc522ClearBits chip regBitFraming 0x80 bus = bus₁ at *
  have checked := cleared.trans (mfrc522Read_grows chip regError bus₁)
  generalize mfrc522Read chip regError bus₁ = error at *
  split at received
  · cases received
  · rename_i clean
    have level := checked.trans (mfrc522Read_grows chip regFifoLevel error.2)
    rw [if_neg clean]
    generalize mfrc522Read chip regFifoLevel error.2 = found at *
    obtain ⟨_ | fifoLevel, bus₂⟩ := found
    · cases received
    · dsimp only at received ⊢
      cases bytes : (readFifo chip (min fifoLevel.toNat rxSize) bus₂).1 with
      | none =>
        rw [bytes] at received
        cases received
      | some rx' =>
        rw [bytes] at received
        cases received
        obtain ⟨transfers, length⟩ := readFifo_transfers bytes
        exact ⟨⟨bus₂.transfers, level, transfers⟩, length.trans_le (Nat.min_le_right _ _)⟩

/-- A frame that is answered: it is written to the FIFO, and the answer is what is read from there
    at the end. -/
theorem pcdTransceive_transfers {tx : List Byte} {rxSize : Nat} {txLastBits : Byte} {bus : Bus σ}
    {rx : List Byte} (received : (pcdTransceive chip tx rxSize txLastBits bus).1 = .ok rx) :
    (∃ busy, (pcdTransceive chip tx rxSize txLastBits bus).2.transfers =
      bus.transfers ++ wrote (frameWrites tx txLastBits) ++ busy ++ fetched rx) ∧
        rx.length ≤ rxSize := by
  have sent := writeAll_transfers chip (frameWrites tx txLastBits) bus
  unfold pcdTransceive at received ⊢
  dsimp only at received ⊢
  generalize writeAll chip (frameWrites tx txLastBits) bus = bus₁ at *
  have started := mfrc522SetBits_grows chip regBitFraming 0x80 bus₁
  generalize mfrc522SetBits chip regBitFraming 0x80 bus₁ = bus₂ at *
  have waited := started.trans (awaitIrq_grows chip 36 bus₂)
  generalize awaitIrq chip 36 bus₂ = irq at *
  obtain ⟨_ | err, bus₃⟩ := irq
  · obtain ⟨⟨front, grows, transfers⟩, length⟩ := fetchAnswer_transfers received
    obtain ⟨busy, rfl⟩ := waited.trans grows
    refine ⟨⟨busy, ?_⟩, length⟩
    rw [transfers, sent]
  · cases received

end

/-! ## The reader's task on this bus -/

theorem requestAnswered_eq {r : Except Err (List Byte)} (short : ∀ rx, r = .ok rx → rx.length ≤ 2) :
    Rfid.piccRequestA r.toOption = requestAnswered r := by
  cases r with
  | error err => rfl
  | ok rx =>
    have whole : rx.take 2 = rx := List.take_of_length_le (short rx rfl)
    simp [Rfid.piccRequestA, Rfid.pcdTransceive, Except.toOption, requestAnswered, whole]

theorem anticollUid_eq {r : Except Err (List Byte)} (short : ∀ rx, r = .ok rx → rx.length ≤ 5) :
    Rfid.piccAnticoll r.toOption = anticollUid r := by
  cases r with
  | error err => rfl
  | ok rx =>
    have whole : rx.take 5 = rx := List.take_of_length_le (short rx rfl)
    unfold Rfid.piccAnticoll Rfid.pcdTransceive Except.toOption
    rw [Option.map_some, whole]
    rcases rx with _ | ⟨a, _ | ⟨b, _ | ⟨c, _ | ⟨d, _ | ⟨check, _ | ⟨more, rx⟩⟩⟩⟩⟩⟩
    all_goals rfl

/-- What an iteration finds when the answers come over the bus. -/
def heard (ticks : Nat) (bus : Bus σ) : Iteration :=
  let request := piccRequestA chip bus
  { ticks
    reqa := request.1.toOption
    anticoll := if requestAnswered request.1 then (piccAnticoll chip request.2).1.toOption
      else none }

theorem heard_request (ticks : Nat) (bus : Bus σ) :
    Rfid.piccRequestA (heard chip ticks bus).reqa = requestAnswered (piccRequestA chip bus).1 :=
  requestAnswered_eq fun _ received => (pcdTransceive_transfers received).2

theorem heard_anticoll {ticks : Nat} {bus : Bus σ}
    (answered : requestAnswered (piccRequestA chip bus).1 = true) :
    Rfid.piccAnticoll (heard chip ticks bus).anticoll =
      anticollUid (piccAnticoll chip (piccRequestA chip bus).2).1 := by
  have taken : (heard chip ticks bus).anticoll =
      (piccAnticoll chip (piccRequestA chip bus).2).1.toOption := by
    rw [heard, answered, if_pos rfl]
  rw [taken]
  exact anticollUid_eq fun _ received => (pcdTransceive_transfers received).2

/-- An iteration on the bus is one of the reader's task. -/
theorem rfidTaskBody_reader (ticks : Nat) (calls : List Bool) (s : Reader × Bus σ) :
    (rfidTaskBody chip true ticks calls s).1 =
      step (.iteration (heard chip ticks s.2) calls) s.1 := by
  obtain ⟨reader, bus⟩ := s
  have now : (heard chip ticks bus).now = BitVec.ofNat 32 ticks := rfl
  have request := heard_request chip ticks bus
  unfold rfidTaskBody step pollCard
  dsimp only
  rw [now, request]
  cases answered : requestAnswered (piccRequestA chip bus).1 with
  | false =>
    simp only [Bool.false_eq_true, if_false]
    split
    · rfl
    · rfl
  | true =>
    have card : Rfid.piccAnticoll (heard chip ticks bus).anticoll = _ :=
      heard_anticoll chip answered
    simp only [if_true]
    cases found : anticollUid (piccAnticoll chip (piccRequestA chip bus).2).1 with
    | none => simp only [card.trans found]
    | some uid => simp only [card.trans found]

/-- What the reader's task finds in these turns. -/
def history (bus : Bus σ) : List Turn → List Event
  | [] => []
  | .setPortsAllowed allowed :: turns => .setPortsAllowed allowed :: history bus turns
  | .iteration ticks calls :: turns =>
    .iteration (heard chip ticks bus) calls ::
      history (rfidTaskBody chip true ticks calls (.boot (fun _ => 0) false, bus)).2 turns

/-- The transfers of an iteration do not depend on the reader. -/
theorem rfidTaskBody_bus (ticks : Nat) (calls : List Bool) (reader reader' : Reader)
    (bus : Bus σ) : (rfidTaskBody chip true ticks calls (reader, bus)).2 =
      (rfidTaskBody chip true ticks calls (reader', bus)).2 := by
  have only : ∀ reader, (rfidTaskBody chip true ticks calls (reader, bus)).2 =
      if requestAnswered (piccRequestA chip bus).1 then
        pcdAntennaOn chip (pcdAntennaOff chip (piccAnticoll chip (piccRequestA chip bus).2).2)
      else (piccRequestA chip bus).2 := by
    intro reader
    unfold rfidTaskBody
    dsimp only
    split
    · rfl
    split
    · rfl
    · rfl
  rw [only, only]

/-- The turns on the bus are simulated by the reader's task. -/
theorem run_reader (turns : List Turn) (s : Reader × Bus σ) :
    (run (turn chip) s turns).1 = run step s.1 (history chip s.2 turns) := by
  induction turns generalizing s with
  | nil => rfl
  | cons t turns ih =>
    obtain ⟨reader, bus⟩ := s
    have rest := ih (turn chip t (reader, bus))
    change (run (turn chip) (turn chip t (reader, bus)) turns).1 = _
    rw [rest]
    cases t with
    | setPortsAllowed allowed => rfl
    | iteration ticks calls =>
      have reads := rfidTaskBody_reader chip ticks calls (reader, bus)
      have same := rfidTaskBody_bus chip ticks calls reader (.boot (fun _ => 0) false) bus
      dsimp only [turn, history] at reads ⊢
      rw [reads, same]
      rfl

/-! ## Where the power comes from -/

/-- The tick of an iteration. -/
def Turn.ticks? : Turn → Option Nat
  | .setPortsAllowed _ => none
  | .iteration ticks _ => some ticks

/-- The transfers of an iteration. -/
def transfersOf (ticks : Nat) (calls : List Bool) (s : Reader × Bus σ) : List Transfer :=
  (rfidTaskBody chip true ticks calls s).2.transfers.drop s.2.transfers.length

/-- The transfers hold the frame of the anticollision and, as its answer, this UID with its check
    byte. -/
def Brings (uid : List Byte) (transfers : List Transfer) : Prop :=
  ∃ front busy rest, transfers = front ++ wrote (frameWrites anticollFrame 0) ++ busy ++
    fetched (uid ++ [uid.foldl (· ^^^ ·) 0]) ++ rest

theorem history_ticks (bus : Bus σ) (turns : List Turn) :
    (history chip bus turns).filterMap Event.ticks? = turns.filterMap Turn.ticks? := by
  induction turns generalizing bus with
  | nil => rfl
  | cons t turns ih =>
    cases t with
    | setPortsAllowed allowed => exact ih bus
    | iteration ticks calls => exact congrArg (ticks :: ·) (ih _)

/-- A read that the task has found authorized, back on the bus. -/
theorem authorized_turn {s : Reader × Bus σ} {turns : List Turn} {read : Nat}
    (found : read ∈ (history chip s.2 turns).filterMap Event.authorizedTicks?) :
    ∃ earlier calls later, turns = earlier ++ .iteration read calls :: later ∧
      (heard chip read (run (turn chip) s earlier).2).authorized = true := by
  induction turns generalizing s with
  | nil => cases found
  | cons t turns ih =>
    -- The transfers are the same for every reader, so the rest starts on the same bus.
    have later : ∀ {t}, read ∈ (history chip (turn chip t s).2 turns).filterMap
        Event.authorizedTicks? →
          ∃ earlier calls later, t :: turns = earlier ++ .iteration read calls :: later ∧
            (heard chip read (run (turn chip) s earlier).2).authorized = true := by
      intro t found
      obtain ⟨earlier, calls, later, rfl, authorized⟩ := ih found
      exact ⟨t :: earlier, calls, later, rfl, authorized⟩
    cases t with
    | setPortsAllowed allowed => exact later found
    | iteration ticks calls =>
      have same := rfidTaskBody_bus chip ticks calls s.1 (.boot (fun _ => 0) false) s.2
      rw [history, ← same, List.filterMap_cons] at found
      cases authorized : (heard chip ticks s.2).authorized with
      | false =>
        simp only [Event.authorizedTicks?, authorized, Bool.false_eq_true, if_false] at found
        exact later found
      | true =>
        simp only [Event.authorizedTicks?, authorized, if_true] at found
        rcases List.mem_cons.mp found with rfl | found
        · exact ⟨[], calls, turns, rfl, authorized⟩
        · exact later found

/-- The UID is read with the byte that makes up its check sum. -/
theorem anticollUid_received {r : Except Err (List Byte)} {uid : List Byte}
    (read : anticollUid r = some uid) : r = .ok (uid ++ [uid.foldl (· ^^^ ·) 0]) := by
  unfold anticollUid at read
  split at read
  · rename_i a b c d check
    split at read
    · rename_i sum
      cases read
      subst sum
      simp
    · cases read
  · cases read

theorem pcdAntenna_grows (bus : Bus σ) :
    bus.transfers <+: (pcdAntennaOn chip (pcdAntennaOff chip bus)).transfers := by
  have off : bus.transfers <+: (pcdAntennaOff chip bus).transfers :=
    mfrc522ClearBits_grows chip regTxControl 0x03 bus
  have read := off.trans (mfrc522Read_grows chip regTxControl (pcdAntennaOff chip bus))
  unfold pcdAntennaOn
  generalize mfrc522Read chip regTxControl (pcdAntennaOff chip bus) = answer at *
  obtain ⟨_ | v, after⟩ := answer
  · exact read
  · dsimp only
    split
    · exact read.trans (List.prefix_append _ _)
    · exact read

/-- The answer to REQA. -/
theorem piccRequestA_grows {bus : Bus σ}
    (answered : requestAnswered (piccRequestA chip bus).1 = true) :
    bus.transfers <+: (piccRequestA chip bus).2.transfers := by
  cases received : (piccRequestA chip bus).1 with
  | error err => simp [received, requestAnswered] at answered
  | ok rx =>
    obtain ⟨⟨busy, transfers⟩, -⟩ := pcdTransceive_transfers received
    refine ⟨wrote [(regColl, 0x80)] ++ wrote (frameWrites [piccReqa] 7) ++ busy ++ fetched rx, ?_⟩
    rw [piccRequestA, transfers, mfrc522Write_transfers]
    simp only [List.append_assoc]

/-- An iteration that finds an authorized card has its UID from the bus. -/
theorem brings_of_authorized {ticks : Nat} {s : Reader × Bus σ}
    (authorized : (heard chip ticks s.2).authorized = true) (calls : List Bool) :
    ∃ uid ∈ validUids, Brings uid (transfersOf chip ticks calls s) := by
  obtain ⟨reader, bus⟩ := s
  rw [Iteration.authorized, heard_request, Bool.and_eq_true] at authorized
  obtain ⟨answered, known⟩ := authorized
  rw [heard_anticoll chip answered, Option.any_eq_true] at known
  obtain ⟨uid, read, valid⟩ := known
  refine ⟨uid, by simpa [uidIsAuthorized] using valid, ?_⟩
  obtain ⟨⟨busy, transfers⟩, -⟩ := pcdTransceive_transfers (anticollUid_received read)
  rw [mfrc522Write_transfers] at transfers
  obtain ⟨front, request⟩ := piccRequestA_grows chip answered
  obtain ⟨rest, bounce⟩ :=
    pcdAntenna_grows chip (piccAnticoll chip (piccRequestA chip bus).2).2
  have ends : (rfidTaskBody chip true ticks calls (reader, bus)).2 =
      pcdAntennaOn chip (pcdAntennaOff chip (piccAnticoll chip (piccRequestA chip bus).2).2) := by
    simp [rfidTaskBody, answered]
  refine ⟨front ++ wrote [(regColl, 0x80)], busy, rest, ?_⟩
  dsimp only at transfers request
  rw [transfersOf, ends, ← bounce, piccAnticoll, transfers, ← request]
  simp [List.append_assoc]

/-- Whatever the chip does, and however the calls of the battery fall: an output is high after the
    staleness check of an iteration only if, within the presence timeout, the anticollision frame
    was sent over the bus and an authorized UID with the right check byte read from it. -/
theorem power_from_bus (reader : Reader) (bus : Bus σ) (turns : List Turn) (ticks : Nat)
    (close : ((turns ++ [Turn.iteration ticks []]).filterMap Turn.ticks?).IsChain Close) :
    let s := after chip reader bus turns
    ∀ pin ∈ powerPins, (cutStalePower true (BitVec.ofNat 32 ticks) s.1).gpio pin = 1 →
      ∃ earlier read calls later uid, turns = earlier ++ .iteration read calls :: later ∧
        read ≤ ticks ∧ ticks ≤ read + timeoutTicks ∧ uid ∈ validUids ∧
          Brings uid (transfersOf chip read calls (after chip reader bus earlier)) := by
  intro s pin power high
  let it : Iteration := ⟨ticks, none, none⟩
  have same : s.1 = readerAfter reader (history chip bus turns) := run_reader chip turns _
  have spaced : Spaced (history chip bus turns ++ [.iteration it []]) := by
    rw [Spaced, List.filterMap_append, history_ticks]
    rwa [List.filterMap_append] at close
  have permitted := readerAfter_permitted reader (history chip bus turns)
  rw [same] at high
  have active : (cutStalePower true it.now
      (readerAfter reader (history chip bus turns))).portsActive = true := by
    have levels := (permitted.cut it.now).levels pin power
    change (cutStalePower true it.now _).gpio pin = 1 at high
    rw [high] at levels
    by_contra off
    simp [off] at levels
  obtain ⟨read, found, later, near⟩ :=
    ((readerAfter_lastInTime reader spaced.next.1).cut spaced).recent active
  obtain ⟨earlier, calls, rest, rfl, authorized⟩ :=
    authorized_turn chip (s := (rfidReaderStart true reader, bus)) found
  obtain ⟨uid, valid, brings⟩ := brings_of_authorized chip authorized calls
  exact ⟨earlier, read, calls, rest, uid, rfl, later, near, valid, brings⟩

/-- A chip that answers its reads from a list, and then no more. -/
def scripted : Chip (List Byte) where
  write _ _ answers := answers
  read _ answers := (answers.head?, answers.tail)

/-- The answers to a poll of the first authorized card. -/
def cardAnswers : List Byte :=
  [0x07, 0x20, 0x87, 0x00, 2, 0x04, 0x00] ++
    [0x00, 0x20, 0x80, 0x00, 5, 0x43, 0x79, 0xAD, 0x38, 0xAF] ++ [0x83, 0x80]

/-- The card is polled, and the battery task confirms that the ports are allowed. -/
def cardHeld : List Turn :=
  [.iteration 100 [], .setPortsAllowed true]

theorem power_from_bus_held :
    ∃ earlier read calls later uid, cardHeld = earlier ++ .iteration read calls :: later ∧
      read ≤ 150 ∧ 150 ≤ read + timeoutTicks ∧ uid ∈ validUids ∧
        Brings uid (transfersOf scripted read calls
          (after scripted (.boot (fun _ => 0) false) ⟨cardAnswers, []⟩ earlier)) := by
  have close : [100, 150].IsChain Close := List.isChain_pair.mpr ⟨by decide, by decide⟩
  exact power_from_bus scripted (.boot (fun _ => 0) false) ⟨cardAnswers, []⟩ cardHeld 150 close 12
    (by decide) (by decide +kernel)

end SolarConnect.Rfid.Mfrc522
