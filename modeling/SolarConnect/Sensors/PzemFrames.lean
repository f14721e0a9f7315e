import SolarConnect.Misc.Bytes
import SolarConnect.Misc.Crc
import SolarConnect.Sensors.Pzem

/-!
# AC meter frames

One Modbus exchange with the PZEM module (`pzem_reader.c:50-137`). A response is taken when its
CRC leaves the register at zero over the whole frame, so no burst of errors within 16 bits gets
past it: the read fails, the reading stays invalid, and the task publishes nothing.
-/

namespace SolarConnect.Pzem

open Bytes Crc

/-- The error codes that a read returns. -/
inductive EspErr
  | espOk
  | espFail
  | espErrInvalidArg
  | espErrInvalidState
  | espErrTimeout
  deriving DecidableEq, Repr

/-- `pzem_reading_t` with its flag `valid`. -/
structure PzemReadingT extends PzemReading where
  valid : Bool
  deriving DecidableEq, Repr

/-- `memset(out, 0, sizeof(*out))`. -/
def PzemReadingT.zero : PzemReadingT :=
  ⟨⟨0, 0, 0, 0⟩, false⟩

/-- What the UART driver does in one exchange: what `uart_write_bytes` and `uart_read_bytes`
    return, and the array `resp` after the read. -/
structure Uart where
  written : Int
  n : Int
  resp : List Byte

/-- One shift of `crc`. -/
def crcShift (crc : BitVec 16) : BitVec 16 :=
  if crc &&& 1 ≠ 0 then (crc >>> 1) ^^^ 0xA001 else crc >>> 1

/-- `pzem_modbus_crc16` (`pzem_reader.c:51-61`). -/
def pzemModbusCrc16 (buf : List Byte) (len : Nat) : BitVec 16 :=
  (buf.take len).foldl (fun crc b => crcShift^[8] (crc ^^^ b.setWidth 16)) 0xFFFF

/-- `PZEM_V3_RESPONSE_BYTES`. -/
def pzemV3ResponseBytes : Nat := 25

/-- The request `tx`: all ten input registers from the general address. -/
def pzemV3Request : List Byte :=
  let tx : List Byte := [0xF8, 0x04, 0x00, 0x00, 0x00, 0x0A]
  let crc := pzemModbusCrc16 tx 6
  tx ++ [crc.setWidth 8, (crc >>> 8).setWidth 8]

/-- The register at `i`, high byte first. -/
def word (resp : List Byte) (i : Nat) : BitVec 32 :=
  (byteAt resp i).setWidth 32 <<< 8 ||| (byteAt resp (i + 1)).setWidth 32

/-- The two registers from `i`, low word first. -/
def doubleWord (resp : List Byte) (i : Nat) : BitVec 32 :=
  word resp (i + 2) <<< 16 ||| word resp i

/-- `got_crc`, low byte first. -/
def gotCrc (resp : List Byte) : BitVec 16 :=
  (byteAt resp 23).setWidth 16 ||| (byteAt resp 24).setWidth 16 <<< 8

/-- The figures of a response; `fl` rounds to `float`. -/
def readingOf (fl : ℚ → ℚ) (resp : List Byte) : PzemReadingT where
  voltageV := fl (fl (word resp 3).toNat / 10)
  currentA := fl (fl (doubleWord resp 5).toNat / 1000)
  powerW := fl (fl (doubleWord resp 9).toNat / 10)
  energyWh := (doubleWord resp 13).toNat
  valid := true

/-- `pzem_v3_read` (`pzem_reader.c:80-137`). -/
def pzemV3Read (fl : ℚ → ℚ) (u : Uart) (out : PzemReadingT) : EspErr × PzemReadingT :=
  if u.written ≠ pzemV3Request.length then (.espFail, out)
  else if u.n ≤ 0 then (.espErrTimeout, out)
  else if u.n ≠ pzemV3ResponseBytes then (.espFail, out)
  else if byteAt u.resp 1 ≠ 0x04 ∨ byteAt u.resp 2 ≠ 20 then (.espFail, out)
  else if gotCrc u.resp ≠ pzemModbusCrc16 u.resp 23 then (.espFail, out)
  else (.espOk, readingOf fl u.resp)

/-- `pzem_reader_read` (`pzem_reader.c:311-326`); `none` is a null pointer. -/
def pzemReaderRead (fl : ℚ → ℚ) (initialized : Bool) (u : Uart) (out : Option PzemReadingT) :
    EspErr × Option PzemReadingT :=
  match out with
  | none => (.espErrInvalidArg, none)
  | some _ =>
    if !initialized then (.espErrInvalidState, some .zero)
    else
      let (err, out) := pzemV3Read fl u .zero
      (err, some out)

/-- The same exchange with the bits of the response in `errors` flipped on the line. -/
def Uart.noisy (u : Uart) (errors : Nat → Bool) : Uart :=
  { u with resp := flipBits errors u.resp }

/-! ## The residue of a frame -/

theorem crcShift_eq_shift : crcShift = Crc.shift 0xA001 := by
  funext crc
  have lowest : crc &&& 1 ≠ 0 ↔ crc.getLsbD 0 = true := by
    rw [show (1 : BitVec 16) = 1#16 from rfl, BitVec.and_one_eq_setWidth_ofBool_getLsbD]
    cases crc.getLsbD 0 <;> decide
  simp only [crcShift, Crc.shift, lowest]

theorem pzemModbusCrc16_eq_register (buf : List Byte) (len : Nat) :
    pzemModbusCrc16 buf len = register 0xA001 0xFFFF (buf.take len) := by
  rw [pzemModbusCrc16, crcShift_eq_shift]
  rfl

theorem crcBytes_eq {resp : List Byte} (full : resp.length = 25) :
    resp.drop 23 = [byteAt resp 23, byteAt resp 24] := by
  rw [cons_drop (by omega : 23 < resp.length), cons_drop (by omega : 24 < resp.length),
    List.drop_eq_nil_of_le (by omega)]

/-- The CRC bytes are in the order in which the register would take its own bits. -/
theorem gotCrc_getLsbD (resp : List Byte) (i : Nat) :
    (gotCrc resp).getLsbD i = (bitsOf [byteAt resp 23, byteAt resp 24]).getD i false := by
  have bits : bitsOf [byteAt resp 23, byteAt resp 24]
      = lowBits 8 (byteAt resp 23) ++ lowBits 8 (byteAt resp 24) := by
    simp [bitsOf]
  rw [bits, List.getD_eq_getElem?_getD]
  simp only [gotCrc, BitVec.getLsbD_or, BitVec.getLsbD_shiftLeft, BitVec.getLsbD_setWidth]
  by_cases low : i < 8
  · rw [List.getElem?_append_left (by simpa using low)]
    simp [lowBits, low, show i < 16 by omega]
  · rw [List.getElem?_append_right (by simpa using low), BitVec.getLsbD_of_ge _ i (by omega)]
    by_cases high : i < 16
    · simp [lowBits, low, high, show i - 8 < 8 by omega, show i - 8 < 16 by omega]
    · simp [lowBits, high, show ¬ i - 8 < 8 by omega]

/-- The CRC bytes match exactly when the register is back at zero after the whole frame. -/
theorem gotCrc_eq_iff {resp : List Byte} (full : resp.length = 25) :
    gotCrc resp = pzemModbusCrc16 resp 23 ↔ register 0xA001 0xFFFF resp = 0#16 := by
  have whole : register 0xA001 0xFFFF resp
      = register 0xA001 (pzemModbusCrc16 resp 23) [byteAt resp 23, byteAt resp 24] := by
    rw [pzemModbusCrc16_eq_register, ← crcBytes_eq full, register, register, register,
      ← List.foldl_append, List.take_append_drop]
  rw [whole, register_eq_zero_iff (by decide) (by omega) (Nat.le_refl 16)]
  constructor
  · intro same i
    rw [← same, gotCrc_getLsbD]
  · intro all
    apply BitVec.eq_of_getLsbD_eq
    intro i _
    rw [gotCrc_getLsbD, all]

/-! ## One exchange -/

/-- A full response is taken exactly when its header and its CRC are right. -/
theorem pzemV3Read_full (fl : ℚ → ℚ) {u : Uart} (sent : u.written = pzemV3Request.length)
    (full : u.n = pzemV3ResponseBytes) (out : PzemReadingT) :
    pzemV3Read fl u out =
      if byteAt u.resp 1 = 0x04 ∧ byteAt u.resp 2 = 20 ∧ gotCrc u.resp = pzemModbusCrc16 u.resp 23
        then (.espOk, readingOf fl u.resp) else (.espFail, out) := by
  have positive : ¬ u.n ≤ 0 := by simp [full, pzemV3ResponseBytes]
  simp only [pzemV3Read, sent, full, ne_eq, not_true_eq_false, if_false]
  rw [full] at positive
  rw [if_neg positive]
  split
  · next bad => rw [if_neg (by tauto)]
  · split
    · next bad => rw [if_neg (by tauto)]
    · rw [if_pos (by tauto)]

theorem pzemV3Read_ok {fl : ℚ → ℚ} {u : Uart} {out : PzemReadingT}
    (accepted : (pzemV3Read fl u out).1 = .espOk) :
    u.written = pzemV3Request.length ∧ u.n = pzemV3ResponseBytes ∧
      gotCrc u.resp = pzemModbusCrc16 u.resp 23 := by
  by_cases sent : u.written = pzemV3Request.length
  · by_cases full : u.n = pzemV3ResponseBytes
    · refine ⟨sent, full, ?_⟩
      rw [pzemV3Read_full fl sent full] at accepted
      split at accepted
      · next good => exact good.2.2
      · simp at accepted
    · simp only [pzemV3Read, sent, full, ne_eq, not_true_eq_false, not_false_eq_true, if_false,
        if_true] at accepted
      split at accepted <;> simp at accepted
  · simp [pzemV3Read, sent] at accepted

/-- A frame that was taken is not taken with a burst of errors in it. -/
theorem pzemV3Read_noisy {fl : ℚ → ℚ} {u : Uart} {out : PzemReadingT} (length : u.resp.length = 25)
    (accepted : (pzemV3Read fl u out).1 = .espOk) {errors : Nat → Bool} {start : Nat}
    (within : ∀ i < 8 * 25, errors i = true → start ≤ i ∧ i < start + 16)
    (flipped : ∃ i < 8 * 25, errors i = true) (out' : PzemReadingT) :
    pzemV3Read fl (u.noisy errors) out' = (.espFail, out') := by
  obtain ⟨sent, full, matched⟩ := pzemV3Read_ok accepted
  rw [gotCrc_eq_iff length] at matched
  rw [← length] at within flipped
  have residue := register_flipBits_ne (by decide) (by omega) within flipped matched
  have noisy : gotCrc (u.noisy errors).resp ≠ pzemModbusCrc16 (u.noisy errors).resp 23 := by
    rw [Ne, gotCrc_eq_iff (by simpa [Uart.noisy] using length)]
    exact residue
  rw [pzemV3Read_full fl (show (u.noisy errors).written = _ from sent)
    (show (u.noisy errors).n = _ from full), if_neg (fun good => noisy good.2.2)]

theorem pzemV3Read_error {fl : ℚ → ℚ} {u : Uart} {out : PzemReadingT}
    (error : (pzemV3Read fl u out).1 ≠ .espOk) : (pzemV3Read fl u out).2 = out := by
  revert error
  simp only [pzemV3Read]
  repeat' split
  all_goals simp

/-- After any error the reading holds zeros, `valid` among them. -/
theorem pzemReaderRead_error {fl : ℚ → ℚ} {initialized : Bool} {u : Uart}
    {out : Option PzemReadingT} (error : (pzemReaderRead fl initialized u out).1 ≠ .espOk) :
    ∀ r, (pzemReaderRead fl initialized u out).2 = some r → r = .zero := by
  intro r left
  cases out with
  | none => simp [pzemReaderRead] at left
  | some given =>
    cases initialized with
    | false => simpa [pzemReaderRead] using left.symm
    | true =>
      have kept : (pzemV3Read fl u .zero).2 = .zero := pzemV3Read_error error
      exact (Option.some.inj left).symm.trans kept

/-- Line noise is detected: a response that was taken is rejected after any burst of errors within
    16 consecutive bits, and the reader then returns an error and an invalid reading. -/
theorem pzem_detects_noise (fl : ℚ → ℚ) (u : Uart) (out : PzemReadingT)
    (length : u.resp.length = 25) (accepted : (pzemV3Read fl u out).1 = .espOk)
    (errors : Nat → Bool) (start : Nat)
    (within : ∀ i < 8 * 25, errors i = true → start ≤ i ∧ i < start + 16)
    (flipped : ∃ i < 8 * 25, errors i = true) :
    (∀ out, pzemV3Read fl (u.noisy errors) out = (.espFail, out)) ∧
      ∀ initialized out, (pzemReaderRead fl initialized (u.noisy errors) out).1 ≠ .espOk ∧
        ∀ r, (pzemReaderRead fl initialized (u.noisy errors) out).2 = some r →
          r.valid = false := by
  have rejected := pzemV3Read_noisy length accepted within flipped
  refine ⟨rejected, fun initialized out => ?_⟩
  have error : (pzemReaderRead fl initialized (u.noisy errors) out).1 ≠ .espOk := by
    cases out with
    | none => simp [pzemReaderRead]
    | some r => cases initialized <;> simp [pzemReaderRead, rejected]
  exact ⟨error, fun r left => congrArg PzemReadingT.valid (pzemReaderRead_error error r left)⟩

/-- The response of a meter at 230 V and 42 Wh, with two of its bits flipped. -/
theorem pzem_detects_noise_in_frame :
    let u : Uart := ⟨8, 25, [0xF8, 0x04, 20, 0x08, 0xFC, 0, 0, 0, 0, 0, 0, 0, 0, 0, 42, 0, 0, 0x01,
      0xF4, 0, 100, 0, 0, 0xA3, 0x4C]⟩
    (pzemV3Read id u .zero).1 = .espOk ∧
      ∀ out, pzemV3Read id (u.noisy fun i => i = 112 || i = 127) out = (.espFail, out) := by
  intro u
  have accepted : (pzemV3Read id u .zero).1 = .espOk := by decide +kernel
  have within : ∀ i < 8 * 25, (i = 112 || i = 127) = true → 112 ≤ i ∧ i < 112 + 16 := by
    intro i _ set
    simp only [Bool.or_eq_true, decide_eq_true_eq] at set
    omega
  exact ⟨accepted, (pzem_detects_noise id u .zero rfl accepted (fun i => i = 112 || i = 127) 112
    within ⟨112, by decide⟩).1⟩

end SolarConnect.Pzem
