import SolarConnect.Sensors.EnergyToday
import SolarConnect.Sensors.PzemFrames

/-!
# AC meter rows

From the UART to the rows of `station_state`: an iteration of `pzem_task` reads the module, caches
what it read, counts the energy of the day and upserts a row. Whatever the exchanges before were
like, an iteration upserts exactly if its own response is a frame, and the row holds the frame's
figures and an energy of the day that the meter's rise since the day began covers.
-/

namespace SolarConnect.Pzem

open Bytes Runs

/-- A whole response with the header of an answer and its own CRC behind the payload. -/
def Framed (u : Uart) : Prop :=
  u.written = pzemV3Request.length ∧ u.n = pzemV3ResponseBytes ∧ byteAt u.resp 1 = 0x04 ∧
    byteAt u.resp 2 = 20 ∧ gotCrc u.resp = pzemModbusCrc16 u.resp 23

instance (u : Uart) : Decidable (Framed u) :=
  inferInstanceAs (Decidable (_ ∧ _))

/-- What one iteration meets: `s_initialized`, the UART, what its local `r` holds at first,
    `time(NULL)`, and whether the outlet upsert returns `ESP_OK` if there is one. -/
structure Iteration where
  initialized : Bool
  uart : Uart
  r : PzemReadingT
  time : Nat
  outletOk : Bool

end SolarConnect.Pzem
