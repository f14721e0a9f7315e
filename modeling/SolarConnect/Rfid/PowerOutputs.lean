import SolarConnect.Rfid.Reader
import SolarConnect.Misc.Runs
import Mathlib.Algebra.Group.Nat.Defs
import Mathlib.Data.List.Chain
import Mathlib.Data.List.Induction

/-!
# Power outputs

The outputs are on only while the battery allows them and an authorized card was read within
the presence timeout. The battery task can call its override between any two iterations of the
RFID task, and within one while the chip is asked for a card. `last_valid_tick` is compared in
32-bit arithmetic, which is exact as long as two iterations are not too far apart.
-/

namespace SolarConnect.Rfid

open Bytes Runs

/-- What happens to the reader: a call of `rfid_reader_set_ports_allowed`, or an iteration of
    `rfid_task`, with the calls that come between its staleness check and the card's answer. -/
inductive Event where
  | setPortsAllowed (allowed : Bool)
  | iteration (it : Iteration) (calls : List Bool)
  deriving DecidableEq, Repr

/-- Calls of `rfid_reader_set_ports_allowed`, in order. -/
def setPortsAllowedAll (calls : List Bool) (s : Reader) : Reader :=
  run rfidReaderSetPortsAllowed s calls

/-- An event in the production build. -/
def step : Event → Reader → Reader
  | .setPortsAllowed allowed, s => rfidReaderSetPortsAllowed allowed s
  | .iteration it calls, s =>
    pollCard true it (setPortsAllowedAll calls (cutStalePower true it.now s))

/-- The reader after the events of a history, from its start. -/
def readerAfter (s : Reader) (history : List Event) : Reader :=
  run step (rfidReaderStart true s) history

/-- The tick of an iteration. -/
def Event.ticks? : Event → Option Nat
  | .setPortsAllowed _ => none
  | .iteration it _ => some it.ticks

/-- The tick of an iteration that reads an authorized UID. -/
def Event.authorizedTicks? : Event → Option Nat
  | .setPortsAllowed _ => none
  | .iteration it _ => if it.authorized then some it.ticks else none

/-- The second iteration is not earlier, and less than `2 ^ 32 - timeout_ticks` ticks later. -/
def Close (ticks ticks' : Nat) : Prop :=
  ticks ≤ ticks' ∧ ticks' < ticks + (2 ^ 32 - timeoutTicks)

/-- Consecutive iterations are close. -/
def Spaced (history : List Event) : Prop :=
  (history.filterMap Event.ticks?).IsChain Close

/-- An authorized UID was read at most `timeout_ticks` before `ticks`. -/
def ReadRecently (history : List Event) (ticks : Nat) : Prop :=
  ∃ read ∈ history.filterMap Event.authorizedTicks?, read ≤ ticks ∧ ticks ≤ read + timeoutTicks

/-- All six outputs have the level of `s_ports_active`, which is set only if the battery allows
    it. -/
structure Permitted (s : Reader) : Prop where
  levels : ∀ pin ∈ powerPins, s.gpio pin = if s.portsActive then 1 else 0
  allowed : s.portsActive = true → s.portsAllowedByBattery = true

/-! ## Levels and the override -/

theorem setPowerPins_level (level : Nat) (gpio : Nat → Nat) {pin : Nat} (power : pin ∈ powerPins) :
    setPowerPins level gpio pin = level := by
  have loop : ∀ (pins : List Nat) (gpio : Nat → Nat),
      gpio pin = level ∨ pin ∈ pins →
        pins.foldl (fun gpio pin => Function.update gpio pin level) gpio pin = level := by
    intro pins
    induction pins with
    | nil =>
      rintro gpio (done | never)
      · exact done
      · cases never
    | cons p pins ih =>
      intro gpio set
      apply ih
      show Function.update gpio p level pin = level ∨ pin ∈ pins
      rcases eq_or_ne pin p with rfl | different
      · exact Or.inl (Function.update_self _ _ _)
      · rw [Function.update_of_ne different]
        rcases set with done | later
        · exact Or.inl done
        · exact Or.inr ((List.mem_cons.mp later).resolve_left different)
  exact loop powerPins gpio (Or.inr power)

theorem permitted_start (s : Reader) : Permitted (rfidReaderStart true s) := by
  refine ⟨?_, ?_⟩
  · intro pin power
    exact setPowerPins_level 0 s.gpio power
  · intro active
    cases active

theorem Permitted.setPowerState {s : Reader} (on : Bool) (levels : ∀ pin ∈ powerPins,
    s.gpio pin = if s.portsActive then 1 else 0) : Permitted (setPowerState on s) := by
  refine ⟨?_, ?_⟩
  · intro pin power
    unfold Rfid.setPowerState
    dsimp only
    split
    · exact levels pin power
    · exact setPowerPins_level _ _ power
  · intro active
    rw [setPowerState_active, Bool.and_eq_true] at active
    rw [setPowerState_allowed]
    exact active.2

theorem Permitted.of_same {s s' : Reader} (permitted : Permitted s) (same : SameOutputs s s') :
    Permitted s' := by
  refine ⟨?_, ?_⟩
  · rw [same.gpio, same.active]
    exact permitted.levels
  · rw [same.active, same.allowed]
    exact permitted.allowed

/-- An override call keeps the outputs within what is permitted. -/
theorem Permitted.override {s : Reader} (permitted : Permitted s) (allowed : Bool) :
    Permitted (rfidReaderSetPortsAllowed allowed s) := by
  unfold rfidReaderSetPortsAllowed
  split
  · exact permitted
  · dsimp only
    split
    · exact Permitted.setPowerState false permitted.levels
    · rename_i kept
      refine ⟨permitted.levels, ?_⟩
      intro active
      have : s.portsActive = true := active
      simpa [this] using kept

theorem Permitted.overrides {s : Reader} (permitted : Permitted s) (calls : List Bool) :
    Permitted (setPortsAllowedAll calls s) :=
  run_invariant_always Permitted calls permitted fun allowed _ permitted =>
    permitted.override allowed

theorem Permitted.cut {s : Reader} (permitted : Permitted s) (now : Tick) :
    Permitted (cutStalePower true now s) := by
  unfold cutStalePower
  split
  · exact Permitted.setPowerState false permitted.levels
  · exact permitted

theorem Permitted.poll {s : Reader} (permitted : Permitted s) (it : Iteration) :
    Permitted (pollCard true it s) := by
  cases pollCard_effect it s with
  | accepts authorized outputs =>
    exact (Permitted.setPowerState true permitted.levels).of_same outputs
  | rejects foreign read outputs =>
    exact (Permitted.setPowerState false permitted.levels).of_same outputs
  | collides unread foreign same =>
    rw [same]
    exact permitted
  | silent foreign read outputs => exact permitted.of_same outputs

theorem Permitted.step {s : Reader} (permitted : Permitted s) (e : Event) :
    Permitted (step e s) := by
  cases e with
  | setPortsAllowed allowed => exact permitted.override allowed
  | iteration it calls => exact ((permitted.cut it.now).overrides calls).poll it

theorem readerAfter_permitted (s : Reader) (history : List Event) :
    Permitted (readerAfter s history) :=
  run_invariant_always Permitted history (permitted_start s) fun e _ permitted => permitted.step e

/-! ## Staleness -/

theorem timeoutTicks_lt : timeoutTicks < 2 ^ 32 := by
  decide

/-- The 32-bit difference of two ticks that are less than `2 ^ 32` apart. -/
theorem elapsed {read ticks : Nat} (later : read ≤ ticks) (near : ticks < read + 2 ^ 32) :
    (BitVec.ofNat 32 ticks - BitVec.ofNat 32 read).toNat = ticks - read := by
  rw [BitVec.toNat_sub, BitVec.toNat_ofNat, BitVec.toNat_ofNat]
  omega

/-- `last_valid_tick` is the tick of a read within the presence timeout. -/
def InTime (history : List Event) (ticks : Nat) (s : Reader) : Prop :=
  s.portsActive = true → ∃ read ∈ history.filterMap Event.authorizedTicks?,
    s.lastValidTick = BitVec.ofNat 32 read ∧ read ≤ ticks ∧ ticks ≤ read + timeoutTicks

theorem InTime.recent {history : List Event} {ticks : Nat} {s : Reader}
    (inTime : InTime history ticks s) (active : s.portsActive = true) :
    ReadRecently history ticks := by
  obtain ⟨read, member, -, later, near⟩ := inTime active
  exact ⟨read, member, later, near⟩

/-- Power that is on after the staleness check was on before, and is not stale. -/
theorem cutStalePower_kept {now : Tick} {s : Reader}
    (active : (cutStalePower true now s).portsActive = true) :
    cutStalePower true now s = s ∧ s.portsActive = true ∧ stale now s = false := by
  unfold cutStalePower at active ⊢
  split at active
  · simp at active
  · rename_i fresh
    rw [if_neg fresh]
    exact ⟨rfl, active, by simpa [active] using fresh⟩

/-- The staleness check of the next iteration. -/
theorem InTime.cut {history : List Event} {last : Nat} {s : Reader} {it : Iteration}
    (inTime : InTime history last s) (close : Close last it.ticks) :
    InTime history it.ticks (cutStalePower true it.now s) := by
  intro active
  obtain ⟨same, before, fresh⟩ := cutStalePower_kept active
  rw [same]
  obtain ⟨read, member, valid, later, near⟩ := inTime before
  have reach : it.ticks < read + 2 ^ 32 := by
    have bound := timeoutTicks_lt
    have next := close.2
    omega
  rw [stale, valid, Iteration.now, elapsed (later.trans close.1) reach,
    decide_eq_false_iff_not] at fresh
  exact ⟨read, member, valid, later.trans close.1, by omega⟩

/-- An override never switches the outputs on. -/
theorem override_active (allowed : Bool) (s : Reader) :
    ((rfidReaderSetPortsAllowed allowed s).portsActive = true → s.portsActive = true) ∧
      (rfidReaderSetPortsAllowed allowed s).lastValidTick = s.lastValidTick := by
  unfold rfidReaderSetPortsAllowed
  split
  · exact ⟨id, rfl⟩
  · dsimp only
    split
    · simp
    · exact ⟨id, rfl⟩

theorem InTime.of_override {history : List Event} {ticks : Nat} {s : Reader}
    (inTime : InTime history ticks s) (allowed : Bool) :
    InTime history ticks (rfidReaderSetPortsAllowed allowed s) := by
  obtain ⟨before, valid⟩ := override_active allowed s
  intro active
  rw [valid]
  exact inTime (before active)

theorem InTime.overrides {history : List Event} {ticks : Nat} {s : Reader}
    (inTime : InTime history ticks s) (calls : List Bool) :
    InTime history ticks (setPortsAllowedAll calls s) :=
  run_invariant_always (InTime history ticks) calls inTime fun allowed _ inTime =>
    inTime.of_override allowed

/-- The rest of the iteration. -/
theorem InTime.poll {history : List Event} {s : Reader} {it : Iteration} {calls : List Bool}
    (inTime : InTime history it.ticks s) :
    InTime (history ++ [.iteration it calls]) it.ticks (pollCard true it s) := by
  have older : ∀ s', (s'.portsActive = true → s.portsActive = true) →
      s'.lastValidTick = s.lastValidTick →
        InTime (history ++ [.iteration it calls]) it.ticks s' := by
    intro s' before valid active
    obtain ⟨read, member, tick, later, near⟩ := inTime (before active)
    refine ⟨read, ?_, valid.trans tick, later, near⟩
    rw [List.filterMap_append]
    exact List.mem_append_left _ member
  cases pollCard_effect it s with
  | accepts authorized outputs card valid =>
    intro active
    refine ⟨it.ticks, ?_, valid, le_rfl, Nat.le_add_right _ _⟩
    rw [List.filterMap_append]
    exact List.mem_append_right _ (by simp [Event.authorizedTicks?, authorized])
  | rejects foreign read outputs card valid =>
    intro active
    rw [outputs.active, setPowerState_active] at active
    cases active
  | collides unread foreign same => exact older _ (by rw [same]; exact id) (by rw [same])
  | silent foreign read outputs card valid => exact older _ (by rw [outputs.active]; exact id) valid

/-- The tick of the latest iteration is the one to compare with. -/
def LastInTime (history : List Event) (s : Reader) : Prop :=
  s.portsActive = true → ∃ last ∈ (history.filterMap Event.ticks?).getLast?, InTime history last s

theorem Spaced.next {history : List Event} {e : Event} (spaced : Spaced (history ++ [e])) :
    Spaced history ∧ ∀ last ∈ (history.filterMap Event.ticks?).getLast?,
      ∀ ticks ∈ e.ticks?, Close last ticks := by
  rw [Spaced, List.filterMap_append, List.isChain_append] at spaced
  refine ⟨spaced.1, ?_⟩
  intro last latest ticks here
  apply spaced.2.2 last latest ticks
  rw [Option.mem_def] at here ⊢
  simp [here]

theorem readerAfter_concat (s : Reader) (history : List Event) (e : Event) :
    readerAfter s (history ++ [e]) = step e (readerAfter s history) := by
  simp [readerAfter, run]

/-- The staleness check of an iteration after any history. -/
theorem LastInTime.cut {history : List Event} {s : Reader} {it : Iteration} {calls : List Bool}
    (lastInTime : LastInTime history s) (spaced : Spaced (history ++ [.iteration it calls])) :
    InTime history it.ticks (cutStalePower true it.now s) := by
  intro active
  obtain ⟨last, latest, inTime⟩ := lastInTime (cutStalePower_kept active).2.1
  exact inTime.cut (spaced.next.2 last latest it.ticks rfl) active

theorem readerAfter_lastInTime (s : Reader) {history : List Event} (spaced : Spaced history) :
    LastInTime history (readerAfter s history) := by
  induction history using List.reverseRecOn with
  | nil =>
    intro active
    cases active
  | append_singleton history e ih =>
    have before := ih spaced.next.1
    rw [readerAfter_concat]
    intro active
    cases e with
    | setPortsAllowed allowed =>
      obtain ⟨last, latest, inTime⟩ := before ((override_active allowed _).1 active)
      refine ⟨last, ?_, ?_⟩
      · simpa [Event.ticks?] using latest
      · have after := inTime.of_override allowed
        intro active
        obtain ⟨read, member, rest⟩ := after active
        exact ⟨read, by simpa [Event.authorizedTicks?] using member, rest⟩
    | iteration it calls =>
      refine ⟨it.ticks, by simp [Event.ticks?], ?_⟩
      exact ((before.cut spaced).overrides calls).poll

/-- Between calls the outputs all have the level of `s_ports_active`, which is set only while the
    battery allows it; and after the staleness check of every iteration it is set only if an
    authorized UID was read within the presence timeout. -/
theorem power_outputs_permitted (s : Reader) (history : List Event) :
    Permitted (readerAfter s history) ∧
      ∀ it calls,
        Permitted (setPortsAllowedAll calls (cutStalePower true it.now (readerAfter s history))) ∧
          (Spaced (history ++ [.iteration it calls]) →
            (cutStalePower true it.now (readerAfter s history)).portsActive = true →
              ReadRecently history it.ticks) := by
  have permitted := readerAfter_permitted s history
  refine ⟨permitted, ?_⟩
  intro it calls
  refine ⟨(permitted.cut it.now).overrides calls, ?_⟩
  intro spaced active
  have inTime := (readerAfter_lastInTime s spaced.next.1).cut spaced
  exact inTime.recent active

/-- A card is read just before the tick counter wraps, and lifted. -/
def heldAcrossWrap : List Event :=
  [.setPortsAllowed true,
    .iteration ⟨2 ^ 32 - 10, some [0x04, 0x00], some [0x43, 0x79, 0xAD, 0x38, 0xAF]⟩ []]

theorem power_outputs_permitted_wrap : ReadRecently heldAcrossWrap (2 ^ 32 + 50) := by
  refine ((power_outputs_permitted (.boot (fun _ => 0) false) heldAcrossWrap).2
    ⟨2 ^ 32 + 50, none, none⟩ []).2 ?_ (by decide +kernel)
  have ticks : (heldAcrossWrap ++ [Event.iteration ⟨2 ^ 32 + 50, none, none⟩ []]).filterMap
      Event.ticks? = [2 ^ 32 - 10, 2 ^ 32 + 50] := rfl
  rw [Spaced, ticks, List.isChain_pair]
  exact ⟨by decide, by decide⟩

end SolarConnect.Rfid
