import SolarConnect.Rfid.Reader
import SolarConnect.Misc.Runs

/-!
# Presence and power

Two checks of the same timeout end what an authorized card started: the one at the top of the
loop cuts the power, the other clears `s_card_present`, but only when no card answers REQA. They
come apart when a card answers and its UID is not read.
-/

namespace SolarConnect.Rfid

open Bytes Runs

/-- What `rfid_reader_card_present` returns is what the outputs do. -/
def Agree (s : Reader) : Prop :=
  s.cardPresent = s.portsActive

/-- The presence timeout is over for a card that is still reported, and what answers REQA now is
    not read. -/
def TimesOutUnread (it : Iteration) (s : Reader) : Prop :=
  s.cardPresent = true ∧ stale it.now s = true ∧ it.unread = true

instance (s : Reader) : Decidable (Agree s) :=
  inferInstanceAs (Decidable (_ = _))

/-- The reader after a run of the production build's task from boot. -/
def readerAfterPolls (gpio : Nat → Nat) (callback : Bool) (its : List Iteration) : Reader :=
  run (rfidIteration true) (rfidReaderStart true (.boot gpio callback)) its

/-! ## One iteration -/

/-- The staleness check leaves on what is on and not stale. -/
theorem cutStalePower_effect (now : Tick) (s : Reader) :
    (cutStalePower true now s).portsActive = (s.portsActive && !stale now s) ∧
      (cutStalePower true now s).portsAllowedByBattery = s.portsAllowedByBattery ∧
        (cutStalePower true now s).cardPresent = s.cardPresent ∧
          (cutStalePower true now s).lastValidTick = s.lastValidTick := by
  unfold cutStalePower
  split
  · rename_i timeout
    rw [Bool.true_and, Bool.and_eq_true] at timeout
    simp [timeout.2]
  · rename_i fresh
    refine ⟨?_, rfl, rfl, rfl⟩
    cases active : s.portsActive with
    | false => rfl
    | true => simpa [active] using fresh

theorem rfidIteration_allowed (it : Iteration) (s : Reader) :
    (rfidIteration true it s).portsAllowedByBattery = s.portsAllowedByBattery := by
  have cut := (cutStalePower_effect it.now s).2.1
  rw [rfidIteration, ← cut]
  cases pollCard_effect it (cutStalePower true it.now s) with
  | accepts authorized outputs => rw [outputs.allowed, setPowerState_allowed]
  | rejects foreign read outputs => rw [outputs.allowed, setPowerState_allowed]
  | collides unread foreign same => rw [same]
  | silent foreign read outputs => exact outputs.allowed

/-- An iteration ends in agreement unless the timeout is over for a card that is not read. -/
theorem rfidIteration_agree_iff {it : Iteration} {s : Reader} (agree : Agree s)
    (allowed : s.portsAllowedByBattery = true) :
    Agree (rfidIteration true it s) ↔ ¬ TimesOutUnread it s := by
  obtain ⟨active, gate, present, valid⟩ := cutStalePower_effect it.now s
  have timeout : stale it.now (cutStalePower true it.now s) = stale it.now s := by
    rw [stale, stale, valid]
  rw [Agree] at agree
  rw [Agree, TimesOutUnread, rfidIteration]
  cases pollCard_effect it (cutStalePower true it.now s) with
  | accepts authorized outputs card =>
    have read : it.unread = false := by
      cases uid : piccAnticoll it.anticoll with
      | none => simp [Iteration.authorized, uid] at authorized
      | some uid' => simp [Iteration.unread, uid]
    rw [card, outputs.active, setPowerState_active, gate, allowed]
    simp [read]
  | rejects foreign read outputs card =>
    rw [card, outputs.active, setPowerState_active]
    simp [read]
  | collides unread foreign same =>
    rw [same, present, active, agree]
    cases s.portsActive <;> cases stale it.now s <;> simp [unread]
  | silent foreign read outputs card =>
    rw [card, outputs.active, timeout, present, active, agree]
    cases s.portsActive <;> cases stale it.now s <;> simp [read]

/-! ## Runs -/

/-- At the end of every iteration of a run presence and power agree, if and only if no iteration
    finds the timeout over for a reported card while the UID of a card that answers is not
    read. -/
theorem presence_agrees_iff (gpio : Nat → Nat) (callback : Bool) (its : List Iteration) :
    (∀ prior, prior <+: its → Agree (readerAfterPolls gpio callback prior)) ↔
      Guarded (rfidIteration true) (fun it s => ¬ TimesOutUnread it s)
        (rfidReaderStart true (.boot gpio callback)) its := by
  have any : Guarded (rfidIteration true) (fun _ _ => True)
      (rfidReaderStart true (.boot gpio callback)) its :=
    guarded_of_forall fun _ _ => trivial
  apply always_iff_guarded Agree (fun s => Agree s ∧ s.portsAllowedByBattery = true)
  · exact ⟨rfl, rfl⟩
  · rintro s ⟨agree, -⟩
    exact agree
  · exact any
  · rintro it s ⟨agree, allowed⟩ - read
    exact ⟨(rfidIteration_agree_iff agree allowed).mpr read,
      (rfidIteration_allowed it s).trans allowed⟩
  · rintro it s ⟨agree, allowed⟩ - unread agrees
    exact unread ((rfidIteration_agree_iff agree allowed).mp agrees)

/-- An authorized card is read, and two seconds later two cards answer at once. -/
def collision : List Iteration :=
  [⟨100, some [0x04, 0x00], some [0x43, 0x79, 0xAD, 0x38, 0xAF]⟩,
    ⟨300, some [0x04, 0x00], none⟩]

/-- The outputs are off while the card is still reported. -/
theorem present_without_power :
    ¬ ∀ (gpio : Nat → Nat) (callback : Bool) (its : List Iteration),
      (its.map Iteration.ticks).Pairwise (· ≤ ·) → Agree (readerAfterPolls gpio callback its) := by
  intro claim
  have agree := claim (fun _ => 0) false collision (by decide)
  exact absurd agree (by decide +kernel)

/-! ## Reports -/

/-- The callback was told last what `rfid_reader_card_present` returns. -/
def Reported (s : Reader) : Prop :=
  s.callback = true → s.reports.head?.getD false = s.cardPresent

theorem Reported.setPowerState {s : Reader} (reported : Reported s) (on : Bool) :
    Reported (setPowerState on s) := by
  unfold Rfid.setPowerState
  dsimp only
  split <;> exact reported

theorem reported_report (present : Bool) (s : Reader) :
    Reported (report present { s with cardPresent := present }) := by
  unfold report
  split
  · exact fun _ => rfl
  · rename_i none
    exact fun callback => absurd callback none

theorem Reported.iteration {s : Reader} (reported : Reported s) (it : Iteration) :
    Reported (rfidIteration true it s) := by
  have cut : Reported (cutStalePower true it.now s) := by
    unfold cutStalePower
    split
    · exact reported.setPowerState false
    · exact reported
  rw [rfidIteration]
  generalize cutStalePower true it.now s = t at cut ⊢
  have accepted : Reported (acceptCard it.now t) := by
    have noted : Reported { t with lastValidTick := it.now, invalidLogged := false } := cut
    unfold acceptCard
    dsimp only
    split
    · exact reported_report true _
    · exact noted.setPowerState true
  have rejected : Reported (rejectCard true t) := by
    have off := cut.setPowerState false
    unfold rejectCard
    dsimp only
    rw [if_pos rfl]
    generalize Rfid.setPowerState false t = t' at off ⊢
    split
    · exact reported_report false { t' with invalidLogged := true }
    · exact off
  unfold pollCard
  split
  · split
    · split
      · exact accepted
      · exact rejected
    · exact cut
  · split
    · exact reported_report false { t with invalidLogged := false }
    · exact cut

end SolarConnect.Rfid
