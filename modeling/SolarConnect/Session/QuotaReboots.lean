import SolarConnect.Misc.PowerLoss
import SolarConnect.Session.QuotaOnNvs

/-!
# The quota table across reboots

`load_quota_state` at every boot, with the power lost at any time between two calls and the calls
to NVS failing as they like. `DEV_RESET_QUOTA_ON_BOOT` is the argument `devReset`; the
repository sets it, so that every boot starts from the empty table. Without it the table that
comes back is one that the device has held as a whole.
-/

namespace SolarConnect.Session.OnNvs

open Slots Nvs WriteBack

/-! ## The device -/

/-- The quota statics, and the flash under them. -/
structure Device where
  quota : QuotaState
  flash : Flash QuotaKey QuotaValue

/-- The statics with the store that they are flushed to. -/
def Device.onNvs (d : Device) : QuotaNvs :=
  ⟨d.quota, d.flash.store⟩

/-- The table after `nvs_get_blob`: that of the blob, or the zeroed one if the call fails or finds
    a blob of another size. -/
def blobTable : Option QuotaValue → QuotaTable
  | some (.blob records) => records
  | _ => fun _ => .zero

/-- `s_day_hint` after `nvs_get_u32`. -/
def hintValue : Option QuotaValue → Nat
  | some (.u32 value) => value
  | _ => 0

/-- The statics before NVS is opened, with what the store holds. -/
def zeroed (boot : Nat) (store : Store QuotaKey QuotaValue) : QuotaState :=
  { loadQuotaState boot with stored := committedTable store }

/-- `load_quota_state` (`http_server.c:322-364`) at time `boot`. -/
def load (devReset : Bool) (boot : Nat) (flash : Flash QuotaKey QuotaValue) : Device :=
  let (err, store) := flash.store.nvsOpen
  let flash := { flash with store }
  if err ≠ espOk then ⟨zeroed boot store, flash⟩
  else if devReset then
    let flash := flash.eraseAll [.blob, .dayHint]
    ⟨zeroed boot flash.store, flash⟩
  else
    let (blob, store) := store.nvsGet .blob
    let (hint, store) := store.nvsGet .dayHint
    let quota :=
      { zeroed boot store with records := blobTable blob, dayHint := hintValue hint }
    ⟨quota, { flash with store := store.nvsClose }⟩

/-- The statics that `flush_quota_state` saves, if it gets to NVS. -/
def flushed (now : Nat) (forceFlush : Bool) (q : QuotaState) : Option QuotaState :=
  if !q.dirty then none
  else if !forceFlush && decide (now - q.lastFlushUs < quotaFlushIntervalUs) then none
  else some q

/-- The statics that a call saves. -/
def saves : Call → QuotaState → Option QuotaState
  | .remaining _ _, _ => none
  | .checkpoint c forceFlush session, q =>
    if nothingDue c.now session then if forceFlush then flushed c.flushed true q else none
    else flushed c.flushed forceFlush (chargeUsage c session q)

/-- The flash once they are saved, or not. -/
def saving (f : Flash QuotaKey QuotaValue) : Option QuotaState → Flash QuotaKey QuotaValue
  | some q => (f.save (quotaWrites q)).2
  | none => f

/-- A call on the device. -/
def Device.call (call : Call) (d : Device) : Device :=
  ⟨(OnNvs.step call d.onNvs).quota, saving d.flash (saves call d.quota)⟩

/-- A call, or a loss of power: what survives of that which is loose, when the device boots, and
    the results of its calls to NVS until the power is lost again. -/
inductive Event
  | call (call : Call)
  | reboot (boot : Nat) (kept : QuotaKey → Option Nat) (results : List Err)

/-- The device after an event. -/
def Device.step (devReset : Bool) : Event → Device → Device
  | .call call, d => d.call call
  | .reboot boot kept results, d => load devReset boot (d.flash.powerLoss kept results)

/-- The first boot, on flash with this content. -/
def Device.first (devReset : Bool) (boot : Nat) (saved : QuotaKey → Option QuotaValue)
    (results : List Err) : Device :=
  load devReset boot ⟨⟨saved, [], results⟩, []⟩

/-- The device after a history. -/
def Device.after (devReset : Bool) (d : Device) (history : List Event) : Device :=
  Runs.run (Device.step devReset) d history

/-- A flush on the device is a save, or leaves the flash alone. -/
theorem flush_store (now : Nat) (forceFlush : Bool) (s : QuotaNvs)
    (loose : List (QuotaKey × Option QuotaValue)) :
    (flushQuotaState now forceFlush s).nvs =
      (saving ⟨s.nvs, loose⟩ (flushed now forceFlush s.quota)).store := by
  unfold flushQuotaState flushed
  dsimp only
  split
  · rfl
  split
  · rfl
  split
  · rfl
  · rfl

/-- The device makes the calls that were modelled on the store alone. -/
theorem call_onNvs (call : Call) (d : Device) :
    (d.call call).onNvs = OnNvs.step call d.onNvs := by
  obtain ⟨quota, store, loose⟩ := d
  have store : (Device.call call ⟨quota, store, loose⟩).flash.store =
      (OnNvs.step call ⟨quota, store⟩).nvs := by
    cases call with
    | remaining time mac => rfl
    | checkpoint c forceFlush session =>
      simp only [Device.call, saves, OnNvs.step, checkpointSessionUsage]
      cases nothingDue c.now session with
      | true =>
        cases forceFlush with
        | true => exact (flush_store c.flushed true ⟨quota, store⟩ loose).symm
        | false => rfl
      | false =>
        exact (flush_store c.flushed forceFlush ⟨chargeUsage c session quota, store⟩ loose).symm
  rw [Device.onNvs, store]
  rfl

/-! ## Tables in order -/

/-- The table is in order, and what is not in use is zeroed. -/
structure InOrder (records : QuotaTable) : Prop where
  table : TableOk records
  free : FreeZeroed records

theorem inOrder_empty : InOrder fun _ => .zero :=
  ⟨tableOk_boot 0, fun _ _ => rfl⟩

theorem InOrder.put {records : QuotaTable} (order : InOrder records) {mac : Mac}
    (nonzero : mac ≠ 0) (dayId : Nat) {used : Nat} (capped : used ≤ dailyQuotaSec) :
    InOrder (putRecord records mac dayId used) :=
  ⟨tableOk_putRecord order.table nonzero dayId capped,
    freeZeroed_putRecord order.free mac dayId used⟩

/-- A call keeps the table in order. -/
theorem InOrder.call {s : QuotaNvs} (order : InOrder s.quota.records) (call : Call) :
    InOrder (OnNvs.step call s).quota.records := by
  cases call with
  | remaining time mac =>
    by_cases zero : mac = 0
    · have same : (OnNvs.step (.remaining time mac) s).quota.records = s.quota.records := by
        simp [OnNvs.step, getQuotaRemainingForMac, zero]
      rw [same]
      exact order
    · have written := (getQuotaRemaining_spec time zero s.quota).2
      change InOrder (getQuotaRemainingForMac time mac s.quota).2.records
      rw [written]
      exact order.put zero _ (recordedUse_le order.table mac _)
  | checkpoint c forceFlush session =>
    unfold OnNvs.step checkpointSessionUsage
    dsimp only
    split
    · split
      · rw [flush_quota, flushQuotaState_records]
        exact order
      · exact order
    · rename_i due
      have nonzero := mac_ne_zero_of_due (Bool.not_eq_true _ ▸ due)
      rw [flush_quota, flushQuotaState_records, chargeUsage_records c nonzero]
      exact order.put nonzero _ (chargedUse_le _ _)

/-! ## What a boot can find -/

/-- A call saves the table that it leaves. -/
theorem saves_records {call : Call} {d : Device} {q : QuotaState}
    (save : saves call d.quota = some q) : q.records = (d.call call).quota.records := by
  have only : ∀ {now force} {q q' : QuotaState}, flushed now force q = some q' → q' = q := by
    intro now force q q' save
    unfold flushed at save
    split at save
    · cases save
    split at save
    · cases save
    · exact (Option.some.inj save).symm
  cases call with
  | remaining time mac => cases save
  | checkpoint c forceFlush session =>
    simp only [saves] at save
    simp only [Device.call, OnNvs.step, checkpointSessionUsage]
    cases due : nothingDue c.now session with
    | true =>
      rw [due, if_pos rfl] at save
      cases forceFlush with
      | true =>
        rw [if_pos rfl] at save
        simp only [if_true]
        rw [only save, flush_quota, flushQuotaState_records]
        rfl
      | false => cases save
    | false =>
      rw [due, if_neg Bool.false_ne_true] at save
      simp only [Bool.false_eq_true, if_false]
      rw [only save, flush_quota, flushQuotaState_records]
      rfl

/-- A call brings its own table to the flash, or nothing. -/
theorem call_holds {call : Call} {d : Device} {value : Option QuotaValue}
    (found : (d.call call).flash.Holds .blob value) :
    d.flash.Holds .blob value ∨ value = some (.blob (d.call call).quota.records) := by
  cases save : saves call d.quota with
  | none =>
    rw [Device.call, save] at found
    exact Or.inl found
  | some q =>
    rw [← saves_records save]
    rw [Device.call, save] at found
    have saved : (d.flash.save (quotaWrites q)).2.Holds .blob value := found
    rcases saved.of_save with old | ⟨w, member, key, rfl⟩
    · exact Or.inl old
    · rcases List.mem_cons.mp member with rfl | hint
      · exact Or.inr rfl
      · rw [List.mem_singleton.mp hint] at key
        cases key

/-- A boot leaves what it finds, or erases it. -/
theorem load_holds {devReset : Bool} {boot : Nat} {flash : Flash QuotaKey QuotaValue}
    {value : QuotaValue} (found : (load devReset boot flash).flash.Holds .blob (some value)) :
    flash.Holds .blob (some value) := by
  have opened := flash.store.nvsOpen_saved
  have same : ∀ store : Store QuotaKey QuotaValue, store.saved = flash.store.saved →
      (⟨store, flash.loose⟩ : Flash _ _).Holds .blob (some value) →
        flash.Holds .blob (some value) := by
    intro store saved holds
    rcases holds with now | loose
    · exact Or.inl (saved ▸ now)
    · exact Or.inr loose
  unfold load at found
  dsimp only at found
  split at found
  · exact same _ opened found
  split at found
  · rcases Flash.Holds.of_eraseAll found with before | erased
    · exact same _ opened before
    · cases erased
  · refine same _ ?_ found
    exact (Store.nvsGet_saved _ _).trans ((Store.nvsGet_saved _ _).trans opened)

/-- The table after a boot. -/
theorem load_records (devReset : Bool) (boot : Nat) (flash : Flash QuotaKey QuotaValue) :
    ((load devReset boot flash).quota.records = fun _ => .zero) ∨
      devReset = false ∧
        flash.store.saved .blob = some (.blob (load devReset boot flash).quota.records) := by
  have opened := flash.store.nvsOpen_saved
  unfold load
  dsimp only
  split
  · exact Or.inl rfl
  split
  · exact Or.inl rfl
  · rename_i kept
    have read := flash.store.nvsOpen.2.nvsGet_cases .blob
    rw [opened] at read
    dsimp only
    rcases read with failed | found
    · rw [failed]
      exact Or.inl rfl
    · rw [found]
      cases held : flash.store.saved .blob with
      | none => exact Or.inl rfl
      | some value =>
        cases value with
        | blob records => exact Or.inr ⟨by simpa using kept, rfl⟩
        | u32 value => exact Or.inl rfl

/-! ## Whole histories -/

/-- An event brings to the flash no other table than that of the device. -/
theorem step_holds {devReset : Bool} {e : Event} {d : Device} {value : QuotaValue}
    (found : (Device.step devReset e d).flash.Holds .blob (some value)) :
    d.flash.Holds .blob (some value) ∨
      value = .blob (Device.step devReset e d).quota.records := by
  cases e with
  | call call =>
    rcases call_holds found with old | new
    · exact Or.inl old
    · exact Or.inr (Option.some.inj new)
  | reboot boot kept results => exact Or.inl (load_holds found).of_powerLoss

/-- Every table in the flash was there before the first boot, or the device has held it. -/
theorem held_before (devReset : Bool) (boot : Nat) (saved : QuotaKey → Option QuotaValue)
    (results : List Err) (history : List Event) {records : QuotaTable}
    (found : ((Device.first devReset boot saved results).after devReset history).flash.Holds .blob
      (some (.blob records))) :
    saved .blob = some (.blob records) ∨ ∃ prior, prior <+: history ∧
      ((Device.first devReset boot saved results).after devReset prior).quota.records =
        records := by
  rcases Flash.held_before (Device.step devReset) Device.flash
      (fun d => .blob d.quota.records) .blob (fun _ _ _ found => step_holds found)
      (Device.first devReset boot saved results) history found with initial | ⟨prior, before, same⟩
  · rcases load_holds initial with now | loose
    · exact Or.inl now
    · cases loose
  · exact Or.inr ⟨prior, before, QuotaValue.blob.inj same⟩

/-- The table is in order, and so is every one that a boot can find. -/
structure Sound (d : Device) : Prop where
  records : InOrder d.quota.records
  found : ∀ records, d.flash.Holds .blob (some (.blob records)) → InOrder records

theorem sound_load (devReset : Bool) (boot : Nat) {flash : Flash QuotaKey QuotaValue}
    (found : ∀ records, flash.Holds .blob (some (.blob records)) → InOrder records) :
    Sound (load devReset boot flash) := by
  refine ⟨?_, fun records holds => found records (load_holds holds)⟩
  rcases load_records devReset boot flash with empty | ⟨-, saved⟩
  · rw [empty]
    exact inOrder_empty
  · exact found _ (Or.inl saved)

theorem Sound.step {d : Device} (sound : Sound d) (devReset : Bool) (e : Event) :
    Sound (Device.step devReset e d) := by
  cases e with
  | call call =>
    have records := InOrder.call (s := d.onNvs) sound.records call
    refine ⟨records, fun old holds => ?_⟩
    rcases call_holds holds with before | new
    · exact sound.found old before
    · cases new
      exact records
  | reboot boot kept results =>
    exact sound_load devReset boot fun records holds => sound.found records holds.of_powerLoss

/-- On flash that holds no table out of order. -/
theorem sound_after {saved : QuotaKey → Option QuotaValue}
    (ordered : ∀ records, saved .blob = some (.blob records) → InOrder records)
    (devReset : Bool) (boot : Nat) (results : List Err) (history : List Event) :
    Sound ((Device.first devReset boot saved results).after devReset history) := by
  refine Runs.run_invariant_always Sound history ?_ fun e d sound => sound.step devReset e
  refine sound_load devReset boot fun records holds => ?_
  rcases holds with now | loose
  · exact ordered records now
  · cases loose

/-- Whatever fails and whenever the power goes, the table is in order: the MACs are distinct and
    none is zero, and no record exceeds the quota. After the next boot it is empty, and always
    with `DEV_RESET_QUOTA_ON_BOOT`; or it is one that the flash came with or that the device has
    held before as a whole. -/
theorem table_across_reboots {saved : QuotaKey → Option QuotaValue}
    (ordered : ∀ records, saved .blob = some (.blob records) → InOrder records)
    (devReset : Bool) (boot : Nat) (results : List Err) (history : List Event) :
    let first := Device.first devReset boot saved results
    let d := first.after devReset history
    InOrder d.quota.records ∧ ∀ again kept later,
      let r := (load devReset again (d.flash.powerLoss kept later)).quota.records
      InOrder r ∧ ((r = fun _ => .zero) ∨ devReset = false ∧ (saved .blob = some (.blob r) ∨
        ∃ prior, prior <+: history ∧ (first.after devReset prior).quota.records = r)) := by
  intro first d
  have sound := sound_after ordered devReset boot results history
  refine ⟨sound.records, fun again kept later => ?_⟩
  refine ⟨(sound.step devReset (.reboot again kept later)).records, ?_⟩
  rcases load_records devReset again (d.flash.powerLoss kept later) with empty | ⟨off, found⟩
  · exact Or.inl empty
  · refine Or.inr ⟨off, ?_⟩
    have after : (d.flash.powerLoss kept later).Holds .blob (some _) := Or.inl found
    exact held_before devReset boot saved results history after.of_powerLoss

/-- Two checkpoints on empty flash; with these results `nvs_set_u32` fails in the first one. -/
def chargedOnce : Device :=
  (Device.first false 1 (fun _ => none) [espOk, espOk, espOk, espOk, espOk, 4357]).after false
    ((twoCheckpoints.take 1).map .call)

theorem table_across_reboots_charged : InOrder chargedOnce.quota.records := by
  have ordered : ∀ records, (fun _ => none : QuotaKey → Option QuotaValue) .blob =
      some (.blob records) → InOrder records := by
    simp
  exact (table_across_reboots ordered false 1 [espOk, espOk, espOk, espOk, espOk, 4357]
    ((twoCheckpoints.take 1).map .call)).1

/-- The blob has been set and not committed: it may come back or not. -/
example :
    let back (kept : Option Nat) := load false 2 (chargedOnce.flash.powerLoss (fun _ => kept) [])
    ((back (some 0)).quota.records ⟨0, maxClients_pos⟩).usedSeconds = 600 ∧
      ((back none).quota.records ⟨0, maxClients_pos⟩).valid = false := by
  decide +kernel

/-! ## A table that is flushed -/

/-- The calls of a boot to NVS succeed. -/
def Event.BootsWell : Event → Prop
  | .call _ => True
  | .reboot _ _ results => ∀ err ∈ results.take 3, err = espOk

/-- What is not dirty is in the flash for good. -/
structure Faithful (d : Device) : Prop where
  ok : QuotaOk d.onNvs
  settled : d.quota.dirty = false → d.flash.Settled .blob

/-- A boot whose calls succeed, without `DEV_RESET_QUOTA_ON_BOOT`. -/
theorem load_of_works (boot : Nat) {flash : Flash QuotaKey QuotaValue}
    (works : flash.store.Works 3) :
    ∃ results, load false boot flash =
      ⟨{ zeroed boot flash.store with
          records := blobTable (flash.store.saved .blob),
          dayHint := hintValue (flash.store.saved .dayHint) },
        ⟨⟨flash.store.saved, [], results⟩, flash.loose⟩⟩ := by
  obtain ⟨opens, gets⟩ := (Store.works_succ 2).mp works
  obtain ⟨blob, hint⟩ := (Store.works_succ 1).mp gets
  let open₁ : Store QuotaKey QuotaValue := { flash.store.next with unsaved := [] }
  have opened : flash.store.nvsOpen = (espOk, open₁) := Store.call_of_works opens _
  have first : open₁.nvsGet .blob = (open₁.saved .blob, open₁.next) :=
    Store.nvsGet_of_works (s := open₁) blob .blob
  have second : open₁.next.nvsGet .dayHint = (open₁.next.saved .dayHint, open₁.next.next) :=
    Store.nvsGet_of_works (s := open₁.next) hint .dayHint
  refine ⟨flash.store.next.next.next.results, ?_⟩
  unfold load
  rw [opened]
  dsimp only
  rw [if_neg (by simp), if_neg Bool.false_ne_true, first]
  dsimp only
  rw [second]
  rfl

theorem faithful_load (boot : Nat) {flash : Flash QuotaKey QuotaValue}
    (works : flash.store.Works 3) (settled : flash.Settled .blob)
    (found : ∀ records, flash.Holds .blob (some (.blob records)) → InOrder records) :
    Faithful (load false boot flash) := by
  obtain ⟨results, loaded⟩ := load_of_works boot works
  have order := (sound_load false boot found).records
  rw [loaded] at order ⊢
  exact ⟨⟨order.table, order.free, fun _ => rfl, rfl⟩, fun _ => settled⟩

/-- A flush that leaves the table clean had nothing to do, or got through. -/
theorem flush_clear {now : Nat} {forceFlush : Bool} {s : QuotaNvs}
    (clear : (flushQuotaState now forceFlush s).quota.dirty = false) :
    flushed now forceFlush s.quota = none ∧ s.quota.dirty = false ∨
      ∃ q, flushed now forceFlush s.quota = some q ∧
        (s.nvs.saveAll (quotaWrites q)).1 = espOk := by
  unfold flushQuotaState at clear
  unfold flushed
  dsimp only at clear
  split at clear
  · rename_i idle
    exact Or.inl ⟨if_pos idle, clear⟩
  · rename_i marked
    rw [if_neg marked]
    split at clear
    · simp [clear] at marked
    · rename_i due
      rw [if_neg due]
      split at clear
      · have clear : s.quota.dirty = false := clear
        simp [clear] at marked
      · rename_i through
        exact Or.inr ⟨s.quota, rfl, not_not.mp through⟩

/-- So a call that leaves the table clean found it clean and saved nothing, or saved it. -/
theorem call_clear {call : Call} {d : Device} (clear : (d.call call).quota.dirty = false) :
    saves call d.quota = none ∧ d.quota.dirty = false ∨
      ∃ q, saves call d.quota = some q ∧ (d.flash.save (quotaWrites q)).1 = espOk := by
  have before : ∀ {q : QuotaState}, Writes (cell d.quota) (cell q) → q.dirty = false →
      d.quota.dirty = false := by
    intro q writes clear
    rcases writes.marked with same | marked
    · exact (congrArg Cell.dirty same).symm.trans clear
    · exact absurd (marked.symm.trans clear) (by simp)
  cases call with
  | remaining time mac =>
    exact Or.inl ⟨rfl, before (remaining_writes time mac d.quota) clear⟩
  | checkpoint c forceFlush session =>
    simp only [Device.call, OnNvs.step, checkpointSessionUsage, saves] at clear ⊢
    cases due : nothingDue c.now session with
    | true =>
      rw [due] at clear
      cases forceFlush with
      | true => exact flush_clear clear
      | false => exact Or.inl ⟨rfl, clear⟩
    | false =>
      rw [due] at clear
      rcases flush_clear clear with ⟨none, clean⟩ | saved
      · exact Or.inl ⟨none, before (chargeUsage_writes c session d.quota) clean⟩
      · exact Or.inr saved

theorem Faithful.call {d : Device} (faithful : Faithful d) (call : Call) :
    Faithful (d.call call) := by
  refine ⟨?_, fun clear => ?_⟩
  · rw [call_onNvs]
    exact faithful.ok.step call
  · rcases call_clear clear with ⟨none, clean⟩ | ⟨q, save, through⟩
    · rw [Device.call, none]
      exact faithful.settled clean
    · rw [Device.call, save]
      exact Flash.settled_save through (by simp [quotaWrites])

/-- Without `DEV_RESET_QUOTA_ON_BOOT`, and with boots that can read the flash: a table that is not
    dirty comes back after a loss of power, and with it the answer of every lookup at a time the
    system clock is valid. Only the flushes may fail. -/
theorem clean_table_survives {saved : QuotaKey → Option QuotaValue}
    (ordered : ∀ records, saved .blob = some (.blob records) → InOrder records) (boot : Nat)
    {results : List Err} (boots : ∀ err ∈ results.take 3, err = espOk) {history : List Event}
    (wells : ∀ e ∈ history, e.BootsWell) :
    let d := (Device.first false boot saved results).after false history
    d.quota.dirty = false → ∀ again kept later, (Event.reboot again kept later).BootsWell →
      let d' := load false again (d.flash.powerLoss kept later)
      d'.quota.records = d.quota.records ∧ ∀ time mac, hasValidSystemTime time = true →
        (getQuotaRemainingForMac time mac d'.quota).1 =
          (getQuotaRemainingForMac time mac d.quota).1 := by
  intro d clean again kept later well
  have faithful : Faithful d := by
    have invariant : Sound d ∧ Faithful d := by
      have guarded : Runs.Guarded (Device.step false) (fun e _ => e.BootsWell)
          (Device.first false boot saved results) history := Runs.guarded_of_forall wells
      refine Runs.run_invariant (fun d => Sound d ∧ Faithful d) ?_ ?_ guarded
      · have first : ∀ records, (⟨⟨saved, [], results⟩, []⟩ : Flash _ _).Holds .blob
            (some (.blob records)) → InOrder records := by
          rintro records (now | loose)
          · exact ordered records now
          · cases loose
        exact ⟨sound_load false boot first,
          faithful_load boot boots (fun _ => List.not_mem_nil) first⟩
      · rintro e d ⟨sound, faithful⟩ well
        refine ⟨sound.step false e, ?_⟩
        cases e with
        | call call => exact faithful.call call
        | reboot boot kept results =>
          exact faithful_load boot well (Flash.settled_powerLoss kept results d.flash .blob)
            fun records holds => sound.found records holds.of_powerLoss
    exact invariant.2
  have back : (load false again (d.flash.powerLoss kept later)).quota.records =
      d.quota.records := by
    have works : (d.flash.powerLoss kept later).store.Works 3 := well
    obtain ⟨results, loaded⟩ := load_of_works again works
    have survives : (d.flash.powerLoss kept later).store.saved .blob = d.flash.store.saved .blob :=
      (faithful.settled clean).survivor kept
    have committed : d.quota.records = committedTable d.flash.store :=
      (faithful.ok.clean clean).trans faithful.ok.held
    rw [loaded, committed]
    dsimp only
    rw [survives]
    rfl
  refine ⟨back, fun time mac valid => ?_⟩
  by_cases zero : mac = 0
  · simp [getQuotaRemainingForMac, zero]
  · have day : ∀ q : QuotaState, (getCurrentDayId time q).1 = time / 86400 % 2 ^ 32 := by
      intro q
      simp [getCurrentDayId, valid]
    rw [(getQuotaRemaining_spec time zero _).1, (getQuotaRemaining_spec time zero _).1, day, day,
      back]

/-- Both checkpoints, with every call a success. -/
def chargedTwice : Device :=
  (Device.first false 1 (fun _ => none) []).after false (twoCheckpoints.map .call)

theorem clean_table_survives_charged :
    (load false 2 (chargedTwice.flash.powerLoss (fun _ => some 0) [])).quota.records =
      chargedTwice.quota.records := by
  have ordered : ∀ records, (fun _ => none : QuotaKey → Option QuotaValue) .blob =
      some (.blob records) → InOrder records := by
    simp
  have wells : ∀ e ∈ twoCheckpoints.map Event.call, e.BootsWell := by
    intro e found
    obtain ⟨call, -, rfl⟩ := List.mem_map.mp found
    trivial
  have boots : ∀ err ∈ ([] : List Err).take 3, err = espOk := by simp
  exact (clean_table_survives ordered 1 boots wells (by decide +kernel) 2 (fun _ => some 0) []
    (by simp [Event.BootsWell])).1

end SolarConnect.Session.OnNvs
