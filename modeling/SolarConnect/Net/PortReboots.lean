import SolarConnect.Misc.PowerLoss
import SolarConnect.Net.PortMap

/-!
# Port maps across reboots

`get_portmap_tab` at boot, on the flash that a loss of power leaves. The table in RAM starts
zeroed and lwIP's map empty; what the flash still holds of the table is read, and lwIP is told of it
once the uplink has an address. While NVS works a reboot does not show in the table.
-/

namespace SolarConnect.PortMap

open Nvs Slots

variable {n : Nat} {Napt : Type}

/-! ## The device -/

/-- The router, and what is loose of its flash. -/
structure Device (n : Nat) (Napt : Type) where
  router : Router n Napt
  loose : List (String × Option (Table n))

/-- The flash under the router. -/
def Device.flash (d : Device n Napt) : Flash String (Table n) :=
  ⟨d.router.nvs, d.loose⟩

/-- `get_portmap_tab` (`esp32_nat_router.c:190-213`): the blob is asked for its length first, and
    the table is cleared if it cannot be read then. -/
def getPortmapTab (s : Router n Napt) : Router n Napt :=
  let (err, nvs) := s.nvs.nvsOpen
  if err ≠ espOk then { s with nvs }
  else
    let (len, nvs) := nvs.nvsGet portmapKey
    match len with
    | none => { s with nvs := nvs.nvsClose }
    | some _ =>
      let (blob, nvs) := nvs.nvsGet portmapKey
      { s with portmapTab := blob.getD emptyTab, nvs := nvs.nvsClose }

/-- What the boot does with the table (`app_main`, and `wifi_init` when a static address is
    configured), with lwIP's map as it is at first. -/
def boot (lwip : Lwip Napt) (napt : Napt) (staticIp : Bool) (flash : Flash String (Table n)) :
    Device n Napt :=
  let router := getPortmapTab ⟨emptyTab, flash.store, napt, 0⟩
  ⟨if staticIp then applyPortmapTab lwip router else router, flash.loose⟩

/-- A call of `add_portmap` or `del_portmap` on the device. -/
def Device.call (lwip : Lwip Napt) (c : Call) (d : Device n Napt) : Device n Napt where
  router := (c.run lwip d.router).2
  loose :=
    match c.newTab d.router.portmapTab with
    | some tab => (d.flash.save [(portmapKey, tab)]).2.loose
    | none => d.loose

/-- A call, an address for the uplink, or a loss of power with what survives of that which is
    loose and the results of the calls to NVS from then on. -/
inductive Event
  | call (c : Call)
  | gotIp (ip : UInt32)
  | reboot (staticIp : Bool) (kept : String → Option Nat) (results : List Err)

/-- The device after an event. -/
def Device.step (lwip : Lwip Napt) (napt : Napt) : Event → Device n Napt → Device n Napt
  | .call c, d => d.call lwip c
  | .gotIp ip, d => { d with router := staGotIp lwip ip d.router }
  | .reboot staticIp kept results, d => boot lwip napt staticIp (d.flash.powerLoss kept results)

/-- The first boot, on flash with this content. -/
def Device.first (lwip : Lwip Napt) (napt : Napt) (staticIp : Bool)
    (saved : String → Option (Table n)) (results : List Err) : Device n Napt :=
  boot lwip napt staticIp ⟨⟨saved, [], results⟩, []⟩

/-- The device after a history. -/
def Device.after (lwip : Lwip Napt) (napt : Napt) (d : Device n Napt) (history : List Event) :
    Device n Napt :=
  Runs.run (Device.step lwip napt) d history

/-! ## What calls and boots do to the table -/

section
variable {lwip : Lwip Napt} {napt : Napt}

/-- The flash after a change of the table is that after a save. -/
theorem storeTab_nvs (toLwip : Napt → Napt) (s : Router n Napt) :
    (storeTab toLwip s).2.nvs = (s.nvs.saveAll [(portmapKey, s.portmapTab)]).2 := by
  unfold storeTab Store.saveAll
  dsimp only
  split
  · rfl
  · unfold setAndCommit Store.setAll
    dsimp only
    split
    · simp [Store.setAll]
    · simp

theorem storeTab_tab (toLwip : Napt → Napt) (s : Router n Napt) :
    (storeTab toLwip s).2.portmapTab = s.portmapTab := by
  unfold storeTab
  dsimp only
  split <;> rfl

/-- The table after a call does not depend on NVS. -/
theorem call_tab (lwip : Lwip Napt) (c : Call) (d : Device n Napt) :
    (d.call lwip c).router.portmapTab =
      (c.newTab d.router.portmapTab).getD d.router.portmapTab := by
  unfold Device.call
  dsimp only
  cases changes : c.newTab d.router.portmapTab with
  | none => rw [Call.run_of_no_change lwip changes, Option.getD_none]
  | some tab => rw [Call.run_of_change lwip changes, storeTab_tab, Option.getD_some]

/-- A call that changes the table saves it, and no other call touches the flash. -/
theorem call_flash (lwip : Lwip Napt) (c : Call) (d : Device n Napt) :
    (d.call lwip c).flash =
      match c.newTab d.router.portmapTab with
      | some tab => (d.flash.save [(portmapKey, tab)]).2
      | none => d.flash := by
  unfold Device.call Device.flash
  dsimp only
  cases changes : c.newTab d.router.portmapTab with
  | none => rw [Call.run_of_no_change lwip changes]
  | some tab =>
    rw [Call.run_of_change lwip changes, storeTab_nvs]
    rfl

theorem getPortmapTab_saved (s : Router n Napt) :
    (getPortmapTab s).nvs.saved = s.nvs.saved := by
  have opened := s.nvs.nvsOpen_saved
  unfold getPortmapTab
  dsimp only
  split
  · exact opened
  split
  · exact (Store.nvsGet_saved _ _).trans opened
  · exact (Store.nvsGet_saved _ _).trans ((Store.nvsGet_saved _ _).trans opened)

/-- Starting lwIP off changes neither the table nor the flash. -/
theorem boot_router (lwip : Lwip Napt) (napt : Napt) (staticIp : Bool)
    (flash : Flash String (Table n)) :
    (boot lwip napt staticIp flash).router.portmapTab =
        (getPortmapTab ⟨emptyTab, flash.store, napt, 0⟩).portmapTab ∧
      (boot lwip napt staticIp flash).router.nvs =
        (getPortmapTab ⟨emptyTab, flash.store, napt, 0⟩).nvs := by
  unfold boot
  cases staticIp with
  | true => exact ⟨rfl, rfl⟩
  | false => exact ⟨rfl, rfl⟩

/-- The table after a boot is that in the flash, or empty. -/
theorem boot_tab (staticIp : Bool) (flash : Flash String (Table n)) :
    (boot lwip napt staticIp flash).router.portmapTab = emptyTab ∨
      flash.store.saved portmapKey =
        some (boot lwip napt staticIp flash).router.portmapTab := by
  rw [(boot_router lwip napt staticIp flash).1]
  unfold getPortmapTab
  dsimp only
  split
  · exact Or.inl rfl
  split
  · exact Or.inl rfl
  · rename_i old found
    rcases (flash.store.nvsOpen.2.nvsGet portmapKey).2.nvsGet_cases portmapKey with failed | read
    · rw [failed]
      exact Or.inl rfl
    · rw [Store.nvsGet_saved, Store.nvsOpen_saved] at read
      rw [read]
      dsimp only
      cases flash.store.saved portmapKey with
      | none => exact Or.inl rfl
      | some tab => exact Or.inr rfl

/-- Any history and any failures: what a boot finds is nothing, or a table that the flash came
    with or that the device has held before as a whole. -/
theorem portmap_after_reboot (lwip : Lwip Napt) (napt : Napt) (static : Bool)
    (saved : String → Option (Table n)) (results : List Err) (history : List Event) :
    let first := Device.first lwip napt static saved results
    ∀ staticIp kept later,
      let tab := (boot lwip napt staticIp
        ((first.after lwip napt history).flash.powerLoss kept later)).router.portmapTab
      tab = emptyTab ∨ saved portmapKey = some tab ∨
        ∃ prior, prior <+: history ∧ (first.after lwip napt prior).router.portmapTab = tab := by
  intro first staticIp kept later
  have unchanged : ∀ (static : Bool) (flash : Flash String (Table n)) value,
      (boot lwip napt static flash).flash.Holds portmapKey value →
        flash.Holds portmapKey value := by
    rintro static flash value (now | loose)
    · refine Or.inl ?_
      change (boot lwip napt static flash).router.nvs.saved portmapKey = value at now
      rwa [(boot_router lwip napt static flash).2, getPortmapTab_saved] at now
    · exact Or.inr loose
  have brings : ∀ e (d : Device n Napt) value,
      (Device.step lwip napt e d).flash.Holds portmapKey (some value) →
        d.flash.Holds portmapKey (some value) ∨
          value = (Device.step lwip napt e d).router.portmapTab := by
    intro e d value found
    cases e with
    | call c =>
      change (d.call lwip c).flash.Holds portmapKey (some value) at found
      change _ ∨ value = (d.call lwip c).router.portmapTab
      rw [call_flash] at found
      rw [call_tab]
      cases changes : c.newTab d.router.portmapTab with
      | none =>
        rw [changes] at found
        exact Or.inl found
      | some tab =>
        rw [changes] at found
        rcases Flash.Holds.of_save found with old | ⟨w, member, -, same⟩
        · exact Or.inl old
        · rw [List.mem_singleton.mp member] at same
          exact Or.inr (Option.some.inj same).symm
    | gotIp ip => exact Or.inl found
    | reboot staticIp kept results => exact Or.inl (unchanged _ _ _ found).of_powerLoss
  rcases boot_tab staticIp ((first.after lwip napt history).flash.powerLoss kept later) with
    empty | found
  · exact Or.inl empty
  · right
    have after : ((first.after lwip napt history).flash.powerLoss kept later).Holds portmapKey
      (some _) := Or.inl found
    have holds := after.of_powerLoss
    rcases Flash.held_before (Device.step lwip napt) Device.flash
      (fun d => d.router.portmapTab) portmapKey brings first
      history holds with initial | before
    · rcases unchanged _ _ _ initial with now | loose
      · exact Or.inl now
      · cases loose
    · exact Or.inr before

/-! ## Reboots while NVS works -/

/-- No call to NVS fails after the event. -/
def Event.Works : Event → Prop
  | .reboot _ _ results => results = []
  | _ => True

/-- The event is a call. -/
def Event.isCall : Event → Bool
  | .call _ => true
  | _ => false

/-- NVS works, and what a boot would find is the table. -/
structure Persisted (d : Device n Napt) : Prop where
  working : d.router.nvs.results = []
  settled : d.flash.Settled portmapKey
  saved : (d.router.nvs.saved portmapKey).getD emptyTab = d.router.portmapTab

theorem getPortmapTab_of_working {s : Router n Napt} (working : s.nvs.results = [])
    (fresh : s.portmapTab = emptyTab) :
    getPortmapTab s =
      { s with
        portmapTab := (s.nvs.saved portmapKey).getD emptyTab, nvs := ⟨s.nvs.saved, [], []⟩ } := by
  obtain ⟨tab, ⟨saved, unsaved, results⟩, napt, myIp⟩ := s
  dsimp only at working fresh ⊢
  subst working fresh
  unfold getPortmapTab
  rw [Store.nvsOpen, Store.call_of_working rfl]
  dsimp only
  rw [if_neg (by simp), Store.nvsGet_of_working rfl]
  dsimp only
  cases held : saved portmapKey with
  | none => rfl
  | some tab =>
    dsimp only
    rw [Store.nvsGet_of_working rfl]
    dsimp only
    rw [held]
    rfl

/-- A boot from flash that works and where nothing is loose. -/
theorem persisted_boot (lwip : Lwip Napt) (napt : Napt) (staticIp : Bool)
    {flash : Flash String (Table n)}
    (working : flash.store.results = []) (settled : flash.Settled portmapKey) :
    Persisted (boot lwip napt staticIp flash) ∧
      (boot lwip napt staticIp flash).router.portmapTab =
        (flash.store.saved portmapKey).getD emptyTab := by
  obtain ⟨tab, nvs⟩ := boot_router lwip napt staticIp flash
  rw [getPortmapTab_of_working working rfl] at tab nvs
  refine ⟨⟨by rw [nvs], settled, ?_⟩, tab⟩
  rw [nvs, tab]

theorem Persisted.call (lwip : Lwip Napt) {d : Device n Napt} (persisted : Persisted d) (c : Call) :
    Persisted (d.call lwip c) := by
  have flash := call_flash lwip c d
  have tab := call_tab lwip c d
  cases changes : c.newTab d.router.portmapTab with
  | none =>
    rw [changes] at flash tab
    have nvs : (d.call lwip c).router.nvs = d.router.nvs := congrArg Flash.store flash
    refine ⟨by rw [nvs, persisted.working], by rw [flash]; exact persisted.settled, ?_⟩
    rw [nvs, tab]
    exact persisted.saved
  | some table =>
    rw [changes] at flash tab
    have saves := Store.saveAll_of_working persisted.working [(portmapKey, table)]
    have nvs : (d.call lwip c).router.nvs = (d.router.nvs.saveAll [(portmapKey, table)]).2 :=
      congrArg Flash.store flash
    have through : (d.flash.save [(portmapKey, table)]).1 = espOk := congrArg Prod.fst saves
    rw [saves] at nvs
    refine ⟨by rw [nvs]; exact persisted.working, ?_, ?_⟩
    · rw [flash]
      exact Flash.settled_save through (by simp)
    · rw [nvs, tab]
      simp [writeAll]

/-- As long as NVS works, only calls show in the table. -/
theorem Persisted.step (lwip : Lwip Napt) (napt : Napt) {d : Device n Napt}
    (persisted : Persisted d) {e : Event}
    (works : e.Works) :
    Persisted (Device.step lwip napt e d) ∧
      (e.isCall = false →
        (Device.step lwip napt e d).router.portmapTab = d.router.portmapTab) := by
  cases e with
  | call c => exact ⟨persisted.call lwip c, fun other => absurd other (by simp [Event.isCall])⟩
  | gotIp ip => exact ⟨⟨persisted.working, persisted.settled, persisted.saved⟩, fun _ => rfl⟩
  | reboot staticIp kept results =>
    have settled := Flash.settled_powerLoss kept results d.flash portmapKey
    have working : (d.flash.powerLoss kept results).store.results = [] := works
    obtain ⟨boots, tab⟩ := persisted_boot lwip napt staticIp working settled
    refine ⟨boots, fun _ => tab.trans ?_⟩
    have survives : (d.flash.powerLoss kept results).store.saved portmapKey =
        d.router.nvs.saved portmapKey := persisted.settled.survivor kept
    rw [survives, persisted.saved]

/-- Reboots do not show in the table while NVS works: after any history it is what the calls alone
    would have made of it. -/
theorem reboots_invisible (lwip : Lwip Napt) (napt : Napt) (staticIp : Bool)
    (saved : String → Option (Table n)) {history : List Event} (works : ∀ e ∈ history, e.Works) :
    let first := Device.first lwip napt staticIp saved []
    (first.after lwip napt history).router.portmapTab =
      (first.after lwip napt (history.filter Event.isCall)).router.portmapTab := by
  intro first
  have persisted : Persisted first :=
    (persisted_boot lwip napt staticIp rfl fun _ => List.not_mem_nil).1
  -- Two devices with the same table, of which one is rebooted and the other is not.
  have both : ∀ (history : List Event) (d d' : Device n Napt), (∀ e ∈ history, e.Works) →
      Persisted d → d.router.portmapTab = d'.router.portmapTab →
        (d.after lwip napt history).router.portmapTab =
          (d'.after lwip napt (history.filter Event.isCall)).router.portmapTab := by
    intro history
    induction history with
    | nil => exact fun d d' _ _ same => same
    | cons e history ih =>
      intro d d' works persisted same
      obtain ⟨next, quiet⟩ := persisted.step lwip napt
        (works e List.mem_cons_self)
      have rest := fun d' => ih (Device.step lwip napt e d) d'
        (fun e member => works e (List.mem_cons_of_mem _ member)) next
      cases isCall : e.isCall with
      | false =>
        rw [List.filter_cons_of_neg (by simp [isCall])]
        exact rest d' ((quiet isCall).trans same)
      | true =>
        rw [List.filter_cons_of_pos isCall]
        refine rest (Device.step lwip napt e d') ?_
        cases e with
        | call c =>
          change (d.call lwip c).router.portmapTab = (d'.call lwip c).router.portmapTab
          rw [call_tab, call_tab, same]
        | gotIp ip => cases isCall
        | reboot staticIp kept results => cases isCall
  exact both history first first works persisted rfl

/-- A port is mapped, the power is lost, and the port map is deleted again. -/
def mappedAndDeleted : List Event :=
  [.call (.add 6 80 0xC0A80402 80), .gotIp 0x0A00000A, .reboot false (fun _ => some 0) [],
    .call (.del 6 80)]

theorem reboots_invisible_deleted :
    let first : Device 32 _ := Device.first listLwip [] false (fun _ => none) []
    (first.after listLwip [] mappedAndDeleted).router.portmapTab =
      (first.after listLwip [] (mappedAndDeleted.filter Event.isCall)).router.portmapTab :=
  have works : ∀ e ∈ mappedAndDeleted, e.Works := by
    simp [mappedAndDeleted, Event.Works]
  reboots_invisible listLwip [] false (fun _ => none) works

end

end SolarConnect.PortMap
