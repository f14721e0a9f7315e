import SolarConnect.Misc.Nvs
import SolarConnect.Misc.Slots

/-!
# Port maps

Three copies of the forwarded ports: `portmap_tab` in RAM, a blob of it in flash, and lwIP's own
map, which is not part of this program and is given by its two operations. `add_portmap` and
`del_portmap` change the RAM copy first, and go on to the others as far as NVS lets them.
-/

namespace SolarConnect.PortMap

open Nvs Slots

variable {n : Nat} {Napt : Type}

/-- `struct portmap_table_entry`. -/
structure Entry where
  daddr : UInt32
  mport : UInt16
  dport : UInt16
  proto : UInt8
  valid : UInt8
deriving DecidableEq

/-- `portmap_tab`, of `IP_PORTMAP_MAX` entries. -/
abbrev Table (n : Nat) := Fin n → Entry

/-- `ip_portmap_add` and `ip_portmap_remove`. -/
structure Lwip (Napt : Type) where
  portmapAdd (proto : UInt8) (maddr : UInt32) (mport : UInt16) (daddr : UInt32)
    (dport : UInt16) : Napt → Napt
  portmapRemove (proto : UInt8) (mport : UInt16) : Napt → Napt

structure Router (n : Nat) (Napt : Type) where
  portmapTab : Table n
  nvs : Store String (Table n)
  napt : Napt
  myIp : UInt32

/-- `ESP_ERR_NO_MEM`. -/
def espErrNoMem : Err := 0x101

/-- The key of the table's blob. -/
def portmapKey : String := "portmap_tab"

/-- `portmap_tab` before anything is added. -/
def emptyTab : Table n :=
  fun _ => ⟨0, 0, 0, 0, 0⟩

/-- `apply_portmap_tab`. -/
def applyPortmapTab (lwip : Lwip Napt) (s : Router n Napt) : Router n Napt :=
  let apply (i : Fin n) (napt : Napt) : Napt :=
    let entry := s.portmapTab i
    if entry.valid ≠ 0 then
      lwip.portmapAdd entry.proto s.myIp entry.mport entry.daddr entry.dport napt
    else napt
  { s with napt := sweep apply s.napt }

/-- `delete_portmap_tab`. -/
def deletePortmapTab (lwip : Lwip Napt) (s : Router n Napt) : Router n Napt :=
  let delete (i : Fin n) (napt : Napt) : Napt :=
    let entry := s.portmapTab i
    if entry.valid ≠ 0 then lwip.portmapRemove entry.proto entry.mport napt else napt
  { s with napt := sweep delete s.napt }

/-- What `wifi_event_handler` does with the table once the uplink has an address. -/
def staGotIp (lwip : Lwip Napt) (ip : UInt32) (s : Router n Napt) : Router n Napt :=
  applyPortmapTab lwip (deletePortmapTab lwip { s with myIp := ip })

/-- Sets the table's blob and commits it, without a look at the result of the commit or at that
    of a set that fails. -/
def setAndCommit (tab : Table n) (nvs : Store String (Table n)) : Store String (Table n) :=
  let (err, nvs) := nvs.nvsSet portmapKey tab
  if err = espOk then nvs.nvsCommit.2 else nvs

/-- What a change of the table goes on with: the blob is stored, and lwIP is called. -/
def storeTab (toLwip : Napt → Napt) (s : Router n Napt) : Err × Router n Napt :=
  let (err, nvs) := s.nvs.nvsOpen
  if err ≠ espOk then (err, { s with nvs })
  else
    let nvs := (setAndCommit s.portmapTab nvs).nvsClose
    (espOk, { s with nvs, napt := toLwip s.napt })

/-- `add_portmap`. -/
def addPortmap (lwip : Lwip Napt) (proto : UInt8) (mport : UInt16) (daddr : UInt32)
    (dport : UInt16) (s : Router n Napt) : Err × Router n Napt :=
  match firstSlot fun i => (s.portmapTab i).valid == 0 with
  | none => (espErrNoMem, s)
  | some i =>
    let entry : Entry := { proto, mport, daddr, dport, valid := 1 }
    storeTab (lwip.portmapAdd proto s.myIp mport daddr dport)
      { s with portmapTab := Function.update s.portmapTab i entry }

/-- The entry is valid and forwards this port. -/
def Entry.forwards (entry : Entry) (proto : UInt8) (mport : UInt16) : Bool :=
  entry.valid != 0 && entry.mport == mport && entry.proto == proto

/-- `del_portmap`. -/
def delPortmap (lwip : Lwip Napt) (proto : UInt8) (mport : UInt16) (s : Router n Napt) :
    Err × Router n Napt :=
  match firstSlot fun i => (s.portmapTab i).forwards proto mport with
  | none => (espOk, s)
  | some i =>
    let entry := { s.portmapTab i with valid := 0 }
    storeTab (lwip.portmapRemove proto mport)
      { s with portmapTab := Function.update s.portmapTab i entry }

/-! ## One call -/

/-- A call of `add_portmap` or `del_portmap`. -/
inductive Call
  | add (proto : UInt8) (mport : UInt16) (daddr : UInt32) (dport : UInt16)
  | del (proto : UInt8) (mport : UInt16)

namespace Call

/-- The call, with what it returns. -/
def run (lwip : Lwip Napt) : Call → Router n Napt → Err × Router n Napt
  | .add proto mport daddr dport => addPortmap lwip proto mport daddr dport
  | .del proto mport => delPortmap lwip proto mport

/-- What the call asks of lwIP. -/
def toLwip (lwip : Lwip Napt) (myIp : UInt32) : Call → Napt → Napt
  | .add proto mport daddr dport => lwip.portmapAdd proto myIp mport daddr dport
  | .del proto mport => lwip.portmapRemove proto mport

/-- The slot that the call changes, and its new entry. -/
def change : Call → Table n → Option (Fin n × Entry)
  | .add proto mport daddr dport, tab =>
    (firstSlot fun i => (tab i).valid == 0).map fun i =>
      (i, { proto, mport, daddr, dport, valid := 1 })
  | .del proto mport, tab =>
    (firstSlot fun i => (tab i).forwards proto mport).map fun i => (i, { tab i with valid := 0 })

/-- The table after the call, if the call changes it. -/
def newTab (c : Call) (tab : Table n) : Option (Table n) :=
  (c.change tab).map fun slot => Function.update tab slot.1 slot.2

variable {c : Call} {s : Router n Napt}

theorem run_of_change (lwip : Lwip Napt) {tab : Table n}
    (changes : c.newTab s.portmapTab = some tab) :
    c.run lwip s = storeTab (c.toLwip lwip s.myIp) { s with portmapTab := tab } := by
  cases c with
  | add proto mport daddr dport =>
    unfold newTab change at changes
    simp only [run, addPortmap, toLwip]
    split
    · rename_i full
      simp [full] at changes
    · rename_i i free
      simp only [free, Option.map_some, Option.some.injEq] at changes
      rw [changes]
  | del proto mport =>
    unfold newTab change at changes
    simp only [run, delPortmap, toLwip]
    split
    · rename_i absent
      simp [absent] at changes
    · rename_i i found
      simp only [found, Option.map_some, Option.some.injEq] at changes
      rw [changes]

theorem run_of_no_change (lwip : Lwip Napt) (same : c.newTab s.portmapTab = none) :
    (c.run lwip s).2 = s := by
  cases c with
  | add proto mport daddr dport =>
    simp only [newTab, change, Option.map_eq_none_iff] at same
    simp only [run, addPortmap, same]
  | del proto mport =>
    simp only [newTab, change, Option.map_eq_none_iff] at same
    simp only [run, delPortmap, same]

/-- A call that changes the table changes whether an entry is valid. -/
theorem newTab_ne {tab tab' : Table n} (changes : c.newTab tab = some tab') : tab' ≠ tab := by
  obtain ⟨⟨i, entry⟩, found, rfl⟩ := Option.map_eq_some_iff.mp changes
  intro same
  have kept : entry = tab i := by
    rw [← same, Function.update_self]
  cases c with
  | add proto mport daddr dport =>
    obtain ⟨j, free, pair⟩ := Option.map_eq_some_iff.mp found
    obtain ⟨rfl, rfl⟩ := Prod.mk.inj pair
    have unused := firstSlot_passes free
    rw [← kept] at unused
    simp at unused
  | del proto mport =>
    obtain ⟨j, used, pair⟩ := Option.map_eq_some_iff.mp found
    obtain ⟨rfl, rfl⟩ := Prod.mk.inj pair
    have valid := firstSlot_passes used
    rw [← kept] at valid
    simp [Entry.forwards] at valid

end Call

/-! ## All or nothing -/

theorem setAndCommit_of_works (tab : Table n) {nvs : Store String (Table n)}
    (works : nvs.Works 2) :
    (setAndCommit tab nvs).saved = writeAll nvs.saved (nvs.unsaved ++ [(portmapKey, tab)]) := by
  obtain ⟨sets, commits⟩ := (Store.works_succ 1).mp works
  unfold setAndCommit
  rw [Store.nvsSet_of_works sets]
  exact Store.nvsCommit_saved_of_works commits

theorem setAndCommit_of_not_works {nvs : Store String (Table n)} (tab : Table n)
    (fails : ¬ nvs.Works 2) : (setAndCommit tab nvs).saved = nvs.saved := by
  unfold setAndCommit
  by_cases sets : nvs.Works 1
  · have commits : ¬ nvs.next.Works 1 := by
      intro commits
      exact fails ((Store.works_succ 1).mpr ⟨sets, commits⟩)
    rw [Store.nvsSet_of_works sets]
    exact Store.nvsCommit_saved_of_not_works commits
  · obtain ⟨err, failed, result⟩ := Store.nvsSet_of_not_works sets portmapKey tab
    rw [result]
    dsimp only
    rw [if_neg failed]
    rfl

/-- What is left once NVS opens, by whether the set and the commit succeed as well. -/
structure Stores (toLwip : Napt → Napt) (s : Router n Napt) (r : Err × Router n Napt) : Prop where
  ok : r.1 = espOk
  tab : r.2.portmapTab = s.portmapTab
  napt : r.2.napt = toLwip s.napt
  committed : s.nvs.Works 3 →
    r.2.nvs.saved = Function.update s.nvs.saved portmapKey (some s.portmapTab)
  lost : ¬ s.nvs.Works 3 → r.2.nvs.saved = s.nvs.saved

theorem storeTab_of_opens (toLwip : Napt → Napt) {s : Router n Napt} (opens : s.nvs.Works 1) :
    Stores toLwip s (storeTab toLwip s) := by
  have rest := Store.works_succ (s := s.nvs) 2
  have opened : s.nvs.nvsOpen = (espOk, { s.nvs.next with unsaved := [] }) :=
    Store.call_of_works opens _
  unfold storeTab
  rw [opened]
  dsimp only
  rw [if_neg (not_not_intro rfl)]
  refine ⟨rfl, rfl, rfl, ?_, ?_⟩
  · intro works
    have second : Store.Works 2 { s.nvs.next with unsaved := [] } := (rest.mp works).2
    exact setAndCommit_of_works _ second
  · intro fails
    have second : ¬ Store.Works 2 { s.nvs.next with unsaved := [] } :=
      fun works => fails (rest.mpr ⟨opens, works⟩)
    exact setAndCommit_of_not_works _ second

theorem storeTab_of_not_opens (toLwip : Napt → Napt) {s : Router n Napt}
    (fails : ¬ s.nvs.Works 1) :
    ∃ err ≠ espOk, storeTab toLwip s = (err, { s with nvs := s.nvs.next }) := by
  obtain ⟨err, failed, result⟩ := Store.call_of_not_works fails fun s => { s with unsaved := [] }
  refine ⟨err, failed, ?_⟩
  unfold storeTab
  rw [Store.nvsOpen, result]
  exact if_pos failed

/-- All or nothing: a call that succeeds with a change has made it everywhere, and a call that
    fails has made it nowhere. -/
structure AllOrNothing (lwip : Lwip Napt) (c : Call) (s : Router n Napt) : Prop where
  ok : (c.run lwip s).1 = espOk → (c.run lwip s).2.portmapTab ≠ s.portmapTab →
    (c.run lwip s).2.nvs.saved portmapKey = some (c.run lwip s).2.portmapTab ∧
      (c.run lwip s).2.napt = c.toLwip lwip s.myIp s.napt
  error : (c.run lwip s).1 ≠ espOk →
    (c.run lwip s).2.portmapTab = s.portmapTab ∧
      (c.run lwip s).2.nvs.saved portmapKey = s.nvs.saved portmapKey ∧
        (c.run lwip s).2.napt = s.napt

/-- The flash will hold `tab`: NVS opens, and either the blob is set and committed or it is this
    table already. -/
def WillHold (nvs : Store String (Table n)) (tab : Table n) : Prop :=
  nvs.Works 1 ∧ (nvs.Works 3 ∨ nvs.saved portmapKey = some tab)

variable {lwip : Lwip Napt} {c : Call} {s : Router n Napt}

/-- A call that changes the table is all or nothing exactly if the flash takes the new table. -/
theorem allOrNothing_of_change {tab : Table n} (changes : c.newTab s.portmapTab = some tab) :
    AllOrNothing lwip c s ↔ WillHold s.nvs tab := by
  have different := Call.newTab_ne changes
  have after := Call.run_of_change lwip changes
  by_cases opens : s.nvs.Works 1
  · have stores := storeTab_of_opens (c.toLwip lwip s.myIp)
      (s := { s with portmapTab := tab }) opens
    rw [← after] at stores
    constructor
    · intro atomic
      have blob := (atomic.ok stores.ok (by rw [stores.tab]; exact different)).1
      refine ⟨opens, ?_⟩
      by_cases works : s.nvs.Works 3
      · exact .inl works
      · rw [stores.lost works, stores.tab] at blob
        exact .inr blob
    · rintro ⟨-, held⟩
      refine ⟨fun _ _ => ⟨?_, stores.napt⟩, fun failed => absurd stores.ok failed⟩
      rw [stores.tab]
      by_cases works : s.nvs.Works 3
      · rw [stores.committed works, Function.update_self]
      · rw [stores.lost works]
        exact held.resolve_left works
  · obtain ⟨err, failed, result⟩ := storeTab_of_not_opens (c.toLwip lwip s.myIp)
      (s := { s with portmapTab := tab }) opens
    rw [result] at after
    constructor
    · intro atomic
      have same := (atomic.error (by rw [after]; exact failed)).1
      rw [after] at same
      exact absurd same different
    · rintro ⟨works, -⟩
      exact absurd works opens

/-- A call is all or nothing exactly if it has nothing to change or the flash takes the new
    table. -/
theorem allOrNothing_iff (lwip : Lwip Napt) (c : Call) (s : Router n Napt) :
    AllOrNothing lwip c s ↔ ∀ tab, c.newTab s.portmapTab = some tab → WillHold s.nvs tab := by
  cases changes : c.newTab s.portmapTab with
  | none =>
    have same := Call.run_of_no_change lwip changes
    refine ⟨?_, fun _ => ⟨?_, ?_⟩⟩
    · intro _ tab found
      cases found
    · intro _ different
      rw [same] at different
      exact absurd rfl different
    · intro _
      rw [same]
      exact ⟨rfl, rfl, rfl⟩
  | some tab =>
    rw [allOrNothing_of_change changes]
    simp

/-- A port map as the list of what was added and not removed. -/
def listLwip : Lwip (List (UInt8 × UInt16 × UInt32 × UInt16)) where
  portmapAdd proto _ mport daddr dport napt := (proto, mport, daddr, dport) :: napt
  portmapRemove proto mport napt := napt.filter fun entry => (entry.1, entry.2.1) != (proto, mport)

/-- No port is mapped, and NVS opens and sets the blob, but does not commit it. -/
def uncommitted : Router 32 (List (UInt8 × UInt16 × UInt32 × UInt16)) where
  portmapTab := emptyTab
  nvs := ⟨fun _ => none, [], [espOk, espOk, 0x1105]⟩
  napt := []
  myIp := 0x0A00000A

/-- The port map that is reported as added is not in flash. -/
theorem added_not_committed :
    ¬ ∀ (n : Nat) (Napt : Type) (lwip : Lwip Napt) (c : Call) (s : Router n Napt),
      AllOrNothing lwip c s := by
  intro claim
  have atomic := claim 32 _ listLwip (.add 6 80 0xC0A80402 80) uncommitted
  have changed : ((Call.add 6 80 0xC0A80402 80).run listLwip uncommitted).2.portmapTab ≠
      uncommitted.portmapTab :=
    fun same => absurd (congrFun same 0) (by decide +kernel)
  have blob := (atomic.ok (by decide +kernel) changed).1
  exact absurd (congrArg Option.isSome blob) (by decide +kernel)

end SolarConnect.PortMap
