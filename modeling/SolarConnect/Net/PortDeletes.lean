import SolarConnect.Misc.Runs
import SolarConnect.Net.PortMap

/-!
# Deleting a port map

`del_portmap` clears the first entry of a port, and `apply_portmap_tab` adds every valid entry
again when the uplink comes back. A port that is added twice has two entries, and one of them
outlives its deletion.
-/

namespace SolarConnect.PortMap

open Nvs Runs Slots

variable {n : Nat} {Napt : Type} {lwip : Lwip Napt}

/-- Two entries of the table forward the port. -/
def MappedTwice (proto : UInt8) (mport : UInt16) (tab : Table n) : Prop :=
  ∃ i j, i ≠ j ∧ (tab i).forwards proto mport = true ∧ (tab j).forwards proto mport = true

/-- `del_portmap` leaves no entry of the port, and every valid entry of another port. -/
structure Deletes (lwip : Lwip Napt) (proto : UInt8) (mport : UInt16) (s : Router n Napt) :
    Prop where
  gone : ∀ i, ((delPortmap lwip proto mport s).2.portmapTab i).forwards proto mport = false
  others : ∀ i, (s.portmapTab i).valid ≠ 0 →
    ((s.portmapTab i).proto, (s.portmapTab i).mport) ≠ (proto, mport) →
      (delPortmap lwip proto mport s).2.portmapTab i = s.portmapTab i

/-- The call adds a port that a valid entry forwards already, and finds an entry free. -/
def Duplicates (proto : UInt8) (mport : UInt16) (c : Call) (tab : Table n) : Prop :=
  (∃ daddr dport, c = .add proto mport daddr dport) ∧
    (∃ i, (tab i).forwards proto mport = true) ∧ ∃ i, (tab i).valid = 0

/-- The router after the calls, from an empty table. -/
def routerAfterCalls (lwip : Lwip Napt) (nvs : Store String (Table n)) (napt : Napt)
    (myIp : UInt32) (calls : List Call) : Router n Napt :=
  run (fun c s => (c.run lwip s).2) ⟨emptyTab, nvs, napt, myIp⟩ calls

/-! ## One call -/

/-- The table changes in the same way whatever becomes of the other copies. -/
theorem run_portmapTab (lwip : Lwip Napt) (c : Call) (s : Router n Napt) :
    (c.run lwip s).2.portmapTab = (c.newTab s.portmapTab).getD s.portmapTab := by
  cases changes : c.newTab s.portmapTab with
  | none => rw [Call.run_of_no_change lwip changes, Option.getD_none]
  | some tab =>
    rw [Call.run_of_change lwip changes, Option.getD_some]
    by_cases opens : s.nvs.Works 1
    · exact (storeTab_of_opens _ (s := { s with portmapTab := tab }) opens).tab
    · obtain ⟨err, -, result⟩ := storeTab_of_not_opens (c.toLwip lwip s.myIp)
        (s := { s with portmapTab := tab }) opens
      rw [result]

theorem Entry.forwards_valid {entry : Entry} {proto : UInt8} {mport : UInt16}
    (forwards : entry.forwards proto mport = true) : entry.valid ≠ 0 := by
  intro unused
  simp [Entry.forwards, unused] at forwards

theorem Entry.forwards_key {entry : Entry} {proto : UInt8} {mport : UInt16}
    (forwards : entry.forwards proto mport = true) :
    (entry.proto, entry.mport) = (proto, mport) := by
  simp only [Entry.forwards, Bool.and_eq_true, beq_iff_eq] at forwards
  rw [forwards.1.2, forwards.2]

theorem Entry.forwards_cleared (entry : Entry) (proto : UInt8) (mport : UInt16) :
    { entry with valid := 0 }.forwards proto mport = false :=
  rfl

/-- A call touches no entry of a port, unless it deletes that port. -/
theorem run_spares {c : Call} {s : Router n Napt} {proto : UInt8} {mport : UInt16} {i : Fin n}
    (other : c ≠ .del proto mport) (forwards : (s.portmapTab i).forwards proto mport = true) :
    (c.run lwip s).2.portmapTab i = s.portmapTab i := by
  rw [run_portmapTab]
  cases changes : c.newTab s.portmapTab with
  | none => rfl
  | some tab =>
    obtain ⟨⟨j, entry⟩, found, rfl⟩ := Option.map_eq_some_iff.mp changes
    have apart : i ≠ j := by
      rintro rfl
      cases c with
      | add proto' mport' daddr dport =>
        obtain ⟨k, free, pair⟩ := Option.map_eq_some_iff.mp found
        obtain ⟨rfl, -⟩ := Prod.mk.inj pair
        have unused := firstSlot_passes free
        exact Entry.forwards_valid forwards (beq_iff_eq.mp unused)
      | del proto' mport' =>
        obtain ⟨k, used, pair⟩ := Option.map_eq_some_iff.mp found
        obtain ⟨rfl, -⟩ := Prod.mk.inj pair
        have key := Entry.forwards_key (firstSlot_passes used)
        rw [Entry.forwards_key forwards] at key
        obtain ⟨rfl, rfl⟩ := Prod.mk.inj key
        exact other rfl
    exact Function.update_of_ne apart _ _

/-- One of two entries of a port is not the `k`-th. -/
theorem MappedTwice.besides {tab : Table n} {proto : UInt8} {mport : UInt16}
    (twice : MappedTwice proto mport tab) (k : Fin n) :
    ∃ i, i ≠ k ∧ (tab i).forwards proto mport = true := by
  obtain ⟨i, j, apart, one, two⟩ := twice
  by_cases same : i = k
  · exact ⟨j, fun again => apart (same.trans again.symm), two⟩
  · exact ⟨i, same, one⟩

/-- An entry that doubles a port forwards it, as an entry before it does. -/
theorem MappedTwice.of_update {tab : Table n} {proto : UInt8} {mport : UInt16} {k : Fin n}
    {entry : Entry} (once : ¬ MappedTwice proto mport tab)
    (twice : MappedTwice proto mport (Function.update tab k entry)) :
    (∃ i, (tab i).forwards proto mport = true) ∧ entry.forwards proto mport = true := by
  obtain ⟨m, other, old⟩ := twice.besides k
  rw [Function.update_of_ne other] at old
  refine ⟨⟨m, old⟩, ?_⟩
  -- else both entries were there before
  by_contra absent
  have there (i : Fin n) (mapped : (Function.update tab k entry i).forwards proto mport = true) :
      (tab i).forwards proto mport = true := by
    by_cases same : i = k
    · rw [same, Function.update_self] at mapped
      exact absurd mapped absent
    · rw [Function.update_of_ne same] at mapped
      exact mapped
  obtain ⟨i, j, apart, one, two⟩ := twice
  exact once ⟨i, j, apart, there i one, there j two⟩

/-- A call that finds a port mapped once and leaves it mapped twice has added it again. -/
theorem duplicates_of_mappedTwice {c : Call} {s : Router n Napt} {proto : UInt8} {mport : UInt16}
    (once : ¬ MappedTwice proto mport s.portmapTab)
    (twice : MappedTwice proto mport (c.run lwip s).2.portmapTab) :
    Duplicates proto mport c s.portmapTab := by
  rw [run_portmapTab] at twice
  cases changes : c.newTab s.portmapTab with
  | none =>
    rw [changes] at twice
    exact absurd twice once
  | some tab =>
    rw [changes, Option.getD_some] at twice
    obtain ⟨⟨k, entry⟩, found, rfl⟩ := Option.map_eq_some_iff.mp changes
    obtain ⟨mapped, new⟩ := MappedTwice.of_update once twice
    cases c with
    | add proto' mport' daddr dport =>
      obtain ⟨l, free, pair⟩ := Option.map_eq_some_iff.mp found
      obtain ⟨rfl, rfl⟩ := Prod.mk.inj pair
      obtain ⟨rfl, rfl⟩ := Prod.mk.inj (Entry.forwards_key new)
      exact ⟨⟨daddr, dport, rfl⟩, mapped, ⟨l, beq_iff_eq.mp (firstSlot_passes free)⟩⟩
    | del proto' mport' =>
      obtain ⟨l, used, pair⟩ := Option.map_eq_some_iff.mp found
      obtain ⟨rfl, rfl⟩ := Prod.mk.inj pair
      rw [Entry.forwards_cleared] at new
      cases new

theorem mappedTwice_of_duplicates {c : Call} {s : Router n Napt} {proto : UInt8}
    {mport : UInt16} (duplicates : Duplicates proto mport c s.portmapTab) :
    MappedTwice proto mport (c.run lwip s).2.portmapTab := by
  obtain ⟨⟨daddr, dport, rfl⟩, ⟨i, mapped⟩, ⟨j, unused⟩⟩ := duplicates
  have free : (firstSlot fun i => (s.portmapTab i).valid == 0).isSome = true :=
    firstSlot_isSome_iff.mpr ⟨j, beq_iff_eq.mpr unused⟩
  obtain ⟨k, first⟩ := Option.isSome_iff_exists.mp free
  have apart : i ≠ k := by
    rintro rfl
    exact Entry.forwards_valid mapped (beq_iff_eq.mp (firstSlot_passes first))
  have kept : ((Call.add proto mport daddr dport).run lwip s).2.portmapTab i = s.portmapTab i :=
    run_spares (by simp) mapped
  refine ⟨i, k, apart, by rw [kept]; exact mapped, ?_⟩
  rw [run_portmapTab, Call.newTab, Call.change, first]
  simp [Entry.forwards]

theorem MappedTwice.keeps {c : Call} {s : Router n Napt} {proto : UInt8} {mport : UInt16}
    (twice : MappedTwice proto mport s.portmapTab) (other : c ≠ .del proto mport) :
    MappedTwice proto mport (c.run lwip s).2.portmapTab := by
  obtain ⟨i, j, apart, one, two⟩ := twice
  refine ⟨i, j, apart, ?_, ?_⟩
  · rw [run_spares other one]
    exact one
  · rw [run_spares other two]
    exact two

/-- `del_portmap` deletes a port exactly if no two entries forward it. -/
theorem deletes_iff (proto : UInt8) (mport : UInt16) (s : Router n Napt) :
    Deletes lwip proto mport s ↔ ¬ MappedTwice proto mport s.portmapTab := by
  have after := run_portmapTab lwip (.del proto mport) s
  simp only [Call.run, Call.newTab, Call.change, Option.map_map] at after
  cases found : firstSlot fun i => (s.portmapTab i).forwards proto mport with
  | none =>
    rw [found, Option.map_none, Option.getD_none] at after
    have absent := firstSlot_eq_none_iff.mp found
    constructor
    · rintro - ⟨i, -, -, one, -⟩
      rw [absent i] at one
      cases one
    · intro _
      refine ⟨?_, ?_⟩
      · rw [after]
        exact absent
      · intro i _ _
        rw [after]
  | some k =>
    rw [found, Option.map_some, Option.getD_some, Function.comp_apply] at after
    have first := firstSlot_passes found
    constructor
    · intro deletes twice
      -- one of the two is not the entry that is cleared
      obtain ⟨m, kept, old⟩ := twice.besides k
      have gone := deletes.gone m
      rw [after, Function.update_of_ne kept, old] at gone
      cases gone
    · intro once
      refine ⟨?_, ?_⟩
      · intro i
        rw [after]
        by_cases same : i = k
        · rw [same, Function.update_self]
          exact Entry.forwards_cleared _ proto mport
        · rw [Function.update_of_ne same, ← Bool.not_eq_true]
          exact fun mapped => once ⟨i, k, same, mapped, first⟩
      · intro i _ other
        rw [after]
        refine Function.update_of_ne ?_ _ _
        rintro rfl
        exact other (Entry.forwards_key first)

/-! ## Runs -/

/-- Every deletion of a run deletes its port, if and only if no port is deleted after a call that
    added it while it was mapped already. -/
theorem deletions_delete_iff (lwip : Lwip Napt) (nvs : Store String (Table n)) (napt : Napt)
    (myIp : UInt32) (calls : List Call) :
    (∀ prior proto mport, prior ++ [Call.del proto mport] <+: calls →
      Deletes lwip proto mport (routerAfterCalls lwip nvs napt myIp prior)) ↔
    ∀ earlier c later proto mport, earlier ++ c :: later ++ [Call.del proto mport] <+: calls →
      ¬ Duplicates proto mport c (routerAfterCalls lwip nvs napt myIp earlier).portmapTab := by
  constructor
  · intro deletes earlier c later proto mport before duplicates
    have twice : MappedTwice proto mport
        (routerAfterCalls lwip nvs napt myIp (earlier ++ [c])).portmapTab := by
      rw [routerAfterCalls, run_append]
      exact mappedTwice_of_duplicates duplicates
    obtain ⟨skipped, first, still⟩ := run_until
      (fun s : Router n Napt => MappedTwice proto mport s.portmapTab) (.del proto mport) twice
      (fun c s twice other => twice.keeps other) later
    have reached : (earlier ++ [c] ++ skipped) ++ [Call.del proto mport] <+: calls := by
      refine List.IsPrefix.trans ?_ before
      simpa using first
    have deleted := deletes _ proto mport reached
    rw [deletes_iff, routerAfterCalls, run_append] at deleted
    exact deleted still
  · intro fresh prior proto mport before
    rw [deletes_iff]
    intro twice
    have empty : ¬ MappedTwice proto mport (emptyTab : Table n) := by
      rintro ⟨i, -, -, one, -⟩
      simp [emptyTab, Entry.forwards] at one
    obtain ⟨earlier, c, later, rfl, once, again⟩ :=
      run_produces (fun s : Router n Napt => MappedTwice proto mport s.portmapTab) empty twice
    exact fresh earlier c later proto mport before (duplicates_of_mappedTwice once again)

/-- A port is added for one host, then for another, and deleted. -/
def addedTwice : List Call :=
  [.add 6 80 0xC0A80402 8080, .add 6 80 0xC0A80403 8080]

/-- The second entry outlives the deletion. -/
theorem deleted_still_mapped :
    ¬ ∀ (n : Nat) (Napt : Type) (lwip : Lwip Napt) (napt : Napt) (myIp : UInt32)
      (prior : List Call) (proto : UInt8) (mport : UInt16),
        Deletes lwip proto mport
          (routerAfterCalls (n := n) lwip ⟨fun _ => none, [], []⟩ napt myIp prior) := by
  intro claim
  have gone := (claim 32 _ listLwip [] 0x0A00000A addedTwice 6 80).gone 1
  exact absurd gone (by decide +kernel)

end SolarConnect.PortMap
