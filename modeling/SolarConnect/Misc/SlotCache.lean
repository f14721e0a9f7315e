import Mathlib.Data.List.Induction
import Mathlib.Logic.Function.Basic
import Mathlib.Order.Lattice

/-!
# Caches with slots

A table of slots, each empty or with one item under a key, that is only ever used in two ways: a
lookup may drop items that have expired, and an item is put in a slot when its key is in no slot.
A history of such uses says what a lookup can find: the latest item under its key, unless it has
expired or something was put in its slot since.
-/

namespace SlotCache

/-- An item of a cache. -/
structure Item (Key Value Time : Type) where
  key : Key
  value : Value
  expires : Time

variable {Slot Key Value Time : Type}

/-- What the slots hold. -/
abbrev Table (Slot Key Value Time : Type) := Slot → Option (Item Key Value Time)

/-- A use of the cache: a lookup at a time, or an insertion with what was in its slot before. -/
inductive Use (Key Value Time : Type)
  | look (now : Time)
  | insert (item : Item Key Value Time) (displaced : Option (Item Key Value Time))

/-- No two slots hold items of one key. -/
def UniqueKeys (tab : Table Slot Key Value Time) : Prop :=
  ∀ i j a b, tab i = some a → tab j = some b → a.key = b.key → i = j

/-- No slot holds an item of the key. -/
def Absent (key : Key) (tab : Table Slot Key Value Time) : Prop :=
  ∀ i item, tab i = some item → item.key ≠ key

section

variable [DecidableEq Key]

/-- The latest item under the key after one more use, if nothing was put in its slot since. -/
def latestStep (key : Key) (latest : Option (Item Key Value Time)) :
    Use Key Value Time → Option (Item Key Value Time)
  | .look _ => latest
  | .insert item displaced =>
    if item.key = key then some item
    else if displaced.map Item.key = some key then none
    else latest

/-- The latest item put under the key, if nothing was put in its slot since. -/
def latest (key : Key) (uses : List (Use Key Value Time)) : Option (Item Key Value Time) :=
  uses.foldl (latestStep key) none

theorem latest_concat (key : Key) (uses : List (Use Key Value Time)) (use : Use Key Value Time) :
    latest key (uses ++ [use]) = latestStep key (latest key uses) use := by
  simp [latest]

/-- The latest item was inserted. -/
theorem latest_inserted {key : Key} {uses : List (Use Key Value Time)}
    {item : Item Key Value Time} (last : latest key uses = some item) :
    ∃ displaced, .insert item displaced ∈ uses := by
  induction uses using List.reverseRecOn with
  | nil => cases last
  | append_singleton uses use ih =>
    have before :
      latest key uses = some item → ∃ displaced, .insert item displaced ∈ uses ++ [use] := by
      intro earlier
      obtain ⟨displaced, member⟩ := ih earlier
      exact ⟨displaced, List.mem_append_left _ member⟩
    rw [latest_concat] at last
    cases use with
    | look now => exact before last
    | insert new displaced =>
      rw [latestStep] at last
      split at last
      · rw [Option.some.inj last]
        exact ⟨displaced, by simp⟩
      · split at last
        · cases last
        · exact before last

end

variable [LinearOrder Time]

/-- Only items that have expired are dropped. -/
def Drops (now : Time) (tab tab' : Table Slot Key Value Time) : Prop :=
  ∀ i, tab' i = tab i ∨ tab' i = none ∧ ∃ item, tab i = some item ∧ item.expires ≤ now

/-- A lookup of the key can find the item. -/
def Finds (now : Time) (key : Key) (tab : Table Slot Key Value Time) (item : Item Key Value Time) :
    Prop :=
  (∃ i, tab i = some item) ∧ item.key = key ∧ now < item.expires

/-- The uses that lead from one table to another. -/
inductive Uses [DecidableEq Slot] (start : Table Slot Key Value Time) :
    List (Use Key Value Time) → Table Slot Key Value Time → Prop
  | unused : Uses start [] start
  | look {uses : List (Use Key Value Time)} {tab tab' : Table Slot Key Value Time} (now : Time)
      (before : Uses start uses tab) (drops : Drops now tab tab') :
      Uses start (uses ++ [.look now]) tab'
  | insert {uses : List (Use Key Value Time)} {tab : Table Slot Key Value Time}
      (item : Item Key Value Time) (slot : Slot) (before : Uses start uses tab)
      (absent : Absent item.key tab) :
      Uses start (uses ++ [.insert item (tab slot)]) (Function.update tab slot (some item))

/-! ## One use -/

theorem Drops.held {now : Time} {tab tab' : Table Slot Key Value Time} (drops : Drops now tab tab')
    {i : Slot} {item : Item Key Value Time} (held : tab' i = some item) : tab i = some item := by
  rcases drops i with same | ⟨dropped, -⟩
  · rw [← same, held]
  · rw [dropped] at held
    cases held

theorem Drops.kept {now : Time} {tab tab' : Table Slot Key Value Time} (drops : Drops now tab tab')
    {i : Slot} {item : Item Key Value Time} (held : tab i = some item)
    (fresh : now < item.expires) : tab' i = some item := by
  rcases drops i with same | ⟨-, old, was, expired⟩
  · rw [same, held]
  · obtain rfl := Option.some.inj (held.symm.trans was)
    exact absurd fresh (not_lt_of_ge expired)

theorem UniqueKeys.drops {now : Time} {tab tab' : Table Slot Key Value Time}
    (unique : UniqueKeys tab) (drops : Drops now tab tab') : UniqueKeys tab' :=
  fun i j a b one two same => unique i j a b (drops.held one) (drops.held two) same

/-! ## Histories -/

variable [DecidableEq Key]

/-- What a history says about the table it leads to. -/
structure Agrees (uses : List (Use Key Value Time)) (tab : Table Slot Key Value Time) : Prop where
  unique : UniqueKeys tab
  held : ∀ i item, tab i = some item → latest item.key uses = some item
  kept : ∀ key item, latest key uses = some item → item.key = key ∧
    ((∀ now, .look now ∈ uses → now < item.expires) → ∃ i, tab i = some item)

theorem Agrees.look {uses : List (Use Key Value Time)} {tab tab' : Table Slot Key Value Time}
    {now : Time} (agrees : Agrees uses tab) (drops : Drops now tab tab') :
    Agrees (uses ++ [.look now]) tab' := by
  refine ⟨agrees.unique.drops drops, ?_, ?_⟩
  · intro i item held
    rw [latest_concat]
    exact agrees.held i item (drops.held held)
  · intro key item last
    rw [latest_concat] at last
    obtain ⟨keyed, kept⟩ := agrees.kept key item last
    refine ⟨keyed, fun fresh => ?_⟩
    obtain ⟨i, held⟩ := kept fun earlier member => fresh earlier (by simp [member])
    exact ⟨i, drops.kept held (fresh now (by simp))⟩

/-- A lookup finds exactly the latest item of its key that has not expired. -/
theorem Agrees.finds_iff {uses : List (Use Key Value Time)} {tab : Table Slot Key Value Time}
    (agrees : Agrees uses tab) {now : Time} (key : Key) (item : Item Key Value Time)
    (later : ∀ earlier, .look earlier ∈ uses → earlier ≤ now) :
    Finds now key tab item ↔ latest key uses = some item ∧ now < item.expires := by
  constructor
  · rintro ⟨⟨i, held⟩, rfl, fresh⟩
    exact ⟨agrees.held i item held, fresh⟩
  · rintro ⟨last, fresh⟩
    obtain ⟨keyed, kept⟩ := agrees.kept key item last
    exact ⟨kept fun earlier member => lt_of_le_of_lt (later earlier member) fresh, keyed, fresh⟩

variable [DecidableEq Slot]

omit [LinearOrder Time] [DecidableEq Key] in
theorem UniqueKeys.insert {tab : Table Slot Key Value Time} {item : Item Key Value Time}
    (unique : UniqueKeys tab) (absent : Absent item.key tab) (slot : Slot) :
    UniqueKeys (Function.update tab slot (some item)) := by
  intro i j a b one two same
  by_cases first : i = slot
  · by_cases second : j = slot
    · rw [first, second]
    · rw [first, Function.update_self] at one
      rw [Function.update_of_ne second] at two
      rw [← Option.some.inj one] at same
      exact absurd same.symm (absent j b two)
  · rw [Function.update_of_ne first] at one
    by_cases second : j = slot
    · rw [second, Function.update_self] at two
      rw [← Option.some.inj two] at same
      exact absurd same (absent i a one)
    · rw [Function.update_of_ne second] at two
      exact unique i j a b one two same

theorem Agrees.insert {uses : List (Use Key Value Time)} {tab : Table Slot Key Value Time}
    {item : Item Key Value Time} (agrees : Agrees uses tab) (absent : Absent item.key tab)
    (slot : Slot) :
    Agrees (uses ++ [.insert item (tab slot)]) (Function.update tab slot (some item)) := by
  refine ⟨agrees.unique.insert absent slot, ?_, ?_⟩
  · intro i other held
    rw [latest_concat, latestStep]
    by_cases same : i = slot
    · rw [same, Function.update_self] at held
      rw [Option.some.inj held, if_pos rfl]
    · rw [Function.update_of_ne same] at held
      have apart : item.key ≠ other.key := fun equal => absent i other held equal.symm
      have spared : (tab slot).map Item.key ≠ some other.key := by
        intro displaced
        obtain ⟨old, was, key⟩ := Option.map_eq_some_iff.mp displaced
        exact same (agrees.unique i slot other old held was key.symm)
      rw [if_neg apart, if_neg spared]
      exact agrees.held i other held
  · intro key other last
    rw [latest_concat, latestStep] at last
    split at last
    · rename_i keyed
      obtain rfl := Option.some.inj last
      exact ⟨keyed, fun _ => ⟨slot, Function.update_self _ _ _⟩⟩
    · split at last
      · cases last
      · rename_i spared
        obtain ⟨keyed, kept⟩ := agrees.kept key other last
        refine ⟨keyed, fun fresh => ?_⟩
        obtain ⟨i, held⟩ := kept fun now member => fresh now (by simp [member])
        have elsewhere : i ≠ slot := by
          rintro rfl
          rw [held, Option.map_some, keyed] at spared
          exact spared rfl
        exact ⟨i, by rw [Function.update_of_ne elsewhere, held]⟩

/-- The history rule: from an empty table, the history says what the table holds. -/
theorem Uses.agrees {uses : List (Use Key Value Time)} {tab : Table Slot Key Value Time}
    (run : Uses (fun _ => none) uses tab) : Agrees uses tab := by
  induction run with
  | unused =>
    refine ⟨?_, ?_, ?_⟩
    · intro i j a b one
      cases one
    · intro i item held
      cases held
    · intro key item last
      cases last
  | look now before drops ih => exact ih.look drops
  | insert item slot before absent ih => exact ih.insert absent slot

end SlotCache
