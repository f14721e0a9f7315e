import SolarConnect.Misc.NvsLog
import SolarConnect.Misc.Runs
import Mathlib.Data.List.Induction

/-!
# Power loss

A store in flash whose device can lose its power. What was committed is still there afterwards.
What was set or erased and not committed may have reached the flash or not, for each key on its
own, also when its handle was closed before: it is loose until the same key is written and
committed, or until a power loss decides.
-/

namespace Nvs

variable {Key Value : Type} [DecidableEq Key]

/-- The store, and what is loose, oldest first: a key with its value, `none` if it was erased. -/
structure Flash (Key Value : Type) where
  store : Store Key Value
  loose : List (Key × Option Value)

/-! ## What is written -/

theorem writeAll_cases (saved : Key → Option Value) (writes : List (Key × Value)) (key : Key) :
    writeAll saved writes key = saved key ∨
      ∃ w ∈ writes, w.1 = key ∧ writeAll saved writes key = some w.2 := by
  induction writes generalizing saved with
  | nil => exact Or.inl rfl
  | cons w writes ih =>
    rw [writeAll_cons]
    rcases ih (Function.update saved w.1 (some w.2)) with kept | ⟨v, member, own, value⟩
    · by_cases own : w.1 = key
      · subst own
        rw [Function.update_self] at kept
        exact Or.inr ⟨w, List.mem_cons_self, rfl, kept⟩
      · rw [Function.update_of_ne (Ne.symm own)] at kept
        exact Or.inl kept
    · exact Or.inr ⟨v, List.mem_cons_of_mem _ member, own, value⟩

/-- What is under a key depends only on what was there and on what is written. -/
theorem writeAll_congr {saved saved' : Key → Option Value} {key : Key}
    (same : saved key = saved' key) (writes : List (Key × Value)) :
    writeAll saved writes key = writeAll saved' writes key := by
  induction writes generalizing saved saved' with
  | nil => exact same
  | cons w writes ih =>
    rw [writeAll_cons, writeAll_cons]
    apply ih
    by_cases own : key = w.1
    · rw [own, Function.update_self, Function.update_self]
    · rw [Function.update_of_ne own, Function.update_of_ne own, same]

theorem writeAll_append (saved : Key → Option Value) (before after : List (Key × Value)) :
    writeAll saved (before ++ after) = writeAll (writeAll saved before) after :=
  List.foldl_append

/-- Where no key is written twice, each gets its value. -/
theorem writeAll_of_mem (saved : Key → Option Value) {writes : List (Key × Value)}
    (once : (writes.map Prod.fst).Nodup) {w : Key × Value} (member : w ∈ writes) :
    writeAll saved writes w.1 = some w.2 := by
  obtain ⟨before, after, rfl⟩ := List.append_of_mem member
  refine writeAll_of_last saved before after w.1 w.2 fun later found same => ?_
  rw [List.map_append, List.map_cons, List.nodup_append, List.nodup_cons] at once
  exact once.2.1.1 (same ▸ List.mem_map_of_mem found)

/-! ## Operations -/

namespace Store

/-- The values that `saveAll` has set when it gives up. -/
def dropped (s : Store Key Value) (writes : List (Key × Value)) : List (Key × Value) :=
  let (err, s) := s.nvsOpen
  if err ≠ espOk then []
  else
    let (err, s) := s.setAll writes
    if err = espOk then
      if s.nvsCommit.1 = espOk then [] else s.unsaved
    else s.unsaved

/-- `nvs_erase_key` for several keys, results ignored: the keys that were erased. -/
def eraseEach (s : Store Key Value) : List Key → List Key × Store Key Value
  | [] => ([], s)
  | key :: keys =>
    let (err, s) := s.call id
    let (erased, s) := s.eraseEach keys
    (if err = espOk then key :: erased else erased, s)

omit [DecidableEq Key] in
theorem nvsGet_of_works {s : Store Key Value} (works : s.Works 1) (key : Key) :
    s.nvsGet key = (s.saved key, s.next) := by
  rw [nvsGet, call_of_works works]
  rfl

omit [DecidableEq Key] in
theorem nvsOpen_saved (s : Store Key Value) : s.nvsOpen.2.saved = s.saved := by
  rw [nvsOpen, call_eq]
  dsimp only
  split <;> rfl

omit [DecidableEq Key] in
theorem nvsOpen_fresh {s : Store Key Value} (opens : s.nvsOpen.1 = espOk) :
    s.nvsOpen.2.unsaved = [] := by
  rw [nvsOpen, call_eq] at opens ⊢
  dsimp only at opens ⊢
  rw [if_pos opens]

omit [DecidableEq Key] in
theorem nvsGet_saved (s : Store Key Value) (key : Key) : (s.nvsGet key).2.saved = s.saved := by
  rw [nvsGet, call_eq]
  dsimp only
  split <;> rfl

omit [DecidableEq Key] in
/-- A value that is read is the one saved. -/
theorem nvsGet_cases (s : Store Key Value) (key : Key) :
    (s.nvsGet key).1 = none ∨ (s.nvsGet key).1 = s.saved key := by
  rw [nvsGet, call_eq]
  dsimp only
  split
  · exact Or.inr rfl
  · exact Or.inl rfl

omit [DecidableEq Key] in
theorem setAll_unsaved (s : Store Key Value) (writes : List (Key × Value)) :
    ∀ w ∈ (s.setAll writes).2.unsaved, w ∈ s.unsaved ∨ w ∈ writes := by
  induction writes generalizing s with
  | nil => exact fun w found => Or.inl found
  | cons write writes ih =>
    obtain ⟨key, value⟩ := write
    intro w found
    rw [setAll, nvsSet, call_eq] at found
    dsimp only at found
    split at found
    · rcases ih _ w found with old | new
      · rcases List.mem_append.mp old with old | new
        · exact Or.inl old
        · exact Or.inr (by simpa using Or.inl (List.mem_singleton.mp new))
      · exact Or.inr (List.mem_cons_of_mem _ new)
    · exact Or.inl found

/-- What is dropped was to be saved. -/
theorem dropped_subset (s : Store Key Value) (writes : List (Key × Value)) :
    s.dropped writes ⊆ writes := by
  intro w found
  have sets := setAll_unsaved s.nvsOpen.2 writes
  unfold dropped at found
  dsimp only at found
  split at found
  · cases found
  · rename_i opens
    rw [nvsOpen_fresh (not_not.mp opens)] at sets
    have new : ∀ w ∈ (s.nvsOpen.2.setAll writes).2.unsaved, w ∈ writes := fun w found =>
      (sets w found).resolve_left List.not_mem_nil
    split at found
    · split at found
      · cases found
      · exact new w found
    · exact new w found

end Store

namespace Flash

/-- `saveAll` on the flash. -/
def save (writes : List (Key × Value)) (f : Flash Key Value) : Err × Flash Key Value :=
  let (err, store) := f.store.saveAll writes
  let loose :=
    if err = espOk then f.loose.filter fun l => l.1 ∉ writes.map Prod.fst
    else f.loose ++ (f.store.dropped writes).map fun w => (w.1, some w.2)
  (err, ⟨store, loose⟩)

/-- Opens a handle, sets values on it until one call fails, and closes it without a commit. -/
def setOnly (writes : List (Key × Value)) (f : Flash Key Value) : Err × Flash Key Value :=
  let (err, store) := f.store.nvsOpen
  if err ≠ espOk then (err, { f with store })
  else
    let (err, store) := store.setAll writes
    (err, ⟨store.nvsClose, f.loose ++ store.unsaved.map fun w => (w.1, some w.2)⟩)

/-- Erases the keys on an open handle, commits and closes it, whatever the results. -/
def eraseAll (keys : List Key) (f : Flash Key Value) : Flash Key Value :=
  let (erased, store) := f.store.eraseEach keys
  let (err, store) := store.call id
  if err = espOk then
    ⟨{ store with saved := fun key => if key ∈ erased then none else store.saved key },
      f.loose.filter fun l => l.1 ∉ erased⟩
  else ⟨store, f.loose ++ erased.map fun key => (key, none)⟩

/-- What is found under a key after the power is back: for some keys one of the loose values, by
    its number among those of the key. -/
def survivor (kept : Key → Option Nat) (f : Flash Key Value) (key : Key) : Option Value :=
  match (kept key).bind fun n => (f.loose.filter fun l => l.1 = key)[n]? with
  | some l => l.2
  | none => f.store.saved key

/-- The power is lost and comes back; the calls to come have these results. -/
def powerLoss (kept : Key → Option Nat) (results : List Err) (f : Flash Key Value) :
    Flash Key Value :=
  ⟨⟨f.survivor kept, [], results⟩, []⟩

/-! ## What can be found -/

/-- The key can be found with this value, now or after a power loss. -/
def Holds (f : Flash Key Value) (key : Key) (value : Option Value) : Prop :=
  f.store.saved key = value ∨ (key, value) ∈ f.loose

/-- Nothing about the key is loose. -/
def Settled (f : Flash Key Value) (key : Key) : Prop :=
  ∀ value, (key, value) ∉ f.loose

variable {f : Flash Key Value} {key : Key}

theorem survivor_holds (kept : Key → Option Nat) (f : Flash Key Value) (key : Key) :
    f.Holds key (f.survivor kept key) := by
  unfold survivor
  split
  · rename_i l found
    obtain ⟨n, -, nth⟩ := Option.bind_eq_some_iff.mp found
    have member := List.mem_filter.mp (List.mem_of_getElem? nth)
    have own : l.1 = key := of_decide_eq_true member.2
    subst own
    exact Or.inr member.1
  · exact Or.inl rfl

/-- A power loss brings nothing that was not set before. -/
theorem Holds.of_powerLoss {kept : Key → Option Nat} {results : List Err} {value : Option Value}
    (found : (f.powerLoss kept results).Holds key value) : f.Holds key value := by
  rcases found with saved | loose
  · have holds := f.survivor_holds kept key
    rwa [show f.survivor kept key = value from saved] at holds
  · cases loose

/-- What is settled survives. -/
theorem Settled.survivor (settled : f.Settled key) (kept : Key → Option Nat) :
    f.survivor kept key = f.store.saved key := by
  have none : f.loose.filter (fun l => l.1 = key) = [] := by
    rw [List.filter_eq_nil_iff]
    intro l found own
    have own : l.1 = key := of_decide_eq_true own
    subst own
    exact settled l.2 found
  unfold Flash.survivor
  rw [none]
  cases kept key <;> rfl

theorem settled_powerLoss (kept : Key → Option Nat) (results : List Err) (f : Flash Key Value)
    (key : Key) : (f.powerLoss kept results).Settled key :=
  fun _ => List.not_mem_nil

omit [DecidableEq Key] in
/-- Setting without a commit leaves what is committed. -/
theorem setOnly_saved (writes : List (Key × Value)) (f : Flash Key Value) :
    (f.setOnly writes).2.store.saved = f.store.saved := by
  have opened := f.store.nvsOpen_saved
  have sets : ∀ (writes : List (Key × Value)) (s : Store Key Value),
      (s.setAll writes).2.saved = s.saved := by
    intro writes
    induction writes with
    | nil => exact fun s => rfl
    | cons w writes ih =>
      intro s
      obtain ⟨key, value⟩ := w
      rw [Store.setAll, Store.nvsSet, Store.call_eq]
      dsimp only
      split
      · exact ih _
      · rfl
  unfold setOnly
  dsimp only
  split
  · exact opened
  · exact (sets _ _).trans opened

/-- Saving brings the values to save, and nothing else. -/
theorem Holds.of_save {writes : List (Key × Value)} {value : Option Value}
    (found : (f.save writes).2.Holds key value) :
    f.Holds key value ∨ ∃ w ∈ writes, w.1 = key ∧ some w.2 = value := by
  have saved := (Store.saveAll_log id 0 writes f.store).2
  have dropped := f.store.dropped_subset writes
  unfold save Holds at found
  dsimp only at found
  by_cases ok : (f.store.saveAll writes).1 = espOk
  · rw [if_pos ok] at found saved
    rcases found with now | loose
    · rw [saved] at now
      rcases writeAll_cases f.store.saved writes key with kept | ⟨w, member, own, value⟩
      · exact Or.inl (Or.inl (kept.symm.trans now))
      · exact Or.inr ⟨w, member, own, value.symm.trans now⟩
    · exact Or.inl (Or.inr (List.mem_filter.mp loose).1)
  · rw [if_neg ok] at found saved
    rcases found with now | loose
    · exact Or.inl (Or.inl (saved ▸ now))
    · rcases List.mem_append.mp loose with old | new
      · exact Or.inl (Or.inr old)
      · obtain ⟨w, member, same⟩ := List.mem_map.mp new
        cases same
        exact Or.inr ⟨w, dropped member, rfl, rfl⟩

omit [DecidableEq Key] in
/-- So does setting without a commit. -/
theorem Holds.of_setOnly {writes : List (Key × Value)} {value : Option Value}
    (found : (f.setOnly writes).2.Holds key value) :
    f.Holds key value ∨ ∃ w ∈ writes, w.1 = key ∧ some w.2 = value := by
  have sets := Store.setAll_unsaved f.store.nvsOpen.2 writes
  rcases found with now | loose
  · rw [setOnly_saved] at now
    exact Or.inl (Or.inl now)
  · unfold setOnly at loose
    dsimp only at loose
    split at loose
    · exact Or.inl (Or.inr loose)
    · rename_i opens
      rw [Store.nvsOpen_fresh (not_not.mp opens)] at sets
      rcases List.mem_append.mp loose with old | new
      · exact Or.inl (Or.inr old)
      · obtain ⟨w, member, same⟩ := List.mem_map.mp new
        cases same
        exact Or.inr ⟨w, (sets w member).resolve_left List.not_mem_nil, rfl, rfl⟩

/-- Erasing brings nothing but the absence of a value. -/
theorem Holds.of_eraseAll {keys : List Key} {value : Option Value}
    (found : (f.eraseAll keys).Holds key value) : f.Holds key value ∨ value = none := by
  have kept : ∀ (keys : List Key) (s : Store Key Value), (s.eraseEach keys).2.saved = s.saved := by
    intro keys
    induction keys with
    | nil => exact fun s => rfl
    | cons key keys ih =>
      intro s
      rw [Store.eraseEach, Store.call_eq]
      dsimp only
      rw [ih]
      split <;> rfl
  have same := kept keys f.store
  unfold eraseAll Holds at found
  dsimp only at found
  generalize f.store.eraseEach keys = r at found same
  rw [Store.call_eq] at found
  dsimp only at found
  split at found
  · rcases found with now | loose
    · dsimp only at now
      split at now
      · exact Or.inr now.symm
      · exact Or.inl (Or.inl (by rw [← same]; exact now))
    · exact Or.inl (Or.inr (List.mem_filter.mp loose).1)
  · rcases found with now | loose
    · exact Or.inl (Or.inl (by rw [← same]; exact now))
    · rcases List.mem_append.mp loose with old | new
      · exact Or.inl (Or.inr old)
      · obtain ⟨erased, -, same⟩ := List.mem_map.mp new
        cases same
        exact Or.inr rfl

omit [DecidableEq Key] in
/-- What is set without a commit is loose, and nothing else becomes so. -/
theorem settled_setOnly {writes : List (Key × Value)} (settled : f.Settled key)
    (other : ∀ w ∈ writes, w.1 ≠ key) : (f.setOnly writes).2.Settled key := by
  have sets := Store.setAll_unsaved f.store.nvsOpen.2 writes
  intro value loose
  unfold setOnly at loose
  dsimp only at loose
  split at loose
  · exact settled value loose
  · rename_i opens
    rw [Store.nvsOpen_fresh (not_not.mp opens)] at sets
    rcases List.mem_append.mp loose with old | new
    · exact settled value old
    · obtain ⟨w, member, same⟩ := List.mem_map.mp new
      cases same
      exact other w ((sets w member).resolve_left List.not_mem_nil) rfl

/-- A save leaves what it does not write settled. -/
theorem Settled.save {writes : List (Key × Value)} (settled : f.Settled key)
    (other : ∀ w ∈ writes, w.1 ≠ key) : (f.save writes).2.Settled key := by
  have dropped := f.store.dropped_subset writes
  intro value loose
  unfold Flash.save at loose
  dsimp only at loose
  split at loose
  · exact settled value (List.mem_filter.mp loose).1
  · rcases List.mem_append.mp loose with old | new
    · exact settled value old
    · obtain ⟨w, member, same⟩ := List.mem_map.mp new
      cases same
      exact other w (dropped member) rfl

/-- A save that gets through settles the keys that it writes. -/
theorem settled_save {writes : List (Key × Value)} (ok : (f.save writes).1 = espOk)
    (written : key ∈ writes.map Prod.fst) : (f.save writes).2.Settled key := by
  intro value loose
  have through : (f.store.saveAll writes).1 = espOk := ok
  unfold save at loose
  dsimp only at loose
  rw [if_pos through, List.mem_filter] at loose
  exact absurd written (by simpa using loose.2)

/-! ## Runs -/

omit [DecidableEq Key] in
/-- In a system each of whose steps brings to the flash, under some key, nothing but the value it
    then holds itself: every value there was there at the start, or the system has held it. -/
theorem held_before {S ι : Type} (step : ι → S → S) (flash : S → Flash Key Value)
    (held : S → Value) (key : Key)
    (brings : ∀ i s value, (flash (step i s)).Holds key (some value) →
      (flash s).Holds key (some value) ∨ value = held (step i s))
    (s : S) (inputs : List ι) {value : Value}
    (found : (flash (Runs.run step s inputs)).Holds key (some value)) :
    (flash s).Holds key (some value) ∨
      ∃ prior, prior <+: inputs ∧ held (Runs.run step s prior) = value := by
  induction inputs using List.reverseRecOn generalizing value with
  | nil => exact Or.inl found
  | append_singleton inputs i ih =>
    have last : Runs.run step s (inputs ++ [i]) = step i (Runs.run step s inputs) :=
      Runs.run_append s inputs [i]
    rw [last] at found
    rcases brings _ _ _ found with old | new
    · rcases ih old with initial | ⟨prior, before, same⟩
      · exact Or.inl initial
      · exact Or.inr ⟨prior, before.trans (List.prefix_append _ _), same⟩
    · exact Or.inr ⟨inputs ++ [i], List.prefix_rfl, by rw [last, new]⟩

end Flash

end Nvs
