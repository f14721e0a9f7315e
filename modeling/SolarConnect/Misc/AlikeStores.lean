import SolarConnect.Misc.PowerLoss
import Mathlib.Data.Option.Basic
import Mathlib.Data.List.Forall2

/-!
# Stores that are alike

Two stores, of which the second has every key of the first, under which it holds a value related to
the first one's or nothing if the first one holds nothing. With the same results of the calls to
come they go on alike: every operation returns the same and keeps the relation.
-/

namespace Nvs

/-- How the entries of one store show in another. -/
structure Likeness (Key Value Key' Value' : Type) where
  key : Key → Key'
  injective : Function.Injective key
  value : Key → Value → Value' → Prop

variable {Key Value Key' Value' : Type}

namespace Likeness

variable (m : Likeness Key Value Key' Value')

/-- The same key with related values. -/
def Write (w : Key × Value) (w' : Key' × Value') : Prop :=
  w'.1 = m.key w.1 ∧ m.value w.1 w.2 w'.2

/-- The same, where an entry can be an erased one. -/
def Loose (l : Key × Option Value) (l' : Key' × Option Value') : Prop :=
  l'.1 = m.key l.1 ∧ Option.Rel (m.value l.1) l.2 l'.2

/-- What is saved is alike. -/
def Saved (saved : Key → Option Value) (saved' : Key' → Option Value') : Prop :=
  ∀ key, Option.Rel (m.value key) (saved key) (saved' (m.key key))

structure Stores (s : Store Key Value) (t : Store Key' Value') : Prop where
  saved : m.Saved s.saved t.saved
  unsaved : List.Forall₂ m.Write s.unsaved t.unsaved
  results : s.results = t.results

structure Flashes (f : Flash Key Value) (g : Flash Key' Value') : Prop where
  store : m.Stores f.store g.store
  loose : List.Forall₂ m.Loose f.loose g.loose

variable {m}

/-! ## What is written -/

section
variable [DecidableEq Key] [DecidableEq Key']

theorem Saved.update {saved : Key → Option Value} {saved' : Key' → Option Value'}
    (alike : m.Saved saved saved') {w : Key × Value} {w' : Key' × Value'} (write : m.Write w w') :
    m.Saved (Function.update saved w.1 (some w.2)) (Function.update saved' w'.1 (some w'.2)) := by
  obtain ⟨own, related⟩ := write
  intro key
  rw [own]
  by_cases here : key = w.1
  · subst here
    rw [Function.update_self, Function.update_self]
    exact .some related
  · rw [Function.update_of_ne here, Function.update_of_ne fun same => here (m.injective same)]
    exact alike key

theorem Saved.writeAll {saved : Key → Option Value} {saved' : Key' → Option Value'}
    (alike : m.Saved saved saved') {writes : List (Key × Value)} {writes' : List (Key' × Value')}
    (same : List.Forall₂ m.Write writes writes') :
    m.Saved (Nvs.writeAll saved writes) (Nvs.writeAll saved' writes') := by
  induction same generalizing saved saved' with
  | nil => exact alike
  | cons write _ ih => exact ih (alike.update write)

omit [DecidableEq Key] [DecidableEq Key'] in
/-- The same keys are written. -/
theorem mem_keys {writes : List (Key × Value)} {writes' : List (Key' × Value')}
    (same : List.Forall₂ m.Write writes writes') (key : Key) :
    key ∈ writes.map Prod.fst ↔ m.key key ∈ writes'.map Prod.fst := by
  induction same with
  | nil => simp
  | cons write _ ih =>
    rw [List.map_cons, List.map_cons, List.mem_cons, List.mem_cons, write.1, ih,
      m.injective.eq_iff]

end

/-! ## Calls -/

namespace Stores

variable {s : Store Key Value} {t : Store Key' Value'}

theorem next (alike : m.Stores s t) : m.Stores s.next t.next :=
  ⟨alike.saved, alike.unsaved, congrArg List.tail alike.results⟩

/-- A call returns the same and has its effect on both or on neither. -/
theorem call (alike : m.Stores s t) (effect : Store Key Value → Store Key Value)
    (effect' : Store Key' Value' → Store Key' Value')
    (keeps : m.Stores s.next t.next → m.Stores (effect s.next) (effect' t.next)) :
    (s.call effect).1 = (t.call effect').1 ∧ m.Stores (s.call effect).2 (t.call effect').2 := by
  rw [Store.call_eq, Store.call_eq, alike.results]
  refine ⟨rfl, ?_⟩
  dsimp only
  split
  · exact keeps alike.next
  · exact alike.next

theorem nvsOpen (alike : m.Stores s t) :
    s.nvsOpen.1 = t.nvsOpen.1 ∧ m.Stores s.nvsOpen.2 t.nvsOpen.2 :=
  alike.call _ _ fun next => ⟨next.saved, .nil, next.results⟩

theorem nvsClose (alike : m.Stores s t) : m.Stores s.nvsClose t.nvsClose :=
  ⟨alike.saved, .nil, alike.results⟩

theorem nvsSet (alike : m.Stores s t) {w : Key × Value} {w' : Key' × Value'}
    (write : m.Write w w') :
    (s.nvsSet w.1 w.2).1 = (t.nvsSet w'.1 w'.2).1 ∧
      m.Stores (s.nvsSet w.1 w.2).2 (t.nvsSet w'.1 w'.2).2 :=
  alike.call _ _ fun next =>
    ⟨next.saved, List.rel_append next.unsaved (.cons write .nil), next.results⟩

/-- What is read is related. -/
theorem nvsGet (alike : m.Stores s t) (key : Key) :
    Option.Rel (m.value key) (s.nvsGet key).1 (t.nvsGet (m.key key)).1 ∧
      m.Stores (s.nvsGet key).2 (t.nvsGet (m.key key)).2 := by
  have calls := alike.call id id id
  unfold Store.nvsGet
  dsimp only
  rw [calls.1]
  refine ⟨?_, calls.2⟩
  split
  · exact calls.2.saved key
  · exact .none

theorem setAll (alike : m.Stores s t) {writes : List (Key × Value)}
    {writes' : List (Key' × Value')} (same : List.Forall₂ m.Write writes writes') :
    (s.setAll writes).1 = (t.setAll writes').1 ∧
      m.Stores (s.setAll writes).2 (t.setAll writes').2 := by
  induction same generalizing s t with
  | nil => exact ⟨rfl, alike⟩
  | @cons w w' writes writes' write _ ih =>
    obtain ⟨key, value⟩ := w
    obtain ⟨key', value'⟩ := w'
    obtain ⟨err, sets⟩ := alike.nvsSet write
    rw [Store.setAll, Store.setAll]
    dsimp only at err sets ⊢
    rw [err]
    split
    · exact ih sets
    · exact ⟨rfl, sets⟩

variable [DecidableEq Key] [DecidableEq Key']

theorem nvsCommit (alike : m.Stores s t) :
    s.nvsCommit.1 = t.nvsCommit.1 ∧ m.Stores s.nvsCommit.2 t.nvsCommit.2 :=
  alike.call _ _ fun next => ⟨next.saved.writeAll next.unsaved, .nil, next.results⟩

theorem saveAll (alike : m.Stores s t) {writes : List (Key × Value)}
    {writes' : List (Key' × Value')} (same : List.Forall₂ m.Write writes writes') :
    (s.saveAll writes).1 = (t.saveAll writes').1 ∧
      m.Stores (s.saveAll writes).2 (t.saveAll writes').2 := by
  obtain ⟨err, opened⟩ := alike.nvsOpen
  unfold Store.saveAll
  dsimp only
  rw [err]
  split
  · exact ⟨rfl, opened⟩
  · obtain ⟨err, sets⟩ := opened.setAll same
    rw [err]
    split
    · exact ⟨sets.nvsCommit.1, sets.nvsCommit.2.nvsClose⟩
    · exact ⟨rfl, sets.nvsClose⟩

/-- What a save drops is alike. -/
theorem dropped (alike : m.Stores s t) {writes : List (Key × Value)}
    {writes' : List (Key' × Value')} (same : List.Forall₂ m.Write writes writes') :
    List.Forall₂ m.Write (s.dropped writes) (t.dropped writes') := by
  obtain ⟨err, opened⟩ := alike.nvsOpen
  unfold Store.dropped
  dsimp only
  rw [err]
  split
  · exact .nil
  · obtain ⟨err, sets⟩ := opened.setAll same
    rw [err, sets.nvsCommit.1]
    split
    · split
      · exact .nil
      · exact sets.unsaved
    · exact sets.unsaved

end Stores

/-! ## Flash -/

/-- Values that were set count as loose ones. -/
theorem loose_of_writes {writes : List (Key × Value)} {writes' : List (Key' × Value')}
    (same : List.Forall₂ m.Write writes writes') :
    List.Forall₂ m.Loose (writes.map fun w => (w.1, some w.2))
      (writes'.map fun w => (w.1, some w.2)) := by
  rw [List.forall₂_map_left_iff, List.forall₂_map_right_iff]
  exact same.imp fun _ _ write => ⟨write.1, .some write.2⟩

/-- The same of the loose values are among the chosen. -/
theorem loose_filter (keep : Key → Prop) (keep' : Key' → Prop) [DecidablePred keep]
    [DecidablePred keep'] (same : ∀ key, keep key ↔ keep' (m.key key))
    {loose : List (Key × Option Value)} {loose' : List (Key' × Option Value')}
    (alike : List.Forall₂ m.Loose loose loose') :
    List.Forall₂ m.Loose (loose.filter fun l => keep l.1) (loose'.filter fun l => keep' l.1) := by
  induction alike with
  | nil => exact .nil
  | @cons l l' _ _ entry _ ih =>
    have chosen : keep l.1 ↔ keep' l'.1 := entry.1 ▸ same l.1
    by_cases here : keep l.1
    · rw [List.filter_cons_of_pos (by simpa using here),
        List.filter_cons_of_pos (by simpa using chosen.mp here)]
      exact .cons entry ih
    · rw [List.filter_cons_of_neg (by simpa using here),
        List.filter_cons_of_neg (by simpa using fun other => here (chosen.mpr other))]
      exact ih

/-- Related lists have related entries. -/
theorem rel_getElem? {α β : Type} {R : α → β → Prop} {as : List α} {bs : List β}
    (related : List.Forall₂ R as bs) (n : Nat) : Option.Rel R as[n]? bs[n]? := by
  induction related generalizing n with
  | nil => exact .none
  | cons first _ ih =>
    cases n with
    | zero => exact .some first
    | succ n => exact ih n

namespace Flashes

variable [DecidableEq Key] [DecidableEq Key'] {f : Flash Key Value} {g : Flash Key' Value'}

theorem save (alike : m.Flashes f g) {writes : List (Key × Value)}
    {writes' : List (Key' × Value')} (same : List.Forall₂ m.Write writes writes') :
    (f.save writes).1 = (g.save writes').1 ∧ m.Flashes (f.save writes).2 (g.save writes').2 := by
  obtain ⟨err, stores⟩ := alike.store.saveAll same
  unfold Flash.save
  dsimp only
  refine ⟨err, stores, ?_⟩
  rw [err]
  dsimp only
  split
  · exact loose_filter (· ∉ writes.map Prod.fst) (· ∉ writes'.map Prod.fst)
      (fun key => not_congr (mem_keys same key)) alike.loose
  · exact List.rel_append alike.loose (loose_of_writes (alike.store.dropped same))

omit [DecidableEq Key] [DecidableEq Key'] in
theorem setOnly (alike : m.Flashes f g) {writes : List (Key × Value)}
    {writes' : List (Key' × Value')} (same : List.Forall₂ m.Write writes writes') :
    (f.setOnly writes).1 = (g.setOnly writes').1 ∧
      m.Flashes (f.setOnly writes).2 (g.setOnly writes').2 := by
  obtain ⟨err, opened⟩ := alike.store.nvsOpen
  unfold Flash.setOnly
  dsimp only
  rw [err]
  split
  · exact ⟨rfl, opened, alike.loose⟩
  · obtain ⟨err, sets⟩ := opened.setAll same
    exact ⟨err, sets.nvsClose, List.rel_append alike.loose (loose_of_writes sets.unsaved)⟩

/-- If the power loss decides alike, what survives is alike. -/
theorem powerLoss (alike : m.Flashes f g) {kept : Key → Option Nat} {kept' : Key' → Option Nat}
    (same : ∀ key, kept key = kept' (m.key key)) (results : List Err) :
    m.Flashes (f.powerLoss kept results) (g.powerLoss kept' results) := by
  refine ⟨⟨?_, .nil, rfl⟩, .nil⟩
  intro key
  have own := (List.forall₂_and_left _ _).mpr ⟨
    fun l (found : l ∈ f.loose.filter fun l => l.1 = key) =>
      of_decide_eq_true (List.mem_filter.mp found).2,
    loose_filter (· = key) (· = m.key key) (fun _ => m.injective.eq_iff.symm) alike.loose⟩
  have chosen : Option.Rel (fun l l' => l.1 = key ∧ m.Loose l l')
      ((kept key).bind fun n => (f.loose.filter fun l => l.1 = key)[n]?)
      ((kept' (m.key key)).bind fun n => (g.loose.filter fun l => l.1 = m.key key)[n]?) := by
    rw [← same key]
    cases kept key with
    | none => exact .none
    | some n => exact rel_getElem? own n
  change Option.Rel (m.value key) (f.survivor kept key) (g.survivor kept' (m.key key))
  unfold Flash.survivor
  generalize ((kept key).bind fun n => (f.loose.filter fun l => l.1 = key)[n]?) = l at chosen ⊢
  generalize ((kept' (m.key key)).bind fun n => (g.loose.filter fun l => l.1 = m.key key)[n]?) = l'
    at chosen ⊢
  cases chosen with
  | none => exact alike.store.saved key
  | some entry =>
    obtain ⟨rfl, -, related⟩ := entry
    exact related

end Flashes

end Likeness

end Nvs
