import Mathlib.Logic.Function.Basic
import Mathlib.Tactic.Common

/-!
# Non-volatile storage

A key-value store in flash. Values set on an open handle are kept once `nvs_commit` succeeds.
Every call can fail, and then has no effect: the state holds the results that the calls to
come will have, and calls beyond the end of that list succeed.
-/

namespace Nvs

/-- `esp_err_t`. -/
abbrev Err := Int

/-- `ESP_OK`. -/
def espOk : Err := 0

/-- The store, with what was set on the open handle and is not committed yet. -/
structure Store (Key Value : Type) where
  saved : Key → Option Value
  unsaved : List (Key × Value)
  results : List Err

variable {Key Value : Type} [DecidableEq Key]

/-- The values saved after `writes`, in this order. -/
def writeAll (saved : Key → Option Value) (writes : List (Key × Value)) : Key → Option Value :=
  writes.foldl (fun saved write => Function.update saved write.1 (some write.2)) saved

namespace Store

/-- A call, which has its effect if its result is `ESP_OK`. -/
def call (s : Store Key Value) (effect : Store Key Value → Store Key Value) :
    Err × Store Key Value :=
  match s.results with
  | [] => (espOk, effect s)
  | err :: results =>
    if err = espOk then (espOk, effect { s with results }) else (err, { s with results })

/-- `nvs_open`. -/
def nvsOpen (s : Store Key Value) : Err × Store Key Value :=
  s.call fun s => { s with unsaved := [] }

/-- `nvs_set_str`, `nvs_set_blob`. -/
def nvsSet (s : Store Key Value) (key : Key) (value : Value) : Err × Store Key Value :=
  s.call fun s => { s with unsaved := s.unsaved ++ [(key, value)] }

/-- `nvs_commit`. -/
def nvsCommit (s : Store Key Value) : Err × Store Key Value :=
  s.call fun s => { s with saved := writeAll s.saved s.unsaved, unsaved := [] }

/-- `nvs_close`. -/
def nvsClose (s : Store Key Value) : Store Key Value :=
  { s with unsaved := [] }

/-- `nvs_get_str`, `nvs_get_blob`: the value, if the call succeeds and the key is there. -/
def nvsGet (s : Store Key Value) (key : Key) : Option Value × Store Key Value :=
  let (err, s) := s.call id
  (if err = espOk then s.saved key else none, s)

/-- Sets values until one call fails. -/
def setAll (s : Store Key Value) : List (Key × Value) → Err × Store Key Value
  | [] => (espOk, s)
  | (key, value) :: writes =>
    let (err, s) := s.nvsSet key value
    if err = espOk then s.setAll writes else (err, s)

/-- Opens a handle, sets values on it, commits if every one was set, and closes it. -/
def saveAll (s : Store Key Value) (writes : List (Key × Value)) : Err × Store Key Value :=
  let (err, s) := s.nvsOpen
  if err ≠ espOk then (err, s)
  else
    let (err, s) := s.setAll writes
    if err = espOk then
      let (err, s) := s.nvsCommit
      (err, s.nvsClose)
    else (err, s.nvsClose)

/-! ## Calls that succeed -/

variable {s : Store Key Value}

omit [DecidableEq Key] in
theorem call_of_working (working : s.results = []) (effect : Store Key Value → Store Key Value) :
    s.call effect = (espOk, effect s) := by
  unfold call
  rw [working]

omit [DecidableEq Key] in
theorem nvsGet_of_working (working : s.results = []) (key : Key) :
    s.nvsGet key = (s.saved key, s) := by
  unfold nvsGet
  rw [call_of_working working]
  rfl

omit [DecidableEq Key] in
theorem setAll_of_working (working : s.results = []) (writes : List (Key × Value)) :
    s.setAll writes = (espOk, { s with unsaved := s.unsaved ++ writes }) := by
  induction writes generalizing s with
  | nil => rw [setAll, List.append_nil]
  | cons write writes ih =>
    obtain ⟨key, value⟩ := write
    rw [setAll, nvsSet, call_of_working working]
    have rest := ih (s := { s with unsaved := s.unsaved ++ [(key, value)] }) working
    simpa only [if_true, List.append_assoc, List.singleton_append] using rest

/-- With every call successful, all of the values are saved and nothing else changes. -/
theorem saveAll_of_working (working : s.results = []) (writes : List (Key × Value)) :
    s.saveAll writes =
      (espOk, { s with saved := writeAll s.saved writes, unsaved := [] }) := by
  have opened : s.nvsOpen = (espOk, { s with unsaved := [] }) := call_of_working working _
  have set := setAll_of_working (s := { s with unsaved := [] }) working writes
  have committed := call_of_working (s := { s with unsaved := writes }) working
    fun s => { s with saved := writeAll s.saved s.unsaved, unsaved := [] }
  unfold saveAll
  simp only [opened, set, List.nil_append, nvsCommit, committed, nvsClose, ne_eq, not_true_eq_false,
    if_true, if_false]

/-! ## Calls that may fail -/

/-- The next `k` calls succeed. -/
def Works (k : Nat) (s : Store Key Value) : Prop :=
  ∀ err ∈ s.results.take k, err = espOk

/-- The results that are left after the next call. -/
def next (s : Store Key Value) : Store Key Value :=
  { s with results := s.results.tail }

omit [DecidableEq Key] in
theorem works_succ (k : Nat) : s.Works (k + 1) ↔ s.Works 1 ∧ s.next.Works k := by
  unfold Works next
  cases s.results <;> simp

omit [DecidableEq Key] in
/-- A call in terms of the next result. -/
theorem call_eq (effect : Store Key Value → Store Key Value) (s : Store Key Value) :
    s.call effect = (s.results.headD espOk,
      if s.results.headD espOk = espOk then effect s.next else s.next) := by
  obtain ⟨saved, unsaved, results⟩ := s
  cases results with
  | nil => simp [call, next]
  | cons err results =>
    by_cases ok : err = espOk
    · simp [call, next, ok]
    · simp [call, next, ok]

omit [DecidableEq Key] in
theorem works_one : s.Works 1 ↔ s.results.headD espOk = espOk := by
  unfold Works
  cases s.results <;> simp

omit [DecidableEq Key] in
theorem call_of_works (works : s.Works 1) (effect : Store Key Value → Store Key Value) :
    s.call effect = (espOk, effect s.next) := by
  rw [call_eq, works_one.mp works, if_pos rfl]

omit [DecidableEq Key] in
theorem call_of_not_works (fails : ¬ s.Works 1) (effect : Store Key Value → Store Key Value) :
    ∃ err ≠ espOk, s.call effect = (err, s.next) := by
  rw [works_one] at fails
  exact ⟨_, fails, by rw [call_eq, if_neg fails]⟩

omit [DecidableEq Key] in
theorem nvsSet_of_works (works : s.Works 1) (key : Key) (value : Value) :
    s.nvsSet key value = (espOk, { s.next with unsaved := s.unsaved ++ [(key, value)] }) :=
  call_of_works works _

omit [DecidableEq Key] in
theorem nvsSet_of_not_works (fails : ¬ s.Works 1) (key : Key) (value : Value) :
    ∃ err ≠ espOk, s.nvsSet key value = (err, s.next) :=
  call_of_not_works fails _

theorem nvsCommit_saved_of_works (works : s.Works 1) :
    s.nvsCommit.2.saved = writeAll s.saved s.unsaved := by
  rw [nvsCommit, call_of_works works]
  rfl

theorem nvsCommit_saved_of_not_works (fails : ¬ s.Works 1) : s.nvsCommit.2.saved = s.saved := by
  obtain ⟨err, -, result⟩ := call_of_not_works fails
    fun s => { s with saved := writeAll s.saved s.unsaved, unsaved := [] }
  rw [nvsCommit, result]
  rfl

end Store

/-! ## What is saved -/

theorem writeAll_cons (saved : Key → Option Value) (write : Key × Value)
    (writes : List (Key × Value)) :
    writeAll saved (write :: writes) =
      writeAll (Function.update saved write.1 (some write.2)) writes :=
  rfl

/-- A key that is not written keeps its value. -/
theorem writeAll_of_notMem (saved : Key → Option Value) {key : Key}
    {writes : List (Key × Value)} (other : ∀ write ∈ writes, write.1 ≠ key) :
    writeAll saved writes key = saved key := by
  induction writes generalizing saved with
  | nil => rfl
  | cons write writes ih =>
    rw [writeAll_cons, ih _ fun later mem => other later (List.mem_cons_of_mem _ mem)]
    exact Function.update_of_ne (other write List.mem_cons_self).symm _ _

/-- A key holds the value that is written to it last. -/
theorem writeAll_of_last (saved : Key → Option Value) (before after : List (Key × Value))
    (key : Key) (value : Value) (last : ∀ write ∈ after, write.1 ≠ key) :
    writeAll saved (before ++ (key, value) :: after) key = some value := by
  unfold writeAll
  rw [List.foldl_append, List.foldl_cons]
  have kept := writeAll_of_notMem
    (Function.update (writeAll saved before) key (some value)) last
  rw [Function.update_self] at kept
  exact kept

end Nvs
