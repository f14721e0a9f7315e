import SolarConnect.Misc.Nvs

/-!
# The calls to non-volatile storage

The same calls as in a `Store`, recorded with their results and with the handle they are made on
instead of being carried out. What was saved can be read off the record.
-/

namespace Nvs

/-- A call, where `Write` says what is set. -/
inductive Request (Write : Type)
  | openHandle (handle : Nat)
  | set (handle : Nat) (write : Write)
  | commit (handle : Nat)
  | close (handle : Nat)

/-- The calls made so far, with the results of those to come and the handle that `nvs_open` gives
    next. -/
structure Log (Write : Type) where
  results : List Err
  handle : Nat
  calls : List (Request Write × Err)

variable {Write : Type}

namespace Log

/-- A call, which has the next result, or succeeds beyond the end of the results. -/
def request (r : Request Write) (s : Log Write) : Err × Log Write :=
  let err := s.results.headD espOk
  (err, { s with results := s.results.tail, calls := s.calls ++ [(r, err)] })

/-- `nvs_open`: the result and the handle. -/
def nvsOpen (s : Log Write) : Err × Nat × Log Write :=
  let (err, t) := s.request (.openHandle s.handle)
  (err, s.handle, { t with handle := s.handle + 1 })

/-- `nvs_set_str`, `nvs_set_blob`. -/
def nvsSet (nvs : Nat) (write : Write) (s : Log Write) : Err × Log Write :=
  s.request (.set nvs write)

/-- `nvs_commit`. -/
def nvsCommit (nvs : Nat) (s : Log Write) : Err × Log Write :=
  s.request (.commit nvs)

/-- `nvs_close`, which has no result. -/
def nvsClose (nvs : Nat) (s : Log Write) : Log Write :=
  { s with calls := s.calls ++ [(.close nvs, espOk)] }

/-- Sets values until one call fails. -/
def setAll (nvs : Nat) : List Write → Log Write → Err × Log Write
  | [], s => (espOk, s)
  | write :: writes, s =>
    let (err, s) := s.nvsSet nvs write
    if err = espOk then setAll nvs writes s else (err, s)

/-- Opens a handle, sets values on it, commits if every one was set, and closes it. -/
def saveAll (writes : List Write) (s : Log Write) : Err × Log Write :=
  let (err, nvs, s) := s.nvsOpen
  if err ≠ espOk then (err, s)
  else
    let (err, s) := setAll nvs writes s
    if err = espOk then
      let (err, s) := s.nvsCommit nvs
      (err, s.nvsClose nvs)
    else (err, s.nvsClose nvs)

/-! ## What the calls were -/

/-- The calls that set these values with success. -/
def allSet (nvs : Nat) (writes : List Write) : List (Request Write × Err) :=
  writes.map fun write => (.set nvs write, espOk)

/-- The values are set one by one, up to the first that fails. -/
inductive SetEffect (nvs : Nat) (writes : List Write) (s : Log Write) : Err × Log Write → Prop
  | all (results : List Err) : SetEffect nvs writes s
      (espOk, { s with results, calls := s.calls ++ allSet nvs writes })
  | fails (done : List Write) (write : Write) (left : List Write) (err : Err) (results : List Err)
      (split : writes = done ++ write :: left) (failed : err ≠ espOk) : SetEffect nvs writes s
      (err, { s with results, calls := s.calls ++ allSet nvs done ++ [(.set nvs write, err)] })

theorem setAll_effect (nvs : Nat) (writes : List Write) (s : Log Write) :
    SetEffect nvs writes s (setAll nvs writes s) := by
  induction writes generalizing s with
  | nil =>
    have none : SetEffect nvs [] s _ := .all s.results
    simpa [setAll, allSet] using none
  | cons write writes ih =>
    rw [setAll, nvsSet, request]
    dsimp only
    split
    · rename_i ok
      have rest := ih { s with
        results := s.results.tail, calls := s.calls ++ [(.set nvs write, espOk)] }
      rw [ok]
      generalize setAll nvs writes _ = r at rest ⊢
      cases rest with
      | all results =>
        have all : SetEffect nvs (write :: writes) s _ := .all results
        simpa [allSet] using all
      | fails done first left err results split failed =>
        have fails : SetEffect nvs (write :: writes) s _ :=
          .fails (write :: done) first left err results (by rw [split]; rfl) failed
        simpa [allSet] using fails
    · rename_i failed
      have fails : SetEffect nvs (write :: writes) s _ :=
        .fails [] write writes _ s.results.tail rfl failed
      simpa [allSet] using fails

/-- Nothing is opened, or not everything is set, or the result is that of the commit. -/
inductive SaveEffect (writes : List Write) (s : Log Write) :
    Err × List (Request Write × Err) → Prop
  | unopened (err : Err) (failed : err ≠ espOk) :
      SaveEffect writes s (err, s.calls ++ [(.openHandle s.handle, err)])
  | unset (done : List Write) (write : Write) (err : Err) (failed : err ≠ espOk) :
      SaveEffect writes s (err, s.calls ++ [(.openHandle s.handle, espOk)] ++
        allSet s.handle done ++ [(.set s.handle write, err), (.close s.handle, espOk)])
  | commits (err : Err) :
      SaveEffect writes s (err, s.calls ++ [(.openHandle s.handle, espOk)] ++
        allSet s.handle writes ++ [(.commit s.handle, err), (.close s.handle, espOk)])

theorem saveAll_effect (writes : List Write) (s : Log Write) :
    SaveEffect writes s ((s.saveAll writes).1, (s.saveAll writes).2.calls) := by
  unfold saveAll
  rw [nvsOpen, request]
  dsimp only
  split
  · rename_i failed
    exact .unopened _ failed
  · rename_i opened
    rw [not_not] at opened
    rw [opened]
    have sets := setAll_effect s.handle writes { s with
      results := s.results.tail, handle := s.handle + 1,
      calls := s.calls ++ [(.openHandle s.handle, espOk)] }
    generalize setAll s.handle writes _ = r at sets ⊢
    cases sets with
    | all results =>
      have commits : SaveEffect writes s _ := .commits (results.headD espOk)
      simpa [nvsCommit, request, nvsClose] using commits
    | fails done write left err results split failed =>
      have unset : SaveEffect writes s _ := .unset done write err failed
      simpa [if_neg failed, nvsClose] using unset

end Log

/-! ## The store behind the calls -/

variable {Key Value : Type}

namespace Store

/-- Values are set with the same results as in the record, and wait for the commit. -/
theorem setAll_log (entry : Key × Value → Write) (nvs : Nat) (writes : List (Key × Value))
    {s : Store Key Value} {l : Log Write} (same : s.results = l.results) :
    (s.setAll writes).1 = (Log.setAll nvs (writes.map entry) l).1 ∧
      (s.setAll writes).2.results = (Log.setAll nvs (writes.map entry) l).2.results ∧
        (s.setAll writes).2.saved = s.saved ∧
          ((s.setAll writes).1 = espOk → (s.setAll writes).2.unsaved = s.unsaved ++ writes) := by
  induction writes generalizing s l with
  | nil => exact ⟨rfl, same, rfl, fun _ => (List.append_nil _).symm⟩
  | cons write writes ih =>
    obtain ⟨key, value⟩ := write
    rw [List.map_cons, setAll, Log.setAll, nvsSet, call_eq, Log.nvsSet, Log.request, ← same]
    dsimp only
    split
    · rename_i ok
      obtain ⟨err, results, saved, unsaved⟩ := ih
        (s := { s.next with unsaved := s.next.unsaved ++ [(key, value)] })
        (l := ⟨s.results.tail, l.handle, l.calls ++ [(.set nvs (entry (key, value)), _)]⟩) rfl
      refine ⟨err, results, saved, ?_⟩
      intro all
      rw [unsaved all]
      exact List.append_assoc _ _ _
    · rename_i failed
      exact ⟨rfl, rfl, rfl, fun ok => absurd ok failed⟩

variable [DecidableEq Key]

/-- Saving has the result that the record has, and the values are kept exactly if it is
    `ESP_OK`. -/
theorem saveAll_log (entry : Key × Value → Write) (handle : Nat) (writes : List (Key × Value))
    (s : Store Key Value) :
    (s.saveAll writes).1 = (Log.saveAll (writes.map entry) ⟨s.results, handle, []⟩).1 ∧
      (s.saveAll writes).2.saved =
        if (s.saveAll writes).1 = espOk then writeAll s.saved writes else s.saved := by
  unfold saveAll Log.saveAll
  rw [nvsOpen, call_eq, Log.nvsOpen, Log.request]
  dsimp only
  split
  · exact ⟨rfl, rfl⟩
  · rename_i opened
    rw [not_not] at opened
    rw [if_pos opened]
    have sets := setAll_log entry handle writes (s := { s.next with unsaved := [] })
      (l := ⟨s.results.tail, handle + 1, [] ++ [(.openHandle handle, s.results.headD espOk)]⟩) rfl
    dsimp only at sets ⊢
    generalize setAll ⟨s.next.saved, [], s.next.results⟩ writes = r at sets ⊢
    obtain ⟨err, results, kept, unsaved⟩ := sets
    rw [← err]
    split
    · rename_i ok
      rw [nvsCommit, call_eq, Log.nvsCommit, Log.request, ← results]
      refine ⟨rfl, ?_⟩
      dsimp only [nvsClose]
      split
      · dsimp only [next]
        rw [unsaved ok, kept]
        rfl
      · exact kept
    · exact ⟨rfl, kept⟩

end Store

end Nvs
