import Mathlib.Data.Fin.Basic
import Mathlib.Data.List.FinRange
import Mathlib.Logic.Function.Basic

/-!
# Tables of slots

A table of fixed size is a function out of `Fin n`, and writing a slot is `Function.update`.
Two loop shapes over such a table are enough for array code: a search that stops at the
first slot that passes a test, and a sweep that visits every slot in order. Slots in use can
have something, such as a key, that no other slot in use may share.
-/

namespace Slots

variable {n : Nat}

/-! ## First-match search -/

/-- The first slot that passes the test: `for (i = 0; i < n; i++) if (test(i)) return i;`. -/
def firstSlot (test : Fin n → Bool) : Option (Fin n) :=
  (List.finRange n).find? test

theorem firstSlot_eq_some_iff {test : Fin n → Bool} {i : Fin n} :
    firstSlot test = some i ↔ test i = true ∧ ∀ j < i, test j = false := by
  unfold firstSlot
  rw [List.find?_eq_some_iff_getElem]
  constructor
  · rintro ⟨passes, k, bound, rfl, earlier⟩
    refine ⟨passes, fun j before => ?_⟩
    have skipped := earlier j.val (by simpa [Fin.lt_def] using before)
    simpa using skipped
  · rintro ⟨passes, earlier⟩
    refine ⟨passes, i.val, by simp, by simp, fun k before => ?_⟩
    have skipped := earlier ⟨k, before.trans i.isLt⟩ before
    simpa using skipped

theorem firstSlot_eq_none_iff {test : Fin n → Bool} :
    firstSlot test = none ↔ ∀ i, test i = false := by
  simp [firstSlot, List.find?_eq_none]

theorem firstSlot_isSome_iff {test : Fin n → Bool} :
    (firstSlot test).isSome = true ↔ ∃ i, test i = true := by
  rw [Option.isSome_iff_ne_none, ne_eq, firstSlot_eq_none_iff]
  simp

theorem firstSlot_passes {test : Fin n → Bool} {i : Fin n} (found : firstSlot test = some i) :
    test i = true :=
  (firstSlot_eq_some_iff.mp found).1

theorem firstSlot_congr {test test' : Fin n → Bool} (same : ∀ i, test i = test' i) :
    firstSlot test = firstSlot test' := by
  rw [funext same]

/-! ## Sweeps -/

/-- `for (i = 0; i < n; i++) body(i);` on a state. -/
def sweep {σ : Type*} (body : Fin n → σ → σ) (s : σ) : σ :=
  (List.finRange n).foldl (fun s i => body i s) s

/-- The loop rule: an invariant indexed by the number of slots visited. -/
theorem sweep_invariant {σ : Type*} {body : Fin n → σ → σ} {s : σ} (inv : Nat → σ → Prop)
    (initial : inv 0 s) (step : ∀ (i : Fin n) (t : σ), inv i t → inv (i + 1) (body i t)) :
    inv n (sweep body s) := by
  have visited : ∀ k ≤ n, inv k (((List.finRange n).take k).foldl (fun s i => body i s) s) := by
    intro k
    induction k with
    | zero => simpa using initial
    | succ k ih =>
      intro bound
      have here := step ⟨k, bound⟩ _ (ih (Nat.le_of_succ_le bound))
      have within : k < (List.finRange n).length := by simpa using Nat.lt_of_succ_le bound
      rw [List.take_succ_eq_append_getElem within, List.foldl_append]
      simpa using here
  simpa [sweep, List.take_of_length_le] using visited n le_rfl

/-- A property every iteration keeps survives the sweep. -/
theorem sweep_preserves {σ : Type*} {body : Fin n → σ → σ} {s : σ} (inv : σ → Prop)
    (initial : inv s) (step : ∀ i t, inv t → inv (body i t)) : inv (sweep body s) :=
  sweep_invariant (fun _ => inv) initial step

/-! ## Slots that share nothing -/

/-- No two slots in use share what is to be theirs alone. -/
def Separate {α : Type*} (used : α → Prop) (shares : α → α → Prop) (slots : Fin n → α) : Prop :=
  ∀ i j, used (slots i) → used (slots j) → shares (slots i) (slots j) → i = j

section

variable {α : Type*} {used : α → Prop} {shares : α → α → Prop} {slots slots' : Fin n → α}

/-- Slots that are still in use, and as they were, share nothing. -/
theorem Separate.mono (separate : Separate used shares slots)
    (kept : ∀ i, used (slots' i) → slots' i = slots i) : Separate used shares slots' := by
  intro i j usedI usedJ share
  have sameI := kept i usedI
  have sameJ := kept j usedJ
  rw [sameI] at usedI share
  rw [sameJ] at usedJ share
  exact separate i j usedI usedJ share

/-- A slot may be written with what no other slot in use shares. -/
theorem Separate.update (separate : Separate used shares slots)
    (symmetric : ∀ a b, shares a b → shares b a) {k : Fin n} {entry : α}
    (alone : ∀ i, i ≠ k → used (slots i) → ¬ shares (slots i) entry) :
    Separate used shares (Function.update slots k entry) := by
  intro i j usedI usedJ share
  rcases eq_or_ne i k with rfl | otherI
  · by_contra apart
    rw [Function.update_of_ne (Ne.symm apart)] at usedJ share
    rw [Function.update_self] at share
    exact alone j (Ne.symm apart) usedJ (symmetric _ _ share)
  · rw [Function.update_of_ne otherI] at usedI share
    rcases eq_or_ne j k with rfl | otherJ
    · rw [Function.update_self] at share
      exact absurd share (alone i otherI usedI)
    · rw [Function.update_of_ne otherJ] at usedJ share
      exact separate i j usedI usedJ share

end

end Slots
