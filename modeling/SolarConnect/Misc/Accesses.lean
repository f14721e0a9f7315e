import SolarConnect.Misc.Bytes

/-!
# Array accesses

A computation together with the indices it reads and writes, in the order in which it does. A
bound on the indices goes through a computation step by step: each part is within the bound
given what the parts in front of it returned.
-/

namespace Accesses

open Bytes

/-- One access of an array. -/
inductive Access
  | read (i : Nat)
  | write (i : Nat)
  deriving DecidableEq, Repr

/-- A result and the accesses on the way to it. -/
structure Traced (α : Type u) where
  value : α
  accesses : List Access

instance : Monad Traced where
  pure a := ⟨a, []⟩
  bind t f := ⟨(f t.value).value, t.accesses ++ (f t.value).accesses⟩

theorem Traced.ext {t t' : Traced α} (value : t.value = t'.value)
    (accesses : t.accesses = t'.accesses) : t = t' := by
  cases t
  cases t'
  exact congrArg₂ _ value accesses

instance : LawfulMonad Traced :=
  LawfulMonad.mk' Traced (fun _ => Traced.ext rfl (List.append_nil _)) (fun _ _ => rfl)
    (fun _ _ _ => Traced.ext rfl (List.append_assoc _ _ _))

/-- `buf[i]`. -/
def read (buf : List Byte) (i : Nat) : Traced Byte :=
  ⟨byteAt buf i, [.read i]⟩

/-- `buf[i] = b`. -/
def write (buf : List Byte) (i : Nat) (b : Byte) : Traced (List Byte) :=
  ⟨buf.set i b, [.write i]⟩

/-- The `n` bytes from `buf + i`, as `memcpy` reads them. -/
def readMany (buf : List Byte) (i n : Nat) : Traced (List Byte) :=
  ⟨(buf.drop i).take n, (List.range n).map fun k => .read (i + k)⟩

/-- `data` to `buf + i`, as `memcpy` writes it. -/
def writeMany (buf : List Byte) (i : Nat) (data : List Byte) : Traced (List Byte) :=
  ⟨writeAt buf i data, (List.range data.length).map fun k => .write (i + k)⟩

variable {α β : Type u}

@[simp] theorem pure_value (a : α) : (pure a : Traced α).value = a := rfl

@[simp] theorem pure_accesses (a : α) : (pure a : Traced α).accesses = [] := rfl

@[simp] theorem bind_value (t : Traced α) (f : α → Traced β) :
    (t >>= f).value = (f t.value).value := rfl

@[simp] theorem bind_accesses (t : Traced α) (f : α → Traced β) :
    (t >>= f).accesses = t.accesses ++ (f t.value).accesses := rfl

@[simp] theorem map_value (f : α → β) (t : Traced α) : (f <$> t).value = f t.value := rfl

@[simp] theorem map_accesses (f : α → β) (t : Traced α) : (f <$> t).accesses = t.accesses :=
  List.append_nil _

-- Not `rfl`, so that a condition on the value is rewritten together with its instance.
@[simp] theorem read_value (buf : List Byte) (i : Nat) : (read buf i).value = byteAt buf i := by
  rw [read]

@[simp] theorem write_value (buf : List Byte) (i : Nat) (b : Byte) :
    (write buf i b).value = buf.set i b := by
  rw [write]

@[simp] theorem readMany_value (buf : List Byte) (i n : Nat) :
    (readMany buf i n).value = (buf.drop i).take n := by
  rw [readMany]

@[simp] theorem writeMany_value (buf : List Byte) (i : Nat) (data : List Byte) :
    (writeMany buf i data).value = writeAt buf i data := by
  rw [writeMany]

/-- Every read is below `r` and every write below `w`. -/
structure Within (r w : Nat) (t : Traced α) : Prop where
  reads : ∀ i, .read i ∈ t.accesses → i < r
  writes : ∀ i, .write i ∈ t.accesses → i < w

namespace Within

variable {r w : Nat}

theorem pure (a : α) : Within r w (Pure.pure a : Traced α) :=
  ⟨fun i member => by simp at member, fun i member => by simp at member⟩

theorem read {buf : List Byte} {i : Nat} (below : i < r) : Within r w (read buf i) :=
  ⟨fun j member => by simp [Accesses.read] at member; omega,
    fun j member => by simp [Accesses.read] at member⟩

theorem write {buf : List Byte} {i : Nat} {b : Byte} (below : i < w) :
    Within r w (write buf i b) :=
  ⟨fun j member => by simp [Accesses.write] at member,
    fun j member => by simp [Accesses.write] at member; omega⟩

theorem readMany {buf : List Byte} {i n : Nat} (below : i + n ≤ r) :
    Within r w (readMany buf i n) := by
  refine ⟨fun j member => ?_, fun j member => ?_⟩
  · obtain ⟨k, inside, rfl⟩ : ∃ k < n, i + k = j := by
      simpa [Accesses.readMany] using member
    omega
  · simp [Accesses.readMany] at member

theorem writeMany {buf data : List Byte} {i : Nat} (below : i + data.length ≤ w) :
    Within r w (writeMany buf i data) := by
  refine ⟨fun j member => ?_, fun j member => ?_⟩
  · simp [Accesses.writeMany] at member
  · obtain ⟨k, inside, rfl⟩ : ∃ k < data.length, i + k = j := by
      simpa [Accesses.writeMany] using member
    omega

/-- The sequence rule. -/
theorem bind {t : Traced α} {f : α → Traced β} (first : Within r w t)
    (rest : Within r w (f t.value)) : Within r w (t >>= f) := by
  refine ⟨fun i member => ?_, fun i member => ?_⟩
  · rw [bind_accesses, List.mem_append] at member
    exact member.elim (first.reads i) (rest.reads i)
  · rw [bind_accesses, List.mem_append] at member
    exact member.elim (first.writes i) (rest.writes i)

/-- The rule for a read in front of what is known of the result and of the accesses alike. -/
theorem read_bind {γ : Type} {p : γ → Prop} {buf : List Byte} {i : Nat} {f : Byte → Traced γ}
    (below : i < r) (rest : p (f (byteAt buf i)).value ∧ Within r w (f (byteAt buf i))) :
    p (Accesses.read buf i >>= f).value ∧ Within r w (Accesses.read buf i >>= f) :=
  ⟨rest.1, .bind (.read below) rest.2⟩

end Within

end Accesses
