/-!
# Write-back cells

A value in memory, the copy of it that is stored, and a bit that tells whether the value may
have changed since. Writes set the bit and leave the copy; a flush copies the value and clears
the bit, or fails and does nothing. However these follow each other, a cell whose bit is clear is
the same as its copy.
-/

namespace WriteBack

variable {α : Type u}

/-- A value, its dirty bit, and the stored copy. -/
structure Cell (α : Type u) where
  value : α
  dirty : Bool
  stored : α

/-- A cell whose bit is clear is the same as its copy. -/
def Clean (c : Cell α) : Prop :=
  c.dirty = false → c.value = c.stored

/-- Any number of writes: the copy stays, and a cell that has changed is marked. -/
structure Writes (c d : Cell α) : Prop where
  stored : d.stored = c.stored
  marked : d = c ∨ d.dirty = true

/-- A flush, which may fail. -/
inductive Flushes (c : Cell α) : Cell α → Prop
  | failed : Flushes c c
  | stored : Flushes c ⟨c.value, false, c.value⟩

theorem Writes.refl (c : Cell α) : Writes c c :=
  ⟨rfl, Or.inl rfl⟩

theorem Writes.write (c : Cell α) (value : α) : Writes c ⟨value, true, c.stored⟩ :=
  ⟨rfl, Or.inr rfl⟩

theorem Writes.trans {c d e : Cell α} (first : Writes c d) (second : Writes d e) : Writes c e := by
  refine ⟨second.stored.trans first.stored, ?_⟩
  rcases second.marked with rfl | marked
  · exact first.marked
  · exact Or.inr marked

theorem Clean.writes {c d : Cell α} (clean : Clean c) (writes : Writes c d) : Clean d := by
  rcases writes.marked with rfl | marked
  · exact clean
  · intro clear
    simp [marked] at clear

theorem Clean.flushes {c d : Cell α} (clean : Clean c) (flushes : Flushes c d) : Clean d := by
  cases flushes with
  | failed => exact clean
  | stored => exact fun _ => rfl

end WriteBack
