import Mathlib.Data.List.Basic
import Mathlib.Data.List.TakeWhile

/-!
# Byte buffers

A buffer of C bytes is a list of 8-bit words. Reads past its end give zero and writes past
its end are dropped, so a buffer never changes length. The string that a `char` array holds
ends at its first NUL.
-/

namespace Bytes

/-- `uint8_t`. -/
abbrev Byte := BitVec 8

/-- `buf[i]`. -/
def byteAt (buf : List Byte) (i : Nat) : Byte :=
  buf.getD i 0

/-- The 16-bit field at `i` in network byte order, as `ntohs` gives it. -/
def readBe16 (buf : List Byte) (i : Nat) : Nat :=
  (byteAt buf i).toNat * 256 + (byteAt buf (i + 1)).toNat

/-- `memcpy(buf + i, data, n)`. -/
def writeAt (buf : List Byte) (i : Nat) : List Byte → List Byte
  | [] => buf
  | b :: data => writeAt (buf.set i b) (i + 1) data

@[simp] theorem writeAt_length (buf : List Byte) (i : Nat) (data : List Byte) :
    (writeAt buf i data).length = buf.length := by
  induction data generalizing buf i with
  | nil => rfl
  | cons b data ih => rw [writeAt, ih, List.length_set]

/-- A byte outside of the written range is unchanged. -/
theorem writeAt_getElem?_outside (buf : List Byte) (i j : Nat) (data : List Byte)
    (outside : j < i ∨ i + data.length ≤ j) : (writeAt buf i data)[j]? = buf[j]? := by
  induction data generalizing buf i with
  | nil => rfl
  | cons b data ih =>
    rw [List.length_cons] at outside
    rw [writeAt, ih _ _ (by omega), List.getElem?_set_ne (by omega)]

/-- A byte inside of the written range is the one written. -/
theorem writeAt_getElem?_inside (buf : List Byte) (i k : Nat) (data : List Byte)
    (fits : i + data.length ≤ buf.length) (inside : k < data.length) :
    (writeAt buf i data)[i + k]? = data[k]? := by
  induction data generalizing buf i k with
  | nil => simp at inside
  | cons b data ih =>
    rw [List.length_cons] at fits inside
    cases k with
    | zero =>
      have untouched := writeAt_getElem?_outside (buf.set i b) (i + 1) i data
        (Or.inl (Nat.lt_succ_self i))
      change (writeAt (buf.set i b) (i + 1) data)[i]? = some b
      rw [untouched, List.getElem?_set_self (by omega)]
    | succ k =>
      have tail := ih (buf.set i b) (i + 1) k (by rw [List.length_set]; omega) (by omega)
      rw [writeAt, List.getElem?_cons_succ, ← tail]
      congr 1
      omega

theorem take_writeAt (buf : List Byte) (i n : Nat) (data : List Byte) :
    (writeAt buf i data).take n = writeAt (buf.take n) i data := by
  induction data generalizing buf i with
  | nil => rfl
  | cons b data ih => rw [writeAt, ih, List.take_set, writeAt]

/-- The bytes up to the end of a write are those in front of it and those written. -/
theorem take_writeAt_end (buf : List Byte) (i : Nat) (data : List Byte)
    (fits : i + data.length ≤ buf.length) :
    (writeAt buf i data).take (i + data.length) = buf.take i ++ data := by
  induction data generalizing buf i with
  | nil => simp [writeAt]
  | cons b data ih =>
    rw [List.length_cons] at fits ⊢
    have rest := ih (buf.set i b) (i + 1) (by rw [List.length_set]; omega)
    have first : (buf.set i b).take (i + 1) = buf.take i ++ [b] := by
      rw [List.set_eq_take_append_cons_drop, if_pos (by omega), List.take_append]
      have length : (buf.take i).length = i := List.length_take_of_le (by omega)
      rw [length, List.take_of_length_le (by omega), Nat.add_sub_cancel_left]
      rfl
    rw [first, List.append_assoc] at rest
    rw [writeAt, ← Nat.add_assoc, Nat.add_right_comm]
    exact rest

/-! ## Reading -/

theorem byteAt_eq_of_getElem? {buf buf' : List Byte} {i : Nat} (same : buf[i]? = buf'[i]?) :
    byteAt buf i = byteAt buf' i := by
  rw [byteAt, byteAt, List.getD_eq_getElem?_getD, List.getD_eq_getElem?_getD, same]

theorem byteAt_take (buf : List Byte) {n i : Nat} (within : i < n) :
    byteAt (buf.take n) i = byteAt buf i :=
  byteAt_eq_of_getElem? (List.getElem?_take_of_lt within)

theorem byteAt_drop (buf : List Byte) (n i : Nat) :
    byteAt (buf.drop n) i = byteAt buf (n + i) := by
  rw [byteAt, byteAt, List.getD_eq_getElem?_getD, List.getD_eq_getElem?_getD, List.getElem?_drop]

theorem byteAt_append_left {front : List Byte} (rest : List Byte) {i : Nat}
    (within : i < front.length) : byteAt (front ++ rest) i = byteAt front i :=
  byteAt_eq_of_getElem? (List.getElem?_append_left within)

theorem readBe16_drop (buf : List Byte) (n i : Nat) :
    readBe16 (buf.drop n) i = readBe16 buf (n + i) := by
  rw [readBe16, readBe16, byteAt_drop, byteAt_drop, Nat.add_assoc]

/-- A byte after a write is the one written, or else the one that was there. -/
theorem byteAt_writeAt (buf : List Byte) {i : Nat} (data : List Byte)
    (fits : i + data.length ≤ buf.length) (j : Nat) :
    byteAt (writeAt buf i data) j =
      if i ≤ j ∧ j < i + data.length then byteAt data (j - i) else byteAt buf j := by
  split
  · rename_i inside
    obtain ⟨k, rfl⟩ := Nat.exists_eq_add_of_le inside.1
    rw [Nat.add_sub_cancel_left, byteAt, byteAt, List.getD_eq_getElem?_getD,
      List.getD_eq_getElem?_getD, writeAt_getElem?_inside buf i k data fits (by omega)]
  · exact byteAt_eq_of_getElem? (writeAt_getElem?_outside buf i j data (by omega))

/-- The bytes behind a write are unchanged. -/
theorem drop_writeAt (buf : List Byte) {i n : Nat} (data : List Byte)
    (behind : i + data.length ≤ n) : (writeAt buf i data).drop n = buf.drop n := by
  apply List.ext_getElem?
  intro j
  rw [List.getElem?_drop, List.getElem?_drop]
  exact writeAt_getElem?_outside buf i (n + j) data (by omega)

/-- A write within the first of two buffers. -/
theorem writeAt_append (front rest : List Byte) (i : Nat) (data : List Byte)
    (fits : i + data.length ≤ front.length) :
    writeAt (front ++ rest) i data = writeAt front i data ++ rest := by
  induction data generalizing front i with
  | nil => rfl
  | cons b data ih =>
    rw [List.length_cons] at fits
    rw [writeAt, writeAt, List.set_append_left _ _ (by omega)]
    exact ih _ _ (by rw [List.length_set]; omega)

/-- A write behind the first `n` bytes, seen from there. -/
theorem drop_writeAt_inside (buf : List Byte) (n i : Nat) (data : List Byte) :
    (writeAt buf (n + i) data).drop n = writeAt (buf.drop n) i data := by
  induction data generalizing buf i with
  | nil => rfl
  | cons b data ih =>
    rw [writeAt, writeAt, Nat.add_assoc, ih, List.drop_set, if_neg (by omega),
      Nat.add_sub_cancel_left]

/-- The bytes in front of a write are unchanged. -/
theorem take_writeAt_front (buf : List Byte) {i n : Nat} (data : List Byte) (before : n ≤ i) :
    (writeAt buf i data).take n = buf.take n := by
  apply List.ext_getElem?
  intro j
  rw [List.getElem?_take, List.getElem?_take]
  split
  · exact writeAt_getElem?_outside buf i j data (by omega)
  · rfl

/-- Two writes, one behind the other. -/
theorem writeAt_writeAt (buf : List Byte) (i : Nat) (data more : List Byte) :
    writeAt (writeAt buf i data) (i + data.length) more = writeAt buf i (data ++ more) := by
  induction data generalizing buf i with
  | nil => rfl
  | cons b data ih =>
    rw [List.cons_append, writeAt, writeAt, ← ih, List.length_cons, Nat.add_assoc i 1,
      Nat.add_comm 1]

/-- A written buffer in three parts. -/
theorem writeAt_eq (buf : List Byte) (i : Nat) (data : List Byte)
    (fits : i + data.length ≤ buf.length) :
    writeAt buf i data = buf.take i ++ data ++ buf.drop (i + data.length) := by
  rw [← take_writeAt_end buf i data fits, ← drop_writeAt buf data (Nat.le_refl _)]
  exact (List.take_append_drop _ _).symm

/-- The bytes from an offset on. -/
theorem cons_drop {buf : List Byte} {n : Nat} (inside : n < buf.length) :
    buf.drop n = byteAt buf n :: buf.drop (n + 1) := by
  rw [List.drop_eq_getElem_cons inside, byteAt, List.getD_eq_getElem?_getD,
    List.getElem?_eq_getElem inside, Option.getD_some]

/-- A byte that reads as nonzero is one of the buffer's. -/
theorem exists_mem_ne_zero {buf : List Byte} {i : Nat} (nonzero : byteAt buf i ≠ 0) :
    ∃ b ∈ buf, b ≠ 0 := by
  by_cases inside : i < buf.length
  · rw [byteAt, List.getD_eq_getElem?_getD, List.getElem?_eq_getElem inside,
      Option.getD_some] at nonzero
    exact ⟨buf[i], List.getElem_mem inside, nonzero⟩
  · rw [byteAt, List.getD_eq_getElem?_getD, List.getElem?_eq_none (not_lt.mp inside),
      Option.getD_none] at nonzero
    exact absurd rfl nonzero

theorem drop_cons {buf : List Byte} {n : Nat} {b : Byte} {rest : List Byte}
    (here : buf.drop n = b :: rest) :
    n < buf.length ∧ byteAt buf n = b ∧ buf.drop (n + 1) = rest := by
  have inside : n < buf.length := by
    by_contra beyond
    rw [List.drop_eq_nil_of_le (not_lt.mp beyond)] at here
    cases here
  rw [cons_drop inside] at here
  obtain ⟨byte, behind⟩ := List.cons.inj here
  exact ⟨inside, byte, behind⟩

/-- The bytes in front of the first `c`. -/
theorem takeWhile_ne_append {c : Byte} {front : List Byte} (absent : c ∉ front)
    (rest : List Byte) : (front ++ c :: rest).takeWhile (· != c) = front := by
  have all : ∀ b ∈ front, (b != c) = true := by
    intro b member
    exact bne_iff_ne.mpr fun same => absent (same ▸ member)
  rw [List.takeWhile_append_of_pos all, List.takeWhile_cons_of_neg (by simp), List.append_nil]

/-! ## Strings -/

/-- `toupper` in the C locale. -/
def toUpper (c : Byte) : Byte :=
  if 0x61 ≤ c ∧ c ≤ 0x7A then c - 0x20 else c

/-- A C string: the bytes in front of its NUL. -/
@[ext]
structure CString where
  bytes : List Byte
  noNul : 0 ∉ bytes := by decide
  deriving DecidableEq

namespace CString

/-- The string that a `char` array holds. -/
def ofBuffer (buf : List Byte) : CString where
  bytes := buf.takeWhile (· != 0)
  noNul nul := by simpa using List.mem_takeWhile_imp nul

/-- `""`. -/
def empty : CString where
  bytes := []

/-- The string that `strlcpy` leaves in a buffer of `n + 1` bytes. -/
def take (s : CString) (n : Nat) : CString where
  bytes := s.bytes.take n
  noNul nul := s.noNul (List.mem_of_mem_take nul)

/-- `strlen(s)`. -/
def length (s : CString) : Nat :=
  s.bytes.length

@[simp] theorem take_bytes (s : CString) (n : Nat) : (s.take n).bytes = s.bytes.take n :=
  rfl

theorem ofBuffer_of_noNul {buf : List Byte} (noNul : 0 ∉ buf) : (ofBuffer buf).bytes = buf := by
  apply List.takeWhile_eq_self_iff.mpr
  intro b mem
  have nonzero : b ≠ 0 := fun zero => noNul (zero ▸ mem)
  exact bne_iff_ne.mpr nonzero

theorem ofBuffer_length_le (buf : List Byte) : (ofBuffer buf).bytes.length ≤ buf.length :=
  (List.takeWhile_sublist _).length_le

theorem take_of_length_le {s : CString} {n : Nat} (short : s.length ≤ n) : s.take n = s :=
  CString.ext (List.take_of_length_le short)

end CString

end Bytes
