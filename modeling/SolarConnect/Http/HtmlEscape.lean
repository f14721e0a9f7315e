import SolarConnect.Misc.Accesses
import SolarConnect.Misc.CharRefs
import Mathlib.Data.List.TakeWhile

/-!
# HTML escaping

`html_escape` makes two passes, one for the size of the buffer and one that fills it. They agree
on every string: the buffer is written from end to end, each index once. What it then holds has
no quote in it, and replacing its character references gives the string back, so a setting that
the configuration page puts between quotes stays between them.
-/

namespace SolarConnect.Http

open Bytes Accesses CharRefs

/-- The condition of both passes: one of `\`, `'`, `"`, `&`, `#` and `;`. -/
def needsEscape (c : Byte) : Bool :=
  c = 0x5C || c = 0x27 || c = 0x22 || c = 0x26 || c = 0x23 || c = 0x3B

/-- `esc_len` after the first pass. -/
def escLen (src : List Byte) : Nat :=
  src.foldl (fun escLen c => if needsEscape c then escLen + 4 else escLen) (src.length + 1)

/-- `res` and `j` in the second pass. -/
structure Copy where
  res : List Byte
  j : Nat

/-- One byte of the second pass. -/
def copyByte (s : Copy) (c : Byte) : Traced Copy :=
  if needsEscape c then do
    let res ← write s.res s.j 0x26
    let res ← write res (s.j + 1) 0x23
    let res ← write res (s.j + 2) (0x30 + c / 10)
    let res ← write res (s.j + 3) (0x30 + c % 10)
    let res ← write res (s.j + 4) 0x3B
    return ⟨res, s.j + 5⟩
  else do
    let res ← write s.res s.j c
    return ⟨res, s.j + 1⟩

/-- `html_escape` (`http_server.c:1327-1344`); `malloc` gives the bytes a fresh block holds. -/
def htmlEscape (malloc : (n : Nat) → Vector Byte n) (src : CString) : Traced (List Byte) := do
  let s ← src.bytes.foldlM copyByte ⟨(malloc (escLen src.bytes)).toList, 0⟩
  write s.res s.j 0

/-- The string that `html_escape` returns. -/
def escapedString (malloc : (n : Nat) → Vector Byte n) (src : CString) : CString :=
  CString.ofBuffer (htmlEscape malloc src).value

/-- What a reader of the page takes for the value of an attribute: the text behind the opening
    quote up to the next such quote. -/
def attributeValue (quote : Byte) (text : List Byte) : List Byte :=
  text.takeWhile (· != quote)

/-! ## The size pass -/

theorem foldl_escLen (src : List Byte) (n : Nat) :
    src.foldl (fun escLen c => if needsEscape c then escLen + 4 else escLen) n
      = n + 4 * src.countP needsEscape := by
  induction src generalizing n with
  | nil => rfl
  | cons c src ih =>
    rw [List.foldl_cons, ih]
    by_cases escaped : needsEscape c = true
    · rw [if_pos escaped, List.countP_cons_of_pos escaped]
      omega
    · rw [if_neg escaped, List.countP_cons_of_neg escaped]

theorem escLen_eq (src : List Byte) :
    escLen src = src.length + 1 + 4 * src.countP needsEscape :=
  foldl_escLen src _

/-- The size pass counts what the copy pass writes, and the NUL. -/
theorem escLen_eq_length (src : List Byte) : escLen src = (escape needsEscape src).length + 1 := by
  rw [escLen_eq, escape_length]
  omega

/-! ## The copy pass -/

/-- The result of writing `data` from `j` on, each index once and in order. -/
structure Writes (s : Copy) (data : List Byte) (t : Traced Copy) : Prop where
  value : t.value = ⟨writeAt s.res s.j data, s.j + data.length⟩
  accesses : t.accesses = (List.range data.length).map fun k => .write (s.j + k)

theorem Writes.bind {s : Copy} {data more : List Byte} {t : Traced Copy}
    {f : Copy → Traced Copy} (first : Writes s data t)
    (rest : Writes t.value more (f t.value)) : Writes s (data ++ more) (t >>= f) := by
  have here := first.value
  refine ⟨?_, ?_⟩
  · rw [bind_value, rest.value, here]
    simp only [writeAt_writeAt, List.length_append, Nat.add_assoc]
  · rw [bind_accesses, first.accesses, rest.accesses, here, List.length_append, List.range_add,
      List.map_append, List.map_map]
    simp only [Nat.add_assoc, Function.comp_def]

theorem copyByte_writes (s : Copy) (c : Byte) :
    Writes s (escapeByte needsEscape c) (copyByte s c) := by
  by_cases escaped : needsEscape c = true
  · rw [escapeByte_of_escaped escaped, copyByte, if_pos escaped]
    exact ⟨by simp [reference, writeAt, ampersand, numberSign, semicolon], rfl⟩
  · rw [escapeByte_of_not escaped, copyByte, if_neg escaped]
    exact ⟨by simp [writeAt], rfl⟩

theorem foldlM_copyByte (src : List Byte) (s : Copy) :
    Writes s (escape needsEscape src) (src.foldlM copyByte s) := by
  induction src generalizing s with
  | nil => exact ⟨rfl, rfl⟩
  | cons c src ih =>
    rw [escape_cons, List.foldlM_cons]
    exact (copyByte_writes s c).bind (ih _)

/-- The block is written from end to end, each index once. -/
theorem htmlEscape_fills (malloc : (n : Nat) → Vector Byte n) (src : CString) :
    (htmlEscape malloc src).value = escape needsEscape src.bytes ++ [0] ∧
      (htmlEscape malloc src).accesses = (List.range (escLen src.bytes)).map .write := by
  have copied := foldlM_copyByte src.bytes ⟨(malloc (escLen src.bytes)).toList, 0⟩
  have size := escLen_eq_length src.bytes
  constructor
  · simp only [htmlEscape, bind_value, write_value, copied.value]
    have last : (writeAt (malloc (escLen src.bytes)).toList 0 (escape needsEscape src.bytes)).set
        (0 + (escape needsEscape src.bytes).length) 0
          = writeAt (malloc (escLen src.bytes)).toList 0 (escape needsEscape src.bytes ++ [0]) := by
      rw [← writeAt_writeAt]
      rfl
    rw [last, writeAt_eq _ _ _ (by simp [size])]
    simp [size]
  · rw [htmlEscape, bind_accesses, copied.accesses, copied.value, size, List.range_succ,
      List.map_append]
    simp [write]

/-! ## The string -/

/-- The bytes that are sent as references are those whose codes have two digits. -/
theorem two_digits (c : Byte) (escaped : needsEscape c = true) : c < 100 := by
  simp only [needsEscape, Bool.or_eq_true, decide_eq_true_eq] at escaped
  rcases escaped with ((((rfl | rfl) | rfl) | rfl) | rfl) | rfl <;> decide

/-- Of the bytes that are sent as references only the syntax of references is in the text. -/
theorem not_mem_escape {b : Byte} (src : List Byte)
    (quote : b = 0x5C ∨ b = 0x27 ∨ b = 0x22) : b ∉ escape needsEscape src := by
  intro member
  rcases mem_escape two_digits member with ⟨_, plain⟩ | isSyntax
  · rcases quote with rfl | rfl | rfl <;> exact plain (by decide)
  · rcases quote with rfl | rfl | rfl <;> exact absurd isSyntax (by decide)

theorem noNul_escape (src : CString) : 0 ∉ escape needsEscape src.bytes := by
  intro member
  rcases mem_escape two_digits member with ⟨inSrc, _⟩ | isSyntax
  · exact src.noNul inSrc
  · exact absurd isSyntax (by decide)

theorem escapedString_bytes (malloc : (n : Nat) → Vector Byte n) (src : CString) :
    (escapedString malloc src).bytes = escape needsEscape src.bytes := by
  rw [escapedString, CString.ofBuffer, (htmlEscape_fills malloc src).1]
  exact takeWhile_ne_append (noNul_escape src) []

/-- HTML escaping is exact and reversible: the block of `strlen + 1` bytes and four for every
    escaped one is written from end to end, each index once; the string in it has no backslash
    and no quote; `&`, `#` and `;` stand in references only; replacing these gives the string
    back; and an attribute between either quotes keeps it whole. -/
theorem htmlEscape_exact (malloc : (n : Nat) → Vector Byte n) (src : CString) :
    (htmlEscape malloc src).accesses
        = (List.range (src.length + 1 + 4 * src.bytes.countP needsEscape)).map .write ∧
      (htmlEscape malloc src).value = (escapedString malloc src).bytes ++ [0] ∧
      (∀ b ∈ (escapedString malloc src).bytes, b ≠ 0x5C ∧ b ≠ 0x27 ∧ b ≠ 0x22) ∧
      (∀ i < (escapedString malloc src).length,
        byteAt (escapedString malloc src).bytes i = 0x26 ∨
            byteAt (escapedString malloc src).bytes i = 0x23 ∨
            byteAt (escapedString malloc src).bytes i = 0x3B →
          InReference (escapedString malloc src).bytes i) ∧
      replaceRefs (escapedString malloc src).bytes = src.bytes ∧
      (∀ src', (escapedString malloc src').bytes = (escapedString malloc src).bytes →
        src' = src) ∧
      ∀ quote rest, quote = 0x27 ∨ quote = 0x22 →
        attributeValue quote ((escapedString malloc src).bytes ++ quote :: rest)
          = (escapedString malloc src).bytes := by
  have filled := htmlEscape_fills malloc src
  have undone (src : List Byte) : replaceRefs (escape needsEscape src) = src :=
    replaceRefs_escape (by decide) two_digits src
  simp only [CString.length, escapedString_bytes]
  refine ⟨?_, filled.1, fun b member => ?_, fun i inside isSyntax => ?_, undone _,
    fun src' same => ?_, fun quote rest isQuote => ?_⟩
  · rw [filled.2, escLen_eq]
  · refine ⟨?_, ?_, ?_⟩
    · rintro rfl
      exact not_mem_escape src.bytes (by decide) member
    · rintro rfl
      exact not_mem_escape src.bytes (by decide) member
    · rintro rfl
      exact not_mem_escape src.bytes (by decide) member
  · refine inReference_of_syntax two_digits ?_ inside isSyntax
    rintro b (rfl | rfl | rfl) <;> decide
  · have back := congrArg replaceRefs same
    rw [undone, undone] at back
    exact CString.ext back
  · exact takeWhile_ne_append (not_mem_escape src.bytes (Or.inr isQuote)) rest

end SolarConnect.Http
