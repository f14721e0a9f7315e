import SolarConnect.Misc.Accesses

/-!
# Bodies appended piece by piece

`json_append` keeps its offset in front of the last byte of the buffer. A piece that does not
fit fills the buffer up to there, and pieces after it find room for their NUL alone. So the
buffer always holds a prefix of all the pieces, and never one piece behind another that was cut.
-/

namespace SolarConnect.Http

open Bytes Accesses

/-- `body` and `off`. -/
structure JsonBody where
  buf : List Byte
  offset : Nat

/-- `vsnprintf` to `buf + offset` with room for `n` bytes: as much of the expanded format as fits
    in front of a NUL. It returns the length of all of it. -/
def vsnprintf (buf : List Byte) (offset n : Nat) (text : CString) : Traced (List Byte × Int) :=
  if n = 0 then return (buf, text.length)
  else do
    let buf ← writeMany buf offset (text.bytes.take (n - 1) ++ [0])
    return (buf, text.length)

/-- `json_append` (`admin_ports.c:493-517`) when the format expands to `text`. -/
def jsonAppend (bufLen : Nat) (s : JsonBody) (text : CString) : Traced JsonBody :=
  if bufLen ≤ s.offset then return s
  else do
    let (buf, written) ← vsnprintf s.buf s.offset (bufLen - s.offset) text
    if written < 0 then return ⟨buf, s.offset⟩
    else if bufLen - s.offset ≤ written.toNat then
      let buf ← write buf (bufLen - 1) 0
      return ⟨buf, bufLen - 1⟩
    else return ⟨buf, s.offset + written.toNat⟩

/-- The calls of a handler, from the start of its buffer. -/
def jsonBody (buf : List Byte) (texts : List CString) : Traced JsonBody :=
  texts.foldlM (jsonAppend buf.length) ⟨buf, 0⟩

/-- All the pieces, one behind the other. -/
def joined (texts : List CString) : List Byte :=
  texts.flatMap CString.bytes

/-- The buffer of `bufLen` bytes holds as much of `text` as fits in front of a last byte, up to
    the offset. -/
structure Holds (bufLen : Nat) (text : List Byte) (s : JsonBody) : Prop where
  length : s.buf.length = bufLen
  offset : s.offset = (text.take (bufLen - 1)).length
  front : s.buf.take s.offset = text.take (bufLen - 1)

/-! ## One call -/

/-- A piece goes behind what the buffer holds, cut where the room ends. -/
theorem take_append_room (text more : List Byte) (room : Nat) :
    (text ++ more).take room = text.take room ++ more.take (room - (text.take room).length) := by
  rw [List.take_append, List.length_take]
  congr 2
  omega

theorem jsonAppend_eq {bufLen : Nat} {s : JsonBody} (room : s.offset < bufLen) (text : CString) :
    (jsonAppend bufLen s text).value =
      if bufLen - s.offset ≤ text.length then
        ⟨(writeAt s.buf s.offset (text.bytes.take (bufLen - s.offset - 1) ++ [0])).set
          (bufLen - 1) 0, bufLen - 1⟩
      else
        ⟨writeAt s.buf s.offset (text.bytes.take (bufLen - s.offset - 1) ++ [0]),
          s.offset + text.length⟩ := by
  have some : bufLen - s.offset ≠ 0 := by omega
  rw [jsonAppend, if_neg (by omega), vsnprintf, if_neg some]
  simp only [bind_value, pure_value, writeMany_value, Int.toNat_natCast]
  rw [if_neg (by omega)]
  split <;> simp

theorem jsonAppend_within {bufLen : Nat} {s : JsonBody} (room : s.offset < bufLen)
    (text : CString) : Within 0 bufLen (jsonAppend bufLen s text) := by
  have some : bufLen - s.offset ≠ 0 := by omega
  have fits : s.offset + (text.bytes.take (bufLen - s.offset - 1) ++ [0]).length ≤ bufLen := by
    rw [List.length_append, List.length_take, List.length_singleton]
    omega
  rw [jsonAppend, if_neg (by omega), vsnprintf, if_neg some]
  refine .bind (.bind (.writeMany fits) (.pure _)) ?_
  simp only [bind_value, pure_value, writeMany_value]
  split
  · exact .pure _
  · split
    · exact .bind (.write (by omega)) (.pure _)
    · exact .pure _

/-- A buffer that shows the text behind its NUL holds it. -/
theorem holds_of_terminated {bufLen : Nat} {text : List Byte} {s : JsonBody}
    (length : s.buf.length = bufLen) (offset : s.offset = (text.take (bufLen - 1)).length)
    (terminated : s.buf.take (s.offset + 1) = text.take (bufLen - 1) ++ [0]) :
    Holds bufLen text s := by
  refine ⟨length, offset, ?_⟩
  have shorter : s.buf.take s.offset = (s.buf.take (s.offset + 1)).take s.offset := by
    rw [List.take_take, Nat.min_eq_left (Nat.le_succ _)]
  rw [shorter, terminated, offset, List.take_left]

section

variable {bufLen : Nat} {held : List Byte} {s : JsonBody}

theorem Holds.room (state : Holds bufLen held s) (positive : 1 ≤ bufLen) : s.offset < bufLen := by
  rw [state.offset, List.length_take]
  omega

/-- The longer text, cut to the buffer: `vsnprintf` has room for the rest of it. -/
theorem Holds.longer (state : Holds bufLen held s) (text : List Byte) :
    (held ++ text).take (bufLen - 1)
      = held.take (bufLen - 1) ++ text.take (bufLen - s.offset - 1) := by
  rw [take_append_room, ← state.offset]
  congr 2
  omega

/-- `vsnprintf` leaves the longer text behind its NUL. -/
theorem Holds.written (state : Holds bufLen held s) (positive : 1 ≤ bufLen) (text : List Byte) :
    (writeAt s.buf s.offset (text.take (bufLen - s.offset - 1) ++ [0])).take
        (((held ++ text).take (bufLen - 1)).length + 1)
      = (held ++ text).take (bufLen - 1) ++ [0] := by
  have room := state.room positive
  have fits : s.offset + (text.take (bufLen - s.offset - 1) ++ [0]).length ≤ s.buf.length := by
    rw [state.length, List.length_append, List.length_take, List.length_singleton]
    omega
  have written := take_writeAt_end s.buf s.offset _ fits
  have ends : s.offset + (text.take (bufLen - s.offset - 1) ++ [0]).length
      = ((held ++ text).take (bufLen - 1)).length + 1 := by
    rw [state.longer, List.length_append, List.length_append, ← state.offset,
      List.length_singleton, Nat.add_assoc]
  rw [state.front, ← List.append_assoc, ← state.longer, ends] at written
  exact written

/-- One call lengthens what the buffer holds, and leaves it behind a NUL. -/
theorem Holds.append (positive : 1 ≤ bufLen) (state : Holds bufLen held s) (text : CString) :
    Holds bufLen (held ++ text.bytes) (jsonAppend bufLen s text).value ∧
      (jsonAppend bufLen s text).value.buf.take ((jsonAppend bufLen s text).value.offset + 1)
        = (held ++ text.bytes).take (bufLen - 1) ++ [0] := by
  have room := state.room positive
  have written := state.written positive text.bytes
  have count := congrArg List.length (state.longer text.bytes)
  rw [List.length_append, ← state.offset, List.length_take (l := text.bytes)] at count
  have size : text.length = text.bytes.length := rfl
  rw [jsonAppend_eq room]
  by_cases cut : bufLen - s.offset ≤ text.length
  · have last : bufLen - 1 = ((held ++ text.bytes).take (bufLen - 1)).length := by omega
    rw [if_pos cut]
    -- The NUL that the call writes itself is on the one that `vsnprintf` wrote.
    have terminated : ((writeAt s.buf s.offset (text.bytes.take (bufLen - s.offset - 1) ++ [0])).set
        (bufLen - 1) 0).take (bufLen - 1 + 1) = (held ++ text.bytes).take (bufLen - 1) ++ [0] := by
      rw [← last] at written
      rw [List.take_set, written, List.set_append_right _ _ last.ge, ← last, Nat.sub_self]
      rfl
    exact ⟨holds_of_terminated (by simp [state.length]) last terminated, terminated⟩
  · have whole : s.offset + text.length = ((held ++ text.bytes).take (bufLen - 1)).length := by
      omega
    rw [if_neg cut]
    have terminated : (writeAt s.buf s.offset (text.bytes.take (bufLen - s.offset - 1) ++ [0])).take
        (s.offset + text.length + 1) = (held ++ text.bytes).take (bufLen - 1) ++ [0] := by
      rw [whole, written]
    exact ⟨holds_of_terminated (by simp [state.length]) whole terminated, terminated⟩

end

/-! ## Every sequence of calls -/

theorem foldlM_jsonAppend {bufLen : Nat} {held : List Byte} {s : JsonBody} (positive : 1 ≤ bufLen)
    (state : Holds bufLen held s) (texts : List CString) :
    Holds bufLen (held ++ joined texts) (texts.foldlM (jsonAppend bufLen) s).value ∧
      Within 0 bufLen (texts.foldlM (jsonAppend bufLen) s) := by
  induction texts generalizing held s with
  | nil => exact ⟨by simpa [joined] using state, .pure _⟩
  | cons text texts ih =>
    have room : s.offset < bufLen := by
      rw [state.offset, List.length_take]
      omega
    have rest := ih (state.append positive text).1
    rw [List.append_assoc] at rest
    rw [List.foldlM_cons]
    exact ⟨rest.1, .bind (jsonAppend_within room text) rest.2⟩

theorem jsonBody_holds {buf : List Byte} (positive : 1 ≤ buf.length) (texts : List CString) :
    Holds buf.length (joined texts) (jsonBody buf texts).value ∧
      Within 0 buf.length (jsonBody buf texts) := by
  have start : Holds buf.length [] ⟨buf, 0⟩ := ⟨rfl, by simp, by simp⟩
  exact foldlM_jsonAppend positive start texts

theorem joined_concat (texts : List CString) (text : CString) :
    joined (texts ++ [text]) = joined texts ++ text.bytes := by
  simp [joined]

/-- After the last call the buffer ends in a NUL. -/
theorem jsonBody_terminated {buf : List Byte} (positive : 1 ≤ buf.length) (texts : List CString)
    (text : CString) :
    (jsonBody buf (texts ++ [text])).value.buf.take
        ((jsonBody buf (texts ++ [text])).value.offset + 1)
      = (joined (texts ++ [text])).take (buf.length - 1) ++ [0] := by
  have after : jsonBody buf (texts ++ [text])
      = jsonBody buf texts >>= fun s => jsonAppend buf.length s text := by
    simp only [jsonBody, List.foldlM_append, List.foldlM_cons, List.foldlM_nil, bind_pure]
  rw [after, bind_value, joined_concat]
  exact ((jsonBody_holds positive texts).1.append positive text).2

/-- `json_append` builds a prefix: after every call of every sequence the buffer holds, in front
    of a NUL, exactly as many of the bytes of all the pieces as fit in front of its last byte;
    the offset is their number, and nothing is written behind the buffer. -/
theorem jsonBody_prefix (buf : List Byte) (positive : 1 ≤ buf.length) (texts : List CString)
    (text : CString) :
    (jsonBody buf (texts ++ [text])).value.buf.take
        ((jsonBody buf (texts ++ [text])).value.offset + 1)
          = (joined (texts ++ [text])).take (buf.length - 1) ++ [0] ∧
      (jsonBody buf (texts ++ [text])).value.offset
        = ((joined (texts ++ [text])).take (buf.length - 1)).length ∧
      Within 0 buf.length (jsonBody buf (texts ++ [text])) := by
  obtain ⟨whole, within⟩ := jsonBody_holds positive (texts ++ [text])
  exact ⟨jsonBody_terminated positive texts text, whole.offset, within⟩

/-- `ab` and `cde` in four bytes. -/
theorem jsonBody_prefix_four :
    let s := (jsonBody [7, 7, 7, 7]
      [⟨[0x61, 0x62], by decide⟩, ⟨[0x63, 0x64, 0x65], by decide⟩]).value
    s.buf.take (s.offset + 1) = [0x61, 0x62, 0x63, 0] ∧ s.offset = 3 :=
  have built := jsonBody_prefix [7, 7, 7, 7] (by decide) [⟨[0x61, 0x62], by decide⟩]
    ⟨[0x63, 0x64, 0x65], by decide⟩
  ⟨built.1, built.2.1⟩

end SolarConnect.Http
