import SolarConnect.Config.Commands
import SolarConnect.Misc.Accesses

/-!
# Decoding in place

`preprocess_string` on the buffer it works in, with its two cursors. What is in front of the
write cursor is decoded, what is from there on is as it was sent, and the read cursor is never
behind the write cursor; so the buffer ends up with what `decode` makes of its string.
-/

namespace SolarConnect.Config

open Bytes FormEncoding Accesses

/-- The buffer and the cursors `p` and `q`, as indices. -/
structure Cursors where
  buf : List Byte
  p : Nat
  q : Nat

/-- `*(p) == '%' && *(p + 1) != 0 && *(p + 2) != 0`. -/
def escapeAhead (s : Cursors) : Traced Bool := do
  let c ← read s.buf s.p
  if c = percent then
    let high ← read s.buf (s.p + 1)
    if high ≠ 0 then
      let low ← read s.buf (s.p + 2)
      return decide (low ≠ 0)
    else return false
  else return false

/-- The loop body with the `p++` behind it. -/
def decodeByte (s : Cursors) : Traced Cursors := do
  let escape ← escapeAhead s
  if escape then
    let high ← read s.buf (s.p + 1)
    let low ← read s.buf (s.p + 2)
    let buf ← write s.buf s.q ((digitOf high <<< 4) + digitOf low)
    return ⟨buf, s.p + 3, s.q + 1⟩
  else
    let c ← read s.buf s.p
    let buf ← write s.buf s.q (unplus c)
    return ⟨buf, s.p + 1, s.q + 1⟩

theorem escapeAhead_value (s : Cursors) : (escapeAhead s).value
    = decide (byteAt s.buf s.p = percent ∧ byteAt s.buf (s.p + 1) ≠ 0 ∧
        byteAt s.buf (s.p + 2) ≠ 0) := by
  simp only [escapeAhead, bind_value, read_value]
  by_cases isPercent : byteAt s.buf s.p = percent
  · rw [if_pos isPercent, bind_value, read_value]
    by_cases more : byteAt s.buf (s.p + 1) ≠ 0
    · rw [if_pos more, bind_value, read_value, pure_value]
      exact decide_eq_decide.2 ⟨fun last => ⟨isPercent, more, last⟩, fun all => all.2.2⟩
    · rw [if_neg more, pure_value]
      exact (decide_eq_false fun all => more all.2.1).symm
  · rw [if_neg isPercent, pure_value]
    exact (decide_eq_false fun all => isPercent all.1).symm

theorem decodeByte_escape {s : Cursors} (escape : (escapeAhead s).value = true) :
    (decodeByte s).value =
      ⟨s.buf.set s.q ((digitOf (byteAt s.buf (s.p + 1)) <<< 4) + digitOf (byteAt s.buf (s.p + 2))),
        s.p + 3, s.q + 1⟩ := by
  simp [decodeByte, escape]

theorem decodeByte_single {s : Cursors} (single : (escapeAhead s).value = false) :
    (decodeByte s).value = ⟨s.buf.set s.q (unplus (byteAt s.buf s.p)), s.p + 1, s.q + 1⟩ := by
  simp [decodeByte, single]

theorem decodeByte_advances (s : Cursors) :
    s.p < (decodeByte s).value.p ∧ (decodeByte s).value.buf.length = s.buf.length := by
  cases escape : (escapeAhead s).value with
  | true => simp [decodeByte_escape escape]
  | false => simp [decodeByte_single escape]

theorem lt_length_of_byteAt_ne {buf : List Byte} {i : Nat} (nonzero : byteAt buf i ≠ 0) :
    i < buf.length := by
  by_contra beyond
  rw [byteAt, List.getD_eq_getElem?_getD, List.getElem?_eq_none (not_lt.mp beyond)] at nonzero
  exact nonzero rfl

/-- The loop of `preprocess_string`, from any cursors. -/
def decodeLoop (s : Cursors) : Traced Cursors :=
  if _more : byteAt s.buf s.p ≠ 0 then
    ⟨(decodeLoop (decodeByte s).value).value,
      .read s.p :: (decodeByte s).accesses ++ (decodeLoop (decodeByte s).value).accesses⟩
  else ⟨s, [.read s.p]⟩
  termination_by s.buf.length - s.p
  decreasing_by
    have inside := lt_length_of_byteAt_ne _more
    have advances := decodeByte_advances s
    omega

/-- `preprocess_string` (`cmd_router.c:67-97`) on its buffer. -/
def preprocessInPlace (str : List Byte) : Traced (List Byte) := do
  let s ← decodeLoop ⟨str, 0, 0⟩
  write s.buf s.q 0

/-- The cursors at the head of the loop, as often as it is reached. -/
inductive AtHead (str : List Byte) : Cursors → Prop
  | start : AtHead str ⟨str, 0, 0⟩
  | next {s : Cursors} : AtHead str s → byteAt s.buf s.p ≠ 0 → AtHead str (decodeByte s).value

/-! ## One byte -/

/-- The bytes in front of the read cursor's NUL. -/
structure Ahead (s : Cursors) (ahead rest : List Byte) : Prop where
  suffix : s.buf.drop s.p = ahead ++ 0 :: rest
  noNul : 0 ∉ ahead
  behind : s.q ≤ s.p

theorem Ahead.byteAt {s : Cursors} {ahead rest : List Byte} (state : Ahead s ahead rest) (k : Nat) :
    byteAt s.buf (s.p + k) = byteAt (ahead ++ 0 :: rest) k := by
  rw [← state.suffix, byteAt_drop]

theorem decode_cons_single {c : Byte} {rest : List Byte}
    (single : c = percent → rest.length < 2) : decode (c :: rest) = unplus c :: decode rest := by
  by_cases isPercent : c = percent
  · have short := single isPercent
    rcases rest with _ | ⟨high, _ | ⟨low, rest⟩⟩
    · rfl
    · rfl
    · simp only [List.length_cons] at short
      omega
  · exact decode_cons_of_ne isPercent rest

/-- What one pass does in front of a byte that is not the NUL: `n` bytes ahead become the byte
    `b`. -/
structure Decodes (s : Cursors) (ahead : List Byte) (n : Nat) (b : Byte) : Prop where
  value : (decodeByte s).value = ⟨s.buf.set s.q b, s.p + n, s.q + 1⟩
  positive : 0 < n
  inside : n ≤ ahead.length
  decoded : decode ahead = b :: decode (ahead.drop n)
  within : Within (s.p + ahead.length + 1) (s.p + ahead.length) (decodeByte s)

/-- The look ahead reads on only behind a byte that is not the NUL, which is at `n`. -/
theorem escapeAhead_within {s : Cursors} {n : Nat} (here : s.p < n)
    (next : byteAt s.buf (s.p + 1) ≠ 0 → s.p + 1 < n) (w : Nat) :
    Within (n + 1) w (escapeAhead s) := by
  refine .bind (.read (by omega)) ?_
  split
  · refine .bind (.read (by omega)) ?_
    rw [read_value]
    split
    · next more => exact .bind (.read (by have := next more; omega)) (.pure _)
    · exact .pure _
  · exact .pure _

theorem decodeByte_within {s : Cursors} {n : Nat} (here : s.p < n)
    (next : byteAt s.buf (s.p + 1) ≠ 0 → s.p + 1 < n)
    (escape : (escapeAhead s).value = true → s.p + 2 < n) (behind : s.q ≤ s.p) :
    Within (n + 1) n (decodeByte s) := by
  refine .bind (escapeAhead_within here next n) ?_
  split
  · next escaped =>
    have inside := escape escaped
    exact .bind (.read (by omega)) (.bind (.read (by omega)) (.bind (.write (by omega)) (.pure _)))
  · exact .bind (.read (by omega)) (.bind (.write (by omega)) (.pure _))

section

variable {s : Cursors} {c : Byte} {ahead rest : List Byte}

theorem Ahead.next_inside (state : Ahead s (c :: ahead) rest)
    (second : Bytes.byteAt s.buf (s.p + 1) ≠ 0) : s.p + 1 < s.p + (c :: ahead).length := by
  rcases ahead with _ | ⟨high, ahead⟩
  · exact absurd (state.byteAt 1) second
  · simp

/-- An escape ahead is decoded, and takes three bytes. -/
theorem Ahead.escape_decodes (state : Ahead s (c :: ahead) rest)
    (escape : (escapeAhead s).value = true) : ∃ b, Decodes s (c :: ahead) 3 b := by
  have look := state.byteAt
  have first : Bytes.byteAt s.buf s.p = c := look 0
  obtain ⟨isPercent, second, third⟩ : Bytes.byteAt s.buf s.p = percent ∧
      Bytes.byteAt s.buf (s.p + 1) ≠ 0 ∧ Bytes.byteAt s.buf (s.p + 2) ≠ 0 := by
    rwa [escapeAhead_value, decide_eq_true_eq] at escape
  have next := state.next_inside
  rcases ahead with _ | ⟨high, _ | ⟨low, ahead⟩⟩
  · exact absurd (look 1) second
  · exact absurd (look 2) third
  have isHigh : Bytes.byteAt s.buf (s.p + 1) = high := look 1
  have isLow : Bytes.byteAt s.buf (s.p + 2) = low := look 2
  refine ⟨(digitOf high <<< 4) + digitOf low, ?_, by omega, by simp, ?_, ?_⟩
  · rw [decodeByte_escape escape, isHigh, isLow]
  · rw [← first, isPercent, decode_escape]
    rfl
  · exact decodeByte_within (by simp) next (fun _ => by simp) state.behind

/-- A percent sign that begins no escape has less than two bytes behind it. -/
theorem Ahead.lone_percent (state : Ahead s (c :: ahead) rest)
    (single : (escapeAhead s).value = false) (isPercent : c = percent) : ahead.length < 2 := by
  have look := state.byteAt
  by_contra long
  rcases ahead with _ | ⟨high, _ | ⟨low, ahead⟩⟩
  · simp at long
  · simp at long
  have nonzero : high ≠ 0 ∧ low ≠ 0 := by
    have noNul := state.noNul
    simp only [List.mem_cons, not_or] at noNul
    exact ⟨Ne.symm noNul.2.1, Ne.symm noNul.2.2.1⟩
  rw [escapeAhead_value, decide_eq_false_iff_not] at single
  exact single ⟨(look 0).trans isPercent, (look 1).symm ▸ nonzero.1, (look 2).symm ▸ nonzero.2⟩

theorem Ahead.single_decodes (state : Ahead s (c :: ahead) rest)
    (single : (escapeAhead s).value = false) : Decodes s (c :: ahead) 1 (unplus c) := by
  have first : Bytes.byteAt s.buf s.p = c := state.byteAt 0
  refine ⟨?_, by omega, by simp, ?_, ?_⟩
  · rw [decodeByte_single single, first]
  · exact decode_cons_single (state.lone_percent single)
  · refine decodeByte_within (by simp) state.next_inside (fun escaped => ?_) state.behind
    rw [single] at escaped
    exact Bool.noConfusion escaped

end

theorem decodeByte_decodes {s : Cursors} {ahead rest : List Byte} (state : Ahead s ahead rest)
    (more : byteAt s.buf s.p ≠ 0) : ∃ n b, Decodes s ahead n b := by
  rcases ahead with _ | ⟨c, ahead⟩
  · exact absurd (state.byteAt 0) more
  cases escape : (escapeAhead s).value with
  | true => exact ⟨3, state.escape_decodes escape⟩
  | false => exact ⟨1, unplus c, state.single_decodes escape⟩

/-- Nothing in front of the read cursor is looked at again. -/
theorem Ahead.next {s : Cursors} {ahead rest : List Byte} (state : Ahead s ahead rest) {n : Nat}
    {b : Byte} (step : Decodes s ahead n b) :
    Ahead (decodeByte s).value (ahead.drop n) rest := by
  have behind := state.behind
  have positive := step.positive
  rw [step.value]
  refine ⟨?_, fun member => state.noNul (List.mem_of_mem_drop member), ?_⟩
  · show (s.buf.set s.q b).drop (s.p + n) = _
    rw [List.drop_set_of_lt (by omega), ← List.drop_drop, state.suffix,
      List.drop_append_of_le_length step.inside]
  · show s.q + 1 ≤ s.p + n
    omega

/-! ## The loop -/

/-- What the loop leaves when the bytes of `ahead` are in front of the NUL. -/
structure Decoded (s : Cursors) (ahead : List Byte) (t : Traced Cursors) : Prop where
  value : t.value = ⟨writeAt s.buf s.q (decode ahead), s.p + ahead.length,
    s.q + (decode ahead).length⟩
  within : Within (s.p + ahead.length + 1) (s.p + ahead.length) t

theorem decodeLoop_more {s : Cursors} (more : byteAt s.buf s.p ≠ 0) :
    decodeLoop s = (do
      let _ ← read s.buf s.p
      let s ← decodeByte s
      decodeLoop s) := by
  rw [decodeLoop, dif_pos more]
  rfl

theorem decodeLoop_ends {s : Cursors} (ends : byteAt s.buf s.p = 0) :
    decodeLoop s = (do
      let _ ← read s.buf s.p
      return s) := by
  rw [decodeLoop, dif_neg (by simpa using ends)]
  rfl

theorem decodeLoop_decoded {s : Cursors} {ahead rest : List Byte} (state : Ahead s ahead rest) :
    Decoded s ahead (decodeLoop s) := by
  induction s using decodeLoop.induct generalizing ahead with
  | case1 s more ih =>
    obtain ⟨n, b, step⟩ := decodeByte_decodes state more
    have tail := ih (state.next step)
    have inside := step.inside
    have ends : s.p + n + (ahead.drop n).length = s.p + ahead.length := by
      rw [List.length_drop]
      omega
    have rest := tail.within
    rw [step.value, ends, ← step.value] at rest
    rw [decodeLoop_more more]
    refine ⟨?_, .bind (.read (by omega)) (.bind step.within rest)⟩
    show (decodeLoop (decodeByte s).value).value = _
    rw [tail.value, step.value, step.decoded, ends, List.length_cons]
    exact congrArg (Cursors.mk _ _) (Nat.add_right_comm s.q 1 _)
  | case2 s ends =>
    have zero : byteAt s.buf s.p = 0 := by simpa using ends
    rcases ahead with _ | ⟨c, ahead⟩
    · rw [decodeLoop_ends zero]
      exact ⟨rfl, .bind (.read (by simp)) (.pure _)⟩
    · have first : byteAt s.buf s.p = c := state.byteAt 0
      have member : 0 ∈ c :: ahead := by simp [← zero, first]
      exact absurd member state.noNul

/-! ## The string -/

theorem ahead_start (str : CString) (rest : List Byte) :
    Ahead ⟨str.bytes ++ 0 :: rest, 0, 0⟩ str.bytes rest :=
  ⟨rfl, str.noNul, Nat.le_refl 0⟩

/-- What is left in the buffer: the decoded bytes and a NUL over the front of it. -/
theorem preprocessInPlace_value (str : CString) (rest : List Byte) :
    (preprocessInPlace (str.bytes ++ 0 :: rest)).value
      = decode str.bytes ++ 0 :: (str.bytes ++ 0 :: rest).drop ((decode str.bytes).length + 1) := by
  have loop := decodeLoop_decoded (ahead_start str rest)
  have shorter := decode_length_le str.bytes
  simp only [preprocessInPlace, bind_value, write_value, loop.value]
  have last : (writeAt (str.bytes ++ 0 :: rest) 0 (decode str.bytes)).set
      (0 + (decode str.bytes).length) 0
        = writeAt (str.bytes ++ 0 :: rest) 0 (decode str.bytes ++ [0]) := by
    rw [← writeAt_writeAt]
    rfl
  rw [last, writeAt_eq _ _ _ (by simp; omega)]
  simp

theorem takeWhile_append_nul (front rest : List Byte) :
    (front ++ 0 :: rest).takeWhile (· != 0) = front.takeWhile (· != 0) := by
  induction front with
  | nil => rfl
  | cons b front ih =>
    rw [List.cons_append, List.takeWhile_cons, List.takeWhile_cons, ih]

/-- The buffer holds the string that `preprocessString` makes of its string. -/
theorem preprocessInPlace_eq (str : CString) (rest : List Byte) :
    CString.ofBuffer (preprocessInPlace (str.bytes ++ 0 :: rest)).value = preprocessString str := by
  apply CString.ext
  rw [preprocessInPlace_value, preprocessString]
  exact takeWhile_append_nul _ _

theorem preprocessInPlace_within (str : CString) (rest : List Byte) :
    Within (str.length + 1) (str.length + 1) (preprocessInPlace (str.bytes ++ 0 :: rest)) := by
  have loop := decodeLoop_decoded (ahead_start str rest)
  have shorter := decode_length_le str.bytes
  have body := loop.within
  rw [Nat.zero_add] at body
  refine .bind ⟨body.reads, fun i member => Nat.lt_succ_of_lt (body.writes i member)⟩ ?_
  rw [loop.value]
  refine .write ?_
  show 0 + (decode str.bytes).length < str.bytes.length + 1
  omega

theorem atHead_ahead {str : CString} {rest : List Byte} {s : Cursors}
    (head : AtHead (str.bytes ++ 0 :: rest) s) : ∃ ahead, Ahead s ahead rest := by
  induction head with
  | start => exact ⟨_, ahead_start str rest⟩
  | next _ more ih =>
    obtain ⟨ahead, state⟩ := ih
    obtain ⟨n, b, step⟩ := decodeByte_decodes state more
    exact ⟨_, state.next step⟩

/-- The decoder undoes every encoding in place. On every string it reads nothing behind the NUL
    and writes nothing there, its write cursor never passes its read cursor, and the result is
    no longer than the string. -/
theorem preprocessString_inPlace :
    (∀ (value : CString) (encoded rest : List Byte), Encodes value.bytes encoded →
      (preprocessInPlace (encoded ++ 0 :: rest)).value.take (value.length + 1)
        = value.bytes ++ [0]) ∧
      ∀ (str : CString) (rest : List Byte),
        Within (str.length + 1) (str.length + 1) (preprocessInPlace (str.bytes ++ 0 :: rest)) ∧
          (∀ s, AtHead (str.bytes ++ 0 :: rest) s → s.q ≤ s.p) ∧
          (CString.ofBuffer (preprocessInPlace (str.bytes ++ 0 :: rest)).value).length
            ≤ str.length := by
  refine ⟨fun value encoded rest sent => ?_, fun str rest => ⟨?_, fun s head => ?_, ?_⟩⟩
  · have decoded := decode_append sent []
    rw [List.append_nil, decode, List.append_nil] at decoded
    have left := preprocessInPlace_value ⟨encoded, sent.noNul value.noNul⟩ rest
    rw [decoded] at left
    rw [left, CString.length, List.take_length_add_append]
    rfl
  · exact preprocessInPlace_within str rest
  · obtain ⟨ahead, state⟩ := atHead_ahead head
    exact state.behind
  · rw [preprocessInPlace_eq, preprocessString]
    exact (CString.ofBuffer_length_le _).trans (decode_length_le _)

end SolarConnect.Config
