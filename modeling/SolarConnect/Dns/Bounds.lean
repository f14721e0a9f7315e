import SolarConnect.Dns.TaskBuffers
import SolarConnect.Misc.Accesses

/-!
# Bounds of the DNS packet code

The packet code once more, by offsets and with every index it reads from the packet and writes
to its output. Each access is behind a check of its own: a length byte behind the loop's, a
label behind that of its length, the trailer of the question behind that of its four bytes.
-/

namespace SolarConnect.Dns.Indexed

open Bytes Accesses LwipHooks

/-- `dns_skip_name` (`dns_server.c:176-198`). -/
def dnsSkipName (packet : List Byte) (packetLen offset : Nat) : Traced Nat :=
  if _more : offset < packetLen then do
    let len ← read packet offset
    if len = 0 then return offset + 1
    else if len &&& 0xC0 = 0xC0 then
      if offset + 1 < packetLen then return offset + 2 else return 0
    else if packetLen < offset + 1 + len.toNat then return 0
    else dnsSkipName packet packetLen (offset + 1 + len.toNat)
  else return 0
  termination_by packetLen - offset
  decreasing_by omega

/-- `dns_is_a_record_query` (`dns_server.c:200-213`). -/
def dnsIsARecordQuery (packet : List Byte) (packetLen : Nat) : Traced Bool := do
  let questionEnd ← dnsSkipName packet packetLen headerSize
  if questionEnd = 0 ∨ packetLen < questionEnd + 4 then return false
  else
    let qtype ← readMany packet questionEnd 2
    let qclass ← readMany packet (questionEnd + 2) 2
    return readBe16 qtype 0 == 1 && readBe16 qclass 0 == 1

/-- `name_out`, an array of `name_out_len` bytes, and `name_pos`. -/
structure NameOut where
  name : List Byte
  pos : Nat

/-- The `.` in front of a label that is not the first, if there is room. -/
def separate (s : NameOut) : Traced NameOut :=
  if 0 < s.pos ∧ s.pos < s.name.length - 1 then do
    let name ← write s.name s.pos 0x2E
    return ⟨name, s.pos + 1⟩
  else return s

/-- The loop that copies a label of `labelLen` bytes at `offset`, from its byte `i` on. -/
def copyLabel (packet : List Byte) (offset labelLen i : Nat) (s : NameOut) : Traced NameOut :=
  if _more : i < labelLen ∧ s.pos < s.name.length - 1 then do
    let c ← read packet (offset + i)
    let name ← write s.name s.pos c
    copyLabel packet offset labelLen (i + 1) ⟨name, s.pos + 1⟩
  else return s
  termination_by labelLen - i
  decreasing_by omega

/-- One label of `dns_get_question_info`. -/
def appendLabel (packet : List Byte) (offset labelLen : Nat) (s : NameOut) : Traced NameOut := do
  let s ← separate s
  let s ← copyLabel packet offset labelLen 0 s
  let name ← write s.name s.pos 0
  return ⟨name, s.pos⟩

/-- The label loop of `dns_get_question_info`: `offset` behind it, `none` when it returns. -/
def labelLoop (packet : List Byte) (packetLen offset : Nat) (s : NameOut) :
    Traced (Option Nat × NameOut) :=
  if _more : offset < packetLen then do
    let labelLen ← read packet offset
    if labelLen = 0 then return (some (offset + 1), s)
    else if labelLen &&& 0xC0 ≠ 0 ∨ packetLen < offset + 1 + labelLen.toNat then return (none, s)
    else
      let s ← appendLabel packet (offset + 1) labelLen.toNat s
      labelLoop packet packetLen (offset + 1 + labelLen.toNat) s
  else return (some offset, s)
  termination_by packetLen - offset
  decreasing_by omega

/-- `dns_get_question_info` (`dns_server.c:215-262`): its result, the array `name_out`, and
    `*qtype_out`. -/
def dnsGetQuestionInfo (packet : List Byte) (packetLen : Nat) (nameOut : List Byte)
    (qtypeOut : Nat) : Traced QuestionInfo :=
  if packetLen < 16 ∨ nameOut.length = 0 then return ⟨false, nameOut, qtypeOut⟩
  else do
    let name ← write nameOut 0 0
    let walked ← labelLoop packet packetLen headerSize ⟨name, 0⟩
    match walked.1 with
    | none => return ⟨false, walked.2.name, qtypeOut⟩
    | some questionEnd =>
      if questionEnd = 0 ∨ packetLen < questionEnd + 4 then
        return ⟨false, walked.2.name, qtypeOut⟩
      else
        let qtype ← readMany packet questionEnd 2
        return ⟨true, walked.2.name, readBe16 qtype 0⟩

/-- `build_dns_response` (`dns_server.c:264-311`) into an array of `response_size` bytes; `none`
    is the result -1. -/
def buildDnsResponse (myApIp : IpAddr) (query : List Byte) (queryLen : Nat) (response : List Byte)
    (answerWithPortalIp : Bool) : Traced (Option Nat × List Byte) :=
  if queryLen < 12 ∨ response.length < queryLen ∨ response.length < 32 then
    return (none, response)
  else do
    let questionEnd ← dnsSkipName query queryLen headerSize
    if questionEnd = 0 ∨ queryLen < questionEnd + 4 then return (none, response)
    else
      let copied ← readMany query 0 (questionEnd + 4)
      let response ← writeMany response 0 copied
      let response ← writeMany response 2 [0x81, 0x80]
      let response ← writeMany response 6
        [0x00, if answerWithPortalIp then 0x01 else 0x00, 0x00, 0x00, 0x00, 0x00]
      if answerWithPortalIp = false then return (some (questionEnd + 4), response)
      else if response.length < questionEnd + 20 then return (none, response)
      else
        let response ← writeMany response (questionEnd + 4)
          [0xC0, 0x0C, 0x00, 0x01, 0x00, 0x01, 0x00, 0x00, 0x00, dnsTtlSeconds, 0x00, 0x04]
        let response ← writeMany response (questionEnd + 16) (addrBytes myApIp)
        return (some (questionEnd + 20), response)

/-! ## Skipping a name -/

theorem dnsSkipName_value (packet : List Byte) (packetLen offset : Nat) :
    (dnsSkipName packet packetLen offset).value = Task.dnsSkipName packet packetLen offset := by
  fun_induction Task.dnsSkipName packet packetLen offset with
  | case1 offset more len zero =>
    rw [dnsSkipName, dif_pos more, bind_value, read_value, if_pos zero]
    rfl
  | case2 offset more len nonzero pointer behind =>
    rw [dnsSkipName, dif_pos more, bind_value, read_value, if_neg nonzero, if_pos pointer,
      if_pos behind]
    rfl
  | case3 offset more len nonzero pointer last =>
    rw [dnsSkipName, dif_pos more, bind_value, read_value, if_neg nonzero, if_pos pointer,
      if_neg last]
    rfl
  | case4 offset more len nonzero label long =>
    rw [dnsSkipName, dif_pos more, bind_value, read_value, if_neg nonzero, if_neg label,
      if_pos long]
    rfl
  | case5 offset more len nonzero label fits ih =>
    rw [dnsSkipName, dif_pos more, bind_value, read_value, if_neg nonzero, if_neg label,
      if_neg fits, ih]
  | case6 offset beyond =>
    rw [dnsSkipName, dif_neg beyond]
    rfl

theorem dnsSkipName_within (packet : List Byte) (packetLen offset w : Nat) :
    Within packetLen w (dnsSkipName packet packetLen offset) := by
  induction offset using dnsSkipName.induct packetLen with
  | case1 offset more ih =>
    rw [dnsSkipName, dif_pos more]
    refine .bind (.read more) ?_
    split
    · exact .pure _
    split
    · split <;> exact .pure _
    split
    · exact .pure _
    · next fits => exact ih _ fits
  | case2 offset beyond =>
    rw [dnsSkipName, dif_neg beyond]
    exact .pure _

/-- A name that is skipped ends behind its start, and in the packet. -/
theorem dnsSkipName_bounds {packet : List Byte} {packetLen offset : Nat}
    (skipped : Task.dnsSkipName packet packetLen offset ≠ 0) :
    offset < Task.dnsSkipName packet packetLen offset ∧
      Task.dnsSkipName packet packetLen offset ≤ packetLen := by
  fun_induction Task.dnsSkipName packet packetLen offset with
  | case1 offset more len zero => omega
  | case2 offset more len nonzero pointer behind => omega
  | case3 offset more len nonzero pointer last => exact absurd rfl skipped
  | case4 offset more len nonzero label long => exact absurd rfl skipped
  | case5 offset more len nonzero label fits ih =>
    obtain ⟨further, within⟩ := ih skipped
    exact ⟨by omega, within⟩
  | case6 offset beyond => exact absurd rfl skipped

theorem dnsIsARecordQuery_within (packet : List Byte) (packetLen w : Nat) :
    Within packetLen w (dnsIsARecordQuery packet packetLen) := by
  refine .bind (dnsSkipName_within packet packetLen headerSize w) ?_
  split
  · exact .pure _
  · exact .bind (.readMany (by omega)) (.bind (.readMany (by omega)) (.pure _))

theorem readBe16_copied (buf : List Byte) (i : Nat) :
    readBe16 ((buf.drop i).take 2) 0 = readBe16 buf i := by
  rw [readBe16, readBe16, byteAt_take _ (by omega), byteAt_take _ (by omega), byteAt_drop,
    byteAt_drop]
  rfl

/-- The trace aside, it is the function of the task. -/
theorem dnsIsARecordQuery_value (packet : List Byte) (packetLen : Nat) :
    (dnsIsARecordQuery packet packetLen).value = Task.dnsIsARecordQuery packet packetLen := by
  simp only [dnsIsARecordQuery, Task.dnsIsARecordQuery, bind_value, dnsSkipName_value]
  split
  · rfl
  · simp only [bind_value, pure_value, readMany_value, readBe16_copied]

/-! ## The name -/

/-- The array of `size` bytes holds `text` up to `name_pos`, which leaves room for a NUL. -/
structure HoldsName (size : Nat) (text : List Byte) (s : NameOut) : Prop where
  length : s.name.length = size
  pos : s.pos = text.length
  room : text.length < size
  front : s.name.take s.pos = text

/-- The bytes of a label. -/
def labelAt (packet : List Byte) (offset labelLen : Nat) : List Byte :=
  (List.range labelLen).map fun i => byteAt packet (offset + i)

theorem HoldsName.push {size : Nat} {text : List Byte} {s : NameOut} (state : HoldsName size text s)
    (more : text.length < size - 1) (b : Byte) :
    HoldsName size (text ++ [b]) ⟨s.name.set s.pos b, s.pos + 1⟩ := by
  have fits : s.pos + [b].length ≤ s.name.length := by
    rw [state.length, state.pos, List.length_singleton]
    omega
  refine ⟨?_, ?_, ?_, ?_⟩
  · rw [List.length_set, state.length]
  · rw [List.length_append, List.length_singleton, state.pos]
  · rw [List.length_append, List.length_singleton]
    omega
  · have written := take_writeAt_end s.name s.pos [b] fits
    rwa [state.front] at written

theorem HoldsName.terminate {size : Nat} {text : List Byte} {s : NameOut}
    (state : HoldsName size text s) :
    HoldsName size text ⟨s.name.set s.pos 0, s.pos⟩ ∧ byteAt (s.name.set s.pos 0) s.pos = 0 := by
  refine ⟨⟨by rw [List.length_set, state.length], state.pos, state.room, ?_⟩, ?_⟩
  · rw [List.take_set_of_le (le_refl _), state.front]
  · have inside : s.pos < s.name.length := by
      rw [state.length, state.pos]
      exact state.room
    simp [byteAt, inside]

theorem separate_holds {size : Nat} {text : List Byte} {s : NameOut}
    (state : HoldsName size text s) (r : Nat) :
    HoldsName size (if 0 < text.length ∧ text.length < size - 1 then text ++ [0x2E] else text)
        (separate s).value ∧ Within r size (separate s) := by
  have pos := state.pos
  have length := state.length
  rw [separate, pos, length]
  split
  · next more =>
    have pushed := state.push more.2 0x2E
    rw [pos] at pushed
    exact ⟨pushed, .bind (.write (by omega)) (.pure _)⟩
  · exact ⟨state, .pure _⟩

theorem copyLabel_holds (packet : List Byte) {packetLen offset labelLen size : Nat}
    (inside : offset + labelLen ≤ packetLen) (i : Nat) {text : List Byte} {s : NameOut}
    (state : HoldsName size text s) :
    HoldsName size (text ++ ((labelAt packet offset labelLen).drop i).take (size - 1 - text.length))
        (copyLabel packet offset labelLen i s).value ∧
      Within packetLen size (copyLabel packet offset labelLen i s) := by
  induction i, s using copyLabel.induct labelLen generalizing text with
  | case1 i s more ih =>
    have below : text.length < size - 1 := by
      rw [← state.pos, ← state.length]
      exact more.2
    have next := ih _ (state.push below (byteAt packet (offset + i)))
    have first : (labelAt packet offset labelLen).drop i
        = byteAt packet (offset + i) :: (labelAt packet offset labelLen).drop (i + 1) := by
      rw [List.drop_eq_getElem_cons (by simpa [labelAt] using more.1)]
      simp [labelAt]
    have taken : ((labelAt packet offset labelLen).drop i).take (size - 1 - text.length)
        = byteAt packet (offset + i) :: ((labelAt packet offset labelLen).drop (i + 1)).take
            (size - 1 - (text ++ [byteAt packet (offset + i)]).length) := by
      rw [first, List.length_append, List.length_singleton,
        show size - 1 - text.length = size - 1 - (text.length + 1) + 1 by omega,
        List.take_succ_cons]
    have room := state.room
    have pos := state.pos
    rw [copyLabel, dif_pos more, taken, List.append_cons]
    simp only [bind_value, read_value, write_value]
    refine ⟨next.1, .bind (.read (by omega)) (.bind (.write (by omega)) ?_)⟩
    simpa using next.2
  | case2 i s done =>
    have nothing :
        ((labelAt packet offset labelLen).drop i).take (size - 1 - text.length) = [] := by
      rw [← state.pos, ← state.length]
      rcases not_and_or.mp done with all | full
      · rw [List.drop_eq_nil_of_le (by simp [labelAt]; omega), List.take_nil]
      · rw [show s.name.length - 1 - s.pos = 0 by omega, List.take_zero]
    rw [copyLabel, dif_neg done, nothing, List.append_nil]
    exact ⟨state, .pure _⟩

/-- A label goes into the array as `Dns.appendLabel` puts it behind the text. -/
theorem appendLabel_holds (packet : List Byte) {packetLen offset labelLen size : Nat}
    (inside : offset + labelLen ≤ packetLen) {text : List Byte} {s : NameOut}
    (state : HoldsName size text s) :
    HoldsName size (Dns.appendLabel (size - 1) text (labelAt packet offset labelLen))
        (appendLabel packet offset labelLen s).value ∧
      byteAt (appendLabel packet offset labelLen s).value.name
        (appendLabel packet offset labelLen s).value.pos = 0 ∧
      Within packetLen size (appendLabel packet offset labelLen s) := by
  obtain ⟨separated, first⟩ := separate_holds state packetLen
  obtain ⟨copied, second⟩ := copyLabel_holds packet inside 0 separated
  obtain ⟨ended, terminated⟩ := copied.terminate
  have room := copied.room
  rw [← copied.pos] at room
  refine ⟨?_, ?_, .bind first (.bind second (.bind (.write room) (.pure _)))⟩
  · rw [List.drop_zero] at ended
    simp only [appendLabel, bind_value, write_value, pure_value]
    exact ended
  · simpa only [appendLabel, bind_value, write_value, pure_value] using terminated

/-! ## The label loop -/

/-- The array always holds a string. -/
structure HoldsString (size : Nat) (s : NameOut) : Prop where
  length : s.name.length = size
  room : s.pos < size
  terminated : byteAt s.name s.pos = 0

theorem HoldsString.name {size : Nat} {s : NameOut} (state : HoldsString size s) :
    HoldsName size (s.name.take s.pos) s := by
  have short : (s.name.take s.pos).length = s.pos := by
    rw [List.length_take, state.length]
    exact Nat.min_eq_left state.room.le
  refine ⟨state.length, short.symm, ?_, rfl⟩
  rw [short]
  exact state.room

theorem appendLabel_string (packet : List Byte) {packetLen offset labelLen size : Nat}
    (inside : offset + labelLen ≤ packetLen) {s : NameOut} (state : HoldsString size s) :
    HoldsString size (appendLabel packet offset labelLen s).value ∧
      Within packetLen size (appendLabel packet offset labelLen s) := by
  obtain ⟨holds, terminated, within⟩ := appendLabel_holds packet inside state.name
  have room := holds.room
  rw [← holds.pos] at room
  exact ⟨⟨holds.length, room, terminated⟩, within⟩

theorem labelLoop_string (packet : List Byte) (packetLen : Nat) {size : Nat} (offset : Nat)
    {s : NameOut} (state : HoldsString size s) :
    HoldsString size (labelLoop packet packetLen offset s).value.2 ∧
      Within packetLen size (labelLoop packet packetLen offset s) := by
  induction offset, s using labelLoop.induct packetLen with
  | case1 offset s more ih =>
    rw [labelLoop, dif_pos more]
    refine Within.read_bind (p := fun r : Option Nat × NameOut => HoldsString size r.2) more ?_
    split
    · exact ⟨state, .pure _⟩
    split
    · exact ⟨state, .pure _⟩
    · next plain =>
      have inside : offset + 1 + (byteAt packet offset).toNat ≤ packetLen :=
        not_lt.mp (not_or.mp plain).2
      obtain ⟨longer, within⟩ := appendLabel_string packet inside state
      obtain ⟨ends, rest⟩ := ih _ plain _ longer
      exact ⟨ends, .bind within rest⟩
  | case2 offset s beyond =>
    rw [labelLoop, dif_neg beyond]
    exact ⟨state, .pure _⟩

/-- Once its first byte is written, `name_out` is a string on every return. -/
theorem dnsGetQuestionInfo_string (packet : List Byte) {packetLen : Nat} {nameOut : List Byte}
    (enough : ¬ (packetLen < 16 ∨ nameOut.length = 0)) (qtypeOut : Nat) :
    (∃ i < nameOut.length,
        byteAt (dnsGetQuestionInfo packet packetLen nameOut qtypeOut).value.name i = 0) ∧
      Within packetLen nameOut.length (dnsGetQuestionInfo packet packetLen nameOut qtypeOut) := by
  have positive : 0 < nameOut.length := by omega
  have start : HoldsString nameOut.length ⟨nameOut.set 0 0, 0⟩ :=
    ⟨List.length_set, positive, by simp [byteAt, positive]⟩
  obtain ⟨walked, within⟩ := labelLoop_string packet packetLen headerSize start
  rw [dnsGetQuestionInfo, if_neg enough]
  refine ⟨⟨_, walked.room, ?_⟩, .bind (.write positive) (.bind within ?_)⟩
  · simp only [bind_value, write_value]
    split
    · exact walked.terminated
    · split <;> exact walked.terminated
  · split
    · exact .pure _
    · split
      · exact .pure _
      · exact .bind (.readMany (by omega)) (.pure _)

theorem dnsGetQuestionInfo_within (packet : List Byte) (packetLen : Nat) (nameOut : List Byte)
    (qtypeOut : Nat) :
    Within packetLen nameOut.length (dnsGetQuestionInfo packet packetLen nameOut qtypeOut) := by
  by_cases enough : packetLen < 16 ∨ nameOut.length = 0
  · rw [dnsGetQuestionInfo, if_pos enough]
    exact .pure _
  · exact (dnsGetQuestionInfo_string packet enough qtypeOut).2

theorem dnsGetQuestionInfo_terminated (packet : List Byte) (packetLen : Nat) (nameOut : List Byte)
    (qtypeOut : Nat)
    (written : ∃ i, .write i ∈ (dnsGetQuestionInfo packet packetLen nameOut qtypeOut).accesses) :
    ∃ i < nameOut.length,
      byteAt (dnsGetQuestionInfo packet packetLen nameOut qtypeOut).value.name i = 0 := by
  by_cases enough : packetLen < 16 ∨ nameOut.length = 0
  · obtain ⟨i, member⟩ := written
    rw [dnsGetQuestionInfo, if_pos enough] at member
    exact absurd member List.not_mem_nil
  · exact (dnsGetQuestionInfo_string packet enough qtypeOut).1

/-! ## Responses -/

theorem buildDnsResponse_within (myApIp : IpAddr) (query : List Byte) (queryLen : Nat)
    (response : List Byte) (answerWithPortalIp : Bool) :
    Within queryLen response.length
      (buildDnsResponse myApIp query queryLen response answerWithPortalIp) := by
  rw [buildDnsResponse]
  split
  · exact .pure _
  next sizes =>
  refine .bind (dnsSkipName_within query queryLen headerSize _) ?_
  split
  · exact .pure _
  next fits =>
  have copied : ((query.drop 0).take ((dnsSkipName query queryLen headerSize).value + 4)).length
      ≤ queryLen := by
    rw [List.length_take]
    omega
  refine .bind (.readMany (by omega)) (.bind (.writeMany ?_) (.bind (.writeMany ?_)
    (.bind (.writeMany ?_) ?_)))
  · rw [readMany_value]
    omega
  · show 2 + 2 ≤ _
    omega
  · show 6 + 6 ≤ _
    omega
  · by_cases portal : answerWithPortalIp = false
    · rw [if_pos portal]
      exact .pure _
    rw [if_neg portal]
    simp only [writeMany_value, writeAt_length]
    by_cases small : response.length < (dnsSkipName query queryLen headerSize).value + 20
    · rw [if_pos small]
      exact .pure _
    rw [if_neg small]
    refine .bind (.writeMany ?_) (.bind (.writeMany ?_) (.pure _))
    · show (dnsSkipName query queryLen headerSize).value + 4 + 12 ≤ _
      omega
    · show (dnsSkipName query queryLen headerSize).value + 16 + 4 ≤ _
      omega

/-- The trace aside, it is the function of the task on its own arrays. -/
theorem buildDnsResponse_value (myApIp : IpAddr) (query : List Byte) (queryLen : Nat)
    (response : Buffer) (answerWithPortalIp : Bool) :
    (buildDnsResponse myApIp query queryLen response.val answerWithPortalIp).value
      = ((Task.buildDnsResponse myApIp query queryLen response answerWithPortalIp).1,
        (Task.buildDnsResponse myApIp query queryLen response answerWithPortalIp).2.val) := by
  simp only [buildDnsResponse, Task.buildDnsResponse, response.property]
  split
  · rfl
  simp only [bind_value, dnsSkipName_value]
  split
  · rfl
  by_cases portal : answerWithPortalIp = false
  · simp only [if_pos portal, bind_value, readMany_value, writeMany_value, List.drop_zero]
    rfl
  · simp only [if_neg portal, bind_value, readMany_value, writeMany_value, writeAt_length,
      List.drop_zero, response.property]
    by_cases small : dnsBufferSize < Task.dnsSkipName query queryLen headerSize + 20
    · rw [if_pos small, if_pos small]
      rfl
    · rw [if_neg small, if_neg small]
      rfl

/-- DNS parsing and building stay in bounds: whatever the packet says, the four functions read
    only in front of the packet's length and write only in front of the size of their output.
    `name_out` is a string whenever something was written to it, and a name that is skipped ends
    behind its start and within the packet. -/
theorem dns_packet_code_in_bounds (myApIp : IpAddr) (packet : List Byte) (packetLen : Nat)
    (nameOut response : List Byte) (qtypeOut offset : Nat) (answerWithPortalIp : Bool) :
    Within packetLen 0 (dnsSkipName packet packetLen offset) ∧
      Within packetLen 0 (dnsIsARecordQuery packet packetLen) ∧
      Within packetLen nameOut.length (dnsGetQuestionInfo packet packetLen nameOut qtypeOut) ∧
      Within packetLen response.length
        (buildDnsResponse myApIp packet packetLen response answerWithPortalIp) ∧
      ((∃ i, .write i ∈ (dnsGetQuestionInfo packet packetLen nameOut qtypeOut).accesses) →
        ∃ i < nameOut.length,
          byteAt (dnsGetQuestionInfo packet packetLen nameOut qtypeOut).value.name i = 0) ∧
      ((dnsSkipName packet packetLen offset).value ≠ 0 →
        offset < (dnsSkipName packet packetLen offset).value ∧
          (dnsSkipName packet packetLen offset).value ≤ packetLen) := by
  refine ⟨dnsSkipName_within packet packetLen offset 0, dnsIsARecordQuery_within packet packetLen 0,
    dnsGetQuestionInfo_within packet packetLen nameOut qtypeOut,
    buildDnsResponse_within myApIp packet packetLen response answerWithPortalIp,
    dnsGetQuestionInfo_terminated packet packetLen nameOut qtypeOut, fun skipped => ?_⟩
  rw [dnsSkipName_value] at skipped ⊢
  exact dnsSkipName_bounds skipped

end SolarConnect.Dns.Indexed
