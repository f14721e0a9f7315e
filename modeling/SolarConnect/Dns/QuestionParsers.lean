import SolarConnect.Dns.Bounds
import SolarConnect.Dns.LocalAnswers

/-!
# The two question parsers

`dns_get_question_info` and `dns_skip_name` walk the same name with loops of their own. The first
accepts exactly the questions whose name is a sequence of plain labels, and on these both end at
the same place and look at the same type. The name it reports is the labels joined by dots, cut
where the caller's array ends.
-/

namespace SolarConnect.Dns

open Bytes Accesses
open DnsMessage (Spelled encodeName length_byte label_length_iff)

/-- The bytes of a question section: a name of plain labels, and four bytes or more behind it. -/
structure PlainQuestion (bytes : List Byte) (labels : List (List Byte)) (rest : List Byte) :
    Prop where
  spelled : Spelled labels
  bytes : bytes = encodeName labels ++ rest
  trailer : 4 ≤ rest.length

/-! ## Names of plain labels -/

theorem readLabels_encoded {labels : List (List Byte)} (spelled : Spelled labels)
    (rest : List Byte) : readLabels (encodeName labels ++ rest) = some (labels, rest) := by
  induction labels with
  | nil => rw [encodeName, List.singleton_append, readLabels, if_pos rfl]
  | cons label labels ih =>
    obtain ⟨nonempty, short⟩ := spelled label List.mem_cons_self
    obtain ⟨value, nonzero, plain⟩ := length_byte nonempty short
    have fits : ¬ (BitVec.ofNat 8 label.length &&& 0xC0 ≠ 0 ∨
        (label ++ (encodeName labels ++ rest)).length < label.length) := by
      rintro (bits | long)
      · exact bits plain
      · rw [List.length_append] at long
        omega
    rw [encodeName, List.cons_append, List.append_assoc, readLabels, if_neg nonzero, value,
      if_neg fits, List.drop_left, List.take_left,
      ih fun other member => spelled other (List.mem_cons_of_mem _ member)]
    rfl

/-- `readLabels` accepts the names that are written so, and no others. -/
theorem readLabels_eq_some_iff {bytes : List Byte} {labels : List (List Byte)} {rest : List Byte} :
    readLabels bytes = some (labels, rest) ↔
      Spelled labels ∧ bytes = encodeName labels ++ rest := by
  constructor
  · intro parsed
    refine readLabels_induction
      (motive := fun bytes labels rest => Spelled labels ∧ bytes = encodeName labels ++ rest)
      (fun rest => ⟨fun label member => absurd member List.not_mem_nil, rfl⟩) ?_ bytes parsed
    intro len bytes labels rest nonzero plain ih
    obtain ⟨spelled, same⟩ := ih
    rw [not_or, not_not, not_lt] at plain
    have short := (label_length_iff len).mp plain.1
    have positive : len.toNat ≠ 0 := fun zero => nonzero (BitVec.eq_of_toNat_eq zero)
    have size : (bytes.take len.toNat).length = len.toNat := List.length_take_of_le plain.2
    refine ⟨?_, ?_⟩
    · intro label member
      rcases List.mem_cons.mp member with rfl | inTail
      · exact ⟨List.ne_nil_of_length_pos (by omega), by omega⟩
      · exact spelled label inTail
    · rw [encodeName, size, BitVec.ofNat_toNat, BitVec.setWidth_eq, List.cons_append,
        List.append_assoc, ← same, List.take_append_drop]
  · rintro ⟨spelled, rfl⟩
    exact readLabels_encoded spelled rest

/-- The label loop that ends in front of something has seen a terminating label. -/
theorem readLabels_of_questionName {room : Nat} {name bytes rest : List Byte}
    (ends : (questionName room name bytes).2 = some rest) (more : rest ≠ []) :
    ∃ labels, readLabels bytes = some (labels, rest) := by
  fun_induction questionName room name bytes with
  | case1 name => exact absurd (Option.some.inj ends).symm more
  | case2 name left =>
    obtain rfl := Option.some.inj ends
    exact ⟨[], by rw [readLabels, if_pos rfl]⟩
  | case3 name len left nonzero malformed => cases ends
  | case4 name len left nonzero plain ih =>
    obtain ⟨labels, parsed⟩ := ih ends
    refine ⟨left.take len.toNat :: labels, ?_⟩
    rw [readLabels, if_neg nonzero, if_neg plain, parsed]
    rfl

/-! ## The name that is reported -/

/-- A label behind a name, when both are cut to the room. -/
theorem appendLabel_take {room : Nat} {name : List Byte} (started : name ≠ []) (label : List Byte) :
    appendLabel room (name.take room) label = (name ++ [0x2E] ++ label).take room := by
  have positive := List.length_pos_of_ne_nil started
  by_cases fits : name.length < room
  · have cut : (name ++ [0x2E] ++ label).take room
        = (name ++ [0x2E]).take room ++ label.take (room - (name ++ [0x2E]).length) :=
      List.take_append
    have front : (name ++ [0x2E]).take room = name ++ [0x2E] :=
      List.take_of_length_le (by rw [List.length_append, List.length_singleton]; exact fits)
    rw [front] at cut
    rw [List.take_of_length_le fits.le, appendLabel, if_pos ⟨positive, fits⟩, cut]
  · have full : (name.take room).length = room := List.length_take_of_le (not_lt.mp fits)
    rw [appendLabel, if_neg (by omega), full, Nat.sub_self, List.take_zero, List.append_nil,
      List.append_assoc, List.take_append_of_le_length (not_lt.mp fits)]

theorem foldl_appendLabel_take {room : Nat} {name : List Byte} (started : name ≠ [])
    (labels : List (List Byte)) :
    labels.foldl (appendLabel room) (name.take room) = (dotted (name :: labels)).take room := by
  induction labels generalizing name with
  | nil => simp [dotted]
  | cons label labels ih =>
    rw [List.foldl_cons, appendLabel_take started, ← dotted_cons_cons]
    exact ih (by simp)

/-- The labels are joined by dots, and cut to the room. -/
theorem foldl_appendLabel_dotted (room : Nat) {labels : List (List Byte)}
    (spelled : Spelled labels) :
    labels.foldl (appendLabel room) [] = (dotted labels).take room := by
  cases labels with
  | nil => simp [dotted]
  | cons label labels =>
    have first : appendLabel room [] label = label.take room := by simp [appendLabel]
    rw [List.foldl_cons, first]
    exact foldl_appendLabel_take (spelled label List.mem_cons_self).1 labels

/-! ## The label loop -/

namespace Indexed

/-- The bytes of a label within the packet. -/
theorem labelAt_eq {packet : List Byte} {packetLen offset len : Nat}
    (whole : packetLen ≤ packet.length) (inside : offset + len ≤ packetLen) :
    labelAt packet offset len = ((packet.take packetLen).drop offset).take len := by
  apply List.ext_getElem
  · rw [labelAt, List.length_map, List.length_range, List.length_take, List.length_drop,
      List.length_take]
    omega
  · intro i below _
    have short : i < len := by simpa [labelAt] using below
    simp [labelAt, byteAt, show offset + i < packet.length by omega]

/-- The walk by offsets beside `questionName` on the bytes that are left. -/
structure Walks (packet : List Byte) (packetLen size : Nat) (r : Option Nat × NameOut)
    (q : List Byte × Option (List Byte)) : Prop where
  holds : HoldsName size q.1 r.2
  left : q.2 = r.1.map fun e => (packet.take packetLen).drop e
  within : ∀ e ∈ r.1, e ≤ packetLen

theorem labelLoop_walks {packet : List Byte} {packetLen size : Nat}
    (whole : packetLen ≤ packet.length) {offset : Nat} (inside : offset ≤ packetLen)
    {text : List Byte} {s : NameOut} (state : HoldsName size text s) :
    Walks packet packetLen size (labelLoop packet packetLen offset s).value
      (questionName (size - 1) text ((packet.take packetLen).drop offset)) := by
  induction offset, s using labelLoop.induct packetLen generalizing text with
  | case1 offset s more ih =>
    rw [labelLoop, dif_pos more, bind_value, read_value, Task.drop_front whole more, questionName]
    by_cases zero : byteAt packet offset = 0
    · rw [if_pos zero, if_pos zero]
      exact ⟨state, rfl, fun e member => by
        obtain rfl := Option.some.inj member
        omega⟩
    rw [if_neg zero, if_neg zero]
    have sizes : ((packet.take packetLen).drop (offset + 1)).length = packetLen - (offset + 1) := by
      rw [List.length_drop, List.length_take_of_le whole]
    by_cases malformed : byteAt packet offset &&& 0xC0 ≠ 0 ∨
        packetLen < offset + 1 + (byteAt packet offset).toNat
    · rw [if_pos malformed, if_pos (malformed.imp_right fun long => by omega)]
      exact ⟨state, rfl, fun e member => by cases member⟩
    · have fits : offset + 1 + (byteAt packet offset).toNat ≤ packetLen :=
        not_lt.mp (not_or.mp malformed).2
      rw [if_neg malformed, if_neg (fun bad => malformed (bad.imp_right fun long => by omega)),
        bind_value, List.drop_drop, ← labelAt_eq whole fits]
      exact ih _ malformed _ fits (appendLabel_holds packet fits state).1
  | case2 offset s beyond =>
    have none : (packet.take packetLen).drop offset = [] := by
      rw [List.drop_eq_nil_iff, List.length_take_of_le whole]
      omega
    rw [labelLoop, dif_neg beyond, none, questionName]
    refine ⟨state, by simp [none], fun e member => ?_⟩
    obtain rfl := Option.some.inj member
    exact inside

/-! ## Both parsers -/

/-- The outcomes of `dns_get_question_info`, by where its label loop ends. -/
inductive InfoEffect (packet : List Byte) (packetLen : Nat) (nameOut : List Byte) (qtypeOut : Nat) :
    Prop
  | reports (e : Nat) (enough : ¬ (packetLen < 16 ∨ nameOut.length = 0))
    (ends : (labelLoop packet packetLen headerSize ⟨nameOut.set 0 0, 0⟩).value.1 = some e)
    (trailer : e + 4 ≤ packetLen)
    (result : (dnsGetQuestionInfo packet packetLen nameOut qtypeOut).value = ⟨true,
      (labelLoop packet packetLen headerSize ⟨nameOut.set 0 0, 0⟩).value.2.name, readBe16 packet e⟩)
  | rejects (enough : ¬ (packetLen < 16 ∨ nameOut.length = 0))
    (reason : ∀ e ∈ (labelLoop packet packetLen headerSize ⟨nameOut.set 0 0, 0⟩).value.1,
      e ≠ 0 → packetLen < e + 4)
    (result : (dnsGetQuestionInfo packet packetLen nameOut qtypeOut).value = ⟨false,
      (labelLoop packet packetLen headerSize ⟨nameOut.set 0 0, 0⟩).value.2.name, qtypeOut⟩)
  | short (few : packetLen < 16 ∨ nameOut.length = 0)
    (result : (dnsGetQuestionInfo packet packetLen nameOut qtypeOut).value
      = ⟨false, nameOut, qtypeOut⟩)

theorem dnsGetQuestionInfo_effect (packet : List Byte) (packetLen : Nat) (nameOut : List Byte)
    (qtypeOut : Nat) : InfoEffect packet packetLen nameOut qtypeOut := by
  by_cases few : packetLen < 16 ∨ nameOut.length = 0
  · refine .short few ?_
    rw [dnsGetQuestionInfo, if_pos few]
    rfl
  cases ends : (labelLoop packet packetLen headerSize ⟨nameOut.set 0 0, 0⟩).value.1 with
  | none =>
    refine .rejects few (fun e member => ?_) ?_
    · rw [ends] at member
      cases member
    · rw [dnsGetQuestionInfo, if_neg few]
      simp only [bind_value, write_value, ends]
      rfl
  | some e =>
    by_cases bad : e = 0 ∨ packetLen < e + 4
    · refine .rejects few (fun e' member nonzero => ?_) ?_
      · rw [ends] at member
        obtain rfl := Option.some.inj member
        exact bad.resolve_left nonzero
      · rw [dnsGetQuestionInfo, if_neg few]
        simp only [bind_value, write_value, ends]
        rw [if_pos bad]
        rfl
    · refine .reports e few ends (by omega) ?_
      rw [dnsGetQuestionInfo, if_neg few]
      simp only [bind_value, write_value, ends]
      rw [if_neg bad, bind_value, readMany_value, readBe16_copied]
      rfl

/-- On a question of plain labels the label loop and `dns_skip_name` end at its trailer. -/
theorem plainQuestion_ends {packet : List Byte} {packetLen size : Nat}
    (whole : packetLen ≤ packet.length) {s : NameOut} (state : HoldsName size [] s)
    {labels : List (List Byte)} {rest : List Byte}
    (plain : PlainQuestion ((packet.take packetLen).drop headerSize) labels rest) :
    ∃ e, (labelLoop packet packetLen headerSize s).value.1 = some e ∧
      Task.dnsSkipName packet packetLen headerSize = e ∧ e ≠ 0 ∧ e + 4 ≤ packetLen ∧
      HoldsName size ((dotted labels).take (size - 1))
        (labelLoop packet packetLen headerSize s).value.2 := by
  have front : (packet.take packetLen).length = packetLen := List.length_take_of_le whole
  have sizes := congrArg List.length plain.bytes
  rw [List.length_drop, front, List.length_append, DnsMessage.encodeName_length,
    DnsMessage.octets] at sizes
  have trailer := plain.trailer
  have walks := labelLoop_walks whole (by omega : headerSize ≤ packetLen) state
  have parsed : readLabels ((packet.take packetLen).drop headerSize) = some (labels, rest) :=
    readLabels_eq_some_iff.mpr ⟨plain.spelled, plain.bytes⟩
  rw [questionName_readLabels _ _ _ parsed, foldl_appendLabel_dotted _ plain.spelled] at walks
  obtain ⟨e, ends, left⟩ := Option.map_eq_some_iff.mp walks.left.symm
  have within := walks.within e ends
  have behind := congrArg List.length left
  rw [List.length_drop, front] at behind
  have skips := Task.dnsSkipName_skips whole headerSize
  rw [plain.bytes, dnsSkipName_encoded plain.spelled] at skips
  have skipped : Task.dnsSkipName packet packetLen headerSize = e := by
    generalize Task.dnsSkipName packet packetLen headerSize = questionEnd at skips ⊢
    generalize same : some rest = skippedTo at skips
    cases skips with
    | fails => cases same
    | ends _ further inside =>
      have lengths := congrArg List.length (Option.some.inj same)
      rw [List.length_drop, front] at lengths
      omega
  exact ⟨e, ends, skipped, by omega, by omega, walks.holds⟩

/-- A label loop that ends in front of a trailer has walked a question of plain labels. -/
theorem plainQuestion_of_ends {packet : List Byte} {packetLen size : Nat}
    (whole : packetLen ≤ packet.length) {s : NameOut} (state : HoldsName size [] s) {e : Nat}
    (inside : headerSize ≤ packetLen)
    (ends : (labelLoop packet packetLen headerSize s).value.1 = some e)
    (trailer : e + 4 ≤ packetLen) :
    ∃ labels rest, PlainQuestion ((packet.take packetLen).drop headerSize) labels rest := by
  have walks := labelLoop_walks whole inside state
  have left := walks.left
  rw [ends, Option.map_some] at left
  have behind : ((packet.take packetLen).drop e).length = packetLen - e := by
    rw [List.length_drop, List.length_take_of_le whole]
  obtain ⟨labels, parsed⟩ := readLabels_of_questionName left
    (List.ne_nil_of_length_pos (by omega))
  obtain ⟨spelled, bytes⟩ := readLabels_eq_some_iff.mp parsed
  exact ⟨labels, _, spelled, bytes, by omega⟩

/-- `name_out` behind its NUL. -/
theorem holdsString_take {size : Nat} {text : List Byte} {s : NameOut}
    (state : HoldsName size text s) (ends : HoldsString size s) :
    s.name.take (text.length + 1) = text ++ [0] := by
  have inside : text.length < s.name.length := by
    rw [state.length]
    exact state.room
  have front := state.front
  have last := ends.terminated
  rw [state.pos] at front last
  rw [byteAt, List.getD_eq_getElem?_getD, List.getElem?_eq_getElem inside, Option.getD_some] at last
  rw [List.take_succ_eq_append_getElem inside, front, last]

theorem start_holds {nameOut : List Byte} (room : 1 ≤ nameOut.length) :
    HoldsName nameOut.length [] ⟨nameOut.set 0 0, 0⟩ ∧
      HoldsString nameOut.length ⟨nameOut.set 0 0, 0⟩ := by
  have positive : 0 < nameOut.length := room
  exact ⟨⟨List.length_set, rfl, room, rfl⟩, ⟨List.length_set, room, by simp [byteAt, positive]⟩⟩

/-- The array `name_out` of `r` holds the name of `info`; the rest is the same. -/
structure Shows (r info : QuestionInfo) : Prop where
  ok : r.ok = info.ok
  qtype : r.qtype = info.qtype
  name : r.name.take (info.name.length + 1) = info.name ++ [0]

/-- On an array of the task's size it is `Dns.dnsGetQuestionInfo`, whose name is what is in front
    of the NUL. -/
theorem dnsGetQuestionInfo_shows {packet : List Byte} {packetLen : Nat} {nameOut : List Byte}
    (qtypeOut : Nat) (whole : packetLen ≤ packet.length) (size : nameOut.length = qnameSize)
    (long : 16 ≤ packetLen) (name : List Byte) :
    Shows (dnsGetQuestionInfo packet packetLen nameOut qtypeOut).value
      (Dns.dnsGetQuestionInfo (packet.take packetLen) name qtypeOut) := by
  have room : 1 ≤ nameOut.length := by
    rw [size, qnameSize]
    omega
  obtain ⟨start, startString⟩ := start_holds room
  have front : (packet.take packetLen).length = packetLen := List.length_take_of_le whole
  have inside : headerSize ≤ packetLen := by
    rw [headerSize]
    omega
  have walks := labelLoop_walks whole inside start
  have written := holdsString_take walks.holds
    (labelLoop_string packet packetLen headerSize startString).1
  have left := walks.left
  rw [Dns.dnsGetQuestionInfo, if_neg (by omega), ← size]
  generalize questionName (nameOut.length - 1) [] _ = q at written left ⊢
  obtain ⟨text, behind⟩ := q
  cases dnsGetQuestionInfo_effect packet packetLen nameOut qtypeOut with
  | reports e enough ends trailer result =>
    rw [ends] at left
    obtain rfl : behind = some ((packet.take packetLen).drop e) := left
    have fits : ¬ ((packet.take packetLen).drop e).length < 4 := by
      rw [List.length_drop, front]
      omega
    have type : readBe16 ((packet.take packetLen).drop e) 0 = readBe16 packet e :=
      Task.readBe16_front packet (by omega)
    simp only [result, if_neg fits]
    exact ⟨rfl, type.symm, written⟩
  | rejects enough reason result =>
    rw [result]
    cases behind with
    | none => exact ⟨rfl, rfl, written⟩
    | some rest =>
      obtain ⟨e, ends, dropped⟩ := Option.map_eq_some_iff.mp left.symm
      have few : rest.length < 4 := by
        by_contra enough
        rw [← dropped, List.length_drop, front] at enough
        obtain ⟨labels, rest, plain⟩ := plainQuestion_of_ends whole start inside ends (by omega)
        obtain ⟨e', ends', _, nonzero, trailer, _⟩ := plainQuestion_ends whole start plain
        have cut := reason e' ends' nonzero
        omega
      simp only [if_pos few]
      exact ⟨rfl, rfl, written⟩
  | short few result => omega

/-- The accesses aside, the four functions on the arrays of the task are those of its own model. -/
theorem dns_packet_code_values (myApIp : IpAddr) {packet : List Byte} {packetLen : Nat}
    {nameOut : List Byte} (qtypeOut offset : Nat) (response : Buffer) (answerWithPortalIp : Bool)
    (name : List Byte) (whole : packetLen ≤ packet.length) (size : nameOut.length = qnameSize)
    (long : 16 ≤ packetLen) :
    (dnsSkipName packet packetLen offset).value = Task.dnsSkipName packet packetLen offset ∧
      (dnsIsARecordQuery packet packetLen).value = Task.dnsIsARecordQuery packet packetLen ∧
      Shows (dnsGetQuestionInfo packet packetLen nameOut qtypeOut).value
        (Dns.dnsGetQuestionInfo (packet.take packetLen) name qtypeOut) ∧
      (buildDnsResponse myApIp packet packetLen response.val answerWithPortalIp).value =
        ((Task.buildDnsResponse myApIp packet packetLen response answerWithPortalIp).1,
          (Task.buildDnsResponse myApIp packet packetLen response answerWithPortalIp).2.val) :=
  ⟨dnsSkipName_value packet packetLen offset, dnsIsARecordQuery_value packet packetLen,
    dnsGetQuestionInfo_shows qtypeOut whole size long name,
    buildDnsResponse_value myApIp packet packetLen response answerWithPortalIp⟩

/-- A question for `ab` in an array of the task's size. -/
theorem dns_packet_code_values_short_name :
    let packet : List Byte := [0, 1, 1, 0, 0, 1, 0, 0, 0, 0, 0, 0, 2, 0x61, 0x62, 0, 0, 1, 0, 1]
    Shows (dnsGetQuestionInfo packet 20 (List.replicate qnameSize 7) 0).value
      (Dns.dnsGetQuestionInfo packet [] 0) := by
  intro packet
  have values := @dns_packet_code_values 0 packet 20 (List.replicate qnameSize 7) 0 12
    ⟨List.replicate dnsBufferSize 0, List.length_replicate⟩ true [] (by decide)
    List.length_replicate (by decide)
  exact values.2.2.1

/-- `dns_get_question_info` returns true exactly on questions of plain labels. -/
theorem dnsGetQuestionInfo_ok_iff {packet : List Byte} {packetLen : Nat} {nameOut : List Byte}
    (qtypeOut : Nat) (whole : packetLen ≤ packet.length) (room : 1 ≤ nameOut.length) :
    (dnsGetQuestionInfo packet packetLen nameOut qtypeOut).value.ok = true ↔
      ∃ labels rest, PlainQuestion ((packet.take packetLen).drop headerSize) labels rest := by
  have start := (start_holds room).1
  cases dnsGetQuestionInfo_effect packet packetLen nameOut qtypeOut with
  | reports e enough ends trailer result =>
    have inside : headerSize ≤ packetLen := by
      rw [headerSize]
      omega
    rw [result]
    exact iff_of_true rfl (plainQuestion_of_ends whole start inside ends trailer)
  | rejects enough reason result =>
    rw [result]
    refine iff_of_false (by simp) ?_
    rintro ⟨labels, rest, plain⟩
    obtain ⟨e, ends, _, nonzero, trailer, _⟩ := plainQuestion_ends whole start plain
    have cut := reason e ends nonzero
    omega
  | short few result =>
    rw [result]
    refine iff_of_false (by simp) ?_
    rintro ⟨labels, rest, plain⟩
    obtain ⟨e, ends, skipped, nonzero, trailer, _⟩ := plainQuestion_ends whole start plain
    have further := (dnsSkipName_bounds (skipped ▸ nonzero)).1
    rw [skipped, headerSize] at further
    omega

/-- The two question parsers agree. `dns_get_question_info` returns true exactly on the packets
    whose question is a name of plain labels with four bytes behind it. Then `dns_skip_name` ends
    where its label loop does, the type is the one that `dns_is_a_record_query` reads there, and
    `name_out` holds as much of the labels joined by dots as fits in front of its NUL. -/
theorem question_parsers_agree (packet : List Byte) (packetLen : Nat) (nameOut : List Byte)
    (qtypeOut : Nat) (whole : packetLen ≤ packet.length) (room : 1 ≤ nameOut.length) :
    ((dnsGetQuestionInfo packet packetLen nameOut qtypeOut).value.ok = true ↔
        ∃ labels rest, PlainQuestion ((packet.take packetLen).drop headerSize) labels rest) ∧
      ((dnsGetQuestionInfo packet packetLen nameOut qtypeOut).value.ok = true →
        ∃ questionEnd, (dnsSkipName packet packetLen headerSize).value = questionEnd ∧
          (labelLoop packet packetLen headerSize ⟨nameOut.set 0 0, 0⟩).value.1 = some questionEnd ∧
          (dnsGetQuestionInfo packet packetLen nameOut qtypeOut).value.qtype
            = readBe16 packet questionEnd ∧
          (dnsIsARecordQuery packet packetLen).value
            = ((dnsGetQuestionInfo packet packetLen nameOut qtypeOut).value.qtype == 1
              && readBe16 packet (questionEnd + 2) == 1) ∧
          ∀ labels rest, PlainQuestion ((packet.take packetLen).drop headerSize) labels rest →
            (dnsGetQuestionInfo packet packetLen nameOut qtypeOut).value.name.take
                (((dotted labels).take (nameOut.length - 1)).length + 1)
              = (dotted labels).take (nameOut.length - 1) ++ [0]) := by
  have accepts := dnsGetQuestionInfo_ok_iff qtypeOut whole room
  refine ⟨accepts, fun ok => ?_⟩
  obtain ⟨start, startString⟩ := start_holds room
  obtain ⟨labels, rest, plain⟩ := accepts.mp ok
  obtain ⟨e, ends, skipped, nonzero, _, _⟩ := plainQuestion_ends whole start plain
  cases dnsGetQuestionInfo_effect packet packetLen nameOut qtypeOut with
  | reports e' enough ends' trailer result =>
    obtain rfl : e' = e := Option.some.inj (ends'.symm.trans ends)
    rw [result]
    refine ⟨e', ?_, ends, rfl, ?_, ?_⟩
    · rw [dnsSkipName_value, skipped]
    · rw [dnsIsARecordQuery_value, Task.dnsIsARecordQuery, skipped, if_neg (by omega)]
    · intro labels rest plain
      obtain ⟨_, _, _, _, _, holds⟩ := plainQuestion_ends whole start plain
      exact holdsString_take holds (labelLoop_string packet packetLen headerSize startString).1
  | rejects enough reason result => simp [result] at ok
  | short few result => simp [result] at ok

/-- A question for `ab`, of type A and class IN, and an array of eight bytes. -/
theorem question_parsers_agree_on_short_name :
    let packet : List Byte := [0, 1, 1, 0, 0, 1, 0, 0, 0, 0, 0, 0, 2, 0x61, 0x62, 0, 0, 1, 0, 1]
    (dnsGetQuestionInfo packet 20 [7, 7, 7, 7, 7, 7, 7, 7] 0).value.ok = true := by
  intro packet
  have agree := question_parsers_agree packet 20 [7, 7, 7, 7, 7, 7, 7, 7] 0 (by decide) (by decide)
  refine agree.1.2 ⟨[[0x61, 0x62]], [0, 1, 0, 1], ?_, rfl, by decide⟩
  intro label member
  obtain rfl := List.mem_singleton.mp member
  exact ⟨by simp, by decide⟩

end Indexed

end SolarConnect.Dns
