import SolarConnect.Dns.TaskBuffers
import SolarConnect.Misc.DnsMessage

/-!
# Local answers

The answers that the task builds itself: the portal's address, no address, or a failure. Each is
the header of the query, with some of its fields overwritten, and one question. It is a message
that answers the query if the query asks just that question, and spells its name out.
-/

namespace SolarConnect.Dns

open Bytes LwipHooks DnsMessage

/-- What the task answers by itself. -/
inductive LocalAnswer
  | portal
  | empty
  | servfail
  deriving DecidableEq

namespace LocalAnswer

/-- The function that builds the answer, on the arrays of the task. -/
def build (myApIp : IpAddr) (query : List Byte) (queryLen : Nat) (response : Buffer) :
    LocalAnswer → Option Nat × Buffer
  | .portal => Task.buildDnsResponse myApIp query queryLen response true
  | .empty => Task.buildDnsResponse myApIp query queryLen response false
  | .servfail => Task.buildDnsServfailResponse myApIp query queryLen response

/-- The answer records: the portal's address under the name that is asked for, or none. -/
def Records (myApIp : IpAddr) (questions : List DnsMessage.Question) (records : List Record) :
    LocalAnswer → Prop
  | .portal => ∃ question ∈ questions,
      records = [⟨question.name, 1, 1, dnsTtlSeconds.toNat, addrBytes myApIp⟩]
  | .empty | .servfail => records = []

/-- The message answers the query. -/
structure Answers (myApIp : IpAddr) (answer : LocalAnswer) (query : List Byte) (m : Message) :
    Prop where
  id : m.id = readBe16 query 0
  response : m.isResponse = true
  questions : (readQuestions query).map Prod.fst = some m.questions
  records : answer.Records myApIp m.questions m.answers
  authority : m.authority = []
  additional : m.additional = []

/-- The bytes are a message that answers the query. -/
def WellFormed (myApIp : IpAddr) (answer : LocalAnswer) (query bytes : List Byte) : Prop :=
  ∃ m, readMessage bytes = some m ∧ answer.Answers myApIp query m

end LocalAnswer

/-- The query says that it asks one question, and the question starts with a name of ordinary
    labels that ends in a zero byte. -/
structure AsksOne (query : List Byte) : Prop where
  count : readBe16 query 4 = 1
  name : ∃ name post, Spelled name ∧ octets name ≤ 255 ∧
    query.drop headerSize = encodeName name ++ post

/-! ## What is copied of the query -/

theorem dnsSkipName_encoded {name : Name} (spelled : Spelled name) (rest : List Byte) :
    dnsSkipName (encodeName name ++ rest) = some rest := by
  induction name with
  | nil => rw [encodeName, List.singleton_append, dnsSkipName, if_pos rfl]
  | cons label name ih =>
    obtain ⟨nonempty, short⟩ := spelled label List.mem_cons_self
    obtain ⟨value, nonzero, plain⟩ := length_byte nonempty short
    have fits : ¬ (label ++ (encodeName name ++ rest)).length < label.length := by
      rw [List.length_append]
      omega
    rw [encodeName, List.cons_append, List.append_assoc, dnsSkipName, if_neg nonzero,
      if_neg (by rw [plain]; decide), value, if_neg fits, List.drop_left]
    exact ih fun other member => spelled other (List.mem_cons_of_mem _ member)

/-- What is skipped does not depend on what comes behind it. -/
theorem dnsSkipName_consumed {bytes rest : List Byte} (skipped : dnsSkipName bytes = some rest) :
    ∃ consumed, bytes = consumed ++ rest ∧
      ∀ more, dnsSkipName (consumed ++ more) = some more := by
  fun_induction dnsSkipName bytes with
  | case1 => cases skipped
  | case2 left =>
    obtain rfl := Option.some.inj skipped
    refine ⟨[0], rfl, fun more => ?_⟩
    rw [List.singleton_append, dnsSkipName, if_pos rfl]
  | case3 len left nonzero pointer more =>
    obtain rfl := Option.some.inj skipped
    cases left with
    | nil => exact absurd rfl more
    | cons low left =>
      refine ⟨[len, low], rfl, fun more => ?_⟩
      rw [List.cons_append, dnsSkipName, if_neg nonzero, if_pos pointer, if_pos (by simp)]
      rfl
  | case4 | case5 => cases skipped
  | case6 len left nonzero label fits ih =>
    obtain ⟨consumed, split, skips⟩ := ih skipped
    refine ⟨len :: (left.take len.toNat ++ consumed), ?_, fun more => ?_⟩
    · rw [List.cons_append, List.append_assoc, ← split, List.take_append_drop]
    · have taken : (left.take len.toNat).length = len.toNat := List.length_take_of_le (by omega)
      have enough : ¬ (left.take len.toNat ++ (consumed ++ more)).length < len.toNat := by
        rw [List.length_append]
        omega
      have behind : (left.take len.toNat ++ (consumed ++ more)).drop len.toNat =
          consumed ++ more := List.drop_left' taken
      rw [List.cons_append, List.append_assoc, dnsSkipName, if_neg nonzero, if_neg label,
        if_neg enough, behind]
      exact skips more

/-! ## What is built -/

/-- What stands behind the question. -/
def LocalAnswer.record (myApIp : IpAddr) : LocalAnswer → List Byte
  | .portal => [0xC0, 0x0C, 0x00, 0x01, 0x00, 0x01, 0x00, 0x00, 0x00, dnsTtlSeconds, 0x00, 0x04] ++
      addrBytes myApIp
  | .empty | .servfail => []

/-- The number of records behind the question. -/
def LocalAnswer.count : LocalAnswer → Nat
  | .portal => 1
  | .empty | .servfail => 0

/-- The header of the query with its fields overwritten, the bytes skipped as its name, the four
    bytes behind them, and the record. -/
structure Framed (myApIp : IpAddr) (answer : LocalAnswer) (query bytes consumed type : List Byte) :
    Prop where
  id : readBe16 bytes 0 = readBe16 query 0
  response : readBe16 bytes 2 / 0x8000 % 2 = 1
  qdcount : readBe16 bytes 4 = readBe16 query 4
  ancount : readBe16 bytes 6 = answer.count
  nscount : readBe16 bytes 8 = 0
  arcount : readBe16 bytes 10 = 0
  header : headerSize ≤ bytes.length
  skips : ∀ more, dnsSkipName (consumed ++ more) = some more
  asked : ∃ left, query.drop headerSize = consumed ++ (type ++ left)
  body : bytes.drop headerSize = consumed ++ (type ++ answer.record myApIp)
  four : type.length = 4

/-- The header of a message with its flags and its last counts overwritten. -/
theorem overwritten_byteAt {copy flags counts : List Byte} (more : List Byte)
    (size : headerSize ≤ copy.length) (two : flags.length = 2) (six : counts.length = 6) {i : Nat}
    (within : i < headerSize) :
    byteAt (writeAt (writeAt copy 2 flags) 6 counts ++ more) i =
      if 6 ≤ i ∧ i < 12 then byteAt counts (i - 6)
      else if 2 ≤ i ∧ i < 4 then byteAt flags (i - 2)
      else byteAt copy i := by
  simp only [headerSize] at size within
  rw [byteAt_append_left _ (by rw [writeAt_length, writeAt_length]; omega),
    byteAt_writeAt _ _ (by rw [writeAt_length]; omega), byteAt_writeAt _ _ (by omega), two, six]

/-- The question as it is copied, with the header overwritten. -/
theorem framed_question (myApIp : IpAddr) {query consumed rest : List Byte}
    (long : headerSize ≤ query.length) (asked : query.drop headerSize = consumed ++ rest)
    (four : 4 ≤ rest.length) (skips : ∀ more, dnsSkipName (consumed ++ more) = some more)
    (answer : LocalAnswer) (rcode : Byte) :
    Framed myApIp answer query
      (writeAt (writeAt (query.take (headerSize + consumed.length + 4)) 2 [0x81, rcode]) 6
        [0x00, BitVec.ofNat 8 answer.count, 0x00, 0x00, 0x00, 0x00] ++ answer.record myApIp)
      consumed (rest.take 4) := by
  have behind : query.length = headerSize + consumed.length + rest.length := by
    have length := congrArg List.length asked
    rw [List.length_drop, List.length_append] at length
    omega
  have kept (i : Nat) (within : i < headerSize) :
      byteAt (query.take (headerSize + consumed.length + 4)) i = byteAt query i :=
    byteAt_take _ (by omega)
  have question : (query.take (headerSize + consumed.length + 4)).drop headerSize =
      consumed ++ rest.take 4 := by
    rw [Nat.add_assoc, List.drop_take, Nat.add_sub_cancel_left, asked, List.take_append,
      Nat.add_sub_cancel_left, List.take_of_length_le (by omega)]
  have size : (query.take (headerSize + consumed.length + 4)).length =
      headerSize + consumed.length + 4 := List.length_take_of_le (by omega)
  generalize query.take (headerSize + consumed.length + 4) = copy at kept question size ⊢
  have field (i : Nat) (within : i < headerSize) :
      byteAt (writeAt (writeAt copy 2 [0x81, rcode]) 6
        [0x00, BitVec.ofNat 8 answer.count, 0x00, 0x00, 0x00, 0x00] ++ answer.record myApIp) i =
      if 6 ≤ i ∧ i < 12 then
        byteAt [0x00, BitVec.ofNat 8 answer.count, 0x00, 0x00, 0x00, 0x00] (i - 6)
      else if 2 ≤ i ∧ i < 4 then byteAt [0x81, rcode] (i - 2)
      else byteAt query i := by
    rw [overwritten_byteAt _ (by omega) rfl rfl within, kept i within]
  refine ⟨?_, ?_, ?_, ?_, ?_, ?_, ?_, skips, ⟨rest.drop 4, ?_⟩, ?_, List.length_take_of_le four⟩
  · rw [readBe16, field 0 (by decide), field 1 (by decide)]
    rfl
  · rw [readBe16, field 2 (by decide), field 3 (by decide)]
    have low := rcode.isLt
    simp [byteAt]
    omega
  · rw [readBe16, field 4 (by decide), field 5 (by decide)]
    rfl
  · rw [readBe16, field 6 (by decide), field 7 (by decide)]
    cases answer <;> simp [byteAt, LocalAnswer.count]
  · rw [readBe16, field 8 (by decide), field 9 (by decide)]
    simp [byteAt]
  · rw [readBe16, field 10 (by decide), field 11 (by decide)]
    simp [byteAt]
  · rw [List.length_append, writeAt_length, writeAt_length, size]
    omega
  · rw [List.take_append_drop, asked]
  · rw [List.drop_append_of_le_length (by rw [writeAt_length, writeAt_length]; omega),
      drop_writeAt _ _ (by simp [headerSize]), drop_writeAt _ _ (by simp [headerSize]), question,
      List.append_assoc]

theorem buildDnsResponse_framed {myApIp : IpAddr} {query bytes : List Byte} (portal : Bool)
    (built : buildDnsResponse myApIp query portal = some bytes) :
    ∃ consumed type,
      Framed myApIp (if portal then .portal else .empty) query bytes consumed type := by
  unfold buildDnsResponse at built
  split at built
  · cases built
  rename_i size
  rw [not_or, not_lt] at size
  split at built
  · cases built
  rename_i rest skipped
  split at built
  · cases built
  rename_i four
  obtain ⟨consumed, asked, skips⟩ := dnsSkipName_consumed skipped
  have behind : query.length - rest.length = headerSize + consumed.length := by
    have length := congrArg List.length asked
    rw [List.length_drop, List.length_append] at length
    omega
  dsimp only at built
  rw [behind] at built
  refine ⟨consumed, rest.take 4, ?_⟩
  have framed := framed_question myApIp size.1 asked (not_lt.mp four) skips
  cases portal with
  | true =>
    rw [if_pos rfl] at built
    split at built
    · cases built
    · obtain rfl := Option.some.inj built
      have portal := framed .portal 0x80
      rw [LocalAnswer.record, ← List.append_assoc] at portal
      exact portal
  | false =>
    rw [if_neg Bool.false_ne_true] at built
    obtain rfl := Option.some.inj built
    have empty := framed .empty 0x80
    rw [LocalAnswer.record, List.append_nil] at empty
    exact empty

/-- Another result code is another flag byte. -/
theorem Framed.servfail {myApIp : IpAddr} {query bytes consumed type : List Byte}
    (framed : Framed myApIp .empty query bytes consumed type) :
    Framed myApIp .servfail query (writeAt bytes 3 [0x82]) consumed type := by
  have size := framed.header
  rw [headerSize] at size
  have other (i : Nat) (elsewhere : i ≠ 3) :
      byteAt (writeAt bytes 3 [0x82]) i = byteAt bytes i := by
    rw [byteAt_writeAt _ _ (by rw [List.length_singleton]; omega), if_neg]
    rw [List.length_singleton]
    omega
  have same (i : Nat) (behind : i + 1 < 3 ∨ 3 < i) :
      readBe16 (writeAt bytes 3 [0x82]) i = readBe16 bytes i := by
    rw [readBe16, readBe16, other i (by omega), other (i + 1) (by omega)]
  have flags : readBe16 (writeAt bytes 3 [0x82]) 2 / 0x100 = readBe16 bytes 2 / 0x100 := by
    have low := (byteAt bytes 3).isLt
    have low' := (byteAt (writeAt bytes 3 [0x82]) 3).isLt
    rw [readBe16, readBe16, other 2 (by decide)]
    omega
  refine ⟨(same 0 (by decide)).trans framed.id, ?_, (same 4 (by decide)).trans framed.qdcount,
    (same 6 (by decide)).trans framed.ancount, (same 8 (by decide)).trans framed.nscount,
    (same 10 (by decide)).trans framed.arcount, ?_, framed.skips, framed.asked, ?_, framed.four⟩
  · have response := framed.response
    omega
  · rw [writeAt_length]
    exact framed.header
  · rw [drop_writeAt _ _ (by simp [headerSize])]
    exact framed.body

/-- The answer in terms of the bytes of the query. -/
def LocalAnswer.bytes (myApIp : IpAddr) (query : List Byte) : LocalAnswer → Option (List Byte)
  | .portal => buildDnsResponse myApIp query true
  | .empty => buildDnsResponse myApIp query false
  | .servfail => buildDnsServfailResponse myApIp query

theorem LocalAnswer.framed {myApIp : IpAddr} {answer : LocalAnswer} {query bytes : List Byte}
    (built : answer.bytes myApIp query = some bytes) :
    ∃ consumed type, Framed myApIp answer query bytes consumed type := by
  cases answer with
  | portal => exact buildDnsResponse_framed true built
  | empty => exact buildDnsResponse_framed false built
  | servfail =>
    obtain ⟨response, copied, rfl⟩ := Option.map_eq_some_iff.mp built
    obtain ⟨consumed, type, framed⟩ := buildDnsResponse_framed false copied
    exact ⟨consumed, type, framed.servfail⟩

/-! ## Reading it back -/

namespace Framed

variable {myApIp : IpAddr} {answer : LocalAnswer} {query bytes consumed type : List Byte}

/-- A name that is written out at the start of the body is what was skipped. -/
theorem consumed_eq (framed : Framed myApIp answer query bytes consumed type) {name : Name}
    {more post : List Byte} (spelled : Spelled name)
    (here : consumed ++ more = encodeName name ++ post) : consumed = encodeName name := by
  have skipped := dnsSkipName_encoded spelled post
  rw [← here, framed.skips] at skipped
  rw [Option.some.inj skipped] at here
  exact List.append_cancel_right here

/-- The query and the answer start with the same question. -/
theorem reads (framed : Framed myApIp answer query bytes consumed type) {name : Name}
    (spelled : Spelled name) (limited : octets name ≤ 255) (skipped : consumed = encodeName name)
    {msg more : List Byte} (body : msg.drop headerSize = consumed ++ (type ++ more)) :
    DnsMessage.readQuestion msg headerLength =
      some (⟨name, readBe16 type 0, readBe16 type 2⟩, headerLength + octets name + 4) := by
  rw [skipped] at body
  have behind : msg.drop (headerLength + octets name) = type ++ more := by
    rw [← List.drop_drop]
    change (msg.drop headerSize).drop (octets name) = _
    rw [body, ← encodeName_length, List.drop_left]
  exact readQuestion_of_name (readName_encoded spelled headerLength body) limited behind framed.four

/-- Behind the question stands the record. -/
theorem behind (framed : Framed myApIp answer query bytes consumed type) {name : Name}
    (skipped : consumed = encodeName name) :
    bytes.drop (headerLength + octets name + 4) = answer.record myApIp := by
  have length : (consumed ++ type).length = octets name + 4 := by
    rw [List.length_append, skipped, encodeName_length, framed.four]
  rw [Nat.add_assoc, ← List.drop_drop]
  change (bytes.drop headerSize).drop _ = _
  rw [framed.body, ← List.append_assoc, ← length, List.drop_left]

theorem size (framed : Framed myApIp answer query bytes consumed type) :
    bytes.length = headerLength + consumed.length + 4 + (answer.record myApIp).length := by
  have length := congrArg List.length framed.body
  rw [List.length_drop, List.length_append, List.length_append, framed.four] at length
  have long := framed.header
  simp only [headerSize] at long length
  rw [headerLength]
  omega

end Framed

/-- The portal's record starts with a pointer to the name of the question. -/
theorem readName_portal {myApIp : IpAddr} {bytes post : List Byte} {name : Name}
    (spelled : Spelled name) {offset : Nat}
    (named : bytes.drop headerLength = encodeName name ++ post)
    (record : bytes.drop offset = LocalAnswer.portal.record myApIp)
    (later : headerLength < offset) :
    readName bytes offset offset = some (name, offset + 2) :=
  readName_pointer spelled 0xC0 0x0C (by decide) rfl le_rfl later named record

/-- The portal's record reads as an address under the name that it points to. -/
theorem readRecord_portal {myApIp : IpAddr} {bytes post : List Byte} {name : Name}
    (spelled : Spelled name) (limited : octets name ≤ 255) {offset : Nat}
    (named : bytes.drop headerLength = encodeName name ++ post)
    (record : bytes.drop offset = LocalAnswer.portal.record myApIp)
    (later : headerLength < offset) :
    readRecord bytes offset =
      some (⟨name, 1, 1, dnsTtlSeconds.toNat, addrBytes myApIp⟩, offset + 16) := by
  have owner := readName_portal spelled named record later
  have fields : bytes.drop (offset + 2) =
      [0x00, 0x01, 0x00, 0x01, 0x00, 0x00, 0x00, dnsTtlSeconds, 0x00, 0x04] ++
        (addrBytes myApIp ++ []) := by
    rw [← List.drop_drop, record]
    rfl
  have read := readRecord_of_name owner limited fields rfl (by simp [readBe16, byteAt])
  simpa [readBe16, byteAt, dnsTtlSeconds] using read

/-- Where the portal's record is read as questions, no record is left behind them. -/
theorem portal_overrun {myApIp : IpAddr} {bytes post : List Byte} {name : Name}
    (spelled : Spelled name) {offset : Nat}
    (named : bytes.drop headerLength = encodeName name ++ post)
    (record : bytes.drop offset = LocalAnswer.portal.record myApIp) (later : headerLength < offset)
    {count next : Nat} {questions : List DnsMessage.Question}
    (read :
      readSection (DnsMessage.readQuestion bytes) (count + 1) offset = some (questions, next)) :
    readSection (readRecord bytes) 1 next = none := by
  have size : bytes.length = offset + 16 := by
    have length := congrArg List.length record
    rw [List.length_drop] at length
    change _ = 16 at length
    omega
  have owner := readName_portal spelled named record later
  have root : bytes.drop (offset + 6) = encodeName [] ++ ([0x00, 0x00, dnsTtlSeconds, 0x00] ++
      0x04 :: addrBytes myApIp) := by
    rw [← List.drop_drop, record]
    rfl
  have address : bytes.drop (offset + 11) = 0x04 :: addrBytes myApIp := by
    rw [← List.drop_drop, record]
    rfl
  have unnamed : readName bytes (offset + 11) (offset + 11) = none :=
    readName_unclosed (addrBytes myApIp) (by simp [addrBytes]) (by simp) address
  have closed : readName bytes (offset + 6) (offset + 6) = some ([], offset + 7) :=
    readName_encoded (fun label member => absurd member List.not_mem_nil) _ root
  obtain ⟨first, behind, rest, one, more, -⟩ := readSection_succ read
  obtain rfl := next_of_readQuestion owner one
  rw [readSection_one]
  cases count with
  | zero =>
    obtain ⟨-, rfl⟩ := Prod.mk.inj (Option.some.inj more)
    rw [readRecord_short closed (by omega)]
    rfl
  | succ count =>
    obtain ⟨second, behind', rest', two, more', -⟩ := readSection_succ more
    obtain rfl := next_of_readQuestion closed two
    cases count with
    | zero =>
      obtain ⟨-, rfl⟩ := Prod.mk.inj (Option.some.inj more')
      rw [readRecord_unnamed unnamed]
      rfl
    | succ count =>
      obtain ⟨third, behind'', rest'', three, -⟩ := readSection_succ more'
      rw [readQuestion_unnamed unnamed] at three
      cases three

/-- Behind the question that was copied, no other question is read that leaves the records to be
    read. -/
theorem Framed.no_second {myApIp : IpAddr} {answer : LocalAnswer}
    {query bytes consumed type post : List Byte}
    (framed : Framed myApIp answer query bytes consumed type) {name : Name}
    (spelled : Spelled name) (named : bytes.drop headerLength = encodeName name ++ post)
    (skipped : consumed = encodeName name) {count next : Nat}
    {questions : List DnsMessage.Question} {rest : List Record × Nat}
    (read : readSection (DnsMessage.readQuestion bytes) (count + 1)
      (headerLength + octets name + 4) = some (questions, next)) :
    readSection (readRecord bytes) answer.count next ≠ some rest := by
  intro records
  have record := framed.behind skipped
  cases answer with
  | portal =>
    have overrun := portal_overrun spelled named record (by omega) read
    rw [LocalAnswer.count, overrun] at records
    cases records
  | empty | servfail =>
    have beyond : bytes.length ≤ headerLength + octets name + 4 := List.drop_eq_nil_iff.mp record
    obtain ⟨second, behind, more, two, -⟩ := readSection_succ read
    rw [readQuestion_unnamed (readName_beyond beyond _)] at two
    cases two

/-- An answer that is read with no question is no answer: it has a record of none, or bytes that
    are not read. -/
theorem Framed.asks_some {myApIp : IpAddr} {answer : LocalAnswer}
    {query bytes consumed type : List Byte}
    (framed : Framed myApIp answer query bytes consumed type) {records : List Record}
    (read :
      readSection (readRecord bytes) answer.count headerLength = some (records, bytes.length)) :
    ¬ answer.Records myApIp [] records := by
  have size := framed.size
  cases answer with
  | portal =>
    rintro ⟨question, member, -⟩
    exact List.not_mem_nil member
  | empty | servfail =>
    obtain ⟨-, here⟩ := Prod.mk.inj (Option.some.inj read)
    omega

theorem Framed.asksOne {myApIp : IpAddr} {answer : LocalAnswer}
    {query bytes consumed type : List Byte}
    (framed : Framed myApIp answer query bytes consumed type)
    (wellFormed : answer.WellFormed myApIp query bytes) : AsksOne query := by
  obtain ⟨m, read, answers⟩ := wellFormed
  obtain ⟨-, -, -, a, b, c, questions, records, none, none'⟩ := readMessage_eq_some.mp read
  rw [framed.nscount] at none
  rw [framed.arcount] at none'
  rw [framed.ancount] at records
  obtain ⟨-, rfl⟩ := Prod.mk.inj (Option.some.inj none)
  obtain ⟨-, ended⟩ := Prod.mk.inj (Option.some.inj none')
  rw [readQuestions, framed.qdcount] at questions
  cases asks : readBe16 query 4 with
  | zero =>
    rw [asks] at questions
    obtain ⟨nothing, rfl⟩ := Prod.mk.inj (Option.some.inj questions)
    have correct := answers.records
    rw [← nothing] at correct
    rw [ended] at records
    exact absurd correct (framed.asks_some records)
  | succ count =>
    rw [asks] at questions
    obtain ⟨question, behind, rest, one, more, -⟩ := readSection_succ questions
    obtain ⟨spelled, limited, post, named⟩ := encoded_of_readQuestion one
    have skipped := framed.consumed_eq spelled (framed.body.symm.trans named)
    have inAnswer := framed.reads spelled limited skipped framed.body
    obtain ⟨-, rfl⟩ := Prod.mk.inj (Option.some.inj (one.symm.trans inAnswer))
    obtain ⟨left, asked⟩ := framed.asked
    cases count with
    | zero => exact ⟨asks, question.name, type ++ left, spelled, limited, skipped ▸ asked⟩
    | succ count => exact absurd records (framed.no_second spelled named skipped more)

theorem Framed.wellFormed {myApIp : IpAddr} {answer : LocalAnswer}
    {query bytes consumed type : List Byte}
    (framed : Framed myApIp answer query bytes consumed type) (asks : AsksOne query) :
    answer.WellFormed myApIp query bytes := by
  obtain ⟨count, name, post, spelled, limited, here⟩ := asks
  obtain ⟨left, asked⟩ := framed.asked
  have skipped := framed.consumed_eq spelled (asked.symm.trans here)
  have inQuery := framed.reads spelled limited skipped asked
  have inAnswer := framed.reads spelled limited skipped framed.body
  have behind := framed.behind skipped
  have size := framed.size
  rw [skipped, encodeName_length] at size
  have questions : readQuestions bytes = some
      ([⟨name, readBe16 type 0, readBe16 type 2⟩], headerLength + octets name + 4) := by
    rw [readQuestions, framed.qdcount, count, readSection_one, inAnswer]
    rfl
  have asks : (readQuestions query).map Prod.fst =
      some [⟨name, readBe16 type 0, readBe16 type 2⟩] := by
    rw [readQuestions, count, readSection_one, inQuery]
    rfl
  obtain ⟨records, read, correct⟩ : ∃ records,
      readSection (readRecord bytes) answer.count (headerLength + octets name + 4) =
        some (records, bytes.length) ∧
      answer.Records myApIp [⟨name, readBe16 type 0, readBe16 type 2⟩] records := by
    cases answer with
    | portal =>
      refine ⟨[⟨name, 1, 1, dnsTtlSeconds.toNat, addrBytes myApIp⟩], ?_, ?_⟩
      · have named := framed.body
        rw [skipped] at named
        rw [LocalAnswer.count, readSection_one,
          readRecord_portal spelled limited named behind (by omega), size]
        rfl
      · exact ⟨_, List.mem_singleton_self _, rfl⟩
    | empty | servfail =>
      refine ⟨[], ?_, rfl⟩
      rw [size]
      rfl
  refine ⟨⟨readBe16 bytes 0, readBe16 bytes 2, [⟨name, readBe16 type 0, readBe16 type 2⟩], records,
    [], []⟩, ?_, ?_⟩
  · rw [readMessage_eq_some]
    refine ⟨framed.header, rfl, rfl, headerLength + octets name + 4, bytes.length, bytes.length,
      questions, ?_, ?_, ?_⟩
    · rw [framed.ancount]
      exact read
    · rw [framed.nscount]
      rfl
    · rw [framed.arcount]
      rfl
  · exact ⟨framed.id, beq_iff_eq.mpr framed.response, asks, correct, rfl, rfl⟩

/-! ## Every query -/

theorem LocalAnswer.build_holds (myApIp : IpAddr) (answer : LocalAnswer) {query : List Byte}
    {queryLen : Nat} (whole : queryLen ≤ query.length) (response : Buffer) :
    Task.Holds (answer.build myApIp query queryLen response)
      (answer.bytes myApIp (query.take queryLen)) := by
  cases answer with
  | portal => exact Task.buildDnsResponse_holds myApIp whole response true
  | empty => exact Task.buildDnsResponse_holds myApIp whole response false
  | servfail => exact Task.buildDnsServfailResponse_holds myApIp whole response

theorem LocalAnswer.wellFormed_iff {myApIp : IpAddr} {answer : LocalAnswer}
    {query bytes : List Byte} (built : answer.bytes myApIp query = some bytes) :
    answer.WellFormed myApIp query bytes ↔ AsksOne query := by
  obtain ⟨consumed, type, framed⟩ := LocalAnswer.framed built
  exact ⟨framed.asksOne, framed.wellFormed⟩

/-- The bytes of a local answer are a message that answers the query exactly if the query asks
    one question, for a name that is written out. -/
theorem localAnswers_wellFormed_iff (myApIp : IpAddr) (answer : LocalAnswer) (query : List Byte)
    (queryLen : Nat) (whole : queryLen ≤ query.length) (response : Buffer) (n : Nat)
    (built : (answer.build myApIp query queryLen response).1 = some n) :
    answer.WellFormed myApIp (query.take queryLen)
        ((answer.build myApIp query queryLen response).2.val.take n) ↔
      AsksOne (query.take queryLen) := by
  have front := (answer.build_holds myApIp whole response).front
  rw [built, Option.map_some] at front
  exact LocalAnswer.wellFormed_iff front.symm

/-- An array of zeros. -/
def zeroBuffer : Buffer := ⟨List.replicate dnsBufferSize 0, List.length_replicate⟩

theorem localAnswers_wellFormed_iff_address :
    LocalAnswer.portal.WellFormed 0x0104A8C0 ((addressQuery 0x61 1).val.take 19)
        ((LocalAnswer.portal.build 0x0104A8C0 (addressQuery 0x61 1).val 19 zeroBuffer).2.val.take
          35) ↔
      AsksOne ((addressQuery 0x61 1).val.take 19) :=
  localAnswers_wellFormed_iff 0x0104A8C0 .portal (addressQuery 0x61 1).val 19 (by decide) zeroBuffer
    35 (by decide +kernel)

/-- Asks for the addresses of `a` and of `b`. -/
def twoQuestions : List Byte :=
  [0x00, 0x01, 0x01, 0x00, 0x00, 0x02, 0x00, 0x00, 0x00, 0x00, 0x00, 0x00,
    0x01, 0x61, 0x00, 0x00, 0x01, 0x00, 0x01, 0x01, 0x62, 0x00, 0x00, 0x01, 0x00, 0x01]

/-- Of two questions one is copied, under a header that says two. -/
theorem two_questions_one_copied :
    ¬ ∀ (myApIp : IpAddr) (answer : LocalAnswer) (query : List Byte) (queryLen : Nat)
      (response : Buffer) (n : Nat), queryLen ≤ query.length → 12 ≤ queryLen → queryLen ≤ 512 →
        (answer.build myApIp query queryLen response).1 = some n → 0 < n →
          answer.WellFormed myApIp (query.take queryLen)
            ((answer.build myApIp query queryLen response).2.val.take n) := by
  intro claim
  have built : (LocalAnswer.portal.build 0x0104A8C0 twoQuestions 26 zeroBuffer).1 = some 35 := by
    decide +kernel
  have wellFormed := claim 0x0104A8C0 .portal twoQuestions 26 zeroBuffer 35 (by decide) (by decide)
    (by decide) built (by decide)
  have whole : 26 ≤ twoQuestions.length := by decide
  have front := (LocalAnswer.portal.build_holds 0x0104A8C0 whole zeroBuffer).front
  rw [built, Option.map_some] at front
  have asks := (LocalAnswer.wellFormed_iff front.symm).mp wellFormed
  exact absurd asks.count (by decide)

end SolarConnect.Dns
