import SolarConnect.Dns.CacheAnswers

/-!
# Buffers of the DNS task

`dns_server_task` keeps one array for the query and one for the response, and clears neither
between two clients. Here the packet code works on these arrays, by offsets, as it is written:
what it sends is the front of the response array, up to a length that it has computed apart from
the writes.
-/

namespace SolarConnect.Dns

open Bytes LwipHooks

/-- `uint8_t buf[DNS_BUFFER_SIZE]`. -/
abbrev Buffer := { bytes : List Byte // bytes.length = dnsBufferSize }

/-- `memcpy(buf + offset, data, n)`. -/
def Buffer.write (buf : Buffer) (offset : Nat) (data : List Byte) : Buffer :=
  ⟨writeAt buf.val offset data, (writeAt_length _ _ _).trans buf.property⟩

theorem Buffer.take_write (buf : Buffer) (offset n : Nat) (data : List Byte) :
    (buf.write offset data).val.take n = writeAt (buf.val.take n) offset data :=
  take_writeAt _ _ _ _

/-- What the task keeps from one pass of its loop to the next. -/
structure Task where
  query : Buffer
  response : Buffer
  cache : DnsCache

namespace Task

/-! ## Packet code -/

/-- `dns_skip_name` (`dns_server.c:176-198`). -/
def dnsSkipName (packet : List Byte) (packetLen offset : Nat) : Nat :=
  if offset < packetLen then
    let len := byteAt packet offset
    if len = 0 then offset + 1
    else if len &&& 0xC0 = 0xC0 then if offset + 1 < packetLen then offset + 2 else 0
    else if packetLen < offset + 1 + len.toNat then 0
    else dnsSkipName packet packetLen (offset + 1 + len.toNat)
  else 0
  termination_by packetLen - offset
  decreasing_by omega

/-- `dns_is_a_record_query` (`dns_server.c:200-213`). -/
def dnsIsARecordQuery (packet : List Byte) (packetLen : Nat) : Bool :=
  let questionEnd := dnsSkipName packet packetLen headerSize
  if questionEnd = 0 ∨ packetLen < questionEnd + 4 then false
  else readBe16 packet questionEnd == 1 && readBe16 packet (questionEnd + 2) == 1

/-- `build_dns_response` (`dns_server.c:264-311`): the returned length, `none` for -1, and the
    response array. -/
def buildDnsResponse (myApIp : IpAddr) (query : List Byte) (queryLen : Nat) (response : Buffer)
    (answerWithPortalIp : Bool) : Option Nat × Buffer :=
  if queryLen < 12 ∨ dnsBufferSize < queryLen ∨ dnsBufferSize < 32 then (none, response)
  else
    let questionEnd := dnsSkipName query queryLen headerSize
    if questionEnd = 0 ∨ queryLen < questionEnd + 4 then (none, response)
    else
      let response := response.write 0 (query.take (questionEnd + 4))
      let response := response.write 2 [0x81, 0x80]
      let response := response.write 6
        [0x00, if answerWithPortalIp then 0x01 else 0x00, 0x00, 0x00, 0x00, 0x00]
      if answerWithPortalIp = false then (some (questionEnd + 4), response)
      else if dnsBufferSize < questionEnd + 20 then (none, response)
      else
        let response := response.write (questionEnd + 4)
          [0xC0, 0x0C, 0x00, 0x01, 0x00, 0x01, 0x00, 0x00, 0x00, dnsTtlSeconds, 0x00, 0x04]
        let response := response.write (questionEnd + 16) (addrBytes myApIp)
        (some (questionEnd + 20), response)

/-- `build_dns_servfail_response` (`dns_server.c:313-322`). -/
def buildDnsServfailResponse (myApIp : IpAddr) (query : List Byte) (queryLen : Nat)
    (response : Buffer) : Option Nat × Buffer :=
  let (responseLen, response) := buildDnsResponse myApIp query queryLen response false
  if 0 < responseLen.getD 0 then (responseLen, response.write 3 [0x82])
  else (responseLen, response)

/-- `dns_cache_build_response` (`dns_server.c:146-158`). -/
def dnsCacheBuildResponse (entry : DnsCacheEntry) (query : List Byte) (response : Buffer) :
    Option Nat × Buffer :=
  if dnsBufferSize < entry.response.length then (none, response)
  else
    let response := response.write 0 entry.response
    (some entry.response.length, response.write 0 [byteAt query 0, byteAt query 1])

/-- `sendto`, when there is a response to send. -/
def send (r : Option Nat × Buffer) : Option (List Byte) :=
  if 0 < r.1.getD 0 then some (r.2.val.take (r.1.getD 0)) else none

/-! ## The loop -/

/-- One pass of the loop of `dns_server_task` (`dns_server.c:474-531`), with what it sends. -/
def serve (myApIp : IpAddr) (s : Task) (d : Datagram) : Task × Option (List Byte) :=
  let queryLen := d.query.val.length
  let s := { s with query := s.query.write 0 d.query.val }
  let query := s.query.val
  if queryLen = 0 then (s, none)
  else if queryLen < 12 ∨ byteAt query 2 &&& 0x80 ≠ 0 then (s, none)
  else
    let info := dnsGetQuestionInfo (query.take queryLen) unknownName 0
    let qname := dnsCacheNormalizeQname info.name
    if d.authenticated then
      let (found, cache) := dnsCacheLookup d.lookupUs qname info.qtype s.cache
      match found with
      | some hit =>
        let r := dnsCacheBuildResponse (cache hit) query s.response
        ({ s with cache, response := r.2 }, send r)
      | none =>
        match forwardDnsQuery d with
        | some bytes =>
          let response := s.response.write 0 bytes
          let answer := response.val.take bytes.length
          let cache :=
            if dnsResponseIsCacheable answer then
              dnsCacheInsert d.insertUs d.wall qname info.qtype answer cache
            else cache
          ({ s with cache, response }, send (some bytes.length, response))
        | none =>
          let r := buildDnsServfailResponse myApIp query queryLen s.response
          ({ s with cache, response := r.2 }, send r)
    else
      let r := buildDnsResponse myApIp query queryLen s.response (dnsIsARecordQuery query queryLen)
      ({ s with response := r.2 }, send r)

/-! ## Names -/

/-- The bytes from an offset inside of the packet on. -/
theorem drop_front {packet : List Byte} {packetLen offset : Nat} (whole : packetLen ≤ packet.length)
    (within : offset < packetLen) :
    (packet.take packetLen).drop offset =
      byteAt packet offset :: (packet.take packetLen).drop (offset + 1) := by
  have bound : offset < (packet.take packetLen).length := by
    rw [List.length_take]
    omega
  have inside : offset < packet.length := within.trans_le whole
  rw [List.drop_eq_getElem_cons bound, List.getElem_take, byteAt, List.getD_eq_getElem?_getD,
    List.getElem?_eq_getElem inside, Option.getD_some]

/-- Skipping a name by offsets: it fails where skipping it on the bytes that are left does, or
    both get to the same place. -/
inductive Skips (packet : List Byte) (packetLen offset : Nat) : Nat → Option (List Byte) → Prop
  | fails : Skips packet packetLen offset 0 none
  | ends (questionEnd : Nat) (further : offset < questionEnd) (within : questionEnd ≤ packetLen) :
      Skips packet packetLen offset questionEnd (some ((packet.take packetLen).drop questionEnd))

theorem dnsSkipName_skips {packet : List Byte} {packetLen : Nat}
    (whole : packetLen ≤ packet.length) (offset : Nat) :
    Skips packet packetLen offset (dnsSkipName packet packetLen offset)
      (Dns.dnsSkipName ((packet.take packetLen).drop offset)) := by
  have front : (packet.take packetLen).length = packetLen := List.length_take_of_le whole
  fun_induction dnsSkipName packet packetLen offset with
  | case1 offset within len zero =>
    rw [drop_front whole within, Dns.dnsSkipName, if_pos zero]
    exact .ends (offset + 1) (by omega) (by omega)
  | case2 offset within len nonzero pointer more =>
    have behind : (packet.take packetLen).drop (offset + 1) ≠ [] := by
      rw [ne_eq, List.drop_eq_nil_iff]
      omega
    rw [drop_front whole within, Dns.dnsSkipName, if_neg nonzero, if_pos pointer, if_pos behind,
      List.drop_drop]
    exact .ends (offset + 2) (by omega) (by omega)
  | case3 offset within len nonzero pointer last =>
    have behind : ¬ (packet.take packetLen).drop (offset + 1) ≠ [] := by
      rw [not_not, List.drop_eq_nil_iff]
      omega
    rw [drop_front whole within, Dns.dnsSkipName, if_neg nonzero, if_pos pointer, if_neg behind]
    exact .fails
  | case4 offset within len nonzero label long =>
    have short : ((packet.take packetLen).drop (offset + 1)).length < len.toNat := by
      rw [List.length_drop]
      omega
    rw [drop_front whole within, Dns.dnsSkipName, if_neg nonzero, if_neg label, if_pos short]
    exact .fails
  | case5 offset within len nonzero label fits ih =>
    have enough : ¬ ((packet.take packetLen).drop (offset + 1)).length < len.toNat := by
      rw [List.length_drop]
      omega
    rw [drop_front whole within, Dns.dnsSkipName, if_neg nonzero, if_neg label, if_neg enough,
      List.drop_drop]
    generalize dnsSkipName packet packetLen (offset + 1 + len.toNat) = behind at ih ⊢
    generalize Dns.dnsSkipName _ = left at ih ⊢
    cases ih with
    | fails => exact .fails
    | ends questionEnd further within => exact .ends behind (by omega) within
  | case6 offset beyond =>
    have none : (packet.take packetLen).drop offset = [] := by
      rw [List.drop_eq_nil_iff]
      omega
    rw [none, Dns.dnsSkipName]
    exact .fails

theorem readBe16_front (packet : List Byte) {packetLen offset i : Nat}
    (within : offset + i + 2 ≤ packetLen) :
    readBe16 ((packet.take packetLen).drop offset) i = readBe16 packet (offset + i) := by
  rw [readBe16, readBe16, byteAt_drop, byteAt_drop, byteAt_take _ (by omega),
    byteAt_take _ (by omega), Nat.add_assoc]

theorem dnsIsARecordQuery_eq {packet : List Byte} {packetLen : Nat}
    (whole : packetLen ≤ packet.length) :
    dnsIsARecordQuery packet packetLen = Dns.dnsIsARecordQuery (packet.take packetLen) := by
  have skips := dnsSkipName_skips whole headerSize
  unfold dnsIsARecordQuery Dns.dnsIsARecordQuery
  generalize dnsSkipName packet packetLen headerSize = questionEnd at skips ⊢
  generalize Dns.dnsSkipName ((packet.take packetLen).drop headerSize) = left at skips ⊢
  cases skips with
  | fails => rfl
  | ends _ further within =>
    have length : ((packet.take packetLen).drop questionEnd).length = packetLen - questionEnd := by
      rw [List.length_drop, List.length_take_of_le whole]
    dsimp only
    rw [length]
    by_cases fits : packetLen < questionEnd + 4
    · rw [if_pos (Or.inr fits), decide_eq_false (by omega), Bool.false_and, Bool.false_and]
    · have type : readBe16 ((packet.take packetLen).drop questionEnd) 0 =
          readBe16 packet questionEnd := readBe16_front packet (by omega)
      have kind : readBe16 ((packet.take packetLen).drop questionEnd) 2 =
          readBe16 packet (questionEnd + 2) := readBe16_front packet (by omega)
      rw [if_neg (by omega), decide_eq_true (by omega), Bool.true_and, type, kind]

/-! ## Responses -/

/-- What is sent of the response array is the response. -/
structure Holds (r : Option Nat × Buffer) (response : Option (List Byte)) : Prop where
  front : r.1.map (fun n => r.2.val.take n) = response
  within : ∀ n ∈ r.1, n ≤ dnsBufferSize

theorem Holds.send {r : Option Nat × Buffer} {response : Option (List Byte)}
    (holds : Holds r response) (source : ReplySource) :
    send r = (sendReply source response).map Reply.bytes := by
  obtain ⟨len, buf⟩ := r
  rw [← holds.front]
  cases len with
  | none => rfl
  | some n =>
    have length : (buf.val.take n).length = n :=
      List.length_take_of_le ((holds.within n rfl).trans buf.property.ge)
    simp only [Task.send, sendReply, Option.map_some, Option.getD_some, length]
    by_cases some : 0 < n
    · rw [if_pos some, if_neg (by omega)]
      rfl
    · rw [if_neg some, if_pos (by omega)]
      rfl

/-- The front of an array after a write at its start is what was written. -/
theorem write_front (buf : Buffer) {data : List Byte} (fits : data.length ≤ dnsBufferSize) :
    (buf.write 0 data).val.take data.length = data := by
  have written := take_writeAt_end buf.val 0 data (by rw [buf.property]; omega)
  rw [Nat.zero_add, List.take_zero, List.nil_append] at written
  exact written

/-- The front of an array up to the end of two writes, one behind the other. -/
theorem write_write_front (buf : Buffer) (n : Nat) (data more : List Byte)
    (fits : n + data.length + more.length ≤ dnsBufferSize) :
    ((buf.write n data).write (n + data.length) more).val.take (n + data.length + more.length) =
      buf.val.take n ++ data ++ more := by
  have first := take_writeAt_end buf.val n data (by rw [buf.property]; omega)
  have second := take_writeAt_end (buf.write n data).val (n + data.length) more
    (by rw [(buf.write n data).property]; exact fits)
  exact second.trans (congrArg (· ++ more) first)

/-- The question and the header are written over whatever the array held. -/
theorem write_question (buf : Buffer) (question : List Byte)
    (fits : question.length ≤ dnsBufferSize) (header counts : List Byte) :
    (((buf.write 0 question).write 2 header).write 6 counts).val.take question.length =
      writeAt (writeAt question 2 header) 6 counts := by
  have front := write_front buf fits
  rw [Buffer.take_write, Buffer.take_write, front]

theorem buildDnsResponse_holds (myApIp : IpAddr) {query : List Byte} {queryLen : Nat}
    (whole : queryLen ≤ query.length) (response : Buffer) (answerWithPortalIp : Bool) :
    Holds (buildDnsResponse myApIp query queryLen response answerWithPortalIp)
      (Dns.buildDnsResponse myApIp (query.take queryLen) answerWithPortalIp) := by
  have length : (query.take queryLen).length = queryLen := List.length_take_of_le whole
  have skips := dnsSkipName_skips whole headerSize
  have failed (buf : Buffer) : Holds (none, buf) none := ⟨rfl, fun n member => by cases member⟩
  unfold buildDnsResponse Dns.buildDnsResponse
  rw [length]
  by_cases size : queryLen < headerSize ∨ dnsBufferSize < queryLen
  · have refused : queryLen < 12 ∨ dnsBufferSize < queryLen ∨ dnsBufferSize < 32 :=
      size.imp id Or.inl
    rw [if_pos refused, if_pos size]
    exact failed response
  have accepted : ¬ (queryLen < 12 ∨ dnsBufferSize < queryLen ∨ dnsBufferSize < 32) := by
    rintro (short | long | small)
    · exact size (Or.inl short)
    · exact size (Or.inr long)
    · exact absurd small (by decide)
  rw [if_neg accepted, if_neg size]
  generalize dnsSkipName query queryLen headerSize = questionEnd at skips ⊢
  generalize Dns.dnsSkipName ((query.take queryLen).drop headerSize) = left at skips ⊢
  cases skips with
  | fails => exact failed response
  | ends _ further within =>
    have behind : ((query.take queryLen).drop questionEnd).length = queryLen - questionEnd := by
      rw [List.length_drop, length]
    dsimp only
    rw [behind]
    by_cases short : queryLen < questionEnd + 4
    · rw [if_pos (Or.inr short), if_pos (by omega)]
      exact failed response
    have parsed : ¬ (questionEnd = 0 ∨ queryLen < questionEnd + 4) := by omega
    have enough : ¬ queryLen - questionEnd < 4 := by omega
    have questionAt : queryLen - (queryLen - questionEnd) = questionEnd := by omega
    have copied : (query.take queryLen).take (questionEnd + 4) = query.take (questionEnd + 4) := by
      rw [List.take_take, Nat.min_eq_left (by omega)]
    have asked : (query.take (questionEnd + 4)).length = questionEnd + 4 :=
      List.length_take_of_le (by omega)
    rw [if_neg parsed, if_neg enough, questionAt, copied]
    have patched := write_question response (query.take (questionEnd + 4)) (by omega)
      [0x81, 0x80] [0x00, if answerWithPortalIp then 0x01 else 0x00, 0x00, 0x00, 0x00, 0x00]
    rw [asked] at patched
    generalize ((response.write 0 (query.take (questionEnd + 4))).write 2 [0x81, 0x80]).write 6 _ =
      buf at patched ⊢
    cases answerWithPortalIp with
    | false =>
      rw [if_pos rfl, if_neg Bool.false_ne_true]
      exact ⟨congrArg some patched, fun n member => by cases member; omega⟩
    | true =>
      rw [if_neg (show ¬ true = false by decide), if_pos rfl]
      by_cases full : dnsBufferSize < questionEnd + 20
      · rw [if_pos full, if_pos full]
        exact failed buf
      · rw [if_neg full, if_neg full, ← patched]
        refine ⟨congrArg some ?_, fun n member => by cases member; omega⟩
        exact write_write_front buf (questionEnd + 4)
          [0xC0, 0x0C, 0x00, 0x01, 0x00, 0x01, 0x00, 0x00, 0x00, dnsTtlSeconds, 0x00, 0x04]
          (addrBytes myApIp) (not_lt.mp full)

theorem buildDnsServfailResponse_holds (myApIp : IpAddr) {query : List Byte} {queryLen : Nat}
    (whole : queryLen ≤ query.length) (response : Buffer) :
    Holds (buildDnsServfailResponse myApIp query queryLen response)
      (Dns.buildDnsServfailResponse myApIp (query.take queryLen)) := by
  have built := buildDnsResponse_holds myApIp whole response false
  rw [buildDnsServfailResponse, Dns.buildDnsServfailResponse, ← built.front]
  generalize buildDnsResponse myApIp query queryLen response false = r at built ⊢
  obtain ⟨len, buf⟩ := r
  cases len with
  | none => exact ⟨rfl, built.within⟩
  | some n =>
    dsimp only [Option.getD_some, Option.map_some]
    split
    · refine ⟨?_, built.within⟩
      rw [Option.map_some, Buffer.take_write]
    · rename_i empty
      have none : n = 0 := by omega
      refine ⟨?_, built.within⟩
      rw [none]
      rfl

theorem dnsCacheBuildResponse_holds (entry : DnsCacheEntry) {query query' : List Byte}
    (first : byteAt query 0 = byteAt query' 0) (second : byteAt query 1 = byteAt query' 1)
    (response : Buffer) :
    Holds (dnsCacheBuildResponse entry query response)
      (Dns.dnsCacheBuildResponse entry query') := by
  unfold dnsCacheBuildResponse Dns.dnsCacheBuildResponse
  split
  · exact ⟨rfl, fun n member => by cases member⟩
  · rename_i fits
    refine ⟨?_, fun n member => by cases member; omega⟩
    have front := write_front response (not_lt.mp fits)
    dsimp only [Option.map_some]
    rw [Buffer.take_write, front, first, second]

/-! ## The task and its packets -/

/-- A pass of the loop on the arrays is the pass on packets, whatever the arrays hold. -/
theorem serve_eq (myApIp : IpAddr) (s : Task) (d : Datagram) :
    (serve myApIp s d).1.cache = (serveDatagram myApIp s.cache d).1 ∧
      (serve myApIp s d).2 = (serveDatagram myApIp s.cache d).2.map Reply.bytes := by
  have received := write_front s.query d.query.property
  have whole : d.query.val.length ≤ (s.query.write 0 d.query.val).val.length := by
    rw [(s.query.write 0 d.query.val).property]
    exact d.query.property
  have same : ∀ i < d.query.val.length,
      byteAt (s.query.write 0 d.query.val).val i = byteAt d.query.val i := by
    intro i within
    rw [← byteAt_take _ within, received]
  unfold serve serveDatagram
  dsimp only
  split
  · exact ⟨rfl, rfl⟩
  generalize s.query.write 0 d.query.val = query at received whole same ⊢
  by_cases short : d.query.val.length < 12
  · rw [if_pos (Or.inl short), if_pos (Or.inl short)]
    exact ⟨rfl, rfl⟩
  rw [same 2 (by omega), received]
  split
  · exact ⟨rfl, rfl⟩
  split
  · generalize dnsCacheLookup d.lookupUs _ _ s.cache = found
    obtain ⟨hit, cache⟩ := found
    cases hit with
    | some hit =>
      have built := dnsCacheBuildResponse_holds (cache hit) (same 0 (by omega)) (same 1 (by omega))
        s.response
      exact ⟨rfl, built.send .cache⟩
    | none =>
      cases forwarded : forwardDnsQuery d with
      | some bytes =>
        obtain ⟨server, answer, -, rfl⟩ := forwardDnsQuery_answered forwarded
        have front := write_front s.response answer.property
        have built : Holds (some answer.val.length, s.response.write 0 answer.val)
            (some answer.val) := ⟨congrArg some front, fun n member => by
          cases member
          exact answer.property⟩
        dsimp only
        rw [front]
        exact ⟨rfl, built.send .upstream⟩
      | none =>
        have built := buildDnsServfailResponse_holds myApIp whole s.response
        rw [received] at built
        exact ⟨rfl, built.send .servfail⟩
  · have built := buildDnsResponse_holds myApIp whole s.response
      (dnsIsARecordQuery query.val d.query.val.length)
    have address := dnsIsARecordQuery_eq whole
    rw [received] at built address
    rw [address] at built ⊢
    exact ⟨rfl, built.send .portal⟩

/-! ## Captive answers -/

/-- The answer to a client without a session, from its query and `my_ap_ip` alone. -/
def captiveAnswer (myApIp : IpAddr) (query : List Byte) : Option (List Byte) :=
  if query.length < 12 ∨ byteAt query 2 &&& 0x80 ≠ 0 then none
  else
    (sendReply .portal (Dns.buildDnsResponse myApIp query (Dns.dnsIsARecordQuery query))).map
      Reply.bytes

theorem serve_captive (myApIp : IpAddr) (s : Task) {d : Datagram}
    (unauthenticated : d.authenticated = false) :
    (serve myApIp s d).2 = captiveAnswer myApIp d.query.val := by
  rw [(serve_eq myApIp s d).2, serveDatagram, captiveAnswer]
  dsimp only
  split
  · rename_i empty
    rw [if_pos (Or.inl (by omega))]
    rfl
  split
  · rfl
  rw [if_neg (by rw [unauthenticated]; exact Bool.false_ne_true)]

/-- What a client without a session is sent depends on its query and `my_ap_ip` alone: not on the
    cache, nor on what the arrays hold, nor on anything else that the task meets. -/
theorem captive_answer_leaks_nothing (myApIp : IpAddr) (s s' : Task) (d d' : Datagram)
    (query : d.query = d'.query) (unauthenticated : d.authenticated = false)
    (unauthenticated' : d'.authenticated = false) :
    (serve myApIp s d).2 = (serve myApIp s' d').2 := by
  rw [serve_captive myApIp s unauthenticated, serve_captive myApIp s' unauthenticated', query]

/-- A task whose arrays hold the same byte throughout. -/
def filled (b : Byte) (cache : DnsCache) : Task where
  query := ⟨List.replicate dnsBufferSize b, List.length_replicate⟩
  response := ⟨List.replicate dnsBufferSize b, List.length_replicate⟩
  cache := cache

theorem captive_answer_leaks_nothing_filled :
    (serve 0x0104A8C0 (filled 0 .init) { addressDatagram 0x61 1 with authenticated := false }).2 =
      (serve 0x0104A8C0 (filled 0xFF (cacheAfter 0 [addressDatagram 0x61 1]))
        { addressDatagram 0x61 1 with authenticated := false, lookupUs := 1 }).2 :=
  captive_answer_leaks_nothing _ _ _ _ _ rfl rfl rfl

end Task

end SolarConnect.Dns
