import SolarConnect.Dns.Question
import SolarConnect.Dns.Server
import Mathlib.Data.List.Induction

/-!
# Cached answers

When a cached response answers the question it is sent for. The cache key drops the class,
cuts the name at the buffer's size and at a NUL, and takes a `.` inside a label for a label
boundary. As long as the authenticated queries of a run are free of that, every cached
response has the question of the query.
-/

namespace SolarConnect.Dns

open Bytes

/-- The response has the question of the query. -/
def AnswersQuestion (query response : List Byte) : Prop :=
  ∃ asked answered, readQuestion query = some asked ∧ readQuestion response = some answered ∧
    SameQuestion answered asked

/-- Every server that answers the query echoes its question section. -/
def UpstreamsEcho (d : Datagram) : Prop :=
  ∀ server response, d.exchange server = some response →
    readQuestion response.val = readQuestion d.query.val

/-- A query with a well-formed question of class `qclass` whose name the key determines. -/
def PlainQuery (qclass : Nat) (query : List Byte) : Prop :=
  ∃ question, readQuestion query = some question ∧ PlainName question.labels ∧
    question.qclass = qclass

/-- A cached response that has a plain question, under the key of that question. -/
def EntryAnswers (qclass : Nat) (e : DnsCacheEntry) : Prop :=
  ∃ question, readQuestion e.response = some question ∧ PlainName question.labels ∧
    question.qclass = qclass ∧ e.qname = dotted (foldCase question.labels) ∧
      e.qtype = question.qtype

/-- Every valid entry is under the key of its question. -/
def CacheAnswers (qclass : Nat) (cache : DnsCache) : Prop :=
  ∀ i, (cache i).valid = true → EntryAnswers qclass (cache i)

/-! ## One datagram -/

/-- Patching the transaction id leaves the question alone. -/
theorem readQuestion_patchId (response : List Byte) (a b : Byte) :
    readQuestion (writeAt response 0 [a, b]) = readQuestion response := by
  have untouched : (writeAt response 0 [a, b]).drop headerSize = response.drop headerSize := by
    simp [writeAt, headerSize, List.drop_set]
  rw [readQuestion, untouched, readQuestion]

/-- A lookup keeps the invariant. -/
theorem cacheAnswers_lookup {qclass : Nat} {cache : DnsCache} (now : Int) (qname : List Byte)
    (qtype : Nat) (answers : CacheAnswers qclass cache) :
    CacheAnswers qclass (dnsCacheLookup now qname qtype cache).2 := by
  intro i valid
  have same := dnsCacheLookup_entry valid
  rw [same] at valid ⊢
  exact answers i valid

/-- Inserting a response with the question of a plain query under the key of that query
    keeps the invariant. -/
theorem cacheAnswers_insert {qclass : Nat} {cache : DnsCache} (now wall : Int)
    {query response : List Byte} (plain : PlainQuery qclass query)
    (echo : readQuestion response = readQuestion query) (answers : CacheAnswers qclass cache) :
    CacheAnswers qclass
      (dnsCacheInsert now wall
        (dnsCacheNormalizeQname (dnsGetQuestionInfo query unknownName 0).name)
        (dnsGetQuestionInfo query unknownName 0).qtype response cache) := by
  obtain ⟨question, reads, name, ofClass⟩ := plain
  obtain ⟨key, type⟩ := dnsGetQuestionInfo_plain reads name
  rw [key, type]
  have fits : (dotted (foldCase question.labels)).length ≤ qnameSize - 1 := by
    have whole := map_dotted toLower (by decide) question.labels
    rw [foldCase, ← whole, List.length_map]
    exact name.fits
  intro i valid
  rcases dnsCacheInsert_entry now wall (dotted (foldCase question.labels)) question.qtype response
    cache i with old | inserted
  · rw [old] at valid ⊢
    exact answers i valid
  · rw [inserted]
    exact ⟨question, echo.trans reads, name, ofClass, List.take_of_length_le fits, rfl⟩

/-- One pass of the loop keeps the invariant. -/
theorem cacheAnswers_serve {qclass : Nat} {cache : DnsCache} (myApIp : IpAddr) {d : Datagram}
    (echo : UpstreamsEcho d) (plain : d.authenticated = true → PlainQuery qclass d.query.val)
    (answers : CacheAnswers qclass cache) :
    CacheAnswers qclass (serveDatagram myApIp cache d).1 := by
  unfold serveDatagram
  dsimp only
  split
  · exact answers
  split
  · exact answers
  split
  · rename_i authenticated
    have looked := cacheAnswers_lookup d.lookupUs
      (dnsCacheNormalizeQname (dnsGetQuestionInfo d.query.val unknownName 0).name)
      (dnsGetQuestionInfo d.query.val unknownName 0).qtype answers
    split
    · exact looked
    split
    · rename_i response forwarded
      obtain ⟨server, received, exchanged, rfl⟩ := forwardDnsQuery_answered forwarded
      split
      · exact cacheAnswers_insert d.insertUs d.wall (plain authenticated)
          (echo server received exchanged) looked
      · exact looked
    · exact looked
  · exact answers

/-- A reply from the cache is a hit under the key of the query, with its transaction id. -/
theorem serveDatagram_cached {myApIp : IpAddr} {cache : DnsCache} {d : Datagram} {reply : Reply}
    (sent : (serveDatagram myApIp cache d).2 = some reply) (cached : reply.source = .cache) :
    d.authenticated = true ∧ ∃ i, (cache i).valid = true ∧
      (cache i).qname = dnsCacheNormalizeQname (dnsGetQuestionInfo d.query.val unknownName 0).name ∧
      (cache i).qtype = (dnsGetQuestionInfo d.query.val unknownName 0).qtype ∧
      readQuestion reply.bytes = readQuestion (cache i).response := by
  have source : ∀ (kind : ReplySource) (response : Option (List Byte)),
      sendReply kind response = some reply → kind = .cache ∧ response = some reply.bytes := by
    intro kind response given
    unfold sendReply at given
    split at given
    · simp at given
    · split at given
      · simp at given
      · obtain rfl := Option.some.inj given
        exact ⟨cached, rfl⟩
  unfold serveDatagram at sent
  dsimp only at sent
  split at sent
  · simp at sent
  split at sent
  · simp at sent
  split at sent
  · rename_i authenticated
    split at sent
    · rename_i i hit
      obtain ⟨-, built⟩ := source _ _ sent
      obtain ⟨valid, -, name, type⟩ := dnsCacheLookup_hit hit
      rw [dnsCacheLookup_hit_entry hit] at built
      unfold dnsCacheBuildResponse at built
      split at built
      · simp at built
      · rw [← Option.some.inj built]
        exact ⟨authenticated, i, valid, name, type, readQuestion_patchId _ _ _⟩
    split at sent
    · dsimp only at sent
      exact absurd (source .upstream _ sent).1 (by decide)
    · exact absurd (source .servfail _ sent).1 (by decide)
  · exact absurd (source .portal _ sent).1 (by decide)

/-! ## Runs -/

/-- The invariant holds after any sequence of datagrams. -/
theorem cacheAnswers_cacheAfter {qclass : Nat} (myApIp : IpAddr) (history : List Datagram)
    (echo : ∀ e ∈ history, UpstreamsEcho e)
    (plain : ∀ e ∈ history, e.authenticated = true → PlainQuery qclass e.query.val) :
    CacheAnswers qclass (cacheAfter myApIp history) := by
  induction history using List.reverseRecOn with
  | nil =>
    intro i valid
    simp [cacheAfter, DnsCache.init, DnsCacheEntry.zero] at valid
  | append_singleton history d ih =>
    rw [cacheAfter_concat]
    exact cacheAnswers_serve myApIp (echo d (by simp)) (plain d (by simp))
      (ih (fun e member => echo e (by simp [member])) fun e member => plain e (by simp [member]))

/-- In a run whose authenticated queries are plain and of one class, a response sent from
    the cache has the question of the query it is sent for. -/
theorem cachedReply_answers (myApIp : IpAddr) (qclass : Nat) (history : List Datagram)
    (d : Datagram) (reply : Reply) (echo : ∀ e ∈ history, UpstreamsEcho e)
    (plain : ∀ e ∈ history ++ [d], e.authenticated = true → PlainQuery qclass e.query.val)
    (sent : (serveDatagram myApIp (cacheAfter myApIp history) d).2 = some reply)
    (cached : reply.source = .cache) : AnswersQuestion d.query.val reply.bytes := by
  have answers := cacheAnswers_cacheAfter myApIp history echo
    fun e member => plain e (by simp [member])
  obtain ⟨authenticated, i, valid, name, type, same⟩ := serveDatagram_cached sent cached
  obtain ⟨asked, reads, plainName, ofClass⟩ := plain d (by simp) authenticated
  obtain ⟨key, keyType⟩ := dnsGetQuestionInfo_plain reads plainName
  obtain ⟨answered, readsEntry, plainEntry, entryClass, entryName, entryType⟩ := answers i valid
  refine ⟨asked, answered, reads, same.trans readsEntry, ?_, ?_, ?_⟩
  · apply plainName_key_injective readsEntry plainEntry reads plainName
    rw [← entryName, name, key]
  · rw [← entryType, type, keyType]
  · rw [entryClass, ofClass]

/-! ## Two queries for one name -/

/-- A query for the address of the one-label name `label`, in class `qclass`. -/
def addressQuery (label qclass : Byte) : Received :=
  ⟨[0, 1, 0x01, 0x00, 0, 1, 0, 0, 0, 0, 0, 0, 1, label, 0, 0, 1, 0, qclass],
    by simp [dnsBufferSize]⟩

/-- The answer to it: its question, and one address. -/
def addressResponse (label qclass : Byte) : Received :=
  ⟨[0, 1, 0x81, 0x80, 0, 1, 0, 1, 0, 0, 0, 0, 1, label, 0, 0, 1, 0, qclass,
    0xC0, 0x0C, 0, 1, 0, qclass, 0, 0, 0, 60, 0, 4, 1, 2, 3, 4],
    by simp [dnsBufferSize]⟩

/-- An authenticated client's query, answered by every server it is forwarded to. -/
def addressDatagram (label qclass : Byte) : Datagram where
  query := addressQuery label qclass
  authenticated := true
  staDns := none
  exchange _ := some (addressResponse label qclass)
  lookupUs := 0
  insertUs := 0
  wall := 0

theorem cachedReply_answers_twice :
    let again := addressDatagram 0x41 1
    ∃ reply, (serveDatagram 0 (cacheAfter 0 [addressDatagram 0x61 1]) again).2 = some reply ∧
      reply.source = .cache ∧ AnswersQuestion again.query.val reply.bytes := by
  have plain : ∀ label ∈ [(0x41 : Byte), 0x61],
      readQuestion (addressDatagram label 1).query.val = some ⟨[[label]], 1, 1⟩ ∧
        PlainName [[label]] := by
    decide +kernel
  have upper := plain 0x41 (by simp)
  have lower := plain 0x61 (by simp)
  refine ⟨⟨.cache, (addressResponse 0x61 1).val⟩, by decide +kernel, rfl, ?_⟩
  refine cachedReply_answers 0 1 [addressDatagram 0x61 1] (addressDatagram 0x41 1) _ ?_ ?_
    (by decide +kernel) rfl
  · intro e member server response exchanged
    obtain rfl := List.mem_singleton.mp member
    obtain rfl := Option.some.inj exchanged
    decide +kernel
  · intro e member _
    rcases List.mem_cons.mp member with rfl | last
    · exact ⟨_, lower.1, lower.2, rfl⟩
    · obtain rfl := List.mem_singleton.mp last
      exact ⟨_, upper.1, upper.2, rfl⟩

/-- An Internet-class answer is served from the cache to a Chaos-class query. -/
theorem cachedReply_other_class :
    ¬ ∀ (myApIp : IpAddr) (history : List Datagram) (d : Datagram) (reply : Reply),
      (∀ e ∈ history ++ [d], e.authenticated = true ∧ UpstreamsEcho e) →
        (serveDatagram myApIp (cacheAfter myApIp history) d).2 = some reply →
          reply.source = .cache → AnswersQuestion d.query.val reply.bytes := by
  intro claim
  have echo : ∀ qclass ∈ [(1 : Byte), 3], UpstreamsEcho (addressDatagram 0x61 qclass) := by
    intro qclass member server response exchanged
    obtain rfl := Option.some.inj exchanged
    clear exchanged server
    revert qclass
    decide +kernel
  have answered := claim 0 [addressDatagram 0x61 1] (addressDatagram 0x61 3)
    ⟨.cache, (addressResponse 0x61 1).val⟩
    (by
      intro e member
      rcases List.mem_cons.mp member with rfl | last
      · exact ⟨rfl, echo 1 (by simp)⟩
      · obtain rfl := List.mem_singleton.mp last
        exact ⟨rfl, echo 3 (by simp)⟩)
    (by decide +kernel) rfl
  obtain ⟨asked, answered, reads, readsReply, same⟩ := answered
  have askedClass : asked.qclass = 3 := by
    have parsed : readQuestion (addressDatagram 0x61 3).query.val = some ⟨[[0x61]], 1, 3⟩ := by
      decide +kernel
    rw [← Option.some.inj (parsed.symm.trans reads)]
  have answeredClass : answered.qclass = 1 := by
    have parsed : readQuestion (addressResponse 0x61 1).val = some ⟨[[0x61]], 1, 1⟩ := by
      decide +kernel
    rw [← Option.some.inj (parsed.symm.trans readsReply)]
  have sameClass := same.2.2
  omega

end SolarConnect.Dns
