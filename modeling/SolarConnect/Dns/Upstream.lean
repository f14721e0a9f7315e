import SolarConnect.Dns.CacheMap
import SolarConnect.Misc.DnsMessage

/-!
# Upstream sockets

Where the answer that the task relays and caches comes from. `forward_dns_query_to_server` opens
a socket for each server it asks, and takes the first datagram that arrives on it, from whomever
it is: nothing looks at the sender, the id or the question.
-/

namespace SolarConnect.Dns

open Bytes LwipHooks DnsMessage

/-- A datagram that arrives on an upstream socket. -/
structure Arrival where
  sender : IpAddr
  port : Nat
  bytes : List Byte
  deriving DecidableEq

/-- What `recvfrom` takes of it. -/
def Arrival.received (arrival : Arrival) : Received :=
  ⟨arrival.bytes.take dnsBufferSize, by rw [List.length_take]; exact Nat.min_le_left _ _⟩

/-- A socket of `forward_dns_query_to_server`: whether it is opened and the query sent, and the
    datagrams that arrive before the timeout, in order. -/
structure Upstream where
  opened : Bool
  sent : Bool
  arrivals : List Arrival

/-- The datagram that `recvfrom` takes. -/
def Upstream.first (socket : Upstream) : Option Arrival :=
  if socket.opened && socket.sent then socket.arrivals.head? else none

/-- The query with its sockets, one for each server that may be asked. -/
def Datagram.over (d : Datagram) (sockets : IpAddr → Upstream) : Datagram :=
  { d with exchange := fun server => (sockets server).first.map Arrival.received }

/-- The servers that `forward_dns_query` asks, in order, until one answers. -/
def servers (d : Datagram) : List IpAddr :=
  let upstream := getUpstreamDnsAddr d
  upstream :: [defaultUpstreamDns, secondaryUpstreamDns].filter (· != upstream)

/-- The datagram that is taken for the answer of a server: the first on its socket, unless it is
    empty. -/
def Upstream.answer (socket : Upstream) : Option Arrival :=
  socket.first.filter fun arrival => arrival.bytes.length != 0

/-- The datagram that is taken for the answer to the query, and the server it is taken for. -/
def taken (sockets : IpAddr → Upstream) (d : Datagram) : Option (IpAddr × Arrival) :=
  (servers d).findSome? fun server => (sockets server).answer.map fun arrival => (server, arrival)

theorem forwardDnsQueryToServer_over (d : Datagram) (sockets : IpAddr → Upstream)
    (server : IpAddr) :
    forwardDnsQueryToServer (d.over sockets) server =
      (sockets server).answer.map fun arrival => arrival.received.val := by
  rw [forwardDnsQueryToServer, Datagram.over, Upstream.answer]
  dsimp only
  cases (sockets server).first with
  | none => rfl
  | some arrival =>
    have size : arrival.received.val.length = min dnsBufferSize arrival.bytes.length :=
      List.length_take
    dsimp only [Option.map_some]
    rw [size, Option.filter_some]
    by_cases empty : arrival.bytes.length = 0
    · rw [empty, Nat.min_zero, if_pos rfl, if_neg (by simp)]
      rfl
    · have some : min dnsBufferSize arrival.bytes.length ≠ 0 := by
        rw [dnsBufferSize]
        omega
      rw [if_neg some, if_pos (bne_iff_ne.mpr empty)]
      rfl

/-- The servers are asked one by one. -/
theorem forwardDnsQuery_eq (d : Datagram) :
    forwardDnsQuery d = (servers d).findSome? (forwardDnsQueryToServer d) := by
  have retried (server : IpAddr) :
      (if server ≠ getUpstreamDnsAddr d then forwardDnsQueryToServer d server else none) =
        ([server].filter (· != getUpstreamDnsAddr d)).findSome? (forwardDnsQueryToServer d) := by
    by_cases same : server = getUpstreamDnsAddr d
    · simp [same]
    · simp [same]
  have split := List.filter_append (p := (· != getUpstreamDnsAddr d)) [defaultUpstreamDns]
    [secondaryUpstreamDns]
  rw [List.singleton_append] at split
  rw [forwardDnsQuery, servers]
  dsimp only
  rw [retried, retried, split, List.findSome?_cons, List.findSome?_append]
  cases forwardDnsQueryToServer d (getUpstreamDnsAddr d) <;> rfl

theorem forwardDnsQuery_over (d : Datagram) (sockets : IpAddr → Upstream) :
    forwardDnsQuery (d.over sockets) = (taken sockets d).map fun t => t.2.received.val := by
  have asked : servers (d.over sockets) = servers d := rfl
  rw [forwardDnsQuery_eq, asked, taken, List.map_findSome?]
  congr 1
  funext server
  rw [forwardDnsQueryToServer_over, Function.comp_apply, Option.map_map]
  rfl

/-! ## What is forwarded -/

/-- The query is forwarded: it is a query of a client with a session, and its key is not in the
    cache. -/
structure Forwards (cache : DnsCache) (d : Datagram) : Prop where
  long : 12 ≤ d.query.val.length
  query : byteAt d.query.val 2 &&& 0x80 = 0
  authenticated : d.authenticated = true
  missed : (lookupOf d cache).1 = none

instance (cache : DnsCache) (d : Datagram) : Decidable (Forwards cache d) :=
  decidable_of_iff (12 ≤ d.query.val.length ∧ byteAt d.query.val 2 &&& 0x80 = 0 ∧
      d.authenticated = true ∧ (lookupOf d cache).1 = none)
    ⟨fun ⟨long, query, authenticated, missed⟩ => ⟨long, query, authenticated, missed⟩,
      fun forwards => ⟨forwards.long, forwards.query, forwards.authenticated, forwards.missed⟩⟩

theorem sendReply_source {source : ReplySource} {response : Option (List Byte)} {reply : Reply}
    (sent : sendReply source response = some reply) : reply.source = source := by
  unfold sendReply at sent
  split at sent
  · cases sent
  · split at sent
    · cases sent
    · rw [← Option.some.inj sent]

/-- What is answered to a query that is forwarded is sent to the client as it is. -/
theorem serveDatagram_answered (myApIp : IpAddr) {cache : DnsCache} {d : Datagram}
    (forwards : Forwards cache d) {response : List Byte}
    (answered : forwardDnsQuery d = some response) :
    (serveDatagram myApIp cache d).2 = sendReply .upstream (some response) := by
  have long := forwards.long
  have query : ¬ (d.query.val.length < 12 ∨ byteAt d.query.val 2 &&& 0x80 ≠ 0) := by
    rintro (short | reply)
    · omega
    · exact reply forwards.query
  rw [serveDatagram]
  dsimp only
  rw [if_neg (by omega), if_neg query, if_pos forwards.authenticated, lookupOf_eq,
    forwards.missed, answered]

/-- A reply of an upstream server is sent only to a query that is forwarded. -/
theorem forwards_of_reply {myApIp : IpAddr} {cache : DnsCache} {d : Datagram} {reply : Reply}
    (sent : (serveDatagram myApIp cache d).2 = some reply) (upstream : reply.source = .upstream) :
    Forwards cache d := by
  unfold serveDatagram at sent
  dsimp only at sent
  split at sent
  · cases sent
  split at sent
  · cases sent
  rename_i query
  rw [not_or, not_lt, not_not] at query
  split at sent
  · rename_i authenticated
    split at sent
    · rw [sendReply_source sent] at upstream
      cases upstream
    · rename_i missed
      exact ⟨query.1, query.2, authenticated, missed⟩
  · rw [sendReply_source sent] at upstream
    cases upstream

/-- Only the response to a query that is forwarded is inserted. -/
theorem forwards_of_insert {cache : DnsCache} {d : Datagram}
    {item : SlotCache.Item CacheKey (List Byte) Int}
    {held : Option (SlotCache.Item CacheKey (List Byte) Int)}
    (inserts : .insert item held ∈ cacheUses cache d) : Forwards cache d := by
  unfold cacheUses at inserts
  split at inserts
  · cases inserts
  rename_i served
  rw [not_or, not_or, not_lt, not_not, Bool.not_eq_false] at served
  split at inserts
  · cases List.mem_singleton.mp inserts
  · rename_i response inserted
    exact ⟨served.1, served.2.1, served.2.2, (insertionOf_stored inserted).1⟩

/-! ## Matching answers -/

/-- The datagram answers the query: it comes from the server, is a response, and has the id and
    the question section of the query. -/
structure Matches (server : IpAddr) (query : List Byte) (arrival : Arrival) : Prop where
  sender : arrival.sender = server
  port : arrival.port = dnsPort
  header : headerLength ≤ arrival.received.val.length
  response : byteAt arrival.received.val 2 &&& 0x80 ≠ 0
  id : readBe16 arrival.received.val 0 = readBe16 query 0
  questions : ∃ questions, (readQuestions query).map Prod.fst = some questions ∧
    (readQuestions arrival.received.val).map Prod.fst = some questions

/-- The datagram, taken for the answer of the server, is sent to the client as the answer. -/
structure Relays (myApIp : IpAddr) (cache : DnsCache) (sockets : IpAddr → Upstream) (d : Datagram)
    (server : IpAddr) (arrival : Arrival) : Prop where
  took : taken sockets d = some (server, arrival)
  sent : (serveDatagram myApIp cache (d.over sockets)).2 =
    some ⟨.upstream, arrival.received.val⟩

/-- The datagram, taken for the answer of the server, is inserted under the key of the query. -/
structure Caches (cache : DnsCache) (sockets : IpAddr → Upstream) (d : Datagram)
    (server : IpAddr) (arrival : Arrival) : Prop where
  took : taken sockets d = some (server, arrival)
  inserts : ∃ expires held,
    .insert ⟨queryKey d.query.val, arrival.received.val, expires⟩ held ∈
      cacheUses cache (d.over sockets)

/-- Only a datagram that answers the query is relayed or cached. -/
def OnlyMatching (myApIp : IpAddr) (cache : DnsCache) (sockets : IpAddr → Upstream)
    (d : Datagram) : Prop :=
  ∀ server arrival, Relays myApIp cache sockets d server arrival ∨
    Caches cache sockets d server arrival → Matches server d.query.val arrival

/-- The first datagram on the socket of a server answers the query, if no socket before it had
    one. -/
def FirstMatches (sockets : IpAddr → Upstream) (d : Datagram) : Prop :=
  ∀ earlier server later, servers d = earlier ++ server :: later →
    (∀ other ∈ earlier, (sockets other).answer = none) →
      ∀ arrival, (sockets server).answer = some arrival → Matches server d.query.val arrival

theorem taken_eq_some_iff {sockets : IpAddr → Upstream} {d : Datagram} {server : IpAddr}
    {arrival : Arrival} :
    taken sockets d = some (server, arrival) ↔ ∃ earlier later,
      servers d = earlier ++ server :: later ∧
        (∀ other ∈ earlier, (sockets other).answer = none) ∧
          (sockets server).answer = some arrival := by
  rw [taken, List.findSome?_eq_some_iff]
  constructor
  · rintro ⟨earlier, asked, later, split, answered, unanswered⟩
    obtain ⟨first, answer, same⟩ := Option.map_eq_some_iff.mp answered
    obtain ⟨rfl, rfl⟩ := Prod.mk.inj same
    refine ⟨earlier, later, split, ?_, answer⟩
    intro other before
    exact Option.map_eq_none_iff.mp (unanswered other before)
  · rintro ⟨earlier, later, split, unanswered, answer⟩
    refine ⟨earlier, server, later, split, by rw [answer]; rfl, ?_⟩
    intro other before
    rw [unanswered other before]
    rfl

/-- The answer that is taken is not empty. -/
theorem taken_nonempty {sockets : IpAddr → Upstream} {d : Datagram} {server : IpAddr}
    {arrival : Arrival} (took : taken sockets d = some (server, arrival)) :
    arrival.received.val.length ≠ 0 := by
  obtain ⟨-, -, -, -, answer⟩ := taken_eq_some_iff.mp took
  have nonempty := (Option.filter_eq_some_iff.mp answer).2
  have some : arrival.bytes.length ≠ 0 := by simpa using nonempty
  have size : arrival.received.val.length = min dnsBufferSize arrival.bytes.length :=
    List.length_take
  rw [size, dnsBufferSize]
  omega

/-- The sockets decide the answers of the servers, not whether they are asked. -/
theorem forwards_over {cache : DnsCache} {d : Datagram} {sockets : IpAddr → Upstream} :
    Forwards cache (d.over sockets) ↔ Forwards cache d :=
  ⟨fun forwards => ⟨forwards.long, forwards.query, forwards.authenticated, forwards.missed⟩,
    fun forwards => ⟨forwards.long, forwards.query, forwards.authenticated, forwards.missed⟩⟩

theorem forwardDnsQuery_taken {sockets : IpAddr → Upstream} {d : Datagram} {server : IpAddr}
    {arrival : Arrival} (took : taken sockets d = some (server, arrival)) :
    forwardDnsQuery (d.over sockets) = some arrival.received.val := by
  rw [forwardDnsQuery_over, took]
  rfl

theorem relays_of_taken (myApIp : IpAddr) {cache : DnsCache} {sockets : IpAddr → Upstream}
    {d : Datagram} {server : IpAddr} {arrival : Arrival} (forwards : Forwards cache d)
    (took : taken sockets d = some (server, arrival)) :
    Relays myApIp cache sockets d server arrival := by
  refine ⟨took, ?_⟩
  rw [serveDatagram_answered myApIp (forwards_over.mpr forwards) (forwardDnsQuery_taken took)]
  exact if_neg (taken_nonempty took)

theorem caches_of_taken {cache : DnsCache} {sockets : IpAddr → Upstream} {d : Datagram}
    {server : IpAddr} {arrival : Arrival} (forwards : Forwards cache d)
    (took : taken sockets d = some (server, arrival))
    (cacheable : dnsResponseIsCacheable arrival.received.val = true) :
    Caches cache sockets d server arrival := by
  have asked : Forwards cache (d.over sockets) := forwards_over.mpr forwards
  have inserted : insertionOf (d.over sockets) cache = some arrival.received.val := by
    rw [insertionOf, asked.missed, forwardDnsQuery_taken took]
    exact Option.filter_eq_some_iff.mpr ⟨rfl, cacheable⟩
  refine ⟨took, d.insertUs + dnsCacheTtlUs d.wall,
    items (lookupOf d cache).2 (slotOf d cache), ?_⟩
  rw [cacheUses_served asked.long asked.query asked.authenticated, inserted]
  exact List.mem_cons_of_mem _ (List.mem_singleton_self _)

/-- Only matching answers are relayed and cached exactly when the query is not forwarded, or the
    first datagram that arrives for it matches. -/
theorem onlyMatching_iff (myApIp : IpAddr) (cache : DnsCache) (sockets : IpAddr → Upstream)
    (d : Datagram) :
    OnlyMatching myApIp cache sockets d ↔ (Forwards cache d → FirstMatches sockets d) := by
  constructor
  · intro only forwards earlier server later split unanswered arrival answer
    have took := taken_eq_some_iff.mpr ⟨earlier, later, split, unanswered, answer⟩
    exact only server arrival (Or.inl (relays_of_taken myApIp forwards took))
  · intro first server arrival accepted
    have forwards : Forwards cache d := by
      rw [← forwards_over]
      rcases accepted with relays | caches
      · exact forwards_of_reply relays.sent rfl
      · obtain ⟨expires, held, inserts⟩ := caches.inserts
        exact forwards_of_insert inserts
    have took : taken sockets d = some (server, arrival) := accepted.elim Relays.took Caches.took
    obtain ⟨earlier, later, split, unanswered, answer⟩ := taken_eq_some_iff.mp took
    exact first forwards earlier server later split unanswered arrival answer

/-! ## A forged answer -/

/-- An answer with another id, sent by another host. -/
def forgedArrival : Arrival :=
  ⟨0x0A000042, 4444, 0xBE :: 0xEF :: (addressResponse 0x61 1).val.drop 2⟩

/-- The forged answer arrives on the socket of 8.8.8.8. -/
def forgedSocket (server : IpAddr) : Upstream :=
  ⟨true, true, if server = defaultUpstreamDns then [forgedArrival] else []⟩

/-- The forged answer is sent to the client, and inserted in the cache. -/
theorem forged_relayed_and_cached :
    let d := addressDatagram 0x61 1
    d.authenticated = true ∧ Relays 0 .init forgedSocket d defaultUpstreamDns forgedArrival ∧
      Caches .init forgedSocket d defaultUpstreamDns forgedArrival ∧
        ¬ OnlyMatching 0 .init forgedSocket d := by
  intro d
  have forwards : Forwards .init d := by decide +kernel
  have took : taken forgedSocket d = some (defaultUpstreamDns, forgedArrival) := by
    decide +kernel
  have relays := relays_of_taken 0 forwards took
  have caches := caches_of_taken forwards took (by decide +kernel)
  refine ⟨rfl, relays, caches, ?_⟩
  intro only
  have genuine := (only _ _ (Or.inl relays)).sender
  exact absurd genuine (by decide)

end SolarConnect.Dns
