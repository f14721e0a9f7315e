import SolarConnect.Dns.Cache

/-!
# DNS server task

One pass of the loop of `dns_server_task` for each datagram it receives. Sockets are part of
the datagram's surroundings: what a `recvfrom` into a `DNS_BUFFER_SIZE` buffer gave, whether
the client has a session, the station's DNS setting, the outcome of asking a server, and the
clocks.
-/

namespace SolarConnect.Dns

open Bytes LwipHooks

/-- What `recvfrom` puts in a buffer of `dnsBufferSize` bytes; longer datagrams are cut. -/
abbrev Received := { bytes : List Byte // bytes.length ≤ dnsBufferSize }

/-- `DEFAULT_UPSTREAM_DNS`, 8.8.8.8. -/
def defaultUpstreamDns : IpAddr := 0x08080808

/-- `SECONDARY_UPSTREAM_DNS`, 1.1.1.1. -/
def secondaryUpstreamDns : IpAddr := 0x01010101

/-- A received query and what the task meets while it serves it: `exchange` is the datagram
    an upstream server answered, `none` when the send failed or the reply timed out. -/
structure Datagram where
  query : Received
  authenticated : Bool
  staDns : Option IpAddr
  exchange : IpAddr → Option Received
  lookupUs : Int
  insertUs : Int
  wall : Int

/-- `get_upstream_dns_addr` (`dns_server.c:325-343`). -/
def getUpstreamDnsAddr (d : Datagram) : IpAddr :=
  match d.staDns with
  | some addr => if addr ≠ 0 then addr else defaultUpstreamDns
  | none => defaultUpstreamDns

/-- `forward_dns_query_to_server` (`dns_server.c:353-410`): an empty reply counts as none. -/
def forwardDnsQueryToServer (d : Datagram) (server : IpAddr) : Option (List Byte) :=
  match d.exchange server with
  | none => none
  | some response => if response.val.length = 0 then none else some response.val

/-- `forward_dns_query` (`dns_server.c:412-441`): the configured server, then the two fixed
    ones unless they are that server. -/
def forwardDnsQuery (d : Datagram) : Option (List Byte) :=
  let upstream := getUpstreamDnsAddr d
  let retry := fun server =>
    if server ≠ upstream then forwardDnsQueryToServer d server else none
  (forwardDnsQueryToServer d upstream).or
    ((retry defaultUpstreamDns).or (retry secondaryUpstreamDns))

/-- Where a reply comes from. -/
inductive ReplySource
  | cache
  | upstream
  | servfail
  | portal
  deriving DecidableEq, Repr

/-- A reply sent to the client. -/
structure Reply where
  source : ReplySource
  bytes : List Byte
  deriving DecidableEq, Repr

/-- The send at the end of the loop: only when `response_len > 0`. -/
def sendReply (source : ReplySource) (response : Option (List Byte)) : Option Reply :=
  match response with
  | none => none
  | some bytes => if bytes.length = 0 then none else some ⟨source, bytes⟩

/-- The loop body of `dns_server_task` (`dns_server.c:474-531`): the cache it leaves and the
    reply it sends. The result of `dns_get_question_info` is not looked at. -/
def serveDatagram (myApIp : IpAddr) (cache : DnsCache) (d : Datagram) :
    DnsCache × Option Reply :=
  let query := d.query.val
  if query.length = 0 then (cache, none)
  else if query.length < 12 ∨ byteAt query 2 &&& 0x80 ≠ 0 then (cache, none)
  else
    let info := dnsGetQuestionInfo query unknownName 0
    let qname := dnsCacheNormalizeQname info.name
    if d.authenticated then
      let found := dnsCacheLookup d.lookupUs qname info.qtype cache
      match found.1 with
      | some hit => (found.2, sendReply .cache (dnsCacheBuildResponse (found.2 hit) query))
      | none =>
        match forwardDnsQuery d with
        | some response =>
          let cached :=
            if dnsResponseIsCacheable response then
              dnsCacheInsert d.insertUs d.wall qname info.qtype response found.2
            else found.2
          (cached, sendReply .upstream (some response))
        | none => (found.2, sendReply .servfail (buildDnsServfailResponse myApIp query))
    else
      (cache, sendReply .portal (buildDnsResponse myApIp query (dnsIsARecordQuery query)))

/-- The cache after a sequence of datagrams, from boot. -/
def cacheAfter (myApIp : IpAddr) (history : List Datagram) : DnsCache :=
  history.foldl (fun cache d => (serveDatagram myApIp cache d).1) DnsCache.init

theorem cacheAfter_concat (myApIp : IpAddr) (history : List Datagram) (d : Datagram) :
    cacheAfter myApIp (history ++ [d]) =
      (serveDatagram myApIp (cacheAfter myApIp history) d).1 := by
  simp [cacheAfter]

/-- What is forwarded back is what some server answered. -/
theorem forwardDnsQuery_answered {d : Datagram} {response : List Byte}
    (forwarded : forwardDnsQuery d = some response) :
    ∃ server received, d.exchange server = some received ∧ received.val = response := by
  have once : ∀ server, forwardDnsQueryToServer d server = some response →
      ∃ server received, d.exchange server = some received ∧ received.val = response := by
    intro server answered
    unfold forwardDnsQueryToServer at answered
    split at answered
    · simp at answered
    · rename_i received exchanged
      split at answered
      · simp at answered
      · exact ⟨server, received, exchanged, Option.some.inj answered⟩
  unfold forwardDnsQuery at forwarded
  dsimp only at forwarded
  rcases Option.or_eq_some_iff.mp forwarded with first | ⟨-, later⟩
  · exact once _ first
  rcases Option.or_eq_some_iff.mp later with second | ⟨-, third⟩
  · split at second
    · exact once _ second
    · simp at second
  · split at third
    · exact once _ third
    · simp at third

end SolarConnect.Dns
