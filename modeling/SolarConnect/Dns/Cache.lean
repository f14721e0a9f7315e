import SolarConnect.Misc.Slots
import SolarConnect.Dns.Packet
import Mathlib.Algebra.Group.Int.Defs

/-!
# DNS response cache

The in-RAM cache of `dns_server.c`: a table of `DNS_CACHE_ENTRIES` responses under a
normalized name and a query type. `esp_timer_get_time()` is a number of microseconds.
-/

namespace SolarConnect.Dns

open Bytes Slots

/-- `DNS_CACHE_ENTRIES`. -/
def dnsCacheEntries : Nat := 64

/-- `DNS_CACHE_FALLBACK_TTL_US`. -/
def dnsCacheFallbackTtlUs : Int := 12 * 60 * 60 * 1000000

/-- `INT64_MAX`. -/
def int64Max : Int := 2 ^ 63 - 1

/-- `dns_cache_entry_t`; `qname` is the string in the array. -/
structure DnsCacheEntry where
  qname : List Byte
  qtype : Nat
  response : List Byte
  expiresUs : Int
  valid : Bool
  deriving DecidableEq, Repr

/-- A zeroed entry. -/
def DnsCacheEntry.zero : DnsCacheEntry := ⟨[], 0, [], 0, false⟩

/-- `s_dns_cache`. -/
abbrev DnsCache := Fin dnsCacheEntries → DnsCacheEntry

/-- The cache at boot. -/
def DnsCache.init : DnsCache := fun _ => .zero

/-- `dns_seconds_until_next_day` (`dns_server.c:54-62`) when `time(NULL)` is `now`. -/
def dnsSecondsUntilNextDay (now : Int) : Int :=
  if now < 24 * 3600 then 0 else (now / 86400 + 1) * 86400 - now

/-- `dns_cache_ttl_us` (`dns_server.c:64-71`). -/
def dnsCacheTtlUs (now : Int) : Int :=
  let secs := dnsSecondsUntilNextDay now
  if secs ≤ 0 then dnsCacheFallbackTtlUs else secs * 1000000

/-- The key test of both cache functions: the same type and, by `strcmp`, the same name. -/
def DnsCacheEntry.hasKey (e : DnsCacheEntry) (qname : List Byte) (qtype : Nat) : Bool :=
  e.qtype == qtype && e.qname == qname

/-- `dns_cache_lookup` (`dns_server.c:83-100`) at time `now`: the slot it returns, and the
    cache it leaves. Expired entries before that slot are dropped on the way. -/
def dnsCacheLookup (now : Int) (qname : List Byte) (qtype : Nat) (cache : DnsCache) :
    Option (Fin dnsCacheEntries) × DnsCache :=
  let hit := firstSlot fun i =>
    (cache i).valid && !decide ((cache i).expiresUs ≤ now) && (cache i).hasKey qname qtype
  let visited := fun i => match hit with
    | none => true
    | some h => decide (i < h)
  (hit, fun i =>
    if visited i && (cache i).valid && decide ((cache i).expiresUs ≤ now) then
      { cache i with valid := false }
    else cache i)

/-- The slot of the entry that expires first, and its time: the running minimum of the
    insertion loop, which starts at `slot = -1` and `INT64_MAX`. -/
def oldestEntry (cache : DnsCache) : Option (Fin dnsCacheEntries) × Int :=
  sweep (fun i best => if (cache i).expiresUs < best.2 then (some i, (cache i).expiresUs) else best)
    (none, int64Max)

/-- The slot `dns_cache_insert` writes: the first one that is not valid or has the key, else
    the one that expires first. -/
def insertSlot (qname : List Byte) (qtype : Nat) (cache : DnsCache) : Fin dnsCacheEntries :=
  match firstSlot fun i => !(cache i).valid || (cache i).hasKey qname qtype with
  | some i => i
  | none => (oldestEntry cache).1.getD ⟨0, by decide⟩

/-- `dns_cache_insert` (`dns_server.c:104-143`) at timer value `now` and wall clock `wall`. -/
def dnsCacheInsert (now wall : Int) (qname : List Byte) (qtype : Nat) (response : List Byte)
    (cache : DnsCache) : DnsCache :=
  if response.length = 0 ∨ dnsBufferSize < response.length then cache
  else
    Function.update cache (insertSlot qname qtype cache)
      { qname := qname.take (qnameSize - 1), qtype := qtype, response := response,
        expiresUs := now + dnsCacheTtlUs wall, valid := true }

/-- `dns_cache_build_response` (`dns_server.c:148-160`): the cached bytes under the
    transaction id of the query; `none` is the result -1. -/
def dnsCacheBuildResponse (entry : DnsCacheEntry) (query : List Byte) : Option (List Byte) :=
  if dnsBufferSize < entry.response.length then none
  else some (writeAt entry.response 0 [byteAt query 0, byteAt query 1])

/-! ## Lookups and insertions -/

/-- A hit is a valid entry with the key that has not expired. -/
theorem dnsCacheLookup_hit {now : Int} {qname : List Byte} {qtype : Nat} {cache : DnsCache}
    {i : Fin dnsCacheEntries} (hit : (dnsCacheLookup now qname qtype cache).1 = some i) :
    (cache i).valid = true ∧ now < (cache i).expiresUs ∧ (cache i).qname = qname ∧
      (cache i).qtype = qtype := by
  have passes := firstSlot_passes hit
  simp only [DnsCacheEntry.hasKey, Bool.and_eq_true, Bool.not_eq_true', decide_eq_false_iff_not,
    not_le, beq_iff_eq] at passes
  obtain ⟨⟨valid, fresh⟩, type, name⟩ := passes
  exact ⟨valid, fresh, name, type⟩

/-- A lookup leaves an entry that is still valid as it was. -/
theorem dnsCacheLookup_entry {now : Int} {qname : List Byte} {qtype : Nat} {cache : DnsCache}
    {i : Fin dnsCacheEntries} (valid : ((dnsCacheLookup now qname qtype cache).2 i).valid = true) :
    (dnsCacheLookup now qname qtype cache).2 i = cache i := by
  have kept : ∀ (dropped : Bool) (e : DnsCacheEntry),
      (if dropped then { e with valid := false } else e).valid = true →
        (if dropped then { e with valid := false } else e) = e := by
    intro dropped e
    cases dropped <;> simp
  exact kept _ _ valid

/-- A lookup does not touch the entry it returns. -/
theorem dnsCacheLookup_hit_entry {now : Int} {qname : List Byte} {qtype : Nat} {cache : DnsCache}
    {i : Fin dnsCacheEntries} (hit : (dnsCacheLookup now qname qtype cache).1 = some i) :
    (dnsCacheLookup now qname qtype cache).2 i = cache i := by
  have found : (firstSlot fun i => (cache i).valid && !decide ((cache i).expiresUs ≤ now) &&
      (cache i).hasKey qname qtype) = some i := hit
  simp [dnsCacheLookup, found]

/-- An entry after an insertion is the inserted one or an old one. -/
theorem dnsCacheInsert_entry (now wall : Int) (qname : List Byte) (qtype : Nat)
    (response : List Byte) (cache : DnsCache) (i : Fin dnsCacheEntries) :
    dnsCacheInsert now wall qname qtype response cache i = cache i ∨
      dnsCacheInsert now wall qname qtype response cache i =
        { qname := qname.take (qnameSize - 1), qtype := qtype, response := response,
          expiresUs := now + dnsCacheTtlUs wall, valid := true } := by
  unfold dnsCacheInsert
  split
  · exact Or.inl rfl
  · rcases eq_or_ne i (insertSlot qname qtype cache) with rfl | different
    · exact Or.inr (Function.update_self _ _ _)
    · exact Or.inl (Function.update_of_ne different _ _)

end SolarConnect.Dns
