import SolarConnect.Misc.SlotCache
import SolarConnect.Dns.CacheAnswers

/-!
# The cache as a map

`dns_cache_insert` takes the first slot that is not valid without a look at the slots behind it,
where an entry of the same key could be. It never is: the task inserts only after a lookup that
missed, and that lookup has been through every slot. So the cache is a map from keys to
responses, in which an entry of another key gives way only when all of the slots are in use.
-/

namespace SolarConnect.Dns

open Bytes LwipHooks Slots SlotCache

/-- What the task looks up: a normalized name and a type. -/
abbrev CacheKey := List Byte × Nat

abbrev CacheUse := Use CacheKey (List Byte) Int

/-- A valid entry. -/
def DnsCacheEntry.item (e : DnsCacheEntry) : Option (Item CacheKey (List Byte) Int) :=
  if e.valid then some ⟨(e.qname, e.qtype), e.response, e.expiresUs⟩ else none

/-- The valid entries. -/
def items (cache : DnsCache) : Table (Fin dnsCacheEntries) CacheKey (List Byte) Int :=
  fun i => (cache i).item

/-- The key of a query in `dns_server_task`. -/
def queryKey (query : List Byte) : CacheKey :=
  let info := dnsGetQuestionInfo query unknownName 0
  (dnsCacheNormalizeQname info.name, info.qtype)

/-- The lookup of a pass of the loop. -/
def lookupOf (d : Datagram) (cache : DnsCache) : Option (Fin dnsCacheEntries) × DnsCache :=
  dnsCacheLookup d.lookupUs (queryKey d.query.val).1 (queryKey d.query.val).2 cache

/-- The response that a pass of the loop inserts after its lookup. -/
def insertionOf (d : Datagram) (cache : DnsCache) : Option (List Byte) :=
  match (lookupOf d cache).1 with
  | some _ => none
  | none => (forwardDnsQuery d).filter dnsResponseIsCacheable

/-- The slot of an insertion. -/
def slotOf (d : Datagram) (cache : DnsCache) : Fin dnsCacheEntries :=
  insertSlot (queryKey d.query.val).1 (queryKey d.query.val).2 (lookupOf d cache).2

/-- What a pass of the loop uses the cache for. -/
def cacheUses (cache : DnsCache) (d : Datagram) : List CacheUse :=
  if d.query.val.length < 12 ∨ byteAt d.query.val 2 &&& 0x80 ≠ 0 ∨ d.authenticated = false then []
  else
    match insertionOf d cache with
    | none => [.look d.lookupUs]
    | some response =>
      [.look d.lookupUs,
        .insert ⟨queryKey d.query.val, response, d.insertUs + dnsCacheTtlUs d.wall⟩
          (items (lookupOf d cache).2 (slotOf d cache))]

/-- The lookup as the task calls it. -/
theorem lookupOf_eq (d : Datagram) (cache : DnsCache) :
    dnsCacheLookup d.lookupUs
      (dnsCacheNormalizeQname (dnsGetQuestionInfo d.query.val unknownName 0).name)
      (dnsGetQuestionInfo d.query.val unknownName 0).qtype cache = lookupOf d cache :=
  rfl

/-- The cache is used for a query of a client with a session. -/
theorem cacheUses_served {cache : DnsCache} {d : Datagram} (long : 12 ≤ d.query.val.length)
    (query : byteAt d.query.val 2 &&& 0x80 = 0) (authenticated : d.authenticated = true) :
    cacheUses cache d = .look d.lookupUs :: ((insertionOf d cache).map fun response =>
      .insert ⟨queryKey d.query.val, response, d.insertUs + dnsCacheTtlUs d.wall⟩
        (items (lookupOf d cache).2 (slotOf d cache))).toList := by
  have served : ¬ (d.query.val.length < 12 ∨ byteAt d.query.val 2 &&& 0x80 ≠ 0 ∨
      d.authenticated = false) := by
    rw [not_or, not_or, not_lt, not_not, Bool.not_eq_false]
    exact ⟨long, query, authenticated⟩
  rw [cacheUses, if_neg served]
  cases insertionOf d cache <;> rfl

/-- What a run uses the cache for. -/
def usesFrom (myApIp : IpAddr) (cache : DnsCache) : List Datagram → List CacheUse
  | [] => []
  | d :: history =>
    cacheUses cache d ++ usesFrom myApIp (serveDatagram myApIp cache d).1 history

/-- The entry's `expires_us` fits in an `int64_t`. -/
def ExpiryFits : CacheUse → Prop
  | .look _ => True
  | .insert item _ => item.expires ≤ int64Max

/-- A lookup was not made after `now`. -/
def NotAfter (now : Int) : CacheUse → Prop
  | .look earlier => earlier ≤ now
  | .insert _ _ => True

instance : DecidablePred ExpiryFits
  | .look _ => inferInstanceAs (Decidable True)
  | .insert _ _ => inferInstanceAs (Decidable (_ ≤ _))

instance (now : Int) : DecidablePred (NotAfter now)
  | .look _ => inferInstanceAs (Decidable (_ ≤ _))
  | .insert _ _ => inferInstanceAs (Decidable True)

/-! ## Lookups -/

theorem items_eq_some {cache : DnsCache} {i : Fin dnsCacheEntries}
    {item : Item CacheKey (List Byte) Int} :
    items cache i = some item ↔ (cache i).valid = true ∧
      item = ⟨((cache i).qname, (cache i).qtype), (cache i).response, (cache i).expiresUs⟩ := by
  unfold items DnsCacheEntry.item
  split
  · rename_i valid
    simp [valid, eq_comm]
  · rename_i invalid
    simp [invalid]

/-- An entry after a lookup is the one before, or has expired and is no longer valid. -/
theorem dnsCacheLookup_drops (now : Int) (qname : List Byte) (qtype : Nat) (cache : DnsCache)
    (i : Fin dnsCacheEntries) :
    (dnsCacheLookup now qname qtype cache).2 i = cache i ∨
      (cache i).expiresUs ≤ now ∧
        (dnsCacheLookup now qname qtype cache).2 i = { cache i with valid := false } := by
  have dropped : ∀ (visited : Bool) (e : DnsCacheEntry),
      (if visited && e.valid && decide (e.expiresUs ≤ now) then { e with valid := false }
        else e) = e ∨
      e.expiresUs ≤ now ∧
        (if visited && e.valid && decide (e.expiresUs ≤ now) then { e with valid := false }
          else e) = { e with valid := false } := by
    intro visited e
    split
    · rename_i passes
      rw [Bool.and_eq_true, decide_eq_true_eq] at passes
      exact .inr ⟨passes.2, rfl⟩
    · exact .inl rfl
  exact dropped _ _

theorem items_drops (now : Int) (qname : List Byte) (qtype : Nat) (cache : DnsCache) :
    Drops now (items cache) (items (dnsCacheLookup now qname qtype cache).2) := by
  intro i
  rcases dnsCacheLookup_drops now qname qtype cache i with same | ⟨expired, dropped⟩
  · left
    rw [items, items, same]
  · cases valid : (cache i).valid with
    | true =>
      right
      refine ⟨by rw [items, dropped]; rfl, _, items_eq_some.mpr ⟨valid, rfl⟩, expired⟩
    | false =>
      left
      rw [items, items, dropped, DnsCacheEntry.item, DnsCacheEntry.item, valid]

/-- A lookup that misses leaves no entry of its key. -/
theorem items_absent {now : Int} {qname : List Byte} {qtype : Nat} {cache : DnsCache}
    (miss : (dnsCacheLookup now qname qtype cache).1 = none) :
    Absent (qname, qtype) (items (dnsCacheLookup now qname qtype cache).2) := by
  have none : firstSlot (fun i => (cache i).valid && !decide ((cache i).expiresUs ≤ now) &&
    (cache i).hasKey qname qtype) = none := miss
  intro i item held key
  obtain ⟨valid, rfl⟩ := items_eq_some.mp held
  have same := dnsCacheLookup_entry valid
  have passes := firstSlot_eq_none_iff.mp none i
  rw [same] at valid key
  obtain ⟨name, type⟩ := Prod.mk.inj key
  -- the slot was visited, so its entry has not expired
  have fresh : ¬ (cache i).expiresUs ≤ now := by
    intro expired
    have dropped : ((dnsCacheLookup now qname qtype cache).2 i).valid = false := by
      simp [dnsCacheLookup, none, valid, expired]
    rw [same, valid] at dropped
    cases dropped
  simp [valid, fresh, DnsCacheEntry.hasKey, name, type] at passes

/-- What a lookup hits is what there is to find. -/
theorem dnsCacheLookup_finds {now : Int} {qname : List Byte} {qtype : Nat} {cache : DnsCache}
    {i : Fin dnsCacheEntries} (hit : (dnsCacheLookup now qname qtype cache).1 = some i) :
    Finds now (qname, qtype) (items cache)
      ⟨(qname, qtype), (cache i).response, (cache i).expiresUs⟩ := by
  obtain ⟨valid, fresh, rfl, rfl⟩ := dnsCacheLookup_hit hit
  exact ⟨⟨i, items_eq_some.mpr ⟨valid, rfl⟩⟩, rfl, fresh⟩

theorem not_finds_of_miss {now : Int} {qname : List Byte} {qtype : Nat} {cache : DnsCache}
    (miss : (dnsCacheLookup now qname qtype cache).1 = none)
    (item : Item CacheKey (List Byte) Int) : ¬ Finds now (qname, qtype) (items cache) item := by
  rintro ⟨⟨i, held⟩, keyed, fresh⟩
  have kept := (items_drops now qname qtype cache).kept held fresh
  exact items_absent miss i item kept keyed

/-! ## Insertions -/

/-- The running minimum of the insertion loop, after the slots below `k`. -/
structure Oldest (cache : DnsCache) (k : Nat) (best : Option (Fin dnsCacheEntries) × Int) :
    Prop where
  least : ∀ j : Fin dnsCacheEntries, j < k → best.2 ≤ (cache j).expiresUs
  slot : ∀ i, best.1 = some i → best.2 = (cache i).expiresUs
  start : best.1 = none → best.2 = int64Max

theorem oldestEntry_oldest (cache : DnsCache) :
    Oldest cache dnsCacheEntries (oldestEntry cache) := by
  refine sweep_invariant (Oldest cache) ⟨?_, ?_, fun _ => rfl⟩ ?_
  · intro j below
    exact absurd below (Nat.not_lt_zero _)
  · intro i none
    cases none
  · intro i best oldest
    split
    · rename_i older
      refine ⟨?_, ?_, ?_⟩
      · intro j below
        rcases Nat.lt_succ_iff_lt_or_eq.mp below with earlier | now
        · exact older.le.trans (oldest.least j earlier)
        · rw [Fin.ext now]
      · intro j slot
        rw [← Option.some.inj slot]
      · intro none
        cases none
    · rename_i newer
      refine ⟨?_, oldest.slot, oldest.start⟩
      intro j below
      rcases Nat.lt_succ_iff_lt_or_eq.mp below with earlier | now
      · exact oldest.least j earlier
      · rw [Fin.ext now]
        exact not_lt.mp newer

/-- An insertion of a key that no valid entry has takes a slot that is not valid, or, if there is
    none, that of the entry that expires first. -/
theorem insertSlot_absent {qname : List Byte} {qtype : Nat} {cache : DnsCache}
    (absent : Absent (qname, qtype) (items cache))
    (fits : ∀ i, (cache i).valid = true → (cache i).expiresUs ≤ int64Max)
    (valid : (cache (insertSlot qname qtype cache)).valid = true) :
    (∀ j, (cache j).valid = true) ∧
      ∀ j, (cache (insertSlot qname qtype cache)).expiresUs ≤ (cache j).expiresUs := by
  unfold insertSlot at valid ⊢
  split at valid
  · rename_i i first
    have taken := firstSlot_passes first
    rw [valid, Bool.not_true, Bool.false_or, DnsCacheEntry.hasKey, Bool.and_eq_true, beq_iff_eq,
      beq_iff_eq] at taken
    have key := absent i _ (items_eq_some.mpr ⟨valid, rfl⟩)
    exact absurd (Prod.ext taken.2 taken.1) key
  · rename_i full
    have used := firstSlot_eq_none_iff.mp full
    refine ⟨?_, ?_⟩
    · intro j
      have passes := used j
      rw [Bool.or_eq_false_iff, Bool.not_eq_false'] at passes
      exact passes.1
    · intro j
      have oldest := oldestEntry_oldest cache
      have least := oldest.least j j.isLt
      have limit := fits _ valid
      cases best : (oldestEntry cache).1 with
      | none =>
        rw [oldest.start best] at least
        rw [best] at limit
        exact limit.trans least
      | some i =>
        rw [oldest.slot i best] at least
        exact least

/-- The name of a query fits in the `qname` of an entry. -/
theorem questionName_length (room : Nat) (packet name : List Byte) (fits : name.length ≤ room) :
    (questionName room name packet).1.length ≤ room := by
  fun_induction questionName room name packet with
  | case1 => exact fits
  | case2 => exact fits
  | case3 => exact fits
  | case4 name len rest zero wellFormed ih =>
    apply ih
    unfold appendLabel
    dsimp only
    split
    · rename_i dot
      simp only [List.length_append, List.length_take, List.length_singleton]
      omega
    · simp only [List.length_append, List.length_take]
      omega

theorem queryKey_length (query : List Byte) : (queryKey query).1.length ≤ qnameSize - 1 := by
  have name : (dnsGetQuestionInfo query unknownName 0).name.length ≤ qnameSize - 1 := by
    unfold dnsGetQuestionInfo
    split
    · decide
    · have short := questionName_length (qnameSize - 1) (query.drop headerSize) [] (by simp)
      split
      · rename_i written cut
        rw [cut] at short
        exact short
      · rename_i written rest cut
        rw [cut] at short
        split
        · exact short
        · exact short
  rw [queryKey, dnsCacheNormalizeQname, List.length_map, cString]
  exact (List.takeWhile_sublist _).length_le.trans name

theorem items_insert {now wall : Int} {qname : List Byte} {qtype : Nat} {response : List Byte}
    {cache : DnsCache} (short : qname.length ≤ qnameSize - 1)
    (stored : ¬ (response.length = 0 ∨ dnsBufferSize < response.length)) :
    items (dnsCacheInsert now wall qname qtype response cache) =
      Function.update (items cache) (insertSlot qname qtype cache)
        (some ⟨(qname, qtype), response, now + dnsCacheTtlUs wall⟩) := by
  rw [dnsCacheInsert, if_neg stored, List.take_of_length_le short]
  funext i
  rcases eq_or_ne i (insertSlot qname qtype cache) with rfl | other
  · rw [items, Function.update_self, Function.update_self]
    rfl
  · rw [items, Function.update_of_ne other, Function.update_of_ne other]
    rfl

/-! ## One pass of the loop -/

/-- What a pass of the loop uses the cache for, and what it leaves in it. -/
inductive PassEffect (cache : DnsCache) (d : Datagram) : List CacheUse → DnsCache → Prop
  | ignores : PassEffect cache d [] cache
  | looks : PassEffect cache d [.look d.lookupUs] (lookupOf d cache).2
  | inserts (response : List Byte) (inserted : insertionOf d cache = some response) :
      PassEffect cache d
        [.look d.lookupUs,
          .insert ⟨queryKey d.query.val, response, d.insertUs + dnsCacheTtlUs d.wall⟩
            (items (lookupOf d cache).2 (slotOf d cache))]
        (dnsCacheInsert d.insertUs d.wall (queryKey d.query.val).1 (queryKey d.query.val).2 response
          (lookupOf d cache).2)

/-- An insertion comes after a miss, and its response fits in an entry. -/
theorem insertionOf_stored {d : Datagram} {cache : DnsCache} {response : List Byte}
    (inserted : insertionOf d cache = some response) :
    (lookupOf d cache).1 = none ∧
      ¬ (response.length = 0 ∨ dnsBufferSize < response.length) := by
  unfold insertionOf at inserted
  split at inserted
  · cases inserted
  · rename_i miss
    obtain ⟨forwarded, cacheable⟩ := Option.filter_eq_some_iff.mp inserted
    obtain ⟨server, received, -, rfl⟩ := forwardDnsQuery_answered forwarded
    have long : ¬ received.val.length < 12 := by
      intro short
      rw [dnsResponseIsCacheable, if_pos short] at cacheable
      cases cacheable
    have short := received.property
    exact ⟨miss, by omega⟩

theorem serveDatagram_effect (myApIp : IpAddr) (cache : DnsCache) (d : Datagram) :
    PassEffect cache d (cacheUses cache d) (serveDatagram myApIp cache d).1 := by
  unfold serveDatagram
  dsimp only
  split
  · rename_i empty
    rw [cacheUses, if_pos (Or.inl (by omega))]
    exact .ignores
  split
  · rename_i malformed
    rw [cacheUses, if_pos (malformed.elim Or.inl fun reply => Or.inr (Or.inl reply))]
    exact .ignores
  rename_i query
  cases authenticated : d.authenticated with
  | false =>
    rw [if_neg Bool.false_ne_true, cacheUses, if_pos (Or.inr (Or.inr authenticated))]
    exact .ignores
  | true =>
    rw [not_or, not_lt, not_not] at query
    rw [if_pos rfl, cacheUses_served query.1 query.2 authenticated, insertionOf, lookupOf_eq]
    cases found : (lookupOf d cache).1 with
    | some hit => exact .looks
    | none =>
      cases forwarded : forwardDnsQuery d with
      | none => exact .looks
      | some response =>
        dsimp only
        by_cases cacheable : dnsResponseIsCacheable response = true
        · rw [if_pos cacheable, Option.filter_some, if_pos cacheable]
          exact .inserts response (by simp [insertionOf, found, forwarded, cacheable])
        · rw [if_neg cacheable, Option.filter_some, if_neg cacheable]
          exact .looks

/-! ## Runs -/

theorem uses_serve {myApIp : IpAddr} {cache : DnsCache} {uses : List CacheUse}
    (run : Uses (fun _ => none) uses (items cache)) (d : Datagram) :
    Uses (fun _ => none) (uses ++ cacheUses cache d) (items (serveDatagram myApIp cache d).1) := by
  have effect := serveDatagram_effect myApIp cache d
  generalize cacheUses cache d = more at effect ⊢
  generalize (serveDatagram myApIp cache d).1 = cache' at effect ⊢
  cases effect with
  | ignores => simpa using run
  | looks => exact run.look _ (items_drops _ _ _ _)
  | inserts response inserted =>
    obtain ⟨miss, stored⟩ := insertionOf_stored inserted
    rw [items_insert (queryKey_length _) stored]
    have looked := run.look d.lookupUs
      (items_drops d.lookupUs (queryKey d.query.val).1 (queryKey d.query.val).2 cache)
    have written := looked.insert
      ⟨queryKey d.query.val, response, d.insertUs + dnsCacheTtlUs d.wall⟩ (slotOf d cache)
      (items_absent miss)
    rw [List.append_assoc] at written
    exact written

theorem uses_from {myApIp : IpAddr} (history : List Datagram) {cache : DnsCache}
    {uses : List CacheUse} (run : Uses (fun _ => none) uses (items cache)) :
    Uses (fun _ => none) (uses ++ usesFrom myApIp cache history)
      (items (history.foldl (fun cache d => (serveDatagram myApIp cache d).1) cache)) := by
  induction history generalizing cache uses with
  | nil => simpa [usesFrom] using run
  | cons d history ih =>
    rw [usesFrom, ← List.append_assoc]
    exact ih (uses_serve run d)

/-- From boot, what the task uses the cache for says what is in it. -/
theorem cacheAfter_agrees (myApIp : IpAddr) (history : List Datagram) :
    Agrees (usesFrom myApIp .init history) (items (cacheAfter myApIp history)) := by
  have boot : Uses (fun _ => none) [] (items .init) := .unused
  have run : Uses (fun _ => none) ([] ++ usesFrom myApIp .init history)
      (items (cacheAfter myApIp history)) := uses_from history boot
  exact run.agrees

/-! ## The map -/

/-- No two valid entries have one name and type. -/
def UniqueEntries (cache : DnsCache) : Prop :=
  ∀ i j, (cache i).valid = true → (cache j).valid = true → (cache i).qname = (cache j).qname →
    (cache i).qtype = (cache j).qtype → i = j

/-- The cache after `uses` is a map. A lookup at a time that is not before an earlier one gives the
    bytes inserted last for its key, unless they have expired or been evicted. -/
structure IsMap (uses : List CacheUse) (cache : DnsCache) : Prop where
  unique : UniqueEntries cache
  lookup : ∀ now key, (∀ use ∈ uses, NotAfter now use) →
    (dnsCacheLookup now key.1 key.2 cache).1.map (fun i => (cache i).response) =
      ((latest key uses).filter fun item => decide (now < item.expires)).map Item.value

/-- An insertion into `looked`, the cache that its lookup leaves: one slot is written, and the
    entry in it was not valid, or every entry was valid and it was the one to expire first. -/
structure InsertsAt (i : Fin dnsCacheEntries) (looked cache : DnsCache) : Prop where
  others : ∀ j ≠ i, cache j = looked j
  evicts : (looked i).valid = true → (∀ j, (looked j).valid = true) ∧
    ∀ j, (looked i).expiresUs ≤ (looked j).expiresUs

/-- A pass of the loop leaves the cache as it is, or drops entries that have expired, and inserts
    a response after that at most. -/
structure PassKeeps (d : Datagram) (cache cache' : DnsCache) : Prop where
  drops : ∀ i, (lookupOf d cache).2 i = cache i ∨ (cache i).expiresUs ≤ d.lookupUs ∧
    (lookupOf d cache).2 i = { cache i with valid := false }
  unique : UniqueEntries (lookupOf d cache).2
  writes : cache' = cache ∨ cache' = (lookupOf d cache).2 ∨
    ∃ response, insertionOf d cache = some response ∧
      InsertsAt (slotOf d cache) (lookupOf d cache).2 cache' ∧
        cache' (slotOf d cache) =
          ⟨(queryKey d.query.val).1, (queryKey d.query.val).2, response,
            d.insertUs + dnsCacheTtlUs d.wall, true⟩

theorem uniqueEntries_of_items {cache : DnsCache} (unique : UniqueKeys (items cache)) :
    UniqueEntries cache :=
  fun i j one two name type => unique i j _ _ (items_eq_some.mpr ⟨one, rfl⟩)
    (items_eq_some.mpr ⟨two, rfl⟩) (Prod.ext name type)

theorem isMap_of_agrees {uses : List CacheUse} {cache : DnsCache}
    (agrees : Agrees uses (items cache)) : IsMap uses cache := by
  refine ⟨uniqueEntries_of_items agrees.unique, ?_⟩
  rintro now ⟨qname, qtype⟩ earlier
  have later : ∀ time, Use.look time ∈ uses → time ≤ now := fun time member => earlier _ member
  cases found : (dnsCacheLookup now qname qtype cache).1 with
  | some i =>
    obtain ⟨last, fresh⟩ :=
      (agrees.finds_iff _ _ later).mp (dnsCacheLookup_finds found)
    rw [last, Option.filter_some, if_pos (decide_eq_true fresh)]
    rfl
  | none =>
    cases last : latest (qname, qtype) uses with
    | none => rfl
    | some item =>
      have expired : ¬ now < item.expires := by
        intro fresh
        exact not_finds_of_miss found item ((agrees.finds_iff _ _ later).mpr ⟨last, fresh⟩)
      rw [Option.filter_some, if_neg (by simpa using expired)]
      rfl

theorem expiresUs_le {uses : List CacheUse} {cache : DnsCache} (agrees : Agrees uses (items cache))
    (fits : ∀ use ∈ uses, ExpiryFits use) (i : Fin dnsCacheEntries)
    (valid : (cache i).valid = true) : (cache i).expiresUs ≤ int64Max := by
  obtain ⟨displaced, inserted⟩ :=
    latest_inserted (agrees.held i _ (items_eq_some.mpr ⟨valid, rfl⟩))
  exact fits _ inserted

theorem passKeeps_serve {uses : List CacheUse} {cache : DnsCache} (myApIp : IpAddr) (d : Datagram)
    (agrees : Agrees uses (items cache)) (fits : ∀ use ∈ uses, ExpiryFits use) :
    PassKeeps d cache (serveDatagram myApIp cache d).1 := by
  refine ⟨dnsCacheLookup_drops _ _ _ _,
    uniqueEntries_of_items (agrees.unique.drops (items_drops _ _ _ _)), ?_⟩
  have effect := serveDatagram_effect myApIp cache d
  generalize cacheUses cache d = more at effect
  generalize (serveDatagram myApIp cache d).1 = cache' at effect ⊢
  cases effect with
  | ignores => exact .inl rfl
  | looks => exact .inr (.inl rfl)
  | inserts response inserted =>
    obtain ⟨miss, stored⟩ := insertionOf_stored inserted
    refine .inr (.inr ⟨response, inserted, ⟨?_, ?_⟩, ?_⟩)
    · intro j other
      rw [dnsCacheInsert, if_neg stored]
      exact Function.update_of_ne other _ _
    · apply insertSlot_absent (items_absent miss)
      intro i valid
      have same := dnsCacheLookup_entry valid
      rw [same] at valid ⊢
      exact expiresUs_le agrees fits i valid
    · rw [dnsCacheInsert, if_neg stored, List.take_of_length_le (queryKey_length _)]
      exact Function.update_self _ _ _

/-- The cache is a bounded map in every run of the task: what a lookup gives is the latest response
    to its key, and an insertion displaces another entry only when all are valid, and then the one
    to expire first. -/
theorem dnsCache_boundedMap (myApIp : IpAddr) (history : List Datagram)
    (fits : ∀ use ∈ usesFrom myApIp .init history, ExpiryFits use) :
    IsMap (usesFrom myApIp .init history) (cacheAfter myApIp history) ∧
      ∀ d, PassKeeps d (cacheAfter myApIp history)
        (serveDatagram myApIp (cacheAfter myApIp history) d).1 := by
  have agrees := cacheAfter_agrees myApIp history
  exact ⟨isMap_of_agrees agrees, fun d => passKeeps_serve myApIp d agrees fits⟩

theorem dnsCache_boundedMap_hit :
    (dnsCacheLookup 1 [0x61] 1 (cacheAfter 0 [addressDatagram 0x61 1])).1.map
        (fun i => (cacheAfter 0 [addressDatagram 0x61 1] i).response) =
      some (addressResponse 0x61 1).val := by
  have map := (dnsCache_boundedMap 0 [addressDatagram 0x61 1] (by decide +kernel)).1
  rw [map.lookup 1 ([0x61], 1) (by decide +kernel)]
  decide +kernel

end SolarConnect.Dns
