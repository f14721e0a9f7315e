import SolarConnect.Session.WithinQuota

/-!
# The daily bound

The sessions of a MAC are open for at most `DAILY_QUOTA_SEC` seconds of a UTC day, along every
run in which no lookup evicts a record in use, no reuse changes a session's MAC, nothing is due
for a session that gives way to a new one, and no session that starts passes midnight.
-/

namespace SolarConnect.Session

open Slots

/-! ## The condition on a step -/

/-- The MAC whose quota `handle_client_connect` or `/confirm` looks up. -/
def lookupMac : Operation → Option Mac
  | .clientConnect ap _ mac => if mac ≠ 0 ∧ ap.apConnect = true then some mac else none
  | .confirm ap _ ip => (confirmMac ap ip).filter fun mac => mac != 0
  | _ => none

/-- The record of the MAC is in use: it has seconds of the day, or its session runs. -/
def InUse (day : Nat) (s : Server) (mac : Mac) : Prop :=
  0 < recordedUse s.quota.records mac day ∨
    ∃ i, (s.sessions i).active = true ∧ (s.sessions i).mac = mac

instance (day : Nat) (s : Server) (mac : Mac) : Decidable (InUse day s mac) := by
  unfold InUse
  infer_instance

/-- The lookup of an operation evicts no record in use. -/
def SparesRecords (day : Nat) (op : Operation) (s : Server) : Prop :=
  match lookupMac op with
  | none => True
  | some mac =>
    Evicts s.quota.records mac → ¬ InUse day s (s.quota.records ⟨0, maxClients_pos⟩).mac

instance (day : Nat) (op : Operation) (s : Server) : Decidable (SparesRecords day op s) := by
  unfold SparesRecords
  split <;> infer_instance

/-- The day for which an operation looks the quota up. -/
def askedDay (m : Clocks) (q : QuotaState) : Nat := (getCurrentDayId m.asked q).1

/-- The request starts a new session. -/
def StartsNew (p : Platform) (input : Input) (s : Server) (req : StartRequest) : Prop :=
  requestOf p input.1 input.2 s = some req ∧ Binds req ∧
    (requestBinding input.1 req s.sessions).reuse = false

instance (p : Platform) (input : Input) (s : Server) (holds : StartRequest → Prop)
    [DecidablePred holds] : Decidable (∀ req, StartsNew p input s req → holds req) :=
  decidable_of_iff (∀ req ∈ requestOf p input.1 input.2 s, Binds req →
      (requestBinding input.1 req s.sessions).reuse = false → holds req)
    ⟨fun all req starts => all req starts.1 starts.2.1 starts.2.2,
      fun all req asks binds fresh => all req ⟨asks, binds, fresh⟩⟩

/-- What a step has to keep for the bound. A new session starts on the day of all the clocks it
    reads until its slot is written, and outlasts the refresh after that. -/
structure KeepsQuota (p : Platform) (wall : Nat) (input : Input) (s : Server) : Prop where
  dated : input.1.time / 86400 < 2 ^ 32
  young : ∀ i, (s.sessions i).active = true → (s.sessions i).mac ≠ 0 →
    ((lastRefresh p input.1 input.2 s).now - (s.sessions i).startTime) / secondUs +
      dailyQuotaSec < 2 ^ 32
  spared : SparesRecords (askedDay input.1 s.quota) input.2 s
  sameMac : ∀ req ∈ requestOf p input.1 input.2 s, Binds req →
    (requestBinding input.1 req s.sessions).reuse = true →
      boundMac req (requestBinding input.1 req s.sessions) =
        (s.sessions (requestBinding input.1 req s.sessions).slot).mac
  sameDay : ∀ req, StartsNew p input s req →
    input.1.time / 86400 = dayAt wall input.1.now ∧
      dayAt wall (writtenAt input.1 req) = dayAt wall input.1.now
  outlasts : ∀ req, StartsNew p input s req → Outlasts input.1 req s.sessions
  paid : ∀ req, StartsNew p input s req → ∀ i, (s.sessions i).active = true →
    (s.sessions i).mac ≠ 0 → (s.sessions i).dayId = input.1.time / 86400 →
      GivesUp input.1 req s.sessions i ∨ req.mac = some (s.sessions i).mac →
        usageDue (writtenAt input.1 req) (s.sessions i) = 0
  byMidnight : ∀ req, StartsNew p input s req → req.mac.getD 0 ≠ 0 →
    wall + (input.1.now + req.duration * secondUs) ≤ (dayAt wall input.1.now + 1) * dayUs

/-! ## The lookup -/

theorem lookupMac_ne_zero {op : Operation} {mac : Mac} (looks : lookupMac op = some mac) :
    mac ≠ 0 := by
  cases op with
  | clientConnect ap random other =>
    simp only [lookupMac, Option.ite_none_right_eq_some, Option.some.injEq] at looks
    exact looks.2 ▸ looks.1.1
  | confirm ap random ip =>
    simp only [lookupMac, Option.filter_eq_some_iff, bne_iff_ne] at looks
    exact looks.2
  | _ => simp [lookupMac] at looks

theorem confirmGrant_quota (m : Clocks) (mac : Mac) (s : Server) :
    (confirmGrant m (some mac) s).2.quota = (getQuotaRemainingForMac m.asked mac s.quota).2 := by
  unfold confirmGrant
  dsimp only
  split <;> rfl

/-- The lookup puts the record of its MAC on the current day, and nothing else. -/
theorem lookedUp_records (m : Clocks) (op : Operation) (s : Server) :
    (lookedUp m op s).records =
      match lookupMac op with
      | none => s.quota.records
      | some mac =>
        putRecord s.quota.records mac (askedDay m s.quota)
          (recordedUse s.quota.records mac (askedDay m s.quota)) := by
  cases op with
  | clientConnect ap random mac =>
    by_cases looks : mac ≠ 0 ∧ ap.apConnect = true
    · simp only [lookedUp, lookupMac, if_pos looks]
      exact (getQuotaRemaining_spec m.asked looks.1 s.quota).2
    · simp only [lookedUp, lookupMac, if_neg looks]
  | confirm ap random ip =>
    simp only [lookedUp, lookupMac]
    cases resolved : confirmMac ap ip with
    | none => rfl
    | some mac =>
      rw [confirmGrant_quota]
      by_cases zero : mac = 0
      · rw [zero, getQuotaRemainingForMac, if_pos rfl, getCurrentDayId_records]
        rfl
      · simp only [Option.filter_some, bne_iff_ne, ne_eq, zero, not_false_eq_true, if_true]
        exact (getQuotaRemaining_spec m.asked zero s.quota).2
  | _ => rfl

/-- A grant for a MAC fits what its record leaves. -/
theorem request_left {p : Platform} {m : Clocks} {op : Operation} {s : Server}
    (entry : ∀ req, op ≠ .startOrResume req) {req : StartRequest}
    (request : requestOf p m op s = some req) {mac : Mac} (named : req.mac = some mac)
    (real : mac ≠ 0) :
    lookupMac op = some mac ∧
      recordedUse s.quota.records mac (askedDay m s.quota) + req.duration ≤ dailyQuotaSec := by
  have remaining := (getQuotaRemaining_spec m.asked real s.quota).1
  rw [← askedDay] at remaining
  cases op with
  | startOrResume given => exact absurd rfl (entry given)
  | clientConnect ap random other =>
    simp only [requestOf, Option.ite_none_right_eq_some, Option.some.injEq] at request
    obtain ⟨starts, rfl⟩ := request
    obtain rfl : other = mac := by simpa [connectRequest] using named
    refine ⟨if_pos ⟨starts.1, starts.2.1⟩, ?_⟩
    have some_left := Nat.pos_of_ne_zero starts.2.2.1
    rw [duration_granted some_left rfl]
    omega
  | confirm ap random ip =>
    simp only [requestOf, Option.map_eq_some_iff] at request
    obtain ⟨granted, starts, rfl⟩ := request
    have resolved : confirmMac ap ip = some mac := named
    refine ⟨?_, ?_⟩
    · rw [lookupMac, resolved, Option.filter_some, if_pos (by simpa using real)]
    simp only [confirmStarts, Option.ite_none_right_eq_some, resolved, confirmGrant] at starts
    obtain ⟨-, starts⟩ := starts
    split at starts
    · simp at starts
    · rename_i some_left
      simp only [Option.some.injEq] at starts
      have midnight := untilNextDay_pos m.capped
      have positive : 0 < granted := by omega
      rw [duration_granted positive rfl]
      omega
  | _ => simp [requestOf] at request

/-- What a lookup leaves on record for a day, a grant for the MAC fits. -/
theorem lookedUp_left {p : Platform} {m : Clocks} {op : Operation} {s : Server}
    (entry : ∀ req, op ≠ .startOrResume req) {req : StartRequest}
    (request : requestOf p m op s = some req) {mac : Mac} (named : req.mac = some mac)
    (real : mac ≠ 0) (day : Nat) :
    recordedUse (lookedUp m op s).records mac day + req.duration ≤ dailyQuotaSec ∧
      recordOf (lookedUp m op s).records mac ≠ none := by
  obtain ⟨looks, left⟩ := request_left entry request named real
  have records := lookedUp_records m op s
  rw [looks] at records
  dsimp only at records
  rw [records, recordedUse_putRecord_self, recordOf_putRecord_self]
  refine ⟨?_, Option.some_ne_none _⟩
  split <;> omega

/-! ## The turnovers of a step -/

theorem Settles.turnover {m : Moment} {list : List (Fin maxClients)} {s s' : Server}
    (settles : Settles m list s s') (today : Nat) :
    Turnover m.now today (currentDay m s.quota) none list s.sessions s'.sessions s.quota.records
      s'.quota.records where
  nodup := settles.nodup
  active := settles.active
  charged := settles.charged
  begins i session new := by simp at new
  goesOn i _ active := by
    have other : i ∉ list := fun member => by simp [settles.inactive i member] at active
    have same := settles.kept i other
    rw [chargedSession, if_neg other]
    rw [same] at active
    exact ⟨active, same⟩
  unpaid i active _ _ ended other := absurd ended ((settles.kept i other).not_ended active)

/-- A heartbeat that ends nothing charges its session. -/
theorem checkpoint_turnover (p : Platform) (m : Moment) {i : Fin maxClients} {s : Server}
    (active : (s.sessions i).active = true) (today : Nat) :
    ∃ list, Turnover m.now today (currentDay m s.quota) none list s.sessions
      (checkpointSlot p m false i s).sessions s.quota.records
      (checkpointSlot p m false i s).quota.records := by
  have records := checkpointSlot_records p m false i s
  have other : ∀ j, j ≠ i → (checkpointSlot p m false i s).sessions j = s.sessions j :=
    fun j elsewhere => checkpointSlot_other elsewhere
  have going : ∀ j, (s.sessions j).active = true →
      ¬ EndedOrRestarted (s.sessions j) ((checkpointSlot p m false i s).sessions j) := by
    intro j activeJ
    rcases eq_or_ne j i with rfl | elsewhere
    · rw [EndedOrRestarted, checkpointSlot_self p m false j s]
      simp [activeJ]
    · rw [other j elsewhere]
      exact (sameUse_refl _).not_ended activeJ
  have unpaid : ∀ j, (s.sessions j).active = true →
      EndedOrRestarted (s.sessions j) ((checkpointSlot p m false i s).sessions j) →
        usageDue m.now (s.sessions j) = 0 := fun j activeJ ended => absurd ended (going j activeJ)
  have here : (checkpointSlot p m false i s).sessions i =
      (checkpointSessionUsage p.nvs m false (s.sessions i) s.quota).1 := by
    simp [checkpointSlot]
  rw [checkpointSessionUsage] at here
  cases due : nothingDue m.now (s.sessions i) with
  | true =>
    rw [chargeSession_nothing due] at records
    rw [due, if_pos rfl] at here
    have same : ∀ j, (checkpointSlot p m false i s).sessions j = s.sessions j := fun j => by
      rcases eq_or_ne j i with rfl | elsewhere
      · exact here
      · exact other j elsewhere
    refine ⟨[], List.nodup_nil, by simp, records, by simp, fun j _ activeJ => ?_,
      fun j activeJ _ _ ended _ => unpaid j activeJ ended⟩
    rw [same] at activeJ ⊢
    exact ⟨activeJ, by simp [chargedSession]⟩
  | false =>
    rw [due, if_neg (by simp)] at here
    refine ⟨[i], List.nodup_singleton i, by simpa using active, records, by simp,
      fun j _ activeJ => ?_, fun j activeJ _ _ ended _ => unpaid j activeJ ended⟩
    rcases eq_or_ne j i with rfl | elsewhere
    · rw [here, chargedSession, if_pos (by simp)]
      exact ⟨active, rfl⟩
    · rw [other j elsewhere] at activeJ ⊢
      rw [chargedSession, if_neg (by simpa using elsewhere)]
      exact ⟨activeJ, rfl⟩

theorem SameUse.symm {a b : ClientSession} (same : SameUse a b) : SameUse b a := by
  rw [SameUse, same]

theorem SameUse.usageDue {a b : ClientSession} (same : SameUse a b) (now : Nat) :
    usageDue now b = Session.usageDue now a := by
  rw [same]
  rfl

/-- A reuse that keeps the MAC keeps the use. -/
theorem reusedSession_sameUse {req : StartRequest} {session : ClientSession}
    (sameMac : req.mac.getD session.mac = session.mac) :
    SameUse session (reusedSession req session) := by
  rw [SameUse, reusedSession, sameMac]

/-- The first refresh, where there is one, settles what is over. -/
theorem opened_turnover (p : Platform) (m : Clocks) (req : StartRequest) (s : Server)
    (today : Nat) :
    ∃ first, Turnover (writtenAt m req) today (currentDay m s.quota) none first s.sessions
      (openedServer p m req s).sessions s.quota.records (openedServer p m req s).quota.records := by
  unfold writtenAt
  by_cases zero : req.ip = 0
  · obtain ⟨first, opens, -⟩ := opened_settles p m req s
    rw [if_pos zero]
    exact ⟨first, opens.turnover today⟩
  · rw [if_neg zero, openedServer, if_neg zero]
    exact ⟨[], (Settles.refl m.toMoment s).turnover today⟩

/-- A session that is active after the first refresh was so before. -/
theorem opened_kept (p : Platform) {m : Clocks} {req : StartRequest} {s : Server}
    {i : Fin maxClients} (active : ((openedServer p m req s).sessions i).active = true) :
    (s.sessions i).active = true ∧ (searchedTable m req s.sessions i).active = true ∧
      SameUse (s.sessions i) ((openedServer p m req s).sessions i) := by
  obtain ⟨first, opens, -⟩ := opened_settles p m req s
  have same := (opens.untouched active).2
  refine ⟨?_, ((opened_sameTable p m req s) i).1.trans active, same⟩
  rw [same] at active
  exact active

/-- A request that reuses a session of its own MAC begins none. -/
theorem written_turnover_reuse (p : Platform) {m : Clocks} {req : StartRequest} {s : Server}
    (reuse : (requestBinding m req s.sessions).reuse = true)
    (sameMac : boundMac req (requestBinding m req s.sessions) =
      (s.sessions (requestBinding m req s.sessions).slot).mac) (now today day : Nat) :
    Turnover now today day none [] (openedServer p m req s).sessions
      (writtenServer p m req s).sessions (openedServer p m req s).quota.records
      (writtenServer p m req s).quota.records := by
  obtain ⟨table, found⟩ := requestBinding_reuse reuse
  have live : ((openedServer p m req s).sessions (requestBinding m req s.sessions).slot).active =
      true := by
    rw [← ((opened_sameTable p m req s) _).1]
    exact foundSession_active found
  have slot : SameUse ((openedServer p m req s).sessions (requestBinding m req s.sessions).slot)
      ((writtenServer p m req s).sessions (requestBinding m req s.sessions).slot) := by
    obtain ⟨-, searched, same⟩ := opened_kept p live
    rcases written_slot p m req s with ⟨-, -, -, alike⟩ | ⟨none, -⟩
    · refine same.symm.trans (SameUse.trans (reusedSession_sameUse ?_) alike)
      rw [boundMac, reuse, table, searchedTable_active searched] at sameMac
      exact sameMac
    · simp [reuse] at none
  have other : ∀ i, ((openedServer p m req s).sessions i).active = true →
      SameUse ((openedServer p m req s).sessions i) ((writtenServer p m req s).sessions i) := by
    intro i active
    rcases eq_or_ne i (requestBinding m req s.sessions).slot with rfl | elsewhere
    · exact slot
    obtain ⟨drops, same | ⟨-, idle⟩⟩ := written_other p elsewhere
    · rw [same]
      exact sameUse_refl _
    · -- Where a session is reused none is dropped.
      rw [table, (opened_sameTable p m req s i).1, active, idle] at drops
      cases drops
  refine ⟨List.nodup_nil, by simp, (writtenServer_quota p m req s).1, by simp,
    fun i _ active => ?_,
    fun i active _ _ ended _ => absurd ended ((other i active).not_ended active)⟩
  rw [chargedSession, if_neg (by simp)]
  have before : ((openedServer p m req s).sessions i).active = true := by
    rcases eq_or_ne i (requestBinding m req s.sessions).slot with rfl | elsewhere
    · exact live
    obtain ⟨-, same | ⟨opened, -⟩⟩ := written_other p elsewhere
    · rw [← same]
      exact active
    · exact opened
  exact ⟨before, other i before⟩

/-- A request that reuses none begins a session. -/
theorem written_turnover_new (p : Platform) {m : Clocks} {req : StartRequest} {s : Server}
    (new : (requestBinding m req s.sessions).reuse = false) {now today : Nat}
    (paid : ∀ i, (s.sessions i).active = true → (s.sessions i).mac ≠ 0 →
      (s.sessions i).dayId = today → GivesUp m req s.sessions i →
        usageDue now (s.sessions i) = 0) (day : Nat) :
    Turnover now today day
      (some ((requestBinding m req s.sessions).slot, startedSession m (currentDay m s.quota) req))
        []
      (openedServer p m req s).sessions (writtenServer p m req s).sessions
      (openedServer p m req s).quota.records (writtenServer p m req s).quota.records where
  nodup := List.nodup_nil
  active _ member := absurd member List.not_mem_nil
  charged := (writtenServer_quota p m req s).1
  begins i session here := by
    simp only [Option.some.injEq, Prod.mk.injEq] at here
    obtain ⟨rfl, rfl⟩ := here
    rcases written_slot p m req s with ⟨reuse, -⟩ | ⟨-, same⟩
    · simp [new] at reuse
    · rw [same]
      exact sameUse_refl _
  goesOn i old active := by
    have elsewhere : i ≠ (requestBinding m req s.sessions).slot := fun here =>
      old _ (by rw [here])
    rw [chargedSession, if_neg (by simp)]
    obtain ⟨-, same | ⟨-, idle⟩⟩ := written_other p elsewhere
    · rw [same] at active ⊢
      exact ⟨active, sameUse_refl _⟩
    · simp [idle] at active
  unpaid i active real today ended _ := by
    obtain ⟨before, searched, same⟩ := opened_kept p active
    rw [same.usageDue]
    rw [same] at real today
    refine paid i before real today ⟨searched, ?_⟩
    rcases eq_or_ne i (requestBinding m req s.sessions).slot with here | elsewhere
    · exact Or.inl ⟨here, new⟩
    right
    obtain ⟨drops, kept | ⟨-, idle⟩⟩ := written_other p elsewhere
    · rw [kept] at ended
      exact absurd ended ((sameUse_refl _).not_ended active)
    · rw [← drops]
      exact idle

/-- When none is reused, the slot of the requested MAC's session is the one written. -/
theorem slotToWrite_mac {m : Clocks} {req : StartRequest} {sessions : SessionTable}
    (new : (requestBinding m req sessions).reuse = false) {mac : Mac}
    (named : req.mac = some mac) {j : Fin maxClients}
    (active : ((requestBinding m req sessions).dropped j).active = true)
    (same : ((requestBinding m req sessions).dropped j).mac = mac) :
    ((requestBinding m req sessions).dropped (requestBinding m req sessions).slot).active =
        true ∧
      ((requestBinding m req sessions).dropped (requestBinding m req sessions).slot).mac =
        mac := by
  obtain ⟨previous, written⟩ := requestBinding_new new
  rw [written]
  generalize (requestBinding m req sessions).dropped = table at active same ⊢
  have found : (findSessionIndexByMac table (some mac)).isSome = true :=
    firstSlot_isSome_iff.mpr ⟨j, by simp [active, same]⟩
  obtain ⟨k, place⟩ := Option.isSome_iff_exists.mp found
  have here : slotToWrite req previous table = k := by
    simp [slotToWrite, named, place]
  rw [here]
  simpa using firstSlot_passes place

/-! ## One step -/

section

variable {p : Platform} {wall : Nat} {input : Input} {o : Observed}

/-- The lookup reads the clock of a moment since the last operation. -/
theorem asked_moment (order : InOrder wall input o) :
    ∃ at', o.clock ≤ at' ∧ at' ≤ input.1.now ∧ input.1.asked = (wall + at') / secondUs := by
  have forward := order.forward
  have since := order.asked
  have before := order.valid.capped.trans order.valid.before
  refine ⟨max o.clock (input.1.asked * secondUs - wall), Nat.le_max_left _ _, ?_, ?_⟩
  · have reached := Nat.mul_le_mul_right secondUs before
    have whole := Nat.div_mul_le_self (wall + input.1.now) secondUs
    omega
  · have positive : 0 < secondUs := by decide
    by_cases early : input.1.asked * secondUs ≤ wall + o.clock
    · rw [Nat.max_eq_left (by omega)]
      exact le_antisymm ((Nat.le_div_iff_mul_le positive).mpr early) since
    · rw [Nat.max_eq_right (by omega), Nat.add_sub_cancel' (by omega),
        Nat.mul_div_cancel _ positive]

/-- The lookup that comes first keeps the invariant. -/
theorem WithinQuota.looked (order : InOrder wall input o)
    (keeps : KeepsQuota p wall input o.server) (table : TableOk o.server.quota.records)
    (quota : WithinQuota wall o.clock o.server.sessions o.server.quota.records o.ledger) :
    WithinQuota wall input.1.now o.server.sessions (lookedUp input.1 input.2 o.server).records
      (o.ledger.elapse wall o.clock input.1.now o.server.sessions) := by
  obtain ⟨at', since, until', together⟩ := asked_moment order
  have day : askedDay input.1 o.server.quota = dayAt wall at' := by
    have dated := keeps.dated
    have asked : input.1.asked ≤ input.1.time :=
      order.valid.capped.trans (order.valid.before.trans order.valid.since)
    have earlier : input.1.asked / 86400 ≤ input.1.time / 86400 := Nat.div_le_div_right asked
    rw [askedDay, getCurrentDayId_valid order.valid.clockSet, Nat.mod_eq_of_lt (by omega),
      dayAt_together together]
  have then' := quota.elapse since
  rw [← elapse_elapse wall since until']
  refine WithinQuota.elapse ?_ until'
  rw [lookedUp_records, day]
  cases looks : lookupMac input.2 with
  | none => exact then'
  | some mac =>
    refine then'.lookup table (lookupMac_ne_zero looks) fun evicts => ?_
    have spared := keeps.spared
    rw [SparesRecords, looks] at spared
    have unused := spared evicts
    rw [day, InUse, not_or, Nat.pos_iff_ne_zero, not_not] at unused
    exact ⟨unused.1, fun i active same => unused.2 ⟨i, active, same⟩⟩

theorem stages_settles {m : Clocks} {op : Operation} {s : Server}
    (unbound : ∀ req, requestOf p m op s = some req → ¬ Binds req) :
    stages p m op s = [((lastRefresh p m op s).now, (step p m op s).sessions)] := by
  unfold stages
  cases request : requestOf p m op s with
  | none => rfl
  | some req =>
    rw [Option.filter_some, if_neg (by simpa using unbound req request)]

theorem stages_starts {m : Clocks} {op : Operation} {s : Server} {req : StartRequest}
    (request : requestOf p m op s = some req) (binds : Binds req) :
    stages p m op s =
      [(writtenAt m req, (openedServer p m req (calledServer p m op s)).sessions),
        (writtenAt m req, (writtenServer p m req (calledServer p m op s)).sessions),
        (m.closed, (step p m op s).sessions)] := by
  unfold stages
  rw [request, Option.filter_some, if_pos (by simpa using binds)]

theorem writtenAt_bounds (m : Clocks) (req : StartRequest) :
    m.now ≤ writtenAt m req ∧ writtenAt m req ≤ m.closed := by
  unfold writtenAt
  have opens := m.opens
  have closes := m.closes
  split
  · exact ⟨opens, closes⟩
  · exact ⟨le_rfl, opens.trans closes⟩

theorem lastRefresh_now (m : Clocks) (op : Operation) (s : Server) :
    m.now ≤ (lastRefresh p m op s).now := by
  have opens := m.opens
  have closes := m.opens.trans m.closes
  unfold lastRefresh
  split
  · split
    · exact closes
    · exact opens
  · split
    · exact closes
    · exact le_rfl

/-- Sessions in the same use are as young. -/
theorem Young.of_use {now later : Nat} {before after : SessionTable} (young : Young later before)
    (order : now ≤ later)
    (same : ∀ i, (after i).active = true →
      (before i).active = true ∧ SameUse (before i) (after i)) : Young now after := by
  intro i active real
  obtain ⟨live, alike⟩ := same i active
  rw [alike] at real ⊢
  obtain ⟨started, recent⟩ := young i live real
  have shorter : (now - (before i).startTime) / secondUs ≤
      (later - (before i).startTime) / secondUs := Nat.div_le_div_right (by omega)
  exact ⟨started, (Nat.add_le_add_right shorter _).trans_lt recent⟩

/-- A session that a step begins may begin. -/
theorem mayBegin_of_request (order : InOrder wall input o)
    (keeps : KeepsQuota p wall input o.server)
    (alone : ∀ i j, (o.server.sessions i).active = true → (o.server.sessions j).active = true →
      (o.server.sessions i).mac ≠ 0 → (o.server.sessions j).mac = (o.server.sessions i).mac → j = i)
    {t : Server} (sessions : t.sessions = o.server.sessions) {req : StartRequest}
    (starts : StartsNew p input o.server req) {dayId : Nat} {records : QuotaTable}
    (day : dayAt wall (writtenAt input.1 req) = input.1.time / 86400)
    (dated : dayId = dayAt wall input.1.now)
    (kept : ∀ mac, recordOf records mac = recordOf (lookedUp input.1 input.2 o.server).records mac)
    (paid : ∀ mac, req.mac = some mac → mac ≠ 0 →
      recordedUse records mac (dayAt wall (writtenAt input.1 req)) ≤
        recordedUse (lookedUp input.1 input.2 o.server).records mac
          (dayAt wall (writtenAt input.1 req)))
    (real : req.mac.getD 0 ≠ 0) :
    MayBegin wall (writtenAt input.1 req) (requestBinding input.1 req o.server.sessions).slot
      (startedSession input.1 dayId req) (openedServer p input.1 req t).sessions
      (writtenServer p input.1 req t).sessions records := by
  cases named : req.mac with
  | none => simp [named] at real
  | some mac =>
    rw [named, Option.getD_some] at real
    have own : (startedSession input.1 dayId req).mac = mac := by simp [startedSession, named]
    obtain ⟨left, recorded⟩ := lookedUp_left order.entry starts.1 named real
      (dayAt wall (writtenAt input.1 req))
    refine ⟨fun j elsewhere active same => ?_, ?_, ?_, ?_, fun j active same today => ?_⟩
    · -- Its session before would have been the one written.
      obtain ⟨first, second, started⟩ := startOrResume_starts p input.1 starts.2.1 t
      rw [own] at same
      rw [← sessions] at elsewhere
      have new : (requestBinding input.1 req t.sessions).reuse = false := sessions ▸ starts.2.2
      obtain ⟨source, -, alike⟩ := started.opened_kept elsewhere active
      have stays : ((requestBinding input.1 req t.sessions).dropped j).active = true :=
        (written_other p elsewhere).1.symm.trans active
      have before := (dropped_active stays).2
      rw [alike] at same
      have written := slotToWrite_mac new named stays (by rw [before]; exact same)
      rw [(dropped_active written.1).2] at written
      rw [sessions] at written source same elsewhere
      exact elsewhere (alone _ j written.1 source (written.2 ▸ real)
        (same.trans written.2.symm))
    · have fits := keeps.byMidnight req starts (by rwa [named])
      rw [← dated] at fits
      exact fits
    · rw [own]
      exact (Nat.add_le_add_right (paid mac named real) _).trans left
    · rw [own, kept]
      exact recorded
    · rw [own] at same
      obtain ⟨before, -, alike⟩ := opened_kept p active
      rw [alike.usageDue]
      rw [alike] at same today
      rw [sessions] at before same today ⊢
      refine keeps.paid req starts j before (same ▸ real) (today.trans day) (Or.inr ?_)
      rw [named, same]

/-- The sessions of the written table are young at the last refresh. -/
theorem young_written {m : Clocks} {req : StartRequest} {t : Server}
    (young : Young m.closed t.sessions)
    (brief : (requestBinding m req t.sessions).reuse = false → req.mac.getD 0 ≠ 0 →
      (m.closed - m.now) / secondUs + dailyQuotaSec < 2 ^ 32)
    (sameMac : (requestBinding m req t.sessions).reuse = true →
      boundMac req (requestBinding m req t.sessions) =
        (t.sessions (requestBinding m req t.sessions).slot).mac)
    (binds : Binds req) : Young m.closed (writtenServer p m req t).sessions := by
  intro i active real
  rcases eq_or_ne i (requestBinding m req t.sessions).slot with rfl | elsewhere
  · rcases written_slot p m req t with ⟨reuse, live, -, same⟩ | ⟨new, same⟩
    · rw [same] at real ⊢
      refine young _ live ?_
      have mac := sameMac reuse
      rw [boundMac, reuse, if_pos rfl, (requestBinding_reuse reuse).1] at mac
      have searched := searchedTable_active
        (foundSession_active (requestBinding_reuse reuse).2)
      rw [searched] at mac
      rw [← mac]
      exact real
    · rw [same] at real ⊢
      exact ⟨m.booted, brief new real⟩
  · obtain ⟨first, second, started⟩ := startOrResume_starts p m binds t
    obtain ⟨live, -, alike⟩ := started.opened_kept elsewhere active
    rw [alike] at real ⊢
    exact young i live real

/-- What the observer has after a step that starts none. -/
theorem observe_settles
    (unbound : ∀ req, requestOf p input.1 input.2 o.server = some req → ¬ Binds req) :
    (observe p wall input o).clock = (lastRefresh p input.1 input.2 o.server).now ∧
      (observe p wall input o).ledger =
        (o.ledger.elapse wall o.clock (lastRefresh p input.1 input.2 o.server).now
          o.server.sessions).settle o.server.sessions (stepInput p input o.server).sessions := by
  unfold observe
  rw [stages_settles unbound]
  exact ⟨rfl, rfl⟩

/-- A step that starts no session keeps the invariant. -/
theorem WithinQuota.settles (order : InOrder wall input o)
    (keeps : KeepsQuota p wall input o.server) (ok : BooksOk o.server)
    (within : WithinQuota wall o.clock o.server.sessions o.server.quota.records o.ledger)
    (unbound : ∀ req, requestOf p input.1 input.2 o.server = some req → ¬ Binds req)
    {day : Nat} {list : List (Fin maxClients)}
    (turn : Turnover (lastRefresh p input.1 input.2 o.server).now
      (dayAt wall (lastRefresh p input.1 input.2 o.server).now) day none list o.server.sessions
      (stepInput p input o.server).sessions (lookedUp input.1 input.2 o.server).records
      (stepInput p input o.server).quota.records) :
    WithinQuota wall (observe p wall input o).clock (observe p wall input o).server.sessions
      (observe p wall input o).server.quota.records (observe p wall input o).ledger := by
  have late := lastRefresh_now (p := p) input.1 input.2 o.server
  have quota := (within.looked order keeps ok.table).elapse late
  rw [elapse_elapse wall order.forward late] at quota
  have young : Young (lastRefresh p input.1 input.2 o.server).now o.server.sessions :=
    fun i active real => ⟨ok.started i active, keeps.young i active real⟩
  have settled : (observe p wall input o).clock = _ ∧ (observe p wall input o).ledger = _ :=
    observe_settles unbound
  rw [settled.1, settled.2]
  exact SoundTurnover.withinQuota
    ⟨quota, tableOk_lookedUp ok.table _ _, young, turn, by simp, by simp⟩

/-- A session that a step begins is not over at the last refresh. -/
theorem KeepsQuota.started_outlasts (keeps : KeepsQuota p wall input o.server)
    {req : StartRequest} (starts : StartsNew p input o.server req) :
    input.1.closed < input.1.now + req.duration * secondUs := by
  have outlasts := keeps.outlasts req starts
  rwa [Outlasts, boundEnd, if_neg (by simp [starts.2.2])] at outlasts

/-- Nor is it old there, with a MAC, since no quota is longer than a day's. -/
theorem KeepsQuota.started_young (order : InOrder wall input o)
    (keeps : KeepsQuota p wall input o.server) {req : StartRequest}
    (starts : StartsNew p input o.server req) (real : req.mac.getD 0 ≠ 0) :
    (input.1.closed - input.1.now) / secondUs + dailyQuotaSec < 2 ^ 32 := by
  have outlasts := keeps.started_outlasts starts
  cases named : req.mac with
  | none => simp [named] at real
  | some mac =>
    have left := (lookedUp_left order.entry starts.1 named (by simpa [named] using real) 0).1
    have short : (input.1.closed - input.1.now) / secondUs ≤ req.duration :=
      Nat.div_le_of_le_mul (by rw [Nat.mul_comm]; omega)
    unfold dailyQuotaSec at left ⊢
    omega

section

variable {t : Server} {req : StartRequest} {first second : List (Fin maxClients)}

/-- The refresh before the slot is written is a sound turnover. -/
theorem WithinQuota.opens (order : InOrder wall input o) (keeps : KeepsQuota p wall input o.server)
    (ok : BooksOk o.server)
    (within : WithinQuota wall o.clock o.server.sessions o.server.quota.records o.ledger)
    (sessions : t.sessions = o.server.sessions)
    (records : t.quota = lookedUp input.1 input.2 o.server)
    (young : Young (writtenAt input.1 req) t.sessions) :
    ∃ list, SoundTurnover wall (writtenAt input.1 req) (currentDay input.1 t.quota) none
      list t.sessions (openedServer p input.1 req t).sessions t.quota.records
      (openedServer p input.1 req t).quota.records
      (o.ledger.elapse wall o.clock (writtenAt input.1 req) t.sessions) := by
  have since := (writtenAt_bounds input.1 req).1
  have looked := (within.looked order keeps ok.table).elapse since
  rw [elapse_elapse wall order.forward since, ← sessions, ← records] at looked
  obtain ⟨list, turn⟩ := opened_turnover p input.1 req t (dayAt wall (writtenAt input.1 req))
  exact ⟨list, looked, records ▸ tableOk_lookedUp ok.table _ _, young, turn, by simp, by simp⟩

/-- The session that a step begins is fresh. -/
theorem KeepsQuota.fresh (order : InOrder wall input o)
    (keeps : KeepsQuota p wall input o.server) (starts : StartsNew p input o.server req)
    {dayId : Nat} (today : dayId = dayAt wall input.1.now) :
    Fresh wall (writtenAt input.1 req) (startedSession input.1 dayId req) := by
  obtain ⟨since, until'⟩ := writtenAt_bounds input.1 req
  obtain ⟨sameDay, sameWritten⟩ := keeps.sameDay req starts
  have clockSet := order.valid.time_set
  simp only [hasValidSystemTime, decide_eq_true_eq] at clockSet
  refine ⟨since, until'.trans (keeps.started_outlasts starts).le, sameWritten.symm, rfl,
    today.trans sameWritten.symm, ?_, rfl⟩
  change dayId ≠ 0
  rw [today, ← sameDay]
  omega

/-- Writing the slot is a sound turnover. -/
theorem SoundTurnover.writes (order : InOrder wall input o)
    (keeps : KeepsQuota p wall input o.server)
    (within : WithinQuota wall o.clock o.server.sessions o.server.quota.records o.ledger)
    (sessions : t.sessions = o.server.sessions)
    (records : t.quota = lookedUp input.1 input.2 o.server)
    (request : requestOf p input.1 input.2 o.server = some req) (binds : Binds req)
    {list : List (Fin maxClients)} {ledger : Ledger}
    (sound : SoundTurnover wall (writtenAt input.1 req) (currentDay input.1 t.quota) none
      list t.sessions (openedServer p input.1 req t).sessions t.quota.records
      (openedServer p input.1 req t).quota.records ledger) :
    ∃ begun list', SoundTurnover wall (writtenAt input.1 req) 0 begun list'
      (openedServer p input.1 req t).sessions (writtenServer p input.1 req t).sessions
      (openedServer p input.1 req t).quota.records (writtenServer p input.1 req t).quota.records
      ((ledger.settle t.sessions (openedServer p input.1 req t).sessions).elapse wall
        (writtenAt input.1 req) (writtenAt input.1 req)
        (openedServer p input.1 req t).sessions) := by
  have opened := sound.withinQuota.elapse le_rfl
  have table : TableOk (openedServer p input.1 req t).quota.records := by
    rw [sound.turn.charged]
    exact tableOk_chargeAll sound.ok _
  have young : Young (writtenAt input.1 req) (openedServer p input.1 req t).sessions :=
    sound.young.of_use le_rfl fun i active => by
      obtain ⟨before, -, same⟩ := opened_kept p active
      exact ⟨before, same⟩
  cases reuse : (requestBinding input.1 req t.sessions).reuse with
  | true =>
    have sameMac := keeps.sameMac req request binds (sessions ▸ reuse)
    rw [← sessions] at sameMac
    exact ⟨_, _, opened, table, young, written_turnover_reuse p reuse sameMac _ _ 0, by simp,
      by simp⟩
  | false =>
    have starts : StartsNew p input o.server req := ⟨request, binds, sessions ▸ reuse⟩
    obtain ⟨sameDay, sameWritten⟩ := keeps.sameDay req starts
    have day : dayAt wall (writtenAt input.1 req) = input.1.time / 86400 :=
      sameWritten.trans sameDay.symm
    have today : currentDay input.1 t.quota = dayAt wall input.1.now := by
      rw [currentDay_valid order.valid.time_set, Nat.mod_eq_of_lt keeps.dated, sameDay]
    have turn := @written_turnover_new p input.1 req t reuse (writtenAt input.1 req)
      (dayAt wall (writtenAt input.1 req))
      (fun i active real same gives => by
        rw [sessions] at active real same gives ⊢
        exact keeps.paid req starts i active real (same.trans day) (Or.inl gives)) 0
    refine ⟨_, _, opened, table, young, turn, fun i session here => ?_,
      fun i session here real => ?_⟩
    all_goals
      simp only [Option.some.injEq, Prod.mk.injEq] at here
      obtain ⟨rfl, rfl⟩ := here
    · exact keeps.fresh order starts today
    · have begins := mayBegin_of_request order keeps within.alone sessions starts day today
        (fun mac => by rw [sound.recordOf, records])
        (fun mac named real => by
          rw [← records]
          refine sound.recorded_le real fun j active same today => ?_
          rw [sessions] at active same today ⊢
          refine keeps.paid req starts j active (same ▸ real) (today.trans day) (Or.inr ?_)
          rw [named, same]) real
      rw [← sessions] at begins
      exact begins

/-- A step that starts a session keeps the invariant, from table to table. -/
theorem WithinQuota.starts (order : InOrder wall input o)
    (keeps : KeepsQuota p wall input o.server) (ok : BooksOk o.server)
    (within : WithinQuota wall o.clock o.server.sessions o.server.quota.records o.ledger)
    (sessions : t.sessions = o.server.sessions)
    (records : t.quota = lookedUp input.1 input.2 o.server)
    (request : requestOf p input.1 input.2 o.server = some req) (binds : Binds req)
    (called : t = calledServer p input.1 input.2 o.server)
    (started : Starts p input.1 req first second t (stepInput p input o.server)) :
    WithinQuota wall (observe p wall input o).clock (observe p wall input o).server.sessions
      (observe p wall input o).server.quota.records (observe p wall input o).ledger := by
  have until' := (writtenAt_bounds input.1 req).2
  have young : Young input.1.closed t.sessions := by
    rw [sessions]
    intro i active real
    have recent := keeps.young i active real
    rw [lastRefresh_binds request binds] at recent
    exact ⟨ok.started i active, recent⟩
  obtain ⟨list, opens⟩ := within.opens order keeps ok sessions records
    (young.of_use until' fun i active => ⟨active, sameUse_refl _⟩)
  obtain ⟨begun, list', writes⟩ := opens.writes order keeps within sessions records request binds
  have table : TableOk (writtenServer p input.1 req t).quota.records := by
    rw [(writtenServer_quota p input.1 req t).1]
    exact writes.ok
  have closing : Young input.1.closed (writtenServer p input.1 req t).sessions :=
    young_written young
      (fun new => keeps.started_young order ⟨request, binds, sessions ▸ new⟩)
      (by
        rw [sessions]
        exact keeps.sameMac req request binds) binds
  have after := SoundTurnover.withinQuota ⟨writes.withinQuota.elapse until', table, closing,
    started.closes.turnover (dayAt wall input.1.closed), by simp, by simp⟩
  unfold observe
  rw [stages_starts request binds, ← called, ← sessions]
  exact after

end

/-- A step keeps the invariant. -/
theorem WithinQuota.step (order : InOrder wall input o)
    (keeps : KeepsQuota p wall input o.server) (ok : BooksOk o.server)
    (within : WithinQuota wall o.clock o.server.sessions o.server.quota.records o.ledger) :
    WithinQuota wall (observe p wall input o).clock (observe p wall input o).server.sessions
      (observe p wall input o).server.quota.records (observe p wall input o).ledger := by
  have books := step_books p input.1 input.2 ok.timed
  change StepBooks p input.1 input.2 o.server (stepInput p input o.server) at books
  cases books with
  | settles t sessions records unbound list settled inside =>
    have turn := settled.turnover (dayAt wall (lastRefresh p input.1 input.2 o.server).now)
    rw [sessions, records] at turn
    exact within.settles order keeps ok unbound turn
  | starts t sessions records req request binds called sweeps first second started =>
    exact within.starts order keeps ok sessions records request binds called started
  | checkpoints i heartbeat active result =>
    obtain ⟨list, turn⟩ := checkpoint_turnover p input.1 active (dayAt wall input.1.now)
    obtain ⟨m, op⟩ := input
    dsimp only at heartbeat
    subst heartbeat
    rw [← result] at turn
    exact within.settles order keeps ok (fun _ => nofun) turn

end

/-! ## Runs -/

theorem withinQuota_boot (wall boot : Nat) :
    WithinQuota wall boot (initSessions boot).sessions (initSessions boot).quota.records
      .empty := by
  constructor <;> simp [initSessions, ClientSession.zero, Ledger.empty]

/-- The condition on a run: both clocks go forward together and are set, the operations are the
    entry points, and every step keeps the quota. -/
def KeepsDailyQuota (p : Platform) (wall boot : Nat) (inputs : List Input) : Prop :=
  Runs.Guarded (observe p wall)
    (fun input o => InOrder wall input o ∧ KeepsQuota p wall input o.server)
    (atBoot boot) inputs

/-- Along such a run, at every time since, no MAC's sessions are open for more than the quota on
    any day. -/
theorem daily_use_within_quota (p : Platform) (wall boot : Nat) (inputs : List Input)
    (guarded : KeepsDailyQuota p wall boot inputs) :
    ∀ later, (observed p wall boot inputs).clock ≤ later → ∀ mac, mac ≠ 0 → ∀ day,
      dailyUse wall later (observed p wall boot inputs) mac day ≤ dailyQuotaSec := by
  have invariant : BooksOk (observed p wall boot inputs).server ∧
      WithinQuota wall (observed p wall boot inputs).clock
        (observed p wall boot inputs).server.sessions
        (observed p wall boot inputs).server.quota.records
        (observed p wall boot inputs).ledger := by
    refine Runs.run_invariant (fun o : Observed => BooksOk o.server ∧
      WithinQuota wall o.clock o.server.sessions o.server.quota.records o.ledger)
      ⟨booksOk_init boot, withinQuota_boot wall boot⟩ ?_ guarded
    exact fun input o ⟨ok, within⟩ ⟨order, keeps⟩ => ⟨ok.step, within.step order keeps ok⟩
  intro later since mac real day
  exact (invariant.2.elapse since).bound real day

/-! ## A reconnect -/

/-- The station leaves after eleven minutes and is back half a minute later. -/
def twoVisits : List Input :=
  firstMinute ++
    [(secondsIn 660, .clientDisconnect oneStation 1),
      (secondsIn 690, .clientConnect oneStation (fun _ => 1) 1)]

theorem daily_use_within_quota_twoVisits :
    dailyUse bootWall 7200000000 (observed somePlatform bootWall 1 twoVisits) 1 19675 ≤
      dailyQuotaSec := by
  refine daily_use_within_quota somePlatform bootWall 1 twoVisits ?_ 7200000000 (by decide +kernel)
    1 (by decide) 19675
  refine ⟨⟨⟨by decide +kernel, by decide +kernel, secondsIn_valid _, nofun⟩, ?_⟩,
    ⟨⟨by decide +kernel, by decide +kernel, secondsIn_valid _, nofun⟩, ?_⟩,
    ⟨⟨by decide +kernel, by decide +kernel, secondsIn_valid _, nofun⟩, ?_⟩,
    ⟨⟨by decide +kernel, by decide +kernel, secondsIn_valid _, nofun⟩, ?_⟩, trivial⟩
  all_goals exact ⟨by decide +kernel, by decide +kernel, by decide +kernel, by decide +kernel,
    by decide +kernel, by decide +kernel, by decide +kernel, by decide +kernel⟩

/-- The station is back without a disconnect. -/
def noDisconnect : List Input :=
  firstMinute ++
    [(secondsIn 660, .clientConnect oneStation (fun _ => 1) 1)]

/-- The station is back without a disconnect: `handle_client_connect` restarts its session with
    all that is left on record, ten minutes of the session before are on none, and the day gets
    4200 seconds. -/
theorem daily_use_above_quota :
    ¬ ∀ (p : Platform) (wall boot : Nat) (inputs : List Input),
      Runs.Guarded (observe p wall) (InOrder wall) (atBoot boot) inputs →
        ∀ later, (observed p wall boot inputs).clock ≤ later → ∀ mac, mac ≠ 0 → ∀ day,
          dailyUse wall later (observed p wall boot inputs) mac day ≤ dailyQuotaSec := by
  intro claim
  have within := claim somePlatform bootWall 1
    noDisconnect
    ⟨⟨by decide +kernel, by decide +kernel, secondsIn_valid _, nofun⟩,
      ⟨by decide +kernel, by decide +kernel, secondsIn_valid _, nofun⟩,
      ⟨by decide +kernel, by decide +kernel, secondsIn_valid _, nofun⟩, trivial⟩
    4201000000 (by decide +kernel) 1 (by decide) 19675
  revert within
  decide +kernel

end SolarConnect.Session
