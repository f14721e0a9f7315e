import SolarConnect.Session.Backing
import SolarConnect.Session.Books

/-!
# No usage is dropped

A session that an operation ends or restarts has been charged for the seconds it used, unless
the operation gives it up without a checkpoint, or a record is lost while several sessions are
settled on the one quota table.
-/

namespace SolarConnect.Session

open Slots ClientAcl

/-- The seconds a session has used and that are not accounted yet. -/
def usageDue (now : Nat) (session : ClientSession) : Nat :=
  min ((now - session.startTime) / secondUs) session.grantedSeconds - session.accountedSeconds

/-- The session is over, erased, or begins anew. -/
def EndedOrRestarted (before after : ClientSession) : Prop :=
  after.active = false ∨ after.startTime ≠ before.startTime

instance (before after : ClientSession) : Decidable (EndedOrRestarted before after) := by
  unfold EndedOrRestarted
  infer_instance

/-- From `s` to `s'` the record of the session's MAC and day has grown by what was due, up to
    the quota. -/
def UsageCharged (now day : Nat) (s s' : Server) (session : ClientSession) : Prop :=
  recordedUse s'.quota.records session.mac (sessionDay day session) =
    min dailyQuotaSec
      (recordedUse s.quota.records session.mac (sessionDay day session) + usageDue now session)

instance (now day : Nat) (s s' : Server) (session : ClientSession) :
    Decidable (UsageCharged now day s s' session) := by
  unfold UsageCharged
  infer_instance

/-! ## The condition on a step -/

/-- The day an operation charges to, where a session carries none. -/
def chargingDay (m : Clocks) (op : Operation) (s : Server) : Nat :=
  currentDay m (lookedUp m op s)

/-- The request takes the session's slot for a new one, or drops the session as expired. -/
def GivesUp (m : Clocks) (req : StartRequest) (sessions : SessionTable) (j : Fin maxClients) :
    Prop :=
  let b := requestBinding m req sessions
  (searchedTable m req sessions j).active = true ∧
    (j = b.slot ∧ b.reuse = false ∨ (b.dropped j).active = false)

instance (m : Clocks) (req : StartRequest) (sessions : SessionTable) :
    DecidablePred (GivesUp m req sessions) := fun j => by
  unfold GivesUp
  infer_instance

/-- The operation gives the session up. -/
def GivenUp (p : Platform) (m : Clocks) (op : Operation) (s : Server) (j : Fin maxClients) :
    Prop :=
  ∃ req ∈ requestOf p m op s, Binds req ∧ GivesUp m req s.sessions j

instance (p : Platform) (m : Clocks) (op : Operation) (s : Server) :
    DecidablePred (GivenUp p m op s) := fun j => by
  unfold GivenUp
  infer_instance

/-- The operation ends or restarts the session. -/
def EndedBy (p : Platform) (m : Clocks) (op : Operation) (s : Server) (j : Fin maxClients) :
    Prop :=
  (s.sessions j).active = true ∧ (SettledBy p m op s j ∨ GivenUp p m op s j)

instance (p : Platform) (m : Clocks) (op : Operation) (s : Server) :
    DecidablePred (EndedBy p m op s) := fun j => by
  unfold EndedBy SettledBy
  infer_instance

/-- The reading of the timer by which the operation ends the session: that of its last refresh, or
    the one before where the session is given up. -/
def endedAt (p : Platform) (m : Clocks) (op : Operation) (s : Server) (j : Fin maxClients) : Nat :=
  if GivenUp p m op s j then m.now else (lastRefresh p m op s).now

/-- The session that is bound outlasts the refresh after it; nothing is due for a session that is
    given up; the sessions that end have run for less than `2 ^ 32` seconds; the lookup that comes
    first leaves their records; and none is charged at the cost of another's record. -/
structure StepCharges (p : Platform) (input : Input) (s : Server) : Prop where
  outlasts : ∀ req ∈ requestOf p input.1 input.2 s, Binds req → Outlasts input.1 req s.sessions
  nothing : ∀ j, GivenUp p input.1 input.2 s j → (s.sessions j).mac ≠ 0 →
    usageDue input.1.now (s.sessions j) = 0
  young : ∀ j, EndedBy p input.1 input.2 s j → (s.sessions j).mac ≠ 0 →
    ((lastRefresh p input.1 input.2 s).now - (s.sessions j).startTime) / secondUs +
      dailyQuotaSec < 2 ^ 32
  looked : ∀ j, EndedBy p input.1 input.2 s j → (s.sessions j).mac ≠ 0 →
    recordedUse (lookedUp input.1 input.2 s).records (s.sessions j).mac
        (sessionDay (chargingDay input.1 input.2 s) (s.sessions j)) =
      recordedUse s.quota.records (s.sessions j).mac
        (sessionDay (chargingDay input.1 input.2 s) (s.sessions j))
  apart : ∀ i j, i ≠ j → EndedBy p input.1 input.2 s i → EndedBy p input.1 input.2 s j →
    (s.sessions i).mac ≠ 0 → (s.sessions j).mac ≠ 0 →
      ChargeApart (lastRefresh p input.1 input.2 s).now (lookedUp input.1 input.2 s).records
        (s.sessions i) (s.sessions j)

/-! ## The books of a reachable state -/

/-- What holds of sessions and quota in every state. -/
structure BooksOk (s : Server) : Prop where
  timed : Timed s.sessions
  table : TableOk s.quota.records
  started : ∀ i, (s.sessions i).active = true → 0 < (s.sessions i).startTime
  ends : ∀ i, (s.sessions i).endTime =
    (s.sessions i).startTime + (s.sessions i).grantedSeconds * secondUs

/-- An operation looks up the quota of one MAC, or of none. -/
theorem lookedUp_cases (m : Clocks) (op : Operation) (s : Server) :
    lookedUp m op s = s.quota ∨
      ∃ mac, lookedUp m op s = (getQuotaRemainingForMac m.asked mac s.quota).2 := by
  unfold lookedUp
  split
  · split
    · exact Or.inr ⟨_, rfl⟩
    · exact Or.inl rfl
  · unfold confirmGrant
    split
    · exact Or.inl rfl
    · dsimp only
      split
      · exact Or.inr ⟨_, rfl⟩
      · exact Or.inr ⟨_, rfl⟩
  · exact Or.inl rfl

theorem tableOk_lookedUp {s : Server} (ok : TableOk s.quota.records) (m : Clocks)
    (op : Operation) : TableOk (lookedUp m op s).records := by
  rcases lookedUp_cases m op s with same | ⟨mac, looked⟩
  · rw [same]
    exact ok
  · rw [looked]
    exact tableOk_lookup ok _ _

theorem BooksOk.step {p : Platform} {input : Input} {s : Server} (ok : BooksOk s) :
    BooksOk (stepInput p input s) := by
  have books := step_books p input.1 input.2 ok.timed
  have times := books.times
  refine ⟨ok.timed.step, ?_, fun i active => ?_, fun i => ?_⟩
  · have looked := tableOk_lookedUp ok.table input.1 input.2
    change StepBooks p input.1 input.2 s (stepInput p input s) at books
    generalize stepInput p input s = s' at books ⊢
    cases books with
    | settles t _ quota _ list settled =>
      rw [settled.charged, quota]
      exact tableOk_chargeAll looked _
    | starts t _ quota req _ _ _ _ first second started =>
      rw [started.closes.charged, (writtenServer_quota p input.1 req t).1, started.opens.charged,
        quota]
      exact tableOk_chargeAll (tableOk_chargeAll looked _) _
    | checkpoints i _ _ result =>
      rw [result, checkpointSlot_records]
      exact tableOk_chargeSession ok.table _
  all_goals
    rcases times i with ⟨req, -, same⟩ | ⟨-, same, before⟩
    all_goals rw [stepInput, same.startTime]
  · exact input.1.booted
  · exact ok.started i (before active)
  · rw [same.endTime, same.grantedSeconds]
    rfl
  · rw [same.endTime, same.grantedSeconds]
    exact ok.ends i

theorem booksOk_init (boot : Nat) : BooksOk (initSessions boot) :=
  ⟨timed_init boot, tableOk_boot boot,
    fun i active => by simp [initSessions, ClientSession.zero] at active,
    fun i => by simp [initSessions, ClientSession.zero]⟩

theorem serverAfter_booksOk (p : Platform) (boot : Nat) (inputs : List Input) :
    BooksOk (serverAfter p boot inputs) :=
  Runs.run_invariant_always BooksOk inputs (booksOk_init boot) fun _ _ ok => ok.step

/-! ## One session -/

/-- Less than `2 ^ 32` seconds after its start a session has something due exactly when its
    checkpoint charges it. -/
theorem usageDue_of_young {now : Nat} {session : ClientSession} (real : session.mac ≠ 0)
    (started : 0 < session.startTime)
    (young : (now - session.startTime) / secondUs + dailyQuotaSec < 2 ^ 32) :
    (nothingDue now session = true ↔ usageDue now session = 0) ∧
      elapsedSeconds now session - session.accountedSeconds = usageDue now session := by
  have elapsed : elapsedSeconds now session =
      min ((now - session.startTime) / secondUs) session.grantedSeconds := by
    rw [elapsedSeconds, Nat.mod_eq_of_lt (by omega)]
  refine ⟨?_, by rw [elapsed, usageDue]⟩
  simp only [nothingDue, elapsed, Bool.or_eq_true, beq_iff_eq, decide_eq_true_eq, usageDue, real,
    false_or]
  constructor
  · rintro (((zero | zero) | early) | accounted)
    · omega
    · simp [zero]
    · simp [Nat.sub_eq_zero_of_le early]
    · omega
  · intro none
    right
    omega

/-- What the charge of a young session records. -/
theorem chargeSession_young {now day : Nat} {records : QuotaTable} (ok : TableOk records)
    {session : ClientSession} (real : session.mac ≠ 0) (started : 0 < session.startTime)
    (young : (now - session.startTime) / secondUs + dailyQuotaSec < 2 ^ 32) :
    recordedUse (chargeSession now day records session) session.mac (sessionDay day session) =
      min dailyQuotaSec
        (recordedUse records session.mac (sessionDay day session) + usageDue now session) := by
  obtain ⟨nothing, due⟩ := usageDue_of_young real started young
  have capped := recordedUse_le ok session.mac (sessionDay day session)
  cases charges : nothingDue now session with
  | true =>
    rw [chargeSession_nothing charges, nothing.mp charges]
    omega
  | false =>
    have bound : usageDue now session ≤ (now - session.startTime) / secondUs :=
      (Nat.sub_le _ _).trans (Nat.min_le_left _ _)
    rw [recordedUse_chargeSession charges, if_pos rfl, due, chargedUse,
      Nat.mod_eq_of_lt (by omega)]

/-! ## Every operation -/

theorem SameUse.not_ended {a b : ClientSession} (same : SameUse a b) (active : a.active = true) :
    ¬ EndedOrRestarted a b := by
  rw [EndedOrRestarted, same]
  simp [active]

/-- A session that a start ends or restarts without settling it is given up. -/
theorem Starts.givesUp {p : Platform} {m : Clocks} {req : StartRequest}
    {first second : List (Fin maxClients)} {s s' : Server}
    (starts : Starts p m req first second s s') {i : Fin maxClients}
    (active : (s.sessions i).active = true) (early : i ∉ first) (late : i ∉ second)
    (ended : EndedOrRestarted (s.sessions i) (s'.sessions i)) :
    GivesUp m req s.sessions i := by
  have kept := starts.closes.kept i late
  -- Without an address the sessions over by the first refresh have been settled.
  have searched : (searchedTable m req s.sessions i).active = true := by
    rw [searchedTable]
    split
    · rename_i zero
      rw [liveTable, if_neg fun expired => early ((starts.overFirst i).mpr ⟨zero, expired⟩)]
      exact active
    · exact active
  refine ⟨searched, ?_⟩
  by_cases here : i = (requestBinding m req s.sessions).slot
  · subst here
    rcases written_slot p m req s with ⟨-, -, -, same⟩ | ⟨new, -⟩
    · rw [EndedOrRestarted, kept, same] at ended
      simp [reusedSession, active] at ended
    · exact Or.inl ⟨rfl, new⟩
  · right
    by_contra stays
    rw [Bool.not_eq_false, ← (written_other p here).1] at stays
    exact ((starts.opened_kept here stays).2.2.trans kept).not_ended active ended

/-- A session that a start settles is not given up, unless it is the one that was bound. -/
theorem Starts.not_givesUp {p : Platform} {m : Clocks} {req : StartRequest}
    {first second : List (Fin maxClients)} {s s' : Server}
    (starts : Starts p m req first second s s') (outlasts : Outlasts m req s.sessions)
    {i : Fin maxClients} (member : i ∈ first ++ second) : ¬ GivesUp m req s.sessions i := by
  rintro ⟨searched, gone⟩
  rcases List.mem_append.mp member with early | late
  · obtain ⟨zero, expired⟩ := (starts.overFirst i).mp early
    rw [searchedTable, if_pos zero, liveTable, if_pos expired] at searched
    simp at searched
  · have elsewhere : i ≠ (requestBinding m req s.sessions).slot := by
      rintro rfl
      exact starts.slot_mem_iff.mp late outlasts
    have live := ((starts.overSecond i).mp late).1
    rw [(written_other p elsewhere).1] at live
    rcases gone with ⟨here, -⟩ | idle
    · exact elsewhere here
    · simp [idle] at live

/-- A session that was over at a first reading is charged the same at a later one. -/
theorem chargeSession_over {a b day : Nat} {session : ClientSession}
    (ends : session.endTime = session.startTime + session.grantedSeconds * secondUs)
    (finished : Expired a session) (order : a ≤ b)
    (young : session.mac ≠ 0 → (b - session.startTime) / secondUs + dailyQuotaSec < 2 ^ 32)
    (records : QuotaTable) :
    chargeSession a day records session = chargeSession b day records session := by
  by_cases zero : session.mac = 0
  · rw [chargeSession_nothing (by simp [nothingDue, zero]),
      chargeSession_nothing (by simp [nothingDue, zero])]
  have whole : ∀ now, a ≤ now → now ≤ b → elapsedSeconds now session = session.grantedSeconds := by
    intro now late early
    have past : session.grantedSeconds ≤ (now - session.startTime) / secondUs := by
      rw [Nat.le_div_iff_mul_le (by decide)]
      have ended := finished.2.2
      omega
    have below : (now - session.startTime) / secondUs ≤ (b - session.startTime) / secondUs :=
      Nat.div_le_div_right (by omega)
    have bound := young zero
    rw [elapsedSeconds, Nat.mod_eq_of_lt (by omega), Nat.min_eq_right past]
  have first := whole a le_rfl order
  have second := whole b order le_rfl
  have due : nothingDue a session = nothingDue b session := by
    by_cases none : session.grantedSeconds = 0
    · simp [nothingDue, none]
    · have ended := finished.2.2
      have positive : 0 < session.grantedSeconds * secondUs :=
        Nat.mul_pos (Nat.pos_of_ne_zero none) (by decide)
      have started : ¬ a ≤ session.startTime := by omega
      have started' : ¬ b ≤ session.startTime := by omega
      simp [nothingDue, first, second, started, started']
  rw [chargeSession, chargeSession, due, first, second]

theorem chargeAll_over {a b day : Nat} {list : List ClientSession}
    (same : ∀ session ∈ list, ∀ records,
      chargeSession a day records session = chargeSession b day records session)
    (records : QuotaTable) : chargeAll a day records list = chargeAll b day records list :=
  List.foldl_ext _ _ _ fun records session member => same session member records

/-- The sessions that an operation settles are charged, in order, and the others that it ends or
    restarts are given up. -/
structure Charges (p : Platform) (input : Input) (s s' : Server) (list : List (Fin maxClients)) :
    Prop where
  nodup : list.Nodup
  ended : ∀ j ∈ list, EndedBy p input.1 input.2 s j
  settled : ∀ j ∈ list, ¬ GivenUp p input.1 input.2 s j
  charged : s'.quota.records =
    chargeAll (lastRefresh p input.1 input.2 s).now (chargingDay input.1 input.2 s)
      (lookedUp input.1 input.2 s).records (list.map s.sessions)
  covers : ∀ i, (s.sessions i).active = true →
    EndedOrRestarted (s.sessions i) (s'.sessions i) → i ∈ list ∨ GivenUp p input.1 input.2 s i

section

variable {p : Platform} {input : Input} {s s' t : Server}

theorem Settles.charges {list : List (Fin maxClients)}
    (settled : Settles (lastRefresh p input.1 input.2 s) list t s')
    (sessions : t.sessions = s.sessions) (quota : t.quota = lookedUp input.1 input.2 s)
    (unbound : ∀ req, requestOf p input.1 input.2 s = some req → ¬ Binds req)
    (inside : ∀ j ∈ list, SettledBy p input.1 input.2 s j) : Charges p input s s' list where
  nodup := settled.nodup
  ended j member := ⟨sessions ▸ settled.active j member, Or.inl (inside j member)⟩
  settled := by
    rintro j - ⟨req, request, binds, -⟩
    exact unbound req request binds
  charged := by
    have day : currentDay (lastRefresh p input.1 input.2 s) t.quota =
        chargingDay input.1 input.2 s := by
      rw [chargingDay, quota, currentDay, currentDay, lastRefresh_time]
    rw [settled.charged, day, quota, sessions]
  covers i active ended := by
    left
    by_contra other
    have same := settled.kept i other
    rw [sessions] at same
    exact same.not_ended active ended

/-- The sessions that a start settles in its two refreshes. -/
theorem Starts.charges {req : StartRequest} {first second : List (Fin maxClients)}
    (started : Starts p input.1 req first second t s') (ok : BooksOk s)
    (charges : StepCharges p input s) (sessions : t.sessions = s.sessions)
    (quota : t.quota = lookedUp input.1 input.2 s)
    (request : requestOf p input.1 input.2 s = some req) (binds : Binds req)
    (sweeps : Refreshes p input.1 input.2 s) : Charges p input s s' (first ++ second) := by
  have last := lastRefresh_binds request binds
  have outlasts := charges.outlasts req request binds
  rw [← sessions] at outlasts
  have elsewhere : ∀ j ∈ second, j ≠ (requestBinding input.1 req t.sessions).slot := by
    rintro j member rfl
    exact started.slot_mem_iff.mp member outlasts
  have later := fun j (member : j ∈ second) => started.sweptLater member (elsewhere j member)
  have expired : ∀ j ∈ first ++ second, Expired input.1.closed (s.sessions j) := by
    intro j member
    rw [← sessions]
    rcases List.mem_append.mp member with early | late
    · obtain ⟨-, active, positive, finished⟩ := (started.overFirst j).mp early
      exact ⟨active, positive, finished.trans input.1.closes⟩
    · exact (later j late).1
  have inside : ∀ j ∈ first ++ second, EndedBy p input.1 input.2 s j := by
    intro j member
    have finished := expired j member
    refine ⟨finished.1, Or.inl (Or.inr ⟨sweeps, ?_⟩)⟩
    rw [last]
    exact finished
  refine ⟨?_, inside, fun j member => ?_, ?_, fun i active ended => ?_⟩
  · exact started.opens.nodup.append started.closes.nodup fun j before after =>
      (later j after).2.1 before
  · rintro ⟨req', request', -, givesUp⟩
    obtain rfl : req = req' := Option.some.inj (request.symm.trans request')
    rw [← sessions] at givesUp
    exact started.not_givesUp outlasts member givesUp
  · have day : currentDay input.1.closing (writtenServer p input.1 req t).quota =
        currentDay input.1.opening t.quota :=
      (writtenServer_quota p input.1 req t).2.trans started.opens.day
    have same : chargingDay input.1 input.2 s = currentDay input.1.opening t.quota := by
      rw [chargingDay, ← quota]
      rfl
    rw [started.closes.charged, day, (writtenServer_quota p input.1 req t).1,
      started.opens.charged, ← same, quota, last, ← sessions]
    -- the sessions of the first refresh are charged the same at the last one
    rw [chargeAll_over (a := input.1.opening.now) (b := input.1.closing.now)]
    · exact chargeAll_append _ _ _ first fun j member => (later j member).2.2
    · intro session member records
      obtain ⟨j, early, rfl⟩ := List.mem_map.mp member
      rw [sessions]
      have young := charges.young j (inside j (List.mem_append_left _ early))
      rw [last] at young
      refine chargeSession_over (ok.ends j) ?_ input.1.closes young records
      rw [← sessions]
      exact ((started.overFirst j).mp early).2
  · by_cases member : i ∈ first ++ second
    · exact Or.inl member
    rw [List.mem_append, not_or] at member
    rw [← sessions] at active ended
    have givesUp := started.givesUp active member.1 member.2 ended
    rw [sessions] at givesUp
    exact Or.inr ⟨req, request, binds, givesUp⟩

/-- An operation that meets the condition ends or restarts none, or charges what it settles. -/
theorem step_charges (ok : BooksOk s) (charges : StepCharges p input s) :
    (∀ i, (s.sessions i).active = true →
        ¬ EndedOrRestarted (s.sessions i) ((stepInput p input s).sessions i)) ∨
      ∃ list, Charges p input s (stepInput p input s) list := by
  have books := step_books p input.1 input.2 ok.timed
  change StepBooks p input.1 input.2 s (stepInput p input s) at books
  generalize stepInput p input s = s' at books ⊢
  cases books with
  | settles t sessions quota unbound list settled inside =>
    exact Or.inr ⟨list, settled.charges sessions quota unbound inside⟩
  | starts t sessions quota req request binds _ sweeps first second started =>
    exact Or.inr ⟨first ++ second,
      started.charges ok charges sessions quota request binds sweeps⟩
  | checkpoints k _ _ result =>
    left
    intro i active
    rw [result]
    by_cases here : i = k
    · subst here
      rw [EndedOrRestarted, checkpointSlot_self p input.1 false i s]
      simp [active]
    · rw [checkpointSlot_other here]
      exact (sameUse_refl _).not_ended active

end

/-- Two sessions of which one has no MAC. -/
theorem ChargeApart.of_zero {now : Nat} {records : QuotaTable} (ok : TableOk records)
    {a : ClientSession} (zero : a.mac = 0) (b : ClientSession) :
    ChargeApart now records a b ∧ ChargeApart now records b a := by
  have nothing : nothingDue now a = true := by simp [nothingDue, zero]
  have spares : ChargeSpares now records b a.mac := by
    cases due : nothingDue now b with
    | true => exact Or.inl due
    | false =>
      rw [zero]
      exact Or.inr ⟨mac_ne_zero_of_due due, fun evicts => ok.nonzero _ (evicts.2 _)⟩
  exact ⟨⟨Or.inl nothing, spares, Or.inl nothing⟩,
    ⟨spares, Or.inl nothing, Or.inr (Or.inl nothing)⟩⟩

/-- In every reachable state, whatever the step, each session with a MAC that it ends, erases
    or restarts has been charged, if the step meets the condition. -/
theorem ended_sessions_charged (p : Platform) (boot : Nat) (inputs : List Input) (input : Input)
    (charges : StepCharges p input (serverAfter p boot inputs)) :
    let s := serverAfter p boot inputs
    let s' := stepInput p input s
    ∀ i, (s.sessions i).active = true → (s.sessions i).mac ≠ 0 →
      EndedOrRestarted (s.sessions i) (s'.sessions i) →
        UsageCharged (endedAt p input.1 input.2 s i) (chargingDay input.1 input.2 s) s s'
          (s.sessions i) := by
  intro s s' i active real ended
  have ok : BooksOk s := serverAfter_booksOk p boot inputs
  have looked := tableOk_lookedUp ok.table input.1 input.2
  rcases step_charges ok charges with none | ⟨list, nodup, inside, settled, charged, covers⟩
  · exact absurd ended (none i active)
  have apart : ∀ a b, a ≠ b → EndedBy p input.1 input.2 s a → EndedBy p input.1 input.2 s b →
      ChargeApart (lastRefresh p input.1 input.2 s).now (lookedUp input.1 input.2 s).records
        (s.sessions a) (s.sessions b) := by
    intro a b distinct endedA endedB
    by_cases zeroA : (s.sessions a).mac = 0
    · exact (ChargeApart.of_zero looked zeroA _).1
    by_cases zeroB : (s.sessions b).mac = 0
    · exact (ChargeApart.of_zero looked zeroB _).2
    exact charges.apart a b distinct endedA endedB zeroA zeroB
  have pairwise : (list.map s.sessions).Pairwise
      (ChargeApart (lastRefresh p input.1 input.2 s).now (lookedUp input.1 input.2 s).records) := by
    rw [List.pairwise_map]
    exact nodup.pairwise_of_forall_ne fun a memberA b memberB distinct =>
      apart a b distinct (inside a memberA) (inside b memberB)
  have records : s'.quota.records = _ := charged
  rw [UsageCharged, records]
  have here : EndedBy p input.1 input.2 s i := by
    rcases covers i active ended with member | given
    · exact inside i member
    · exact ⟨active, Or.inr given⟩
  rw [← charges.looked i here real]
  by_cases member : i ∈ list
  · rw [endedAt, if_neg (settled i member),
      chargeAll_charges looked pairwise (List.mem_map_of_mem member)]
    exact chargeSession_young looked real (ok.started i active) (charges.young i here real)
  · have givenUp := (covers i active ended).resolve_left member
    have others : ∀ a ∈ list.map s.sessions, ChargeSpares
        (lastRefresh p input.1 input.2 s).now (lookedUp input.1 input.2 s).records a
        (s.sessions i).mac := by
      intro a memberA
      obtain ⟨j, memberJ, rfl⟩ := List.mem_map.mp memberA
      exact (apart j i (fun equal => member (equal ▸ memberJ)) (inside j memberJ) here).1
    have spared := @chargeAll_spares _ (chargingDay input.1 input.2 s) _ looked _ pairwise _ others
    have capped := recordedUse_le looked (s.sessions i).mac
      (sessionDay (chargingDay input.1 input.2 s) (s.sessions i))
    rw [spared.2, endedAt, if_pos givenUp, charges.nothing i givenUp real]
    exact (Nat.min_eq_right capped).symm

/-! ## A reconnect -/

/-- One station is connected, at address 1. -/
def oneStation : ApView where
  staList := some [1]
  dhcpsClients := some fun _ => 1
  lastApClientMac := some 1
  apConnect := true
  connectCount := 1

/-- The station confirms, and a minute later the heartbeat checkpoints its session. -/
def firstMinute : List Input :=
  [(secondsIn 0, .confirm oneStation (fun _ => 0) 1),
    (secondsIn 60, .heartbeat ⟨0, maxClients_pos⟩)]

/-- The station leaves after ten more minutes. -/
theorem ended_sessions_charged_disconnect :
    let s := serverAfter somePlatform 1 firstMinute
    let input : Input := (secondsIn 660, .clientDisconnect oneStation 1)
    UsageCharged (endedAt somePlatform input.1 input.2 s ⟨0, maxClients_pos⟩)
      (chargingDay input.1 input.2 s) s (stepInput somePlatform input s)
      (s.sessions ⟨0, maxClients_pos⟩) :=
  ended_sessions_charged somePlatform 1 firstMinute
    (secondsIn 660, .clientDisconnect oneStation 1)
    ⟨by decide +kernel, by decide +kernel, by decide +kernel, by decide +kernel,
      by decide +kernel⟩
    ⟨0, maxClients_pos⟩ (by decide +kernel) (by decide +kernel) (by decide +kernel)

/-- The station is back after ten minutes without a disconnect: `handle_client_connect`
    restarts its session, and the ten minutes are not charged. -/
theorem restarted_session_not_charged :
    ¬ ∀ (p : Platform) (boot : Nat) (inputs : List Input) (input : Input) (i : Fin maxClients),
      let s := serverAfter p boot inputs
      let s' := stepInput p input s
      (s.sessions i).active = true → (s.sessions i).mac ≠ 0 →
        EndedOrRestarted (s.sessions i) (s'.sessions i) →
          UsageCharged (endedAt p input.1 input.2 s i) (chargingDay input.1 input.2 s) s s'
            (s.sessions i) := by
  intro claim
  have charged := claim somePlatform 1 firstMinute
    (secondsIn 660, .clientConnect oneStation (fun _ => 1) 1)
    ⟨0, maxClients_pos⟩ (by decide +kernel) (by decide +kernel) (by decide +kernel)
  revert charged
  decide +kernel

end SolarConnect.Session
