import SolarConnect.Session.Charges

/-!
# Checkpoint schedules

A session is checkpointed at every heartbeat, or once at its end, and the quota table comes out the
same: `accounted_seconds` remembers the whole seconds that have been charged, so the fractions of
a second that a checkpoint cuts off are charged by the next one.
-/

namespace SolarConnect.Session

open Slots

/-- The calls of `checkpoint_session_usage` for a session, each with its `force_flush`. -/
def checkpoints (nvs : Nat → Bool) (calls : List (Moment × Bool)) (session : ClientSession)
    (q : QuotaState) : ClientSession × QuotaState :=
  calls.foldl (fun state call => checkpointSessionUsage nvs call.1 call.2 state.1 state.2)
    (session, q)

theorem checkpoints_cons (nvs : Nat → Bool) (call : Moment × Bool) (calls : List (Moment × Bool))
    (session : ClientSession) (q : QuotaState) :
    checkpoints nvs (call :: calls) session q =
      checkpoints nvs calls (checkpointSessionUsage nvs call.1 call.2 session q).1
        (checkpointSessionUsage nvs call.1 call.2 session q).2 :=
  rfl

/-- The session after a checkpoint. -/
def accountedAt (now : Nat) (session : ClientSession) : ClientSession :=
  if nothingDue now session then session
  else { session with accountedSeconds := elapsedSeconds now session }

/-- The session is charged to a day of its own, and no sum of seconds wraps. -/
structure Regular (session : ClientSession) (records : QuotaTable) : Prop where
  day : session.dayId ≠ 0
  granted : session.grantedSeconds < 2 ^ 31
  capped : ∀ i, (records i).usedSeconds ≤ dailyQuotaSec

/-- Two charges add up, below the quota and at it. -/
theorem chargedUse_add {used first second : Nat} (below : used ≤ dailyQuotaSec)
    (fits : first + second < 2 ^ 31) :
    chargedUse (chargedUse used first) second = chargedUse used (first + second) := by
  unfold chargedUse
  unfold dailyQuotaSec at *
  omega

/-! ## One checkpoint -/

/-- A checkpoint accounts for the session, and charges it to its own day. -/
theorem checkpoint_eq (nvs : Nat → Bool) (m : Moment) (force : Bool) {session : ClientSession}
    (day : session.dayId ≠ 0) (q : QuotaState) :
    (checkpointSessionUsage nvs m force session q).1 = accountedAt m.now session ∧
      (checkpointSessionUsage nvs m force session q).2.records =
        chargeSession m.now 0 q.records session := by
  refine ⟨?_, ?_⟩
  · unfold checkpointSessionUsage accountedAt
    split
    · rfl
    · rfl
  · rw [checkpoint_charges, chargeSession, chargeSession, sessionDay, sessionDay, if_pos day,
      if_pos day]

/-- The seconds that have elapsed do not go back. -/
theorem elapsedSeconds_mono {now later : Nat} (order : now ≤ later)
    (uptime : later < 2 ^ 32 * secondUs) (session : ClientSession) :
    elapsedSeconds now session ≤ elapsedSeconds later session := by
  unfold elapsedSeconds
  unfold secondUs at *
  omega

theorem nothingDue_eq_false_iff {now : Nat} {session : ClientSession} :
    nothingDue now session = false ↔ session.mac ≠ 0 ∧ session.startTime ≠ 0 ∧
      session.grantedSeconds ≠ 0 ∧ session.startTime < now ∧
        session.accountedSeconds < elapsedSeconds now session := by
  simp only [nothingDue, Bool.or_eq_false_iff, beq_eq_false_iff_ne, decide_eq_false_iff_not,
    not_le, and_assoc]

theorem accountedAt_nothing {now : Nat} {session : ClientSession}
    (nothing : nothingDue now session = true) : accountedAt now session = session :=
  if_pos nothing

theorem accountedAt_due {now : Nat} {session : ClientSession}
    (due : nothingDue now session = false) :
    accountedAt now session = { session with accountedSeconds := elapsedSeconds now session } :=
  if_neg (Bool.eq_false_iff.mp due)

theorem chargeSession_due {now : Nat} {session : ClientSession}
    (due : nothingDue now session = false) (day : session.dayId ≠ 0) (records : QuotaTable) :
    chargeSession now 0 records session = putRecord records session.mac session.dayId
      (chargedUse (recordedUse records session.mac session.dayId)
        (elapsedSeconds now session - session.accountedSeconds)) := by
  rw [chargeSession, if_neg (Bool.eq_false_iff.mp due), sessionDay, if_pos day]

/-! ## Two checkpoints -/

/-- What is due at a checkpoint is due later on. -/
theorem due_later {now later : Nat} (order : now ≤ later) (uptime : later < 2 ^ 32 * secondUs)
    {session : ClientSession} (due : nothingDue now session = false) :
    nothingDue later session = false := by
  obtain ⟨mac, start, granted, started, more⟩ := nothingDue_eq_false_iff.mp due
  exact nothingDue_eq_false_iff.mpr ⟨mac, start, granted, started.trans_le order,
    more.trans_le (elapsedSeconds_mono order uptime session)⟩

/-- After a checkpoint more is due once another second has elapsed. -/
theorem due_again_iff {now later : Nat} (order : now ≤ later) {session : ClientSession}
    (due : nothingDue now session = false) :
    nothingDue later { session with accountedSeconds := elapsedSeconds now session } = false ↔
      elapsedSeconds now session < elapsedSeconds later session := by
  obtain ⟨mac, start, granted, started, -⟩ := nothingDue_eq_false_iff.mp due
  rw [nothingDue_eq_false_iff]
  constructor
  · rintro ⟨-, -, -, -, more⟩
    exact more
  · intro more
    exact ⟨mac, start, granted, started.trans_le order, more⟩

/-- Of two checkpoints the later one alone accounts for the same, and charges the same. -/
theorem two_checkpoints {now later : Nat} (order : now ≤ later)
    (uptime : later < 2 ^ 32 * secondUs) {session : ClientSession} {records : QuotaTable}
    (regular : Regular session records) :
    accountedAt later (accountedAt now session) = accountedAt later session ∧
      chargeSession later 0 (chargeSession now 0 records session) (accountedAt now session) =
        chargeSession later 0 records session := by
  cases due : nothingDue now session with
  | true =>
    rw [accountedAt_nothing due, chargeSession_nothing due]
    exact ⟨rfl, rfl⟩
  | false =>
    have dueLater := due_later order uptime due
    have grows := elapsedSeconds_mono order uptime session
    rw [accountedAt_due due, accountedAt_due dueLater, chargeSession_due due regular.day,
      chargeSession_due dueLater regular.day]
    cases again : nothingDue later
        { session with accountedSeconds := elapsedSeconds now session } with
    | true =>
      -- no second has gone by between the two
      have still : elapsedSeconds later session = elapsedSeconds now session := by
        have more := (due_again_iff order due).not.mp (by rw [again]; simp)
        omega
      rw [accountedAt_nothing again, chargeSession_nothing again, still]
      exact ⟨rfl, rfl⟩
    | false =>
      have more := (nothingDue_eq_false_iff.mp due).2.2.2.2
      have capped : elapsedSeconds later session ≤ session.grantedSeconds := Nat.min_le_right _ _
      have granted := regular.granted
      have charges (records' : QuotaTable) :
          chargeSession later 0 records'
              { session with accountedSeconds := elapsedSeconds now session } =
            putRecord records' session.mac session.dayId
              (chargedUse (recordedUse records' session.mac session.dayId)
                (elapsedSeconds later session - elapsedSeconds now session)) :=
        chargeSession_due again regular.day records'
      rw [accountedAt_due again, charges, recordedUse_putRecord_self, if_pos rfl,
        putRecord_putRecord,
        chargedUse_add (recordedUse_le_of_capped (fun i _ => regular.capped i) _ _) (by omega)]
      refine ⟨rfl, ?_⟩
      congr 2
      omega

theorem Regular.checkpoint {session : ClientSession} {records : QuotaTable}
    (regular : Regular session records) (now : Nat) :
    Regular (accountedAt now session) (chargeSession now 0 records session) := by
  cases due : nothingDue now session with
  | true =>
    rw [accountedAt_nothing due, chargeSession_nothing due]
    exact regular
  | false =>
    rw [accountedAt_due due, chargeSession_due due regular.day]
    refine ⟨regular.day, regular.granted, ?_⟩
    intro i
    rw [putRecord, Function.update_apply]
    split
    · exact chargedUse_le _ _
    · exact regular.capped i

/-! ## Schedules -/

/-- Checkpoints at any times up to the last one leave what the last one alone leaves. -/
theorem checkpoints_last (nvs nvs' : Nat → Bool) (last : Moment) (force force' : Bool)
    (uptime : last.now < 2 ^ 32 * secondUs) (calls : List (Moment × Bool))
    (before : ∀ call ∈ calls, call.1.now ≤ last.now) {session : ClientSession} {q : QuotaState}
    (regular : Regular session q.records) :
    (checkpoints nvs (calls ++ [(last, force)]) session q).1 =
        (checkpointSessionUsage nvs' last force' session q).1 ∧
      (checkpoints nvs (calls ++ [(last, force)]) session q).2.records =
        (checkpointSessionUsage nvs' last force' session q).2.records := by
  have single := checkpoint_eq nvs' last force' regular.day q
  rw [single.1, single.2]
  induction calls generalizing session q with
  | nil => exact checkpoint_eq nvs last force regular.day q
  | cons call calls ih =>
    obtain ⟨accounted, charged⟩ := checkpoint_eq nvs call.1 call.2 regular.day q
    have order := before call List.mem_cons_self
    have two := two_checkpoints order uptime regular
    have next := regular.checkpoint call.1.now
    rw [← accounted, ← charged] at next
    have rest := ih (fun later member => before later (List.mem_cons_of_mem call member)) next
      (checkpoint_eq nvs' last force' next.day _)
    rw [charged, accounted, two.1, two.2] at rest
    rw [List.cons_append, checkpoints_cons, accounted]
    exact rest

/-- A session of an hour that starts in the timer's first second. -/
def hourSession : ClientSession :=
  { ClientSession.zero with
    mac := 1, startTime := 1000000, endTime := 3601000000, grantedSeconds := 3600, dayId := 19675 }

/-- Two checkpoints in the middle of a second, and one after a minute. -/
theorem checkpoints_last_minute :
    (checkpoints (fun _ => false)
      ([(⟨2500000, 0, by decide⟩, false), (⟨4700000, 0, by decide⟩, true)] ++
        [(⟨61000000, 0, by decide⟩, false)]) hourSession (loadQuotaState 0)).1 =
      (checkpointSessionUsage (fun _ => true) ⟨61000000, 0, by decide⟩ true hourSession
        (loadQuotaState 0)).1 :=
  (checkpoints_last _ _ _ _ _ (by decide) _ (by decide)
    ⟨by decide, by decide, by decide⟩).1

end SolarConnect.Session
