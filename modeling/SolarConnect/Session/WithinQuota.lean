import SolarConnect.Session.DailyUse

/-!
# Within the quota

The invariant that compares the observer's ledger with the quota table, and what keeps it: time
that passes, a lookup that evicts no record in use, and a turnover of sessions in which those
that end are charged, or have nothing due, and a session that begins fits what is left of the
quota and of the day.
-/

namespace SolarConnect.Session

open Slots Spans

/-! ## The invariant -/

/-- The whole seconds an unswept session has used of its grant. -/
def secondsRun (now : Nat) (session : ClientSession) : Nat :=
  min ((now - session.startTime) / secondUs) session.grantedSeconds

/-- A session and the time the ledger has for it. -/
structure Life (wall now : Nat) (session : ClientSession) (lived : Nat → Nat) : Prop where
  begun : session.startTime ≤ now
  ends : session.endTime = session.startTime + session.grantedSeconds * secondUs
  day : session.dayId = dayAt wall session.startTime
  dated : session.dayId ≠ 0
  open_le : ∀ day,
    lived day ≤ partOfDay wall day session.startTime (min now session.endTime)

/-- The ledger and the quota table at time `now`. A MAC has one session at most, which is over
    by midnight, and a record. What its earlier sessions were open for on the
    session's day leaves room for the grant, and is recorded, with the seconds accounted. -/
structure WithinQuota (wall now : Nat) (sessions : SessionTable) (records : QuotaTable)
    (ledger : Ledger) : Prop where
  life : ∀ i, (sessions i).active = true → Life wall now (sessions i) (ledger.running i)
  alone : ∀ i j, (sessions i).active = true → (sessions j).active = true →
    (sessions i).mac ≠ 0 → (sessions j).mac = (sessions i).mac → j = i
  byMidnight : ∀ i, (sessions i).active = true → (sessions i).mac ≠ 0 →
    wall + (sessions i).endTime ≤ ((sessions i).dayId + 1) * dayUs
  recorded : ∀ i, (sessions i).active = true → (sessions i).mac ≠ 0 →
    recordOf records (sessions i).mac ≠ none
  granted : ∀ i, (sessions i).active = true → (sessions i).mac ≠ 0 →
    ledger.closed (sessions i).mac (sessions i).dayId + (sessions i).grantedSeconds ≤ dailyQuotaSec
  accounted : ∀ i, (sessions i).active = true → (sessions i).mac ≠ 0 →
    (sessions i).dayId = dayAt wall now →
      ledger.closed (sessions i).mac (dayAt wall now) + (sessions i).accountedSeconds ≤
        recordedUse records (sessions i).mac (dayAt wall now)
  stale : ∀ i, (sessions i).active = true → (sessions i).mac ≠ 0 →
    (sessions i).dayId ≠ dayAt wall now → ledger.closed (sessions i).mac (dayAt wall now) = 0
  capped : ∀ mac, mac ≠ 0 → ∀ day, ledger.closed mac day ≤ dailyQuotaSec
  spent : ∀ mac, mac ≠ 0 →
    ledger.closed mac (dayAt wall now) ≤ recordedUse records mac (dayAt wall now)
  future : ∀ mac, mac ≠ 0 → ∀ day, dayAt wall now < day → ledger.closed mac day = 0

/-! ## Time passes -/

/-- A session that is over by midnight is open for whole seconds on its own day only, and not
    longer than it has run. -/
theorem Life.seconds {wall now : Nat} {session : ClientSession} {lived : Nat → Nat}
    (life : Life wall now session lived)
    (byMidnight : wall + session.endTime ≤ (session.dayId + 1) * dayUs) (day : Nat) :
    lived day / secondUs ≤ if day = session.dayId then secondsRun now session else 0 := by
  have begun := (dayAt_bounds wall session.startTime).1
  rw [← life.day] at begun
  refine (Nat.div_le_div_right (life.open_le day)).trans ?_
  split
  · -- The seconds run are those of the span, cut at the end of the session.
    refine (Nat.div_le_div_right overlap_le).trans ?_
    have ends := life.ends
    have span : wall + min now session.endTime - (wall + session.startTime) =
        min (now - session.startTime) (session.grantedSeconds * secondUs) := by omega
    rw [span, secondsRun]
    refine le_min (Nat.div_le_div_right (Nat.min_le_left _ _)) ?_
    refine (Nat.div_le_div_right (Nat.min_le_right _ _)).trans ?_
    rw [Nat.mul_div_cancel _ (by decide)]
  · rename_i other
    refine le_of_eq (Nat.div_eq_of_lt ?_)
    rcases Nat.lt_or_gt_of_ne other with earlier | later
    · have before : (day + 1) * dayUs ≤ session.dayId * dayUs := Nat.mul_le_mul_right _ earlier
      rw [partOfDay, overlap_after (before.trans begun)]
      decide
    · have after : (session.dayId + 1) * dayUs ≤ day * dayUs := Nat.mul_le_mul_right _ later
      have positive : 0 < secondUs := by decide
      exact overlap_lt positive (by omega)

theorem Life.elapse {wall now later : Nat} {session : ClientSession} {lived : Nat → Nat}
    (life : Life wall now session lived) (order : now ≤ later) :
    Life wall later session
      fun day => lived day + openTime wall day now later session where
  begun := life.begun.trans order
  ends := life.ends
  day := life.day
  dated := life.dated
  open_le day := by
    have before := life.open_le day
    have begun := life.begun
    have started : session.startTime ≤ session.endTime := life.ends ▸ Nat.le_add_right _ _
    have more : openTime wall day now later session ≤
        partOfDay wall day now (min later session.endTime) := by
      unfold openTime
      split
      · exact le_rfl
      · exact Nat.zero_le _
    unfold partOfDay at *
    by_cases expired : session.endTime ≤ now
    · rw [Nat.min_eq_right expired] at before
      rw [Nat.min_eq_right (expired.trans order)] at more ⊢
      rw [overlap_empty (by omega)] at more
      omega
    · rw [Nat.min_eq_left (by omega)] at before
      have both := @overlap_append (day * dayUs) ((day + 1) * dayUs) (wall + session.startTime)
        (wall + now) (wall + min later session.endTime) (by omega) (by omega)
      omega

/-- Time that passes keeps the invariant. -/
theorem WithinQuota.elapse {wall now later : Nat} {sessions : SessionTable}
    {records : QuotaTable} {ledger : Ledger} (quota : WithinQuota wall now sessions records ledger)
    (order : now ≤ later) :
    WithinQuota wall later sessions records (ledger.elapse wall now later sessions) := by
  have days := dayAt_le wall order
  -- A day that has just begun is one nothing was closed on.
  have fresh : ∀ mac, mac ≠ 0 → dayAt wall later ≠ dayAt wall now →
      ledger.closed mac (dayAt wall later) = 0 := fun mac real changed =>
    quota.future mac real _ (by omega)
  refine ⟨fun i active => (quota.life i active).elapse order, quota.alone, quota.byMidnight,
    quota.recorded, quota.granted, fun i active real today => ?_, fun i active real older => ?_,
    quota.capped, fun mac real => ?_, fun mac real day late => ?_⟩
  · have started := dayAt_le wall (quota.life i active).begun
    rw [← (quota.life i active).day] at started
    have same : dayAt wall later = dayAt wall now := by omega
    rw [same] at today ⊢
    exact quota.accounted i active real today
  · by_cases same : dayAt wall later = dayAt wall now
    · rw [same] at older ⊢
      exact quota.stale i active real older
    · exact fresh _ real same
  · by_cases same : dayAt wall later = dayAt wall now
    · rw [same]
      exact quota.spent mac real
    · exact (fresh mac real same).le.trans (Nat.zero_le _)
  · exact quota.future mac real day (by omega)

/-! ## The bound -/

/-- One slot's share of a sum over the slots that pass a test, if it is the only one. -/
theorem sum_only {test : Fin maxClients → Prop} [DecidablePred test] {f : Fin maxClients → Nat}
    {i : Fin maxClients} (only : ∀ j, test j → j = i) :
    (∑ j, if test j then f j else 0) = if test i then f i else 0 := by
  refine Finset.sum_eq_single i (fun j _ other => ?_) (fun absent => ?_)
  · exact if_neg fun passes => other (only j passes)
  · exact absurd (Finset.mem_univ i) absent

theorem sum_none {test : Fin maxClients → Prop} [DecidablePred test] {f : Fin maxClients → Nat}
    (none : ∀ j, ¬ test j) : (∑ j, if test j then f j else 0) = 0 :=
  Finset.sum_eq_zero fun j _ => if_neg (none j)

/-- The ledger of a state within quota shows no MAC above it, on any day. -/
theorem WithinQuota.bound {wall now : Nat} {sessions : SessionTable} {records : QuotaTable}
    {ledger : Ledger} (quota : WithinQuota wall now sessions records ledger) {mac : Mac}
    (real : mac ≠ 0) (day : Nat) :
    (ledger.closed mac day + ∑ i, if (sessions i).active = true ∧ (sessions i).mac = mac then
      ledger.running i day / secondUs else 0) ≤ dailyQuotaSec := by
  have capped := quota.capped mac real day
  by_cases present : ∃ i, (sessions i).active = true ∧ (sessions i).mac = mac
  · obtain ⟨i, active, rfl⟩ := present
    rw [sum_only fun j other => quota.alone i j active other.1 real other.2,
      if_pos ⟨active, rfl⟩]
    have seconds := (quota.life i active).seconds (quota.byMidnight i active real) day
    split at seconds
    · rename_i same
      have run : secondsRun now (sessions i) ≤ (sessions i).grantedSeconds := Nat.min_le_right _ _
      have granted := quota.granted i active real
      rw [same] at seconds ⊢
      omega
    · omega
  · rw [sum_none fun j passes => present ⟨j, passes⟩]
    exact capped

/-! ## A lookup -/

/-- The record of a MAC is put on the current day, and evicts none in use. -/
theorem WithinQuota.lookup {wall now : Nat} {sessions : SessionTable} {records : QuotaTable}
    {ledger : Ledger} (quota : WithinQuota wall now sessions records ledger)
    (ok : TableOk records) {mac : Mac} (nonzero : mac ≠ 0)
    (spared : Evicts records mac →
      recordedUse records (records ⟨0, maxClients_pos⟩).mac (dayAt wall now) = 0 ∧
        ∀ i, (sessions i).active = true → (sessions i).mac ≠ (records ⟨0, maxClients_pos⟩).mac) :
    WithinQuota wall now sessions
      (putRecord records mac (dayAt wall now) (recordedUse records mac (dayAt wall now)))
      ledger := by
  have capped := recordedUse_le ok mac (dayAt wall now)
  have grows : ∀ m, recordedUse records m (dayAt wall now) ≤
      recordedUse (putRecord records mac (dayAt wall now)
        (recordedUse records mac (dayAt wall now))) m (dayAt wall now) := by
    intro m
    by_cases same : m = mac
    · rw [same, recordedUse_putRecord_self, if_pos rfl]
    by_cases evicted : Evicts records mac ∧ (records ⟨0, maxClients_pos⟩).mac = m
    · rw [← evicted.2, (spared evicted.1).1]
      exact Nat.zero_le _
    · rw [recordedUse_putRecord_other ok nonzero _ capped same fun evicts place =>
        evicted ⟨evicts, place⟩]
  refine ⟨quota.life, quota.alone, quota.byMidnight, fun i active real => ?_, quota.granted,
    fun i active real today => (quota.accounted i active real today).trans (grows _),
    quota.stale, quota.capped, fun m real => (quota.spent m real).trans (grows m), quota.future⟩
  obtain ⟨k, found⟩ := Option.ne_none_iff_exists'.mp (quota.recorded i active real)
  by_cases same : (sessions i).mac = mac
  · rw [same, recordOf_putRecord_self]
    exact Option.some_ne_none _
  · have kept : recordOf (putRecord records mac (dayAt wall now)
        (recordedUse records mac (dayAt wall now))) (sessions i).mac = some k :=
      (recordOf_putRecord_other ok nonzero _ capped same
        fun evicts place => (spared evicts).2 i active place.symm).mpr found
    rw [kept]
    exact Option.some_ne_none _

/-! ## A turnover of sessions -/

/-- A session after the charges of a list of slots. -/
def chargedSession (now : Nat) (list : List (Fin maxClients)) (sessions : SessionTable)
    (i : Fin maxClients) : ClientSession :=
  if i ∈ list then { sessions i with accountedSeconds := elapsedSeconds now (sessions i) }
  else sessions i

/-- How one table follows another on a day: the listed sessions are charged, in order, and the
    sessions active afterwards go on, except for one that begins. Nothing was due for the others of
    that day. -/
structure Turnover (now today day : Nat) (begun : Option (Fin maxClients × ClientSession))
    (list : List (Fin maxClients)) (before after : SessionTable) (records records' : QuotaTable) :
    Prop where
  nodup : list.Nodup
  active : ∀ i ∈ list, (before i).active = true
  charged : records' = chargeAll now day records (list.map before)
  begins : ∀ i session, begun = some (i, session) → SameUse session (after i)
  goesOn : ∀ i, (∀ session, begun ≠ some (i, session)) → (after i).active = true →
    (before i).active = true ∧ SameUse (chargedSession now list before i) (after i)
  unpaid : ∀ i, (before i).active = true → (before i).mac ≠ 0 → (before i).dayId = today →
    EndedOrRestarted (before i) (after i) → i ∉ list → usageDue now (before i) = 0

/-- A session as it begins: on the day of the clock, not over, and with nothing accounted. -/
structure Fresh (wall now : Nat) (session : ClientSession) : Prop where
  begun : session.startTime ≤ now
  running : now ≤ session.endTime
  today : dayAt wall session.startTime = dayAt wall now
  ends : session.endTime = session.startTime + session.grantedSeconds * secondUs
  day : session.dayId = dayAt wall now
  dated : session.dayId ≠ 0
  accounted : session.accountedSeconds = 0

/-- A session may begin for a MAC: it becomes its only one, its grant fits what is left of the
    day and of the quota, and nothing is due for a session of that MAC. -/
structure MayBegin (wall now : Nat) (i : Fin maxClients) (session : ClientSession)
    (before after : SessionTable) (records : QuotaTable) : Prop where
  only : ∀ j, j ≠ i → (after j).active = true → (after j).mac ≠ session.mac
  fits : wall + session.endTime ≤ (session.dayId + 1) * dayUs
  left : recordedUse records session.mac (dayAt wall now) + session.grantedSeconds ≤ dailyQuotaSec
  recorded : recordOf records session.mac ≠ none
  paid : ∀ j, (before j).active = true → (before j).mac = session.mac →
    (before j).dayId = dayAt wall now → usageDue now (before j) = 0

/-- The sessions with a MAC have run for less than `2 ^ 32` seconds. -/
def Young (now : Nat) (sessions : SessionTable) : Prop :=
  ∀ i, (sessions i).active = true → (sessions i).mac ≠ 0 →
    0 < (sessions i).startTime ∧
      (now - (sessions i).startTime) / secondUs + dailyQuotaSec < 2 ^ 32

/-- A turnover of a state within quota. -/
structure SoundTurnover (wall now day : Nat) (begun : Option (Fin maxClients × ClientSession))
    (list : List (Fin maxClients)) (before after : SessionTable) (records records' : QuotaTable)
    (ledger : Ledger) : Prop where
  quota : WithinQuota wall now before records ledger
  ok : TableOk records
  young : Young now before
  turn : Turnover now (dayAt wall now) day begun list before after records records'
  fresh : ∀ i session, begun = some (i, session) → Fresh wall now session
  may : ∀ i session, begun = some (i, session) → session.mac ≠ 0 →
    MayBegin wall now i session before after records

section

variable {wall now day : Nat} {begun : Option (Fin maxClients × ClientSession)}
  {list : List (Fin maxClients)} {before after : SessionTable} {records records' : QuotaTable}
  {ledger : Ledger}

/-! ### The table -/

/-- Charging a session leaves the records of other MACs alone. -/
theorem WithinQuota.spares (quota : WithinQuota wall now before records ledger)
    {i : Fin maxClients} (active : (before i).active = true) {mac : Mac}
    (other : (before i).mac ≠ mac) : ChargeSpares now records (before i) mac := by
  by_cases zero : (before i).mac = 0
  · exact Or.inl (by simp [nothingDue, zero])
  · exact Or.inr ⟨other, fun evicts => absurd evicts.1 (quota.recorded i active zero)⟩

/-- No listed session is charged at the cost of another. -/
theorem SoundTurnover.apart
    (sound : SoundTurnover wall now day begun list before after records records' ledger) :
    (list.map before).Pairwise (ChargeApart now records) := by
  obtain ⟨quota, ok, -, turn, -⟩ := sound
  rw [List.pairwise_map]
  refine turn.nodup.pairwise_of_forall_ne fun i memberI j memberJ distinct => ?_
  have activeI := turn.active i memberI
  have activeJ := turn.active j memberJ
  by_cases zeroI : (before i).mac = 0
  · exact (ChargeApart.of_zero ok zeroI _).1
  by_cases zeroJ : (before j).mac = 0
  · exact (ChargeApart.of_zero ok zeroJ _).2
  have other : (before i).mac ≠ (before j).mac := fun same =>
    distinct (quota.alone i j activeI activeJ zeroI same.symm).symm
  exact ⟨quota.spares activeI other, quota.spares activeJ other.symm,
    Or.inr (Or.inr (Or.inl (quota.recorded i activeI zeroI)))⟩

/-- No record is moved. -/
theorem SoundTurnover.recordOf
    (sound : SoundTurnover wall now day begun list before after records records' ledger)
    (mac : Mac) :
    recordOf records' mac = recordOf records mac := by
  rw [sound.turn.charged]
  refine recordOf_chargeAll (fun session member real => ?_) mac
  obtain ⟨i, listed, rfl⟩ := List.mem_map.mp member
  exact sound.quota.recorded i (sound.turn.active i listed) real

/-- What is recorded for a MAC without a listed session stays. -/
theorem SoundTurnover.others
    (sound : SoundTurnover wall now day begun list before after records records' ledger) {mac : Mac}
    (unlisted : ∀ i ∈ list, (before i).mac ≠ mac) (day : Nat) :
    recordedUse records' mac day = recordedUse records mac day := by
  rw [sound.turn.charged]
  refine (chargeAll_spares sound.ok sound.apart fun session member => ?_).2 day
  obtain ⟨i, listed, rfl⟩ := List.mem_map.mp member
  exact sound.quota.spares (sound.turn.active i listed) (unlisted i listed)

/-- A listed session of the day is recorded with all the seconds it has run. -/
theorem SoundTurnover.listed
    (sound : SoundTurnover wall now day begun list before after records records' ledger)
    {j : Fin maxClients} (member : j ∈ list) (real : (before j).mac ≠ 0)
    (today : (before j).dayId = dayAt wall now) :
    ledger.closed (before j).mac (dayAt wall now) + secondsRun now (before j) ≤
      recordedUse records' (before j).mac (dayAt wall now) := by
  have active := sound.turn.active j member
  have charged : sessionDay day (before j) = dayAt wall now := by
    rw [sessionDay, if_pos (sound.quota.life j active).dated, today]
  obtain ⟨started, recent⟩ := sound.young j active real
  have charge := @chargeSession_young now day _ sound.ok _ real started recent
  rw [charged] at charge
  rw [sound.turn.charged, chargeAll_charges sound.ok sound.apart (List.mem_map_of_mem member),
    charge]
  have accounted := sound.quota.accounted j active real today
  have granted := sound.quota.granted j active real
  rw [today] at granted
  have run : secondsRun now (before j) ≤ (before j).grantedSeconds := Nat.min_le_right _ _
  rw [usageDue, ← secondsRun]
  omega

/-- When nothing is due for the sessions of a MAC on the day, the charges record no more of it. -/
theorem SoundTurnover.recorded_le
    (sound : SoundTurnover wall now day begun list before after records records' ledger) {mac : Mac}
    (real : mac ≠ 0)
    (paid : ∀ j, (before j).active = true → (before j).mac = mac →
      (before j).dayId = dayAt wall now → usageDue now (before j) = 0) :
    recordedUse records' mac (dayAt wall now) ≤ recordedUse records mac (dayAt wall now) := by
  by_cases listed : ∃ j ∈ list, (before j).mac = mac
  · obtain ⟨j, member, rfl⟩ := listed
    have active := sound.turn.active j member
    obtain ⟨started, recent⟩ := sound.young j active real
    have charged : sessionDay day (before j) = (before j).dayId :=
      if_pos (sound.quota.life j active).dated
    rw [sound.turn.charged, chargeAll_charges sound.ok sound.apart (List.mem_map_of_mem member)]
    cases due : nothingDue now (before j) with
    | true => rw [chargeSession_nothing due]
    | false =>
      rw [recordedUse_chargeSession due, charged]
      split
      · rename_i today
        have none := (usageDue_of_young real started recent).1.mpr (paid j active rfl today)
        rw [none] at due
        cases due
      · exact Nat.zero_le _
  · exact (sound.others (fun i member same => listed ⟨i, member, same⟩) _).le

/-! ### The ledger -/

theorem settle_running_le (i : Fin maxClients) (day : Nat) :
    (ledger.settle before after).running i day ≤ ledger.running i day := by
  unfold Ledger.settle
  dsimp only
  split
  · exact le_rfl
  · exact Nat.zero_le _

theorem closed_kept {mac : Mac} (kept : ∀ i, (before i).active = true → (before i).mac = mac →
      ¬ EndedOrRestarted (before i) (after i)) (day : Nat) :
    (ledger.settle before after).closed mac day = ledger.closed mac day := by
  unfold Ledger.settle
  dsimp only
  rw [sum_none fun i ⟨active, same, ended⟩ => kept i active same ended, Nat.add_zero]

/-- A MAC's session adds what it has run at most, on its own day. -/
theorem WithinQuota.closed_le (quota : WithinQuota wall now before records ledger)
    (after : SessionTable) {j : Fin maxClients} (active : (before j).active = true)
    (real : (before j).mac ≠ 0)
    (day : Nat) :
    (ledger.settle before after).closed (before j).mac day ≤
      ledger.closed (before j).mac day +
        if day = (before j).dayId then secondsRun now (before j) else 0 := by
  have seconds := (quota.life j active).seconds (quota.byMidnight j active real) day
  refine Nat.add_le_add_left ?_ _
  rw [sum_only fun i ended => quota.alone j i active ended.1 real ended.2.1]
  split
  · exact seconds
  · exact Nat.zero_le _

/-- What was closed for a MAC, or what was closed and what its session has run. -/
theorem WithinQuota.closed_cases (quota : WithinQuota wall now before records ledger)
    (after : SessionTable) {mac : Mac} (real : mac ≠ 0) (day : Nat) :
    (ledger.settle before after).closed mac day ≤ ledger.closed mac day ∨
      ∃ j, (before j).active = true ∧ (before j).mac = mac ∧
        EndedOrRestarted (before j) (after j) ∧ (before j).dayId = day ∧
        (ledger.settle before after).closed mac day ≤
          ledger.closed mac day + secondsRun now (before j) := by
  by_cases ends : ∃ j, (before j).active = true ∧ (before j).mac = mac ∧
      EndedOrRestarted (before j) (after j)
  · obtain ⟨j, active, rfl, ended⟩ := ends
    have le := quota.closed_le after active real day
    split at le
    · rename_i same
      exact Or.inr ⟨j, active, rfl, ended, same.symm, le⟩
    · exact Or.inl le
  · left
    rw [closed_kept fun j active same ended => ends ⟨j, active, same, ended⟩]

/-- When nothing is due for a MAC's session, what is closed for the MAC has been recorded. -/
theorem WithinQuota.closed_paid (quota : WithinQuota wall now before records ledger)
    (after : SessionTable) {mac : Mac} (real : mac ≠ 0)
    (paid : ∀ j, (before j).active = true → (before j).mac = mac →
      (before j).dayId = dayAt wall now → EndedOrRestarted (before j) (after j) →
        usageDue now (before j) = 0) :
    (ledger.settle before after).closed mac (dayAt wall now) ≤
      recordedUse records mac (dayAt wall now) := by
  rcases quota.closed_cases after real (dayAt wall now) with
    same | ⟨j, active, rfl, ended, today, le⟩
  · exact same.trans (quota.spent mac real)
  · have due := paid j active rfl today ended
    rw [usageDue, ← secondsRun] at due
    have accounted := quota.accounted j active real today
    omega

/-! ### The sessions -/

/-- A session that goes on keeps its MAC, its times, its grant and its day. -/
theorem Turnover.goesOn_same {today : Nat}
    (turn : Turnover now today day begun list before after records records') {i : Fin maxClients}
    (old : ∀ session, begun ≠ some (i, session)) (active : (after i).active = true) :
    (after i).mac = (before i).mac ∧ (after i).startTime = (before i).startTime ∧
      (after i).endTime = (before i).endTime ∧
      (after i).grantedSeconds = (before i).grantedSeconds ∧
      (after i).dayId = (before i).dayId ∧
      (after i).accountedSeconds = (chargedSession now list before i).accountedSeconds := by
  obtain ⟨-, same⟩ := turn.goesOn i old active
  rw [same]
  unfold chargedSession
  split <;> simp

/-- The session that begins is the one in its slot. -/
theorem Turnover.begins_same {today : Nat}
    (turn : Turnover now today day begun list before after records records') {i : Fin maxClients}
    {session : ClientSession} (new : begun = some (i, session)) :
    (after i).mac = session.mac ∧ (after i).startTime = session.startTime ∧
      (after i).endTime = session.endTime ∧
      (after i).grantedSeconds = session.grantedSeconds ∧ (after i).dayId = session.dayId ∧
      (after i).accountedSeconds = session.accountedSeconds := by
  rw [turn.begins i session new]
  exact ⟨rfl, rfl, rfl, rfl, rfl, rfl⟩

/-- An active session after a turnover went on, or is the one that begins. -/
theorem Turnover.cases {today : Nat}
    (turn : Turnover now today day begun list before after records records') {i : Fin maxClients}
    (active : (after i).active = true) :
    ((∀ session, begun ≠ some (i, session)) ∧ (before i).active = true) ∨
      ∃ session, begun = some (i, session) := by
  by_cases new : ∃ session, begun = some (i, session)
  · exact Or.inr new
  · have old : ∀ session, begun ≠ some (i, session) := fun session here => new ⟨session, here⟩
    exact Or.inl ⟨old, (turn.goesOn i old active).1⟩

/-- A session that goes on keeps what is closed for its MAC. -/
theorem SoundTurnover.closed_goesOn
    (sound : SoundTurnover wall now day begun list before after records records' ledger)
    {i : Fin maxClients} (old : ∀ session, begun ≠ some (i, session))
    (active : (after i).active = true)
    (real : (before i).mac ≠ 0) (day : Nat) :
    (ledger.settle before after).closed (before i).mac day = ledger.closed (before i).mac day := by
  have before := (sound.turn.goesOn i old active).1
  refine closed_kept (fun j activeJ sameMac => ?_) day
  rw [sound.quota.alone i j before activeJ real sameMac, EndedOrRestarted, not_or, not_not]
  exact ⟨by simp [active], (sound.turn.goesOn_same old active).2.1⟩

/-! ### The invariant afterwards -/

/-- A session that begins has not been open yet. -/
theorem SoundTurnover.life
    (sound : SoundTurnover wall now day begun list before after records records' ledger)
    {i : Fin maxClients} (active : (after i).active = true) :
    Life wall now (after i) ((ledger.settle before after).running i) := by
  rcases sound.turn.cases active with ⟨old, source⟩ | ⟨session, new⟩
  · have life := sound.quota.life i source
    obtain ⟨-, start, ends, granted, day, -⟩ := sound.turn.goesOn_same old active
    refine ⟨start ▸ life.begun, ?_, ?_, day ▸ life.dated, fun d => ?_⟩
    · rw [start, ends, granted, life.ends]
    · rw [start, day, life.day]
    · rw [start, ends]
      exact (settle_running_le i d).trans (life.open_le d)
  · obtain ⟨-, start, ends, granted, day, -⟩ := sound.turn.begins_same new
    have fresh := sound.fresh i session new
    refine ⟨start ▸ fresh.begun, ?_, ?_, day ▸ fresh.dated, fun d => ?_⟩
    · rw [start, ends, granted, fresh.ends]
    · rw [start, day, fresh.day, fresh.today]
    unfold Ledger.settle
    dsimp only
    split
    · -- The session it replaces began at the same reading of the timer.
      rename_i kept
      rw [EndedOrRestarted, not_or, not_not] at kept
      refine ((sound.quota.life i kept.1).open_le d).trans ?_
      have running := fresh.running
      rw [← kept.2.2, ends, partOfDay, partOfDay]
      exact overlap_mono (by omega)
    · exact Nat.zero_le _

theorem SoundTurnover.alone
    (sound : SoundTurnover wall now day begun list before after records records' ledger)
    {i j : Fin maxClients} (activeI : (after i).active = true) (activeJ : (after j).active = true)
    (real : (after i).mac ≠ 0) (same : (after j).mac = (after i).mac) : j = i := by
  by_contra other
  rcases sound.turn.cases activeI with ⟨oldI, sourceI⟩ | ⟨session, new⟩
  · rcases sound.turn.cases activeJ with ⟨oldJ, sourceJ⟩ | ⟨session, new⟩
    · have macI := (sound.turn.goesOn_same oldI activeI).1
      have macJ := (sound.turn.goesOn_same oldJ activeJ).1
      rw [macI] at real same
      exact other (sound.quota.alone i j sourceI sourceJ real (macJ ▸ same))
    · have mac := (sound.turn.begins_same new).1
      have begins := sound.may j session new (by rwa [← mac, same])
      exact begins.only i (Ne.symm other) activeI (by rw [← mac, same])
  · have mac := (sound.turn.begins_same new).1
    have begins := sound.may i session new (by rwa [← mac])
    exact begins.only j other activeJ (by rw [← mac, same])

theorem SoundTurnover.byMidnight
    (sound : SoundTurnover wall now day begun list before after records records' ledger)
    {i : Fin maxClients} (active : (after i).active = true) (real : (after i).mac ≠ 0) :
    wall + (after i).endTime ≤ ((after i).dayId + 1) * dayUs := by
  rcases sound.turn.cases active with ⟨old, source⟩ | ⟨session, new⟩
  · obtain ⟨mac, -, ends, -, day, -⟩ := sound.turn.goesOn_same old active
    rw [ends, day]
    exact sound.quota.byMidnight i source (mac ▸ real)
  · obtain ⟨mac, -, ends, -, day, -⟩ := sound.turn.begins_same new
    rw [ends, day]
    exact (sound.may i session new (mac ▸ real)).fits

theorem SoundTurnover.recorded
    (sound : SoundTurnover wall now day begun list before after records records' ledger)
    {i : Fin maxClients} (active : (after i).active = true) (real : (after i).mac ≠ 0) :
    Session.recordOf records' (after i).mac ≠ none := by
  rw [sound.recordOf]
  rcases sound.turn.cases active with ⟨old, source⟩ | ⟨session, new⟩
  · have mac := (sound.turn.goesOn_same old active).1
    rw [mac] at real ⊢
    exact sound.quota.recorded i source real
  · have mac := (sound.turn.begins_same new).1
    rw [mac] at real ⊢
    exact (sound.may i session new real).recorded

theorem SoundTurnover.granted
    (sound : SoundTurnover wall now day begun list before after records records' ledger)
    {i : Fin maxClients} (active : (after i).active = true) (real : (after i).mac ≠ 0) :
    (ledger.settle before after).closed (after i).mac (after i).dayId +
      (after i).grantedSeconds ≤ dailyQuotaSec := by
  rcases sound.turn.cases active with ⟨old, source⟩ | ⟨session, new⟩
  · obtain ⟨mac, -, -, granted, day, -⟩ := sound.turn.goesOn_same old active
    rw [mac] at real ⊢
    rw [granted, day, sound.closed_goesOn old active real]
    exact sound.quota.granted i source real
  · obtain ⟨mac, -, -, granted, day, -⟩ := sound.turn.begins_same new
    rw [mac] at real ⊢
    rw [granted, day, (sound.fresh i session new).day]
    have begins := sound.may i session new real
    have left := begins.left
    have paid := sound.quota.closed_paid after real fun j activeJ same today _ =>
      begins.paid j activeJ same today
    omega

/-- What is closed for a MAC has been recorded. -/
theorem SoundTurnover.spent
    (sound : SoundTurnover wall now day begun list before after records records' ledger) {mac : Mac}
    (real : mac ≠ 0) :
    (ledger.settle before after).closed mac (dayAt wall now) ≤
      recordedUse records' mac (dayAt wall now) := by
  by_cases listed : ∃ j ∈ list, (before j).mac = mac
  · obtain ⟨j, member, rfl⟩ := listed
    have active := sound.turn.active j member
    refine (sound.quota.closed_le after active real _).trans ?_
    split
    · rename_i today
      exact sound.listed member real today.symm
    · rename_i older
      rw [sound.quota.stale j active real (Ne.symm older)]
      exact Nat.zero_le _
  · have unlisted : ∀ i ∈ list, (before i).mac ≠ mac := fun i member same =>
      listed ⟨i, member, same⟩
    rw [sound.others unlisted]
    refine sound.quota.closed_paid after real fun j active same today ended => ?_
    exact sound.turn.unpaid j active (same ▸ real) today ended fun member => unlisted j member same

theorem SoundTurnover.accounted
    (sound : SoundTurnover wall now day begun list before after records records' ledger)
    {i : Fin maxClients} (active : (after i).active = true) (real : (after i).mac ≠ 0)
    (today : (after i).dayId = dayAt wall now) :
    (ledger.settle before after).closed (after i).mac (dayAt wall now) +
      (after i).accountedSeconds ≤ recordedUse records' (after i).mac (dayAt wall now) := by
  rcases sound.turn.cases active with ⟨old, source⟩ | ⟨session, new⟩
  · obtain ⟨mac, -, -, -, day, charged⟩ := sound.turn.goesOn_same old active
    rw [mac] at real ⊢
    rw [day] at today
    rw [charged, sound.closed_goesOn old active real, chargedSession]
    split
    · rename_i member
      have elapsed : elapsedSeconds now (before i) ≤ secondsRun now (before i) :=
        min_le_min (Nat.mod_le _ _) le_rfl
      exact (Nat.add_le_add_left elapsed _).trans (sound.listed member real today)
    · rename_i unlisted
      have others : ∀ j ∈ list, (before j).mac ≠ (before i).mac := fun j member same =>
        unlisted (sound.quota.alone i j source (sound.turn.active j member) real same ▸ member)
      rw [sound.others others]
      exact sound.quota.accounted i source real today
  · rw [(sound.turn.begins_same new).2.2.2.2.2, (sound.fresh i session new).accounted, Nat.add_zero]
    exact sound.spent real

theorem SoundTurnover.stale
    (sound : SoundTurnover wall now day begun list before after records records' ledger)
    {i : Fin maxClients} (active : (after i).active = true) (real : (after i).mac ≠ 0)
    (older : (after i).dayId ≠ dayAt wall now) :
    (ledger.settle before after).closed (after i).mac (dayAt wall now) = 0 := by
  rcases sound.turn.cases active with ⟨old, source⟩ | ⟨session, new⟩
  · obtain ⟨mac, -, -, -, day, -⟩ := sound.turn.goesOn_same old active
    rw [mac] at real ⊢
    rw [day] at older
    rw [sound.closed_goesOn old active real]
    exact sound.quota.stale i source real older
  · have today := (sound.turn.begins_same new).2.2.2.2.1
    exact absurd (today.trans (sound.fresh i session new).day) older

/-- A turnover keeps the invariant. -/
theorem SoundTurnover.withinQuota
    (sound : SoundTurnover wall now day begun list before after records records' ledger) :
    WithinQuota wall now after records' (ledger.settle before after) where
  life _ active := sound.life active
  alone _ _ activeI activeJ real same := sound.alone activeI activeJ real same
  byMidnight _ active real := sound.byMidnight active real
  recorded _ active real := sound.recorded active real
  granted _ active real := sound.granted active real
  accounted _ active real today := sound.accounted active real today
  stale _ active real older := sound.stale active real older
  spent _ real := sound.spent real
  capped mac real day := by
    rcases sound.quota.closed_cases after real day with
      same | ⟨j, active, rfl, -, rfl, le⟩
    · exact same.trans (sound.quota.capped mac real day)
    · have granted := sound.quota.granted j active real
      have run : secondsRun now (before j) ≤ (before j).grantedSeconds := Nat.min_le_right _ _
      omega
  future mac real day late := by
    rcases sound.quota.closed_cases after real day with
      same | ⟨j, active, -, -, rfl, -⟩
    · exact Nat.le_zero.mp (same.trans (sound.quota.future mac real day late).le)
    · have begun := dayAt_le wall (sound.quota.life j active).begun
      rw [← (sound.quota.life j active).day] at begun
      omega

end

end SolarConnect.Session
