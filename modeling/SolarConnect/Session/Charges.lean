import SolarConnect.Session.Quota

/-!
# Charging several sessions

An operation may checkpoint several sessions, one after the other, on the one quota table.
Charging one leaves the seconds of another MAC alone unless it evicts its record. When no
charge of a list evicts the record of another of its sessions, each session of the list is
charged as if it were alone.
-/

namespace SolarConnect.Session

open Slots

/-- The day an operation takes for the current one. -/
def currentDay (m : Moment) (q : QuotaState) : Nat := (getCurrentDayId m.time q).1

/-- The day a session is charged to. -/
def sessionDay (day : Nat) (session : ClientSession) : Nat :=
  if session.dayId ≠ 0 then session.dayId else day

/-- What a checkpoint of the session does to the table. -/
def chargeSession (now day : Nat) (records : QuotaTable) (session : ClientSession) : QuotaTable :=
  if nothingDue now session then records
  else
    putRecord records session.mac (sessionDay day session)
      (chargedUse (recordedUse records session.mac (sessionDay day session))
        (elapsedSeconds now session - session.accountedSeconds))

/-- What checkpoints of the sessions do to it, in order. -/
def chargeAll (now day : Nat) (records : QuotaTable) (list : List ClientSession) : QuotaTable :=
  list.foldl (chargeSession now day) records

/-! ## Checkpoints -/

theorem currentDay_valid {m : Moment} (valid : hasValidSystemTime m.time = true)
    (q : QuotaState) : currentDay m q = m.time / 86400 % 2 ^ 32 :=
  getCurrentDayId_valid valid q

/-- While the clock is not set the current day is remembered or made up. -/
theorem currentDay_congr {m : Moment} {q q' : QuotaState}
    (hint : hasValidSystemTime m.time = false → q'.dayHint = q.dayHint) :
    currentDay m q' = currentDay m q := by
  cases valid : hasValidSystemTime m.time with
  | true => rw [currentDay_valid valid, currentDay_valid valid]
  | false => simp [currentDay, getCurrentDayId, valid, hint valid]

@[simp] theorem findOrAlloc_dayHint (mac : Mac) (dayId : Nat) (q : QuotaState) :
    (findOrAllocQuotaRecord mac dayId q).2.dayHint = q.dayHint := by
  unfold findOrAllocQuotaRecord
  repeat' split
  all_goals rfl

@[simp] theorem flushQuotaState_dayHint (nvs : Nat → Bool) (now : Nat) (force : Bool)
    (q : QuotaState) : (flushQuotaState nvs now force q).dayHint = q.dayHint := by
  unfold flushQuotaState
  repeat' split
  all_goals rfl

theorem getCurrentDayId_dayHint {time : Nat} (invalid : hasValidSystemTime time = false)
    (q : QuotaState) : (getCurrentDayId time q).2.dayHint = q.dayHint := by
  simp [getCurrentDayId, invalid]

@[simp] theorem chargeRecord_dayHint (mac : Mac) (dayId delta : Nat) (q : QuotaState) :
    (chargeRecord mac dayId delta q).dayHint = q.dayHint := by
  unfold chargeRecord
  dsimp only
  split <;> simp

theorem currentDay_getCurrentDayId (m : Moment) (q : QuotaState) :
    currentDay m (getCurrentDayId m.time q).2 = currentDay m q :=
  currentDay_congr fun invalid => getCurrentDayId_dayHint invalid q

theorem currentDay_checkpoint (nvs : Nat → Bool) (m : Moment) (force : Bool)
    (session : ClientSession) (q : QuotaState) :
    currentDay m (checkpointSessionUsage nvs m force session q).2 = currentDay m q := by
  refine currentDay_congr fun invalid => ?_
  unfold checkpointSessionUsage
  split
  · split <;> simp
  rw [flushQuotaState_dayHint]
  unfold chargeUsage
  split
  · simp
  · simp [getCurrentDayId_dayHint invalid]

theorem checkpoint_charges (nvs : Nat → Bool) (m : Moment) (force : Bool)
    (session : ClientSession) (q : QuotaState) :
    (checkpointSessionUsage nvs m force session q).2.records =
      chargeSession m.now (currentDay m q) q.records session := by
  rw [checkpoint_records, chargeSession]
  cases due : nothingDue m.now session with
  | true => rfl
  | false =>
    rw [if_neg (by simp), if_neg (by simp), chargeUsage_records m (mac_ne_zero_of_due due)]
    rfl

/-! ## One charge -/

theorem chargeSession_nothing {now day : Nat} {records : QuotaTable} {session : ClientSession}
    (nothing : nothingDue now session = true) :
    chargeSession now day records session = records :=
  if_pos nothing

theorem tableOk_chargeSession {now day : Nat} {records : QuotaTable} (ok : TableOk records)
    (session : ClientSession) : TableOk (chargeSession now day records session) := by
  unfold chargeSession
  split
  · exact ok
  · rename_i due
    exact tableOk_putRecord ok (mac_ne_zero_of_due (by simpa using due)) _ (chargedUse_le _ _)

/-- What the table records for a MAC: its slot, and the seconds of each day. -/
def SameRecord (records records' : QuotaTable) (mac : Mac) : Prop :=
  recordOf records' mac = recordOf records mac ∧
    ∀ day, recordedUse records' mac day = recordedUse records mac day

/-- Charging the session leaves the record of the MAC alone. -/
def ChargeSpares (now : Nat) (records : QuotaTable) (session : ClientSession) (mac : Mac) : Prop :=
  nothingDue now session = true ∨
    session.mac ≠ mac ∧ (Evicts records session.mac → (records ⟨0, maxClients_pos⟩).mac ≠ mac)

instance (now : Nat) (records : QuotaTable) (session : ClientSession) (mac : Mac) :
    Decidable (ChargeSpares now records session mac) := by
  unfold ChargeSpares
  infer_instance

theorem ChargeSpares.sameRecord {now : Nat} {records : QuotaTable} {session : ClientSession}
    {mac : Mac} (spares : ChargeSpares now records session mac) (ok : TableOk records)
    (day : Nat) : SameRecord records (chargeSession now day records session) mac := by
  unfold chargeSession
  rcases spares with nothing | ⟨other, kept⟩
  · rw [if_pos nothing]
    exact ⟨rfl, fun _ => rfl⟩
  split
  · exact ⟨rfl, fun _ => rfl⟩
  · rename_i due
    have nonzero := mac_ne_zero_of_due (Bool.not_eq_true _ ▸ due)
    refine ⟨Option.ext fun i => ?_, fun d => ?_⟩
    · exact recordOf_putRecord_other ok nonzero _ (chargedUse_le _ _) other.symm kept
    · exact recordedUse_putRecord_other ok nonzero _ (chargedUse_le _ _) other.symm kept d

/-- A MAC with a record keeps its slot when it is charged, and no slot changes hands. -/
theorem chargeSession_columns {now day : Nat} {records : QuotaTable} {session : ClientSession}
    (present : recordOf records session.mac ≠ none) (i : Fin maxClients) :
    (chargeSession now day records session i).valid = (records i).valid ∧
      (chargeSession now day records session i).mac = (records i).mac := by
  unfold chargeSession
  split
  · exact ⟨rfl, rfl⟩
  obtain ⟨k, found⟩ := Option.ne_none_iff_exists'.mp present
  obtain ⟨valid, carries⟩ := recordOf_some found
  rw [putRecord, found, Option.getD_some]
  rcases eq_or_ne i k with rfl | elsewhere
  · simp [valid, carries]
  · simp [Function.update_of_ne elsewhere]

/-! ## A list of charges -/

/-- Neither of the two sessions is charged at the cost of the other's record, and at most one
    of them is charged to a new record. -/
def ChargeApart (now : Nat) (records : QuotaTable) (a b : ClientSession) : Prop :=
  ChargeSpares now records a b.mac ∧ ChargeSpares now records b a.mac ∧
    (nothingDue now a = true ∨ nothingDue now b = true ∨ recordOf records a.mac ≠ none ∨
      recordOf records b.mac ≠ none)

instance (now : Nat) (records : QuotaTable) (a b : ClientSession) :
    Decidable (ChargeApart now records a b) := by
  unfold ChargeApart
  infer_instance

/-- Charging a first session does not bring two others into each other's way. -/
theorem ChargeSpares.chargeSession {now day : Nat} {records : QuotaTable} (ok : TableOk records)
    {a b : ClientSession} {mac : Mac} (apart : ChargeApart now records a b)
    (spares : ChargeSpares now records b mac) :
    ChargeSpares now (Session.chargeSession now day records a) b mac := by
  rcases spares with nothing | ⟨other, kept⟩
  · exact Or.inl nothing
  cases dueB : nothingDue now b with
  | true => exact Or.inl dueB
  | false =>
    right
    refine ⟨other, fun evicts => ?_⟩
    have same := (apart.1.sameRecord ok day).1
    have absent : recordOf records b.mac = none := same ▸ evicts.1
    rcases apart.2.2 with nothing | nothing | present | present
    · rw [Session.chargeSession, if_pos nothing] at evicts ⊢
      exact kept evicts
    · simp [dueB] at nothing
    · rw [(chargeSession_columns present _).2]
      exact kept ⟨absent, fun i => (chargeSession_columns present i).1.symm.trans (evicts.2 i)⟩
    · exact absurd absent present

theorem ChargeApart.chargeSession {now day : Nat} {records : QuotaTable} (ok : TableOk records)
    {a b c : ClientSession} (apartB : ChargeApart now records a b)
    (apartC : ChargeApart now records a c) (apart : ChargeApart now records b c) :
    ChargeApart now (Session.chargeSession now day records a) b c := by
  refine ⟨apart.1.chargeSession ok apartB, apart.2.1.chargeSession ok apartC, ?_⟩
  rw [(apartB.1.sameRecord ok day).1, (apartC.1.sameRecord ok day).1]
  exact apart.2.2

theorem tableOk_chargeAll {now day : Nat} {records : QuotaTable} (ok : TableOk records)
    (list : List ClientSession) : TableOk (chargeAll now day records list) := by
  induction list generalizing records with
  | nil => exact ok
  | cons session list ih => exact ih (tableOk_chargeSession ok session)

theorem SameRecord.trans {a b c : QuotaTable} {mac : Mac} (first : SameRecord a b mac)
    (second : SameRecord b c mac) : SameRecord a c mac :=
  ⟨second.1.trans first.1, fun day => (second.2 day).trans (first.2 day)⟩

/-- The sessions that follow stay out of each other's way. -/
theorem pairwise_chargeSession {now day : Nat} {records : QuotaTable} (ok : TableOk records)
    {a : ClientSession} {list : List ClientSession}
    (head : ∀ b ∈ list, ChargeApart now records a b)
    (tail : list.Pairwise (ChargeApart now records)) :
    list.Pairwise (ChargeApart now (chargeSession now day records a)) :=
  tail.imp_of_mem fun memberB memberC apart =>
    ChargeApart.chargeSession ok (head _ memberB) (head _ memberC) apart

/-- A list of charges that each leave the record of a MAC alone. -/
theorem chargeAll_spares {now day : Nat} {records : QuotaTable} (ok : TableOk records)
    {list : List ClientSession} (apart : list.Pairwise (ChargeApart now records)) {mac : Mac}
    (spares : ∀ a ∈ list, ChargeSpares now records a mac) :
    SameRecord records (chargeAll now day records list) mac := by
  induction list generalizing records with
  | nil => exact ⟨rfl, fun _ => rfl⟩
  | cons a list ih =>
    obtain ⟨head, tail⟩ := List.pairwise_cons.mp apart
    have first := (spares a List.mem_cons_self).sameRecord ok day
    refine first.trans (ih (tableOk_chargeSession ok a) ?_ fun b member => ?_)
    · exact pairwise_chargeSession ok head tail
    · exact (spares b (List.mem_cons_of_mem a member)).chargeSession ok (head b member)

/-- What a charge records for its own MAC. -/
theorem recordedUse_chargeSession {now day : Nat} {records : QuotaTable}
    {session : ClientSession} (due : nothingDue now session = false) (d : Nat) :
    recordedUse (chargeSession now day records session) session.mac d =
      if sessionDay day session = d then
        chargedUse (recordedUse records session.mac (sessionDay day session))
          (elapsedSeconds now session - session.accountedSeconds)
      else 0 := by
  rw [chargeSession, if_neg (by simp [due])]
  exact recordedUse_putRecord_self _ _ _ _ d

/-- Every session of the list is charged as if it were alone. -/
theorem chargeAll_charges {now day : Nat} {records : QuotaTable} (ok : TableOk records)
    {list : List ClientSession} (apart : list.Pairwise (ChargeApart now records))
    {session : ClientSession} (member : session ∈ list) (d : Nat) :
    recordedUse (chargeAll now day records list) session.mac d =
      recordedUse (chargeSession now day records session) session.mac d := by
  induction list generalizing records with
  | nil => simp at member
  | cons a list ih =>
    obtain ⟨head, tail⟩ := List.pairwise_cons.mp apart
    have ok' : TableOk (chargeSession now day records a) := tableOk_chargeSession ok a
    have tail' : list.Pairwise (ChargeApart now (chargeSession now day records a)) :=
      pairwise_chargeSession ok head tail
    rcases List.mem_cons.mp member with rfl | later
    · refine (chargeAll_spares ok' tail' fun b member => ?_).2 d
      exact (head b member).2.1.chargeSession ok (head b member)
    · refine (ih ok' tail' later).trans ?_
      obtain ⟨-, same⟩ := (head session later).1.sameRecord ok day
      cases due : nothingDue now session with
      | true =>
        rw [chargeSession_nothing due, chargeSession_nothing due]
        exact same d
      | false => rw [recordedUse_chargeSession due, recordedUse_chargeSession due, same]

/-- Charging a session whose MAC has a record moves no MAC's record. -/
theorem recordOf_chargeSession {now day : Nat} {records : QuotaTable} {session : ClientSession}
    (present : session.mac ≠ 0 → recordOf records session.mac ≠ none) (mac : Mac) :
    recordOf (chargeSession now day records session) mac = recordOf records mac := by
  by_cases zero : session.mac = 0
  · rw [chargeSession_nothing (by simp [nothingDue, zero])]
  · refine firstSlot_congr fun i => ?_
    rw [(chargeSession_columns (present zero) i).1, (chargeSession_columns (present zero) i).2]

theorem recordOf_chargeAll {now day : Nat} {records : QuotaTable} {list : List ClientSession}
    (present : ∀ a ∈ list, a.mac ≠ 0 → recordOf records a.mac ≠ none) (mac : Mac) :
    recordOf (chargeAll now day records list) mac = recordOf records mac := by
  induction list generalizing records with
  | nil => rfl
  | cons a list ih =>
    have first := @recordOf_chargeSession now day _ _ (present a List.mem_cons_self)
    refine (ih fun b member real => ?_).trans (first mac)
    rw [first]
    exact present b (List.mem_cons_of_mem a member) real

end SolarConnect.Session
