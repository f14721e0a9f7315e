import SolarConnect.Session.Backing
import SolarConnect.Session.Books

/-!
# Confirming again

A client that confirms while its session is running gets the same session again. Whatever way the
first request took to its slot, the slot is from then on the first whose session is the client's,
so the second request finds it.
-/

namespace SolarConnect.Session

open Slots ClientAcl

/-! ## A refresh -/

/-- A session that is the same but for the seconds accounted, and in the same use, is the same. -/
theorem SameSession.eq_of_sameUse {a b : ClientSession} (same : SameSession a b)
    (use : SameUse a b) : b = a := by
  have accounted : b.accountedSeconds = a.accountedSeconds := by rw [use]
  rw [SameSession, accounted] at same
  exact same

/-- With an address the session is looked up in the table as it is. -/
theorem requestBinding_address (m : Clocks) {req : StartRequest} (address : req.ip ≠ 0)
    (sessions : SessionTable) :
    requestBinding m req sessions = binding m.now req (foundByClient req sessions) sessions := by
  rw [requestBinding, searchedTable, if_neg address, foundSession, if_neg address]

/-- And the slot is written in that table. -/
theorem writtenServer_address (p : Platform) (m : Clocks) {req : StartRequest}
    (address : req.ip ≠ 0) (s : Server) :
    (writtenServer p m req s).sessions =
      boundTable m (currentDay m s.quota) req (requestBinding m req s.sessions) := by
  rw [writtenServer_sessions, openedBinding, openedServer, if_neg address,
    requestBinding_address m address, foundSession, if_neg address]

/-- What `start_or_resume_session` leaves in the table: of the table with the bound session, the
    sessions that the refresh does not find expired, and the times of all. -/
structure LeavesBound (m : Clocks) (req : StartRequest) (s s' : Server) : Prop where
  kept : ∀ j, (boundTable m (currentDay m s.quota) req
      (requestBinding m req s.sessions) j).active = true →
    ¬ Expired m.closed (boundTable m (currentDay m s.quota) req
      (requestBinding m req s.sessions) j) →
    s'.sessions j = boundTable m (currentDay m s.quota) req (requestBinding m req s.sessions) j
  active : ∀ j, (s'.sessions j).active = true →
    s'.sessions j = boundTable m (currentDay m s.quota) req (requestBinding m req s.sessions) j
  times : ∀ j, SameTimes (boundTable m (currentDay m s.quota) req
    (requestBinding m req s.sessions) j) (s'.sessions j)

theorem startOrResume_leaves (p : Platform) (m : Clocks) {req : StartRequest}
    (address : req.ip ≠ 0) (s : Server) :
    (startOrResumeSession p m req s).1 = some (requestBinding m req s.sessions).slot ∧
      LeavesBound m req s (startOrResumeSession p m req s).2 := by
  have place := (startOrResume_effect p m (Or.inl address) s).1
  obtain ⟨first, second, starts⟩ := startOrResume_starts p m (Or.inl address) s
  have written := writtenServer_address p m address s
  obtain ⟨mid, ends, gate⟩ :=
    admitRequest_ends p m.closing req (writtenServer p m req s) rfl rfl
  rw [← startOrResume_phases p m (Or.inl address)] at gate
  have sessions : (startOrResumeSession p m req s).2.sessions = mid.sessions :=
    congrArg Gate.sessions gate
  have kept : ∀ j, ((writtenServer p m req s).sessions j).active = true →
      ¬ Expired m.closed ((writtenServer p m req s).sessions j) →
        (startOrResumeSession p m req s).2.sessions j = (writtenServer p m req s).sessions j := by
    intro j active running
    have use := starts.closes.kept j fun member => running ((starts.overSecond j).mp member)
    have same := ends.kept j active running
    rw [← sessions] at same
    exact same.eq_of_sameUse use
  refine ⟨place, written ▸ kept, fun j active => ?_, fun j => written ▸ starts.closes.times j⟩
  rw [sessions] at active
  obtain ⟨running, before, -⟩ := ends.survivor active
  rw [← written]
  exact kept j before running

/-! ## The session of a client -/

/-- A lookup stops at the session: it has the MAC of the request, or else its address. -/
def isClient (req : StartRequest) (session : ClientSession) : Bool :=
  session.active &&
    match req.mac with
    | some mac => session.mac == mac
    | none => session.ipAddr == req.ip

theorem foundByClient_of_first {req : StartRequest} {table : SessionTable} {i : Fin maxClients}
    (here : isClient req (table i) = true) (before : ∀ j < i, isClient req (table j) = false) :
    foundByClient req table = some i := by
  have first : firstSlot (fun j => isClient req (table j)) = some i :=
    firstSlot_eq_some_iff.mpr ⟨here, before⟩
  unfold isClient at first
  unfold foundByClient findSessionIndexByMac
  cases mac : req.mac with
  | none =>
    rw [mac] at first
    exact first
  | some mac' =>
    rw [mac] at first
    dsimp only
    rw [first]
    rfl

/-- The bound session is the client's. -/
theorem boundSession_isClient (m : Clocks) (dayId : Nat) {req again : StartRequest}
    (sameIp : again.ip = req.ip) (sameMac : again.mac = req.mac) (sessions : SessionTable) :
    isClient again (boundSession m dayId req (requestBinding m req sessions)) = true := by
  have active := (boundSession_running m dayId req sessions).1
  rw [isClient, active, Bool.true_and, sameMac]
  cases mac : req.mac with
  | none =>
    dsimp only
    rw [boundSession_ip, sameIp, beq_self_eq_true]
  | some mac' =>
    dsimp only
    rw [boundSession_mac, boundMac, mac, Option.getD_some, beq_self_eq_true]

theorem findSessionIndexByMac_isClient {req : StartRequest} {mac : Mac}
    (given : req.mac = some mac) (table : SessionTable) :
    findSessionIndexByMac table req.mac = firstSlot fun j => isClient req (table j) := by
  unfold isClient
  rw [given]
  rfl

theorem findSessionIndexByIp_isClient {req : StartRequest} (without : req.mac = none)
    (table : SessionTable) :
    findSessionIndexByIp table req.ip = firstSlot fun j => isClient req (table j) := by
  unfold isClient
  rw [without]
  rfl

/-- No session in front of the one that is found is the client's. -/
theorem foundByClient_first {req : StartRequest} {table : SessionTable} {i : Fin maxClients}
    (found : foundByClient req table = some i) : ∀ j < i, isClient req (table j) = false := by
  intro j before
  unfold foundByClient at found
  cases mac : req.mac with
  | none =>
    rw [findSessionIndexByIp_isClient mac, mac] at found
    exact (firstSlot_eq_some_iff.mp found).2 j before
  | some mac' =>
    rw [findSessionIndexByMac_isClient mac] at found
    rcases Option.or_eq_some_iff.mp found with byMac | ⟨absent, -⟩
    · exact (firstSlot_eq_some_iff.mp byMac).2 j before
    · exact firstSlot_eq_none_iff.mp absent j

theorem foundByClient_none {req : StartRequest} {table : SessionTable}
    (absent : foundByClient req table = none) (j : Fin maxClients) :
    isClient req (table j) = false := by
  unfold foundByClient at absent
  obtain ⟨byMac, byIp⟩ := Option.or_eq_none_iff.mp absent
  cases mac : req.mac with
  | none =>
    rw [findSessionIndexByIp_isClient mac] at byIp
    exact firstSlot_eq_none_iff.mp byIp j
  | some mac' =>
    rw [findSessionIndexByMac_isClient mac] at byMac
    exact firstSlot_eq_none_iff.mp byMac j

/-- Nor in front of the slot a session is written to. Without a MAC it is the slot that was found
    by the address. -/
theorem slotToWrite_first {req : StartRequest} {previous : Option (Fin maxClients)}
    {table : SessionTable}
    (first : ∀ i, previous = some i → ∀ j < i, isClient req (table j) = false)
    (absent : previous = none → ∀ j, isClient req (table j) = false) :
    ∀ j < slotToWrite req previous table, isClient req (table j) = false := by
  intro j before
  unfold slotToWrite at before
  dsimp only at before
  have stops : ∀ index : Option (Fin maxClients),
      (∀ i, index = some i → ∀ j < i, isClient req (table j) = false) →
        (index = none → ∀ j, isClient req (table j) = false) →
          (if req.mac.isSome then findSessionIndexByMac table req.mac else previous) = index →
            isClient req (table j) = false := by
    intro index inFront nowhere same
    rw [same] at before
    cases index with
    | none => exact nowhere rfl j
    | some i => exact inFront i rfl j before
  cases mac : req.mac with
  | none => exact stops previous first absent (by rw [mac]; rfl)
  | some mac' =>
    refine stops (findSessionIndexByMac table req.mac) ?_ ?_ (by rw [mac]; rfl)
    · intro i found
      rw [findSessionIndexByMac_isClient mac] at found
      exact (firstSlot_eq_some_iff.mp found).2
    · intro none
      rw [findSessionIndexByMac_isClient mac] at none
      exact firstSlot_eq_none_iff.mp none

/-- No session in front of the bound slot is the client's. -/
theorem requestBinding_first (m : Clocks) {req : StartRequest} (address : req.ip ≠ 0)
    (sessions : SessionTable) :
    ∀ j < (requestBinding m req sessions).slot,
      isClient req ((requestBinding m req sessions).dropped j) = false := by
  rw [requestBinding_address m address]
  rcases binding_cases m.now req (foundByClient req sessions) sessions with
    ⟨i, found, -, same⟩ | ⟨i, found, -, same⟩ | ⟨absent, same⟩
  · rw [same]
    exact foundByClient_first found
  · rw [same]
    refine slotToWrite_first ?_ (fun none => by cases none)
    intro i' same' j before
    obtain rfl := Option.some.inj same'
    rw [Function.update_of_ne before.ne]
    exact foundByClient_first found j before
  · rw [same]
    exact slotToWrite_first (fun i none => by cases none) fun _ => foundByClient_none absent

/-- After a start whose session outlasts it, the bound slot holds the client's session, and it is
    found. -/
theorem LeavesBound.found {m : Clocks} {req again : StartRequest} {s s' : Server}
    (leaves : LeavesBound m req s s') (address : req.ip ≠ 0) (sameIp : again.ip = req.ip)
    (sameMac : again.mac = req.mac)
    (outlasts : m.closed < (s'.sessions (requestBinding m req s.sessions).slot).endTime) :
    (s'.sessions (requestBinding m req s.sessions).slot).active = true ∧
      foundByClient again s'.sessions = some (requestBinding m req s.sessions).slot := by
  have active := (boundSession_running m (currentDay m s.quota) req s.sessions).1
  have client := boundSession_isClient m (currentDay m s.quota) sameIp sameMac s.sessions
  have here := leaves.kept (requestBinding m req s.sessions).slot
  rw [(leaves.times _).endTime] at outlasts
  rw [boundTable, Function.update_self] at here outlasts
  have slot := here active fun expired => absurd expired.2.2 (not_le.mpr outlasts)
  have alike (session : ClientSession) : isClient again session = isClient req session := by
    rw [isClient, isClient, sameIp, sameMac]
  refine ⟨by rw [slot]; exact active, foundByClient_of_first (by rw [slot]; exact client) ?_⟩
  intro j before
  rw [alike, ← Bool.not_eq_true]
  intro found
  have left := leaves.active j (Bool.and_eq_true_iff.mp found).1
  rw [boundTable_other m _ req before.ne] at left
  rw [left, requestBinding_first m address s.sessions j before] at found
  cases found

/-! ## Again -/

/-- The session goes on. -/
structure GoesOn (before after : ClientSession) : Prop where
  active : after.active = true
  startTime : after.startTime = before.startTime
  endTime : after.endTime = before.endTime
  grantedSeconds : after.grantedSeconds = before.grantedSeconds
  accountedSeconds : after.accountedSeconds = before.accountedSeconds
  dayId : after.dayId = before.dayId
  token : before.token ≠ [] → after.token = before.token

theorem reusedSession_goesOn {req : StartRequest} {session : ClientSession}
    (active : session.active = true) : GoesOn session (reusedSession req session) where
  active := active
  startTime := rfl
  endTime := rfl
  grantedSeconds := rfl
  accountedSeconds := rfl
  dayId := rfl
  token given := if_neg given

/-- A request for a client whose session is found and runs goes on with it, and with all of the
    others. -/
theorem startOrResume_reuses (p : Platform) (m : Clocks) {req : StartRequest}
    (address : req.ip ≠ 0) {s : Server} {slot : Fin maxClients}
    (found : foundByClient req s.sessions = some slot)
    (active : (s.sessions slot).active = true) (running : m.closed < (s.sessions slot).endTime) :
    (startOrResumeSession p m req s).1 = some slot ∧
      GoesOn (s.sessions slot) ((startOrResumeSession p m req s).2.sessions slot) ∧
      (∀ j, ((startOrResumeSession p m req s).2.sessions j).active = true →
        (s.sessions j).active = true) ∧
      ∀ j, j ≠ slot → (s.sessions j).active = true → ¬ Expired m.closed (s.sessions j) →
        (startOrResumeSession p m req s).2.sessions j = s.sessions j := by
  have bound : requestBinding m req s.sessions = ⟨slot, true, s.sessions⟩ := by
    rw [requestBinding_address m address, found]
    exact if_pos ((m.opens.trans m.closes).trans_lt running)
  obtain ⟨place, leaves⟩ := startOrResume_leaves p m address s
  rw [bound] at place
  have kept := leaves.kept
  have survives := leaves.active
  rw [bound] at kept survives
  have here (j : Fin maxClients) : boundTable m (currentDay m s.quota) req
      ⟨slot, true, s.sessions⟩ j = if j = slot then reusedSession req (s.sessions slot)
        else s.sessions j := by
    rw [boundTable, Function.update_apply]
    rfl
  simp only [here] at kept survives
  refine ⟨place, ?_, ?_, ?_⟩
  · have same := kept slot
    rw [if_pos rfl] at same
    rw [same active fun expired => absurd expired.2.2 (not_le.mpr running)]
    exact reusedSession_goesOn active
  · intro j lives
    by_cases itself : j = slot
    · rw [itself]
      exact active
    · have same := survives j lives
      rw [if_neg itself] at same
      rw [← same]
      exact lives
  · intro j other lives unexpired
    have same := kept j
    rw [if_neg other] at same
    exact same lives unexpired

/-- Confirming again changes nothing of the session, starts no further one, and leaves the other
    running ones alone, as long as the session is not over before the call is. -/
theorem confirming_again (p : Platform) (m m' : Clocks) (req again : StartRequest) (s : Server)
    (slot : Fin maxClients) (address : req.ip ≠ 0) (sameIp : again.ip = req.ip)
    (sameMac : again.mac = req.mac) (order : m.closed ≤ m'.now)
    (returned : (startOrResumeSession p m req s).1 = some slot)
    (running : m'.closed < ((startOrResumeSession p m req s).2.sessions slot).endTime) :
    let first := (startOrResumeSession p m req s).2
    let second := startOrResumeSession p m' again first
    second.1 = some slot ∧ GoesOn (first.sessions slot) (second.2.sessions slot) ∧
      (∀ j, (second.2.sessions j).active = true → (first.sessions j).active = true) ∧
      ∀ j, j ≠ slot → (first.sessions j).active = true → ¬ Expired m'.closed (first.sessions j) →
        second.2.sessions j = first.sessions j := by
  intro first second
  obtain ⟨place, leaves⟩ := startOrResume_leaves p m address s
  obtain rfl := Option.some.inj (place.symm.trans returned)
  have outlasts := (order.trans (m'.opens.trans m'.closes)).trans_lt running
  obtain ⟨active, found⟩ := leaves.found address sameIp sameMac outlasts
  exact startOrResume_reuses p m' (sameIp ▸ address) found active running

/-- Another device has a session, and one has confirmed. -/
def confirmedOnce : Option (Fin maxClients) × Server :=
  startOrResumeSession somePlatform (secondsIn 1) ⟨7, some 1, none, none, 3600⟩
    (serverAfter somePlatform 1 [deviceStarts 2])

/-- It confirms again after ten minutes, with a token and a grant of a minute. -/
theorem confirming_again_later :
    (startOrResumeSession somePlatform (secondsIn 600) ⟨7, some 1, some [0x61], none, 60⟩
      confirmedOnce.2).1 = confirmedOnce.1 := by
  have slot : confirmedOnce.1 = some ⟨1, by decide⟩ := by decide +kernel
  have running : (secondsIn 600).closed < (confirmedOnce.2.sessions ⟨1, by decide⟩).endTime := by
    decide +kernel
  have again := confirming_again somePlatform (secondsIn 1) (secondsIn 600)
    ⟨7, some 1, none, none, 3600⟩ ⟨7, some 1, some [0x61], none, 60⟩
    (serverAfter somePlatform 1 [deviceStarts 2]) ⟨1, by decide⟩ (by decide) rfl rfl (by decide)
    slot running
  exact again.1.trans slot.symm

end SolarConnect.Session
