import SolarConnect.Session.Steps
import SolarConnect.Session.Charges

/-!
# Settling sessions

`Settles` says that some sessions end and that exactly these are charged to the quota table, in
order. A refresh, a revocation, a heartbeat and a disconnect settle sessions.
-/

namespace SolarConnect.Session

open Slots ClientAcl

/-- The same use: the sessions differ in address, admission and the strings at most. -/
def SameUse (session session' : ClientSession) : Prop :=
  session' = { session with
    ipAddr := session'.ipAddr
    token := session'.token
    deviceHash := session'.deviceHash
    admitted := session'.admitted }

@[simp] theorem sameUse_refl (session : ClientSession) : SameUse session session := rfl

theorem SameUse.trans {a b c : ClientSession} (first : SameUse a b) (second : SameUse b c) :
    SameUse a c := by
  unfold SameUse at *
  rw [second, first]

theorem SameUse.charge {a b : ClientSession} (same : SameUse a b) (now day : Nat)
    (records : QuotaTable) : chargeSession now day records b = chargeSession now day records a := by
  rw [same]
  rfl

theorem SameUse.expired_iff {a b : ClientSession} (same : SameUse a b) (now : Nat) :
    Expired now b ↔ Expired now a := by
  rw [same]
  exact Iff.rfl

/-- The slots hold sessions of the same times, grant and day. -/
structure SameTimes (session session' : ClientSession) : Prop where
  startTime : session'.startTime = session.startTime
  endTime : session'.endTime = session.endTime
  grantedSeconds : session'.grantedSeconds = session.grantedSeconds
  dayId : session'.dayId = session.dayId

theorem sameTimes_refl (session : ClientSession) : SameTimes session session :=
  ⟨rfl, rfl, rfl, rfl⟩

theorem SameTimes.trans {a b c : ClientSession} (first : SameTimes a b) (second : SameTimes b c) :
    SameTimes a c where
  startTime := second.startTime.trans first.startTime
  endTime := second.endTime.trans first.endTime
  grantedSeconds := second.grantedSeconds.trans first.grantedSeconds
  dayId := second.dayId.trans first.dayId

/-- Whether a session is active or admitted makes no difference to its times. -/
theorem SameTimes.of_flags {a b : ClientSession} (same : SameTimes a b) (admitted active : Bool) :
    SameTimes a { b with admitted := admitted, active := active } :=
  ⟨same.startTime, same.endTime, same.grantedSeconds, same.dayId⟩

theorem SameUse.reused {a b : ClientSession} (same : SameUse a b) (req : StartRequest) :
    SameUse (reusedSession req a) (reusedSession req b) := by
  rw [same]
  rfl

theorem SameUse.times {a b : ClientSession} (same : SameUse a b) : SameTimes a b := by
  rw [same]
  exact ⟨rfl, rfl, rfl, rfl⟩

theorem SameSession.times {a b : ClientSession} (same : SameSession a b) : SameTimes a b := by
  rw [same]
  exact ⟨rfl, rfl, rfl, rfl⟩

/-- Sessions are charged in two parts as in one, if those of the second part are still in use as
    before. -/
theorem chargeAll_append {a b : SessionTable} (now day : Nat) (records : QuotaTable)
    (first : List (Fin maxClients)) {second : List (Fin maxClients)}
    (alike : ∀ i ∈ second, SameUse (a i) (b i)) :
    chargeAll now day (chargeAll now day records (first.map a)) (second.map b) =
      chargeAll now day records ((first ++ second).map a) := by
  rw [chargeAll, chargeAll, chargeAll, List.map_append, List.foldl_append, List.foldl_map,
    List.foldl_map, List.foldl_map]
  refine List.foldl_ext _ _ _ fun records i member => ?_
  exact (alike i member).charge _ _ _

/-- From `s` to `s'` exactly the listed sessions end, and they are charged in this order. -/
structure Settles (m : Moment) (list : List (Fin maxClients)) (s s' : Server) : Prop where
  nodup : list.Nodup
  active : ∀ i ∈ list, (s.sessions i).active = true
  inactive : ∀ i ∈ list, (s'.sessions i).active = false
  kept : ∀ i, i ∉ list → SameUse (s.sessions i) (s'.sessions i)
  times : ∀ i, SameTimes (s.sessions i) (s'.sessions i)
  charged : s'.quota.records =
    chargeAll m.now (currentDay m s.quota) s.quota.records (list.map s.sessions)
  day : currentDay m s'.quota = currentDay m s.quota

/-- An operation that ends none. -/
theorem Settles.of_same {m : Moment} {s s' : Server}
    (kept : ∀ i, SameUse (s.sessions i) (s'.sessions i))
    (records : s'.quota.records = s.quota.records)
    (day : currentDay m s'.quota = currentDay m s.quota) : Settles m [] s s' where
  nodup := List.nodup_nil
  active _ member := absurd member List.not_mem_nil
  inactive _ member := absurd member List.not_mem_nil
  kept i _ := kept i
  times i := (kept i).times
  charged := records
  day := day

theorem Settles.refl (m : Moment) (s : Server) : Settles m [] s s :=
  .of_same (fun _ => sameUse_refl _) rfl rfl

/-- A session that is settled later has not been touched before. -/
theorem Settles.untouched {m : Moment} {first : List (Fin maxClients)} {s t : Server}
    (one : Settles m first s t) {i : Fin maxClients} (active : (t.sessions i).active = true) :
    i ∉ first ∧ SameUse (s.sessions i) (t.sessions i) := by
  have other : i ∉ first := fun member => by simp [one.inactive i member] at active
  exact ⟨other, one.kept i other⟩

theorem Settles.trans {m : Moment} {first second : List (Fin maxClients)} {s t u : Server}
    (one : Settles m first s t) (two : Settles m second t u) :
    Settles m (first ++ second) s u := by
  have later : ∀ i ∈ second, i ∉ first ∧ SameUse (s.sessions i) (t.sessions i) :=
    fun i member => one.untouched (two.active i member)
  refine ⟨?_, fun i member => ?_, fun i member => ?_, fun i other => ?_,
    fun i => (one.times i).trans (two.times i), ?_, two.day.trans one.day⟩
  · exact one.nodup.append two.nodup fun i before after => (later i after).1 before
  · rcases List.mem_append.mp member with before | after
    · exact one.active i before
    · have same := (later i after).2
      have active := two.active i after
      rw [same] at active
      exact active
  · by_cases after : i ∈ second
    · exact two.inactive i after
    · have before := one.inactive i ((List.mem_append.mp member).resolve_right after)
      rw [two.kept i after]
      exact before
  · rw [List.mem_append, not_or] at other
    exact (one.kept i other.1).trans (two.kept i other.2)
  · rw [two.charged, one.day, one.charged]
    exact chargeAll_append _ _ _ first fun i member => (later i member).2

/-! ## Ending sessions -/

/-- A session is checkpointed and becomes inactive, whatever else becomes of the slot. -/
theorem Settles.one {m : Moment} {i : Fin maxClients} {s s' : Server}
    (active : (s.sessions i).active = true) (inactive : (s'.sessions i).active = false)
    (kept : ∀ j, j ≠ i → s'.sessions j = s.sessions j)
    (times : SameTimes (s.sessions i) (s'.sessions i))
    (records : s'.quota.records =
      chargeSession m.now (currentDay m s.quota) s.quota.records (s.sessions i))
    (day : currentDay m s'.quota = currentDay m s.quota) : Settles m [i] s s' where
  nodup := List.nodup_singleton i
  active j member := (List.mem_singleton.mp member) ▸ active
  inactive j member := (List.mem_singleton.mp member) ▸ inactive
  kept j other := by
    rw [kept j (by simpa using other)]
    exact sameUse_refl _
  times j := by
    rcases eq_or_ne j i with rfl | other
    · exact times
    · rw [kept j other]
      exact sameTimes_refl _
  charged := records
  day := day

theorem checkpointSlot_records (p : Platform) (m : Moment) (force : Bool) (i : Fin maxClients)
    (s : Server) :
    (checkpointSlot p m force i s).quota.records =
      chargeSession m.now (currentDay m s.quota) s.quota.records (s.sessions i) :=
  checkpoint_charges _ _ _ _ _

theorem checkpointSlot_day (p : Platform) (m : Moment) (force : Bool) (i : Fin maxClients)
    (s : Server) : currentDay m (checkpointSlot p m force i s).quota = currentDay m s.quota :=
  currentDay_checkpoint _ _ _ _ _

theorem checkpointSlot_times (p : Platform) (m : Moment) (force : Bool) (i : Fin maxClients)
    (s : Server) : SameTimes (s.sessions i) ((checkpointSlot p m force i s).sessions i) :=
  SameSession.times (checkpointSlot_self p m force i s)

theorem expireSlot_settles (p : Platform) (m : Moment) (i : Fin maxClients) (s : Server) :
    ∃ list, Settles m list s (expireSlot p m i s) ∧
      ∀ j ∈ list, Expired m.now (s.sessions j) := by
  unfold expireSlot
  split
  · exact ⟨[], .refl m s, by simp⟩
  split
  · rename_i active expired
    rw [Bool.not_eq_true, Bool.not_eq_false'] at active
    refine ⟨[i], ?_, by simpa using ⟨active, expired⟩⟩
    refine Settles.one active ?_ (fun j other => ?_) ?_ (checkpointSlot_records p m true i s)
      (checkpointSlot_day p m true i s)
    · simp
    · simp only [Function.update_of_ne other, checkpointSlot_other other]
    · simp only [Function.update_self]
      exact (checkpointSlot_times p m true i s).of_flags _ false
  · exact ⟨[], .refl m s, by simp⟩

/-- A sweep of slots that each settle some of a set of sessions. -/
theorem sweep_settles {m : Moment} {s : Server} {body : Fin maxClients → Server → Server}
    (ending : Fin maxClients → Prop)
    (step : ∀ i t first, Settles m first s t → ∃ list, Settles m list t (body i t) ∧
      ∀ j ∈ list, ending j) :
    ∃ list, Settles m list s (sweep body s) ∧ ∀ j ∈ list, ending j := by
  refine sweep_preserves (fun t => ∃ list, Settles m list s t ∧ ∀ j ∈ list, ending j)
    ⟨[], .refl m s, by simp⟩ fun i t ⟨first, one, inside⟩ => ?_
  obtain ⟨list, two, inside'⟩ := step i t first one
  refine ⟨first ++ list, one.trans two, fun j member => ?_⟩
  exact (List.mem_append.mp member).elim (inside j) (inside' j)

theorem settlePortalAuthState_books (p : Platform) (m : Moment) (s : Server) :
    (settlePortalAuthState p m s).books = s.books := by
  refine Prod.ext (settlePortalAuthState_gate p m s) ?_
  unfold settlePortalAuthState maybeDisableNaptIfIdle
  dsimp only
  repeat' split
  all_goals rfl

/-- Only the use of the sessions and the quota matter. -/
theorem Settles.of_sameUse {m : Moment} {list : List (Fin maxClients)} {s t u : Server}
    (settles : Settles m list s t) (alike : ∀ i, SameUse (t.sessions i) (u.sessions i))
    (quota : u.quota = t.quota) : Settles m list s u := by
  refine ⟨settles.nodup, settles.active, fun i member => ?_,
    fun i other => (settles.kept i other).trans (alike i),
    fun i => (settles.times i).trans (alike i).times, ?_, ?_⟩
  · rw [alike i]
    exact settles.inactive i member
  · rw [quota]
    exact settles.charged
  · rw [quota]
    exact settles.day

theorem Settles.of_tables {m : Moment} {list : List (Fin maxClients)} {s t u : Server}
    (settles : Settles m list s t) (sessions : u.sessions = t.sessions)
    (quota : u.quota = t.quota) : Settles m list s u := by
  refine settles.of_sameUse (fun i => ?_) quota
  rw [sessions]
  exact sameUse_refl _

theorem Settles.of_books {m : Moment} {list : List (Fin maxClients)} {s t u : Server}
    (settles : Settles m list s t) (same : u.books = t.books) : Settles m list s u :=
  settles.of_tables (congrArg (fun books => books.1.sessions) same) (congrArg Prod.snd same)

/-- A refresh settles the expired sessions. -/
theorem refresh_settles (p : Platform) (m : Moment) (s : Server) :
    ∃ list, Settles m list s (refreshPortalAuthState p m s) ∧
      ∀ j, j ∈ list ↔ Expired m.now (s.sessions j) := by
  have swept : ∃ list, Settles m list s (sweep (expireSlot p m) s) ∧
      ∀ j ∈ list, Expired m.now (s.sessions j) :=
    sweep_settles (fun j => Expired m.now (s.sessions j)) fun i t first one => by
      obtain ⟨list, two, inside⟩ := expireSlot_settles p m i t
      refine ⟨list, two, fun j member => ?_⟩
      exact ((one.untouched (two.active j member)).2.expired_iff m.now).mp (inside j member)
  obtain ⟨list, settles, inside⟩ := swept
  refine ⟨list, settles.of_books (settlePortalAuthState_books p m _), fun j =>
    ⟨inside j, fun expired => ?_⟩⟩
  -- a session that is left out would go on, but the refresh has ended it
  by_contra other
  have idle := (expireSweep_ends p m s).inactive j expired
  rw [gate_sessions, settles.kept j other] at idle
  exact absurd (expired.1.symm.trans idle) (by simp)

/-- A refresh after some sessions have been settled. -/
theorem Settles.refresh {m : Moment} {first : List (Fin maxClients)} {s t : Server}
    (one : Settles m first s t) (p : Platform) :
    ∃ list, Settles m list s (refreshPortalAuthState p m t) ∧
      ∀ j ∈ list, j ∈ first ∨ Expired m.now (s.sessions j) := by
  obtain ⟨list, two, inside⟩ := refresh_settles p m t
  refine ⟨first ++ list, one.trans two, fun j member => ?_⟩
  rcases List.mem_append.mp member with before | after
  · exact Or.inl before
  · right
    have expired := (inside j).mp after
    exact ((one.untouched (two.active j after)).2.expired_iff m.now).mp expired

theorem closeSlot_settles (p : Platform) (m : Moment) {i : Fin maxClients} {s : Server}
    (active : (s.sessions i).active = true) : Settles m [i] s (closeSlot p m i s) := by
  refine Settles.one active ?_ (fun j other => ?_) ?_ (checkpointSlot_records p m true i s)
    (checkpointSlot_day p m true i s)
  · simp [closeSlot]
  · simp only [closeSlot, Function.update_of_ne other, checkpointSlot_other other]
  · simp only [closeSlot, Function.update_self]
    exact (checkpointSlot_times p m true i s).of_flags false false

theorem revokeSession_books {p : Platform} {m : Moment} {i : Fin maxClients} {s : Server}
    (active : (s.sessions i).active = true) (disconnected : Bool) :
    (revokeSession p m i disconnected s).books =
      (refreshPortalAuthState p m (closeSlot p m i s)).books := by
  rw [revokeSession, if_neg (by simp [active])]
  dsimp only
  generalize refreshPortalAuthState p m (closeSlot p m i s) = t
  split <;> rfl

/-- A revocation settles its session, and the expired ones. -/
theorem revoke_settles (p : Platform) (m : Moment) (i : Fin maxClients) (disconnected : Bool)
    (s : Server) :
    ∃ list, Settles m list s (revokeSession p m i disconnected s) ∧
      ∀ j ∈ list, (s.sessions i).active = true ∧ (j = i ∨ Expired m.now (s.sessions j)) := by
  cases active : (s.sessions i).active with
  | false =>
    rw [revokeSession, if_pos (by simp [active])]
    exact ⟨[], .refl m s, by simp⟩
  | true =>
    obtain ⟨list, settles, inside⟩ := (closeSlot_settles p m active).refresh p
    refine ⟨list, settles.of_books (revokeSession_books active disconnected), fun j member => ?_⟩
    simpa using inside j member

/-- What a checkpoint has accounted is no longer due. -/
theorem nothingDue_checkpointed (nvs : Nat → Bool) (m : Moment) (force : Bool)
    (session : ClientSession) (q : QuotaState) :
    nothingDue m.now (checkpointSessionUsage nvs m force session q).1 = true := by
  unfold checkpointSessionUsage
  split
  · assumption
  · simp [nothingDue, elapsedSeconds]

/-- The heartbeat revokes the session: it has a row at Supabase, and less than a second is
    left. -/
def HeartbeatEnds (now : Nat) (session : ClientSession) : Prop :=
  session.active = true ∧ session.token ≠ [] ∧ session.deviceHash ≠ [] ∧
    ¬ 0 < getSessionRemainingSeconds session now

instance (now : Nat) (session : ClientSession) : Decidable (HeartbeatEnds now session) := by
  unfold HeartbeatEnds
  infer_instance

/-- A heartbeat that ends its session checkpoints it twice, and the second time nothing is
    due. -/
theorem heartbeat_settles (p : Platform) (m : Moment) {i : Fin maxClients} {s : Server}
    (ends : HeartbeatEnds m.now (s.sessions i)) :
    ∃ list, Settles m list s (heartbeatSlot p m i s) ∧
      ∀ j ∈ list, j = i ∨ Expired m.now (s.sessions j) := by
  obtain ⟨active, token, hash, expired⟩ := ends
  have same := checkpointSlot_self p m false i s
  have over' : ¬ 0 < getSessionRemainingSeconds
      ((checkpointSlot p m false i s).sessions i) m.now := by
    rw [same]
    exact expired
  have active' : ((checkpointSlot p m false i s).sessions i).active = true := by
    rw [same]
    exact active
  rw [heartbeatSlot, if_neg (by simp [active, token, hash])]
  dsimp only
  rw [if_neg over']
  have closed : Settles m [i] s (closeSlot p m i (checkpointSlot p m false i s)) := by
    refine Settles.one active ?_ (fun j other => ?_) ?_ ?_ ?_
    · simp [closeSlot]
    · simp only [closeSlot, Function.update_of_ne other, checkpointSlot_other other]
    · have twice := (checkpointSlot_times p m false i s).trans
        (checkpointSlot_times p m true i (checkpointSlot p m false i s))
      simp only [closeSlot, Function.update_self]
      exact twice.of_flags false false
    · refine (checkpointSlot_records p m true i _).trans ?_
      have nothing : nothingDue m.now ((checkpointSlot p m false i s).sessions i) = true := by
        simp only [checkpointSlot, Function.update_self]
        exact nothingDue_checkpointed _ _ _ _ _
      rw [chargeSession_nothing nothing, checkpointSlot_records]
    · exact (checkpointSlot_day p m true i _).trans (checkpointSlot_day p m false i s)
  obtain ⟨list, settles, inside⟩ := closed.refresh p
  exact ⟨list, settles.of_books (revokeSession_books active' _), by simpa using inside⟩

/-! ## Disconnects -/

/-- The sessions a disconnect revokes: those of the MAC, or, when there is none and nobody is
    connected, the only session there is. -/
def Disconnects (ap : ApView) (mac : Mac) (sessions : SessionTable) (i : Fin maxClients) : Prop :=
  if ∃ k, (sessions k).active = true ∧ (sessions k).mac = mac then (sessions i).mac = mac
  else ap.connectCount = 0 ∧ ∀ k, (sessions k).active = true → k = i

instance (ap : ApView) (mac : Mac) (sessions : SessionTable) :
    DecidablePred (Disconnects ap mac sessions) := fun i => by
  unfold Disconnects
  infer_instance

/-- The loop of `handle_client_disconnect` after `k` slots. -/
structure Scanned (m : Moment) (mac : Mac) (s : Server) (k : Nat) (scan : DisconnectScan) :
    Prop where
  settled : ∃ list, Settles m list s scan.server ∧ ∀ j ∈ list,
    (∃ k, (s.sessions k).active = true ∧ (s.sessions k).mac = mac) ∧
      ((s.sessions j).mac = mac ∨ Expired m.now (s.sessions j))
  unmatched : scan.matched = false → scan.server = s ∧
    ∀ j : Fin maxClients, j.val < k → (s.sessions j).active = true → (s.sessions j).mac ≠ mac
  none : scan.matched = false → scan.activeSessionCount = 0 →
    scan.fallbackSessionIndex = .none ∧
      ∀ j : Fin maxClients, j.val < k → (s.sessions j).active = false
  only : scan.matched = false → scan.activeSessionCount = 1 →
    ∃ f, scan.fallbackSessionIndex = some f ∧
      ∀ j : Fin maxClients, j.val < k → (s.sessions j).active = true → j = f

theorem Scanned.step {p : Platform} {m : Moment} {mac : Mac} {s : Server} {i : Fin maxClients}
    {scan : DisconnectScan} (before : Scanned m mac s i scan) :
    Scanned m mac s (i + 1) (scanDisconnect p m mac i scan) := by
  have split : ∀ j : Fin maxClients, j.val < i.val + 1 → j.val < i.val ∨ j = i := fun j within => by
    rcases Nat.lt_succ_iff_lt_or_eq.mp within with earlier | here
    · exact Or.inl earlier
    · exact Or.inr (Fin.ext here)
  obtain ⟨list, settles, inside⟩ := before.settled
  unfold scanDisconnect
  split
  · rename_i idle
    rw [Bool.not_eq_true'] at idle
    have gone : scan.matched = false → (s.sessions i).active = false := fun unmatched => by
      rw [← (before.unmatched unmatched).1]
      exact idle
    refine ⟨before.settled, fun unmatched => ?_, fun unmatched zero => ?_, fun unmatched one => ?_⟩
    · refine ⟨(before.unmatched unmatched).1, fun j within active => ?_⟩
      rcases split j within with earlier | rfl
      · exact (before.unmatched unmatched).2 j earlier active
      · simp [gone unmatched] at active
    · refine ⟨(before.none unmatched zero).1, fun j within => ?_⟩
      rcases split j within with earlier | rfl
      · exact (before.none unmatched zero).2 j earlier
      · exact gone unmatched
    · obtain ⟨f, fallback, only⟩ := before.only unmatched one
      refine ⟨f, fallback, fun j within active => ?_⟩
      rcases split j within with earlier | rfl
      · exact only j earlier active
      · simp [gone unmatched] at active
  rename_i active
  rw [Bool.not_eq_true, Bool.not_eq_false'] at active
  dsimp only
  split
  · rename_i matched
    refine ⟨?_, by simp, by simp, by simp⟩
    obtain ⟨-, same⟩ := settles.untouched active
    have here : ∃ k, (s.sessions k).active = true ∧ (s.sessions k).mac = mac := by
      refine ⟨i, ?_⟩
      rw [same] at active matched
      exact ⟨active, matched⟩
    obtain ⟨list', settles', inside'⟩ := revoke_settles p m i true scan.server
    refine ⟨list ++ list', settles.trans settles', fun j member => ⟨here, ?_⟩⟩
    rcases List.mem_append.mp member with earlier | later
    · exact (inside j earlier).2
    · have alike := (settles.untouched (settles'.active j later)).2
      rcases (inside' j later).2 with rfl | expired
      · left
        rw [alike] at matched
        exact matched
      · exact Or.inr ((alike.expired_iff m.now).mp expired)
  · rename_i other
    refine ⟨⟨list, settles, inside⟩, fun unmatched => ?_, fun _ zero => by simp at zero,
      fun unmatched one => ?_⟩
    · obtain ⟨same, earlier⟩ := before.unmatched unmatched
      refine ⟨same, fun j within activeJ => ?_⟩
      rcases split j within with before' | rfl
      · exact earlier j before' activeJ
      · rwa [same] at other
    · obtain ⟨fallback, idle⟩ := before.none unmatched (by simpa using one)
      refine ⟨i, by simp [fallback], fun j within activeJ => ?_⟩
      rcases split j within with before' | here
      · simp [idle j before'] at activeJ
      · exact here

/-- A disconnect settles the sessions it revokes, and then the expired ones. -/
theorem disconnect_settles (p : Platform) (m : Moment) (ap : ApView) (mac : Mac) (s : Server) :
    ∃ list, Settles m list s (handleClientDisconnect p m ap mac s) ∧ ∀ j ∈ list,
      (∃ k, (s.sessions k).active = true ∧ Disconnects ap mac s.sessions k) ∧
        (Disconnects ap mac s.sessions j ∨ Expired m.now (s.sessions j)) := by
  have scanned : Scanned m mac s maxClients
      (sweep (scanDisconnect p m mac) ⟨s, false, 0, none⟩) := by
    refine sweep_invariant (Scanned m mac s) ?_ fun i scan before => before.step
    exact ⟨⟨[], .refl m s, by simp⟩, by simp, by simp, by simp⟩
  obtain ⟨list, settles, inside⟩ := scanned.settled
  have revoked : ∀ j ∈ list,
      (∃ k, (s.sessions k).active = true ∧ Disconnects ap mac s.sessions k) ∧
        (Disconnects ap mac s.sessions j ∨ Expired m.now (s.sessions j)) := by
    intro j member
    obtain ⟨⟨k, active, same⟩, here⟩ := inside j member
    have known : ∀ i, Disconnects ap mac s.sessions i ↔ (s.sessions i).mac = mac := fun i => by
      rw [Disconnects, if_pos ⟨k, active, same⟩]
    rw [known]
    exact ⟨⟨k, active, (known k).mpr same⟩, here⟩
  unfold handleClientDisconnect
  dsimp only
  split
  · exact ⟨list, settles, revoked⟩
  rename_i matched
  rw [Bool.not_eq_true] at matched
  split
  · rename_i alone
    obtain ⟨f, fallback, only⟩ := scanned.only matched alone.2
    rw [fallback]
    obtain ⟨same, unmatched⟩ := scanned.unmatched matched
    dsimp only
    rw [same]
    have nobody : ¬ ∃ k, (s.sessions k).active = true ∧ (s.sessions k).mac = mac := by
      rintro ⟨k, active, mac⟩
      exact unmatched k k.isLt active mac
    have here : Disconnects ap mac s.sessions f := by
      rw [Disconnects, if_neg nobody]
      exact ⟨alone.1, fun k active => only k k.isLt active⟩
    obtain ⟨list', settles', inside'⟩ := revoke_settles p m f true s
    refine ⟨list', settles', fun j member => ?_⟩
    obtain ⟨active, rfl | expired⟩ := inside' j member
    · exact ⟨⟨j, active, here⟩, Or.inl here⟩
    · exact ⟨⟨f, active, here⟩, Or.inr expired⟩
  · exact ⟨list, settles, revoked⟩

end SolarConnect.Session
