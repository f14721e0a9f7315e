import SolarConnect.Session.Handlers

/-!
# Ending sessions

The session table and the ACL together decide who may send: the gate. Sessions end by expiry
and by revocation, and in both cases they become inactive and their ACL entries go. `Ends`
says what ending a set of sessions does to the gate; a refresh, a revocation, a disconnect and
a heartbeat each end some.
-/

namespace SolarConnect.Session

open Slots ClientAcl

/-- The two tables that decide who may send. -/
structure Gate where
  sessions : SessionTable
  acl : Acl

/-- The gate of a server. -/
def Server.gate (s : Server) : Gate := ⟨s.sessions, s.acl⟩

@[simp] theorem gate_sessions (s : Server) : s.gate.sessions = s.sessions := rfl

@[simp] theorem gate_acl (s : Server) : s.gate.acl = s.acl := rfl

/-- The entry is used and is at the session's address or carries its MAC: ending the session
    revokes it. -/
def Holds (session : ClientSession) (entry : AclEntry) : Prop :=
  entry.used = true ∧ (session.ipAddr ≠ 0 ∧ entry.ip = session.ipAddr ∨
    session.mac ≠ 0 ∧ entry.hasMac = true ∧ entry.mac = session.mac)

instance (session : ClientSession) (entry : AclEntry) : Decidable (Holds session entry) := by
  unfold Holds
  infer_instance

/-- An active session whose time is up. -/
def Expired (now : Nat) (session : ClientSession) : Prop :=
  session.active = true ∧ 0 < session.endTime ∧ session.endTime ≤ now

instance (now : Nat) (session : ClientSession) : Decidable (Expired now session) := by
  unfold Expired
  infer_instance

/-- The same session, but for the seconds accounted. -/
def SameSession (session session' : ClientSession) : Prop :=
  session' = { session with accountedSeconds := session'.accountedSeconds }

/-- From gate `g` to `g'` exactly the sessions in `ended` end. -/
structure Ends (ended : Fin maxClients → Prop) (g g' : Gate) : Prop where
  active : ∀ i, ended i → (g.sessions i).active = true
  inactive : ∀ i, ended i → (g'.sessions i).active = false
  idle : ∀ i, (g.sessions i).active = false → (g'.sessions i).active = false
  kept : ∀ i, (g.sessions i).active = true → ¬ ended i →
    SameSession (g.sessions i) (g'.sessions i)
  revoked : ∀ e j, ended j → Holds (g.sessions j) (g.acl e) → g'.acl e = .zero
  spared : ∀ e, (∀ j, ended j → ¬ Holds (g.sessions j) (g.acl e)) → g'.acl e = g.acl e

/-! ## Sets of ended sessions -/

@[simp] theorem sameSession_refl (session : ClientSession) : SameSession session session := rfl

theorem SameSession.trans {a b c : ClientSession} (first : SameSession a b)
    (second : SameSession b c) : SameSession a c := by
  unfold SameSession at *
  rw [second, first]

theorem SameSession.holds_iff {a b : ClientSession} (same : SameSession a b) (e : AclEntry) :
    Holds b e ↔ Holds a e := by
  rw [same]
  exact Iff.rfl

theorem not_holds_zero (session : ClientSession) : ¬ Holds session .zero := by
  simp [Holds, AclEntry.zero]

theorem Ends.refl (g : Gate) : Ends (fun _ => False) g g where
  active _ ended := ended.elim
  inactive _ ended := ended.elim
  idle _ inactive := inactive
  kept _ _ _ := sameSession_refl _
  revoked _ _ ended := ended.elim
  spared _ _ := rfl

/-- A session that ends is not one that ended before. -/
theorem Ends.apart {first second : Fin maxClients → Prop} {g g' g'' : Gate}
    (one : Ends first g g') (two : Ends second g' g'') {i : Fin maxClients} (here : second i) :
    ¬ first i ∧ (g.sessions i).active = true := by
  have active := two.active i here
  refine ⟨fun before => ?_, ?_⟩
  · rw [one.inactive i before] at active
    exact absurd active (by simp)
  · by_contra idle
    rw [one.idle i (by simpa using idle)] at active
    exact absurd active (by simp)

theorem Ends.trans {first second : Fin maxClients → Prop} {g g' g'' : Gate}
    (one : Ends first g g') (two : Ends second g' g'') :
    Ends (fun i => first i ∨ second i) g g'' := by
  have held : ∀ {j e}, second j → (Holds (g'.sessions j) e ↔ Holds (g.sessions j) e) := by
    intro j e here
    obtain ⟨other, active⟩ := one.apart two here
    exact (one.kept j active other).holds_iff e
  refine ⟨?_, ?_, ?_, ?_, ?_, ?_⟩
  · rintro i (before | here)
    · exact one.active i before
    · exact (one.apart two here).2
  · intro i ended
    by_cases here : second i
    · exact two.inactive i here
    · exact two.idle i (one.inactive i (ended.resolve_right here))
  · exact fun i inactive => two.idle i (one.idle i inactive)
  · intro i active other
    rw [not_or] at other
    have same := one.kept i active other.1
    have active' : (g'.sessions i).active = true := by
      rw [same]
      exact active
    exact same.trans (two.kept i active' other.2)
  · intro e j ended holds
    by_cases earlier : ∃ k, first k ∧ Holds (g.sessions k) (g.acl e)
    · obtain ⟨k, before, held⟩ := earlier
      have cleared := one.revoked e k before held
      rw [← cleared]
      refine two.spared e fun k _ => ?_
      rw [cleared]
      exact not_holds_zero _
    · have untouched := one.spared e fun k before holds => earlier ⟨k, before, holds⟩
      have here : second j := ended.resolve_left fun before => earlier ⟨j, before, holds⟩
      refine two.revoked e j here ?_
      rw [untouched, held here]
      exact holds
  · intro e free
    have untouched := one.spared e fun k ended => free k (Or.inl ended)
    rw [← untouched]
    refine two.spared e fun k here holds => free k (Or.inr here) ?_
    rwa [untouched, held here] at holds

theorem Ends.congr {first second : Fin maxClients → Prop} {g g' : Gate} (one : Ends first g g')
    (same : ∀ i, first i ↔ second i) : Ends second g g' := by
  have equal : first = second := funext fun i => propext (same i)
  exact equal ▸ one

/-! ## Checkpoints and expiry -/

theorem revokeEntries_apply (session : ClientSession) (acl : Acl) (e : Fin aclMaxClients) :
    revokeEntries session acl e = if Holds session (acl e) then .zero else acl e := by
  by_cases zeroIp : session.ipAddr = 0 <;> by_cases zeroMac : session.mac = 0 <;>
    simp only [revokeEntries, zeroIp, zeroMac, Holds, clientAclRevokeByIp, clientAclRevokeByMac,
      macMatches, ne_eq, not_true_eq_false, not_false_eq_true, if_true, if_false, false_and,
      true_and, or_false, false_or, and_false, Bool.and_eq_true, beq_iff_eq]
  · grind [AclEntry.zero]

/-- A checkpoint changes a session only in its accounted seconds. -/
theorem checkpoint_sameSession (nvs : Nat → Bool) (m : Moment) (force : Bool)
    (session : ClientSession) (q : QuotaState) :
    SameSession session (checkpointSessionUsage nvs m force session q).1 := by
  unfold checkpointSessionUsage SameSession
  split <;> rfl

theorem checkpointSlot_self (p : Platform) (m : Moment) (force : Bool) (i : Fin maxClients)
    (s : Server) :
    SameSession (s.sessions i) ((checkpointSlot p m force i s).sessions i) := by
  simp only [checkpointSlot, Function.update_self]
  exact checkpoint_sameSession _ _ _ _ _

theorem checkpointSlot_other {p : Platform} {m : Moment} {force : Bool} {i j : Fin maxClients}
    {s : Server} (other : j ≠ i) : (checkpointSlot p m force i s).sessions j = s.sessions j :=
  Function.update_of_ne other _ _

/-- A checkpoint ends nothing. -/
theorem checkpointSlot_ends (p : Platform) (m : Moment) (force : Bool) (i : Fin maxClients)
    (s : Server) : Ends (fun _ => False) s.gate (checkpointSlot p m force i s).gate where
  active _ ended := ended.elim
  inactive _ ended := ended.elim
  idle j inactive := by
    rcases eq_or_ne j i with rfl | other
    · rw [gate_sessions, checkpointSlot_self p m force j s]
      exact inactive
    · rwa [gate_sessions, checkpointSlot_other other]
  kept j _ _ := by
    rcases eq_or_ne j i with rfl | other
    · exact checkpointSlot_self p m force j s
    · rw [gate_sessions, gate_sessions, checkpointSlot_other other]
      exact sameSession_refl _
  revoked _ _ ended := ended.elim
  spared _ _ := rfl

/-- Checkpointing a session, revoking its entries and making it inactive ends it. -/
theorem endSlot_ends (p : Platform) (m : Moment) {i : Fin maxClients} {s : Server}
    (active : (s.sessions i).active = true) {closed : ClientSession}
    (inactive : closed.active = false) :
    Ends (fun j => j = i) s.gate
      ⟨Function.update (checkpointSlot p m true i s).sessions i closed,
        revokeEntries ((checkpointSlot p m true i s).sessions i) s.acl⟩ where
  active j ended := ended ▸ active
  inactive j ended := by
    simp only [ended, Function.update_self, inactive]
  idle j idle := by
    rcases eq_or_ne j i with rfl | other
    · simp only [Function.update_self, inactive]
    · simpa only [Function.update_of_ne other, checkpointSlot_other other, gate_sessions]
        using idle
  kept j _ other := by
    simp only [Function.update_of_ne other, checkpointSlot_other other]
    exact sameSession_refl _
  revoked e j ended holds := by
    subst ended
    rw [gate_sessions, gate_acl] at holds
    simp only [revokeEntries_apply, (checkpointSlot_self p m true j s).holds_iff, holds, if_true]
  spared e free := by
    have clear := free i rfl
    rw [gate_sessions, gate_acl] at clear
    simp only [gate_acl, revokeEntries_apply, (checkpointSlot_self p m true i s).holds_iff, clear,
      if_false]

theorem expireSlot_ends (p : Platform) (m : Moment) (i : Fin maxClients) (s : Server) :
    Ends (fun j => j = i ∧ Expired m.now (s.sessions i)) s.gate (expireSlot p m i s).gate := by
  unfold expireSlot
  split
  · rename_i idle
    refine (Ends.refl s.gate).congr fun j => ?_
    simp only [false_iff, not_and]
    rintro - ⟨active, -⟩
    simp [active] at idle
  split
  · rename_i active expired
    rw [Bool.not_eq_true, Bool.not_eq_false'] at active
    refine (endSlot_ends p m active (by rfl)).congr fun j => ?_
    exact ⟨fun here => ⟨here, active, expired⟩, fun here => here.1⟩
  · rename_i running
    refine (Ends.refl s.gate).congr fun j => ?_
    simp only [false_iff, not_and]
    rintro - ⟨-, expired⟩
    exact running expired

/-! ## The operations that end sessions -/

theorem SameSession.expired_iff {a b : ClientSession} (same : SameSession a b) (now : Nat) :
    Expired now b ↔ Expired now a := by
  rw [same]
  exact Iff.rfl

/-- Whether a session that did not end is expired is as before. -/
theorem Ends.expired_iff {ended : Fin maxClients → Prop} {g g' : Gate} (ends : Ends ended g g')
    {i : Fin maxClients} (other : ¬ ended i) (now : Nat) :
    Expired now (g'.sessions i) ↔ Expired now (g.sessions i) := by
  cases active : (g.sessions i).active with
  | true => exact (ends.kept i active other).expired_iff now
  | false => simp [Expired, active, ends.idle i active]

theorem expireSweep_ends (p : Platform) (m : Moment) (s : Server) :
    Ends (fun j => Expired m.now (s.sessions j)) s.gate (sweep (expireSlot p m) s).gate := by
  have visited := @sweep_invariant maxClients Server (expireSlot p m) s
    (fun k t => Ends (fun j => j.val < k ∧ Expired m.now (s.sessions j)) s.gate t.gate)
    ((Ends.refl s.gate).congr (by simp)) (by
      intro i t before
      have next := before.trans (expireSlot_ends p m i t)
      have expired : Expired m.now (t.sessions i) ↔ Expired m.now (s.sessions i) :=
        before.expired_iff (by simp) m.now
      refine next.congr fun j => ?_
      rw [expired, Nat.lt_succ_iff_lt_or_eq, or_and_right, Fin.val_inj]
      refine or_congr_right (and_congr_right fun same => ?_)
      rw [same])
  exact visited.congr fun j => by simp

theorem maybeDisableNapt_gate (p : Platform) (now : Nat) (s : Server) :
    (maybeDisableNaptIfIdle p now s).gate = s.gate := by
  unfold maybeDisableNaptIfIdle
  split <;> rfl

theorem settlePortalAuthState_gate (p : Platform) (m : Moment) (s : Server) :
    (settlePortalAuthState p m s).gate = s.gate := by
  unfold settlePortalAuthState
  generalize (if 0 < s.globalSessionEndTime ∧ s.globalSessionEndTime ≤ m.now then 0
    else s.globalSessionEndTime) = globalEnd
  dsimp only
  split
  · rfl
  · exact maybeDisableNapt_gate _ _ _

/-- A refresh ends the expired sessions. -/
theorem refresh_ends (p : Platform) (m : Moment) (s : Server) :
    Ends (fun j => Expired m.now (s.sessions j)) s.gate (refreshPortalAuthState p m s).gate := by
  rw [refreshPortalAuthState, settlePortalAuthState_gate]
  exact expireSweep_ends p m s

theorem refresh_ends_of (p : Platform) (m : Moment) (s : Server) {table : SessionTable} {acl : Acl}
    (sessions : s.sessions = table) (entries : s.acl = acl) :
    Ends (fun j => Expired m.now (table j)) ⟨table, acl⟩ (refreshPortalAuthState p m s).gate := by
  subst sessions entries
  exact refresh_ends p m s

/-- A refresh after some sessions have ended. -/
theorem Ends.refresh {ended : Fin maxClients → Prop} {g : Gate} {t : Server}
    (one : Ends ended g t.gate) (p : Platform) (m : Moment) :
    Ends (fun j => ended j ∨ Expired m.now (g.sessions j)) g
      (refreshPortalAuthState p m t).gate := by
  refine (one.trans (refresh_ends p m t)).congr fun j => ?_
  by_cases before : ended j
  · simp [before]
  · simp only [before, false_or]
    exact one.expired_iff before m.now

/-- Once the expired sessions have ended, no active session is expired. -/
theorem Ends.unexpired {now : Nat} {g g' : Gate}
    (ends : Ends (fun j => Expired now (g.sessions j)) g g') (i : Fin maxClients) :
    ¬ Expired now (g'.sessions i) := by
  intro expired
  by_cases before : Expired now (g.sessions i)
  · have inactive := ends.inactive i before
    exact absurd expired.1 (by simp [inactive])
  · exact before ((ends.expired_iff before now).mp expired)

/-- An active session after some have ended was active before, and is the same. -/
theorem Ends.survivor {ended : Fin maxClients → Prop} {g g' : Gate} (ends : Ends ended g g')
    {i : Fin maxClients} (active : (g'.sessions i).active = true) :
    ¬ ended i ∧ (g.sessions i).active = true ∧ SameSession (g.sessions i) (g'.sessions i) := by
  have other : ¬ ended i := fun here => by simp [ends.inactive i here] at active
  have before : (g.sessions i).active = true := by
    by_contra idle
    simp [ends.idle i (by simpa using idle)] at active
  exact ⟨other, before, ends.kept i before other⟩

/-- A revocation ends its session, and with it the expired ones. -/
theorem revoke_ends (p : Platform) (m : Moment) (i : Fin maxClients) (disconnected : Bool)
    (s : Server) :
    Ends (fun j => (s.sessions i).active = true ∧ (j = i ∨ Expired m.now (s.sessions j))) s.gate
      (revokeSession p m i disconnected s).gate := by
  unfold revokeSession
  split
  · rename_i idle
    refine (Ends.refl s.gate).congr fun j => ?_
    simp only [Bool.not_eq_true'] at idle
    simp [idle]
  · rename_i active
    rw [Bool.not_eq_true, Bool.not_eq_false'] at active
    have closed : Ends (fun j => j = i) s.gate (closeSlot p m i s).gate :=
      endSlot_ends p m active rfl
    have swept : Ends (fun j => (s.sessions i).active = true ∧
        (j = i ∨ Expired m.now (s.sessions j))) s.gate
        (refreshPortalAuthState p m (closeSlot p m i s)).gate :=
      (closed.refresh p m).congr fun j => by simp [active]
    dsimp only
    split <;> exact swept

/-- What checkpoints and revocations keep, a heartbeat keeps. -/
theorem heartbeat_preserves {p : Platform} {m : Moment} (P : Server → Prop)
    (checked : ∀ i s, P s → P (checkpointSlot p m false i s))
    (revoked : ∀ i disconnected s, P s → P (revokeSession p m i disconnected s))
    (i : Fin maxClients) {s : Server} (before : P s) : P (heartbeatSlot p m i s) := by
  unfold heartbeatSlot
  split
  · exact before
  · dsimp only
    split
    · exact checked i s before
    · exact revoked i _ _ (checked i s before)

/-- What revocations keep, a disconnect keeps. -/
theorem disconnect_preserves {p : Platform} {m : Moment} (P : Server → Prop)
    (revoked : ∀ i disconnected s, P s → P (revokeSession p m i disconnected s)) (ap : ApView)
    (mac : Mac) {s : Server} (before : P s) : P (handleClientDisconnect p m ap mac s) := by
  have scanned : P (sweep (scanDisconnect p m mac) ⟨s, false, 0, none⟩).server := by
    refine sweep_preserves (fun scan : DisconnectScan => P scan.server) before ?_
    intro i scan before
    unfold scanDisconnect
    split
    · exact before
    dsimp only
    split
    · exact revoked i true _ before
    · exact before
  unfold handleClientDisconnect
  dsimp only
  split
  · exact scanned
  split
  · split
    · exact revoked _ true _ scanned
    · exact scanned
  · exact scanned

/-- A heartbeat ends its session when its time is up, and nothing else that has not expired. -/
theorem heartbeat_ends (p : Platform) (m : Moment) (i : Fin maxClients) (s : Server) :
    ∃ ended, Ends ended s.gate (heartbeatSlot p m i s).gate :=
  heartbeat_preserves (fun t : Server => ∃ ended, Ends ended s.gate t.gate)
    (fun i t ⟨_, before⟩ => ⟨_, before.trans (checkpointSlot_ends p m false i t)⟩)
    (fun i disconnected t ⟨_, before⟩ => ⟨_, before.trans (revoke_ends p m i disconnected t)⟩) i
    ⟨_, Ends.refl _⟩

/-- A disconnect ends some sessions. -/
theorem disconnect_ends (p : Platform) (m : Moment) (ap : ApView) (mac : Mac) (s : Server) :
    ∃ ended, Ends ended s.gate (handleClientDisconnect p m ap mac s).gate :=
  disconnect_preserves (fun t : Server => ∃ ended, Ends ended s.gate t.gate)
    (fun i disconnected t ⟨_, before⟩ => ⟨_, before.trans (revoke_ends p m i disconnected t)⟩)
    ap mac ⟨_, Ends.refl _⟩

end SolarConnect.Session
