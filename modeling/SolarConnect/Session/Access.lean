import SolarConnect.Session.Books

/-!
# Access and NAPT

Who has access, and what the functions that end and start sessions do about NAPT. Every refresh
ends with `maybe_disable_napt_if_idle`, which switches it off when nobody has access.
-/

namespace SolarConnect.Session

open Slots

/-- NAPT is on if a client has access. -/
def Routed (now : Nat) (s : Server) : Prop :=
  hasActiveAccess now s = true → s.naptEnabled = true

instance (now : Nat) (s : Server) : Decidable (Routed now s) :=
  inferInstanceAs (Decidable (_ → _))

/-! ## Access -/

theorem hasActiveAccess_iff {now : Nat} {s : Server} :
    hasActiveAccess now s = true ↔
      now < s.globalSessionEndTime ∨
        ∃ i, (s.sessions i).active = true ∧ (s.sessions i).admitted = true ∧
          now < (s.sessions i).endTime := by
  simp [hasActiveAccess, firstSlot_isSome_iff, and_assoc]

/-- Time passing ends access and grants none. -/
theorem Routed.later {clock now : Nat} {s : Server} (routed : Routed clock s)
    (forward : clock ≤ now) : Routed now s := by
  intro access
  apply routed
  rw [hasActiveAccess_iff] at access ⊢
  rcases access with opened | ⟨i, active, admitted, running⟩
  · exact Or.inl (forward.trans_lt opened)
  · exact Or.inr ⟨i, active, admitted, forward.trans_lt running⟩

/-- Ending sessions grants no access. -/
theorem Ends.access {ended : Fin maxClients → Prop} {s t : Server} (gone : Ends ended s.gate t.gate)
    (opened : t.globalSessionEndTime = s.globalSessionEndTime) {now : Nat}
    (access : hasActiveAccess now t = true) : hasActiveAccess now s = true := by
  rw [hasActiveAccess_iff] at access ⊢
  rw [opened] at access
  rcases access with opened | ⟨i, active, admitted, running⟩
  · exact Or.inl opened
  · obtain ⟨-, before, same⟩ := gone.survivor active
    simp only [gate_sessions] at before same
    rw [same] at admitted running
    exact Or.inr ⟨i, before, admitted, running⟩

/-- Ending sessions that are expired takes no access that is left later. -/
theorem Ends.keepsAccess {s t : Server} {now later : Nat}
    (gone : Ends (fun j => Expired now (s.sessions j)) s.gate t.gate) (order : now ≤ later)
    (opened : t.globalSessionEndTime = s.globalSessionEndTime)
    (access : hasActiveAccess later s = true) : hasActiveAccess later t = true := by
  rw [hasActiveAccess_iff] at access ⊢
  rw [opened]
  rcases access with opened | ⟨i, active, admitted, running⟩
  · exact Or.inl opened
  · have unexpired : ¬ Expired now (s.sessions i) :=
      fun expired => Nat.not_lt.mpr expired.2.2 (order.trans_lt running)
    have same := gone.kept i active unexpired
    simp only [gate_sessions] at same
    refine Or.inr ⟨i, ?_⟩
    rw [same]
    exact ⟨active, admitted, running⟩

/-! ## Refreshes -/

theorem maybeDisableNapt_routed {p : Platform} {now : Nat} {s : Server} (routed : Routed now s) :
    Routed now (maybeDisableNaptIfIdle p now s) := by
  unfold maybeDisableNaptIfIdle
  split
  · exact routed
  · rename_i idle
    simp only [Bool.or_eq_true, not_or] at idle
    intro access
    exact absurd access idle.2

/-- The global session as `refresh_portal_auth_state` leaves it is open later if it was. -/
theorem globalEnd_open_iff {now later : Nat} (order : now ≤ later) (globalEnd : Nat) :
    later < (if 0 < globalEnd ∧ globalEnd ≤ now then 0 else globalEnd) ↔ later < globalEnd := by
  split <;> omega

/-- The state in which the end of a refresh decides about NAPT. -/
theorem settlePortalAuthState_cases (p : Platform) (m : Moment) (s : Server) :
    ∃ t, (∀ later, m.now ≤ later → hasActiveAccess later t = hasActiveAccess later s) ∧
      t.naptEnabled = s.naptEnabled ∧ t.updates = s.updates ∧
        (settlePortalAuthState p m s = t ∨
          settlePortalAuthState p m s = maybeDisableNaptIfIdle p m.now t) := by
  unfold settlePortalAuthState
  have opened : ∀ {later}, m.now ≤ later → _ :=
    fun order => globalEnd_open_iff order s.globalSessionEndTime
  generalize (if 0 < s.globalSessionEndTime ∧ s.globalSessionEndTime ≤ m.now then 0
    else s.globalSessionEndTime) = globalEnd at opened ⊢
  dsimp only
  generalize ((firstSlot fun i => (s.sessions i).active && (s.sessions i).admitted).isSome ||
    decide (m.now < globalEnd)) = authenticated
  refine ⟨{ s with globalSessionEndTime := globalEnd, portalAuthenticated := authenticated },
    fun later order => ?_, rfl, rfl, ?_⟩
  · rw [Bool.eq_iff_iff, hasActiveAccess_iff, hasActiveAccess_iff]
    exact or_congr_left (opened order)
  · cases authenticated with
    | true => exact Or.inl rfl
    | false => exact Or.inr rfl

/-- The loop of a refresh touches neither the global session nor NAPT, and queues nothing. -/
theorem expireSweep_frame (p : Platform) (m : Moment) (s : Server) :
    (sweep (expireSlot p m) s).globalSessionEndTime = s.globalSessionEndTime ∧
      (sweep (expireSlot p m) s).naptEnabled = s.naptEnabled ∧
      (sweep (expireSlot p m) s).updates = s.updates := by
  apply sweep_preserves fun t : Server => t.globalSessionEndTime = s.globalSessionEndTime ∧
    t.naptEnabled = s.naptEnabled ∧ t.updates = s.updates
  · exact ⟨rfl, rfl, rfl⟩
  · intro i t same
    unfold expireSlot
    split
    · exact same
    · split
      · exact same
      · exact same

/-- A refresh leaves who has access, NAPT and the queue as they are, and then may disable NAPT. -/
theorem refresh_cases (p : Platform) (m : Moment) (s : Server) :
    ∃ t, (∀ later, m.now ≤ later → hasActiveAccess later t = hasActiveAccess later s) ∧
      t.naptEnabled = s.naptEnabled ∧ t.updates = s.updates ∧
        (refreshPortalAuthState p m s = t ∨
          refreshPortalAuthState p m s = maybeDisableNaptIfIdle p m.now t) := by
  obtain ⟨opened, napt, updates⟩ := expireSweep_frame p m s
  obtain ⟨t, access, napt', updates', result⟩ :=
    settlePortalAuthState_cases p m (sweep (expireSlot p m) s)
  have gone := expireSweep_ends p m s
  refine ⟨t, fun later order => ?_, napt'.trans napt, updates'.trans updates, result⟩
  rw [access later order, Bool.eq_iff_iff]
  exact ⟨gone.access opened, gone.keepsAccess order opened⟩

theorem refresh_routed {p : Platform} {m : Moment} {s : Server} (routed : Routed m.now s) :
    Routed m.now (refreshPortalAuthState p m s) := by
  obtain ⟨t, access, napt, -, result⟩ := refresh_cases p m s
  have settled : Routed m.now t := by
    intro here
    rw [napt]
    rw [access _ le_rfl] at here
    exact routed here
  rcases result with result | result
  · rw [result]
    exact settled
  · rw [result]
    exact maybeDisableNapt_routed settled

/-- As long as a client has access, a refresh leaves NAPT as it is. -/
theorem refresh_keepsNapt {p : Platform} {m : Moment} {s : Server}
    (access : hasActiveAccess m.now s = true) :
    (refreshPortalAuthState p m s).naptEnabled = s.naptEnabled := by
  obtain ⟨t, same, napt, -, result⟩ := refresh_cases p m s
  rcases result with result | result
  · rw [result, napt]
  · rw [result, maybeDisableNaptIfIdle, if_pos (by simp [same _ le_rfl, access]), napt]

theorem maybeDisableNapt_global (p : Platform) (now : Nat) (s : Server) :
    (maybeDisableNaptIfIdle p now s).globalSessionEndTime = s.globalSessionEndTime := by
  unfold maybeDisableNaptIfIdle
  split <;> rfl

theorem maybeDisableNapt_access (p : Platform) (now later : Nat) (s : Server) :
    hasActiveAccess later (maybeDisableNaptIfIdle p now s) = hasActiveAccess later s := by
  unfold maybeDisableNaptIfIdle
  split <;> rfl

theorem refresh_access (p : Platform) {m : Moment} {later : Nat} (order : m.now ≤ later)
    (s : Server) :
    hasActiveAccess later (refreshPortalAuthState p m s) = hasActiveAccess later s := by
  obtain ⟨t, same, -, -, result⟩ := refresh_cases p m s
  rcases result with result | result
  · rw [result, same later order]
  · rw [result, maybeDisableNapt_access, same later order]

/-- A refresh does not turn NAPT on. -/
theorem refresh_off {p : Platform} {m : Moment} {s : Server} (off : s.naptEnabled = false) :
    (refreshPortalAuthState p m s).naptEnabled = false := by
  obtain ⟨t, -, napt, -, result⟩ := refresh_cases p m s
  have idle : t.naptEnabled = false := napt.trans off
  rcases result with result | result
  · rw [result]
    exact idle
  · rw [result, maybeDisableNaptIfIdle, if_pos (by simp [idle])]
    exact idle

/-- The global session is open later after a refresh if it was. -/
theorem refresh_global (p : Platform) {m : Moment} {later : Nat} (order : m.now ≤ later)
    (s : Server) :
    later < (refreshPortalAuthState p m s).globalSessionEndTime ↔
      later < s.globalSessionEndTime := by
  obtain ⟨opened, -, -⟩ := expireSweep_frame p m s
  have settled : (refreshPortalAuthState p m s).globalSessionEndTime =
      if 0 < s.globalSessionEndTime ∧ s.globalSessionEndTime ≤ m.now then 0
      else s.globalSessionEndTime := by
    rw [refreshPortalAuthState, ← opened]
    simp only [settlePortalAuthState, apply_ite Server.globalSessionEndTime,
      maybeDisableNapt_global, ite_self]
  rw [settled]
  exact globalEnd_open_iff order _

/-! ## The functions that start no session -/

theorem revoke_routed {p : Platform} {m : Moment} {i : Fin maxClients} {disconnected : Bool}
    {s : Server} (routed : Routed m.now s) : Routed m.now (revokeSession p m i disconnected s) := by
  unfold revokeSession
  split
  · exact routed
  · rename_i active
    rw [Bool.not_eq_true, Bool.not_eq_false'] at active
    have closed : Routed m.now (closeSlot p m i s) := by
      intro access
      exact routed ((endSlot_ends p m active rfl).access (t := closeSlot p m i s) rfl access)
    dsimp only
    split
    · exact refresh_routed closed
    · exact refresh_routed closed

theorem heartbeat_routed {p : Platform} {m : Moment} {i : Fin maxClients} {s : Server}
    (routed : Routed m.now s) : Routed m.now (heartbeatSlot p m i s) := by
  refine heartbeat_preserves (Routed m.now) (fun i s routed access => ?_)
    (fun _ _ _ before => revoke_routed before) i routed
  exact routed ((checkpointSlot_ends p m false i s).access rfl access)

theorem disconnect_routed {p : Platform} {m : Moment} {ap : ApView} {mac : Mac} {s : Server}
    (routed : Routed m.now s) : Routed m.now (handleClientDisconnect p m ap mac s) :=
  disconnect_preserves (Routed m.now) (fun _ _ _ before => revoke_routed before) ap mac routed

/-- Moving a session grants no access. -/
theorem moved_routed {now : Nat} {s : Server} {i : Fin maxClients} (ip : IpAddr)
    (acl : ClientAcl.Acl) (routed : Routed now s) :
    Routed now { s with
      sessions := Function.update s.sessions i { s.sessions i with ipAddr := ip }
      acl := acl } := by
  intro access
  apply routed
  rw [hasActiveAccess_iff] at access ⊢
  rcases access with opened | ⟨j, active, admitted, running⟩
  · exact Or.inl opened
  · refine Or.inr ⟨j, ?_⟩
    rcases eq_or_ne j i with rfl | elsewhere
    · simp only [Function.update_self] at active admitted running
      exact ⟨active, admitted, running⟩
    · simp only [Function.update_of_ne elsewhere] at active admitted running
      exact ⟨active, admitted, running⟩

theorem getRemaining_routed {p : Platform} {m : Moment} {ap : ApView} {ip : IpAddr} {s : Server}
    (routed : Routed m.now s) : Routed m.now (getRemainingSeconds p m ap ip s).2 := by
  have lookup := getRemaining_lookup p m ap ip s
  generalize getRemainingSeconds p m ap ip s = result at lookup ⊢
  cases lookup with
  | misses | answers => exact routed
  | revokes => exact revoke_routed routed
  | moves => exact moved_routed ip _ routed

theorem ensureNapt_sessions (p : Platform) (s : Server) :
    (ensureNaptEnabled p s).2.sessions = s.sessions :=
  congrArg (fun books => books.1.sessions) (ensureNapt_books p s)

/-- Enabling NAPT, whether or not it succeeds. -/
theorem ensureNapt_routed {p : Platform} {now : Nat} {s : Server} (routed : Routed now s) :
    Routed now (ensureNaptEnabled p s).2 := by
  unfold ensureNaptEnabled
  split
  · exact routed
  · rename_i off
    intro access
    exact absurd (routed access) off

/-! ## Starts -/

/-- The start leaves somebody with access: the session it gets outlasts the refresh after it, or
    without an address the global session does. -/
def GrantsAccess (m : Clocks) (req : StartRequest) (sessions : SessionTable) : Prop :=
  Binds req ∧ Outlasts m req sessions ∨ req.ip = 0 ∧ m.closed < m.now + req.duration * secondUs

/-- Writing the slot leaves NAPT alone, and the global session without an address. -/
theorem acceptSession_frame (m : Moment) (req : StartRequest) (found : Option (Fin maxClients))
    (s : Server) :
    (acceptSession m req found s).2.naptEnabled = s.naptEnabled ∧
      ((acceptSession m req found s).2.globalSessionEndTime = s.globalSessionEndTime ∨
        req.ip ≠ 0 ∧ (acceptSession m req found s).2.globalSessionEndTime = 0) := by
  have written : ∀ i (t : Server), t.globalSessionEndTime = s.globalSessionEndTime →
      (writeSession m req i t).globalSessionEndTime = s.globalSessionEndTime ∨
        req.ip ≠ 0 ∧ (writeSession m req i t).globalSessionEndTime = 0 := by
    intro i t same
    simp only [writeSession]
    split
    · exact Or.inr ⟨‹_›, rfl⟩
    · exact Or.inl same
  unfold acceptSession
  split
  · split
    · exact ⟨rfl, Or.inl rfl⟩
    · exact ⟨rfl, written _ _ rfl⟩
  · exact ⟨rfl, written _ _ rfl⟩

theorem writtenServer_frame (p : Platform) (m : Clocks) (req : StartRequest) (s : Server) :
    (writtenServer p m req s).naptEnabled = (openedServer p m req s).naptEnabled ∧
      ((writtenServer p m req s).globalSessionEndTime =
          (openedServer p m req s).globalSessionEndTime ∨
        req.ip ≠ 0 ∧ (writtenServer p m req s).globalSessionEndTime = 0) :=
  acceptSession_frame m req _ _

/-- The global session after a start: with an address there is at most the one of before, and
    without one it lasts as long as the grant. -/
theorem startOrResume_global (p : Platform) (m : Clocks) (req : StartRequest) (s : Server) :
    (req.ip ≠ 0 → m.closed < (startOrResumeSession p m req s).2.globalSessionEndTime →
        m.closed < s.globalSessionEndTime) ∧
      (req.ip = 0 → (m.closed < (startOrResumeSession p m req s).2.globalSessionEndTime ↔
        m.closed < m.now + req.duration * secondUs)) := by
  have opens : req.ip = 0 → (m.closed < (openGlobalSession p m req s).globalSessionEndTime ↔
      m.closed < m.now + req.duration * secondUs) := fun _ =>
    refresh_global p (m := m.opening) m.closes _
  by_cases binds : Binds req
  · have closes : m.closed < (startOrResumeSession p m req s).2.globalSessionEndTime ↔
        m.closed < (writtenServer p m req s).globalSessionEndTime := by
      rw [startOrResume_phases p m binds]
      exact refresh_global p (m := m.closing) le_rfl _
    have written := (writtenServer_frame p m req s).2
    rw [openedServer] at written
    constructor
    · intro address later
      rw [if_neg address] at written
      rcases written with same | ⟨-, zero⟩
      · rwa [closes, same] at later
      · rw [closes, zero] at later
        exact absurd later (Nat.not_lt_zero _)
    · intro none
      rw [if_pos none] at written
      rcases written with same | ⟨address, -⟩
      · rw [closes, same]
        exact opens none
      · exact absurd none address
  · rw [Binds, not_or, not_not, not_not] at binds
    rw [startOrResumeSession, if_pos binds.1, if_pos binds.2]
    exact ⟨fun address => absurd binds.1 address, opens⟩

/-- Who has access after a start: those of before who still have it, and whoever it grants it. -/
theorem startOrResume_access {p : Platform} {m : Clocks} {req : StartRequest} {s : Server}
    (access : hasActiveAccess m.closed (startOrResumeSession p m req s).2 = true) :
    (req.ip ≠ 0 ∧ m.closed < s.globalSessionEndTime) ∨
      (∃ i, (s.sessions i).active = true ∧ (s.sessions i).admitted = true ∧
        m.closed < (s.sessions i).endTime) ∨ GrantsAccess m req s.sessions := by
  obtain ⟨address, none⟩ := startOrResume_global p m req s
  rw [hasActiveAccess_iff] at access
  rcases access with opened | ⟨i, active, admitted, running⟩
  · by_cases zero : req.ip = 0
    · exact Or.inr (Or.inr (Or.inr ⟨zero, (none zero).mp opened⟩))
    · exact Or.inl ⟨zero, address zero opened⟩
  · right
    by_cases binds : Binds req
    · have effect := (startOrResume_effect p m binds s).2
      rcases eq_or_ne i (requestBinding m req s.sessions).slot with rfl | elsewhere
      · exact Or.inr (Or.inl ⟨binds, effect.slot_active.mp active⟩)
      · obtain ⟨-, dropped, same⟩ := effect.other elsewhere active
        rw [(dropped_active dropped).2] at dropped
        simp only [gate_sessions] at dropped same
        rw [same] at admitted running
        exact Or.inl ⟨i, dropped, admitted, running⟩
    · obtain ⟨-, before, same⟩ := (startOrResume_unbound p m binds s).survivor active
      simp only [gate_sessions] at before same
      rw [same] at admitted running
      exact Or.inl ⟨i, before, admitted, running⟩

/-- A start that grants access leaves somebody with it. -/
theorem GrantsAccess.access (p : Platform) {m : Clocks} {req : StartRequest} {s : Server}
    (grants : GrantsAccess m req s.sessions) :
    hasActiveAccess m.closed (startOrResumeSession p m req s).2 = true := by
  rw [hasActiveAccess_iff]
  rcases grants with ⟨binds, outlasts⟩ | ⟨none, later⟩
  · have effect := (startOrResume_effect p m binds s).2
    have active := effect.slot_active.mpr outlasts
    obtain ⟨dayId, slot⟩ := effect.slot active
    simp only [gate_sessions] at active slot
    refine Or.inr ⟨(requestBinding m req s.sessions).slot, active, ?_, ?_⟩
    · rw [slot]
      exact boundSession_admitted m dayId req _
    · rw [slot]
      exact outlasts.trans_eq (boundSession_endTime m dayId req s.sessions).symm
  · exact Or.inl (((startOrResume_global p m req s).2 none).mpr later)

/-- As long as somebody has access in the end, the refreshes of a start leave NAPT on. -/
theorem startOrResume_keepsNapt {p : Platform} {m : Clocks} {req : StartRequest} {s : Server}
    (timed : Timed s.sessions)
    (access : hasActiveAccess m.closed (startOrResumeSession p m req s).2 = true) :
    (startOrResumeSession p m req s).2.naptEnabled = s.naptEnabled := by
  have opens : req.ip = 0 → (openGlobalSession p m req s).naptEnabled = s.naptEnabled := by
    intro none
    apply refresh_keepsNapt (m := m.opening)
    rw [hasActiveAccess_iff]
    have running : ∀ {later}, m.closed < later → m.opened < later := m.closes.trans_lt
    rcases startOrResume_access access with ⟨address, -⟩ | ⟨i, active, admitted, later⟩ |
      ⟨-, outlasts⟩ | ⟨-, later⟩
    · exact absurd none address
    · exact Or.inr ⟨i, active, admitted, running later⟩
    · rw [Outlasts, boundEnd] at outlasts
      split at outlasts
      · obtain ⟨-, active, -⟩ := boundSession_reuse m 0 ‹_›
        exact Or.inr ⟨_, active, (timed _ active).1, running outlasts⟩
      · exact Or.inl (running outlasts)
    · exact Or.inl (running later)
  by_cases binds : Binds req
  · have frame := (writtenServer_frame p m req s).1
    rw [startOrResume_phases p m binds] at access ⊢
    have written : hasActiveAccess m.closed (writtenServer p m req s) = true :=
      (refresh_access p (m := m.closing) le_rfl _).symm.trans access
    refine (refresh_keepsNapt (m := m.closing) written).trans (frame.trans ?_)
    rw [openedServer]
    split
    · exact opens ‹_›
    · rfl
  · rw [Binds, not_or, not_not, not_not] at binds
    rw [startOrResumeSession, if_pos binds.1, if_pos binds.2]
    exact opens binds.1

/-- A start does not turn NAPT on. -/
theorem startOrResume_off {p : Platform} {m : Clocks} {req : StartRequest} {s : Server}
    (off : s.naptEnabled = false) : (startOrResumeSession p m req s).2.naptEnabled = false := by
  have opens : (openGlobalSession p m req s).naptEnabled = false := refresh_off off
  by_cases binds : Binds req
  · have frame := (writtenServer_frame p m req s).1
    rw [startOrResume_phases p m binds]
    refine refresh_off (m := m.closing) (frame.trans ?_)
    rw [openedServer]
    split
    · exact opens
    · exact off
  · rw [Binds, not_or, not_not, not_not] at binds
    rw [startOrResumeSession, if_pos binds.1, if_pos binds.2]
    exact opens

/-- A start that finds NAPT on, or grants nobody access, keeps routing on for access. -/
theorem startOrResume_routed {p : Platform} {m : Clocks} {req : StartRequest} {s : Server}
    (timed : Timed s.sessions) (routed : Routed m.now s)
    (on : GrantsAccess m req s.sessions → s.naptEnabled = true) :
    Routed m.closed (startOrResumeSession p m req s).2 := by
  intro access
  rw [startOrResume_keepsNapt timed access]
  have before : m.now ≤ m.closed := m.opens.trans m.closes
  rcases startOrResume_access access with ⟨-, opened⟩ | ⟨i, active, admitted, running⟩ | grants
  · exact routed (hasActiveAccess_iff.mpr (Or.inl (before.trans_lt opened)))
  · exact routed (hasActiveAccess_iff.mpr
      (Or.inr ⟨i, active, admitted, before.trans_lt running⟩))
  · exact on grants

end SolarConnect.Session
