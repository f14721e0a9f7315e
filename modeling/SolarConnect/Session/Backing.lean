import SolarConnect.Session.Steps

/-!
# No access without a session

Every address the ACL admits is held by an entry that some active and admitted session backs,
by its address or by its MAC, as long as no step takes a session away from an entry that
nothing else backs. Revocations and expiries never do: only overwriting, dropping and moving
a session can.
-/

namespace SolarConnect.Session

open Slots ClientAcl

/-- The entry is at the session's address, or carries its MAC. -/
def Backs (session : ClientSession) (entry : AclEntry) : Prop :=
  entry.ip = session.ipAddr ∨ entry.hasMac = true ∧ entry.mac = session.mac

instance (session : ClientSession) (entry : AclEntry) : Decidable (Backs session entry) := by
  unfold Backs
  infer_instance

/-- Every admitted address is held by an entry whose address or MAC is that of an active and
    admitted session. -/
def EgressBacked (s : Server) : Prop :=
  ∀ ip, clientAclIsAdmitted s.acl ip = true →
    ∃ e, (s.acl e).used = true ∧ (s.acl e).ip = ip ∧
      ∃ i, (s.sessions i).active = true ∧ (s.sessions i).admitted = true ∧
        Backs (s.sessions i) (s.acl e)

/-- Releasing sessions for one at `ip` with `mac` keeps every entry backed: an entry that one
    of them backs is at that address, carries that MAC, or has another session. -/
def KeepsEntries (acl : Acl) (table : SessionTable) (released : Fin maxClients → Prop)
    (ip : IpAddr) (mac : Mac) : Prop :=
  ∀ e, (acl e).used = true →
    (∃ j, released j ∧ (table j).active = true ∧ Backs (table j) (acl e)) →
      (acl e).ip = ip ∨ (acl e).hasMac = true ∧ (acl e).mac = mac ∨
        ∃ k, ¬ released k ∧ (table k).active = true ∧ Backs (table k) (acl e)

instance (acl : Acl) (table : SessionTable) (released : Fin maxClients → Prop)
    [DecidablePred released] (ip : IpAddr) (mac : Mac) :
    Decidable (KeepsEntries acl table released ip mac) := by
  unfold KeepsEntries
  infer_instance

/-- The sessions a binding releases: the one in its slot, and the one dropped as expired. -/
def Released (b : Binding) (j : Fin maxClients) : Prop :=
  j = b.slot ∨ (b.dropped j).active = false

instance (b : Binding) : DecidablePred (Released b) := fun j => by
  unfold Released
  infer_instance

/-- The request carries no zero MAC, the session bound to its address outlasts the refresh, and
    binding it keeps every entry backed. -/
def RequestKeepsEntries (m : Clocks) (req : StartRequest) (g : Gate) : Prop :=
  req.mac ≠ some 0 ∧ (req.ip ≠ 0 → Outlasts m req g.sessions) ∧
    (Binds req → KeepsEntries g.acl (searchedTable m req g.sessions)
      (Released (requestBinding m req g.sessions)) req.ip
      (boundMac req (requestBinding m req g.sessions)))

instance (m : Clocks) (req : StartRequest) (g : Gate) :
    Decidable (RequestKeepsEntries m req g) := by
  unfold RequestKeepsEntries
  infer_instance

/-- The operation takes no session away from an entry. -/
def StepKeepsEntries (p : Platform) (input : Input) (s : Server) : Prop :=
  (∀ req ∈ requestOf p input.1 input.2 s, RequestKeepsEntries input.1 req s.gate) ∧
    ∀ rebound ∈ reboundSession input.1.now input.2 s.sessions,
      rebound.2.1 ≠ 0 ∧
        KeepsEntries s.acl s.sessions (fun j => j = rebound.1) rebound.2.2 rebound.2.1

instance (p : Platform) (input : Input) (s : Server) : Decidable (StepKeepsEntries p input s) :=
  @instDecidableAnd _ _ (Option.decidableForallMem _) (Option.decidableForallMem _)

/-- The invariant: addresses and MACs in the ACL are real, and every entry in use has an
    active session. -/
structure Backed (g : Gate) : Prop where
  nonzeroIp : ∀ e, (g.acl e).used = true → (g.acl e).ip ≠ 0
  nonzeroMac : ∀ e, (g.acl e).hasMac = true → (g.acl e).mac ≠ 0
  backed : ∀ e, (g.acl e).used = true →
    ∃ i, (g.sessions i).active = true ∧ Backs (g.sessions i) (g.acl e)

/-! ## Ending sessions -/

/-- An entry still in use after sessions have ended was held by none of them. -/
theorem Ends.entry {ended : Fin maxClients → Prop} {g g' : Gate} (ends : Ends ended g g')
    {e : Fin aclMaxClients} (used : (g'.acl e).used = true) :
    g'.acl e = g.acl e ∧ ∀ j, ended j → ¬ Holds (g.sessions j) (g.acl e) := by
  have free : ∀ j, ended j → ¬ Holds (g.sessions j) (g.acl e) := fun j here holds => by
    simp [ends.revoked e j here holds, AclEntry.zero] at used
  exact ⟨ends.spared e free, free⟩

theorem Ends.nonzeroMac {ended : Fin maxClients → Prop} {g g' : Gate} (ends : Ends ended g g')
    (nonzero : ∀ e, (g.acl e).hasMac = true → (g.acl e).mac ≠ 0) (e : Fin aclMaxClients)
    (carries : (g'.acl e).hasMac = true) : (g'.acl e).mac ≠ 0 := by
  by_cases free : ∀ j, ended j → ¬ Holds (g.sessions j) (g.acl e)
  · rw [ends.spared e free] at carries ⊢
    exact nonzero e carries
  · simp only [not_forall, not_not] at free
    obtain ⟨j, here, holds⟩ := free
    simp [ends.revoked e j here holds, AclEntry.zero] at carries

/-- The session of an entry holds it, so it cannot end without the entry. -/
theorem holds_of_backs {session : ClientSession} {entry : AclEntry} (used : entry.used = true)
    (nonzeroIp : entry.ip ≠ 0) (nonzeroMac : entry.hasMac = true → entry.mac ≠ 0)
    (backs : Backs session entry) : Holds session entry := by
  refine ⟨used, ?_⟩
  rcases backs with address | ⟨carries, same⟩
  · exact Or.inl ⟨address ▸ nonzeroIp, address⟩
  · exact Or.inr ⟨same ▸ nonzeroMac carries, carries, same⟩

theorem SameSession.backs_iff {a b : ClientSession} (same : SameSession a b) (e : AclEntry) :
    Backs b e ↔ Backs a e := by
  rw [same]
  exact Iff.rfl

theorem Backed.ends {ended : Fin maxClients → Prop} {g g' : Gate} (backed : Backed g)
    (ends : Ends ended g g') : Backed g' := by
  refine ⟨fun e used => ?_, ends.nonzeroMac backed.nonzeroMac, fun e used => ?_⟩
  · obtain ⟨same, -⟩ := ends.entry used
    rw [same] at used ⊢
    exact backed.nonzeroIp e used
  · obtain ⟨same, free⟩ := ends.entry used
    rw [same] at used ⊢
    obtain ⟨i, active, backs⟩ := backed.backed e used
    have stays : ¬ ended i := fun here =>
      free i here (holds_of_backs used (backed.nonzeroIp e used) (backed.nonzeroMac e) backs)
    have kept := ends.kept i active stays
    refine ⟨i, ?_, (kept.backs_iff _).mpr backs⟩
    rw [kept]
    exact active

/-! ## Admitting -/

/-- Admitting an address that an active session has keeps the invariant. -/
theorem Backed.admits {sessions : SessionTable} {acl : Acl} (backed : Backed ⟨sessions, acl⟩)
    {ip : IpAddr} {mac : Option Mac} (real : mac ≠ some 0)
    (served : ip ≠ 0 → ∃ i, (sessions i).active = true ∧ (sessions i).ipAddr = ip) :
    Backed ⟨sessions, clientAclAdmit ip mac acl⟩ := by
  have withMac : ∀ entry : AclEntry, (entry.hasMac = true → entry.mac ≠ 0) →
      (entry.withMac mac).hasMac = true → (entry.withMac mac).mac ≠ 0 := by
    intro entry nonzero
    cases mac with
    | none => exact nonzero
    | some m => exact fun _ zero => real (by rw [← zero]; rfl)
  refine ⟨fun e used => ?_, fun e carries => ?_, fun e used => ?_⟩
  · rcases clientAclAdmit_used used with same | ⟨nonzero, holds⟩
    · dsimp only at used ⊢
      rw [same] at used ⊢
      exact backed.nonzeroIp e used
    · dsimp only
      rw [holds]
      exact nonzero
  · dsimp only at carries ⊢
    have effect := clientAclAdmit_effect ip mac acl
    generalize clientAclAdmit ip mac acl = after at effect carries ⊢
    have nonzero := backed.nonzeroMac
    cases effect with
    | zeroIp | full => exact nonzero e carries
    | moved j | relabelled j | inserted j =>
      rcases eq_or_ne e j with rfl | other
      · simp only [Function.update_self] at carries ⊢
        first
          | exact nonzero e carries
          | exact withMac _ (nonzero e) carries
      · rw [Function.update_of_ne other] at carries ⊢
        exact nonzero e carries
  · dsimp only at used ⊢
    rcases clientAclAdmit_used used with same | ⟨nonzero, holds⟩
    · rw [same] at used ⊢
      exact backed.backed e used
    · obtain ⟨i, active, address⟩ := served nonzero
      exact ⟨i, active, Or.inl (holds.trans address.symm)⟩

/-! ## Moving and starting sessions -/

/-- Writing a slot after sessions were released. -/
theorem Backed.write {table dropped : SessionTable} {acl : Acl} (backed : Backed ⟨table, acl⟩)
    {slot : Fin maxClients} {session : ClientSession} (released : Fin maxClients → Prop)
    (active : session.active = true) (home : released slot)
    (others : ∀ j, ¬ released j → dropped j = table j)
    (keeps : KeepsEntries acl table released session.ipAddr session.mac) :
    Backed ⟨Function.update dropped slot session, acl⟩ := by
  refine ⟨backed.nonzeroIp, backed.nonzeroMac, fun e used => ?_⟩
  dsimp only at used ⊢
  obtain ⟨i, live, backs⟩ := backed.backed e used
  have elsewhere : ∀ k, ¬ released k → (table k).active = true → Backs (table k) (acl e) →
      ∃ i, (Function.update dropped slot session i).active = true ∧
        Backs (Function.update dropped slot session i) (acl e) := by
    intro k other live backs
    have apart : k ≠ slot := fun same => other (same ▸ home)
    exact ⟨k, by rwa [Function.update_of_ne apart, others k other],
      by rwa [Function.update_of_ne apart, others k other]⟩
  by_cases gone : released i
  · rcases keeps e used ⟨i, gone, live, backs⟩ with address | mac | ⟨k, other, liveK, backsK⟩
    · exact ⟨slot, by simpa using active, by simpa [Backs] using Or.inl address⟩
    · exact ⟨slot, by simpa using active, by simpa [Backs] using Or.inr mac⟩
    · exact elsewhere k other liveK backsK
  · exact elsewhere i gone live backs

theorem Backed.starts {m : Clocks} {req : StartRequest} {g g' : Gate} (backed : Backed g)
    (effect : StartEffect m req g g') (binds : Binds req)
    (keeps : RequestKeepsEntries m req g) : Backed g' := by
  obtain ⟨real, outlasts, entries⟩ := keeps
  have stays := effect.slot_active
  have slot := effect.slot
  obtain ⟨day, opened, mid, first, second, rfl⟩ := effect
  have before := backed.ends first
  have written : Backed ⟨boundTable m day req (requestBinding m req g.sessions), opened⟩ := by
    refine before.write (Released (requestBinding m req g.sessions))
      (boundSession_running m day req g.sessions).1 (Or.inl rfl) (fun j other => ?_) ?_
    · rw [Released, not_or, Bool.not_eq_false] at other
      exact binding_dropped other.2
    · rw [boundSession_ip, boundSession_mac]
      intro e used held
      obtain ⟨same, -⟩ := first.entry used
      dsimp only at same
      rw [same] at used held ⊢
      exact entries binds e used held
  refine (written.ends second).admits real fun nonzero => ?_
  have active := stays.mpr (outlasts nonzero)
  obtain ⟨dayId, same⟩ := slot active
  exact ⟨(requestBinding m req g.sessions).slot, active, same ▸ boundSession_ip m dayId req _⟩

theorem reboundSession_spec {now : Nat} {op : Operation} {sessions : SessionTable}
    {i : Fin maxClients} {mac : Mac} {ip : IpAddr}
    (rebound : reboundSession now op sessions = some (i, mac, ip)) :
    (sessions i).active = true ∧ (sessions i).mac = mac ∧ now < (sessions i).endTime ∧ ip ≠ 0 ∧
      ∀ j, (sessions j).active = true → (sessions j).admitted = true →
        (sessions j).ipAddr ≠ ip := by
  obtain ⟨ap, -, resolved, unknown, found, -, running⟩ := reboundSession_lookup rebound
  have passes := firstSlot_passes found
  simp only [Bool.and_eq_true, beq_iff_eq] at passes
  refine ⟨passes.1, passes.2, running, ?_, ?_⟩
  · intro zero
    simp [getClientMacForIp, zero] at resolved
  · intro j active admitted same
    have missed := firstSlot_eq_none_iff.mp unknown j
    simp [active, admitted, same] at missed

theorem assignedSession_spec {now : Nat} {op : Operation} {sessions : SessionTable}
    {i : Fin maxClients} {mac : Mac} {ip : IpAddr}
    (assigned : assignedSession now op sessions = some (i, mac, ip)) :
    (sessions i).active = true ∧ (sessions i).mac = mac ∧ now < (sessions i).endTime ∧ mac ≠ 0 ∧
      ip ≠ 0 := by
  unfold assignedSession at assigned
  split at assigned
  · split at assigned
    · simp at assigned
    rename_i real
    rw [not_or] at real
    obtain ⟨k, found, same⟩ := Option.map_eq_some_iff.mp assigned
    simp only [Prod.mk.injEq] at same
    obtain ⟨rfl, rfl, rfl⟩ := same
    have passes := firstSlot_passes found
    simp only [Bool.and_eq_true, beq_iff_eq, Bool.not_eq_true', decide_eq_false_iff_not,
      not_le] at passes
    exact ⟨passes.1.1, passes.1.2, passes.2, real.1, real.2⟩
  · simp at assigned

theorem Backed.revokeByIp {sessions : SessionTable} {acl : Acl} (backed : Backed ⟨sessions, acl⟩)
    (ip : IpAddr) : Backed ⟨sessions, clientAclRevokeByIp ip acl⟩ := by
  have either : ∀ e, clientAclRevokeByIp ip acl e = acl e ∨ clientAclRevokeByIp ip acl e = .zero :=
    revokeByIp_cases ip acl
  refine ⟨fun e used => ?_, fun e carries => ?_, fun e used => ?_⟩ <;>
    dsimp only at * <;>
    rcases either e with same | cleared
  · rw [same] at used ⊢
    exact backed.nonzeroIp e used
  · simp [cleared, AclEntry.zero] at used
  · rw [same] at carries ⊢
    exact backed.nonzeroMac e carries
  · simp [cleared, AclEntry.zero] at carries
  · rw [same] at used ⊢
    exact backed.backed e used
  · simp [cleared, AclEntry.zero] at used

/-- A lease takes the entries at the old address away before it moves the session. -/
theorem Backed.assigns {sessions : SessionTable} {acl : Acl} (backed : Backed ⟨sessions, acl⟩)
    {i : Fin maxClients} {mac : Mac} {ip : IpAddr} (active : (sessions i).active = true)
    (same : (sessions i).mac = mac) (real : mac ≠ 0) :
    Backed ⟨Function.update sessions i { sessions i with ipAddr := ip, admitted := true },
      clientAclAdmit ip (some mac)
        (if (sessions i).ipAddr ≠ ip ∧ (sessions i).ipAddr ≠ 0 then
          clientAclRevokeByIp (sessions i).ipAddr acl
        else acl)⟩ := by
  have moved : ∀ acl' : Acl, Backed ⟨sessions, acl'⟩ →
      (∀ e, (acl' e).used = true → (acl' e).ip = (sessions i).ipAddr → (acl' e).ip = ip) →
      Backed ⟨Function.update sessions i { sessions i with ipAddr := ip, admitted := true },
        clientAclAdmit ip (some mac) acl'⟩ := by
    intro acl' backed' cleared
    refine Backed.admits (backed'.write (fun j => j = i) ?_ rfl (fun _ _ => rfl) ?_)
      (by simpa using real) fun _ => ⟨i, ?_, ?_⟩
    · exact active
    · rintro e used ⟨j, rfl, -, address | carries⟩
      · exact Or.inl (cleared e used address)
      · exact Or.inr (Or.inl carries)
    · rw [Function.update_self]
      exact active
    · rw [Function.update_self]
  split
  · rename_i moves
    refine moved _ (backed.revokeByIp _) fun e used address => ?_
    obtain ⟨kept, gone⟩ := revokeByIp_used used
    rw [kept] at address
    exact absurd address (gone moves.2)
  · rename_i stays
    refine moved _ backed fun e used address => ?_
    rw [not_and_or, not_not, not_not] at stays
    rcases stays with here | zero
    · exact address.trans here
    · exact absurd (address.trans zero) (backed.nonzeroIp e used)

/-! ## Runs -/

theorem Timed.step {p : Platform} {m : Clocks} {op : Operation} {s : Server}
    (timed : Timed s.sessions) : Timed (Session.step p m op s).sessions := by
  have written : ∀ {i : Fin maxClients} {session : ClientSession},
      ((s.sessions i).active = true → session.admitted = true ∧ 0 < session.endTime) →
      session.active = (s.sessions i).active →
      Timed (Function.update s.sessions i session) := by
    intro i session fine same j active
    rcases eq_or_ne j i with rfl | other
    · rw [Function.update_self] at active ⊢
      exact fine (same ▸ active)
    · rw [Function.update_of_ne other] at active ⊢
      exact timed j active
  have effect := step_effect p m op timed
  change Timed (Session.step p m op s).gate.sessions
  generalize (Session.step p m op s).gate = g' at effect ⊢
  cases effect with
  | ends ended gone => exact Timed.ends (g := s.gate) timed gone
  | starts req request binds mid effect last =>
    intro i active
    rw [last.session i] at active ⊢
    exact Timed.starts (g := s.gate) timed effect i active
  | rebinds i mac ip rebound result =>
    rw [result]
    exact written (timed i) rfl
  | assigns i mac ip mid assigned result gone =>
    refine Timed.ends ?_ gone
    rw [result]
    exact written (fun active => ⟨rfl, (timed i active).2⟩) rfl

theorem Backed.step {p : Platform} {input : Input} {s : Server} (timed : Timed s.sessions)
    (backed : Backed s.gate) (keeps : StepKeepsEntries p input s) :
    Backed (stepInput p input s).gate := by
  have effect := step_effect p input.1 input.2 timed
  change Backed (Session.step p input.1 input.2 s).gate
  generalize (Session.step p input.1 input.2 s).gate = g' at effect ⊢
  cases effect with
  | ends ended gone => exact backed.ends gone
  | starts req request binds mid effect last =>
    have kept := keeps.1 req request
    cases last with
    | found same =>
      rw [same]
      exact backed.starts effect binds kept
    | moves i mac nonzero finished => exact absurd (kept.2.1 nonzero) finished
  | rebinds i mac ip rebound result =>
    obtain ⟨active, same, -, -, -⟩ := reboundSession_spec rebound
    obtain ⟨real, kept⟩ := keeps.2 _ rebound
    rw [result]
    have before : Backed ⟨s.sessions, s.acl⟩ := backed
    refine Backed.admits (before.write (fun j => j = i) ?_ rfl (fun _ _ => rfl) ?_)
      (by simpa using real) fun _ => ⟨i, ?_, ?_⟩
    · exact active
    · dsimp only
      rw [same]
      exact kept
    · rw [Function.update_self]
      exact active
    · rw [Function.update_self]
  | assigns i mac ip mid assigned result gone =>
    obtain ⟨active, same, -, real, -⟩ := assignedSession_spec assigned
    refine Backed.ends ?_ gone
    rw [result]
    exact Backed.assigns backed active same real

theorem timed_init (boot : Nat) : Timed (initSessions boot).sessions := by
  intro i active
  simp [initSessions, ClientSession.zero] at active

theorem serverAfter_timed (p : Platform) (boot : Nat) (inputs : List Input) :
    Timed (serverAfter p boot inputs).sessions :=
  Runs.run_invariant_always (fun s : Server => Timed s.sessions) inputs (timed_init boot)
    fun _ _ timed => timed.step

theorem backed_init (boot : Nat) : Backed (initSessions boot).gate := by
  constructor <;> simp [Server.gate, initSessions, clientAclInit, AclEntry.zero]

/-- In every run whose steps take no session away from an entry, every admitted address has
    an active and admitted session behind its entry. -/
theorem egress_backed (p : Platform) (boot : Nat) (inputs : List Input)
    (keeps : Runs.Guarded (stepInput p) (StepKeepsEntries p) (initSessions boot) inputs) :
    EgressBacked (serverAfter p boot inputs) := by
  obtain ⟨timed, backed⟩ := Runs.run_invariant
    (fun s : Server => Timed s.sessions ∧ Backed s.gate)
    ⟨timed_init boot, backed_init boot⟩
    (fun input s ⟨timed, backed⟩ keeps => ⟨timed.step, backed.step timed keeps⟩) keeps
  intro ip admitted
  obtain ⟨-, e, used, address⟩ := clientAclIsAdmitted_iff.mp admitted
  obtain ⟨i, active, backs⟩ := backed.backed e used
  exact ⟨e, used, address, i, active, (timed i active).1, backs⟩

/-! ## The twenty-first session -/

/-- A platform on which every call succeeds. -/
def somePlatform : Platform where
  nvs _ := true
  naptEnable _ := true
  naptDisable _ := true
  sha256 _ _ := 0

/-- The `k`-th device starts a session of one hour. -/
def deviceStarts (k : Nat) : Input :=
  (.still ⟨1000000 + k, 1700000000, by omega⟩,
    .startOrResume ⟨BitVec.ofNat 32 k, some (BitVec.ofNat 48 k), none, none, 3600⟩)

/-- The moment `s` seconds after the timer's first second. -/
def secondsIn (s : Nat) : Clocks :=
  .still ⟨(s + 1) * 1000000, 1700000000 + s, by omega⟩

/-- A device with a session is given another address, and a second one starts a session. -/
theorem egress_backed_lease :
    EgressBacked (serverAfter somePlatform 1
      [deviceStarts 1, (secondsIn 1, .clientIpAssigned 1 7),
        deviceStarts 2]) :=
  egress_backed somePlatform 1 _
    ⟨by decide +kernel, by decide +kernel, by decide +kernel, trivial⟩

set_option maxRecDepth 100000 in
/-- The session of the first device is overwritten by that of the twenty-first, and its entry
    in the ACL stays. -/
theorem egress_not_backed :
    ¬ ∀ (p : Platform) (boot : Nat) (inputs : List Input),
      EgressBacked (serverAfter p boot inputs) := by
  intro claim
  have backed := claim somePlatform 1 ((List.range 21).map fun k => deviceStarts (k + 1)) 1
    (by decide +kernel)
  revert backed
  decide +kernel

end SolarConnect.Session
