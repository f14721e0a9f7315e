import SolarConnect.Session.Backing

/-!
# Every live session is admitted

The other half of the agreement between the two tables: a session that may send has an entry
in the ACL. Every active session with an address owns an entry, at that address and with no
MAC but its own. No other session can take it away while addresses and MACs are not shared.
-/

namespace SolarConnect.Session

open Slots ClientAcl

/-- Every session that `is_client_session_active` answers for passes the packet gate. -/
def LiveAdmitted (now : Nat) (s : Server) : Prop :=
  ∀ i, (s.sessions i).active = true → (s.sessions i).admitted = true →
    now < (s.sessions i).endTime → (s.sessions i).ipAddr ≠ 0 →
      clientAclIsAdmitted s.acl (s.sessions i).ipAddr = true

instance (now : Nat) (s : Server) : Decidable (LiveAdmitted now s) := by
  unfold LiveAdmitted
  infer_instance

/-- The entry is the session's own: at its address, and with no MAC but its own. -/
def Owns (session : ClientSession) (entry : AclEntry) : Prop :=
  entry.used = true ∧ entry.ip = session.ipAddr ∧ (entry.hasMac = true → entry.mac = session.mac)

/-- No two active sessions share an address or a MAC. -/
structure Apart (sessions : SessionTable) : Prop where
  ip : ∀ i j, (sessions i).active = true → (sessions j).active = true →
    (sessions i).ipAddr ≠ 0 → (sessions i).ipAddr = (sessions j).ipAddr → i = j
  mac : ∀ i j, (sessions i).active = true → (sessions j).active = true →
    (sessions i).mac ≠ 0 → (sessions i).mac = (sessions j).mac → i = j

/-- A free entry carries no MAC. -/
def Blank (acl : Acl) : Prop :=
  ∀ e, (acl e).used = false → (acl e).hasMac = false

/-- The invariant: sessions share nothing, and every active session with an address owns an
    entry. -/
structure InStep (g : Gate) : Prop where
  apart : Apart g.sessions
  owns : ∀ i, (g.sessions i).active = true → (g.sessions i).ipAddr ≠ 0 →
    ∃ e, Owns (g.sessions i) (g.acl e)
  blank : Blank g.acl

/-! ## The condition on a step -/

/-- `client_acl_admit` finds an entry for the client, given that some entries are gone by
    then. -/
def HasRoom (acl : Acl) (ip : IpAddr) (mac : Option Mac) (gone : AclEntry → Prop) : Prop :=
  ∃ e, (acl e).used = false ∨ (acl e).ip = ip ∨ macMatches (acl e) mac = true ∨ gone (acl e)

instance (acl : Acl) (ip : IpAddr) (mac : Option Mac) (gone : AclEntry → Prop)
    [DecidablePred gone] : Decidable (HasRoom acl ip mac gone) := by
  unfold HasRoom
  infer_instance

/-- A session that is expired once the slot has been written takes the entry with it. -/
def SweptAway (m : Clocks) (req : StartRequest) (b : Binding) (entry : AclEntry) : Prop :=
  ∃ j, Expired m.closed (boundTable m 0 req b j) ∧ Holds (boundTable m 0 req b j) entry

instance (m : Clocks) (req : StartRequest) (b : Binding) :
    DecidablePred (SweptAway m req b) := fun entry => by
  unfold SweptAway
  infer_instance

/-- No session that goes on has the address or the MAC of the one bound. -/
def BindsApart (m : Clocks) (req : StartRequest) (b : Binding) : Prop :=
  ∀ j, j ≠ b.slot → (b.dropped j).active = true → ¬ Expired m.closed (b.dropped j) →
    (req.ip ≠ 0 → (b.dropped j).ipAddr ≠ req.ip) ∧
      (boundMac req b ≠ 0 → (b.dropped j).mac ≠ boundMac req b)

instance (m : Clocks) (req : StartRequest) (b : Binding) : Decidable (BindsApart m req b) := by
  unfold BindsApart
  infer_instance

/-- A session started without a MAC takes over no entry with one. -/
def TakesNoMac (m : Clocks) (req : StartRequest) (b : Binding) (acl : Acl) : Prop :=
  req.mac = none → b.reuse = true ∨
    ∀ e, (acl e).used = true → (acl e).ip = req.ip → (acl e).hasMac = true →
      SweptAway m req b (acl e)

instance (m : Clocks) (req : StartRequest) (b : Binding) (acl : Acl) :
    Decidable (TakesNoMac m req b acl) := by
  unfold TakesNoMac
  infer_instance

/-- The request gets a session that shares nothing, and room in the ACL. -/
def RequestAdmits (m : Clocks) (req : StartRequest) (g : Gate) : Prop :=
  req.mac ≠ some 0 ∧
    (Binds req →
      let b := requestBinding m req g.sessions
      BindsApart m req b ∧
        (req.ip ≠ 0 → HasRoom g.acl req.ip req.mac (SweptAway m req b) ∧
          TakesNoMac m req b g.acl))

instance (m : Clocks) (req : StartRequest) (g : Gate) : Decidable (RequestAdmits m req g) := by
  unfold RequestAdmits
  infer_instance

/-- Whatever session the operation binds to an address shares it with no other, and there is
    room for it in the ACL. -/
def StepAdmits (p : Platform) (input : Input) (s : Server) : Prop :=
  (∀ req ∈ requestOf p input.1 input.2 s, RequestAdmits input.1 req s.gate) ∧
    (∀ rebound ∈ reboundSession input.1.now input.2 s.sessions,
      rebound.2.1 ≠ 0 ∧ HasRoom s.acl rebound.2.2 (some rebound.2.1) (fun _ => False)) ∧
    ∀ assigned ∈ assignedSession input.1.now input.2 s.sessions,
      (∀ j, j ≠ assigned.1 → (s.sessions j).active = true →
        (s.sessions j).ipAddr ≠ assigned.2.2) ∧
      ((s.sessions assigned.1).ipAddr = 0 →
        HasRoom s.acl assigned.2.2 (some assigned.2.1) (fun _ => False))

instance (p : Platform) (input : Input) (s : Server) : Decidable (StepAdmits p input s) :=
  @instDecidableAnd _ _ (Option.decidableForallMem _)
    (@instDecidableAnd _ _ (Option.decidableForallMem _) (Option.decidableForallMem _))

/-! ## Ending sessions -/

/-- Ending one session leaves the entry another owns. -/
theorem Apart.not_holds {sessions : SessionTable} (apart : Apart sessions) {i j : Fin maxClients}
    (activeI : (sessions i).active = true) (activeJ : (sessions j).active = true)
    (nonzero : (sessions i).ipAddr ≠ 0) (other : j ≠ i) {entry : AclEntry}
    (owns : Owns (sessions i) entry) : ¬ Holds (sessions j) entry := by
  obtain ⟨-, address, carries⟩ := owns
  rintro ⟨-, ⟨-, same⟩ | ⟨real, hasMac, same⟩⟩
  · exact other (apart.ip i j activeI activeJ nonzero (address.symm.trans same)).symm
  · exact other (apart.mac j i activeJ activeI real (same.symm.trans (carries hasMac)))

/-- Fewer sessions, where they were, are still apart. -/
theorem Apart.mono {before after : SessionTable} (apart : Apart before)
    (kept : ∀ j, (after j).active = true → (before j).active = true ∧
      (after j).ipAddr = (before j).ipAddr ∧ (after j).mac = (before j).mac) : Apart after := by
  constructor <;>
    intro i j activeI activeJ <;>
    obtain ⟨beforeI, addressI, macI⟩ := kept i activeI <;>
    obtain ⟨beforeJ, addressJ, macJ⟩ := kept j activeJ
  · rw [addressI, addressJ]
    exact apart.ip i j beforeI beforeJ
  · rw [macI, macJ]
    exact apart.mac i j beforeI beforeJ

theorem Ends.apart_sessions {ended : Fin maxClients → Prop} {g g' : Gate} (ends : Ends ended g g')
    (apart : Apart g.sessions) : Apart g'.sessions := by
  refine apart.mono fun j active => ?_
  obtain ⟨-, before, same⟩ := ends.survivor active
  rw [same]
  exact ⟨before, rfl, rfl⟩

theorem Ends.blank {ended : Fin maxClients → Prop} {g g' : Gate} (ends : Ends ended g g')
    (blank : Blank g.acl) : Blank g'.acl := by
  intro e free
  by_cases spared : ∀ j, ended j → ¬ Holds (g.sessions j) (g.acl e)
  · rw [ends.spared e spared] at free ⊢
    exact blank e free
  · simp only [not_forall, not_not] at spared
    obtain ⟨j, here, holds⟩ := spared
    rw [ends.revoked e j here holds]
    rfl

theorem SameSession.owns_iff {a b : ClientSession} (same : SameSession a b) (e : AclEntry) :
    Owns b e ↔ Owns a e := by
  rw [same]
  exact Iff.rfl

theorem InStep.ends {ended : Fin maxClients → Prop} {g g' : Gate} (inStep : InStep g)
    (ends : Ends ended g g') : InStep g' := by
  refine ⟨ends.apart_sessions inStep.apart, fun i active nonzero => ?_, ends.blank inStep.blank⟩
  obtain ⟨stays, before, same⟩ := ends.survivor active
  have address : (g.sessions i).ipAddr ≠ 0 := by rwa [same] at nonzero
  obtain ⟨e, owns⟩ := inStep.owns i before address
  have spared := ends.spared e fun j here =>
    inStep.apart.not_holds before (ends.active j here) address
      (fun equal => stays (equal ▸ here)) owns
  exact ⟨e, (same.owns_iff _).mpr (spared ▸ owns)⟩

/-! ## Admitting -/

theorem Blank.admits {acl : Acl} (blank : Blank acl) (ip : IpAddr) (mac : Option Mac) :
    Blank (clientAclAdmit ip mac acl) := by
  intro e free
  have effect := clientAclAdmit_effect ip mac acl
  generalize clientAclAdmit ip mac acl = after at effect free ⊢
  cases effect with
  | zeroIp | full => exact blank e free
  | moved k _ used | relabelled k _ _ used | inserted k =>
    rcases eq_or_ne e k with rfl | elsewhere
    · simp_all
    · rw [Function.update_of_ne elsewhere] at free ⊢
      exact blank e free

/-- The session whose address is admitted owns an entry, if there is room. -/
theorem admit_owns {acl : Acl} {session : ClientSession} {mac : Option Mac}
    (nonzero : session.ipAddr ≠ 0) (carries : ∀ m ∈ mac, session.mac = m) (blank : Blank acl)
    (room : HasRoom acl session.ipAddr mac (fun _ => False))
    (clean : mac = none → (∃ e, Owns session (acl e)) ∨
      ∀ e, (acl e).used = true → (acl e).ip = session.ipAddr → (acl e).hasMac = false) :
    ∃ e, Owns session (clientAclAdmit session.ipAddr mac acl e) := by
  have effect := clientAclAdmit_effect session.ipAddr mac acl
  generalize clientAclAdmit session.ipAddr mac acl = after at effect ⊢
  cases effect with
  | zeroIp zero => exact absurd zero nonzero
  | moved k _ used matched =>
    cases mac with
    | none => simp [macMatches_none] at matched
    | some m =>
      refine ⟨k, by simpa using used, by simp, fun _ => ?_⟩
      simpa [(macMatches_some.mp matched).2] using (carries m rfl).symm
  | relabelled k _ _ used here =>
    cases mac with
    | none =>
      simp only [AclEntry.withMac, Function.update_eq_self]
      rcases clean rfl with owned | unlabelled
      · exact owned
      · exact ⟨k, used, here, fun hasMac => by simp [unlabelled k used here] at hasMac⟩
    | some m =>
      refine ⟨k, by simpa using used, by simpa using here, fun _ => ?_⟩
      simpa [AclEntry.withMac] using (carries m rfl).symm
  | inserted k _ _ _ free =>
    refine ⟨k, by simp, by simp, fun hasMac => ?_⟩
    cases mac with
    | none => simp [AclEntry.withMac, blank k free] at hasMac
    | some m => simpa [AclEntry.withMac] using (carries m rfl).symm
  | full _ unmatched absent allUsed =>
    obtain ⟨e, free | here | matched | gone⟩ := room
    · simp [allUsed e] at free
    · exact absurd here (absent e (allUsed e))
    · simp [unmatched e (allUsed e)] at matched
    · exact gone.elim

/-- An entry owned by a session with another address and another MAC stays its own. -/
theorem Owns.admits {acl : Acl} {session : ClientSession} {ip : IpAddr} {mac : Option Mac}
    {e : Fin aclMaxClients} (owns : Owns session (acl e)) (elsewhere : session.ipAddr ≠ ip)
    (other : ∀ m ∈ mac, session.mac ≠ m) : Owns session (clientAclAdmit ip mac acl e) := by
  have effect := clientAclAdmit_effect ip mac acl
  generalize clientAclAdmit ip mac acl = after at effect ⊢
  cases effect with
  | zeroIp | full => exact owns
  | moved k _ used matched =>
    rcases eq_or_ne e k with rfl | apart
    · cases mac with
      | none => simp [macMatches_none] at matched
      | some m =>
        obtain ⟨hasMac, label⟩ := macMatches_some.mp matched
        exact absurd ((owns.2.2 hasMac).symm.trans label) (other m rfl)
    · rwa [Function.update_of_ne apart]
  | relabelled k _ _ used here =>
    rcases eq_or_ne e k with rfl | apart
    · exact absurd (owns.2.1.symm.trans here) elsewhere
    · rwa [Function.update_of_ne apart]
  | inserted k _ _ _ free =>
    rcases eq_or_ne e k with rfl | apart
    · simp [owns.1] at free
    · rwa [Function.update_of_ne apart]

/-- Admitting the address of a session gives it an entry and takes none from another. -/
theorem InStep.admits {sessions : SessionTable} {acl : Acl} {i : Fin maxClients} {ip : IpAddr}
    {mac : Option Mac} (apart : Apart sessions) (active : (sessions i).active = true)
    (address : (sessions i).ipAddr = ip) (carries : ∀ m ∈ mac, (sessions i).mac = m)
    (real : mac ≠ some 0)
    (others : ∀ j, j ≠ i → (sessions j).active = true → (sessions j).ipAddr ≠ 0 →
      ∃ e, Owns (sessions j) (acl e))
    (blank : Blank acl) (room : ip ≠ 0 → HasRoom acl ip mac (fun _ => False))
    (clean : ip ≠ 0 → mac = none → (∃ e, Owns (sessions i) (acl e)) ∨
      ∀ e, (acl e).used = true → (acl e).ip = ip → (acl e).hasMac = false) :
    InStep ⟨sessions, clientAclAdmit ip mac acl⟩ := by
  refine ⟨apart, fun j activeJ nonzero => ?_, blank.admits ip mac⟩
  dsimp only at activeJ nonzero ⊢
  rcases eq_or_ne j i with rfl | other
  · rw [← address] at room clean ⊢
    exact admit_owns nonzero carries blank (room nonzero) (clean nonzero)
  · obtain ⟨e, owns⟩ := others j other activeJ nonzero
    refine ⟨e, owns.admits (fun same => other ?_) (fun m given same => other ?_)⟩
    · exact apart.ip j i activeJ active nonzero (same.trans address.symm)
    · have alike := same.trans (carries m given).symm
      refine apart.mac j i activeJ active (fun zero => real ?_) alike
      rwa [Option.mem_def, same.symm.trans zero] at given

/-! ## Moving and starting sessions -/

/-- Rewriting one slot keeps sessions apart if no other active session has its address or its
    MAC. -/
theorem Apart.bind {before after : SessionTable} {i : Fin maxClients} (apart : Apart before)
    (others : ∀ j, j ≠ i → (after j).active = true → (before j).active = true ∧
      (after j).ipAddr = (before j).ipAddr ∧ (after j).mac = (before j).mac)
    (alone : ∀ j, j ≠ i → (after j).active = true →
      ((after i).ipAddr ≠ 0 → (after j).ipAddr ≠ (after i).ipAddr) ∧
        ((after i).mac ≠ 0 → (after j).mac ≠ (after i).mac)) : Apart after := by
  constructor <;> intro j k activeJ activeK nonzero same <;> by_contra distinct
  · by_cases here : j = i
    · subst here
      exact (alone k (Ne.symm distinct) activeK).1 nonzero same.symm
    by_cases there : k = i
    · subst there
      exact (alone j here activeJ).1 (same ▸ nonzero) same
    obtain ⟨beforeJ, addressJ, -⟩ := others j here activeJ
    obtain ⟨beforeK, addressK, -⟩ := others k there activeK
    rw [addressJ] at nonzero
    exact distinct (apart.ip j k beforeJ beforeK nonzero (addressJ ▸ addressK ▸ same))
  · by_cases here : j = i
    · subst here
      exact (alone k (Ne.symm distinct) activeK).2 nonzero same.symm
    by_cases there : k = i
    · subst there
      exact (alone j here activeJ).2 (same ▸ nonzero) same
    obtain ⟨beforeJ, -, macJ⟩ := others j here activeJ
    obtain ⟨beforeK, -, macK⟩ := others k there activeK
    rw [macJ] at nonzero
    exact distinct (apart.mac j k beforeJ beforeK nonzero (macJ ▸ macK ▸ same))

/-- A session reused without a MAC has been found at the address. -/
theorem reuse_withoutMac {m : Clocks} {req : StartRequest} {sessions : SessionTable}
    (nonzero : req.ip ≠ 0) (noMac : req.mac = none)
    (reuse : (requestBinding m req sessions).reuse = true) :
    (requestBinding m req sessions).dropped = sessions ∧
      (sessions (requestBinding m req sessions).slot).active = true ∧
        (sessions (requestBinding m req sessions).slot).ipAddr = req.ip := by
  obtain ⟨table, found⟩ := requestBinding_reuse reuse
  have searched : searchedTable m req sessions = sessions := if_neg nonzero
  rw [searched] at table found
  rw [foundSession, if_neg nonzero, foundByClient, noMac, findSessionIndexByMac,
    Option.none_or] at found
  have passes := firstSlot_passes found
  simp only [Bool.and_eq_true, beq_iff_eq] at passes
  exact ⟨table, passes⟩

/-- What the sweep of a start takes from the ACL. -/
theorem SweepsBound.spared_iff {m : Clocks} {dayId : Nat} {req : StartRequest}
    {sessions : SessionTable} {acl : Acl} {mid : Gate}
    (sweeps : SweepsBound m dayId req sessions acl mid) (e : Fin aclMaxClients) :
    (¬ SweptAway m req (requestBinding m req sessions) (acl e) → mid.acl e = acl e) ∧
      (SweptAway m req (requestBinding m req sessions) (acl e) → mid.acl e = .zero) := by
  have alike := boundTable_anyDay m 0 dayId req (requestBinding m req sessions)
  constructor
  · intro stays
    refine Ends.spared sweeps e fun k expired holds => stays ⟨k, ?_⟩
    dsimp only at holds
    rw [alike] at expired holds
    exact ⟨expired, holds⟩
  · rintro ⟨k, expired, holds⟩
    refine Ends.revoked sweeps e k ?_ ?_
    · rw [alike]
      exact expired
    · dsimp only
      rw [alike]
      exact holds

/-- The sweep of a start leaves the entries owned by those who stay. -/
theorem SweepsBound.spares {m : Clocks} {dayId : Nat} {req : StartRequest}
    {sessions : SessionTable} {opened : Acl} {mid : Gate}
    (sweeps : SweepsBound m dayId req sessions opened mid)
    (apart : Apart (searchedTable m req sessions)) {j : Fin maxClients}
    (place : searchedTable m req sessions j = sessions j)
    (active : (sessions j).active = true) (nonzero : (sessions j).ipAddr ≠ 0)
    (stays : ¬ Expired m.closed (boundTable m dayId req (requestBinding m req sessions) j))
    {e : Fin aclMaxClients} (owns : Owns (sessions j) (opened e))
    (free : Expired m.closed (boundSession m dayId req (requestBinding m req sessions)) →
      ¬ Holds (boundSession m dayId req (requestBinding m req sessions)) (opened e)) :
    mid.acl e = opened e := by
  rw [← place] at active nonzero owns
  refine Ends.spared sweeps e fun k expired => ?_
  dsimp only
  rcases eq_or_ne k (requestBinding m req sessions).slot with rfl | elsewhere
  · rw [boundTable, Function.update_self] at expired ⊢
    exact free expired
  have activeK := expired.1
  rw [boundTable_other m dayId req elsewhere] at activeK ⊢
  have searched := (dropped_active activeK).1
  rw [searched] at activeK ⊢
  exact apart.not_holds active activeK nonzero (fun equal => stays (equal ▸ expired)) owns

/-- Sessions stay apart when the one bound shares nothing with those that go on. -/
theorem Apart.starts {m : Clocks} {dayId : Nat} {req : StartRequest} {sessions : SessionTable}
    {opened : Acl} {mid : Gate} (apart : Apart (searchedTable m req sessions))
    (sweeps : SweepsBound m dayId req sessions opened mid)
    (outlasts : Outlasts m req sessions)
    (alone : BindsApart m req (requestBinding m req sessions)) : Apart mid.sessions := by
  refine apart.bind (i := (requestBinding m req sessions).slot)
    (fun j elsewhere active => ?_) (fun j elsewhere active => ?_)
  · obtain ⟨-, before, same⟩ := sweeps.other elsewhere active
    obtain ⟨searched, source⟩ := dropped_active before
    rw [same, ← searched, source]
    exact ⟨source ▸ before, rfl, rfl⟩
  · obtain ⟨running, before, same⟩ := sweeps.other elsewhere active
    obtain ⟨-, source⟩ := dropped_active before
    rw [sweeps.slot (sweeps.slot_active.mpr outlasts), same, boundSession_ip, boundSession_mac,
      ← source]
    exact alone j elsewhere before (source ▸ running)

/-- The room an admission finds after the sweep. -/
theorem HasRoom.swept {m : Clocks} {dayId : Nat} {req : StartRequest} {sessions : SessionTable}
    {acl : Acl} {mid : Gate} (sweeps : SweepsBound m dayId req sessions acl mid)
    (room : HasRoom acl req.ip req.mac (SweptAway m req (requestBinding m req sessions))) :
    HasRoom mid.acl req.ip req.mac (fun _ => False) := by
  obtain ⟨e, free⟩ := room
  refine ⟨e, ?_⟩
  cases used : (mid.acl e).used with
  | false => exact Or.inl rfl
  | true =>
    have kept : mid.acl e = acl e := (Ends.entry sweeps used).1
    have used' := kept ▸ used
    rw [kept]
    rcases free with free | here | matched | swept
    · simp [free] at used'
    · exact Or.inr (Or.inl here)
    · exact Or.inr (Or.inr (Or.inl matched))
    · rw [(sweeps.spared_iff e).2 swept] at used
      cases used

/-- Without a MAC the session finds its own entry after the sweep, or none with a MAC. -/
theorem TakesNoMac.swept {m : Clocks} {dayId : Nat} {req : StartRequest} {g mid : Gate}
    (inStep : InStep g) (sweeps : SweepsBound m dayId req g.sessions g.acl mid)
    (nonzero : req.ip ≠ 0) (outlasts : Outlasts m req g.sessions)
    (takes : TakesNoMac m req (requestBinding m req g.sessions) g.acl)
    (noMac : req.mac = none) :
    (∃ e, Owns (mid.sessions (requestBinding m req g.sessions).slot) (mid.acl e)) ∨
      ∀ e, (mid.acl e).used = true → (mid.acl e).ip = req.ip → (mid.acl e).hasMac = false := by
  have searched : searchedTable m req g.sessions = g.sessions := if_neg nonzero
  rcases takes noMac with reuse | unlabelled
  · left
    obtain ⟨table, active, here⟩ := reuse_withoutMac nonzero noMac reuse
    obtain ⟨e, owns⟩ := inStep.owns _ active (here ▸ nonzero)
    have running := (boundSession_expired_iff m dayId req g.sessions).not.mpr (not_not.mpr outlasts)
    have spared := sweeps.spares (by rw [searched]; exact inStep.apart) (by rw [searched]) active
      (here ▸ nonzero) (by rwa [boundTable, Function.update_self]) owns fun expired =>
        absurd expired running
    refine ⟨e, ((sweeps.slot (sweeps.slot_active.mpr outlasts)).owns_iff _).mpr ?_⟩
    rw [spared]
    refine ⟨owns.1, ?_, fun hasMac => ?_⟩
    · rw [boundSession_ip, ← here]
      exact owns.2.1
    · rw [boundSession_mac, boundMac, noMac, Option.getD_none, if_pos reuse, table]
      exact owns.2.2 hasMac
  · right
    intro e used here
    have kept : mid.acl e = g.acl e := (Ends.entry sweeps used).1
    have used' := used
    rw [kept] at used' here ⊢
    by_contra hasMac
    have swept := unlabelled e used' here (by simpa using hasMac)
    rw [(sweeps.spared_iff e).2 swept] at used
    cases used

/-- A start leaves the other sessions their entries, up to the admission. -/
theorem InStep.others {m : Clocks} {dayId : Nat} {req : StartRequest} {g mid : Gate}
    {opened : Acl} (before : InStep ⟨searchedTable m req g.sessions, opened⟩)
    (real : req.mac ≠ some 0)
    (sweeps : SweepsBound m dayId req g.sessions opened mid)
    (alone : BindsApart m req (requestBinding m req g.sessions)) {j : Fin maxClients}
    (elsewhere : j ≠ (requestBinding m req g.sessions).slot)
    (active : (mid.sessions j).active = true) (nonzero : (mid.sessions j).ipAddr ≠ 0) :
    (∃ e, Owns (mid.sessions j) (mid.acl e)) ∧
      (req.ip ≠ 0 → (mid.sessions j).ipAddr ≠ req.ip) ∧
        ∀ mac ∈ req.mac, (mid.sessions j).mac ≠ mac := by
  obtain ⟨running, live, same⟩ := sweeps.other elsewhere active
  obtain ⟨searched, source⟩ := dropped_active live
  have apart := alone j elsewhere live (source ▸ running)
  rw [source] at apart
  have alike := searched.symm.trans source
  rw [same] at nonzero
  have owned := before.owns j
  dsimp only at owned
  rw [alike] at owned
  obtain ⟨e, owns⟩ := owned (source ▸ live) nonzero
  refine ⟨⟨e, (same.owns_iff _).mpr ?_⟩, fun given => ?_, fun mac given => ?_⟩
  · have stays : ¬ Expired m.closed
        (boundTable m dayId req (requestBinding m req g.sessions) j) := by
      rwa [boundTable_other m dayId req elsewhere, source]
    rwa [sweeps.spares before.apart alike (source ▸ live) nonzero stays owns fun _ => ?_]
    -- The bound session, if it is over by now, has another address and another MAC.
    rintro ⟨-, ⟨bound, here⟩ | ⟨bound, hasMac, here⟩⟩
    · rw [boundSession_ip] at bound here
      exact apart.1 bound (owns.2.1.symm.trans here)
    · rw [boundSession_mac] at bound here
      exact apart.2 bound ((owns.2.2 hasMac).symm.trans here)
  · rw [same]
    exact apart.1 given
  · have own : boundMac req (requestBinding m req g.sessions) = mac := by
      rw [boundMac, Option.mem_def.mp given, Option.getD_some]
    rw [own] at apart
    rw [same]
    refine apart.2 fun zero => real ?_
    rw [Option.mem_def.mp given, zero]

theorem InStep.starts {m : Clocks} {req : StartRequest} {g g' : Gate} (inStep : InStep g)
    (effect : StartEffect m req g g') (binds : Binds req)
    (admits : RequestAdmits m req g) : InStep g' := by
  obtain ⟨real, fits⟩ := admits
  obtain ⟨alone, room⟩ := fits binds
  obtain ⟨dayId, opened, mid, first, second, rfl⟩ := effect
  have before := inStep.ends first
  have unchanged : req.ip ≠ 0 → opened = g.acl := fun nonzero =>
    funext fun e => first.spared e fun j ⟨zero, _⟩ => absurd zero nonzero
  have others := fun j elsewhere active nonzero =>
    InStep.others (j := j) before real second alone elsewhere active nonzero
  by_cases outlasts : Outlasts m req g.sessions
  · have slot := second.slot (second.slot_active.mpr outlasts)
    refine InStep.admits (before.apart.starts second outlasts alone)
      (i := (requestBinding m req g.sessions).slot) (second.slot_active.mpr outlasts) ?_
      (fun mac given => ?_) real (fun j elsewhere active nonzero =>
        (others j elsewhere active nonzero).1) (second.blank before.blank)
      (fun nonzero => ?_) (fun nonzero => ?_)
    · rw [slot, boundSession_ip]
    · rw [slot, boundSession_mac, boundMac, Option.mem_def.mp given, Option.getD_some]
    · exact HasRoom.swept second (unchanged nonzero ▸ (room nonzero).1)
    · have same := unchanged nonzero
      subst same
      exact TakesNoMac.swept inStep second nonzero outlasts (room nonzero).2
  · -- The bound session has gone with the sweep, and the client is admitted without one.
    have gone : ∀ j, (mid.sessions j).active = true →
        j ≠ (requestBinding m req g.sessions).slot := by
      rintro j active rfl
      exact outlasts (second.slot_active.mp active)
    refine ⟨before.apart.mono fun j active => ?_, fun j active nonzero => ?_,
      (second.blank before.blank).admits _ _⟩
    · obtain ⟨-, live, same⟩ := second.other (gone j active) active
      obtain ⟨searched, source⟩ := dropped_active live
      rw [searched] at live source
      rw [same, ← source]
      exact ⟨live, rfl, rfl⟩
    · obtain ⟨⟨e, owns⟩, elsewhere, other⟩ := others j (gone j active) active nonzero
      by_cases zero : req.ip = 0
      · rw [zero, clientAclAdmit, if_pos rfl]
        exact ⟨e, owns⟩
      · exact ⟨e, owns.admits (elsewhere zero) other⟩

/-- A session moved to an address that no other has, and admitted there. -/
theorem InStep.moves {sessions : SessionTable} {acl : Acl} {i : Fin maxClients}
    {session : ClientSession} {mac : Mac} (apart : Apart sessions)
    (active : (sessions i).active = true) (live : session.active = true)
    (same : session.mac = (sessions i).mac) (carries : session.mac = mac) (real : mac ≠ 0)
    (alone : ∀ j, j ≠ i → (sessions j).active = true → (sessions j).ipAddr ≠ session.ipAddr)
    (others : ∀ j, j ≠ i → (sessions j).active = true → (sessions j).ipAddr ≠ 0 →
      ∃ e, Owns (sessions j) (acl e))
    (blank : Blank acl) (room : HasRoom acl session.ipAddr (some mac) (fun _ => False)) :
    InStep ⟨Function.update sessions i session,
      clientAclAdmit session.ipAddr (some mac) acl⟩ := by
  have elsewhere : ∀ {j}, j ≠ i → Function.update sessions i session j = sessions j :=
    fun other => Function.update_of_ne other _ _
  have here : Function.update sessions i session i = session := Function.update_self _ _ _
  refine InStep.admits (i := i) ?_ (by rwa [here]) (by rw [here]) ?_ (by simpa using real)
    (fun j other => ?_) blank (fun _ => room) (fun _ none => by simp at none)
  · refine apart.bind (i := i) (fun j other activeJ => ?_) (fun j other activeJ => ?_)
    · rw [elsewhere other] at activeJ ⊢
      exact ⟨activeJ, rfl, rfl⟩
    · rw [elsewhere other] at activeJ ⊢
      rw [here]
      refine ⟨fun _ => alone j other activeJ, fun nonzero equal => other ?_⟩
      exact apart.mac j i activeJ active (equal ▸ nonzero) (equal.trans same)
  · rw [here]
    rintro m given
    exact carries.trans (Option.some.inj given)
  · rw [elsewhere other]
    exact others j other

/-- A lease first takes the entries at the old address away. -/
theorem InStep.assigns {sessions : SessionTable} {acl : Acl} (inStep : InStep ⟨sessions, acl⟩)
    {i : Fin maxClients} {mac : Mac} {ip : IpAddr} (active : (sessions i).active = true)
    (same : (sessions i).mac = mac) (real : mac ≠ 0)
    (alone : ∀ j, j ≠ i → (sessions j).active = true → (sessions j).ipAddr ≠ ip)
    (room : (sessions i).ipAddr = 0 → HasRoom acl ip (some mac) (fun _ => False)) :
    InStep ⟨Function.update sessions i { sessions i with ipAddr := ip, admitted := true },
      clientAclAdmit ip (some mac)
        (if (sessions i).ipAddr ≠ ip ∧ (sessions i).ipAddr ≠ 0 then
          clientAclRevokeByIp (sessions i).ipAddr acl
        else acl)⟩ := by
  have owned := inStep.owns i active
  dsimp only at owned
  split
  · rename_i moves
    refine InStep.moves inStep.apart active active rfl same real alone ?_ ?_ ?_
    · intro j other activeJ nonzero
      obtain ⟨e, owns⟩ := inStep.owns j activeJ nonzero
      refine ⟨e, ?_⟩
      rwa [revokeByIp_other]
      intro address
      exact other (inStep.apart.ip j i activeJ active nonzero (owns.2.1.symm.trans address))
    · intro e free
      rcases revokeByIp_cases (sessions i).ipAddr acl e with kept | cleared
      · rw [kept] at free ⊢
        exact inStep.blank e free
      · rw [cleared]
        rfl
    · obtain ⟨e, owns⟩ := owned moves.2
      refine ⟨e, Or.inl ?_⟩
      by_contra used
      exact (revokeByIp_used (by simpa using used)).2 moves.2 owns.2.1
  · rename_i stays
    refine InStep.moves inStep.apart active active rfl same real alone
      (fun j _ activeJ nonzero => inStep.owns j activeJ nonzero) inStep.blank ?_
    rcases eq_or_ne (sessions i).ipAddr 0 with unbound | nonzero
    · exact room unbound
    · obtain ⟨e, owns⟩ := owned nonzero
      have here : (sessions i).ipAddr = ip := by
        by_contra moves
        exact stays ⟨moves, nonzero⟩
      exact ⟨e, Or.inr (Or.inl (owns.2.1.trans here))⟩

/-! ## Runs -/

theorem InStep.step {p : Platform} {input : Input} {s : Server} (timed : Timed s.sessions)
    (inStep : InStep s.gate) (admits : StepAdmits p input s) :
    InStep (stepInput p input s).gate := by
  have effect := step_effect p input.1 input.2 timed
  change InStep (Session.step p input.1 input.2 s).gate
  generalize (Session.step p input.1 input.2 s).gate = g' at effect ⊢
  cases effect with
  | ends ended gone => exact inStep.ends gone
  | starts req request binds mid effect last =>
    have fits := admits.1 req request
    cases last with
    | found same =>
      rw [same]
      exact inStep.starts effect binds fits
    | moves i mac nonzero finished _ named active own =>
      -- The other session of the client's MAC does not share it with the one bound.
      have elsewhere : i ≠ (requestBinding input.1 req s.gate.sessions).slot := fun here =>
        finished (effect.slot_active.mp (here ▸ active))
      obtain ⟨running, live, alike⟩ := effect.other elsewhere active
      have source := (dropped_active live).2
      have apart := ((fits.2 binds).1 i elsewhere live (source ▸ running)).2
      rw [source, boundMac, named, Option.getD_some] at apart
      rw [alike] at own
      refine absurd own (apart fun zero => fits.1 ?_)
      rw [named, zero]
  | rebinds i mac ip rebound result =>
    obtain ⟨active, same, -, -, unknown⟩ := reboundSession_spec rebound
    obtain ⟨real, room⟩ := admits.2.1 _ rebound
    rw [result]
    exact @InStep.moves _ _ _ { s.sessions i with ipAddr := ip } _ inStep.apart active active
      rfl same real (fun j _ activeJ => unknown j activeJ (timed j activeJ).1)
      (fun j _ activeJ nonzero => inStep.owns j activeJ nonzero) inStep.blank room
  | assigns i mac ip mid assigned result gone =>
    obtain ⟨active, same, -, real, -⟩ := assignedSession_spec assigned
    obtain ⟨alone, room⟩ := admits.2.2 _ assigned
    refine InStep.ends ?_ gone
    rw [result]
    exact InStep.assigns inStep active same real alone room

theorem inStep_init (boot : Nat) : InStep (initSessions boot).gate := by
  refine ⟨⟨?_, ?_⟩, ?_, ?_⟩ <;>
    simp [Server.gate, initSessions, clientAclInit, AclEntry.zero, ClientSession.zero, Blank]

/-- In every run whose steps bind sessions apart and find room in the ACL, every live session
    with an address is admitted. -/
theorem live_sessions_admitted (p : Platform) (boot : Nat) (inputs : List Input)
    (admits : Runs.Guarded (stepInput p) (StepAdmits p) (initSessions boot) inputs) (now : Nat) :
    LiveAdmitted now (serverAfter p boot inputs) := by
  obtain ⟨-, inStep⟩ := Runs.run_invariant
    (fun s : Server => Timed s.sessions ∧ InStep s.gate)
    ⟨timed_init boot, inStep_init boot⟩
    (fun input s ⟨timed, inStep⟩ admits => ⟨timed.step, inStep.step timed admits⟩) admits
  intro i active _ _ nonzero
  obtain ⟨e, owns⟩ := inStep.owns i active nonzero
  exact clientAclIsAdmitted_iff.mpr ⟨nonzero, e, owns.1, owns.2.1⟩

/-! ## A lease of an expired session -/

/-- Two devices start sessions, and the second is given another address. -/
theorem live_sessions_admitted_lease :
    LiveAdmitted 2000000 (serverAfter somePlatform 1
      [deviceStarts 1, deviceStarts 2,
        (secondsIn 1, .clientIpAssigned 2 7)]) := by
  refine live_sessions_admitted somePlatform 1 _ ?_ 2000000
  exact ⟨by decide +kernel, by decide +kernel, by decide +kernel, trivial⟩

/-- A device has the address of one whose hour is over: `handle_client_ip_assigned` admits it
    before the refresh, which ends the old session and revokes the address. -/
theorem live_session_not_admitted :
    ¬ ∀ (p : Platform) (boot : Nat) (inputs : List Input),
      ∀ input ∈ inputs.getLast?, LiveAdmitted input.1.now (serverAfter p boot inputs) := by
  intro claim
  have live := claim somePlatform 1
    [(secondsIn 0, .startOrResume ⟨7, some 1, none, none, 3600⟩),
      (secondsIn 600, .startOrResume ⟨8, some 2, none, none, 3600⟩),
      (secondsIn 3601, .clientIpAssigned 2 7)] _ rfl
  revert live
  decide +kernel

end SolarConnect.Session
