import SolarConnect.Session.Admission

/-!
# Whom a confirmation touches

`/confirm` binds a session to the client's address and admits it. The MAC it takes for the
client's may be another station's, the session it finds may be another client's, and the sweep
and the admission work on ACL entries that others use. A bystander, a running session of
another device, is left alone exactly when none of this meets it.
-/

namespace SolarConnect.Session

open Slots ClientAcl

/-- A running session of a device other than the one with this MAC. -/
def Bystander (now : Nat) (requester : Mac) (session : ClientSession) : Prop :=
  session.active = true ∧ now < session.endTime ∧ session.mac ≠ 0 ∧ session.mac ≠ requester

instance (now : Nat) (requester : Mac) (session : ClientSession) :
    Decidable (Bystander now requester session) := by
  unfold Bystander
  infer_instance

/-- The session is where it was, whose it was, and as long as it was. -/
def Undisturbed (before after : ClientSession) : Prop :=
  after.active = true ∧ after.ipAddr = before.ipAddr ∧ after.mac = before.mac ∧
    after.startTime = before.startTime ∧ after.endTime = before.endTime ∧
    after.admitted = before.admitted

instance (before after : ClientSession) : Decidable (Undisturbed before after) := by
  unfold Undisturbed
  infer_instance

/-- From `g` to `g'` no bystander is disturbed or loses its admission. -/
def TouchesOnly (now : Nat) (requester : Mac) (g g' : Gate) : Prop :=
  ∀ i, Bystander now requester (g.sessions i) →
    Undisturbed (g.sessions i) (g'.sessions i) ∧
      (clientAclIsAdmitted g.acl (g.sessions i).ipAddr = true →
        clientAclIsAdmitted g'.acl (g.sessions i).ipAddr = true)

instance (now : Nat) (requester : Mac) (g g' : Gate) :
    Decidable (TouchesOnly now requester g g') := by
  unfold TouchesOnly
  infer_instance

/-! ## The condition -/

/-- The session found for the request, if it is this one, is at the client's address, keeps its
    MAC, and goes on, or was started just now for as long. -/
def SparesSession (m : Clocks) (req : StartRequest) (b : Binding) (i : Fin maxClients)
    (session : ClientSession) : Prop :=
  b.slot = i → session.ipAddr = req.ip ∧ session.mac = boundMac req b ∧
    (b.reuse = true ∨
      session.startTime = m.now ∧ session.endTime = m.now + req.duration * secondUs)

instance (m : Clocks) (req : StartRequest) (b : Binding) (i : Fin maxClients)
    (session : ClientSession) : Decidable (SparesSession m req b i session) := by
  unfold SparesSession
  infer_instance

/-- The session's address, if it is admitted, is the client's, or is held by an entry that
    does not carry the client's MAC and that no expired session takes with it. -/
def SparesAddress (m : Clocks) (req : StartRequest) (b : Binding) (acl : Acl)
    (session : ClientSession) : Prop :=
  clientAclIsAdmitted acl session.ipAddr = true → session.ipAddr = req.ip ∨
    ∃ e, (acl e).used = true ∧ (acl e).ip = session.ipAddr ∧
      macMatches (acl e) req.mac = false ∧ ¬ SweptAway m req b (acl e)

instance (m : Clocks) (req : StartRequest) (b : Binding) (acl : Acl) (session : ClientSession) :
    Decidable (SparesAddress m req b acl session) := by
  unfold SparesAddress
  infer_instance

/-- The request meets no bystander. -/
def RequestSpares (m : Clocks) (requester : Mac) (req : StartRequest) (g : Gate) : Prop :=
  let b := requestBinding m req g.sessions
  ∀ i, Bystander m.closed requester (g.sessions i) →
    SparesSession m req b i (g.sessions i) ∧ SparesAddress m req b g.acl (g.sessions i)

instance (m : Clocks) (requester : Mac) (req : StartRequest) (g : Gate) :
    Decidable (RequestSpares m requester req g) := by
  unfold RequestSpares
  infer_instance

/-! ## Entries carry distinct MACs -/

/-- No two entries in use carry one MAC. -/
def DistinctMacs (acl : Acl) : Prop :=
  ∀ mac e e', (acl e).used = true → (acl e').used = true →
    macMatches (acl e) (some mac) = true → macMatches (acl e') (some mac) = true → e = e'

/-- No entries share a MAC, one MAC at a time. -/
theorem distinctMacs_iff {acl : Acl} :
    DistinctMacs acl ↔ ∀ mac, Separate (fun entry : AclEntry => entry.used = true)
      (fun a b => macMatches a (some mac) = true ∧ macMatches b (some mac) = true) acl :=
  ⟨fun distinct mac e e' used used' ⟨carries, carries'⟩ =>
    distinct mac e e' used used' carries carries',
    fun separate mac e e' used used' carries carries' =>
      separate mac e e' used used' ⟨carries, carries'⟩⟩

/-- One entry carries what is passed for a MAC. -/
theorem DistinctMacs.carrier {acl : Acl} (distinct : DistinctMacs acl) {mac : Option Mac}
    {e e' : Fin aclMaxClients} (used : (acl e).used = true) (used' : (acl e').used = true)
    (carries : macMatches (acl e) mac = true) (carries' : macMatches (acl e') mac = true) :
    e = e' := by
  cases mac with
  | none => cases carries
  | some m => exact distinct m e e' used used' carries carries'

/-- Taking entries away keeps MACs distinct. -/
theorem DistinctMacs.mono {acl acl' : Acl} (distinct : DistinctMacs acl)
    (kept : ∀ e, (acl' e).used = true → acl' e = acl e) : DistinctMacs acl' := by
  rw [distinctMacs_iff] at distinct ⊢
  exact fun mac => (distinct mac).mono kept

/-- Writing an entry keeps MACs distinct if no other entry carries its MAC. -/
theorem DistinctMacs.write {acl : Acl} (distinct : DistinctMacs acl) {k : Fin aclMaxClients}
    {entry : AclEntry} (alone : ∀ mac, macMatches entry (some mac) = true → ∀ e, e ≠ k →
      (acl e).used = true → macMatches (acl e) (some mac) = false) :
    DistinctMacs (Function.update acl k entry) := by
  rw [distinctMacs_iff] at distinct ⊢
  intro mac
  refine (distinct mac).update (fun a b both => both.symm) ?_
  rintro e other used ⟨carries, written⟩
  rw [alone mac written e other used] at carries
  cases carries

/-- The MAC an entry carries once it has been written. -/
theorem macMatches_withMac {entry : AclEntry} {mac : Option Mac} {m : Mac}
    (carries : macMatches (entry.withMac mac) (some m) = true) :
    mac = some m ∨ mac = none ∧ macMatches entry (some m) = true := by
  cases mac with
  | none => exact Or.inr ⟨rfl, carries⟩
  | some r => exact Or.inl (congrArg some (macMatches_some.mp carries).2)

theorem DistinctMacs.admits {acl : Acl} (distinct : DistinctMacs acl) (blank : Blank acl)
    (ip : IpAddr) (mac : Option Mac) : DistinctMacs (clientAclAdmit ip mac acl) := by
  have own : ∀ (k : Fin aclMaxClients) (m : Mac), (acl k).used = true →
      macMatches (acl k) (some m) = true → ∀ e, e ≠ k → (acl e).used = true →
        macMatches (acl e) (some m) = false := by
    intro k m used carries e other usedE
    by_contra carriesE
    exact other (distinct m e k usedE used (by simpa using carriesE) carries)
  have effect := clientAclAdmit_effect ip mac acl
  generalize clientAclAdmit ip mac acl = after at effect ⊢
  cases effect with
  | zeroIp | full => exact distinct
  | moved k _ used => exact distinct.write fun m carries => own k m used carries
  | relabelled k _ unmatched used =>
    refine distinct.write fun m carries e other usedE => ?_
    rcases macMatches_withMac carries with rfl | ⟨-, carries⟩
    · exact unmatched e usedE
    · exact own k m used carries e other usedE
  | inserted k _ unmatched _ free =>
    refine distinct.write fun m carries e other usedE => ?_
    rcases macMatches_withMac carries with rfl | ⟨-, carries⟩
    · exact unmatched e usedE
    · rw [macMatches_some] at carries
      simp [blank k free] at carries

/-- What holds of the ACL in every state. -/
structure AclOk (acl : Acl) : Prop where
  blank : Blank acl
  distinct : DistinctMacs acl

theorem AclOk.ends {ended : Fin maxClients → Prop} {g g' : Gate} (ok : AclOk g.acl)
    (ends : Ends ended g g') : AclOk g'.acl :=
  ⟨ends.blank ok.blank, ok.distinct.mono fun _ used => (ends.entry used).1⟩

theorem AclOk.sweeps {m : Clocks} {dayId : Nat} {req : StartRequest} {sessions : SessionTable}
    {acl : Acl} {mid : Gate} (ok : AclOk acl)
    (sweeps : SweepsBound m dayId req sessions acl mid) : AclOk mid.acl := by
  refine AclOk.ends ?_ sweeps
  exact ok

theorem AclOk.admits {acl : Acl} (ok : AclOk acl) (ip : IpAddr) (mac : Option Mac) :
    AclOk (clientAclAdmit ip mac acl) :=
  ⟨ok.blank.admits ip mac, ok.distinct.admits ok.blank ip mac⟩

theorem AclOk.revokeByIp {acl : Acl} (ok : AclOk acl) (ip : IpAddr) :
    AclOk (clientAclRevokeByIp ip acl) := by
  refine ⟨fun e free => ?_, ok.distinct.mono fun e used => (revokeByIp_used used).1⟩
  rcases revokeByIp_cases ip acl e with kept | cleared
  · rw [kept] at free ⊢
    exact ok.blank e free
  · rw [cleared]
    rfl

theorem AclOk.step {p : Platform} {input : Input} {s : Server} (timed : Timed s.sessions)
    (ok : AclOk s.acl) : AclOk (stepInput p input s).acl := by
  have effect := step_effect p input.1 input.2 timed
  change AclOk (Session.step p input.1 input.2 s).gate.acl
  generalize (Session.step p input.1 input.2 s).gate = g' at effect ⊢
  cases effect with
  | ends ended gone => exact AclOk.ends (g := s.gate) ok gone
  | starts req request binds mid effect last =>
    rw [last.acl]
    obtain ⟨dayId, opened, swept, first, second, rfl⟩ := effect
    have before := AclOk.ends (g := s.gate) ok first
    exact (AclOk.sweeps before second).admits _ _
  | rebinds i mac ip rebound result =>
    rw [result]
    exact ok.admits _ _
  | assigns i mac ip mid assigned result gone =>
    refine AclOk.ends (g := mid) ?_ gone
    rw [result]
    refine AclOk.admits ?_ _ _
    split
    · exact ok.revokeByIp _
    · exact ok

theorem aclOk_init (boot : Nat) : AclOk (initSessions boot).acl := by
  constructor <;> simp [initSessions, clientAclInit, AclEntry.zero, Blank, DistinctMacs]

/-- Every reachable state. -/
theorem serverAfter_ok (p : Platform) (boot : Nat) (inputs : List Input) :
    Timed (serverAfter p boot inputs).sessions ∧ AclOk (serverAfter p boot inputs).acl :=
  Runs.run_invariant_always (fun s : Server => Timed s.sessions ∧ AclOk s.acl) inputs
    ⟨timed_init boot, aclOk_init boot⟩
    fun _ _ ⟨timed, ok⟩ => ⟨timed.step, AclOk.step timed ok⟩

/-! ## The admission of another address -/

/-- After an admission another address is admitted if an entry holds it that does not carry
    the admitted MAC. -/
theorem isAdmitted_admit_other {acl : Acl} (ok : AclOk acl) {ip other : IpAddr}
    {mac : Option Mac} (nonzero : ip ≠ 0) (elsewhere : other ≠ ip) :
    clientAclIsAdmitted (clientAclAdmit ip mac acl) other = true ↔
      other ≠ 0 ∧ ∃ e, (acl e).used = true ∧ (acl e).ip = other ∧
        macMatches (acl e) mac = false := by
  rw [clientAclIsAdmitted_iff]
  refine and_congr_right fun _ => ?_
  have effect := clientAclAdmit_effect ip mac acl
  generalize clientAclAdmit ip mac acl = after at effect ⊢
  cases effect with
  | zeroIp zero => exact absurd zero nonzero
  | full _ unmatched =>
    exact exists_congr fun e =>
      ⟨fun ⟨used, here⟩ => ⟨used, here, unmatched e used⟩, fun ⟨used, here, _⟩ => ⟨used, here⟩⟩
  | moved k _ used matched =>
    refine exists_congr fun e => ?_
    rcases eq_or_ne e k with rfl | apart
    · simp [matched, elsewhere.symm]
    · rw [Function.update_of_ne apart]
      refine and_congr_right fun usedE => (and_iff_left ?_).symm
      cases mac with
      | none => rfl
      | some m =>
        by_contra carries
        exact apart (ok.distinct m e k usedE used (by simpa using carries) matched)
  | relabelled k _ unmatched used here =>
    refine exists_congr fun e => ?_
    rcases eq_or_ne e k with rfl | apart
    · simp [used, unmatched e used]
    · rw [Function.update_of_ne apart]
      exact and_congr_right fun usedE => (and_iff_left (unmatched e usedE)).symm
  | inserted k _ unmatched _ free =>
    refine exists_congr fun e => ?_
    rcases eq_or_ne e k with rfl | apart
    · simp [free, elsewhere.symm]
    · rw [Function.update_of_ne apart]
      exact and_congr_right fun usedE => (and_iff_left (unmatched e usedE)).symm

/-! ## A request and the bystanders -/

/-- The entries in use after the sweep of a start. -/
theorem SweepsBound.used_iff {m : Clocks} {dayId : Nat} {req : StartRequest}
    {sessions : SessionTable} {acl : Acl} {mid : Gate}
    (sweeps : SweepsBound m dayId req sessions acl mid) (e : Fin aclMaxClients) :
    (mid.acl e).used = true ↔
      (acl e).used = true ∧ ¬ SweptAway m req (requestBinding m req sessions) (acl e) := by
  obtain ⟨spared, revoked⟩ := sweeps.spared_iff e
  constructor
  · intro used
    have kept : mid.acl e = acl e := (Ends.entry sweeps used).1
    refine ⟨kept ▸ used, fun swept => ?_⟩
    rw [revoked swept] at used
    cases used
  · rintro ⟨used, stays⟩
    rwa [spared stays]

/-- An admitted address stays admitted through a start, unless every entry that holds it moves
    to the client or is swept away. -/
theorem StartEffect.isAdmitted_iff {m : Clocks} {req : StartRequest} {g g' : Gate}
    (effect : StartEffect m req g g') (ok : AclOk g.acl) (nonzero : req.ip ≠ 0) {address : IpAddr}
    (before : clientAclIsAdmitted g.acl address = true) :
    clientAclIsAdmitted g'.acl address = true ↔ address = req.ip ∨
      ∃ e, (g.acl e).used = true ∧ (g.acl e).ip = address ∧
        macMatches (g.acl e) req.mac = false ∧
          ¬ SweptAway m req (requestBinding m req g.sessions) (g.acl e) := by
  obtain ⟨dayId, opened, mid, first, second, rfl⟩ := effect
  have unchanged : opened = g.acl :=
    funext fun e => first.spared e fun j ⟨zero, _⟩ => absurd zero nonzero
  subst unchanged
  have used_iff := second.used_iff
  have kept : ∀ {e}, (mid.acl e).used = true → mid.acl e = g.acl e := fun used =>
    (Ends.entry second used).1
  obtain ⟨real, e, used, here⟩ := clientAclIsAdmitted_iff.mp before
  dsimp only
  by_cases own : address = req.ip
  · subst own
    refine ⟨fun _ => Or.inl rfl, fun _ => clientAclAdmit_admits real ?_⟩
    cases still : (mid.acl e).used with
    | false => exact Or.inr (Or.inr ⟨e, still⟩)
    | true =>
      left
      exact clientAclIsAdmitted_iff.mpr ⟨real, e, still, (kept still).symm ▸ here⟩
  · rw [isAdmitted_admit_other (ok.sweeps second) nonzero own, or_iff_right own]
    constructor
    · rintro ⟨-, f, usedF, hereF, free⟩
      obtain ⟨usedF', stays⟩ := (used_iff f).mp usedF
      rw [kept usedF] at hereF free
      exact ⟨f, usedF', hereF, free, stays⟩
    · rintro ⟨f, usedF, hereF, free, stays⟩
      have usedF' := (used_iff f).mpr ⟨usedF, stays⟩
      rw [← kept usedF'] at hereF free
      exact ⟨real, f, usedF', hereF, free⟩

/-- A bystander's session comes through a start undisturbed exactly when the request spares
    it. -/
theorem StartEffect.undisturbed_iff {m : Clocks} {req : StartRequest} {g g' : Gate}
    (effect : StartEffect m req g g') (timed : Timed g.sessions) (nonzero : req.ip ≠ 0)
    {i : Fin maxClients} (active : (g.sessions i).active = true)
    (running : m.closed < (g.sessions i).endTime) :
    Undisturbed (g.sessions i) (g'.sessions i) ↔
      SparesSession m req (requestBinding m req g.sessions) i (g.sessions i) := by
  have searched : searchedTable m req g.sessions = g.sessions := if_neg nonzero
  have admitted := (timed i active).1
  by_cases here : (requestBinding m req g.sessions).slot = i
  · -- The session that takes the bystander's place is over only if it ends at another time.
    by_cases outlasts : Outlasts m req g.sessions
    · obtain ⟨dayId, same⟩ := effect.slot (effect.slot_active.mpr outlasts)
      rw [here] at same
      have live := (boundSession_running m dayId req g.sessions).1
      rw [Undisturbed, same]
      simp only [live, boundSession_ip, boundSession_mac, boundSession_admitted, admitted,
        SparesSession, here, true_and, and_true, true_implies]
      rw [eq_comm (a := req.ip), eq_comm (b := (g.sessions i).mac)]
      refine and_congr_right fun _ => and_congr_right fun _ => ?_
      cases reuse : (requestBinding m req g.sessions).reuse with
      | true =>
        have table := (requestBinding_reuse reuse).1
        simp [boundSession, reuse, reusedSession, table, searched, here]
      | false =>
        simp only [boundSession, reuse, startedSession, Bool.false_eq_true, if_false, false_or]
        rw [eq_comm, eq_comm (b := (g.sessions i).endTime)]
    · refine iff_of_false (fun stays => ?_) fun spares => ?_
      · exact outlasts (effect.slot_active.mp (here ▸ stays.1))
      · obtain ⟨-, -, reuse | ⟨-, sameEnd⟩⟩ := spares here
        · rw [Outlasts, boundEnd, if_pos reuse, here] at outlasts
          exact outlasts running
        · rw [Outlasts, boundEnd] at outlasts
          split at outlasts
          · rw [here] at outlasts
            exact outlasts running
          · rw [← sameEnd] at outlasts
            exact outlasts running
  · have elsewhere : i ≠ (requestBinding m req g.sessions).slot := Ne.symm here
    obtain ⟨dayId, opened, mid, first, second, rfl⟩ := effect
    have same := second.kept elsewhere (by rw [searched]) active running
    refine iff_of_true ?_ fun slot => absurd slot here
    dsimp only
    rw [Undisturbed, same]
    exact ⟨active, rfl, rfl, rfl, rfl, rfl⟩

theorem StartEffect.touchesOnly_iff {m : Clocks} {req : StartRequest} {g g' : Gate}
    (effect : StartEffect m req g g') (timed : Timed g.sessions) (ok : AclOk g.acl)
    (nonzero : req.ip ≠ 0) (requester : Mac) :
    TouchesOnly m.closed requester g g' ↔ RequestSpares m requester req g := by
  refine forall_congr' fun i => forall_congr' fun ⟨active, running, _, _⟩ => and_congr ?_ ?_
  · exact effect.undisturbed_iff timed nonzero active running
  · exact forall_congr' fun before => effect.isAdmitted_iff ok nonzero before

/-- The lookup at the end moves a session of the requester's only. -/
theorem LooksUp.touchesOnly_iff {client : Option Mac} {m : Clocks} {req : StartRequest}
    {g mid g' : Gate} (last : LooksUp client m req g.sessions mid g')
    (effect : StartEffect m req g mid) {requester : Mac}
    (resolved : client = some requester ∨ client = none) :
    TouchesOnly m.closed requester g g' ↔ TouchesOnly m.closed requester g mid := by
  cases last with
  | found same => rw [same]
  | moves i mac nonzero finished known named active own alone result =>
    have mine : mac = requester := by
      rcases resolved with same | unknown
      · exact Option.some.inj (known.symm.trans same)
      · rw [unknown] at known
        cases known
    have elsewhere : i ≠ (requestBinding m req g.sessions).slot := fun here =>
      finished (effect.slot_active.mp (here ▸ active))
    obtain ⟨-, -, alike⟩ := effect.other elsewhere active
    rw [result]
    refine forall_congr' fun k => forall_congr' fun bystander => ?_
    have other : k ≠ i := by
      rintro rfl
      rw [alike] at own
      exact bystander.2.2.2 (own.trans mine)
    dsimp only
    rw [Function.update_of_ne other]

theorem touchesOnly_refl (now : Nat) (requester : Mac) (g : Gate) :
    TouchesOnly now requester g g :=
  fun _ ⟨active, _⟩ => ⟨⟨active, rfl, rfl, rfl, rfl, rfl⟩, id⟩

/-- In every reachable state a `/confirm` request of a station whose MAC is found by its address,
    or not at all, touches only the requester's session, if and only if the request it makes, if
    any, meets no bystander. -/
theorem confirm_touchesOnly_iff (p : Platform) (boot : Nat) (inputs : List Input) (m : Clocks)
    (ap : ApView) (random : Fin 16 → BitVec 8) {ip : IpAddr} (nonzero : ip ≠ 0)
    (requester : Mac)
    (resolved : getClientMacForIp ap ip = some requester ∨ getClientMacForIp ap ip = none) :
    let s := serverAfter p boot inputs
    TouchesOnly m.closed requester s.gate (step p m (.confirm ap random ip) s).gate ↔
      ∀ req ∈ requestOf p m (.confirm ap random ip) s, RequestSpares m requester req s.gate := by
  intro s
  obtain ⟨timed, ok⟩ : Timed s.sessions ∧ AclOk s.acl := serverAfter_ok p boot inputs
  cases request : requestOf p m (.confirm ap random ip) s with
  | none =>
    obtain ⟨t, looked, makes⟩ := confirm_books p m ap random ip timed
    have same : (step p m (.confirm ap random ip) s).gate = s.gate :=
      congrArg Prod.fst ((makes.of_none request).trans looked)
    refine iff_of_true ?_ fun req given => by simp at given
    rw [same]
    exact touchesOnly_refl _ _ _
  | some req =>
    have address : req.ip = ip := by
      obtain ⟨granted, -, rfl⟩ := Option.map_eq_some_iff.mp request
      rfl
    obtain ⟨mid, effect, last⟩ := step_starts timed request (Or.inl (address ▸ nonzero))
    simp only [Option.mem_some_iff, forall_eq']
    exact (last.touchesOnly_iff effect resolved).trans
      (effect.touchesOnly_iff timed ok (address ▸ nonzero) requester)

/-! ## Another station's MAC -/

/-- Two stations are connected, with `last_ap_client_mac` that of the first; the addresses are
    known to the DHCP server or not. -/
def twoStations (mapped : Bool) : ApView where
  staList := some [1, 2]
  dhcpsClients := if mapped then some fun mac => mac.setWidth 32 else none
  lastApClientMac := some 1
  apConnect := true
  connectCount := 2

/-- The second station confirms, and the MAC of its address is known. -/
theorem confirm_touchesOnly_iff_mapped :
    let s := serverAfter somePlatform 1 [deviceStarts 1]
    TouchesOnly 2000000 2 s.gate
      (step somePlatform (secondsIn 1)
        (.confirm (twoStations true) (fun _ => 0) 2) s).gate :=
  (confirm_touchesOnly_iff somePlatform 1 _ (secondsIn 1) (twoStations true)
    (fun _ => 0) (by decide) 2 (by decide)).mpr (by decide +kernel)

/-- The second station confirms while the DHCP lookup fails, and the session of the first,
    which associated last, moves to its address. -/
theorem confirm_touches_another :
    ¬ ∀ (p : Platform) (boot : Nat) (inputs : List Input) (m : Clocks) (ap : ApView)
      (random : Fin 16 → BitVec 8) (ip : IpAddr) (requester : Mac),
      ip ≠ 0 →
      (findFreeSessionSlot (serverAfter p boot inputs).sessions).isSome = true →
      (getClientMacForIp ap ip = some requester ∨ getClientMacForIp ap ip = none) →
        TouchesOnly m.closed requester (serverAfter p boot inputs).gate
          (step p m (.confirm ap random ip) (serverAfter p boot inputs)).gate := by
  intro claim
  have touches := claim somePlatform 1 [deviceStarts 1] (secondsIn 1)
    (twoStations false) (fun _ => 0) 2 2 (by decide) (by decide +kernel) (by decide)
  revert touches
  decide +kernel

end SolarConnect.Session
