import SolarConnect.Session.Bystanders

/-!
# One session for each MAC

The lookups by MAC stop at the first active session that carries it. No two active sessions
carry the same one: a binding that goes by MAC rewrites the session of that MAC, one that goes
by address gives the session no MAC that another has, and one that goes by token is excluded as
long as the token generator repeats no token that is in use.
-/

namespace SolarConnect.Session

open Slots ClientAcl

/-- The sessions carry the same MAC. -/
def SharesMac (a b : ClientSession) : Prop :=
  a.mac ≠ 0 ∧ a.mac = b.mac

instance (a b : ClientSession) : Decidable (SharesMac a b) := by
  unfold SharesMac
  infer_instance

/-- No two active sessions carry the same MAC. -/
def OnePerMac (sessions : SessionTable) : Prop :=
  Separate (fun session => session.active = true) SharesMac sessions

instance (sessions : SessionTable) : Decidable (OnePerMac sessions) := by
  unfold OnePerMac Separate
  infer_instance

/-- Every active session is admitted. -/
def AllAdmitted (sessions : SessionTable) : Prop :=
  ∀ i, (sessions i).active = true → (sessions i).admitted = true

instance (sessions : SessionTable) : Decidable (AllAdmitted sessions) := by
  unfold AllAdmitted
  infer_instance

/-- The token an operation starts a session with, which `generate_session_token` has made for
    `/confirm` and for `handle_client_connect`, is that of no active session. -/
def UnusedToken (p : Platform) (input : Input) (s : Server) : Prop :=
  ∀ req ∈ requestOf p input.1 input.2 s, ∀ i, (s.sessions i).active = true →
    (s.sessions i).token ≠ [] → req.token ≠ some (s.sessions i).token

instance (p : Platform) (input : Input) (s : Server) : Decidable (UnusedToken p input s) :=
  Option.decidableForallMem _

/-! ## Lookups -/

/-- The lookup by MAC finds the session that carries it. -/
theorem OnePerMac.findByMac {sessions : SessionTable} (one : OnePerMac sessions)
    {i : Fin maxClients} (active : (sessions i).active = true) (real : (sessions i).mac ≠ 0) :
    findSessionIndexByMac sessions (some (sessions i).mac) = some i := by
  have found : (findSessionIndexByMac sessions (some (sessions i).mac)).isSome = true :=
    firstSlot_isSome_iff.mpr ⟨i, by simp [active]⟩
  obtain ⟨k, first⟩ := Option.isSome_iff_exists.mp found
  have passes := firstSlot_passes first
  simp only [Bool.and_eq_true, beq_iff_eq] at passes
  rw [first, one i k active passes.1 ⟨real, passes.2.symm⟩]

/-- A token that no active session has finds none. -/
theorem findByToken_unused {sessions : SessionTable} {token : Option CString}
    (unused : ∀ i, (sessions i).active = true → (sessions i).token ≠ [] →
      token ≠ some (sessions i).token) : findSessionIndexByToken sessions token = none := by
  cases token with
  | none => rfl
  | some token =>
    unfold findSessionIndexByToken
    dsimp only
    split
    · rfl
    rename_i given
    refine firstSlot_eq_none_iff.mpr fun i => ?_
    by_contra passes
    simp only [Bool.not_eq_false, Bool.and_eq_true, beq_iff_eq] at passes
    exact unused i passes.1 (passes.2 ▸ given) (congrArg some passes.2.symm)

/-! ## One step -/

theorem OnePerMac.ends {ended : Fin maxClients → Prop} {g g' : Gate}
    (one : OnePerMac g.sessions) (ends : Ends ended g g') : OnePerMac g'.sessions := by
  intro i j activeI activeJ shares
  obtain ⟨-, beforeI, sameI⟩ := ends.survivor activeI
  obtain ⟨-, beforeJ, sameJ⟩ := ends.survivor activeJ
  rw [sameI, sameJ] at shares
  exact one i j beforeI beforeJ shares

/-- Writing a slot without changing its MAC. -/
theorem OnePerMac.write {sessions : SessionTable} (one : OnePerMac sessions)
    {i : Fin maxClients} {session : ClientSession} (active : session.active = (sessions i).active)
    (mac : session.mac = (sessions i).mac) : OnePerMac (Function.update sessions i session) := by
  have same : ∀ j, (Function.update sessions i session j).active = (sessions j).active ∧
      (Function.update sessions i session j).mac = (sessions j).mac := by
    intro j
    rcases eq_or_ne j i with rfl | other
    · rw [Function.update_self]
      exact ⟨active, mac⟩
    · rw [Function.update_of_ne other]
      exact ⟨rfl, rfl⟩
  intro j k activeJ activeK shares
  rw [(same j).1] at activeJ
  rw [(same k).1] at activeK
  rw [SharesMac, (same j).2, (same k).2] at shares
  exact one j k activeJ activeK shares

/-- The sessions left once the slot has been found. -/
theorem OnePerMac.dropped {m : Clocks} {req : StartRequest} {sessions : SessionTable}
    (one : OnePerMac sessions) : OnePerMac (requestBinding m req sessions).dropped :=
  Separate.mono one fun _ active => (dropped_active active).2

/-- Without a session to reuse, the one that carries the requested MAC is rewritten. -/
theorem OnePerMac.slotToWrite {table : SessionTable} (one : OnePerMac table) {req : StartRequest}
    (previous : Option (Fin maxClients)) {j : Fin maxClients} (active : (table j).active = true)
    (real : (table j).mac ≠ 0) (requested : req.mac = some (table j).mac) :
    Session.slotToWrite req previous table = j := by
  simp only [Session.slotToWrite, requested, Option.isSome_some, if_true, one.findByMac active real,
    Option.some_or]

/-- The session found for an address carries the MAC that the bound one gets, or no session
    does. -/
theorem OnePerMac.foundByClient {table : SessionTable} (one : OnePerMac table)
    {req : StartRequest} {i j : Fin maxClients} (found : Session.foundByClient req table = some i)
    (active : (table j).active = true) (real : (table j).mac ≠ 0)
    (same : (table j).mac = req.mac.getD (table i).mac) : j = i := by
  cases named : req.mac with
  | some mac =>
    rw [named, Option.getD_some] at same
    rw [Session.foundByClient, named, ← same, one.findByMac active real, Option.some_or] at found
    exact Option.some_inj.mp found
  | none =>
    rw [named, Option.getD_none] at same
    rw [Session.foundByClient, named] at found
    have passes := firstSlot_passes found
    simp only [Bool.and_eq_true, beq_iff_eq] at passes
    exact one j i active passes.1 ⟨real, same⟩

/-- No session in another slot carries the MAC of the one bound. -/
theorem OnePerMac.alone {m : Clocks} {req : StartRequest} {sessions : SessionTable}
    (one : OnePerMac sessions)
    (unused : ∀ i, (sessions i).active = true → (sessions i).token ≠ [] →
      req.token ≠ some (sessions i).token) {j : Fin maxClients}
    (active : ((requestBinding m req sessions).dropped j).active = true)
    (real : ((requestBinding m req sessions).dropped j).mac ≠ 0)
    (same : ((requestBinding m req sessions).dropped j).mac =
      boundMac req (requestBinding m req sessions)) :
    j = (requestBinding m req sessions).slot := by
  unfold boundMac at same
  cases reuse : (requestBinding m req sessions).reuse with
  | true =>
    obtain ⟨searched, found⟩ := requestBinding_reuse reuse
    rw [reuse, if_pos rfl, searched] at same
    rw [searched] at active real
    rw [foundSession] at found
    split at found
    · -- A refresh only takes sessions away, so the token is unused after it as well.
      rw [findByToken_unused] at found
      · cases found
      · intro k live
        have source := searchedTable_active live
        rw [source] at live ⊢
        exact unused k live
    · have left : OnePerMac (searchedTable m req sessions) :=
        Separate.mono one fun _ active => searchedTable_active active
      exact left.foundByClient found active real same
  | false =>
    obtain ⟨previous, written⟩ := requestBinding_new reuse
    rw [reuse, if_neg (by simp)] at same
    rw [written]
    cases named : req.mac with
    | none => exact absurd (by rw [same, named, Option.getD_none]) real
    | some mac =>
      rw [named, Option.getD_some] at same
      exact (one.dropped.slotToWrite previous active real (by rw [named, same])).symm

theorem OnePerMac.starts {m : Clocks} {req : StartRequest} {g g' : Gate}
    (one : OnePerMac g.sessions)
    (unused : ∀ i, (g.sessions i).active = true → (g.sessions i).token ≠ [] →
      req.token ≠ some (g.sessions i).token)
    (effect : StartEffect m req g g') : OnePerMac g'.sessions := by
  obtain ⟨dayId, opened, mid, first, second, rfl⟩ := effect
  change OnePerMac mid.sessions
  refine OnePerMac.ends ?_ second
  apply Separate.update one.dropped
  · rintro a b ⟨real, same⟩
    exact ⟨same ▸ real, same.symm⟩
  · rintro j elsewhere active ⟨real, same⟩
    rw [boundSession_mac] at same
    exact elsewhere (one.alone unused active real same)

/-- Every operation keeps the MACs apart. -/
theorem OnePerMac.step {p : Platform} {input : Input} {s : Server} (timed : Timed s.sessions)
    (one : OnePerMac s.sessions) (unused : UnusedToken p input s) :
    OnePerMac (stepInput p input s).sessions := by
  have effect := step_effect p input.1 input.2 timed
  change OnePerMac (Session.step p input.1 input.2 s).gate.sessions
  generalize (Session.step p input.1 input.2 s).gate = g' at effect ⊢
  cases effect with
  | ends ended gone => exact OnePerMac.ends (g := s.gate) one gone
  | starts req request binds mid effect last =>
    have started : OnePerMac mid.sessions :=
      OnePerMac.starts (g := s.gate) one (unused req request) effect
    cases last with
    | found same => exact same ▸ started
    | moves i mac _ _ _ _ _ _ _ result =>
      rw [result]
      exact started.write rfl rfl
  | rebinds i mac ip rebound result =>
    rw [result]
    exact one.write rfl rfl
  | assigns i mac ip mid assigned result gone =>
    refine OnePerMac.ends ?_ gone
    rw [result]
    exact one.write rfl rfl

/-! ## Runs -/

theorem onePerMac_init (boot : Nat) : OnePerMac (initSessions boot).sessions := by
  intro i j active
  simp [initSessions, ClientSession.zero] at active

/-- In every run in which no session is started with the token of an active one, no two active
    sessions carry the same MAC, and every active session is admitted. -/
theorem one_session_per_mac (p : Platform) (boot : Nat) (inputs : List Input)
    (unused : Runs.Guarded (stepInput p) (UnusedToken p) (initSessions boot) inputs) :
    OnePerMac (serverAfter p boot inputs).sessions ∧
      AllAdmitted (serverAfter p boot inputs).sessions := by
  obtain ⟨timed, one⟩ := Runs.run_invariant
    (fun s : Server => Timed s.sessions ∧ OnePerMac s.sessions)
    ⟨timed_init boot, onePerMac_init boot⟩
    (fun input s ⟨timed, one⟩ unused => ⟨timed.step, one.step timed unused⟩) unused
  exact ⟨one, fun i active => (timed i active).1⟩

/-- Both stations confirm; the second one reconnects, is given a lease, and is looked up at its
    first address; the first one leaves and comes back. -/
def twoStationsComeAndGo : List Input :=
  [(secondsIn 0, .confirm (twoStations true) (fun _ => 0) 1),
    (secondsIn 60, .confirm (twoStations true) (fun _ => 1) 2),
    (secondsIn 119, .heartbeat ⟨1, by decide⟩),
    (secondsIn 120, .clientConnect (twoStations true) (fun _ => 2) 2),
    (secondsIn 121, .clientIpAssigned 2 3),
    (secondsIn 130, .getRemaining (twoStations true) 2),
    (secondsIn 140, .clientDisconnect (twoStations true) 1),
    (secondsIn 150, .refresh),
    (secondsIn 160, .confirm (twoStations true) (fun _ => 3) 1)]

set_option maxRecDepth 100000 in
theorem one_session_per_mac_two_stations :
    OnePerMac (serverAfter somePlatform 1 twoStationsComeAndGo).sessions ∧
      AllAdmitted (serverAfter somePlatform 1 twoStationsComeAndGo).sessions :=
  one_session_per_mac somePlatform 1 twoStationsComeAndGo
    ⟨by decide +kernel, by decide +kernel, by decide +kernel, by decide +kernel,
      by decide +kernel, by decide +kernel, by decide +kernel, by decide +kernel,
      by decide +kernel, trivial⟩

/-- Without fresh tokens the MACs do not stay apart: the second station connects again with the
    token of the first, and takes over its session beside its own. -/
example : ¬ OnePerMac (serverAfter somePlatform 1
    [(secondsIn 0, .confirm (twoStations true) (fun _ => 0) 1),
      (secondsIn 60, .confirm (twoStations true) (fun _ => 1) 2),
      (secondsIn 120, .heartbeat ⟨1, by decide⟩),
      (secondsIn 180, .clientConnect (twoStations true) (fun _ => 0) 2)]).sessions := by
  decide +kernel

end SolarConnect.Session
