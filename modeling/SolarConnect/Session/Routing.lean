import SolarConnect.Session.Access
import SolarConnect.Session.Bystanders

/-!
# Routing for granted sessions

`/confirm` and `handle_client_connect` enable NAPT before the session they grant exists: first
`ensure_napt_enabled`, then `start_or_resume_session`. Every refresh switches NAPT off when
nobody has access, and the tasks call the session functions in any order, so another task may do
that between the two calls of a flow.
-/

namespace SolarConnect.Session

open Slots

/-! ## The two calls of a flow -/

/-- `confirm_handler` up to `ensure_napt_enabled`: the request it goes on with. -/
def confirmEnsure (p : Platform) (m : Clocks) (ap : ApView) (random : Fin 16 → BitVec 8)
    (ip : IpAddr) (s : Server) : Option StartRequest × Server :=
  let mac := confirmMac ap ip
  let grant := confirmGrant m mac s
  let s := grant.2
  match grant.1 with
  | none => (none, s)
  | some granted =>
    if !ap.apConnect then (none, s)
    else
      let napt := ensureNaptEnabled p s
      if !napt.1 then (none, napt.2)
      else (some (confirmRequest p mac ip random granted), napt.2)

/-- `handle_client_connect` up to `ensure_napt_enabled`: the request it goes on with. -/
def connectEnsure (p : Platform) (m : Clocks) (ap : ApView) (random : Fin 16 → BitVec 8)
    (mac : Mac) (s : Server) : Option StartRequest × Server :=
  if mac = 0 then (none, s)
  else if !ap.apConnect then (none, s)
  else
    let lookup := getQuotaRemainingForMac m.asked mac s.quota
    let remainingSeconds := lookup.1
    let looked := { s with quota := lookup.2 }
    if remainingSeconds ≤ 0 then (none, looked)
    else if dailyQuotaSec ≤ remainingSeconds then (none, looked)
    else
      let napt := ensureNaptEnabled p looked
      if !napt.1 then (none, napt.2)
      else (some (connectRequest p m random mac s), napt.2)

/-- `/confirm` without another task in between: the two calls, and the lookup for the page. -/
theorem confirmHandler_calls (p : Platform) (m : Clocks) (ap : ApView)
    (random : Fin 16 → BitVec 8) (ip : IpAddr) (s : Server) :
    (confirmHandler p m ap random ip s).2 =
      match confirmEnsure p m ap random ip s with
      | (none, t) => t
      | (some req, t) =>
        (getRemainingSeconds p m.closing ap ip (startOrResumeSession p m req t).2).2 := by
  unfold confirmHandler confirmEnsure
  dsimp only
  cases (confirmGrant m (confirmMac ap ip) s).1 with
  | none => rfl
  | some granted =>
    dsimp only
    split
    · rfl
    · split <;> rfl

/-- `handle_client_connect` without another task in between: the two calls, and an update. -/
theorem handleClientConnect_calls (p : Platform) (m : Clocks) (ap : ApView)
    (random : Fin 16 → BitVec 8) (mac : Mac) (s : Server) :
    ∃ updates, handleClientConnect p m ap random mac s =
      match connectEnsure p m ap random mac s with
      | (none, t) => { t with updates := updates }
      | (some req, t) => { (startOrResumeSession p m req t).2 with updates := updates } := by
  unfold handleClientConnect connectEnsure
  dsimp only
  split
  · exact ⟨s.updates, rfl⟩
  split
  · exact ⟨s.updates, rfl⟩
  split
  · exact ⟨s.updates, rfl⟩
  split
  · exact ⟨s.updates, rfl⟩
  split
  · exact ⟨_, rfl⟩
  · dsimp only [connectRequest]
    generalize startOrResumeSession p m _ _ = result
    obtain ⟨slot, t⟩ := result
    cases slot with
    | none => exact ⟨t.updates, rfl⟩
    | some i =>
      dsimp only
      split
      · exact ⟨t.updates, rfl⟩
      · exact ⟨_, rfl⟩

theorem confirmEnsure_routed {p : Platform} {m : Clocks} {ap : ApView}
    {random : Fin 16 → BitVec 8} {ip : IpAddr} {s : Server} (routed : Routed m.now s) :
    Routed m.now (confirmEnsure p m ap random ip s).2 := by
  have granted : Routed m.now (confirmGrant m (confirmMac ap ip) s).2 := by
    rw [confirmGrant_server]
    exact routed
  unfold confirmEnsure
  dsimp only
  split
  · exact granted
  split
  · exact granted
  · split
    · exact ensureNapt_routed granted
    · exact ensureNapt_routed granted

theorem connectEnsure_routed {p : Platform} {m : Clocks} {ap : ApView}
    {random : Fin 16 → BitVec 8} {mac : Mac} {s : Server} (routed : Routed m.now s) :
    Routed m.now (connectEnsure p m ap random mac s).2 := by
  have looked : Routed m.now { s with quota := (getQuotaRemainingForMac m.asked mac s.quota).2 } :=
    routed
  unfold connectEnsure
  dsimp only
  split
  · exact routed
  split
  · exact routed
  split
  · exact looked
  split
  · exact looked
  · split
    · exact ensureNapt_routed looked
    · exact ensureNapt_routed looked


/-! ## The tasks -/

/-- A call that a task makes: the first or the second of a flow, a lookup for a client, a pass of
    the heartbeat or a Wi-Fi event. -/
inductive Call
  | confirmEnsure (ap : ApView) (random : Fin 16 → BitVec 8) (ip : IpAddr)
  | connectEnsure (ap : ApView) (random : Fin 16 → BitVec 8) (mac : Mac)
  | start (flow : Nat)
  | lookup (ap : ApView) (ip : IpAddr)
  | heartbeat (i : Fin maxClients)
  | disconnect (ap : ApView) (mac : Mac)

/-- The server, the time of the last call, and the requests of the flows between their two
    calls. -/
structure Tasks where
  server : Server
  clock : Nat
  between : List StartRequest

/-- The tasks after `init_sessions` at time `boot`. -/
def initTasks (boot : Nat) : Tasks :=
  ⟨initSessions boot, boot, []⟩

/-- One call, of whichever task. -/
def callStep (p : Platform) (input : Clocks × Call) (t : Tasks) : Tasks :=
  let m := input.1
  match input.2 with
  | .confirmEnsure ap random ip =>
    let begun := confirmEnsure p m ap random ip t.server
    ⟨begun.2, m.now, t.between ++ begun.1.toList⟩
  | .connectEnsure ap random mac =>
    let begun := connectEnsure p m ap random mac t.server
    ⟨begun.2, m.now, t.between ++ begun.1.toList⟩
  | .start flow =>
    match t.between[flow]? with
    | none => { t with clock := m.now }
    | some req =>
      ⟨(startOrResumeSession p m req t.server).2, m.closed, t.between.eraseIdx flow⟩
  | .lookup ap ip => { t with server := (getRemainingSeconds p m ap ip t.server).2, clock := m.now }
  | .heartbeat i => { t with server := heartbeatSlot p m i t.server, clock := m.now }
  | .disconnect ap mac =>
    { t with server := handleClientDisconnect p m ap mac t.server, clock := m.now }

/-- The timer goes forward. -/
def CallForward (input : Clocks × Call) (t : Tasks) : Prop :=
  t.clock ≤ input.1.now

instance (input : Clocks × Call) (t : Tasks) : Decidable (CallForward input t) :=
  inferInstanceAs (Decidable (_ ≤ _))

/-- The second call of a flow finds NAPT on, if it grants access. -/
def StartsRouted (input : Clocks × Call) (t : Tasks) : Prop :=
  match input.2 with
  | .start flow =>
    ∀ req, t.between[flow]? = some req → GrantsAccess input.1 req t.server.sessions →
      t.server.naptEnabled = true
  | _ => True

/-! ## Runs -/

theorem callStep_start {p : Platform} {m : Clocks} {flow : Nat} {t : Tasks} {req : StartRequest}
    (between : t.between[flow]? = some req) :
    callStep p (m, .start flow) t =
      ⟨(startOrResumeSession p m req t.server).2, m.closed, t.between.eraseIdx flow⟩ := by
  simp only [callStep, between]

theorem confirmEnsure_sessions (p : Platform) (m : Clocks) (ap : ApView)
    (random : Fin 16 → BitVec 8) (ip : IpAddr) (s : Server) :
    (confirmEnsure p m ap random ip s).2.sessions = s.sessions := by
  have granted := congrArg Server.sessions (confirmGrant_server m (confirmMac ap ip) s)
  have napt := ensureNapt_sessions p (confirmGrant m (confirmMac ap ip) s).2
  unfold confirmEnsure
  dsimp only
  split
  · exact granted
  split
  · exact granted
  · split
    · exact napt.trans granted
    · exact napt.trans granted

theorem connectEnsure_sessions (p : Platform) (m : Clocks) (ap : ApView)
    (random : Fin 16 → BitVec 8) (mac : Mac) (s : Server) :
    (connectEnsure p m ap random mac s).2.sessions = s.sessions := by
  have napt := ensureNapt_sessions p
    { s with quota := (getQuotaRemainingForMac m.asked mac s.quota).2 }
  unfold connectEnsure
  dsimp only
  split
  · rfl
  split
  · rfl
  split
  · rfl
  split
  · rfl
  · split
    · exact napt
    · exact napt

theorem callStep_timed {p : Platform} {input : Clocks × Call} {t : Tasks}
    (timed : Timed t.server.sessions) : Timed (callStep p input t).server.sessions := by
  obtain ⟨m, call⟩ := input
  have steps : ∀ op, Timed (step p m op t.server).sessions := fun op => timed.step
  cases call with
  | confirmEnsure ap random ip =>
    change Timed (confirmEnsure p m ap random ip t.server).2.sessions
    rwa [confirmEnsure_sessions]
  | connectEnsure ap random mac =>
    change Timed (connectEnsure p m ap random mac t.server).2.sessions
    rwa [connectEnsure_sessions]
  | start flow =>
    cases between : t.between[flow]? with
    | none =>
      simp only [callStep, between]
      exact timed
    | some req =>
      rw [callStep_start between]
      exact steps (.startOrResume req)
  | lookup ap ip => exact steps (.getRemaining ap ip)
  | heartbeat i => exact steps (.heartbeat i)
  | disconnect ap mac => exact steps (.clientDisconnect ap mac)

/-- NAPT stays on for access, call by call, as long as a flow finds it on in a second call that
    grants access. -/
theorem callStep_routed {p : Platform} {input : Clocks × Call} {t : Tasks}
    (timed : Timed t.server.sessions) (routed : Routed t.clock t.server)
    (forward : CallForward input t) (starts : StartsRouted input t) :
    Routed (callStep p input t).clock (callStep p input t).server := by
  obtain ⟨m, call⟩ := input
  have now : Routed m.now t.server := routed.later forward
  cases call with
  | confirmEnsure ap random ip => exact confirmEnsure_routed now
  | connectEnsure ap random mac => exact connectEnsure_routed now
  | start flow =>
    cases between : t.between[flow]? with
    | none =>
      simp only [callStep, between]
      exact now
    | some req =>
      rw [callStep_start between]
      exact startOrResume_routed timed now (starts req between)
  | lookup ap ip => exact getRemaining_routed now
  | heartbeat i => exact heartbeat_routed now
  | disconnect ap mac => exact disconnect_routed now

/-- A flow that finds NAPT off in its second call grants access without it. -/
theorem callStep_unrouted {p : Platform} {input : Clocks × Call} {t : Tasks}
    (starts : ¬ StartsRouted input t) :
    ¬ Routed (callStep p input t).clock (callStep p input t).server := by
  obtain ⟨m, call⟩ := input
  cases call with
  | start flow =>
    intro routed
    apply starts
    intro req between grants
    rw [callStep_start between] at routed
    have on := routed (grants.access p)
    by_contra off
    rw [startOrResume_off (Bool.not_eq_true _ ▸ off)] at on
    cases on
  | _ => exact absurd trivial starts

/-- In a run whose timer goes forward, NAPT is always on if a client has access, now or later, if
    and only if every flow that grants access finds NAPT on in its second call. -/
theorem routing_on_iff (p : Platform) (boot : Nat) (inputs : List (Clocks × Call))
    (forward : Runs.Guarded (callStep p) CallForward (initTasks boot) inputs) :
    (∀ prior, prior <+: inputs → ∀ now,
        (Runs.run (callStep p) (initTasks boot) prior).clock ≤ now →
          Routed now (Runs.run (callStep p) (initTasks boot) prior).server) ↔
      Runs.Guarded (callStep p) StartsRouted (initTasks boot) inputs := by
  apply Runs.always_iff_guarded (fun t : Tasks => ∀ now, t.clock ≤ now → Routed now t.server)
    (fun t => Timed t.server.sessions ∧ Routed t.clock t.server)
  · refine ⟨timed_init boot, fun access => ?_⟩
    revert access
    simp [hasActiveAccess_iff, initTasks, initSessions, ClientSession.zero]
  · rintro t ⟨-, routed⟩ now later
    exact routed.later later
  · exact forward
  · rintro input t ⟨timed, routed⟩ forward starts
    exact ⟨callStep_timed timed, callStep_routed timed routed forward starts⟩
  · intro input t _ _ starts routed
    exact callStep_unrouted starts (routed _ (Nat.le_refl _))

/-- The flow of one station. -/
def oneFlow : List (Clocks × Call) :=
  [(secondsIn 0, .confirmEnsure (twoStations true) (fun _ => 0) 1),
    (secondsIn 1, .start 0)]

theorem routing_on_iff_oneFlow :
    (∀ prior, prior <+: oneFlow → ∀ now,
        (Runs.run (callStep somePlatform) (initTasks 1) prior).clock ≤ now →
          Routed now (Runs.run (callStep somePlatform) (initTasks 1) prior).server) ↔
      Runs.Guarded (callStep somePlatform) StartsRouted (initTasks 1) oneFlow := by
  apply routing_on_iff
  exact ⟨by decide, by decide, trivial⟩

/-- The session of the first station is over when the second one confirms: the heartbeat revokes
    it between the two calls and switches NAPT off, and the second station gets its session. -/
def idleBetween : List (Clocks × Call) :=
  oneFlow ++
    [(secondsIn 3699, .confirmEnsure (twoStations true) (fun _ => 1) 2),
      (secondsIn 3700, .heartbeat ⟨0, maxClients_pos⟩),
      (secondsIn 3701, .start 0)]

theorem session_without_routing :
    ¬ ∀ (p : Platform) (boot : Nat) (inputs : List (Clocks × Call)),
      Runs.Guarded (callStep p) CallForward (initTasks boot) inputs →
        (Runs.run (callStep p) (initTasks boot) inputs).between = [] →
          ∀ now, (Runs.run (callStep p) (initTasks boot) inputs).clock ≤ now →
            Routed now (Runs.run (callStep p) (initTasks boot) inputs).server := by
  intro claim
  have routed := claim somePlatform 1 idleBetween
    ⟨by decide, by decide, by decide, by decide, by decide, trivial⟩ (by decide +kernel) 3702000000
    (by decide +kernel)
  revert routed
  decide +kernel

/-! ## Flows that are not interrupted -/

theorem ensureNapt_on {p : Platform} {s : Server} (ok : (ensureNaptEnabled p s).1 = true) :
    (ensureNaptEnabled p s).2.naptEnabled = true := by
  unfold ensureNaptEnabled at ok ⊢
  split at ok
  · rwa [if_pos ‹_›]
  · rwa [if_neg ‹_›]

/-- A flow goes on to its second call only with NAPT on. -/
theorem confirmEnsure_on {p : Platform} {m : Clocks} {ap : ApView} {random : Fin 16 → BitVec 8}
    {ip : IpAddr} {s : Server} {req : StartRequest}
    (goesOn : (confirmEnsure p m ap random ip s).1 = some req) :
    (confirmEnsure p m ap random ip s).2.naptEnabled = true := by
  revert goesOn
  unfold confirmEnsure
  dsimp only
  split
  · exact nofun
  split
  · exact nofun
  split
  · exact nofun
  · rename_i enabled
    intro _
    rw [Bool.not_eq_true, Bool.not_eq_false'] at enabled
    exact ensureNapt_on enabled

theorem connectEnsure_on {p : Platform} {m : Clocks} {ap : ApView} {random : Fin 16 → BitVec 8}
    {mac : Mac} {s : Server} {req : StartRequest}
    (goesOn : (connectEnsure p m ap random mac s).1 = some req) :
    (connectEnsure p m ap random mac s).2.naptEnabled = true := by
  revert goesOn
  unfold connectEnsure
  dsimp only
  split
  · exact nofun
  split
  · exact nofun
  split
  · exact nofun
  split
  · exact nofun
  split
  · exact nofun
  · rename_i enabled
    intro _
    rw [Bool.not_eq_true, Bool.not_eq_false'] at enabled
    exact ensureNapt_on enabled

theorem confirm_routed {p : Platform} {m : Clocks} {ap : ApView} {random : Fin 16 → BitVec 8}
    {ip : IpAddr} {s : Server} (timed : Timed s.sessions) (routed : Routed m.now s) :
    Routed m.closed (confirmHandler p m ap random ip s).2 := by
  have sessions := confirmEnsure_sessions p m ap random ip s
  have first := @confirmEnsure_routed p m ap random ip s routed
  have on := @confirmEnsure_on p m ap random ip s
  rw [confirmHandler_calls]
  generalize confirmEnsure p m ap random ip s = begun at *
  obtain ⟨goesOn, t⟩ := begun
  cases goesOn with
  | none => exact first.later (m.opens.trans m.closes)
  | some req =>
    refine getRemaining_routed (m := m.closing) ?_
    exact startOrResume_routed (sessions ▸ timed) first fun _ => on rfl

theorem connect_routed {p : Platform} {m : Clocks} {ap : ApView} {random : Fin 16 → BitVec 8}
    {mac : Mac} {s : Server} (timed : Timed s.sessions) (routed : Routed m.now s) :
    Routed m.closed (handleClientConnect p m ap random mac s) := by
  have sessions := connectEnsure_sessions p m ap random mac s
  have first := @connectEnsure_routed p m ap random mac s routed
  have on := @connectEnsure_on p m ap random mac s
  obtain ⟨updates, result⟩ := handleClientConnect_calls p m ap random mac s
  rw [result]
  generalize connectEnsure p m ap random mac s = begun at *
  obtain ⟨goesOn, t⟩ := begun
  cases goesOn with
  | none => exact first.later (m.opens.trans m.closes)
  | some req =>
    have second : Routed m.closed (startOrResumeSession p m req t).2 :=
      startOrResume_routed (sessions ▸ timed) first fun _ => on rfl
    exact second

/-- The refresh after a lease finds nobody with access who had none before. -/
theorem ipAssigned_routed {p : Platform} {m : Clocks} {mac : Mac} {ipNet : IpAddr} {s : Server}
    (timed : Timed s.sessions) (routed : Routed m.now s) :
    Routed m.closed (handleClientIpAssigned p m mac ipNet s) := by
  have later := routed.later (m.opens.trans m.closes)
  unfold handleClientIpAssigned
  split
  · exact later
  split
  · exact later
  · rename_i i found
    have passes := firstSlot_passes found
    simp only [Bool.and_eq_true] at passes
    have admitted := (timed i passes.1.1).1
    refine refresh_routed (m := m.closing) ?_
    rw [← admitted]
    exact moved_routed ipNet _ later

/-- An operation and the time it is over. -/
def clockedStep (p : Platform) (input : Input) (t : Server × Nat) : Server × Nat :=
  (stepInput p input t.1, input.1.closed)

/-- The timer goes forward, and no call comes between those of a flow. -/
def Uninterrupted (input : Input) (t : Server × Nat) : Prop :=
  t.2 ≤ input.1.now ∧ ∀ req, input.2 ≠ .startOrResume req

theorem step_routed {p : Platform} {m : Clocks} {op : Operation} {s : Server}
    (timed : Timed s.sessions) (routed : Routed m.now s) (entry : ∀ req, op ≠ .startOrResume req) :
    Routed m.closed (step p m op s) := by
  have later : ∀ {t : Server}, Routed m.now t → Routed m.closed t :=
    fun routed => routed.later (m.opens.trans m.closes)
  cases op with
  | startOrResume req => exact absurd rfl (entry req)
  | revoke i disconnected => exact later (revoke_routed (m := m) routed)
  | refresh => exact later (refresh_routed (m := m) routed)
  | getRemaining ap ip => exact later (getRemaining_routed (m := m) routed)
  | clientConnect ap random mac => exact connect_routed timed routed
  | clientIpAssigned mac ipNet => exact ipAssigned_routed timed routed
  | clientDisconnect ap mac => exact later (disconnect_routed (m := m) routed)
  | confirm ap random ip => exact confirm_routed timed routed
  | heartbeat i => exact later (heartbeat_routed (m := m) routed)

/-- As long as no other task comes between the two calls of a flow, NAPT is on whenever a client
    has access. -/
theorem uninterrupted_routed (p : Platform) (boot : Nat) (inputs : List Input)
    (uninterrupted : Runs.Guarded (clockedStep p) Uninterrupted (initSessions boot, boot) inputs) :
    ∀ now, (Runs.run (clockedStep p) (initSessions boot, boot) inputs).2 ≤ now →
      Routed now (Runs.run (clockedStep p) (initSessions boot, boot) inputs).1 := by
  have initial : Timed (initSessions boot).sessions ∧ Routed boot (initSessions boot) := by
    refine ⟨timed_init boot, fun access => ?_⟩
    revert access
    simp [hasActiveAccess_iff, initSessions, ClientSession.zero]
  have invariant := Runs.run_invariant
    (fun t : Server × Nat => Timed t.1.sessions ∧ Routed t.2 t.1) initial
    (fun _ _ inv guard => ⟨inv.1.step, step_routed inv.1 (inv.2.later guard.1) guard.2⟩)
    uninterrupted
  exact fun now later => invariant.2.later later

/-- One station confirms, and the deadline of the session is a second away. -/
theorem uninterrupted_routed_confirmed :
    Routed 3599000000 (Runs.run (clockedStep somePlatform) (initSessions 1, 1)
      [(secondsIn 0, .confirm (twoStations true) (fun _ => 0) 1)]).1 :=
  uninterrupted_routed somePlatform 1 [(secondsIn 0, .confirm (twoStations true) (fun _ => 0) 1)]
    ⟨⟨by decide, nofun⟩, trivial⟩ 3599000000 (by decide)

end SolarConnect.Session
