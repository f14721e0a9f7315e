import SolarConnect.Session.Books
import SolarConnect.Session.Bystanders

/-!
# One session for an address

`ip_addr` is what the lookups by address go by. It is written when `start_or_resume_session`
binds a slot, when a lookup rebinds the session of a MAC and when a lease is assigned, and none
of these looks at the other slots: two running sessions share an address as soon as one of
them is given the address of the other. Nor does any of them see that a lease gives a station
without a session the address of one.
-/

namespace SolarConnect.Session

open Slots

/-- A session that is active and not over. -/
def Live (now : Nat) (session : ClientSession) : Prop :=
  session.active = true ∧ now < session.endTime

instance (now : Nat) (session : ClientSession) : Decidable (Live now session) :=
  inferInstanceAs (Decidable (_ ∧ _))

/-- No two live sessions have the same address. -/
def DistinctAddresses (now : Nat) (sessions : SessionTable) : Prop :=
  ∀ i j, Live now (sessions i) → Live now (sessions j) → (sessions i).ipAddr ≠ 0 →
    (sessions i).ipAddr = (sessions j).ipAddr → i = j

instance (now : Nat) (sessions : SessionTable) : Decidable (DistinctAddresses now sessions) :=
  inferInstanceAs (Decidable (∀ _ _, _))

/-! ## Leases -/

/-- The server and the last time it has read, and what an observer of the DHCP server knows: the
    station that holds an address, and the one that held a session's when it was placed there. -/
structure Tracked where
  server : Server
  clock : Nat
  leases : IpAddr → Mac
  placed : Fin maxClients → Mac

/-- The device of a session: its MAC tells it, or else the address it was placed at. -/
def Tracked.device (c : Tracked) (i : Fin maxClients) : Mac :=
  if (c.server.sessions i).mac = 0 then c.placed i else (c.server.sessions i).mac

/-- The DHCP server assigns addresses, and tells of it. -/
def leasesAfter (op : Operation) (leases : IpAddr → Mac) : IpAddr → Mac :=
  match op with
  | .clientIpAssigned mac ip => Function.update leases ip mac
  | _ => leases

/-- The slot an operation writes an address to, the MAC of the session there and the address,
    unless that session is over when the refresh after it reads the timer. -/
def addressWrite (p : Platform) (m : Clocks) (op : Operation) (s : Server) :
    Option (Fin maxClients × Mac × IpAddr) :=
  match requestOf p m op s with
  | some req =>
    let b := requestBinding m req s.sessions
    if Binds req ∧ Outlasts m req s.sessions then some (b.slot, boundMac req b, req.ip) else none
  | none =>
    (reboundSession m.now op s.sessions).or
      ((assignedSession m.now op s.sessions).filter fun moved =>
        m.closed < (s.sessions moved.1).endTime)

/-- An operation under observation. -/
def track (p : Platform) (input : Input) (c : Tracked) : Tracked where
  server := stepInput p input c.server
  clock := (lastRefresh p input.1 input.2 c.server).now
  leases := leasesAfter input.2 c.leases
  placed :=
    match addressWrite p input.1 input.2 c.server with
    | some (i, _, ip) => Function.update c.placed i (leasesAfter input.2 c.leases ip)
    | none => c.placed

/-- A server at boot, when the stations hold some addresses already. -/
def trackedBoot (boot : Nat) (held : IpAddr → Mac) : Tracked :=
  ⟨initSessions boot, boot, held, fun _ => 0⟩

/-- A run from boot at time `boot`. -/
def tracked (p : Platform) (boot : Nat) (held : IpAddr → Mac) (inputs : List Input) : Tracked :=
  Runs.run (track p) (trackedBoot boot held) inputs

/-- What the DHCP server tells of an address is what it has assigned, to a station with a MAC. -/
def Agrees (leases : IpAddr → Mac) (ap : ApView) (ip : IpAddr) : Prop :=
  ∀ mac ∈ getClientMacForIp ap ip, mac ≠ 0 ∧ leases ip = mac

instance (leases : IpAddr → Mac) (ap : ApView) (ip : IpAddr) : Decidable (Agrees leases ap ip) :=
  decidable_of_iff ((getClientMacForIp ap ip).all fun mac => mac ≠ 0 ∧ leases ip = mac) (by
    simp only [Agrees, Option.all_eq_true, decide_eq_true_eq, Option.mem_def])

/-- The DHCP server agrees in what the operation asks it. -/
def AgreesOn (leases : IpAddr → Mac) : Operation → Prop
  | .getRemaining ap ip => Agrees leases ap ip
  | .confirm ap _ ip => Agrees leases ap ip
  | _ => True

instance (leases : IpAddr → Mac) (op : Operation) : Decidable (AgreesOn leases op) :=
  match op with
  | .getRemaining ap ip => inferInstanceAs (Decidable (Agrees leases ap ip))
  | .confirm ap _ ip => inferInstanceAs (Decidable (Agrees leases ap ip))
  | .startOrResume _ | .revoke _ _ | .refresh | .clientConnect _ _ _ | .clientIpAssigned _ _
  | .clientDisconnect _ _ | .heartbeat _ => .isTrue trivial

/-- The DHCP server tells what it has done. -/
def Consistent (input : Input) (c : Tracked) : Prop :=
  AgreesOn c.leases input.2

instance (input : Input) (c : Tracked) : Decidable (Consistent input c) :=
  inferInstanceAs (Decidable (AgreesOn _ _))

/-! ## Answers -/

/-- No lookup by an address answers with the session of a device that does not hold it, neither
    `find_session_index_by_ip` nor `get_remaining_seconds`. -/
structure AnswersOwn (c : Tracked) : Prop where
  find : ∀ ip i, ip ≠ 0 → findSessionIndexByIp c.server.sessions ip = some i →
    c.device i = c.leases ip
  remaining : ∀ p (m : Moment) ap ip, Agrees c.leases ap ip →
    (getRemainingSeconds p m ap ip c.server).1 ≠ -1 →
      ∃ i, Live m.now (c.server.sessions i) ∧ c.device i = c.leases ip ∧
        (getRemainingSeconds p m ap ip c.server).1 =
          ((c.server.sessions i).endTime - m.now) / secondUs

/-- No two sessions have the same address, whether they are over or not. -/
def UniqueAddresses (sessions : SessionTable) : Prop :=
  ∀ i j, (sessions i).active = true → (sessions j).active = true → (sessions i).ipAddr ≠ 0 →
    (sessions i).ipAddr = (sessions j).ipAddr → i = j

/-- Every session is that of the device that holds its address. -/
def Own (c : Tracked) : Prop :=
  ∀ i, (c.server.sessions i).active = true → (c.server.sessions i).ipAddr ≠ 0 →
    c.device i = c.leases (c.server.sessions i).ipAddr

/-- The addresses are unique, and each is that of the device that holds it. -/
def OneForAddress (c : Tracked) : Prop :=
  UniqueAddresses c.server.sessions ∧ Own c

/-- No refresh of the operation ends the session as expired. -/
def Stays (p : Platform) (input : Input) (s : Server) (j : Fin maxClients) : Prop :=
  (s.sessions j).active = true ∧ (Refreshes p input.1 input.2 s →
    ¬ Expired (lastRefresh p input.1 input.2 s).now (s.sessions j))

/-- The session bound or moved to an address has the MAC of the station that holds it, or none,
    and no other live session is there. A lease gives no station the address of another one's
    session, unless the refresh after it ends that session. -/
structure TakesFreeAddress (p : Platform) (input : Input) (c : Tracked) : Prop where
  bound : ∀ i mac ip, addressWrite p input.1 input.2 c.server = some (i, mac, ip) → ip ≠ 0 →
    (mac ≠ 0 → mac = leasesAfter input.2 c.leases ip) ∧
      ∀ j, j ≠ i → Live (lastRefresh p input.1 input.2 c.server).now (c.server.sessions j) →
        (c.server.sessions j).ipAddr ≠ ip
  leased : ∀ mac ip, input.2 = .clientIpAssigned mac ip → ip ≠ 0 →
    ∀ j, Stays p input c.server j → (c.server.sessions j).ipAddr = ip → c.device j = mac

theorem live_of_unexpired {now : Nat} {sessions : SessionTable} (timed : Timed sessions)
    {i : Fin maxClients} (active : (sessions i).active = true)
    (running : ¬ Expired now (sessions i)) : Live now (sessions i) := by
  refine ⟨active, ?_⟩
  by_contra finished
  exact running ⟨active, (timed i active).2, Nat.not_lt.mp finished⟩

theorem liveTable_live {now : Nat} {sessions : SessionTable} {i : Fin maxClients}
    (live : Live now (sessions i)) : liveTable now sessions i = sessions i := by
  have running : ¬ Expired now (sessions i) := fun expired => Nat.not_lt.mpr expired.2.2 live.2
  rw [liveTable, if_neg running]

/-- `get_remaining_seconds` answers with the time of a live session, which it finds at the address
    or by the MAC that the DHCP server tells. -/
theorem getRemaining_answer {p : Platform} {m : Moment} {ap : ApView} {ip : IpAddr} {s : Server}
    (answers : (getRemainingSeconds p m ap ip s).1 ≠ -1) :
    ∃ i, Live m.now (s.sessions i) ∧
      ((s.sessions i).ipAddr = ip ∧ ip ≠ 0 ∨
        getClientMacForIp ap ip = some (s.sessions i).mac) ∧
      (getRemainingSeconds p m ap ip s).1 = ((s.sessions i).endTime - m.now) / secondUs := by
  have seconds : ∀ {i}, m.now < (s.sessions i).endTime →
      Int.ofNat (((s.sessions i).endTime - m.now) / secondUs) =
        ((s.sessions i).endTime - m.now) / secondUs := fun running => by
    rw [Int.ofNat_eq_natCast, Int.natCast_ediv, Int.ofNat_sub running.le]
  have lookup := getRemaining_lookup p m ap ip s
  generalize getRemainingSeconds p m ap ip s = result at lookup answers ⊢
  cases lookup with
  | misses | revokes => exact absurd rfl answers
  | answers i found running real here =>
    exact ⟨i, ⟨soughtSession_active found, running⟩, Or.inl ⟨here, real⟩, seconds running⟩
  | moves i found running mac _ resolved byMac =>
    have passes := firstSlot_passes byMac
    simp only [Bool.and_eq_true, beq_iff_eq] at passes
    exact ⟨i, ⟨passes.1, running⟩, Or.inr (resolved.trans (congrArg some passes.2.symm)),
      seconds running⟩

theorem UniqueAddresses.distinct {sessions : SessionTable} (unique : UniqueAddresses sessions)
    (now : Nat) : DistinctAddresses now sessions :=
  fun i j liveI liveJ => unique i j liveI.1 liveJ.1

/-- Where every session is at an address of its device, the answers are right. -/
theorem Own.answers {c : Tracked} (own : Own c) : AnswersOwn c := by
  constructor
  · intro ip i real found
    have passes := firstSlot_passes found
    simp only [Bool.and_eq_true, beq_iff_eq] at passes
    have device := own i passes.1 (passes.2.symm ▸ real)
    rw [passes.2] at device
    exact device
  · intro p m ap ip agrees answers
    obtain ⟨i, live, found, seconds⟩ := getRemaining_answer answers
    refine ⟨i, live, ?_, seconds⟩
    rcases found with ⟨here, real⟩ | resolved
    · have device := own i live.1 (here.symm ▸ real)
      rw [here] at device
      exact device
    · obtain ⟨nonzero, holds⟩ := agrees _ resolved
      rw [Tracked.device, if_neg nonzero, holds]

/-- A lookup by the address of a session finds it, if no other has that address. -/
theorem findByIp_alone {sessions : SessionTable} {i : Fin maxClients}
    (active : (sessions i).active = true)
    (alone : ∀ j, (sessions j).active = true → (sessions j).ipAddr = (sessions i).ipAddr → j = i) :
    findSessionIndexByIp sessions (sessions i).ipAddr = some i := by
  cases found : findSessionIndexByIp sessions (sessions i).ipAddr with
  | none =>
    have passes := firstSlot_eq_none_iff.mp found i
    simp [active] at passes
  | some k =>
    have passes := firstSlot_passes found
    simp only [Bool.and_eq_true, beq_iff_eq] at passes
    rw [alone k passes.1 passes.2]

/-! ## One operation -/

/-- The slot holds a live session of the MAC at the address; the other sessions are those of before,
    the live ones all go on, and the others are not at the address. -/
structure Places (now : Nat) (i : Fin maxClients) (mac : Mac) (ip : IpAddr)
    (before after : SessionTable) : Prop where
  slot : Live now (after i)
  owner : (after i).mac = mac
  address : (after i).ipAddr = ip
  others : ∀ j, j ≠ i → (after j).active = true →
    (before j).active = true ∧ SameSession (before j) (after j)
  goesOn : ∀ j, j ≠ i → Live now (before j) → SameSession (before j) (after j)
  settled : ∀ j, j ≠ i → (after j).active = true → Live now (before j) ∨ (before j).ipAddr ≠ ip

theorem searchedTable_live {m : Clocks} {req : StartRequest} {sessions : SessionTable}
    {j : Fin maxClients} (live : Live m.closed (sessions j)) :
    searchedTable m req sessions j = sessions j := by
  rw [searchedTable]
  split
  · exact liveTable_live ⟨live.1, m.closes.trans_lt live.2⟩
  · rfl

theorem StartEffect.places {m : Clocks} {req : StartRequest} {g g' : Gate}
    (timed : Timed g.sessions) (effect : StartEffect m req g g')
    (outlasts : Outlasts m req g.sessions) :
    Places m.closed (requestBinding m req g.sessions).slot
      (boundMac req (requestBinding m req g.sessions)) req.ip g.sessions g'.sessions := by
  have active := effect.slot_active.mpr outlasts
  obtain ⟨dayId, slot⟩ := effect.slot active
  refine ⟨⟨active, ?_⟩, ?_, ?_, ?_, ?_, ?_⟩
  · rw [slot]
    exact outlasts.trans_eq (boundSession_endTime m dayId req g.sessions).symm
  · rw [slot]
    exact boundSession_mac m dayId req _
  · rw [slot]
    exact boundSession_ip m dayId req _
  · intro j elsewhere live
    obtain ⟨-, dropped, same⟩ := effect.other elsewhere live
    rw [(dropped_active dropped).2] at dropped
    exact ⟨dropped, same⟩
  · intro j elsewhere live
    obtain ⟨day, opened, mid, first, second, rfl⟩ := effect
    exact second.kept elsewhere (searchedTable_live live) live.1 live.2
  · intro j elsewhere live
    obtain ⟨running, dropped, -⟩ := effect.other elsewhere live
    rw [(dropped_active dropped).2] at dropped
    exact Or.inl (live_of_unexpired timed dropped running)

/-- A session moved to an address at which no other is. -/
theorem places_moved {now : Nat} {sessions : SessionTable} {i : Fin maxClients} {mac : Mac}
    {ip : IpAddr} (live : Live now (sessions i)) (owner : (sessions i).mac = mac)
    (free : ∀ j, j ≠ i → (sessions j).active = true → (sessions j).ipAddr ≠ ip) :
    Places now i mac ip sessions (Function.update sessions i { sessions i with ipAddr := ip }) := by
  refine ⟨?_, ?_, ?_, fun j elsewhere active => ?_, fun j elsewhere _ => ?_,
    fun j elsewhere active => ?_⟩
  · rw [Function.update_self]
    exact live
  · rw [Function.update_self]
    exact owner
  · rw [Function.update_self]
  · rw [Function.update_of_ne elsewhere] at active ⊢
    exact ⟨active, sameSession_refl _⟩
  · rw [Function.update_of_ne elsewhere]
    exact sameSession_refl _
  · rw [Function.update_of_ne elsewhere] at active
    exact Or.inr (free j elsewhere active)

/-- A session moved to an address, whereupon the expired sessions end. -/
theorem places_assigned {now : Nat} {sessions : SessionTable} {i : Fin maxClients} {mac : Mac}
    {ip : IpAddr} {g g' : Gate} (timed : Timed sessions) (live : Live now (sessions i))
    (owner : (sessions i).mac = mac)
    (written : g.sessions =
      Function.update sessions i { sessions i with ipAddr := ip, admitted := true })
    (gone : Ends (fun j => Expired now (g.sessions j)) g g') :
    Places now i mac ip sessions g'.sessions := by
  have unexpired : ∀ {session : ClientSession}, Live now session → ¬ Expired now session :=
    fun live expired => Nat.not_lt.mpr expired.2.2 live.2
  have here : g.sessions i = { sessions i with ipAddr := ip, admitted := true } := by
    rw [written, Function.update_self]
  have there : ∀ j, j ≠ i → g.sessions j = sessions j := by
    intro j elsewhere
    rw [written, Function.update_of_ne elsewhere]
  have moved : Live now (g.sessions i) := here ▸ live
  have slot := gone.kept i moved.1 (unexpired moved)
  refine ⟨?_, ?_, ?_, fun j elsewhere active => ?_, fun j elsewhere running => ?_,
    fun j elsewhere active => ?_⟩
  · rw [slot]
    exact moved
  · rw [slot, here]
    exact owner
  · rw [slot, here]
  · obtain ⟨-, active', same⟩ := gone.survivor active
    rw [there j elsewhere] at active' same
    exact ⟨active', same⟩
  · have kept := gone.kept j
    rw [there j elsewhere] at kept
    exact kept running.1 (unexpired running)
  · obtain ⟨running, active', -⟩ := gone.survivor active
    rw [there j elsewhere] at running active'
    exact Or.inl (live_of_unexpired timed active' running)

/-- An operation that writes an address places a session at it. -/
theorem step_places {p : Platform} {m : Clocks} {op : Operation} {s : Server}
    (timed : Timed s.sessions) {i : Fin maxClients} {mac : Mac} {ip : IpAddr}
    (writes : addressWrite p m op s = some (i, mac, ip)) :
    Places (lastRefresh p m op s).now i mac ip s.sessions (step p m op s).sessions := by
  rw [addressWrite] at writes
  split at writes
  · rename_i req request
    obtain ⟨⟨binds, outlasts⟩, same⟩ := Option.ite_none_right_eq_some.mp writes
    cases same
    obtain ⟨mid, effect, last⟩ := step_starts timed request binds
    rw [lastRefresh_binds request binds]
    cases last with
    | found same =>
      rw [← gate_sessions (step p m op s), same]
      exact effect.places timed outlasts
    | moves _ _ _ finished => exact absurd outlasts finished
  · rename_i unasked
    rcases Option.or_eq_some_iff.mp writes with rebound | ⟨-, moved⟩
    · obtain ⟨active, owner, running, -, free⟩ := reboundSession_spec rebound
      have result := congrArg Gate.sessions (step_rebinds p rebound)
      rw [gate_sessions] at result
      obtain ⟨ap, rfl, -⟩ := reboundSession_lookup rebound
      have live : Live m.now (s.sessions i) := ⟨active, running⟩
      rw [result]
      exact places_moved live owner fun j _ here => free j here (timed j here).1
    · obtain ⟨assigned, outlasts⟩ := Option.filter_eq_some_iff.mp moved
      obtain ⟨active, owner, -, -, -⟩ := assignedSession_spec assigned
      obtain ⟨mid, written, gone⟩ := step_assigns p assigned
      have closing : (lastRefresh p m op s).now = m.closed := by
        cases op with
        | clientIpAssigned mac' ipNet => rfl
        | _ => cases assigned
      rw [closing]
      exact places_assigned timed ⟨active, of_decide_eq_true outlasts⟩ owner written gone

/-- What an operation that writes no address does: sessions end, and the lookup at the end of
    `/confirm` may move one of the station that confirms to its address. -/
inductive WritesNone (op : Operation) (before after : SessionTable) : Prop
  | keeps (same : ∀ j, (after j).active = true →
      (before j).active = true ∧ SameSession (before j) (after j))
  | moves (ap : ApView) (random : Fin 16 → BitVec 8) (ip : IpAddr) (i : Fin maxClients)
    (confirms : op = .confirm ap random ip)
    (resolved : getClientMacForIp ap ip = some (after i).mac) (address : (after i).ipAddr = ip)
    (others : ∀ j, j ≠ i → (after j).active = true →
      (before j).active = true ∧ SameSession (before j) (after j))
    (alone : ∀ j, j ≠ i → (after j).active = true → (after j).ipAddr ≠ ip)

/-- A start whose session is over when the refresh after it reads the timer. -/
theorem StartEffect.writesNone {p : Platform} {m : Clocks} {op : Operation} {s : Server}
    {req : StartRequest} {mid g' : Gate} (timed : Timed s.sessions)
    (request : requestOf p m op s = some req) (effect : StartEffect m req s.gate mid)
    (finished : ¬ Outlasts m req s.sessions)
    (last : LooksUp (clientMac op) m req s.sessions mid g') :
    WritesNone op s.sessions g'.sessions := by
  have old : ∀ j, (mid.sessions j).active = true →
      (s.sessions j).active = true ∧ SameSession (s.sessions j) (mid.sessions j) := by
    intro j active
    have elsewhere : j ≠ (requestBinding m req s.sessions).slot := by
      rintro rfl
      exact finished (effect.slot_active.mp active)
    obtain ⟨-, dropped, same⟩ := effect.other elsewhere active
    rw [(dropped_active dropped).2] at dropped
    exact ⟨dropped, same⟩
  cases last with
  | found same =>
    rw [same]
    exact .keeps old
  | moves i mac nonzero _ resolved named active own alone result =>
    cases op with
    | confirm ap random ip =>
      obtain ⟨granted, -, rfl⟩ := Option.map_eq_some_iff.mp request
      have timed' : Timed mid.sessions := Timed.starts timed effect
      have table : g'.sessions =
          Function.update mid.sessions i { mid.sessions i with ipAddr := ip } :=
        congrArg Gate.sessions result
      rw [table]
      refine .moves ap random ip i rfl ?_ ?_ (fun j other live => ?_) fun j other live => ?_
      · rw [Function.update_self, own]
        exact resolved
      · rw [Function.update_self]
      · rw [Function.update_of_ne other] at live ⊢
        exact old j live
      · rw [Function.update_of_ne other] at live ⊢
        exact alone j live (timed' j live).1
    | _ => cases resolved

theorem step_writesNone {p : Platform} {m : Clocks} {op : Operation} {s : Server}
    (timed : Timed s.sessions) (writes : addressWrite p m op s = none) :
    WritesNone op s.sessions (step p m op s).sessions := by
  cases step_effect p m op timed with
  | ends ended gone => exact .keeps fun j active => (gone.survivor active).2
  | starts req request binds mid effect last =>
    rw [addressWrite, request] at writes
    have finished : ¬ Outlasts m req s.sessions :=
      fun outlasts => by simp [binds, outlasts] at writes
    exact effect.writesNone timed request finished last
  | rebinds i mac ip rebound result =>
    obtain ⟨ap, rfl, -⟩ := reboundSession_lookup rebound
    simp [addressWrite, requestOf, rebound] at writes
  | assigns i mac ip mid assigned result gone =>
    have table : mid.sessions = Function.update s.sessions i
        { s.sessions i with ipAddr := ip, admitted := true } := congrArg Gate.sessions result
    refine .keeps fun j active => ?_
    obtain ⟨running, live, same⟩ := gone.survivor active
    rcases eq_or_ne j i with rfl | other
    · -- the session moved is over, or the operation would write its address
      exfalso
      cases op with
      | clientIpAssigned mac' ipNet =>
        obtain ⟨moved, -, unexpired, -, -⟩ := assignedSession_spec assigned
        simp only [addressWrite, requestOf, reboundSession, assigned, Option.none_or,
          Option.filter_eq_none_iff, decide_eq_true_eq, Nat.not_lt] at writes
        have finished := writes _ rfl
        refine running ⟨live, ?_, ?_⟩
        · rw [table, Function.update_self]
          exact Nat.zero_lt_of_lt unexpired
        · rw [table, Function.update_self]
          exact finished
      | _ => cases assigned
    · rw [table, Function.update_of_ne other] at live same
      exact ⟨live, same⟩

/-! ## Under observation -/

/-- The operation writes no address to the slot. -/
def Unwritten (p : Platform) (input : Input) (s : Server) (j : Fin maxClients) : Prop :=
  ∀ i mac ip, addressWrite p input.1 input.2 s = some (i, mac, ip) → j ≠ i

theorem unwritten_of_none {p : Platform} {input : Input} {s : Server}
    (writes : addressWrite p input.1 input.2 s = none) (j : Fin maxClients) :
    Unwritten p input s j := by
  intro i mac ip here
  rw [writes] at here
  cases here

theorem unwritten_of_ne {p : Platform} {input : Input} {s : Server} {i j : Fin maxClients}
    {mac : Mac} {ip : IpAddr} (writes : addressWrite p input.1 input.2 s = some (i, mac, ip))
    (other : j ≠ i) : Unwritten p input s j := by
  intro k mac' ip' here
  rw [writes] at here
  cases here
  exact other

theorem track_placed {p : Platform} {input : Input} {c : Tracked} {j : Fin maxClients}
    (unwritten : Unwritten p input c.server j) : (track p input c).placed j = c.placed j := by
  unfold track
  cases writes : addressWrite p input.1 input.2 c.server with
  | none => rfl
  | some write =>
    obtain ⟨i, mac, ip⟩ := write
    exact Function.update_of_ne (unwritten i mac ip writes) _ _

/-- A session that goes on stays that of its device. -/
theorem track_device {p : Platform} {input : Input} {c : Tracked} {j : Fin maxClients}
    (unwritten : Unwritten p input c.server j)
    (same : SameSession (c.server.sessions j) ((stepInput p input c.server).sessions j)) :
    (track p input c).device j = c.device j := by
  have mac : ((track p input c).server.sessions j).mac = (c.server.sessions j).mac := by
    rw [track, same]
  rw [Tracked.device, Tracked.device, track_placed unwritten, mac]

theorem leasesAfter_cases (op : Operation) (leases : IpAddr → Mac) (ip : IpAddr) :
    leasesAfter op leases ip = leases ip ∨
      ∃ mac, op = .clientIpAssigned mac ip ∧ leasesAfter op leases ip = mac := by
  cases op with
  | clientIpAssigned mac ip' =>
    rcases eq_or_ne ip ip' with rfl | other
    · exact Or.inr ⟨mac, rfl, Function.update_self _ _ _⟩
    · exact Or.inl (Function.update_of_ne other _ _)
  | _ => exact Or.inl rfl

theorem ipAssigned_unassigned (p : Platform) {m : Clocks} {mac : Mac} {ip : IpAddr} {s : Server}
    (unassigned : assignedSession m.now (.clientIpAssigned mac ip) s.sessions = none) :
    step p m (.clientIpAssigned mac ip) s = s := by
  rw [step, handleClientIpAssigned]
  rw [assignedSession] at unassigned
  split at unassigned
  · rw [if_pos ‹_›]
  · rw [if_neg ‹_›]
    have absent := Option.map_eq_none_iff.mp unassigned
    rw [absent]

/-- A lease leaves alone every session that stays, but the one it moves. -/
theorem lease_goesOn {p : Platform} {m : Clocks} {mac : Mac} {ip : IpAddr} {s : Server}
    (timed : Timed s.sessions) {j : Fin maxClients}
    (stays : Stays p (m, .clientIpAssigned mac ip) s j)
    (unwritten : Unwritten p (m, .clientIpAssigned mac ip) s j) :
    SameSession (s.sessions j) ((step p m (.clientIpAssigned mac ip) s).sessions j) := by
  cases assigned : assignedSession m.now (.clientIpAssigned mac ip) s.sessions with
  | none =>
    rw [ipAssigned_unassigned p assigned]
    exact sameSession_refl _
  | some moved =>
    obtain ⟨i, mac', ip'⟩ := moved
    obtain ⟨mid, written, gone⟩ := step_assigns p assigned
    have running : ¬ Expired m.closed (s.sessions j) :=
      stays.2 (Option.isSome_iff_exists.mpr ⟨_, assigned⟩)
    have live := live_of_unexpired timed stays.1 running
    have other : j ≠ i := by
      rintro rfl
      refine unwritten j mac' ip' ?_ rfl
      simp only [addressWrite, requestOf, reboundSession, assigned, Option.none_or,
        Option.filter_some, live.2, decide_true, if_true]
    have kept := gone.kept j
    rw [written, Function.update_of_ne other] at kept
    exact kept stays.1 running

/-- A session that is there after a lease has stayed. -/
theorem lease_stays {p : Platform} {m : Clocks} {mac : Mac} {ip : IpAddr} {s : Server}
    {j : Fin maxClients} (before : (s.sessions j).active = true)
    (active : ((step p m (.clientIpAssigned mac ip) s).sessions j).active = true) :
    Stays p (m, .clientIpAssigned mac ip) s j := by
  refine ⟨before, fun refreshes expired => ?_⟩
  obtain ⟨⟨i, mac', ip'⟩, assigned⟩ := Option.isSome_iff_exists.mp refreshes
  obtain ⟨mid, written, gone⟩ := step_assigns p assigned
  apply (gone.survivor active).1
  rw [written]
  rcases eq_or_ne j i with rfl | other
  · rw [Function.update_self]
    exact expired
  · rw [Function.update_of_ne other]
    exact expired

/-- After a lease that assigns a session, no session is over. -/
theorem lease_live {p : Platform} {m : Clocks} {mac : Mac} {ip : IpAddr} {s : Server}
    (timed : Timed s.sessions)
    (refreshes : Refreshes p m (.clientIpAssigned mac ip) s) {j : Fin maxClients}
    (active : ((step p m (.clientIpAssigned mac ip) s).sessions j).active = true) :
    Live m.closed ((step p m (.clientIpAssigned mac ip) s).sessions j) := by
  obtain ⟨⟨i, mac', ip'⟩, assigned⟩ := Option.isSome_iff_exists.mp refreshes
  obtain ⟨mid, written, gone⟩ := step_assigns p assigned
  obtain ⟨running, -, same⟩ := gone.survivor active
  have timed' : Timed (step p m (.clientIpAssigned mac ip) s).sessions :=
    timed.step
  refine live_of_unexpired timed' active fun expired => running ?_
  rw [gate_sessions] at same
  rw [same] at expired
  exact expired

/-! ## Runs -/

/-- Sessions of before, where they were. -/
theorem UniqueAddresses.later {before after : SessionTable} (unique : UniqueAddresses before)
    {i j : Fin maxClients}
    (sameI : (before i).active = true ∧ SameSession (before i) (after i))
    (sameJ : (before j).active = true ∧ SameSession (before j) (after j))
    (real : (after i).ipAddr ≠ 0) (shared : (after i).ipAddr = (after j).ipAddr) : i = j := by
  rw [sameI.2] at real shared
  rw [sameJ.2] at shared
  exact unique i j sameI.1 sameJ.1 real shared

/-- One session at an address of its own keeps the others apart. -/
theorem UniqueAddresses.apart {before after : SessionTable} (unique : UniqueAddresses before)
    {i : Fin maxClients}
    (others : ∀ j, j ≠ i → (after j).active = true →
      (before j).active = true ∧ SameSession (before j) (after j))
    (alone : ∀ j, j ≠ i → (after j).active = true → (after j).ipAddr ≠ 0 →
      (after j).ipAddr ≠ (after i).ipAddr) : UniqueAddresses after := by
  intro j k activeJ activeK real shared
  rcases eq_or_ne j i with rfl | otherJ
  · rcases eq_or_ne k j with rfl | otherK
    · rfl
    · exact absurd shared.symm (alone k otherK activeK (shared ▸ real))
  · rcases eq_or_ne k i with rfl | otherK
    · exact absurd shared (alone j otherJ activeJ real)
    · exact unique.later (others j otherJ activeJ) (others k otherK activeK) real shared

section Places
variable {now : Nat} {i : Fin maxClients} {mac : Mac} {ip : IpAddr} {before after : SessionTable}

/-- Placing a session at an address without another live one keeps the addresses unique. -/
theorem Places.unique (places : Places now i mac ip before after)
    (unique : UniqueAddresses before)
    (free : ip ≠ 0 → ∀ j, j ≠ i → Live now (before j) → (before j).ipAddr ≠ ip) :
    UniqueAddresses after := by
  apply unique.apart places.others
  intro j elsewhere active nonzero address
  obtain ⟨-, same⟩ := places.others j elsewhere active
  rw [places.address] at address
  rw [address] at nonzero
  rw [same] at address
  rcases places.settled j elsewhere active with live | away
  · exact free nonzero j elsewhere live address
  · exact away address

/-- Placing a session where another live one is does not keep the addresses apart. -/
theorem Places.free (places : Places now i mac ip before after)
    (distinct : DistinctAddresses now after) (real : ip ≠ 0) {j : Fin maxClients}
    (elsewhere : j ≠ i) (live : Live now (before j)) : (before j).ipAddr ≠ ip := by
  intro address
  have same := places.goesOn j elsewhere live
  have live' : Live now (after j) := by
    rw [same]
    exact live
  have shared : (after j).ipAddr = (after i).ipAddr := by
    rw [places.address, same]
    exact address
  have nonzero : (after j).ipAddr ≠ 0 := by
    rw [shared, places.address]
    exact real
  exact elsewhere (distinct j i live' places.slot nonzero shared)

/-- The lookup by the address finds the session placed there. -/
theorem Places.found (places : Places now i mac ip before after)
    (distinct : DistinctAddresses now after) (real : ip ≠ 0) :
    findSessionIndexByIp after ip = some i := by
  rw [← places.address]
  apply findByIp_alone places.slot.1
  intro j active shared
  by_contra elsewhere
  obtain ⟨-, same⟩ := places.others j elsewhere active
  rw [places.address, same] at shared
  rcases places.settled j elsewhere active with live | away
  · exact places.free distinct real elsewhere live shared
  · exact away shared

end Places

/-- A session that goes on stays at an address of its device, if no lease gives it to another. -/
theorem Own.later {p : Platform} {input : Input} {c : Tracked} (own : Own c)
    (leased : ∀ mac ip, input.2 = .clientIpAssigned mac ip → ip ≠ 0 →
      ∀ j, Stays p input c.server j → (c.server.sessions j).ipAddr = ip → c.device j = mac)
    {j : Fin maxClients} (unwritten : Unwritten p input c.server j)
    (before : (c.server.sessions j).active = true ∧
      SameSession (c.server.sessions j) ((stepInput p input c.server).sessions j))
    (active : ((stepInput p input c.server).sessions j).active = true)
    (real : ((stepInput p input c.server).sessions j).ipAddr ≠ 0) :
    (track p input c).device j =
      (track p input c).leases ((stepInput p input c.server).sessions j).ipAddr := by
  obtain ⟨active', same⟩ := before
  rw [track_device unwritten same]
  have address : ((stepInput p input c.server).sessions j).ipAddr =
      (c.server.sessions j).ipAddr := by
    rw [same]
  rw [address] at real ⊢
  rcases leasesAfter_cases input.2 c.leases (c.server.sessions j).ipAddr with
    kept | ⟨mac, lease, given⟩
  · exact (own j active' real).trans kept.symm
  · refine (leased mac _ lease real j ?_ rfl).trans given.symm
    obtain ⟨m, op⟩ := input
    obtain rfl : op = .clientIpAssigned mac (c.server.sessions j).ipAddr := lease
    exact lease_stays active' active

/-- A step that takes a free address keeps the lookups right. -/
theorem OneForAddress.step {p : Platform} {input : Input} {c : Tracked}
    (timed : Timed c.server.sessions) (one : OneForAddress c) (agrees : Consistent input c)
    (free : TakesFreeAddress p input c) : OneForAddress (track p input c) := by
  obtain ⟨unique, own⟩ := one
  cases writes : addressWrite p input.1 input.2 c.server with
  | none =>
    have unwritten := unwritten_of_none writes
    cases step_writesNone timed writes with
    | keeps same =>
      refine ⟨fun i j activeI activeJ real shared => ?_, fun i active real => ?_⟩
      · exact unique.later (same i activeI) (same j activeJ) real shared
      · exact own.later free.leased (unwritten i) (same i active) active real
    | moves ap random ip i confirms resolved address others alone =>
      refine ⟨?_, fun j active real => ?_⟩
      · refine unique.apart others fun j elsewhere active _ => ?_
        exact fun here => alone j elsewhere active (here.trans address)
      · rcases eq_or_ne j i with rfl | elsewhere
        · rw [Consistent, confirms] at agrees
          obtain ⟨nonzero, holds⟩ := agrees _ resolved
          have kept : (track p input c).leases = c.leases := by rw [track, confirms]; rfl
          have here : ((track p input c).server.sessions j).ipAddr = ip := address
          have owner : ((track p input c).server.sessions j).mac ≠ 0 := nonzero
          rw [Tracked.device, if_neg owner, here, kept]
          exact holds.symm
        · exact own.later free.leased (unwritten j) (others j elsewhere active) active real
  | some write =>
    obtain ⟨i, mac, ip⟩ := write
    have places := step_places timed writes
    refine ⟨?_, fun j active real => ?_⟩
    · exact places.unique unique fun real => (free.bound i mac ip writes real).2
    · rcases eq_or_ne j i with rfl | elsewhere
      · have here : ((track p input c).server.sessions j).ipAddr = ip := places.address
        have owner : ((track p input c).server.sessions j).mac = mac := places.owner
        have placed : (track p input c).placed j = leasesAfter input.2 c.leases ip := by
          simp only [track, writes, Function.update_self]
        rw [here] at real
        rw [Tracked.device, here, owner, placed]
        split
        · rfl
        · exact (free.bound j mac ip writes real).1 ‹_›
      · exact own.later free.leased (unwritten_of_ne writes elsewhere)
          (places.others j elsewhere active) active real

/-- The sessions that a lease leaves have unique addresses, if the live ones do. -/
theorem lease_unique {p : Platform} {m : Clocks} {mac : Mac} {ip : IpAddr} {s : Server}
    (timed : Timed s.sessions) (unique : UniqueAddresses s.sessions)
    (distinct : DistinctAddresses m.closed (step p m (.clientIpAssigned mac ip) s).sessions) :
    UniqueAddresses (step p m (.clientIpAssigned mac ip) s).sessions := by
  by_cases refreshes : Refreshes p m (.clientIpAssigned mac ip) s
  · intro i j activeI activeJ
    exact distinct i j (lease_live timed refreshes activeI) (lease_live timed refreshes activeJ)
  · rw [ipAssigned_unassigned p (Option.not_isSome_iff_eq_none.mp refreshes)]
    exact unique

/-- A step that does not makes one wrong. -/
theorem OneForAddress.takesFree {p : Platform} {input : Input} {c : Tracked}
    (timed : Timed c.server.sessions) (one : OneForAddress c)
    (distinct : DistinctAddresses (track p input c).clock (track p input c).server.sessions)
    (answers : AnswersOwn (track p input c)) : TakesFreeAddress p input c := by
  constructor
  · intro i mac ip writes real
    have places := step_places timed writes
    refine ⟨fun nonzero => ?_, fun j elsewhere live => places.free distinct real elsewhere live⟩
    have owner : ((track p input c).server.sessions i).mac = mac := places.owner
    have device := answers.find ip i real (places.found distinct real)
    rw [Tracked.device, owner, if_neg nonzero] at device
    exact device
  · intro mac ip lease real j stays here
    obtain ⟨m, op⟩ := input
    obtain rfl : op = .clientIpAssigned mac ip := lease
    by_cases written : ∃ mac' ip',
        addressWrite p m (.clientIpAssigned mac ip) c.server = some (j, mac', ip')
    · -- the session the lease moves is that of the station
      obtain ⟨mac', ip', writes⟩ := written
      simp only [addressWrite, requestOf, reboundSession, Option.none_or] at writes
      have assigned := (Option.filter_eq_some_iff.mp writes).1
      obtain ⟨-, owner, -, nonzero, -⟩ := assignedSession_spec assigned
      have same : mac' = mac := by
        simp only [assignedSession, Option.ite_none_left_eq_some, Option.map_eq_some_iff,
          Prod.mk.injEq] at assigned
        obtain ⟨-, _, -, -, same, -⟩ := assigned
        exact same.symm
      rw [Tracked.device, owner, if_neg nonzero, same]
    · have unwritten : Unwritten p (m, .clientIpAssigned mac ip) c.server j := by
        rintro i mac' ip' writes rfl
        exact written ⟨mac', ip', writes⟩
      have same := lease_goesOn timed stays unwritten
      have address :
        ((Session.step p m (.clientIpAssigned mac ip) c.server).sessions j).ipAddr = ip := by
        rw [same]
        exact here
      have active :
        ((Session.step p m (.clientIpAssigned mac ip) c.server).sessions j).active = true := by
        rw [same]
        exact stays.1
      have unique := lease_unique timed one.1 distinct
      have found := findByIp_alone active fun k activeK shared => by
        refine unique k j activeK active ?_ shared
        rw [shared, address]
        exact real
      rw [address] at found
      have device := answers.find ip j real found
      rw [track_device unwritten same] at device
      refine device.trans ?_
      exact Function.update_self _ _ _

/-- In a run whose DHCP server tells what it has done, the live sessions always have different
    addresses and no lookup by an address answers with the session of another device, if and only
    if every operation takes a free address. -/
theorem distinct_addresses_iff (p : Platform) (boot : Nat) (held : IpAddr → Mac)
    (inputs : List Input)
    (consistent : Runs.Guarded (track p) Consistent (trackedBoot boot held) inputs) :
    (∀ prior, prior <+: inputs →
        DistinctAddresses (tracked p boot held prior).clock
            (tracked p boot held prior).server.sessions ∧
          AnswersOwn (tracked p boot held prior)) ↔
      Runs.Guarded (track p) (TakesFreeAddress p) (trackedBoot boot held) inputs := by
  apply Runs.always_iff_guarded
    (fun c : Tracked => DistinctAddresses c.clock c.server.sessions ∧ AnswersOwn c)
    (fun c => Timed c.server.sessions ∧ OneForAddress c)
  · refine ⟨timed_init boot, fun i j active => ?_, fun i active => ?_⟩
    · cases active
    · cases active
  · rintro c ⟨-, unique, own⟩
    exact ⟨unique.distinct c.clock, own.answers⟩
  · exact consistent
  · rintro input c ⟨timed, one⟩ consistent free
    exact ⟨timed.step, one.step timed consistent free⟩
  · rintro input c ⟨timed, one⟩ - taken good
    exact taken (one.takesFree timed good.1 good.2)

/-- Two stations confirm, each at its own address. -/
def twoSessions : List Input :=
  [(secondsIn 0, .confirm (twoStations true) (fun _ => 0) 1),
    (secondsIn 1, .confirm (twoStations true) (fun _ => 1) 2)]

theorem distinct_addresses_iff_twoSessions :
    (∀ prior, prior <+: twoSessions →
        DistinctAddresses (tracked somePlatform 1 (BitVec.setWidth 48) prior).clock
            (tracked somePlatform 1 (BitVec.setWidth 48) prior).server.sessions ∧
          AnswersOwn (tracked somePlatform 1 (BitVec.setWidth 48) prior)) ↔
      Runs.Guarded (track somePlatform) (TakesFreeAddress somePlatform)
        (trackedBoot 1 (BitVec.setWidth 48)) twoSessions :=
  distinct_addresses_iff somePlatform 1 _ twoSessions
    ⟨by decide +kernel, by decide +kernel, trivial⟩

/-- The DHCP server gives the second station the address at which the first one confirmed. -/
def sharedLease : List Input :=
  twoSessions ++ [(secondsIn 2, .clientIpAssigned 2 1)]

theorem address_shared :
    ¬ ∀ (p : Platform) (boot : Nat) (held : IpAddr → Mac) (inputs : List Input),
      Runs.Guarded (track p) Consistent (trackedBoot boot held) inputs →
        DistinctAddresses (tracked p boot held inputs).clock
            (tracked p boot held inputs).server.sessions ∧
          AnswersOwn (tracked p boot held inputs) := by
  intro claim
  have distinct := (claim somePlatform 1 (BitVec.setWidth 48) sharedLease
    ⟨by decide +kernel, by decide +kernel, trivial, trivial⟩).1
  revert distinct
  decide +kernel

end SolarConnect.Session
