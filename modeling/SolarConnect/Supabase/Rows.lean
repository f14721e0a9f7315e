import SolarConnect.Session.Reporting

/-!
# Session rows

Every session has a row at Supabase, and the tasks write it with upserts: the heartbeat for a
session it finds running, `/confirm` for the session it has started, and the update task for what
is on its queue. An upsert is a blocking HTTP request without a sequence number: the row keeps what
is delivered last. A request that has run into its timeout may still be delivered, so a task can go
on while its request is in flight.
-/

namespace SolarConnect.Supabase

open Session

/-! ## `supabase_client.c` -/

/-- `status`. -/
inductive RowStatus
  | active
  | disconnected
  | expired
  deriving DecidableEq, Repr

/-- What the body of an upsert says about the session. -/
structure Upsert where
  sessionToken : CString
  deviceHash : CString
  remainingSeconds : Nat
  apConnected : Bool
  status : RowStatus
  deriving DecidableEq, Repr

/-- `supabase_upsert_session` (`supabase_client.c:182-252`): the request it sends, less the times
    it adds when the clock is set. -/
def supabaseUpsertSession (sessionToken deviceHash : CString) (remainingSec : Int)
    (apConnected : Bool) (status : RowStatus) : Option Upsert :=
  if sessionToken = [] ∨ deviceHash = [] then none
  else some ⟨sessionToken, deviceHash, remainingSec.toNat, apConnected, status⟩

/-- `supabase_create_session` (`supabase_client.c:254-257`). -/
def supabaseCreateSession (sessionToken deviceHash : CString) (durationSec : Int) :
    Option Upsert :=
  supabaseUpsertSession sessionToken deviceHash durationSec true .active

/-- `supabase_update_heartbeat` (`supabase_client.c:259-266`). -/
def supabaseUpdateHeartbeat (sessionToken deviceHash : CString) (remainingSec : Int) :
    Option Upsert :=
  supabaseUpsertSession sessionToken deviceHash remainingSec true
    (if 0 < remainingSec then .active else .expired)

/-- `supabase_mark_disconnected` (`supabase_client.c:268-271`). -/
def supabaseMarkDisconnected (sessionToken deviceHash : CString) (remainingSec : Int) :
    Option Upsert :=
  supabaseUpsertSession sessionToken deviceHash remainingSec false .disconnected

/-! ## The tasks -/

/-- `perform_supabase_session_update` (`http_server.c:1216-1230`). -/
def performSupabaseSessionUpdate (update : PendingSupabaseUpdate) : Option Upsert :=
  match update.mode with
  | .active => supabaseCreateSession update.token update.deviceHash update.remainingSeconds
  | .disconnected =>
    supabaseMarkDisconnected update.token update.deviceHash update.remainingSeconds
  | .expired => supabaseUpdateHeartbeat update.token update.deviceHash 0

/-- The upsert of `supabase_heartbeat_task` for a session that goes on. -/
def heartbeatUpsert (now : Nat) (session : ClientSession) : Option Upsert :=
  if !session.active ∨ session.token = [] ∨ session.deviceHash = [] then none
  else
    let remaining := getSessionRemainingSeconds session now
    if 0 < remaining then
      if session.admitted then
        supabaseUpdateHeartbeat session.token session.deviceHash remaining
      else supabaseMarkDisconnected session.token session.deviceHash remaining
    else none

/-- The upsert a task goes on to send after an operation. -/
def upsertOf (p : Platform) (m : Clocks) (op : Operation) (s : Server) : Option Upsert :=
  match op with
  | .confirm ap random ip =>
    match (confirmHandler p m ap random ip s).1 with
    | .connected _ _ (some row) =>
      supabaseCreateSession row.token row.deviceHash row.remainingSeconds
    | _ => none
  | .heartbeat i => heartbeatUpsert m.now (s.sessions i)
  | _ => none

/-- The server, the number of updates taken from the queue, the upserts that tasks are about to
    send, those in flight, and the status of the rows. -/
structure Cloud where
  server : Server
  taken : Nat
  unsent : List Upsert
  inFlight : List Upsert
  rows : CString → Option RowStatus

/-- The cloud after `init_sessions` at time `boot`. -/
def initCloud (boot : Nat) : Cloud :=
  ⟨initSessions boot, 0, [], [], fun _ => none⟩

/-- A step of one of the tasks, or of the network: a session operation; a task sends its upsert; the
    update task takes an update and sends it; a request is delivered. -/
inductive Action
  | operate (op : Operation)
  | send (k : Nat)
  | dequeue
  | deliver (k : Nat)

/-- One step. -/
def cloudStep (p : Platform) (input : Clocks × Action) (c : Cloud) : Cloud :=
  match input.2 with
  | .operate op =>
    { c with
      server := step p input.1 op c.server
      unsent := c.unsent ++ (upsertOf p input.1 op c.server).toList }
  | .send k =>
    match c.unsent[k]? with
    | none => c
    | some upsert =>
      { c with unsent := c.unsent.eraseIdx k, inFlight := c.inFlight ++ [upsert] }
  | .dequeue =>
    match c.server.updates[c.taken]? with
    | none => c
    | some update =>
      { c with
        taken := c.taken + 1
        inFlight := c.inFlight ++ (performSupabaseSessionUpdate update).toList }
  | .deliver k =>
    match c.inFlight[k]? with
    | none => c
    | some upsert =>
      { c with
        inFlight := c.inFlight.eraseIdx k
        rows := Function.update c.rows upsert.sessionToken (some upsert.status) }

/-- The end of the session with the token was reported, and the update task has taken the report. -/
def EndTaken (token : CString) (c : Cloud) : Prop :=
  ∃ update ∈ c.server.updates.take c.taken, update.token = token ∧ update.mode ≠ .active

/-- The report is taken, and no request for the row is in flight. -/
def Settled (token : CString) (c : Cloud) : Prop :=
  EndTaken token c ∧ ∀ upsert ∈ c.inFlight, upsert.sessionToken ≠ token

/-- The row is that of a session that is over. -/
def RowOver (status : Option RowStatus) : Prop :=
  status = some .disconnected ∨ status = some .expired

/-- Operations give fresh tokens. -/
def GivesFreshToken (p : Platform) (input : Clocks × Action) (c : Cloud) : Prop :=
  match input.2 with
  | .operate op => FreshToken p (input.1, op) c.server
  | _ => True

/-- When the end of a session is delivered, no task is about to send that the session is active, and
    no such request is in flight. -/
def EndLast (input : Clocks × Action) (c : Cloud) : Prop :=
  match input.2 with
  | .deliver k =>
    match c.inFlight[k]? with
    | none => True
    | some upsert => upsert.status ≠ .active → ∀ late ∈ c.unsent ++ c.inFlight,
        late.sessionToken = upsert.sessionToken → late.status ≠ .active
  | _ => True

/-! ## Upserts -/

theorem supabaseUpsertSession_eq {sessionToken deviceHash : CString} {remainingSec : Int}
    {apConnected : Bool} {status : RowStatus} {upsert : Upsert}
    (sent : supabaseUpsertSession sessionToken deviceHash remainingSec apConnected status =
      some upsert) :
    sessionToken ≠ [] ∧ upsert.sessionToken = sessionToken ∧ upsert.status = status := by
  unfold supabaseUpsertSession at sent
  split at sent
  · cases sent
  · rename_i given
    cases sent
    exact ⟨(not_or.mp given).1, rfl, rfl⟩

/-- An update makes an upsert of its row, active exactly if the update is. -/
theorem performUpdate_upsert (update : PendingSupabaseUpdate) :
    ∃ remainingSec apConnected status, (status = .active ↔ update.mode = .active) ∧
      performSupabaseSessionUpdate update =
        supabaseUpsertSession update.token update.deviceHash remainingSec apConnected status := by
  unfold performSupabaseSessionUpdate
  cases update.mode with
  | active => exact ⟨_, _, _, by simp, rfl⟩
  | disconnected => exact ⟨_, _, _, by simp, rfl⟩
  | expired => exact ⟨_, _, _, by simp, rfl⟩

/-- The request for an update is for its row, and has its status. -/
theorem performUpdate_eq {update : PendingSupabaseUpdate} {upsert : Upsert}
    (sent : performSupabaseSessionUpdate update = some upsert) :
    update.token ≠ [] ∧ upsert.sessionToken = update.token ∧
      (upsert.status = .active ↔ update.mode = .active) := by
  obtain ⟨remainingSec, apConnected, status, active, made⟩ := performUpdate_upsert update
  obtain ⟨given, token, same⟩ := supabaseUpsertSession_eq (made.symm.trans sent)
  exact ⟨given, token, same ▸ active⟩

/-- The report of an end is sent. -/
theorem performUpdate_sends {update : PendingSupabaseUpdate} (ends : EndsRow update) :
    ∃ upsert, performSupabaseSessionUpdate update = some upsert := by
  obtain ⟨-, token, hash⟩ := ends
  obtain ⟨remainingSec, apConnected, status, -, made⟩ := performUpdate_upsert update
  rw [made, supabaseUpsertSession, if_neg (not_or.mpr ⟨token, hash⟩)]
  exact ⟨_, rfl⟩

theorem boundToken_ne_nil {req : StartRequest} {given : CString} (carries : req.token = some given)
    (present : given ≠ []) (b : Binding) : boundToken req b ≠ [] := by
  have written : setString sessionTokenLen [] req.token ≠ [] := by
    rw [carries, setString, if_pos present]
    exact strlcpy_ne_nil (by decide) present
  unfold boundToken
  split
  · rw [reusedSession]
    dsimp only
    split
    · rename_i blank
      rw [blank]
      exact written
    · assumption
  · exact written

theorem givenString_of_given {field : CString} {arg : Option CString} (given : field ≠ []) :
    givenString (some field) arg = field :=
  if_pos given

/-- The session of which `/confirm` takes the names for its row, once it has looked it up. -/
def repliedSession (p : Platform) (m : Clocks) (ap : ApView) (ip : IpAddr) (req : StartRequest)
    (t : Server) : Option ClientSession :=
  (startOrResumeSession p m req t).1.map
    (getRemainingSeconds p m.closing ap ip (startOrResumeSession p m req t).2).2.sessions

/-- The row that `/confirm` sends has the names of that session, or of the request. -/
theorem confirm_replies {p : Platform} {m : Clocks} {ap : ApView} {random : Fin 16 → BitVec 8}
    {ip : IpAddr} {s : Server} {remainingSeconds : Nat} {dashboardToken : CString}
    {row : PendingSupabaseUpdate}
    (replies : (confirmHandler p m ap random ip s).1 =
      .connected remainingSeconds dashboardToken (some row)) :
    ∃ granted, confirmStarts p m ap ip s = some granted ∧
      let t := (ensureNaptEnabled p (confirmGrant m (confirmMac ap ip) s).2).2
      let req := confirmRequest p (confirmMac ap ip) ip random granted
      let session := repliedSession p m ap ip req t
      row.token = givenString (session.map ClientSession.token) req.token ∧
        row.deviceHash = givenString (session.map ClientSession.deviceHash) req.deviceHash := by
  have routed : (ensureNaptEnabled p (confirmGrant m (confirmMac ap ip) s).2).1 =
      (ensureNaptEnabled p s).1 := by
    rw [confirmGrant_server]
    exact ensureNapt_quota p s _
  unfold confirmHandler at replies
  dsimp only at replies
  cases given : (confirmGrant m (confirmMac ap ip) s).1 with
  | none =>
    rw [given] at replies
    cases replies
  | some granted =>
    rw [given] at replies
    dsimp only at replies
    split at replies
    · cases replies
    rename_i connected
    split at replies
    · cases replies
    rename_i napt
    rw [routed] at napt
    refine ⟨granted, ?_, ?_⟩
    · rw [confirmStarts, if_pos (by simpa using And.intro connected napt), given]
    · simp only [ConfirmReply.connected.injEq] at replies
      obtain ⟨-, sent⟩ := Option.ite_none_right_eq_some.mp replies.2.2
      cases sent
      exact ⟨rfl, rfl⟩

/-- The row that `/confirm` sends is that of the session it has started. -/
theorem confirm_row {p : Platform} {m : Clocks} {ap : ApView} {random : Fin 16 → BitVec 8}
    {ip : IpAddr} {s : Server} (timed : Timed s.sessions) {remainingSeconds : Nat}
    {dashboardToken : CString} {row : PendingSupabaseUpdate}
    (replies : (confirmHandler p m ap random ip s).1 =
      .connected remainingSeconds dashboardToken (some row)) :
    ∃ bound ∈ boundRow p m (.confirm ap random ip) s, bound.token = row.token := by
  have same : (confirmGrant m (confirmMac ap ip) s).2.sessions = s.sessions := by
    rw [confirmGrant_server]
  have table := (ensureNapt_sessions p (confirmGrant m (confirmMac ap ip) s).2).trans same
  obtain ⟨granted, starts, sent, -⟩ := confirm_replies replies
  have request : requestOf p m (.confirm ap random ip) s =
      some (confirmRequest p (confirmMac ap ip) ip random granted) :=
    congrArg (Option.map _) starts
  unfold repliedSession at sent
  generalize (ensureNaptEnabled p (confirmGrant m (confirmMac ap ip) s).2).2 = t at table sent
  have fresh := generateSessionToken_ne_nil random
  have binds : Binds (confirmRequest p (confirmMac ap ip) ip random granted) := Or.inr fresh
  have returned := (startOrResume_effect p m binds t).1
  have token := (Prod.mk.inj (startOrResume_rowNames p m binds t)).1
  obtain ⟨last, -⟩ := @getRemaining_afterStart p m ap
    (confirmRequest p (confirmMac ap ip) ip random granted)
    (fun mac resolved => confirmMac_resolved resolved) t (by rwa [table])
  have present := @boundToken_ne_nil (confirmRequest p (confirmMac ap ip) ip random granted) _ rfl
    fresh (requestBinding m (confirmRequest p (confirmMac ap ip) ip random granted) t.sessions)
  -- the lookup leaves the token of the slot as it is
  have kept := (last.sameRow
    (requestBinding m
      (confirmRequest p (confirmMac ap ip) ip random granted) t.sessions).slot).token
  rw [gate_sessions, gate_sessions] at kept
  rw [← token, ← kept] at present
  refine ⟨_, boundRow_eq request binds, ?_⟩
  rw [sent, returned]
  refine Eq.trans ?_ (givenString_of_given present).symm
  rw [← table]
  exact (kept.trans token).symm

/-- The upsert of a task is for a session that is active after the operation, or for the one that
    the operation has bound. -/
theorem upsertOf_token {p : Platform} {m : Clocks} {op : Operation} {s : Server} {upsert : Upsert}
    (timed : Timed s.sessions) (made : upsertOf p m op s = some upsert) :
    upsert.sessionToken ≠ [] ∧
      ((∃ i, ((step p m op s).sessions i).active = true ∧
          ((step p m op s).sessions i).token = upsert.sessionToken) ∨
        ∃ bound ∈ boundRow p m op s, bound.token = upsert.sessionToken) := by
  cases op with
  | confirm ap random ip =>
    rw [upsertOf] at made
    split at made
    · rename_i remainingSeconds dashboardToken row replies
      obtain ⟨given, token, -⟩ := supabaseUpsertSession_eq made
      rw [token]
      exact ⟨given, Or.inr (confirm_row timed replies)⟩
    · cases made
  | heartbeat i =>
    rw [upsertOf, heartbeatUpsert] at made
    split at made
    · cases made
    rename_i present
    dsimp only at made
    split at made
    · rename_i left
      have result : step p m (.heartbeat i) s = checkpointSlot p m false i s := by
        change heartbeatSlot p m i s = _
        have remaining :
            getSessionRemainingSeconds ((checkpointSlot p m false i s).sessions i) m.now =
              getSessionRemainingSeconds (s.sessions i) m.now := by
          rw [checkpointSlot_self p m false i s]
          rfl
        rw [heartbeatSlot, if_neg present]
        dsimp only
        rw [remaining, if_pos left]
      have row := checkpointSlot_rows p m false i s i
      rw [result]
      rw [Bool.not_eq_true', not_or, not_or, Bool.not_eq_false] at present
      have token : upsert.sessionToken = (s.sessions i).token := by
        split at made
        · exact (supabaseUpsertSession_eq made).2.1
        · exact (supabaseUpsertSession_eq made).2.1
      rw [token]
      exact ⟨present.2.1, Or.inl ⟨i, row.active.trans present.1, row.token⟩⟩
    · cases made
  | _ => cases made

/-- An operation queues reports of ends, or updates for the session it binds. -/
theorem step_queues (p : Platform) (m : Clocks) (op : Operation) {s : Server}
    (timed : Timed s.sessions) :
    ∃ new, (step p m op s).updates = s.updates ++ new ∧ ((∀ update ∈ new, EndsRow update) ∨
      ∀ update ∈ new, update.mode = .active ∧
        ∃ row ∈ boundRow p m op s, update.token = strlcpy sessionTokenLen row.token) := by
  cases step_reports p m op timed with
  | quiet rows silent rests =>
    obtain ⟨new, queued, active⟩ := silent
    exact ⟨new, queued, Or.inr active⟩
  | starts req request binds mid effect rows silent refreshes first =>
    obtain ⟨new, queued, active⟩ := silent
    exact ⟨new, queued, Or.inr active⟩
  | announces t rows updates now reading list announced refreshes first unbound =>
    obtain ⟨new, queued, ends, -⟩ := announced.queued
    rw [updates] at queued
    exact ⟨new, queued, Or.inl ends⟩

/-! ## The queue -/

/-- No update that the session is active follows the report of its end. -/
def EndsLastOnQueue (updates : List PendingSupabaseUpdate) : Prop :=
  updates.Pairwise fun earlier later =>
    earlier.mode ≠ .active → later.mode = .active → earlier.token ≠ later.token

/-- What holds of the server and its queue in every state. -/
structure QueueOk (s : Server) : Prop where
  timed : Timed s.sessions
  tokens : Tokens s
  ordered : EndsLastOnQueue s.updates
  complete : ∀ update ∈ s.updates, update.mode ≠ .active → EndsRow update

theorem QueueOk.step {p : Platform} {input : Input} {s : Server} (ok : QueueOk s)
    (fresh : FreshToken p input s) : QueueOk (stepInput p input s) := by
  obtain ⟨m, op⟩ := input
  have timed : Timed (stepInput p (m, op) s).sessions := ok.timed.step
  have tokens : Tokens (stepInput p (m, op) s) := ok.tokens.step ok.timed fresh
  obtain ⟨new, queued, kinds⟩ := step_queues p m op ok.timed
  change (stepInput p (m, op) s).updates = _ at queued
  have complete : ∀ update ∈ (stepInput p (m, op) s).updates, update.mode ≠ .active →
      EndsRow update := by
    intro update member mode
    rw [queued] at member
    rcases List.mem_append.mp member with old | here
    · exact ok.complete update old mode
    · exact (kinds.resolve_right fun active => mode (active update here).1) update here
  have follows : ∀ earlier ∈ (stepInput p (m, op) s).updates, ∀ later ∈ new,
      earlier.mode ≠ .active → later.mode = .active → earlier.token ≠ later.token := by
    intro earlier member later here mode active
    rcases kinds with ends | starts
    · exact absurd active (ends later here).1
    obtain ⟨-, row, bound, token⟩ := starts later here
    have given := (complete earlier member mode).2.1
    rw [queued] at member
    rcases List.mem_append.mp member with old | new
    · rw [token, strlcpy_of_short (ok.tokens.boundRow_fits bound)]
      exact fresh.unlike bound old mode given
    · exact absurd (starts earlier new).1 mode
  refine ⟨timed, tokens, ?_, complete⟩
  rw [queued] at follows ⊢
  rw [EndsLastOnQueue, List.pairwise_append]
  refine ⟨ok.ordered, ?_, ?_⟩
  · apply List.pairwise_of_forall_mem_list
    intro earlier member later here
    exact follows earlier (List.mem_append_right _ member) later here
  · intro earlier member later here
    exact follows earlier (List.mem_append_left _ member) later here

/-! ## The rows -/

/-- The row says that the session is over, and nothing that says otherwise is on its way. -/
def RowFinal (token : CString) (c : Cloud) : Prop :=
  RowOver (c.rows token) ∧ ∀ upsert ∈ c.unsent ++ c.inFlight, upsert.sessionToken = token →
    upsert.status ≠ .active

/-- The end of the session is in flight. -/
def EndInFlight (token : CString) (c : Cloud) : Prop :=
  ∃ upsert ∈ c.inFlight, upsert.sessionToken = token ∧ upsert.status ≠ .active

/-- The invariant: once the report of an end is taken, it is in flight or the row is final. -/
structure CloudOk (c : Cloud) : Prop where
  queue : QueueOk c.server
  taken : c.taken ≤ c.server.updates.length
  ended : ∀ token, EndTaken token c → RowFinal token c ∨ EndInFlight token c

theorem cloudOk_init (boot : Nat) : CloudOk (initCloud boot) := by
  refine ⟨⟨timed_init boot, tokens_init boot, List.Pairwise.nil, ?_⟩, Nat.le_refl _, ?_⟩
  · intro update member
    cases member
  · rintro token ⟨update, member, -⟩
    cases member

theorem CloudOk.operate {p : Platform} {m : Clocks} {op : Operation} {c : Cloud} (ok : CloudOk c)
    (fresh : FreshToken p (m, op) c.server) : CloudOk (cloudStep p (m, .operate op) c) := by
  have queue : QueueOk (step p m op c.server) := ok.queue.step fresh
  obtain ⟨new, queued, -⟩ := step_queues p m op ok.queue.timed
  have prior : (step p m op c.server).updates.take c.taken = c.server.updates.take c.taken := by
    rw [queued, List.take_append_of_le_length ok.taken]
  refine ⟨queue, ?_, ?_⟩
  · change c.taken ≤ (step p m op c.server).updates.length
    rw [queued, List.length_append]
    exact Nat.le_add_right_of_le ok.taken
  · rintro token ⟨update, member, same, mode⟩
    change update ∈ (step p m op c.server).updates.take c.taken at member
    -- a task only goes on to send for a session that is active or has been bound, so not for this
    -- token
    have apart : ∀ upsert ∈ (upsertOf p m op c.server).toList, upsert.sessionToken ≠ token := by
      intro upsert made here
      obtain ⟨given, ⟨i, live, row⟩ | ⟨bound, binds, row⟩⟩ :=
        upsertOf_token ok.queue.timed (Option.mem_toList.mp made)
      all_goals rw [here, ← same] at given row
      · exact queue.tokens.unlike live (List.mem_of_mem_take member) mode given row.symm
      · rw [prior] at member
        exact fresh.unlike binds (List.mem_of_mem_take member) mode given row.symm
    rw [prior] at member
    rcases ok.ended token ⟨update, member, same, mode⟩ with ⟨row, last⟩ | inFlight
    · refine Or.inl ⟨row, ?_⟩
      intro upsert pending here
      change upsert ∈ (c.unsent ++ (upsertOf p m op c.server).toList) ++ c.inFlight at pending
      simp only [List.mem_append] at pending last
      rcases pending with (waiting | made) | flying
      · exact last upsert (Or.inl waiting) here
      · exact absurd here (apart upsert made)
      · exact last upsert (Or.inr flying) here
    · exact Or.inr inFlight

theorem CloudOk.send {p : Platform} {m : Clocks} {k : Nat} {c : Cloud} (ok : CloudOk c) :
    CloudOk (cloudStep p (m, .send k) c) := by
  cases sent : c.unsent[k]? with
  | none =>
    simp only [cloudStep, sent]
    exact ok
  | some upsert =>
    simp only [cloudStep, sent]
    refine ⟨ok.queue, ok.taken, ?_⟩
    intro token taken
    have waiting := List.mem_of_getElem? sent
    rcases ok.ended token taken with ⟨row, last⟩ | ⟨flying, member, report⟩
    · refine Or.inl ⟨row, ?_⟩
      intro pending member here
      apply last pending _ here
      simp only [List.mem_append, List.mem_singleton] at member ⊢
      rcases member with still | flying | same
      · exact Or.inl (List.mem_of_mem_eraseIdx still)
      · exact Or.inr flying
      · exact Or.inl (same ▸ waiting)
    · exact Or.inr ⟨flying, List.mem_append_left _ member, report⟩

theorem CloudOk.dequeue {p : Platform} {m : Clocks} {c : Cloud} (ok : CloudOk c) :
    CloudOk (cloudStep p (m, .dequeue) c) := by
  cases next : c.server.updates[c.taken]? with
  | none =>
    simp only [cloudStep, next]
    exact ok
  | some update =>
    simp only [cloudStep, next]
    obtain ⟨within, here⟩ := List.getElem?_eq_some_iff.mp next
    have grown :
      c.server.updates.take (c.taken + 1) = c.server.updates.take c.taken ++ [update] := by
      rw [List.take_succ_eq_append_getElem within, here]
    refine ⟨ok.queue, within, ?_⟩
    rintro token ⟨report, member, same, mode⟩
    change report ∈ c.server.updates.take (c.taken + 1) at member
    rw [grown, List.mem_append, List.mem_singleton] at member
    rcases member with before | rfl
    · rcases ok.ended token ⟨report, before, same, mode⟩ with ⟨row, last⟩ | ⟨flying, member, ends⟩
      · refine Or.inl ⟨row, ?_⟩
        intro upsert pending named
        change upsert ∈ c.unsent ++ (c.inFlight ++ _) at pending
        rw [← List.append_assoc, List.mem_append] at pending
        rcases pending with old | sent
        · exact last upsert old named
        · obtain ⟨-, token', status⟩ := performUpdate_eq (Option.mem_toList.mp sent)
          intro active
          -- an update that the session is active would have come before the report
          have ordered := ok.queue.ordered.sublist (List.take_sublist (c.taken + 1) _)
          rw [grown, List.pairwise_append] at ordered
          apply ordered.2.2 report before update (List.mem_singleton_self _) mode
            (status.mp active)
          rw [same, ← named, token']
      · exact Or.inr ⟨flying, List.mem_append_left _ member, ends⟩
    · right
      have ends := ok.queue.complete report (List.mem_of_getElem? next) mode
      obtain ⟨upsert, sent⟩ := performUpdate_sends ends
      obtain ⟨-, token', status⟩ := performUpdate_eq sent
      refine ⟨upsert, List.mem_append_right _ (Option.mem_toList.mpr sent), token'.trans same, ?_⟩
      rw [ne_eq, status]
      exact mode

/-- A request other than the one delivered stays in flight. -/
theorem mem_eraseIdx_of_ne {α : Type*} {list : List α} {k : Nat} {a b : α}
    (delivered : list[k]? = some a) (member : b ∈ list) (other : b ≠ a) : b ∈ list.eraseIdx k := by
  obtain ⟨i, here⟩ := List.getElem?_of_mem member
  rw [List.mem_eraseIdx_iff_getElem?]
  refine ⟨i, ?_, here⟩
  rintro rfl
  rw [delivered] at here
  exact other (Option.some.inj here).symm

theorem CloudOk.deliver {p : Platform} {m : Clocks} {k : Nat} {c : Cloud} (ok : CloudOk c)
    (endLast : EndLast (m, .deliver k) c) : CloudOk (cloudStep p (m, .deliver k) c) := by
  unfold EndLast at endLast
  cases sent : c.inFlight[k]? with
  | none =>
    simp only [cloudStep, sent]
    exact ok
  | some upsert =>
    simp only [cloudStep, sent]
    simp only [sent] at endLast
    have flying := List.mem_of_getElem? sent
    have fewer :
      ∀ pending ∈ c.unsent ++ c.inFlight.eraseIdx k, pending ∈ c.unsent ++ c.inFlight := by
      intro pending member
      rw [List.mem_append] at member ⊢
      exact member.imp_right List.mem_of_mem_eraseIdx
    refine ⟨ok.queue, ok.taken, ?_⟩
    intro token taken
    rcases eq_or_ne upsert.sessionToken token with named | other
    · by_cases active : upsert.status = .active
      · rcases ok.ended token taken with ⟨-, last⟩ | ⟨report, member, ends⟩
        · exact absurd active (last upsert (List.mem_append_right _ flying) named)
        · right
          refine ⟨report, mem_eraseIdx_of_ne sent member ?_, ends⟩
          rintro rfl
          exact ends.2 active
      · left
        refine ⟨?_, ?_⟩
        · change RowOver (Function.update c.rows upsert.sessionToken _ token)
          rw [← named, Function.update_self]
          cases status : upsert.status with
          | active => exact absurd status active
          | disconnected => exact Or.inl rfl
          | expired => exact Or.inr rfl
        · intro pending member here
          exact endLast active pending (fewer pending member) (here.trans named.symm)
    · rcases ok.ended token taken with ⟨row, last⟩ | ⟨report, member, ends⟩
      · left
        refine ⟨?_, ?_⟩
        · change RowOver (Function.update c.rows upsert.sessionToken _ token)
          rw [Function.update_of_ne other.symm]
          exact row
        · intro pending member here
          exact last pending (fewer pending member) here
      · right
        refine ⟨report, mem_eraseIdx_of_ne sent member ?_, ends⟩
        rintro rfl
        exact other ends.1

/-- A settled row is that of a session that is over, in every run in which the tokens are fresh and
    no end is delivered before a request that says otherwise. -/
theorem terminal_status_wins (p : Platform) (boot : Nat) (inputs : List (Clocks × Action))
    (fresh : Runs.Guarded (cloudStep p) (GivesFreshToken p) (initCloud boot) inputs)
    (endLast : Runs.Guarded (cloudStep p) EndLast (initCloud boot) inputs) (token : CString)
    (settled : Settled token (Runs.run (cloudStep p) (initCloud boot) inputs)) :
    RowOver ((Runs.run (cloudStep p) (initCloud boot) inputs).rows token) := by
  have ok : CloudOk (Runs.run (cloudStep p) (initCloud boot) inputs) := by
    apply Runs.run_invariant CloudOk (cloudOk_init boot) _ (Runs.guarded_and fresh endLast)
    rintro ⟨m, action⟩ c ok ⟨fresh, endLast⟩
    cases action with
    | operate op => exact ok.operate fresh
    | send k => exact ok.send
    | dequeue => exact ok.dequeue
    | deliver k => exact ok.deliver endLast
  rcases ok.ended token settled.1 with ⟨row, -⟩ | ⟨report, member, named, -⟩
  · exact row
  · exact absurd named (settled.2 report member)

instance (token : CString) (c : Cloud) : Decidable (Settled token c) := by
  unfold Settled EndTaken
  infer_instance

instance (status : Option RowStatus) : Decidable (RowOver status) :=
  inferInstanceAs (Decidable (_ ∨ _))

instance (p : Platform) (input : Clocks × Action) (c : Cloud) :
    Decidable (GivesFreshToken p input c) := by
  unfold GivesFreshToken
  split <;> infer_instance

instance (input : Clocks × Action) (c : Cloud) : Decidable (EndLast input c) := by
  unfold EndLast
  split
  · split <;> infer_instance
  · infer_instance

/-- The station confirms, and the row of its session is created. -/
def rowCreated : List (Clocks × Action) :=
  [(secondsIn 0, .operate (.confirm oneStation (fun _ => 0) 1)),
    (secondsIn 0, .send 0),
    (secondsIn 1, .deliver 0)]

/-- The station leaves, and the update task reports it. -/
def endReported : List (Clocks × Action) :=
  [(secondsIn 660, .operate (.clientDisconnect oneStation 1)),
    (secondsIn 661, .dequeue),
    (secondsIn 662, .deliver 0)]

theorem terminal_status_wins_reported :
    RowOver ((Runs.run (cloudStep somePlatform) (initCloud 1) (rowCreated ++ endReported)).rows
      (generateSessionToken fun _ => 0)) := by
  apply terminal_status_wins
  · exact ⟨by decide +kernel, by decide +kernel, by decide +kernel, by decide +kernel,
      by decide +kernel, by decide +kernel, trivial⟩
  · exact ⟨by decide +kernel, by decide +kernel, by decide +kernel, by decide +kernel,
      by decide +kernel, by decide +kernel, trivial⟩
  · decide +kernel

/-- The heartbeat reads the session before the station leaves, and its request is sent after the
    report of the end has been delivered. -/
def lateHeartbeat : List (Clocks × Action) :=
  rowCreated ++ [(secondsIn 660, .operate (.heartbeat ⟨0, maxClients_pos⟩))] ++
    endReported ++
    [(secondsIn 663, .send 0), (secondsIn 664, .deliver 0)]

theorem active_status_wins :
    ¬ ∀ (p : Platform) (boot : Nat) (inputs : List (Clocks × Action)) (token : CString),
      Runs.Guarded (cloudStep p) (GivesFreshToken p) (initCloud boot) inputs →
        Settled token (Runs.run (cloudStep p) (initCloud boot) inputs) →
          RowOver ((Runs.run (cloudStep p) (initCloud boot) inputs).rows token) := by
  intro claim
  have row := claim somePlatform 1 lateHeartbeat (generateSessionToken fun _ => 0)
    ⟨by decide +kernel, by decide +kernel, by decide +kernel, by decide +kernel,
      by decide +kernel, by decide +kernel, by decide +kernel, by decide +kernel,
      by decide +kernel, trivial⟩ (by decide +kernel)
  revert row
  decide +kernel

end SolarConnect.Supabase
