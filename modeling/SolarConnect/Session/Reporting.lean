import SolarConnect.Session.Bystanders
import SolarConnect.Session.Reports
import SolarConnect.Session.Usage

/-!
# Reports of ended sessions

A revocation reports the end of its session. The sweep of a refresh ends sessions too, and
`start_or_resume_session` writes its slot whatever session is in it; neither queues anything.
-/

namespace SolarConnect.Session

open Slots

/-- The session of a slot is over, or the slot has another token. -/
def Leaves (session session' : ClientSession) : Prop :=
  session'.active = false ∨ session'.token ≠ session.token

instance (session session' : ClientSession) : Decidable (Leaves session session') :=
  inferInstanceAs (Decidable (_ ∨ _))

/-- The update reports the end of the session with the token. -/
def endReport (token : CString) (update : PendingSupabaseUpdate) : Bool :=
  update.token == token && update.mode != .active

/-- The updates queued from `s` to `s'`. -/
def queuedSince (s s' : Server) : List PendingSupabaseUpdate :=
  s'.updates.drop s.updates.length

/-- The end of the session with the token is reported once, and was not before. -/
def ReportedOnce (token : CString) (s s' : Server) : Prop :=
  (queuedSince s s').countP (endReport token) = 1 ∧ s.updates.countP (endReport token) = 0

instance (token : CString) (s s' : Server) : Decidable (ReportedOnce token s s') :=
  inferInstanceAs (Decidable (_ ∧ _))

/-- Every session with a row that leaves is reported. -/
def LeftReported (s s' : Server) : Prop :=
  ∀ j, HasRow (s.sessions j) → Leaves (s.sessions j) (s'.sessions j) →
    ReportedOnce (s.sessions j).token s s'

instance (s s' : Server) : Decidable (LeftReported s s') :=
  inferInstanceAs (Decidable (∀ _, _))

/-- The bound session has a row. -/
def BoundRow.Sent (row : BoundRow) : Prop :=
  row.token ≠ [] ∧ row.deviceHash ≠ []

instance (row : BoundRow) : Decidable row.Sent :=
  inferInstanceAs (Decidable (_ ∧ _))

/-- The session that an operation binds is reported too, if it has a row and is over again when the
    operation returns. -/
def BoundReported (p : Platform) (input : Input) (s s' : Server) : Prop :=
  ∀ row ∈ boundRow p input.1 input.2 s, row.Sent → (s'.sessions row.slot).active = false →
    ReportedOnce row.token s s'

instance (p : Platform) (input : Input) (s s' : Server) : Decidable (BoundReported p input s s') :=
  Option.decidableForallMem _

/-- Every session with a row that an operation ends is reported once, and was not before. -/
def EndsReported (p : Platform) (input : Input) (s : Server) : Prop :=
  LeftReported s (stepInput p input s) ∧ BoundReported p input s (stepInput p input s)

instance (p : Platform) (input : Input) (s : Server) : Decidable (EndsReported p input s) :=
  inferInstanceAs (Decidable (_ ∧ _))

/-- The token an operation binds is on no other session, and no end was reported for it. -/
def FreshToken (p : Platform) (input : Input) (s : Server) : Prop :=
  ∀ row ∈ boundRow p input.1 input.2 s, row.token ≠ [] →
    (∀ j, j ≠ row.slot → (s.sessions j).active = true → (s.sessions j).token ≠ row.token) ∧
      ∀ update ∈ s.updates, endReport row.token update = false

instance (p : Platform) (input : Input) (s : Server) : Decidable (FreshToken p input s) :=
  Option.decidableForallMem _

/-- Every expired session with a row that the refresh of an operation finds is the first one that
    the operation revokes or is in the slot it binds; a session with a row keeps its token when its
    slot is bound; and a bound session with a row is not over when the refresh reads the timer. -/
structure ReportsEnds (p : Platform) (input : Input) (s : Server) : Prop where
  swept : Refreshes p input.1 input.2 s → ∀ j, HasRow (s.sessions j) →
    Expired (lastRefresh p input.1 input.2 s).now (s.sessions j) →
      firstRevoked input.1.now input.2 s.sessions = some j ∨
        (boundRow p input.1 input.2 s).map BoundRow.slot = some j
  kept : ∀ row ∈ boundRow p input.1 input.2 s, HasRow (s.sessions row.slot) →
    (s.sessions row.slot).token = row.token
  outlasts : ∀ row ∈ boundRow p input.1 input.2 s, HasRow (s.sessions row.slot) ∨ row.Sent →
    input.1.closed < row.endTime

/-! ## Tokens -/

/-- Tokens fit their field, no two sessions have the same one, and none is that of a session
    whose end has been reported. -/
structure Tokens (s : Server) : Prop where
  short : ∀ i, (s.sessions i).active = true → (s.sessions i).token.length < sessionTokenLen
  apart : ∀ i j, (s.sessions i).active = true → (s.sessions j).active = true →
    (s.sessions i).token ≠ [] → (s.sessions i).token = (s.sessions j).token → i = j
  unreported : ∀ i, (s.sessions i).active = true → (s.sessions i).token ≠ [] →
    s.updates.countP (endReport (s.sessions i).token) = 0

/-! ## What is reported -/

theorem queuedSince_eq {s s' : Server} {new : List PendingSupabaseUpdate}
    (queued : s'.updates = s.updates ++ new) : queuedSince s s' = new := by
  rw [queuedSince, queued, List.drop_left]

theorem ReportsNone.count {p : Platform} {m : Clocks} {op : Operation} {s s' : Server}
    (silent : ReportsNone p m op s s') (token : CString) :
    (queuedSince s s').countP (endReport token) = 0 ∧
      s'.updates.countP (endReport token) = s.updates.countP (endReport token) := by
  obtain ⟨new, queued, active⟩ := silent
  have none : new.countP (endReport token) = 0 := by
    rw [List.countP_eq_zero]
    intro update member
    simp [endReport, (active update member).1]
  rw [queuedSince_eq queued, queued, List.countP_append, none]
  exact ⟨rfl, rfl⟩

theorem ReportsNone.not_reported {p : Platform} {m : Clocks} {op : Operation} {s s' : Server}
    (silent : ReportsNone p m op s s') (token : CString) : ¬ ReportedOnce token s s' := by
  rintro ⟨once, -⟩
  rw [(silent.count token).1] at once
  cases once

/-- The updates queued for the end of a session: one if it has a row and is revoked. -/
theorem Announces.count {now : Nat} {list : List (Fin maxClients)} {s s' : Server}
    (announced : Announces now list s s') (tokens : Tokens s) {j : Fin maxClients}
    (active : (s.sessions j).active = true) (present : (s.sessions j).token ≠ []) :
    (queuedSince s s').countP (endReport (s.sessions j).token) =
      if j ∈ list ∧ HasRow (s.sessions j) then 1 else 0 := by
  obtain ⟨new, queued, ended, same⟩ := announced.queued
  have live : ∀ i ∈ list, (s.sessions i).active = true :=
    fun i member => announced.ends.active i (Or.inl member)
  have named : (list.filter fun i => HasRow (s.sessions i)).map
        (fun i => strlcpy sessionTokenLen (s.sessions i).token) =
      (list.filter fun i => HasRow (s.sessions i)).map fun i => (s.sessions i).token := by
    apply List.map_congr_left
    intro i member
    exact strlcpy_of_short (tokens.short i (live i (List.mem_of_mem_filter member)))
  have counted : new.countP (endReport (s.sessions j).token) =
      (new.map PendingSupabaseUpdate.token).count (s.sessions j).token := by
    rw [List.count, List.countP_map]
    apply List.countP_congr
    intro update member
    simp [endReport, (ended update member).1]
  rw [queuedSince_eq queued, counted, same, named]
  split
  · rename_i revoked
    apply List.count_eq_one_of_mem
    · apply (announced.nodup.filter _).map_on
      intro i inside k inside' alike
      have row := List.of_mem_filter inside
      rw [decide_eq_true_eq] at row
      exact tokens.apart i k row.1 (live k (List.mem_of_mem_filter inside')) row.2.1 alike
    · apply List.mem_map_of_mem
      rw [List.mem_filter]
      exact ⟨revoked.1, decide_eq_true revoked.2⟩
  · rename_i other
    rw [List.count_eq_zero]
    intro member
    obtain ⟨i, inside, alike⟩ := List.mem_map.mp member
    have listed := live i (List.mem_of_mem_filter inside)
    rw [← tokens.apart j i active listed present alike.symm, List.mem_filter,
      decide_eq_true_eq] at inside
    exact other inside

theorem Announces.leaves_iff {now : Nat} {list : List (Fin maxClients)} {s s' : Server}
    (announced : Announces now list s s') {j : Fin maxClients}
    (active : (s.sessions j).active = true) :
    Leaves (s.sessions j) (s'.sessions j) ↔ j ∈ list ∨ Expired now (s.sessions j) := by
  constructor
  · intro leaves
    by_contra other
    have same := (announced.ends.kept j active other).sameRow
    simp only [gate_sessions] at same
    rw [Leaves, same.active, same.token, active] at leaves
    simp at leaves
  · intro ended
    exact Or.inl (announced.ends.inactive j ended)

/-- Revoking sessions reports every end, if and only if no session with a row is expired but the
    first one revoked. -/
theorem Announces.reported_iff {now : Nat} {list : List (Fin maxClients)} {s s' : Server}
    (announced : Announces now list s s') (tokens : Tokens s) :
    LeftReported s s' ↔
      ∀ j, HasRow (s.sessions j) → Expired now (s.sessions j) → list.head? = some j := by
  constructor
  · intro reported j row expired
    have once := (reported j row ((announced.leaves_iff row.1).mpr (Or.inr expired))).1
    rw [announced.count tokens row.1 row.2.1] at once
    have member : j ∈ list := by
      by_contra other
      rw [if_neg fun revoked => other revoked.1] at once
      cases once
    exact announced.first j member expired
  · intro first j row leaves
    have member : j ∈ list := by
      rcases (announced.leaves_iff row.1).mp leaves with member | expired
      · exact member
      · exact List.mem_of_mem_head? (first j row expired)
    rw [ReportedOnce, announced.count tokens row.1 row.2.1, if_pos ⟨member, row⟩]
    exact ⟨rfl, tokens.unreported j row.1 row.2.1⟩

theorem Tokens.of_rows {s t : Server} (tokens : Tokens s)
    (rows : ∀ j, SameRow (s.sessions j) (t.sessions j))
    (reports : ∀ token, t.updates.countP (endReport token) = s.updates.countP (endReport token)) :
    Tokens t := by
  constructor
  · intro i active
    rw [(rows i).active] at active
    rw [(rows i).token]
    exact tokens.short i active
  · intro i j activeI activeJ present alike
    rw [(rows i).active] at activeI
    rw [(rows j).active] at activeJ
    rw [(rows i).token] at present alike
    rw [(rows j).token] at alike
    exact tokens.apart i j activeI activeJ present alike
  · intro i active present
    rw [(rows i).active] at active
    rw [(rows i).token] at present ⊢
    rw [reports]
    exact tokens.unreported i active present

/-! ## Starts -/

theorem searchedTable_running {m : Clocks} (req : StartRequest) {sessions : SessionTable}
    {j : Fin maxClients} (running : m.closed < (sessions j).endTime) :
    searchedTable m req sessions j = sessions j := by
  unfold searchedTable liveTable
  split
  · exact if_neg fun expired => Nat.not_lt.mpr expired.2.2 (m.closes.trans_lt running)
  · rfl

/-- The session in the slot stays exactly if the bound one has the same token and outlasts the
    refresh. -/
theorem StartEffect.slot_leaves_iff {m : Clocks} {req : StartRequest} {g g' : Gate}
    (effect : StartEffect m req g g') :
    Leaves (g.sessions (requestBinding m req g.sessions).slot)
        (g'.sessions (requestBinding m req g.sessions).slot) ↔
      ¬ (Outlasts m req g.sessions ∧ (g.sessions (requestBinding m req g.sessions).slot).token =
        boundToken req (requestBinding m req g.sessions)) := by
  rw [Leaves, ← effect.slot_active]
  cases active : (g'.sessions (requestBinding m req g.sessions).slot).active with
  | false => simp
  | true =>
    obtain ⟨dayId, slot⟩ := effect.slot active
    rw [slot]
    simp [boundSession_token, eq_comm]

/-- Another session leaves by a start exactly when it is expired by the last refresh. -/
theorem StartEffect.other_leaves_iff {m : Clocks} {req : StartRequest} {g g' : Gate}
    (effect : StartEffect m req g g') (timed : Timed g.sessions) {j : Fin maxClients}
    (elsewhere : j ≠ (requestBinding m req g.sessions).slot)
    (active : (g.sessions j).active = true) :
    Leaves (g.sessions j) (g'.sessions j) ↔ Expired m.closed (g.sessions j) := by
  constructor
  · intro leaves
    by_contra unexpired
    have running : m.closed < (g.sessions j).endTime := by
      by_contra late
      exact unexpired ⟨active, (timed j active).2, Nat.not_lt.mp late⟩
    obtain ⟨dayId, opened, mid, -, sweeps, rfl⟩ := effect
    have same := sweeps.kept elsewhere (searchedTable_running req running) active running
    have row := same.sameRow
    rw [Leaves, row.active, row.token, active] at leaves
    simp at leaves
  · intro expired
    left
    by_contra live
    exact (effect.other elsewhere (by simpa using live)).1 expired

theorem SameRow.leaves_iff {a b b' : ClientSession} (same : SameRow b b') :
    Leaves a b' ↔ Leaves a b := by
  rw [Leaves, same.active, same.token, Leaves]

/-- A start reports nothing, so it must not end a session with a row. -/
theorem StepReports.starts_iff {p : Platform} {m : Clocks} {op : Operation} {s s' : Server}
    {req : StartRequest} {mid : Gate} (request : requestOf p m op s = some req)
    (binds : Binds req) (effect : StartEffect m req s.gate mid)
    (rows : ∀ j, SameRow (mid.sessions j) (s'.sessions j))
    (silent : ReportsNone p m op s s') :
    LeftReported s s' ∧ BoundReported p (m, op) s s' ↔
      (∀ j, HasRow (s.sessions j) → ¬ Leaves (s.sessions j) (mid.sessions j)) ∧
        (BoundRow.Sent ⟨(requestBinding m req s.sessions).slot,
            boundToken req (requestBinding m req s.sessions),
            boundHash req (requestBinding m req s.sessions), boundEnd m req s.sessions⟩ →
          Outlasts m req s.sessions) := by
  have active := effect.slot_active
  rw [gate_sessions, ← (rows _).active] at active
  have bound := boundRow_eq request binds
  apply and_congr
  · constructor
    · intro reported j row leaves
      exact silent.not_reported _ (reported j row ((rows j).leaves_iff.mpr leaves))
    · intro stays j row leaves
      exact absurd ((rows j).leaves_iff.mp leaves) (stays j row)
  · constructor
    · intro reported sent
      rw [← active]
      by_contra finished
      exact silent.not_reported _
        (reported _ bound sent (Bool.not_eq_true _ ▸ finished))
    · intro outlasts row here sent finished
      obtain rfl := Option.some.inj (bound.symm.trans here)
      rw [active.mpr (outlasts sent)] at finished
      cases finished

/-! ## Steps -/

/-- Where nothing is bound, the condition is about the refresh alone. -/
theorem ReportsEnds.unbound_iff {p : Platform} {m : Clocks} {op : Operation} {s : Server}
    (unbound : boundRow p m op s = none) (refreshes : Refreshes p m op s) :
    ReportsEnds p (m, op) s ↔
      ∀ j, HasRow (s.sessions j) → Expired (lastRefresh p m op s).now (s.sessions j) →
        firstRevoked m.now op s.sessions = some j := by
  have none : ∀ row, row ∉ boundRow p m op s := by
    intro row bound
    rw [unbound] at bound
    cases bound
  constructor
  · intro reports j row expired
    rcases reports.swept refreshes j row expired with here | here
    · exact here
    · rw [unbound] at here
      cases here
  · intro first
    exact ⟨fun _ j row expired => Or.inl (first j row expired),
      fun row bound => absurd bound (none row), fun row bound => absurd bound (none row)⟩

/-- Where a session is bound and none is revoked, the condition says that no session with a row
    leaves, and that the one bound stays. -/
theorem ReportsEnds.starts_iff {p : Platform} {m : Clocks} {op : Operation} {s : Server}
    {req : StartRequest} {mid : Gate} (timed : Timed s.sessions)
    (request : requestOf p m op s = some req) (binds : Binds req)
    (effect : StartEffect m req s.gate mid) (refreshes : Refreshes p m op s)
    (first : firstRevoked m.now op s.sessions = none) :
    ReportsEnds p (m, op) s ↔
      (∀ j, HasRow (s.sessions j) → ¬ Leaves (s.sessions j) (mid.sessions j)) ∧
        (BoundRow.Sent ⟨(requestBinding m req s.sessions).slot,
            boundToken req (requestBinding m req s.sessions),
            boundHash req (requestBinding m req s.sessions), boundEnd m req s.sessions⟩ →
          Outlasts m req s.sessions) := by
  have bound := boundRow_eq request binds
  have reading := lastRefresh_binds request binds
  have slot := effect.slot_leaves_iff
  have other := fun {j} => effect.other_leaves_iff timed (j := j)
  simp only [gate_sessions] at slot other
  constructor
  · intro reports
    refine ⟨?_, fun sent => reports.outlasts _ bound (Or.inr sent)⟩
    intro j row leaves
    rcases eq_or_ne j (requestBinding m req s.sessions).slot with rfl | elsewhere
    · exact slot.mp leaves
        ⟨reports.outlasts _ bound (Or.inl row), reports.kept _ bound row⟩
    · have expired := (other elsewhere row.1).mp leaves
      rw [← closing_now, ← reading] at expired
      rcases reports.swept refreshes j row expired with here | here
      · rw [first] at here
        cases here
      · rw [bound] at here
        exact elsewhere (Option.some.inj here).symm
  · rintro ⟨stays, sent⟩
    have own : HasRow (s.sessions (requestBinding m req s.sessions).slot) → _ :=
      fun row => not_not.mp ((not_congr slot).mp (stays _ row))
    refine ⟨?_, ?_, ?_⟩
    · intro _ j row expired
      right
      rw [bound]
      by_contra elsewhere
      rw [reading] at expired
      refine stays j row ((other (fun same => elsewhere ?_) row.1).mpr expired)
      rw [same]
      rfl
    · intro row here before
      obtain rfl := Option.some.inj (bound.symm.trans here)
      exact (own before).2
    · intro row here given
      obtain rfl := Option.some.inj (bound.symm.trans here)
      exact given.elim (fun before => (own before).1) sent

/-- An operation reports the sessions it ends exactly when `ReportsEnds` holds. -/
theorem step_reported_iff {p : Platform} {input : Input} {s : Server} (timed : Timed s.sessions)
    (tokens : Tokens s) : EndsReported p input s ↔ ReportsEnds p input s := by
  obtain ⟨m, op⟩ := input
  change LeftReported s (step p m op s) ∧ BoundReported p (m, op) s (step p m op s) ↔ _
  cases step_reports p m op timed with
  | quiet rows silent rests =>
    have unbound : ∀ row, row ∉ boundRow p m op s :=
      fun row bound => rests (boundRow_refreshes bound)
    apply iff_of_true
    · refine ⟨fun j row leaves => ?_, fun row bound => absurd bound (unbound row)⟩
      rw [Leaves, (rows j).active, (rows j).token, row.1] at leaves
      simp at leaves
    · exact ⟨fun refreshes => absurd refreshes rests,
        fun row bound => absurd bound (unbound row), fun row bound => absurd bound (unbound row)⟩
  | announces t rows updates now reading list announced refreshes first unbound =>
    have source : LeftReported s (step p m op s) ↔ LeftReported t (step p m op s) := by
      unfold LeftReported ReportedOnce queuedSince
      apply forall_congr'
      intro j
      rw [(rows j).hasRow_iff, (rows j).token, updates, Leaves, Leaves, (rows j).token]
    have bound : BoundReported p (m, op) s (step p m op s) := by
      intro row here
      rw [unbound] at here
      cases here
    rw [and_iff_left bound, source,
      announced.reported_iff (tokens.of_rows rows fun _ => by rw [updates]),
      ReportsEnds.unbound_iff unbound refreshes, first, reading]
    apply forall_congr'
    intro j
    rw [(rows j).hasRow_iff, (rows j).expired_iff]
  | starts req request binds mid effect rows silent refreshes first =>
    exact (StepReports.starts_iff request binds effect rows silent).trans
      (ReportsEnds.starts_iff timed request binds effect refreshes first).symm

/-! ## Runs -/

theorem tokens_init (boot : Nat) : Tokens (initSessions boot) := by
  constructor
  · intro i active
    cases active
  · intro i j active
    cases active
  · intro i active
    cases active

theorem boundToken_short (req : StartRequest) {b : Binding}
    (short : b.reuse = true → (b.dropped b.slot).token.length < sessionTokenLen) :
    (boundToken req b).length < sessionTokenLen := by
  have given : ∀ field : CString, field.length < sessionTokenLen →
      (setString sessionTokenLen field req.token).length < sessionTokenLen := by
    intro field short
    unfold setString
    split
    · exact short
    · split
      · exact strlcpy_short (by decide) _
      · exact short
  unfold boundToken
  split
  · rename_i reuse
    rw [reusedSession]
    dsimp only
    split
    · exact given _ (short reuse)
    · exact short reuse
  · exact given [] (by decide)

/-- The token that a request binds fits its field. -/
theorem boundToken_fits {m : Clocks} {s : Server} (tokens : Tokens s) (req : StartRequest) :
    (boundToken req (requestBinding m req s.sessions)).length < sessionTokenLen := by
  apply boundToken_short
  intro reuse
  have live := (boundSession_running m 0 req s.sessions).1
  rw [boundSession, if_pos reuse] at live
  change ((requestBinding m req s.sessions).dropped _).active = true at live
  have same := (dropped_active live).2
  rw [same] at live ⊢
  exact tokens.short _ live

theorem Tokens.boundRow_fits {p : Platform} {m : Clocks} {op : Operation} {s : Server}
    (tokens : Tokens s) {row : BoundRow} (bound : row ∈ boundRow p m op s) :
    row.token.length < sessionTokenLen := by
  unfold boundRow at bound
  split at bound
  · split at bound
    · cases bound
      exact boundToken_fits tokens _
    · cases bound
  · cases bound

/-- The sessions that go on keep their tokens, and none of these is reported. -/
theorem Announces.tokens {now : Nat} {list : List (Fin maxClients)} {s s' : Server}
    (announced : Announces now list s s') (tokens : Tokens s) : Tokens s' := by
  have survivor : ∀ {j}, (s'.sessions j).active = true →
      ¬ (j ∈ list ∨ Expired now (s.sessions j)) ∧ (s.sessions j).active = true ∧
        (s'.sessions j).token = (s.sessions j).token := by
    intro j active
    obtain ⟨other, before, same⟩ := announced.ends.survivor active
    exact ⟨other, before, same.sameRow.token⟩
  constructor
  · intro i active
    obtain ⟨-, before, same⟩ := survivor active
    rw [same]
    exact tokens.short i before
  · intro i j activeI activeJ present alike
    obtain ⟨-, beforeI, sameI⟩ := survivor activeI
    obtain ⟨-, beforeJ, sameJ⟩ := survivor activeJ
    rw [sameI] at present alike
    rw [sameJ] at alike
    exact tokens.apart i j beforeI beforeJ present alike
  · intro i active present
    obtain ⟨other, before, same⟩ := survivor active
    rw [same] at present ⊢
    have none := announced.count tokens before present
    rw [if_neg fun revoked => other (Or.inl revoked.1)] at none
    obtain ⟨new, queued, -⟩ := announced.queued
    rw [queuedSince_eq queued] at none
    rw [queued, List.countP_append, none, tokens.unreported i before present]

/-- The session of a start has a fresh token, or keeps its own. -/
theorem StartEffect.tokens {p : Platform} {m : Clocks} {op : Operation} {s s' : Server}
    {req : StartRequest} {mid : Gate} (effect : StartEffect m req s.gate mid)
    (rows : ∀ j, SameRow (mid.sessions j) (s'.sessions j)) (tokens : Tokens s)
    (silent : ReportsNone p m op s s')
    (fresh : boundToken req (requestBinding m req s.sessions) ≠ [] →
      (∀ j, j ≠ (requestBinding m req s.sessions).slot → (s.sessions j).active = true →
        (s.sessions j).token ≠ boundToken req (requestBinding m req s.sessions)) ∧
      ∀ update ∈ s.updates,
        endReport (boundToken req (requestBinding m req s.sessions)) update = false) :
    Tokens s' := by
  have short := boundToken_fits tokens req (m := m)
  have token : ∀ {i}, i = (requestBinding m req s.sessions).slot →
      (s'.sessions i).active = true →
        (s'.sessions i).token = boundToken req (requestBinding m req s.sessions) := by
    rintro i rfl active
    rw [(rows _).active] at active
    obtain ⟨dayId, slot⟩ := effect.slot active
    have same := slot.sameRow.token
    rw [boundSession_token] at same
    exact (rows _).token.trans same
  have other : ∀ {j}, j ≠ (requestBinding m req s.sessions).slot →
      (s'.sessions j).active = true →
        (s.sessions j).active = true ∧ (s'.sessions j).token = (s.sessions j).token := by
    intro j elsewhere active
    rw [(rows j).active] at active
    obtain ⟨-, -, same⟩ := effect.other elsewhere active
    rw [same.sameRow.active] at active
    exact ⟨active, (rows j).token.trans same.sameRow.token⟩
  generalize requestBinding m req s.sessions = b at short token other fresh
  constructor
  · intro i active
    rcases eq_or_ne i b.slot with here | elsewhere
    · rw [token here active]
      exact short
    · obtain ⟨before, same⟩ := other elsewhere active
      rw [same]
      exact tokens.short i before
  · intro i j activeI activeJ present alike
    rcases eq_or_ne i b.slot with hereI | elsewhereI
    · rcases eq_or_ne j b.slot with hereJ | elsewhereJ
      · exact hereI.trans hereJ.symm
      · obtain ⟨before, same⟩ := other elsewhereJ activeJ
        rw [token hereI activeI] at present alike
        rw [same] at alike
        exact absurd alike.symm ((fresh present).1 j elsewhereJ before)
    · obtain ⟨beforeI, sameI⟩ := other elsewhereI activeI
      rw [sameI] at present alike
      rcases eq_or_ne j b.slot with hereJ | elsewhereJ
      · rw [token hereJ activeJ] at alike
        rw [alike] at present
        exact absurd alike ((fresh present).1 i elsewhereI beforeI)
      · obtain ⟨beforeJ, sameJ⟩ := other elsewhereJ activeJ
        rw [sameJ] at alike
        exact tokens.apart i j beforeI beforeJ present alike
  · intro i active present
    rw [(silent.count _).2]
    rcases eq_or_ne i b.slot with here | elsewhere
    · rw [token here active] at present ⊢
      rw [List.countP_eq_zero]
      intro update member
      simp [(fresh present).2 update member]
    · obtain ⟨before, same⟩ := other elsewhere active
      rw [same] at present ⊢
      exact tokens.unreported i before present

theorem Tokens.step {p : Platform} {input : Input} {s : Server} (timed : Timed s.sessions)
    (tokens : Tokens s) (fresh : FreshToken p input s) : Tokens (stepInput p input s) := by
  obtain ⟨m, op⟩ := input
  change Tokens (SolarConnect.Session.step p m op s)
  cases step_reports p m op timed with
  | quiet rows silent rests => exact tokens.of_rows rows fun token => (silent.count token).2
  | announces t rows updates now reading list announced refreshes first unbound =>
    exact announced.tokens (tokens.of_rows rows fun _ => by rw [updates])
  | starts req request binds mid effect rows silent refreshes first =>
    exact effect.tokens rows tokens silent (fresh _ (boundRow_eq request binds))

/-- The token of an active session is that of no report. -/
theorem Tokens.unlike {s : Server} (tokens : Tokens s) {i : Fin maxClients}
    (active : (s.sessions i).active = true) {update : PendingSupabaseUpdate}
    (member : update ∈ s.updates) (mode : update.mode ≠ .active) (given : update.token ≠ []) :
    update.token ≠ (s.sessions i).token := by
  intro same
  rw [same] at given
  have none := tokens.unreported i active given
  rw [List.countP_eq_zero] at none
  exact none update member (by simp [endReport, same, mode])

/-- The token an operation binds is that of no report so far. -/
theorem FreshToken.unlike {p : Platform} {m : Clocks} {op : Operation} {s : Server}
    (fresh : FreshToken p (m, op) s) {row : BoundRow} (bound : row ∈ boundRow p m op s)
    {update : PendingSupabaseUpdate} (member : update ∈ s.updates) (mode : update.mode ≠ .active)
    (given : update.token ≠ []) : update.token ≠ row.token := by
  intro same
  rw [same] at given
  have none := (fresh row bound given).2 update member
  simp [endReport, same, mode] at none

/-- In a run in which every token given to a session is fresh, every operation reports the sessions
    it ends, if and only if every step meets `ReportsEnds`. -/
theorem ended_sessions_reported_iff (p : Platform) (boot : Nat) (inputs : List Input)
    (fresh : Runs.Guarded (stepInput p) (FreshToken p) (initSessions boot) inputs) :
    Runs.Guarded (stepInput p) (EndsReported p) (initSessions boot) inputs ↔
      Runs.Guarded (stepInput p) (ReportsEnds p) (initSessions boot) inputs := by
  apply Runs.guarded_congr (fun s => Timed s.sessions ∧ Tokens s)
    ⟨timed_init boot, tokens_init boot⟩
    fresh
  · rintro input s ⟨timed, tokens⟩ fresh
    exact ⟨timed.step, tokens.step timed fresh⟩
  · rintro input s ⟨timed, tokens⟩ -
    exact step_reported_iff timed tokens

/-- The station leaves after ten minutes. -/
def leavesEarly : List Input :=
  firstMinute ++ [(secondsIn 660, .clientDisconnect oneStation 1)]

theorem ended_sessions_reported_iff_early :
    Runs.Guarded (stepInput somePlatform) (EndsReported somePlatform) (initSessions 1)
        leavesEarly ↔
      Runs.Guarded (stepInput somePlatform) (ReportsEnds somePlatform) (initSessions 1)
        leavesEarly := by
  apply ended_sessions_reported_iff
  exact ⟨by decide +kernel, by decide +kernel, by decide +kernel, trivial⟩

/-- The hour of the first station is over when the second one confirms: the refresh ends the first
    session, and its row stays as it is. -/
def confirmsAfterHour : List Input :=
  [(secondsIn 0, .confirm (twoStations true) (fun _ => 0) 1),
    (secondsIn 3604, .confirm (twoStations true) (fun _ => 1) 2)]

theorem expired_session_not_reported :
    ¬ ∀ (p : Platform) (boot : Nat) (inputs : List Input),
      Runs.Guarded (stepInput p) (FreshToken p) (initSessions boot) inputs →
        Runs.Guarded (stepInput p) (EndsReported p) (initSessions boot) inputs := by
  intro claim
  have reported := claim somePlatform 1 confirmsAfterHour
    ⟨by decide +kernel, by decide +kernel, trivial⟩
  have second := reported.2.1
  revert second
  decide +kernel

end SolarConnect.Session
