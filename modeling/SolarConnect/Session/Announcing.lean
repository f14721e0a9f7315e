import SolarConnect.Session.Access

/-!
# Announcing the end of sessions

`revoke_session` queues an update for the Supabase row of the session it ends. A refresh ends
sessions too, and queues nothing.
-/

namespace SolarConnect.Session

open Slots

/-! ## Rows -/

/-- A session with a row at Supabase. -/
def HasRow (session : ClientSession) : Prop :=
  session.active = true ∧ session.token ≠ [] ∧ session.deviceHash ≠ []

instance (session : ClientSession) : Decidable (HasRow session) :=
  inferInstanceAs (Decidable (_ ∧ _ ∧ _))
/-- The same row: the sessions agree in all that decides about the row. -/
structure SameRow (session session' : ClientSession) : Prop where
  active : session'.active = session.active
  token : session'.token = session.token
  deviceHash : session'.deviceHash = session.deviceHash
  endTime : session'.endTime = session.endTime

theorem sameRow_refl (session : ClientSession) : SameRow session session :=
  ⟨rfl, rfl, rfl, rfl⟩

theorem SameSession.sameRow {a b : ClientSession} (same : SameSession a b) : SameRow a b := by
  rw [same]
  exact ⟨rfl, rfl, rfl, rfl⟩

theorem SameRow.hasRow_iff {a b : ClientSession} (same : SameRow a b) : HasRow b ↔ HasRow a := by
  rw [HasRow, same.active, same.token, same.deviceHash, HasRow]

theorem SameRow.expired_iff {a b : ClientSession} (same : SameRow a b) (now : Nat) :
    Expired now b ↔ Expired now a := by
  rw [Expired, same.active, same.endTime, Expired]

/-- Writing a session with the same row to its slot. -/
theorem SameRow.update {sessions : SessionTable} {i : Fin maxClients} {session : ClientSession}
    (same : SameRow (sessions i) session) (j : Fin maxClients) :
    SameRow (sessions j) (Function.update sessions i session j) := by
  rcases eq_or_ne j i with rfl | elsewhere
  · rw [Function.update_self]
    exact same
  · rw [Function.update_of_ne elsewhere]
    exact sameRow_refl _

theorem strlcpy_of_short {size : Nat} {src : CString} (short : src.length < size) :
    strlcpy size src = src := by
  apply List.take_of_length_le
  omega

theorem strlcpy_short {size : Nat} (positive : 0 < size) (src : CString) :
    (strlcpy size src).length < size := by
  rw [strlcpy, List.length_take]
  omega

theorem strlcpy_ne_nil {size : Nat} {src : CString} (room : 1 < size) (given : src ≠ []) :
    strlcpy size src ≠ [] := by
  rw [strlcpy, ne_eq, List.take_eq_nil_iff, not_or]
  exact ⟨by omega, given⟩

/-! ## Announcements -/

/-- The update is complete, and its status is that of a session that is over. -/
def EndsRow (update : PendingSupabaseUpdate) : Prop :=
  update.mode ≠ .active ∧ update.token ≠ [] ∧ update.deviceHash ≠ []

/-- From `s` to `s'` the listed sessions are revoked, in order, and those expired end: all but the
    first of the list were not expired, and for those with a row an update is queued. -/
structure Announces (now : Nat) (list : List (Fin maxClients)) (s s' : Server) : Prop where
  ends : Ends (fun j => j ∈ list ∨ Expired now (s.sessions j)) s.gate s'.gate
  nodup : list.Nodup
  first : ∀ i ∈ list, Expired now (s.sessions i) → list.head? = some i
  queued : ∃ new, s'.updates = s.updates ++ new ∧ (∀ update ∈ new, EndsRow update) ∧
    new.map PendingSupabaseUpdate.token =
      (list.filter fun i => HasRow (s.sessions i)).map
        fun i => strlcpy sessionTokenLen (s.sessions i).token

theorem refresh_updates (p : Platform) (m : Moment) (s : Server) :
    (refreshPortalAuthState p m s).updates = s.updates := by
  obtain ⟨t, -, -, same, result⟩ := refresh_cases p m s
  rw [← same]
  rcases result with result | result
  · rw [result]
  · rw [result, maybeDisableNaptIfIdle]
    split <;> rfl

theorem refresh_announces (p : Platform) (m : Moment) (s : Server) :
    Announces m.now [] s (refreshPortalAuthState p m s) where
  ends := by
    apply (refresh_ends p m s).congr
    intro j
    simp
  nodup := List.nodup_nil
  first i member := absurd member List.not_mem_nil
  queued := by
    refine ⟨[], ?_, ?_, rfl⟩
    · rw [refresh_updates, List.append_nil]
    · intro update member
      cases member

theorem revoke_updates (p : Platform) (m : Moment) {i : Fin maxClients} (disconnected : Bool)
    {s : Server} (active : (s.sessions i).active = true) :
    ∃ new, (revokeSession p m i disconnected s).updates = s.updates ++ new ∧
      (∀ update ∈ new, EndsRow update) ∧
        new.map PendingSupabaseUpdate.token =
          ([i].filter fun i => HasRow (s.sessions i)).map
            fun i => strlcpy sessionTokenLen (s.sessions i).token := by
  have updates : (refreshPortalAuthState p m (closeSlot p m i s)).updates = s.updates :=
    refresh_updates p m _
  rw [revokeSession, if_neg (by simp [active])]
  dsimp only
  split
  · rename_i missing
    have none : ¬ HasRow (s.sessions i) := by
      rintro ⟨-, token, hash⟩
      exact missing.elim token hash
    refine ⟨[], ?_, ?_, ?_⟩
    · rw [updates, List.append_nil]
    · intro update member
      cases member
    · simp [none]
  · rename_i present
    have row : HasRow (s.sessions i) := ⟨active, not_or.mp present⟩
    refine ⟨_, congrArg (· ++ _) updates, ?_, ?_⟩
    · intro update member
      rw [List.mem_singleton.mp member]
      refine ⟨?_, strlcpy_ne_nil (by decide) row.2.1, strlcpy_ne_nil (by decide) row.2.2⟩
      cases disconnected <;> simp
    · simp [row]

theorem revoke_announces (p : Platform) (m : Moment) {i : Fin maxClients} (disconnected : Bool)
    {s : Server} (active : (s.sessions i).active = true) :
    Announces m.now [i] s (revokeSession p m i disconnected s) where
  ends := by
    apply (revoke_ends p m i disconnected s).congr
    intro j
    simp [active]
  nodup := List.nodup_singleton i
  first j member _ := by
    rw [List.mem_singleton.mp member]
    rfl
  queued := revoke_updates p m disconnected active

/-- Revoking more sessions at the same time. -/
theorem Announces.trans {now : Nat} {first second : List (Fin maxClients)} {s t u : Server}
    (one : Announces now first s t) (two : Announces now second t u) :
    Announces now (first ++ second) s u := by
  -- the sessions expired in `s` have ended, so in `t` none is
  have unexpired : ∀ j, ¬ Expired now (t.sessions j) := by
    intro j expired
    obtain ⟨other, -, same⟩ := one.ends.survivor expired.1
    exact other (Or.inr ((same.expired_iff now).mp expired))
  have later : ∀ i ∈ second, ¬ (i ∈ first ∨ Expired now (s.sessions i)) ∧
      SameSession (s.sessions i) (t.sessions i) := by
    intro i member
    obtain ⟨other, -, same⟩ := one.ends.survivor (two.ends.active i (Or.inl member))
    exact ⟨other, same⟩
  constructor
  · apply (one.ends.trans two.ends).congr
    intro j
    simp only [unexpired j, or_false, List.mem_append]
    tauto
  · apply one.nodup.append two.nodup
    intro i before after
    exact (later i after).1 (Or.inl before)
  · intro i member expired
    rcases List.mem_append.mp member with before | after
    · rw [List.head?_append, one.first i before expired]
      rfl
    · exact absurd (Or.inr expired) (later i after).1
  · obtain ⟨new, queued, ended, tokens⟩ := one.queued
    obtain ⟨new', queued', ended', tokens'⟩ := two.queued
    refine ⟨new ++ new', ?_, ?_, ?_⟩
    · rw [queued', queued, List.append_assoc]
    · intro update member
      exact (List.mem_append.mp member).elim (ended update) (ended' update)
    · have rows : second.filter (fun i => HasRow (t.sessions i)) =
          second.filter fun i => HasRow (s.sessions i) := by
        apply List.filter_congr
        intro i member
        rw [decide_eq_decide]
        exact (later i member).2.sameRow.hasRow_iff
      rw [List.map_append, tokens, tokens', rows, List.filter_append, List.map_append]
      congr 1
      apply List.map_congr_left
      intro i member
      rw [(later i (List.mem_of_mem_filter member)).2.sameRow.token]

/-! ## Disconnects -/

/-- The first session an operation revokes. -/
def firstRevoked (now : Nat) (op : Operation) (sessions : SessionTable) : Option (Fin maxClients) :=
  firstSlot fun i => (sessions i).active && decide (Revokes now op sessions i)
/-- The first slot that passes a test only it passes. -/
theorem firstSlot_only {n : Nat} {test : Fin n → Bool} {i : Fin n} (passes : test i = true)
    (only : ∀ j, test j = true → j = i) : firstSlot test = some i := by
  rw [firstSlot_eq_some_iff]
  refine ⟨passes, ?_⟩
  intro j earlier
  by_contra other
  exact absurd (only j (by simpa using other)) (Fin.ne_of_lt earlier)

/-- The loop of `handle_client_disconnect` once a session has matched. -/
def Matched (m : Moment) (mac : Mac) (s : Server) (scan : DisconnectScan) : Prop :=
  scan.matched = true → ∃ f list, Announces m.now (f :: list) s scan.server ∧
    (s.sessions f).active = true ∧ (s.sessions f).mac = mac ∧
      ∀ j, j < f → (s.sessions j).active = true → (s.sessions j).mac ≠ mac

theorem Matched.step {p : Platform} {m : Moment} {mac : Mac} {s : Server} {i : Fin maxClients}
    {scan : DisconnectScan} (scanned : Scanned m mac s i scan) (before : Matched m mac s scan) :
    Matched m mac s (scanDisconnect p m mac i scan) := by
  unfold scanDisconnect
  split
  · exact before
  rename_i active
  rw [Bool.not_eq_true, Bool.not_eq_false'] at active
  dsimp only
  split
  · rename_i same
    intro _
    have revoked := revoke_announces p m true active
    cases matched : scan.matched with
    | true =>
      obtain ⟨f, list, announced, here⟩ := before matched
      exact ⟨f, list ++ [i], announced.trans revoked, here⟩
    | false =>
      obtain ⟨start, earlier⟩ := scanned.unmatched matched
      rw [start] at active same revoked ⊢
      exact ⟨i, [], revoked, active, same, earlier⟩
  · exact before

/-- The loop counts the only active session, unless it revokes it. -/
theorem scanDisconnect_counts (p : Platform) (m : Moment) {mac : Mac} {s : Server}
    {c : Fin maxClients} (active : (s.sessions c).active = true)
    (only : ∀ k, (s.sessions k).active = true → k = c)
    (unmatched : (sweep (scanDisconnect p m mac) ⟨s, false, 0, none⟩).matched = false) :
    (sweep (scanDisconnect p m mac) ⟨s, false, 0, none⟩).activeSessionCount = 1 := by
  have counted : (sweep (scanDisconnect p m mac) ⟨s, false, 0, none⟩).matched = false →
      (sweep (scanDisconnect p m mac) ⟨s, false, 0, none⟩).server = s ∧
        (sweep (scanDisconnect p m mac) ⟨s, false, 0, none⟩).activeSessionCount =
          if c.val < maxClients then 1 else 0 := by
    apply sweep_invariant fun (k : Nat) (scan : DisconnectScan) => scan.matched = false →
      scan.server = s ∧ scan.activeSessionCount = if c.val < k then 1 else 0
    · intro _
      exact ⟨rfl, rfl⟩
    · intro i scan before unmatched
      unfold scanDisconnect at unmatched ⊢
      split at unmatched
      · rename_i idle
        obtain ⟨start, count⟩ := before unmatched
        have other : c.val ≠ i.val := by
          intro same
          rw [start, ← Fin.ext same, active] at idle
          cases idle
        rw [if_pos idle]
        refine ⟨start, count.trans ?_⟩
        congr 1
        rw [eq_iff_iff]
        omega
      · rename_i live
        rw [Bool.not_eq_true, Bool.not_eq_false'] at live
        dsimp only at unmatched
        split at unmatched
        · cases unmatched
        · rename_i other
          obtain ⟨start, count⟩ := before unmatched
          rw [if_neg (by simp [live])]
          dsimp only
          rw [if_neg other]
          refine ⟨start, ?_⟩
          rw [start] at live
          rw [only i live] at count ⊢
          simp only [lt_irrefl, if_false] at count
          simp [count]
  rw [(counted unmatched).2, if_pos c.isLt]

/-- A disconnect revokes nothing, or the sessions it is to revoke, from the first one on. -/
theorem disconnect_announces (p : Platform) (m : Moment) (ap : ApView) (mac : Mac) (s : Server) :
    handleClientDisconnect p m ap mac s = s ∧
        (∀ k, (s.sessions k).active = true → ¬ Disconnects ap mac s.sessions k) ∨
      ∃ f list, Announces m.now (f :: list) s (handleClientDisconnect p m ap mac s) ∧
        firstRevoked m.now (.clientDisconnect ap mac) s.sessions = some f ∧
          (s.sessions f).active = true ∧ Disconnects ap mac s.sessions f := by
  obtain ⟨scanned, matches'⟩ : Scanned m mac s maxClients
        (sweep (scanDisconnect p m mac) ⟨s, false, 0, none⟩) ∧
      Matched m mac s (sweep (scanDisconnect p m mac) ⟨s, false, 0, none⟩) := by
    apply sweep_invariant fun k scan => Scanned m mac s k scan ∧ Matched m mac s scan
    · exact ⟨⟨⟨[], .refl m s, by simp⟩, by simp, by simp, by simp⟩, fun matched => by cases matched⟩
    · rintro i scan ⟨scanned, before⟩
      exact ⟨scanned.step, before.step scanned⟩
  unfold handleClientDisconnect
  dsimp only
  split
  · rename_i matched
    obtain ⟨f, list, announced, active, same, earlier⟩ := matches' matched
    have known : ∀ i, Disconnects ap mac s.sessions i ↔ (s.sessions i).mac = mac := by
      intro i
      rw [Disconnects, if_pos ⟨f, active, same⟩]
    refine Or.inr ⟨f, list, announced, ?_, active, (known f).mpr same⟩
    rw [firstRevoked, firstSlot_eq_some_iff]
    constructor
    · simpa [Revokes, known, active] using same
    · intro j before
      have other := earlier j before
      cases live : (s.sessions j).active with
      | true => simpa [Revokes, known] using other live
      | false => rfl
  rename_i matched
  rw [Bool.not_eq_true] at matched
  obtain ⟨start, unmatched⟩ := scanned.unmatched matched
  have nobody : ¬ ∃ k, (s.sessions k).active = true ∧ (s.sessions k).mac = mac := by
    rintro ⟨k, active, same⟩
    exact unmatched k k.isLt active same
  have known : ∀ i, Disconnects ap mac s.sessions i ↔
      ap.connectCount = 0 ∧ ∀ k, (s.sessions k).active = true → k = i := by
    intro i
    rw [Disconnects, if_neg nobody]
  split
  · rename_i alone
    obtain ⟨f, fallback, only⟩ := scanned.only matched alone.2
    rw [fallback, start]
    dsimp only
    cases active : (s.sessions f).active with
    | true =>
      have here : Disconnects ap mac s.sessions f :=
        (known f).mpr ⟨alone.1, fun k live => only k k.isLt live⟩
      refine Or.inr ⟨f, [], revoke_announces p m true active, ?_, active, here⟩
      apply firstSlot_only
      · rw [active, Bool.true_and]
        exact decide_eq_true here
      · intro j passes
        simp only [Bool.and_eq_true] at passes
        exact only j j.isLt passes.1
    | false =>
      refine Or.inl ⟨?_, ?_⟩
      · rw [revokeSession, if_pos (by simp [active])]
      · intro k live
        rw [only k k.isLt live, active] at live
        cases live
  · rename_i several
    refine Or.inl ⟨start, ?_⟩
    intro k live revoked
    obtain ⟨unconnected, only⟩ := (known k).mp revoked
    exact several ⟨unconnected, scanDisconnect_counts p m live only matched⟩

end SolarConnect.Session
