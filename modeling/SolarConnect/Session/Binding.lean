import SolarConnect.Session.Gate

/-!
# Binding a slot

Which slot `start_or_resume_session` binds to a request, and what it writes there, follows from
the table before the operation and its readings of the timer alone.
-/

namespace SolarConnect.Session

open Slots ClientAcl

/-! ## The choice of a slot -/

/-- The table with the expired sessions inactive. -/
def liveTable (now : Nat) (sessions : SessionTable) : SessionTable :=
  fun j => if Expired now (sessions j) then { sessions j with active := false } else sessions j

/-- The table `start_or_resume_session` searches: without an address it refreshes first. -/
def searchedTable (m : Clocks) (req : StartRequest) (sessions : SessionTable) : SessionTable :=
  if req.ip = 0 then liveTable m.opened sessions else sessions

/-- The session it finds there. -/
def foundSession (req : StartRequest) (table : SessionTable) : Option (Fin maxClients) :=
  if req.ip = 0 then findSessionIndexByToken table req.token else foundByClient req table

/-- The slot that is bound to the request, whether its session is reused, and the table after
    the session that was found has been dropped as expired. -/
structure Binding where
  slot : Fin maxClients
  reuse : Bool
  dropped : SessionTable

/-- The binding of a request, from the session found for it. -/
def binding (now : Nat) (req : StartRequest) (found : Option (Fin maxClients))
    (table : SessionTable) : Binding :=
  match found with
  | some i =>
    if now < (table i).endTime then ⟨i, true, table⟩
    else
      let dropped := Function.update table i { table i with active := false }
      ⟨slotToWrite req (some i) dropped, false, dropped⟩
  | none => ⟨slotToWrite req none table, false, table⟩

/-- The session the slot holds from then on. -/
def boundSession (m : Moment) (dayId : Nat) (req : StartRequest) (b : Binding) : ClientSession :=
  if b.reuse then reusedSession req (b.dropped b.slot) else startedSession m dayId req

/-- The table once the slot is written. -/
def boundTable (m : Moment) (dayId : Nat) (req : StartRequest) (b : Binding) : SessionTable :=
  Function.update b.dropped b.slot (boundSession m dayId req b)

@[simp] theorem boundSession_ip (m : Moment) (dayId : Nat) (req : StartRequest) (b : Binding) :
    (boundSession m dayId req b).ipAddr = req.ip := by
  unfold boundSession
  split <;> rfl

@[simp] theorem boundSession_admitted (m : Moment) (dayId : Nat) (req : StartRequest)
    (b : Binding) : (boundSession m dayId req b).admitted = true := by
  unfold boundSession
  split <;> rfl

/-- The MAC of the bound session. -/
def boundMac (req : StartRequest) (b : Binding) : Mac :=
  req.mac.getD (if b.reuse then (b.dropped b.slot).mac else 0)

theorem boundSession_mac (m : Moment) (dayId : Nat) (req : StartRequest) (b : Binding) :
    (boundSession m dayId req b).mac = boundMac req b := by
  unfold boundSession boundMac
  cases b.reuse <;> rfl

theorem binding_cases (now : Nat) (req : StartRequest) (found : Option (Fin maxClients))
    (table : SessionTable) :
    (∃ i, found = some i ∧ now < (table i).endTime ∧
        binding now req found table = ⟨i, true, table⟩) ∨
      (∃ i, found = some i ∧ (table i).endTime ≤ now ∧
        binding now req found table =
          ⟨slotToWrite req (some i) (Function.update table i { table i with active := false }),
            false, Function.update table i { table i with active := false }⟩) ∨
      (found = none ∧ binding now req found table =
        ⟨slotToWrite req none table, false, table⟩) := by
  unfold binding
  cases found with
  | none => exact Or.inr (Or.inr ⟨rfl, rfl⟩)
  | some i =>
    by_cases running : now < (table i).endTime
    · exact Or.inl ⟨i, rfl, running, if_pos running⟩
    · exact Or.inr (Or.inl ⟨i, rfl, Nat.not_lt.mp running, if_neg running⟩)

/-! ## Tables that look the same -/

/-- The same sessions are active, and they are the same but for the seconds accounted. -/
def SameTable (a b : SessionTable) : Prop :=
  ∀ j, (a j).active = (b j).active ∧ ((a j).active = true → SameSession (a j) (b j))

theorem sameTable_refl (a : SessionTable) : SameTable a a := fun _ => ⟨rfl, fun _ => rfl⟩

theorem SameTable.firstSlot {a b : SessionTable} (same : SameTable a b)
    (test : ClientSession → Bool)
    (blind : ∀ σ σ', SameSession σ σ' → test σ' = test σ) :
    (firstSlot fun j => (a j).active && test (a j)) =
      firstSlot fun j => (b j).active && test (b j) := by
  refine firstSlot_congr fun j => ?_
  obtain ⟨active, alike⟩ := same j
  cases here : (a j).active with
  | true => rw [← active, here, blind _ _ (alike here)]
  | false => rw [← active, here, Bool.false_and, Bool.false_and]

theorem SameTable.findByMac {a b : SessionTable} (same : SameTable a b) (mac : Option Mac) :
    findSessionIndexByMac a mac = findSessionIndexByMac b mac := by
  cases mac with
  | none => rfl
  | some mac => exact same.firstSlot (fun σ => σ.mac == mac) fun σ σ' alike => by rw [alike]

theorem SameTable.findByIp {a b : SessionTable} (same : SameTable a b) (ip : IpAddr) :
    findSessionIndexByIp a ip = findSessionIndexByIp b ip :=
  same.firstSlot (fun σ => σ.ipAddr == ip) fun σ σ' alike => by rw [alike]

theorem SameTable.findByToken {a b : SessionTable} (same : SameTable a b)
    (token : Option CString) :
    findSessionIndexByToken a token = findSessionIndexByToken b token := by
  cases token with
  | none => rfl
  | some token =>
    unfold findSessionIndexByToken
    dsimp only
    split
    · rfl
    · exact same.firstSlot (fun σ => σ.token == token) fun σ σ' alike => by rw [alike]

theorem SameTable.findFree {a b : SessionTable} (same : SameTable a b) :
    findFreeSessionSlot a = findFreeSessionSlot b :=
  firstSlot_congr fun j => by rw [(same j).1]

theorem SameTable.slotToWrite {a b : SessionTable} (same : SameTable a b) (req : StartRequest)
    (previous : Option (Fin maxClients)) :
    slotToWrite req previous a = slotToWrite req previous b := by
  unfold Session.slotToWrite
  rw [same.findByMac, same.findByToken, same.findFree]

theorem SameTable.update {a b : SessionTable} (same : SameTable a b) (i : Fin maxClients)
    (σ σ' : ClientSession) (alike : σ.active = σ'.active ∧ (σ.active = true → SameSession σ σ')) :
    SameTable (Function.update a i σ) (Function.update b i σ') := by
  intro j
  rcases eq_or_ne j i with rfl | other
  · simpa using alike
  · simpa [other] using same j

/-- A session that was found is active. -/
theorem foundSession_active {req : StartRequest} {table : SessionTable} {i : Fin maxClients}
    (found : foundSession req table = some i) : (table i).active = true := by
  have passes : ∀ (test : ClientSession → Bool) {j},
      (firstSlot fun j => (table j).active && test (table j)) = some j →
        (table j).active = true := by
    intro test j here
    have both := firstSlot_passes here
    simp only [Bool.and_eq_true] at both
    exact both.1
  unfold foundSession at found
  split at found
  · unfold findSessionIndexByToken at found
    split at found
    · simp at found
    · split at found
      · simp at found
      · exact passes (fun σ => σ.token == _) found
  · rcases Option.or_eq_some_iff.mp found with byMac | ⟨-, byIp⟩
    · unfold findSessionIndexByMac at byMac
      split at byMac
      · simp at byMac
      · exact passes (fun σ => σ.mac == _) byMac
    · exact passes (fun σ => σ.ipAddr == _) byIp

theorem SameTable.found {a b : SessionTable} (same : SameTable a b) (req : StartRequest) :
    foundSession req a = foundSession req b := by
  unfold foundSession foundByClient
  rw [same.findByToken, same.findByMac, same.findByIp]

/-- Tables that look the same bind the same slot. -/
theorem SameTable.binding {a b : SessionTable} (same : SameTable a b) (now : Nat)
    (req : StartRequest) {found : Option (Fin maxClients)}
    (active : ∀ i, found = some i → (a i).active = true) :
    (binding now req found a).slot = (binding now req found b).slot ∧
      (binding now req found a).reuse = (binding now req found b).reuse ∧
        SameTable (binding now req found a).dropped (binding now req found b).dropped := by
  unfold Session.binding
  cases found with
  | none => exact ⟨same.slotToWrite req none, rfl, same⟩
  | some i =>
    have alike := (same i).2 (active i rfl)
    have endTime : (b i).endTime = (a i).endTime := by rw [alike]
    by_cases running : now < (a i).endTime
    · simp only [endTime, running, if_true]
      exact ⟨trivial, trivial, same⟩
    · have dropped := same.update i { a i with active := false } { b i with active := false }
        ⟨rfl, by simp⟩
      have notRunning : ¬ now < (b i).endTime := by rwa [endTime]
      simp only [running, notRunning, if_false]
      exact ⟨dropped.slotToWrite req (some i), trivial, dropped⟩

theorem SameTable.bound {a b : SessionTable} (same : SameTable a b) (m : Moment) (dayId : Nat)
    (req : StartRequest) {found : Option (Fin maxClients)}
    (active : ∀ i, found = some i → (a i).active = true) :
    SameTable (boundTable m dayId req (Session.binding m.now req found a))
      (boundTable m dayId req (Session.binding m.now req found b)) := by
  obtain ⟨slot, reuse, dropped⟩ := same.binding m.now req active
  unfold boundTable
  rw [← slot]
  refine dropped.update _ _ _ ?_
  rcases binding_cases m.now req found a with ⟨i, here, -, bound⟩ | ⟨i, -, -, bound⟩ | ⟨-, bound⟩
  · have alike := (dropped i).2 (by rw [bound]; exact active i here)
    rw [bound] at slot reuse alike
    simp only [boundSession, bound, ← reuse, ← slot, if_true]
    rw [alike]
    exact ⟨rfl, fun _ => rfl⟩
  all_goals
    rw [bound] at reuse
    simp only [boundSession, bound, ← reuse]
    exact ⟨rfl, fun _ => rfl⟩

theorem SameTable.expired_iff {a b : SessionTable} (same : SameTable a b) (now : Nat)
    (j : Fin maxClients) : Expired now (b j) ↔ Expired now (a j) := by
  obtain ⟨active, alike⟩ := same j
  cases here : (a j).active with
  | true => exact (alike here).expired_iff now
  | false => simp [Expired, here, ← active]

/-! ## Requests -/

/-- The request gets a session: it has an address, or a token. -/
def Binds (req : StartRequest) : Prop :=
  req.ip ≠ 0 ∨ req.token.getD [] ≠ []

instance (req : StartRequest) : Decidable (Binds req) := by
  unfold Binds
  infer_instance

theorem Binds.token {req : StartRequest} (binds : Binds req) (zero : req.ip = 0) :
    req.token.getD [] ≠ [] := by
  rcases binds with nonzero | given
  · exact absurd zero nonzero
  · exact given

/-- The binding of a request on the table before the operation. -/
def requestBinding (m : Clocks) (req : StartRequest) (sessions : SessionTable) : Binding :=
  let table := searchedTable m req sessions
  binding m.now req (foundSession req table) table

/-- When the session a request gets is over: a session it reuses keeps its end, another one gets
    the seconds granted. -/
def boundEnd (m : Clocks) (req : StartRequest) (sessions : SessionTable) : Nat :=
  if (requestBinding m req sessions).reuse then
    (sessions (requestBinding m req sessions).slot).endTime
  else m.now + req.duration * secondUs

/-- The session a request gets is not over when the refresh after it reads the timer. -/
def Outlasts (m : Clocks) (req : StartRequest) (sessions : SessionTable) : Prop :=
  m.closed < boundEnd m req sessions

instance (m : Clocks) (req : StartRequest) (sessions : SessionTable) :
    Decidable (Outlasts m req sessions) := by
  unfold Outlasts
  infer_instance

/-! ## The bound session -/

theorem duration_pos (req : StartRequest) : 0 < req.duration := by
  unfold StartRequest.duration sessionDurationSec dailyQuotaSec
  split <;> omega

theorem duration_granted {req : StartRequest} {granted : Nat} (positive : 0 < granted)
    (given : req.grantedSeconds = granted) : req.duration = granted := by
  rw [StartRequest.duration, given, if_pos (Int.natCast_pos.mpr positive), Int.toNat_natCast]

/-- The bound session is active, and its time is not up. -/
theorem boundSession_running (m : Clocks) (dayId : Nat) (req : StartRequest)
    (sessions : SessionTable) :
    (boundSession m dayId req (requestBinding m req sessions)).active = true ∧
      m.now < (boundSession m dayId req (requestBinding m req sessions)).endTime := by
  have started : (startedSession m dayId req).active = true ∧
      m.now < (startedSession m dayId req).endTime := by
    have positive := duration_pos req
    refine ⟨rfl, ?_⟩
    change m.now < m.now + req.duration * 1000000
    omega
  unfold requestBinding boundSession
  dsimp only
  rcases binding_cases m.now req (foundSession req (searchedTable m req sessions))
    (searchedTable m req sessions) with
    ⟨i, found, running, same⟩ | ⟨i, -, -, same⟩ | ⟨-, same⟩
  · simp only [same, if_true]
    exact ⟨foundSession_active found, running⟩
  · simpa only [same, Bool.false_eq_true, if_false] using started
  · simpa only [same, Bool.false_eq_true, if_false] using started

theorem liveTable_active {now : Nat} {sessions : SessionTable} {j : Fin maxClients}
    (active : (liveTable now sessions j).active = true) :
    ¬ Expired now (sessions j) ∧ liveTable now sessions j = sessions j := by
  unfold liveTable at active ⊢
  split at active
  · simp at active
  · rename_i running
    exact ⟨running, if_neg running⟩

/-- A session that is active in the searched table is the one of the table before. -/
theorem searchedTable_active {m : Clocks} {req : StartRequest} {sessions : SessionTable}
    {j : Fin maxClients} (active : (searchedTable m req sessions j).active = true) :
    searchedTable m req sessions j = sessions j := by
  unfold searchedTable at active ⊢
  split
  · rename_i zero
    rw [if_pos zero] at active
    exact (liveTable_active active).2
  · rfl

/-- The drop makes one active session inactive at most. -/
theorem binding_dropped_cases {now : Nat} {req : StartRequest} {found : Option (Fin maxClients)}
    {table : SessionTable} (active : ∀ i, found = some i → (table i).active = true)
    (j : Fin maxClients) :
    (binding now req found table).dropped j = table j ∨
      (table j).active = true ∧ ((binding now req found table).dropped j).active = false := by
  rcases binding_cases now req found table with
    ⟨i, -, -, same⟩ | ⟨i, here, -, same⟩ | ⟨-, same⟩
  · exact Or.inl (by rw [same])
  · rw [same]
    dsimp only
    rcases eq_or_ne j i with rfl | other
    · exact Or.inr ⟨active j here, by simp⟩
    · exact Or.inl (Function.update_of_ne other _ _)
  · exact Or.inl (by rw [same])

/-- A session that is active in the table after the drop is the one of the table before. -/
theorem binding_dropped {now : Nat} {req : StartRequest} {found : Option (Fin maxClients)}
    {table : SessionTable} {j : Fin maxClients}
    (active : ((binding now req found table).dropped j).active = true) :
    (binding now req found table).dropped j = table j := by
  rcases binding_cases now req found table with
    ⟨i, -, -, same⟩ | ⟨i, -, -, same⟩ | ⟨-, same⟩
  · rw [same]
  · rw [same] at active ⊢
    dsimp only at active ⊢
    rcases eq_or_ne j i with rfl | other
    · simp at active
    · rw [Function.update_of_ne other]
  · rw [same]

/-- A session that is active once the slot has been found is the one of the table before. -/
theorem dropped_active {m : Clocks} {req : StartRequest} {sessions : SessionTable}
    {j : Fin maxClients} (active : ((requestBinding m req sessions).dropped j).active = true) :
    (requestBinding m req sessions).dropped j = searchedTable m req sessions j ∧
      (requestBinding m req sessions).dropped j = sessions j := by
  have searched : (requestBinding m req sessions).dropped j = searchedTable m req sessions j :=
    binding_dropped active
  refine ⟨searched, ?_⟩
  rw [searched] at active ⊢
  exact searchedTable_active active

/-- A reused session is the one that was found, and nothing has been dropped. -/
theorem requestBinding_reuse {m : Clocks} {req : StartRequest} {sessions : SessionTable}
    (reuse : (requestBinding m req sessions).reuse = true) :
    (requestBinding m req sessions).dropped = searchedTable m req sessions ∧
      foundSession req (searchedTable m req sessions) =
        some (requestBinding m req sessions).slot := by
  unfold requestBinding at reuse ⊢
  dsimp only at reuse ⊢
  rcases binding_cases m.now req (foundSession req (searchedTable m req sessions))
    (searchedTable m req sessions) with ⟨i, found, -, same⟩ | ⟨i, -, -, same⟩ | ⟨-, same⟩
  · rw [same]
    exact ⟨rfl, found⟩
  all_goals simp [same] at reuse

/-- Without a reused session the slot is chosen on the table after the drop. -/
theorem requestBinding_new {m : Clocks} {req : StartRequest} {sessions : SessionTable}
    (new : (requestBinding m req sessions).reuse = false) :
    ∃ previous, (requestBinding m req sessions).slot =
      slotToWrite req previous (requestBinding m req sessions).dropped := by
  unfold requestBinding at new ⊢
  dsimp only at new ⊢
  rcases binding_cases m.now req (foundSession req (searchedTable m req sessions))
    (searchedTable m req sessions) with ⟨i, -, -, same⟩ | ⟨i, -, -, same⟩ | ⟨-, same⟩
  · simp [same] at new
  · exact ⟨some i, by rw [same]⟩
  · exact ⟨none, by rw [same]⟩

/-- A reused session was running before. -/
theorem boundSession_reuse (m : Clocks) (dayId : Nat) {req : StartRequest}
    {sessions : SessionTable} (reuse : (requestBinding m req sessions).reuse = true) :
    boundSession m dayId req (requestBinding m req sessions) =
        reusedSession req (sessions (requestBinding m req sessions).slot) ∧
      (sessions (requestBinding m req sessions).slot).active = true ∧
      m.now < (sessions (requestBinding m req sessions).slot).endTime := by
  obtain ⟨active, running⟩ := boundSession_running m dayId req sessions
  rw [boundSession, if_pos reuse] at active running ⊢
  have same := (dropped_active active).2
  rw [same] at active running ⊢
  exact ⟨rfl, active, running⟩

/-- A session that goes on is not dropped. -/
theorem dropped_running {m : Clocks} {req : StartRequest} {sessions : SessionTable}
    {j : Fin maxClients} (running : m.now < (searchedTable m req sessions j).endTime) :
    (requestBinding m req sessions).dropped j = searchedTable m req sessions j := by
  unfold requestBinding
  dsimp only
  rcases binding_cases m.now req (foundSession req (searchedTable m req sessions))
    (searchedTable m req sessions) with ⟨i, -, -, same⟩ | ⟨i, -, expired, same⟩ | ⟨-, same⟩
  · rw [same]
  · rw [same]
    refine Function.update_of_ne (fun equal => ?_) _ _
    rw [equal] at running
    omega
  · rw [same]

theorem boundTable_other (m : Moment) (dayId : Nat) (req : StartRequest) {b : Binding}
    {j : Fin maxClients} (elsewhere : j ≠ b.slot) : boundTable m dayId req b j = b.dropped j :=
  Function.update_of_ne elsewhere _ _

/-- The day a session carries makes no difference to its time and its entries. -/
theorem boundTable_anyDay (m : Moment) (dayId day : Nat) (req : StartRequest) (b : Binding)
    (j : Fin maxClients) :
    boundTable m day req b j =
      { boundTable m dayId req b j with dayId := (boundTable m day req b j).dayId } := by
  unfold boundTable boundSession
  rcases eq_or_ne j b.slot with rfl | other
  · rw [Function.update_self, Function.update_self]
    cases b.reuse <;> rfl
  · rw [Function.update_of_ne other, Function.update_of_ne other]

/-- The end of the session that a request binds. -/
theorem boundSession_endTime (m : Clocks) (dayId : Nat) (req : StartRequest)
    (sessions : SessionTable) :
    (boundSession m dayId req (requestBinding m req sessions)).endTime =
      boundEnd m req sessions := by
  rw [boundEnd]
  cases reuse : (requestBinding m req sessions).reuse with
  | true =>
    rw [(boundSession_reuse m dayId reuse).1]
    rfl
  | false =>
    rw [boundSession, reuse]
    rfl

/-- The refresh finds the bound session expired exactly when it does not outlast it. -/
theorem boundSession_expired_iff (m : Clocks) (dayId : Nat) (req : StartRequest)
    (sessions : SessionTable) :
    Expired m.closed (boundSession m dayId req (requestBinding m req sessions)) ↔
      ¬ Outlasts m req sessions := by
  obtain ⟨active, running⟩ := boundSession_running m dayId req sessions
  have endTime := boundSession_endTime m dayId req sessions
  rw [Expired, Outlasts, endTime, Nat.not_lt]
  rw [endTime] at running
  exact ⟨fun expired => expired.2.2, fun finished => ⟨active, Nat.zero_lt_of_lt running, finished⟩⟩

end SolarConnect.Session
