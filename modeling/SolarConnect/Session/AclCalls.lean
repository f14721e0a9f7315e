import SolarConnect.Session.Bystanders

/-!
# Calls of the ACL

The table of `client_acl.c` under any calls of its functions. An entry is found by its MAC or by
its address, and no two entries carry one MAC. Two entries can hold one address: where a client
moves to the address of another, `client_acl_admit` finds its entry by the MAC and does not look
for an entry at the address.
-/

namespace SolarConnect.Session

open Slots ClientAcl

/-- A call of a function that changes the table. -/
inductive AclCall
  | init
  | admission (ip : IpAddr) (mac : Option Mac)
  | revokeByIp (ip : IpAddr)
  | revokeByMac (mac : Option Mac)
  deriving DecidableEq

def aclStep : AclCall → Acl → Acl
  | .init, _ => clientAclInit
  | .admission ip mac, acl => clientAclAdmit ip mac acl
  | .revokeByIp ip, acl => clientAclRevokeByIp ip acl
  | .revokeByMac mac, acl => clientAclRevokeByMac mac acl

/-- The table after calls, from `client_acl_init`. -/
def aclAfter (calls : List AclCall) : Acl :=
  Runs.run aclStep clientAclInit calls

theorem aclAfter_concat (calls : List AclCall) (call : AclCall) :
    aclAfter (calls ++ [call]) = aclStep call (aclAfter calls) :=
  Runs.run_append _ _ _

/-- A revocation by MAC leaves an entry or clears it. -/
theorem revokeByMac_cases (mac : Option Mac) (acl : Acl) (i : Fin aclMaxClients) :
    clientAclRevokeByMac mac acl i = acl i ∨ clientAclRevokeByMac mac acl i = .zero := by
  unfold clientAclRevokeByMac
  split
  · exact Or.inr rfl
  · exact Or.inl rfl

/-- An entry that is left by a call other than an admission was there before. -/
theorem aclStep_used {call : AclCall} {acl : Acl} {i : Fin aclMaxClients}
    (other : ∀ ip mac, call ≠ .admission ip mac) (used : (aclStep call acl i).used = true) :
    aclStep call acl i = acl i := by
  cases call with
  | init => cases used
  | admission ip mac => exact absurd rfl (other ip mac)
  | revokeByIp ip => exact (revokeByIp_used used).1
  | revokeByMac mac =>
    rcases revokeByMac_cases mac acl i with same | cleared
    · exact same
    · have idle : (aclStep (.revokeByMac mac) acl i).used = false := congrArg AclEntry.used cleared
      rw [idle] at used
      cases used

theorem aclOk_of_cleared {acl acl' : Acl} (ok : AclOk acl)
    (cleared : ∀ i, acl' i = acl i ∨ acl' i = .zero) : AclOk acl' := by
  refine ⟨?_, ok.distinct.mono ?_⟩
  · intro i free
    rcases cleared i with same | gone
    · rw [same] at free ⊢
      exact ok.blank i free
    · rw [gone]
      rfl
  · intro i used
    rcases cleared i with same | gone
    · exact same
    · rw [gone] at used
      cases used

theorem aclOk_step (call : AclCall) {acl : Acl} (ok : AclOk acl) : AclOk (aclStep call acl) := by
  cases call with
  | init => exact aclOk_init 0
  | admission ip mac => exact ok.admits ip mac
  | revokeByIp ip => exact ok.revokeByIp ip
  | revokeByMac mac => exact aclOk_of_cleared ok (revokeByMac_cases mac acl)

/-- The invariant of every table: no two entries carry one MAC, and a free one carries none. -/
theorem aclAfter_ok (calls : List AclCall) : AclOk (aclAfter calls) :=
  Runs.run_invariant_always AclOk calls (aclOk_init 0) fun call _ ok => aclOk_step call ok

/-! ## Admissions -/

/-- The entry that carries the MAC is the only one that holds the address. -/
def OnlyHolder (acl : Acl) (mac : Option Mac) (ip : IpAddr) : Prop :=
  ∃ i, (acl i).used = true ∧ macMatches (acl i) mac = true ∧ (acl i).ip = ip ∧
    ∀ j, (acl j).used = true → (acl j).ip = ip → j = i

instance (acl : Acl) (mac : Option Mac) (ip : IpAddr) : Decidable (OnlyHolder acl mac ip) := by
  unfold OnlyHolder
  infer_instance

/-- The admitted address is admitted exactly if it was, or there is an entry for it. -/
theorem isAdmitted_admit_self {acl : Acl} {ip : IpAddr} {mac : Option Mac} (nonzero : ip ≠ 0) :
    clientAclIsAdmitted (clientAclAdmit ip mac acl) ip = true ↔
      clientAclIsAdmitted acl ip = true ∨
        (∃ i, (acl i).used = true ∧ macMatches (acl i) mac = true) ∨
          ∃ i, (acl i).used = false := by
  refine ⟨?_, clientAclAdmit_admits nonzero⟩
  intro admitted
  have effect := clientAclAdmit_effect ip mac acl
  generalize clientAclAdmit ip mac acl = after at effect admitted
  cases effect with
  | zeroIp | full => exact Or.inl admitted
  | moved i _ used carries => exact Or.inr (Or.inl ⟨i, used, carries⟩)
  | relabelled i _ _ used holds =>
    exact Or.inl (clientAclIsAdmitted_iff.mpr ⟨nonzero, i, used, holds⟩)
  | inserted i _ _ _ free => exact Or.inr (Or.inr ⟨i, free⟩)

/-- An admission takes another address from the client that moves, and from no one else. -/
theorem isAdmitted_admit_elsewhere {acl : Acl} (ok : AclOk acl) {ip other : IpAddr}
    {mac : Option Mac} (nonzero : ip ≠ 0) (elsewhere : other ≠ ip) :
    clientAclIsAdmitted (clientAclAdmit ip mac acl) other = true ↔
      clientAclIsAdmitted acl other = true ∧ ¬ OnlyHolder acl mac other := by
  rw [isAdmitted_admit_other ok nonzero elsewhere, clientAclIsAdmitted_iff]
  constructor
  · rintro ⟨address, e, used, here, foreign⟩
    refine ⟨⟨address, e, used, here⟩, ?_⟩
    rintro ⟨i, -, carries, -, only⟩
    rw [only e used here, carries] at foreign
    cases foreign
  · rintro ⟨⟨address, e, used, here⟩, shared⟩
    refine ⟨address, ?_⟩
    cases carries : macMatches (acl e) mac with
    | false => exact ⟨e, used, here, carries⟩
    | true =>
      -- the entry that moves has company at the address
      obtain ⟨j, usedJ, hereJ, apart⟩ : ∃ j, (acl j).used = true ∧ (acl j).ip = other ∧ j ≠ e := by
        by_contra alone
        refine shared ⟨e, used, carries, here, ?_⟩
        intro j usedJ hereJ
        by_contra apart
        exact alone ⟨j, usedJ, hereJ, apart⟩
      refine ⟨j, usedJ, hereJ, ?_⟩
      rw [← Bool.not_eq_true]
      intro carriesJ
      exact apart (ok.distinct.carrier usedJ used carriesJ carries)

/-- What an admission does to the answers of `client_acl_is_admitted`, from any table. -/
theorem admission_effect (calls : List AclCall) (ip : IpAddr) (mac : Option Mac)
    (nonzero : ip ≠ 0) :
    let before := aclAfter calls
    let after := clientAclAdmit ip mac before
    (clientAclIsAdmitted after ip = true ↔
      clientAclIsAdmitted before ip = true ∨
        (∃ i, (before i).used = true ∧ macMatches (before i) mac = true) ∨
          ∃ i, (before i).used = false) ∧
      ∀ other, other ≠ ip → (clientAclIsAdmitted after other = true ↔
        clientAclIsAdmitted before other = true ∧ ¬ OnlyHolder before mac other) :=
  ⟨isAdmitted_admit_self nonzero, fun _ elsewhere =>
    isAdmitted_admit_elsewhere (aclAfter_ok calls) nonzero elsewhere⟩

/-- A client moves from one address to another. -/
theorem admission_effect_move :
    let before := aclAfter [.admission 1 (some 7)]
    clientAclIsAdmitted (clientAclAdmit 2 (some 7) before) 2 = true ∧
      ¬ clientAclIsAdmitted (clientAclAdmit 2 (some 7) before) 1 = true := by
  intro before
  obtain ⟨self, elsewhere⟩ := admission_effect [.admission 1 (some 7)] 2 (some 7) (by decide)
  refine ⟨self.mpr (by decide), ?_⟩
  rw [elsewhere 1 (by decide), not_and, not_not]
  intro admitted
  decide

/-! ## Unique entries -/

/-- No two entries hold one address. -/
def DistinctIps (acl : Acl) : Prop :=
  ∀ e e', (acl e).used = true → (acl e').used = true → (acl e).ip = (acl e').ip → e = e'

instance (acl : Acl) : Decidable (DistinctIps acl) := by
  unfold DistinctIps
  infer_instance

/-- The address the MAC was last admitted with. -/
def LastAdmittedWith (calls : List AclCall) (mac : Mac) (ip : IpAddr) : Prop :=
  ∃ earlier later, calls = earlier ++ .admission ip (some mac) :: later ∧
    ∀ ip', .admission ip' (some mac) ∉ later

/-- Addresses and MACs are unique, and the address a client was last admitted with is no longer
    admitted once the client has been revoked by its MAC. -/
structure Unique (calls : List AclCall) : Prop where
  ips : DistinctIps (aclAfter calls)
  macs : DistinctMacs (aclAfter calls)
  revoked : ∀ mac ip, LastAdmittedWith calls mac ip →
    clientAclIsAdmitted (clientAclRevokeByMac (some mac) (aclAfter calls)) ip = false

/-- The call moves the entry of the MAC to an address that another entry holds. -/
def Collides (call : AclCall) (acl : Acl) : Prop :=
  ∃ ip mac, call = .admission ip mac ∧ ip ≠ 0 ∧
    ∃ i j, i ≠ j ∧ (acl i).used = true ∧ macMatches (acl i) mac = true ∧
      (acl j).used = true ∧ (acl j).ip = ip

/-- The call gives the address that a MAC was last admitted with to another client: the entry of
    another MAC moves there, the entry there takes another MAC, or one is made there. -/
def TakesOver (call : AclCall) (calls : List AclCall) : Prop :=
  ∃ ip mac' mac, call = .admission ip mac' ∧ ip ≠ 0 ∧ mac' ≠ some mac ∧
    LastAdmittedWith calls mac ip ∧
      ((∃ i, (aclAfter calls i).used = true ∧ macMatches (aclAfter calls i) mac' = true) ∨
        (mac' ≠ none ∧ ∃ i, (aclAfter calls i).used = true ∧ (aclAfter calls i).ip = ip) ∨
          (∀ i, (aclAfter calls i).used = true → (aclAfter calls i).ip ≠ ip) ∧
            ∃ i, (aclAfter calls i).used = false)

theorem distinctIps_iff {acl : Acl} :
    DistinctIps acl ↔ Separate (fun entry : AclEntry => entry.used = true)
      (fun a b => a.ip = b.ip) acl :=
  Iff.rfl

/-- Writing an entry keeps addresses distinct if no other entry holds its address. -/
theorem DistinctIps.write {acl : Acl} (distinct : DistinctIps acl) {k : Fin aclMaxClients}
    {entry : AclEntry} (alone : ∀ e, e ≠ k → (acl e).used = true → (acl e).ip ≠ entry.ip) :
    DistinctIps (Function.update acl k entry) := by
  rw [distinctIps_iff] at distinct ⊢
  exact distinct.update (fun a b same => same.symm) alone

theorem DistinctIps.mono {acl acl' : Acl} (distinct : DistinctIps acl)
    (kept : ∀ e, (acl' e).used = true → acl' e = acl e) : DistinctIps acl' := by
  rw [distinctIps_iff] at distinct ⊢
  exact distinct.mono kept

theorem collides_admission_iff {ip : IpAddr} {mac : Option Mac} {acl : Acl} :
    Collides (.admission ip mac) acl ↔ ip ≠ 0 ∧ ∃ i j, i ≠ j ∧ (acl i).used = true ∧
      macMatches (acl i) mac = true ∧ (acl j).used = true ∧ (acl j).ip = ip := by
  constructor
  · rintro ⟨ip', mac', same, collides⟩
    obtain ⟨rfl, rfl⟩ := AclCall.admission.inj same
    exact collides
  · intro collides
    exact ⟨ip, mac, rfl, collides⟩

/-- The entry that carries the MAC moves to the address: it collides exactly with the entries
    that hold the address. -/
theorem distinctIps_moved_iff {acl : Acl} (ok : AclOk acl) (distinct : DistinctIps acl)
    {ip : IpAddr} {mac : Option Mac} {i : Fin aclMaxClients} (nonzero : ip ≠ 0)
    (used : (acl i).used = true) (carries : macMatches (acl i) mac = true) :
    DistinctIps (Function.update acl i { acl i with ip := ip }) ↔
      ¬ Collides (.admission ip mac) acl := by
  rw [collides_admission_iff]
  constructor
  · rintro distinct' ⟨-, i', j, elsewhere, usedI, carriesI, usedJ, here⟩
    rw [ok.distinct.carrier usedI used carriesI carries] at elsewhere
    refine elsewhere (distinct' i j ?_ ?_ ?_)
    · rw [Function.update_self]
      exact used
    · rw [Function.update_of_ne elsewhere.symm]
      exact usedJ
    · rw [Function.update_self, Function.update_of_ne elsewhere.symm]
      exact here.symm
  · intro free
    refine distinct.write ?_
    intro e other usedE same
    exact free ⟨nonzero, i, e, other.symm, used, carries, usedE, same⟩

/-- A call keeps addresses distinct exactly if it does not move an entry to the address of
    another. -/
theorem distinctIps_step_iff {acl : Acl} (ok : AclOk acl) (distinct : DistinctIps acl)
    (call : AclCall) : DistinctIps (aclStep call acl) ↔ ¬ Collides call acl := by
  have cleared (other : ∀ ip mac, call ≠ .admission ip mac) :
      DistinctIps (aclStep call acl) ↔ ¬ Collides call acl := by
    refine iff_of_true (distinct.mono fun e used => aclStep_used other used) ?_
    rintro ⟨ip, mac, here, -⟩
    exact other ip mac here
  cases call with
  | init => exact cleared fun ip mac same => by cases same
  | revokeByIp ip => exact cleared fun ip mac same => by cases same
  | revokeByMac mac => exact cleared fun ip mac same => by cases same
  | admission ip mac =>
    have apart (unmatched : ∀ j, (acl j).used = true → macMatches (acl j) mac = false) :
        ¬ Collides (.admission ip mac) acl := by
      rw [collides_admission_iff]
      rintro ⟨-, i, -, -, used, carries, -⟩
      rw [unmatched i used] at carries
      cases carries
    have effect := clientAclAdmit_effect ip mac acl
    show DistinctIps (clientAclAdmit ip mac acl) ↔ _
    generalize clientAclAdmit ip mac acl = after at effect ⊢
    cases effect with
    | zeroIp zero =>
      refine iff_of_true distinct ?_
      rw [collides_admission_iff]
      exact fun collides => collides.1 zero
    | full _ unmatched => exact iff_of_true distinct (apart unmatched)
    | relabelled i _ unmatched used holds =>
      refine iff_of_true (distinct.write ?_) (apart unmatched)
      intro e other usedE same
      rw [withMac_ip] at same
      exact other (distinct e i usedE used same)
    | inserted i _ unmatched absent =>
      refine iff_of_true (distinct.write ?_) (apart unmatched)
      intro e other usedE same
      rw [withMac_ip] at same
      exact absent e usedE same
    | moved i nonzero used carries => exact distinctIps_moved_iff ok distinct nonzero used carries

/-! ## The address of a revoked client -/

/-- Only entries that carry the MAC hold the address. -/
def OnlyOf (mac : Mac) (ip : IpAddr) (acl : Acl) : Prop :=
  ∀ e, (acl e).used = true → (acl e).ip = ip → macMatches (acl e) (some mac) = true

/-- Revoking the MAC revokes the address exactly if no other entry holds it. -/
theorem revokedByMac_iff {mac : Mac} {ip : IpAddr} (nonzero : ip ≠ 0) {acl : Acl} :
    clientAclIsAdmitted (clientAclRevokeByMac (some mac) acl) ip = false ↔ OnlyOf mac ip acl := by
  have left (e : Fin aclMaxClients) : (clientAclRevokeByMac (some mac) acl e).used = true ∧
      (clientAclRevokeByMac (some mac) acl e).ip = ip ↔
        ((acl e).used = true ∧ (acl e).ip = ip) ∧ macMatches (acl e) (some mac) = false := by
    unfold clientAclRevokeByMac
    cases carries : macMatches (acl e) (some mac) <;> cases used : (acl e).used <;>
      simp [AclEntry.zero, used]
  rw [← Bool.not_eq_true, clientAclIsAdmitted_iff, not_and, not_exists]
  simp only [left, nonzero, ne_eq, not_false_eq_true, true_implies, not_and, Bool.not_eq_false,
    OnlyOf, and_imp]

/-- An admission that does not collide leaves the address to the client. -/
theorem OnlyOf.admitted {acl : Acl} (distinct : DistinctIps acl) {mac : Mac} {ip : IpAddr}
    (nonzero : ip ≠ 0) (apart : ¬ Collides (.admission ip (some mac)) acl) :
    OnlyOf mac ip (clientAclAdmit ip (some mac) acl) := by
  intro e used here
  have labelled (entry : AclEntry) : macMatches (entry.withMac (some mac)) (some mac) = true := by
    simp [AclEntry.withMac, macMatches]
  have effect := clientAclAdmit_effect ip (some mac) acl
  generalize clientAclAdmit ip (some mac) acl = after at effect used here ⊢
  cases effect with
  | zeroIp zero => exact absurd zero nonzero
  | full _ _ absent => exact absurd here (absent e used)
  | moved i _ usedI carries =>
    rcases eq_or_ne e i with rfl | other
    · rw [Function.update_self]
      exact carries
    · rw [Function.update_of_ne other] at used here
      exact absurd ⟨ip, some mac, rfl, nonzero, i, e, other.symm, usedI, carries, used, here⟩ apart
  | relabelled i _ _ usedI holds =>
    rcases eq_or_ne e i with rfl | other
    · rw [Function.update_self]
      exact labelled _
    · rw [Function.update_of_ne other] at used here
      exact absurd (distinct e i used usedI (here.trans holds.symm)) other
  | inserted i _ _ absent =>
    rcases eq_or_ne e i with rfl | other
    · rw [Function.update_self]
      exact labelled _
    · rw [Function.update_of_ne other] at used here
      exact absurd here (absent e used)

/-- Calls that do not admit the address leave it to the client. -/
theorem OnlyOf.step {mac : Mac} {ip : IpAddr} {acl : Acl} (only : OnlyOf mac ip acl)
    {call : AclCall} (other : ∀ mac', call ≠ .admission ip mac') :
    OnlyOf mac ip (aclStep call acl) := by
  intro e used here
  cases call with
  | admission ip' mac' =>
    have elsewhere : ip' ≠ ip := fun same => other mac' (by rw [same])
    rcases clientAclAdmit_used used with same | ⟨-, moved⟩
    · change clientAclAdmit ip' mac' acl e = acl e at same
      change (clientAclAdmit ip' mac' acl e).used = true at used
      change (clientAclAdmit ip' mac' acl e).ip = ip at here
      change macMatches (clientAclAdmit ip' mac' acl e) (some mac) = true
      rw [same] at used here ⊢
      exact only e used here
    · exact absurd (moved.symm.trans here) elsewhere
  | init | revokeByIp | revokeByMac =>
    have same := aclStep_used (fun ip mac => by simp) used
    rw [same] at used here ⊢
    exact only e used here

/-! ## Histories -/

/-- The address a MAC was last admitted with is that of the last call, if it admitted the MAC. -/
theorem lastAdmittedWith_concat {calls : List AclCall} {call : AclCall} {mac : Mac} {ip : IpAddr} :
    LastAdmittedWith (calls ++ [call]) mac ip ↔
      call = .admission ip (some mac) ∨
        (∀ ip', call ≠ .admission ip' (some mac)) ∧ LastAdmittedWith calls mac ip := by
  constructor
  · rintro ⟨earlier, later, same, since⟩
    rcases List.eq_nil_or_concat later with rfl | ⟨before, last, rfl⟩
    · exact Or.inl (List.singleton_inj.mp (List.append_inj' same rfl).2)
    · rw [List.concat_eq_append] at same since
      rw [← List.cons_append, ← List.append_assoc] at same
      obtain ⟨split, lasts⟩ := List.append_inj' same rfl
      obtain rfl := List.singleton_inj.mp lasts
      refine Or.inr ⟨fun ip' here => since ip' (by simp [here]), earlier, before, split, ?_⟩
      exact fun ip' member => since ip' (List.mem_append_left _ member)
  · rintro (rfl | ⟨other, earlier, later, rfl, since⟩)
    · exact ⟨calls, [], rfl, fun ip' member => by cases member⟩
    · refine ⟨earlier, later ++ [call], by simp, fun ip' member => ?_⟩
      rcases List.mem_append.mp member with old | new
      · exact since ip' old
      · exact other ip' (List.mem_singleton.mp new).symm

/-- An admission of the address for another client that does not take it over leaves it to the one
    it was last admitted for. -/
theorem OnlyOf.foreign {calls : List AclCall} {mac : Mac} {ip : IpAddr}
    (last : LastAdmittedWith calls mac ip) (nonzero : ip ≠ 0)
    (only : OnlyOf mac ip (aclAfter calls)) {mac' : Option Mac} (foreign : mac' ≠ some mac)
    (apart : ¬ TakesOver (.admission ip mac') calls) :
    OnlyOf mac ip (clientAclAdmit ip mac' (aclAfter calls)) := by
  have takes := fun way => apart ⟨ip, mac', mac, rfl, nonzero, foreign, last, way⟩
  have effect := clientAclAdmit_effect ip mac' (aclAfter calls)
  generalize clientAclAdmit ip mac' (aclAfter calls) = after at effect ⊢
  cases effect with
  | zeroIp | full => exact only
  | moved i _ used carries => exact absurd (Or.inl ⟨i, used, carries⟩) takes
  | inserted i _ _ absent free => exact absurd (Or.inr (Or.inr ⟨absent, i, free⟩)) takes
  | relabelled i _ _ used holds =>
    cases mac' with
    | some other => exact absurd (Or.inr (Or.inl ⟨by simp, i, used, holds⟩)) takes
    | none =>
      have same : Function.update (aclAfter calls) i ((aclAfter calls i).withMac none) =
          aclAfter calls := Function.update_eq_self _ _
      rwa [same]

/-- After an address has been taken over, an entry that does not carry the MAC holds it. -/
theorem TakesOver.not_onlyOf {call : AclCall} {calls : List AclCall}
    (takes : TakesOver call calls) :
    ∃ mac ip, ip ≠ 0 ∧ LastAdmittedWith (calls ++ [call]) mac ip ∧
      ¬ OnlyOf mac ip (aclAfter (calls ++ [call])) := by
  obtain ⟨ip, mac', mac, rfl, nonzero, foreign, last, way⟩ := takes
  have blank := (aclAfter_ok calls).blank
  refine ⟨mac, ip, nonzero, lastAdmittedWith_concat.mpr (Or.inr ⟨?_, last⟩), ?_⟩
  · intro ip' same
    exact foreign (AclCall.admission.inj same).2
  rw [aclAfter_concat, aclStep]
  generalize aclAfter calls = acl at way blank
  -- an entry labelled with the other MAC, or with none, is not the client's
  have labelled (entry : AclEntry) (given : mac' ≠ none ∨ entry.hasMac = false) :
      macMatches (entry.withMac mac') (some mac) = false := by
    cases mac' with
    | none =>
      have idle : entry.hasMac = false := by simpa using given
      simp [AclEntry.withMac, macMatches, idle]
    | some other => simpa [AclEntry.withMac, macMatches] using foreign
  have effect := clientAclAdmit_effect ip mac' acl
  generalize clientAclAdmit ip mac' acl = after at effect
  intro only
  cases effect with
  | zeroIp zero => exact nonzero zero
  | full _ unmatched absent allUsed =>
    rcases way with ⟨i, used, carries⟩ | ⟨-, i, used, here⟩ | ⟨-, i, free⟩
    · simp [unmatched i used] at carries
    · exact absent i used here
    · simp [allUsed i] at free
  | moved i _ used carries =>
    have mine := only i (by simpa using used) (by simp)
    rw [Function.update_self] at mine
    cases mac' with
    | none => simp [macMatches] at carries
    | some other =>
      obtain ⟨-, own⟩ := macMatches_some.mp carries
      obtain ⟨-, same⟩ := macMatches_some.mp mine
      exact foreign (congrArg some (own.symm.trans same))
  | relabelled i _ unmatched used holds =>
    have mine := only i (by simpa using used) (by simpa using holds)
    rcases way with ⟨j, usedJ, carries⟩ | ⟨given, -⟩ | ⟨absent, -⟩
    · simp [unmatched j usedJ] at carries
    · rw [Function.update_self, labelled _ (Or.inl given)] at mine
      cases mine
    · exact absent i used holds
  | inserted i _ _ _ free =>
    have mine := only i (by simp) (by simp)
    rw [Function.update_self] at mine
    exact absurd mine (by simp [labelled, blank i free])

/-- A call keeps the entries unique exactly if it neither collides nor takes an address over. -/
theorem Unique.step_iff {calls : List AclCall} (unique : Unique calls) (call : AclCall) :
    Unique (calls ++ [call]) ↔ ¬ Collides call (aclAfter calls) ∧ ¬ TakesOver call calls := by
  have distinct := distinctIps_step_iff (aclAfter_ok calls) unique.ips call
  constructor
  · intro unique'
    refine ⟨distinct.mp ?_, fun takes => ?_⟩
    · rw [← aclAfter_concat]
      exact unique'.ips
    · obtain ⟨mac, ip, nonzero, last, shared⟩ := takes.not_onlyOf
      exact shared ((revokedByMac_iff nonzero).mp (unique'.revoked mac ip last))
  · rintro ⟨apart, keeps⟩
    refine ⟨?_, (aclAfter_ok _).distinct, fun mac ip last => ?_⟩
    · rw [aclAfter_concat]
      exact distinct.mpr apart
    by_cases zero : ip = 0
    · rw [zero]
      rfl
    rw [revokedByMac_iff zero, aclAfter_concat]
    rcases lastAdmittedWith_concat.mp last with rfl | ⟨other, before⟩
    · exact OnlyOf.admitted unique.ips zero apart
    have only := (revokedByMac_iff zero).mp (unique.revoked mac ip before)
    by_cases here : ∃ mac', call = .admission ip mac'
    · obtain ⟨mac', rfl⟩ := here
      refine OnlyOf.foreign before zero only (fun same => other ip ?_) keeps
      rw [same]
    · exact only.step fun mac' same => here ⟨mac', same⟩

/-- Entries are unique throughout a run exactly if no call moves an entry to an address that
    another holds, or takes over an address that a client was last admitted with. -/
theorem entries_unique_iff (calls : List AclCall) :
    (∀ prior, prior <+: calls → Unique prior) ↔
      ∀ prior call, prior ++ [call] <+: calls →
        ¬ Collides call (aclAfter prior) ∧ ¬ TakesOver call prior := by
  refine Runs.prefixes_iff Unique _ ⟨by decide, (aclAfter_ok []).distinct, ?_⟩
    (fun prior call unique => unique.step_iff call) calls
  rintro mac ip ⟨earlier, later, none, -⟩
  simp at none

/-- Two clients are admitted at their addresses, and the first one moves to that of the second. -/
def exchange : List AclCall :=
  [.admission 1 (some 7), .admission 2 (some 8), .admission 2 (some 7)]

/-- Two entries hold one address, and it stays admitted when the client is revoked. -/
theorem two_entries_one_address :
    ¬ DistinctIps (aclAfter exchange) ∧ LastAdmittedWith exchange 7 2 ∧
      clientAclIsAdmitted (clientAclRevokeByMac (some 7) (aclAfter exchange)) 2 = true ∧
        ¬ Unique exchange := by
  have admitted : clientAclIsAdmitted (clientAclRevokeByMac (some 7) (aclAfter exchange)) 2 =
      true := by
    decide
  have last : LastAdmittedWith exchange 7 2 :=
    ⟨[.admission 1 (some 7), .admission 2 (some 8)], [], rfl, fun _ member => by cases member⟩
  refine ⟨by decide, last, admitted, ?_⟩
  intro unique
  rw [unique.revoked 7 2 last] at admitted
  cases admitted

end SolarConnect.Session
