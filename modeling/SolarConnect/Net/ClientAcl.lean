import SolarConnect.Misc.Slots

/-!
# Client ACL

The admitted-client table of `client_acl.c`. An address is the 32-bit word lwIP stores
(network byte order in memory), a MAC is its 48 bits, and a `const uint8_t *mac` that may be
`NULL` is an `Option Mac`. The critical sections make every function one step.
-/

namespace SolarConnect

open Slots

/-- An IPv4 address as lwIP and the session table store it. -/
abbrev IpAddr := BitVec 32

/-- A station's MAC address. -/
abbrev Mac := BitVec 48

namespace ClientAcl

/-- `ACL_MAX_CLIENTS`. -/
def aclMaxClients : Nat := 20

/-- `acl_entry_t`. -/
structure AclEntry where
  used : Bool
  ip : IpAddr
  mac : Mac
  hasMac : Bool
  deriving DecidableEq, Repr

/-- An entry after `memset(&s_acl[i], 0, sizeof(s_acl[i]))`. -/
def AclEntry.zero : AclEntry := ⟨false, 0, 0, false⟩

/-- `s_acl`. -/
abbrev Acl := Fin aclMaxClients → AclEntry

/-- `mac_matches` (`client_acl.c:19-25`). -/
def macMatches (entry : AclEntry) (mac : Option Mac) : Bool :=
  match mac with
  | none => false
  | some m => entry.hasMac && entry.mac == m

/-- `client_acl_init`, and `client_acl_clear`, which calls it. -/
def clientAclInit : Acl := fun _ => .zero

/-- The write of an optional MAC: `if (mac != NULL) { memcpy(mac); has_mac = true; }`. -/
def AclEntry.withMac (entry : AclEntry) : Option Mac → AclEntry
  | none => entry
  | some m => { entry with mac := m, hasMac := true }

/-- `client_acl_admit` (`client_acl.c:39-81`): the entry that carries the MAC moves to the
    address; else the entry that holds the address takes the MAC; else the first free slot
    is used, if there is one. -/
def clientAclAdmit (ipNet : IpAddr) (mac : Option Mac) (acl : Acl) : Acl :=
  if ipNet = 0 then acl
  else
    match firstSlot fun i => (acl i).used && macMatches (acl i) mac with
    | some i => Function.update acl i { acl i with ip := ipNet }
    | none =>
      match firstSlot fun i => (acl i).used && (acl i).ip == ipNet with
      | some i => Function.update acl i ((acl i).withMac mac)
      | none =>
        match firstSlot fun i => !(acl i).used with
        | some i =>
          Function.update acl i (({ acl i with used := true, ip := ipNet } : AclEntry).withMac mac)
        | none => acl

/-- `client_acl_revoke_by_ip` (`client_acl.c:83-96`). -/
def clientAclRevokeByIp (ipNet : IpAddr) (acl : Acl) : Acl :=
  if ipNet = 0 then acl
  else fun i => if (acl i).used && (acl i).ip == ipNet then .zero else acl i

/-- `client_acl_revoke_by_mac` (`client_acl.c:98-111`). -/
def clientAclRevokeByMac (mac : Option Mac) (acl : Acl) : Acl :=
  fun i => if (acl i).used && macMatches (acl i) mac then .zero else acl i

/-- `client_acl_is_admitted` (`client_acl.c:113-131`). -/
def clientAclIsAdmitted (acl : Acl) (ipNet : IpAddr) : Bool :=
  if ipNet = 0 then false
  else (firstSlot fun i => (acl i).used && (acl i).ip == ipNet).isSome

/-! ## Reading the table -/

theorem macMatches_none (entry : AclEntry) : macMatches entry none = false := rfl

theorem macMatches_some {entry : AclEntry} {m : Mac} :
    macMatches entry (some m) = true ↔ entry.hasMac = true ∧ entry.mac = m := by
  simp [macMatches]

@[simp] theorem withMac_used (entry : AclEntry) (mac : Option Mac) :
    (entry.withMac mac).used = entry.used := by
  cases mac <;> rfl

@[simp] theorem withMac_ip (entry : AclEntry) (mac : Option Mac) :
    (entry.withMac mac).ip = entry.ip := by
  cases mac <;> rfl

theorem clientAclIsAdmitted_iff {acl : Acl} {ip : IpAddr} :
    clientAclIsAdmitted acl ip = true ↔
      ip ≠ 0 ∧ ∃ i, (acl i).used = true ∧ (acl i).ip = ip := by
  simp [clientAclIsAdmitted, firstSlot_isSome_iff]

/-! ## Revoking -/

/-- What a revocation leaves in a slot that is still in use is what was there. -/
theorem revokeByIp_used {acl : Acl} {ip : IpAddr} {i : Fin aclMaxClients}
    (used : (clientAclRevokeByIp ip acl i).used = true) :
    clientAclRevokeByIp ip acl i = acl i ∧ (ip ≠ 0 → (acl i).ip ≠ ip) := by
  unfold clientAclRevokeByIp at used ⊢
  by_cases zero : ip = 0
  · simp [zero]
  · simp only [zero, if_false] at used ⊢
    split at used
    · simp [AclEntry.zero] at used
    · rename_i kept
      simp only [kept]
      exact ⟨rfl, fun _ same => kept (by simp [used, same])⟩

theorem revokeByIp_cases (ip : IpAddr) (acl : Acl) (i : Fin aclMaxClients) :
    clientAclRevokeByIp ip acl i = acl i ∨ clientAclRevokeByIp ip acl i = .zero := by
  unfold clientAclRevokeByIp
  split
  · exact Or.inl rfl
  · dsimp only
    split
    · exact Or.inr rfl
    · exact Or.inl rfl

/-- An entry at another address survives a revocation by address. -/
theorem revokeByIp_other {acl : Acl} {ip : IpAddr} {i : Fin aclMaxClients}
    (other : (acl i).ip ≠ ip) : clientAclRevokeByIp ip acl i = acl i := by
  unfold clientAclRevokeByIp
  split
  · rfl
  · simp [other]

/-! ## Admitting -/

/-- The three ways `client_acl_admit` writes a slot, and the three ways it writes none. -/
inductive AdmitEffect (ip : IpAddr) (mac : Option Mac) (acl : Acl) : Acl → Prop
  | zeroIp (zero : ip = 0) : AdmitEffect ip mac acl acl
  | moved (i : Fin aclMaxClients) (nonzero : ip ≠ 0) (used : (acl i).used = true)
      (carries : macMatches (acl i) mac = true) :
      AdmitEffect ip mac acl (Function.update acl i { acl i with ip := ip })
  | relabelled (i : Fin aclMaxClients) (nonzero : ip ≠ 0)
      (unmatched : ∀ j, (acl j).used = true → macMatches (acl j) mac = false)
      (used : (acl i).used = true) (holds : (acl i).ip = ip) :
      AdmitEffect ip mac acl (Function.update acl i ((acl i).withMac mac))
  | inserted (i : Fin aclMaxClients) (nonzero : ip ≠ 0)
      (unmatched : ∀ j, (acl j).used = true → macMatches (acl j) mac = false)
      (absent : ∀ j, (acl j).used = true → (acl j).ip ≠ ip) (free : (acl i).used = false) :
      AdmitEffect ip mac acl (Function.update acl i
        (({ acl i with used := true, ip := ip } : AclEntry).withMac mac))
  | full (nonzero : ip ≠ 0)
      (unmatched : ∀ j, (acl j).used = true → macMatches (acl j) mac = false)
      (absent : ∀ j, (acl j).used = true → (acl j).ip ≠ ip)
      (allUsed : ∀ j, (acl j).used = true) : AdmitEffect ip mac acl acl

theorem clientAclAdmit_effect (ip : IpAddr) (mac : Option Mac) (acl : Acl) :
    AdmitEffect ip mac acl (clientAclAdmit ip mac acl) := by
  unfold clientAclAdmit
  by_cases zero : ip = 0
  · rw [if_pos zero]
    exact .zeroIp zero
  rw [if_neg zero]
  split
  · rename_i i found
    have passes := firstSlot_passes found
    simp only [Bool.and_eq_true] at passes
    exact .moved i zero passes.1 passes.2
  rename_i noMac
  have unmatched : ∀ j, (acl j).used = true → macMatches (acl j) mac = false := by
    intro j used
    simpa [used] using firstSlot_eq_none_iff.mp noMac j
  split
  · rename_i i found
    have passes := firstSlot_passes found
    simp only [Bool.and_eq_true, beq_iff_eq] at passes
    exact .relabelled i zero unmatched passes.1 passes.2
  rename_i noIp
  have absent : ∀ j, (acl j).used = true → (acl j).ip ≠ ip := by
    intro j used
    simpa [used] using firstSlot_eq_none_iff.mp noIp j
  split
  · rename_i i found
    have passes := firstSlot_passes found
    exact .inserted i zero unmatched absent (by simpa using passes)
  · rename_i noFree
    exact .full zero unmatched absent fun j => by
      simpa using firstSlot_eq_none_iff.mp noFree j

/-- A slot in use after an admission is as before, or holds the admitted address. -/
theorem clientAclAdmit_used {ip : IpAddr} {mac : Option Mac} {acl : Acl}
    {i : Fin aclMaxClients} (used : (clientAclAdmit ip mac acl i).used = true) :
    clientAclAdmit ip mac acl i = acl i ∨
      (ip ≠ 0 ∧ (clientAclAdmit ip mac acl i).ip = ip) := by
  have effect := clientAclAdmit_effect ip mac acl
  revert used
  generalize clientAclAdmit ip mac acl = after at effect
  intro used
  cases effect with
  | zeroIp | full => exact Or.inl rfl
  | moved j nonzero | relabelled j nonzero | inserted j nonzero =>
    rcases eq_or_ne i j with rfl | different
    · right
      simp_all
    · left
      rw [Function.update_of_ne different]

/-- The admitted address is admitted, unless the table is full of entries of others. -/
theorem clientAclAdmit_admits {ip : IpAddr} {mac : Option Mac} {acl : Acl} (nonzero : ip ≠ 0)
    (room : clientAclIsAdmitted acl ip = true ∨
      (∃ i, (acl i).used = true ∧ macMatches (acl i) mac = true) ∨
      ∃ i, (acl i).used = false) :
    clientAclIsAdmitted (clientAclAdmit ip mac acl) ip = true := by
  rw [clientAclIsAdmitted_iff] at room ⊢
  refine ⟨nonzero, ?_⟩
  have effect := clientAclAdmit_effect ip mac acl
  generalize clientAclAdmit ip mac acl = after at effect
  cases effect with
  | zeroIp zero => exact absurd zero nonzero
  | moved j _ used => exact ⟨j, by simpa using used⟩
  | relabelled j _ _ used holds => exact ⟨j, by simpa using ⟨used, holds⟩⟩
  | inserted j => exact ⟨j, by simp⟩
  | full _ unmatched absent allUsed =>
    rcases room with ⟨-, i, used, holds⟩ | ⟨i, used, carries⟩ | ⟨i, free⟩
    · exact absurd holds (absent i used)
    · simp [unmatched i used] at carries
    · simp [allUsed i] at free

/-- An entry with the MAC that is at the address already stays as it is. -/
theorem clientAclAdmit_settled {ip : IpAddr} {m : Mac} {acl : Acl} {i : Fin aclMaxClients}
    (carries : (acl i).used = true ∧ macMatches (acl i) (some m) = true)
    (first : ∀ j, j < i → ((acl j).used && macMatches (acl j) (some m)) = false)
    (here : (acl i).ip = ip) : clientAclAdmit ip (some m) acl = acl := by
  have found : firstSlot (fun j => (acl j).used && macMatches (acl j) (some m)) = some i :=
    firstSlot_eq_some_iff.mpr ⟨by simpa using carries, first⟩
  unfold clientAclAdmit
  rw [found, ← here]
  simp

/-- Admitting a client once more changes nothing. -/
theorem clientAclAdmit_again (ip : IpAddr) (m : Mac) (acl : Acl) :
    clientAclAdmit ip (some m) (clientAclAdmit ip (some m) acl) =
      clientAclAdmit ip (some m) acl := by
  by_cases zero : ip = 0
  · simp [clientAclAdmit, zero]
  cases byMac : firstSlot fun i => (acl i).used && macMatches (acl i) (some m) with
  | some i =>
    obtain ⟨passes, first⟩ := firstSlot_eq_some_iff.mp byMac
    have once : clientAclAdmit ip (some m) acl = Function.update acl i { acl i with ip := ip } := by
      simp only [clientAclAdmit, zero, if_false, byMac]
    rw [once]
    refine clientAclAdmit_settled (i := i) (by simpa [macMatches] using passes) (fun j before => ?_)
      (by simp)
    rw [Function.update_of_ne before.ne]
    exact first j before
  | none =>
    have unmatched := firstSlot_eq_none_iff.mp byMac
    have written : ∀ (i : Fin aclMaxClients) (entry : AclEntry), entry.used = true →
        entry.ip = ip → clientAclAdmit ip (some m) acl =
          Function.update acl i (entry.withMac (some m)) →
        clientAclAdmit ip (some m) (clientAclAdmit ip (some m) acl) =
          clientAclAdmit ip (some m) acl := by
      intro i entry used here once
      rw [once]
      refine clientAclAdmit_settled (i := i) ?_ (fun j before => ?_) (by simpa using here)
      · simp [used, AclEntry.withMac, macMatches]
      · rw [Function.update_of_ne before.ne]
        exact unmatched j
    cases byIp : firstSlot fun i => (acl i).used && (acl i).ip == ip with
    | some i =>
      have passes := firstSlot_passes byIp
      simp only [Bool.and_eq_true, beq_iff_eq] at passes
      apply written i (acl i) passes.1 passes.2
      simp only [clientAclAdmit, zero, if_false, byMac, byIp]
    | none =>
      cases free : firstSlot fun i => !(acl i).used with
      | some i =>
        apply written i { acl i with used := true, ip := ip } rfl rfl
        simp only [clientAclAdmit, zero, if_false, byMac, byIp, free]
      | none =>
        have once : clientAclAdmit ip (some m) acl = acl := by
          simp only [clientAclAdmit, zero, if_false, byMac, byIp, free]
        rw [once, once]

end ClientAcl

end SolarConnect
