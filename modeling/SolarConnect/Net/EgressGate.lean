import SolarConnect.Net.LwipHooks

/-!
# Egress gate

What the input hook lets through. A packet from a client that is not admitted, on its way
past the station, is dropped, or it is a portal probe (TCP to port 80 or UDP to port 53,
not a later fragment) and goes on with the station as its destination. Every other packet
goes on as it came.
-/

namespace SolarConnect.LwipHooks

open Bytes ClientAcl

/-- The packet must not leave: its source is a client that is not admitted, and its
    destination is neither the station nor a broadcast or multicast address. -/
def Gated (myApIp : IpAddr) (acl : Acl) (inp : Netif) (p : List Byte) : Prop :=
  ipSrc p ≠ 0 ∧ clientAclIsAdmitted acl (ipSrc p) = false ∧ ipDest p ≠ myApIp ∧
    inp.isBroadcast (ipDest p) = false ∧ ip4AddrIsmulticast (ipDest p) = false

instance (myApIp : IpAddr) (acl : Acl) (inp : Netif) (p : List Byte) :
    Decidable (Gated myApIp acl inp p) := by
  unfold Gated
  infer_instance

/-- Where the transport checksum of a probe lies. -/
def transportChksumOffset (p : List Byte) : Nat :=
  if iphProto p = ipProtoTcp then tcpChksumOffset p else udpChksumOffset p

/-- Byte `i` lies in the destination address, the IP checksum or the transport checksum. -/
def Rewritable (p : List Byte) (i : Nat) : Prop :=
  ipDestOffset ≤ i ∧ i < ipDestOffset + 4 ∨ ipChksumOffset ≤ i ∧ i < ipChksumOffset + 2 ∨
    transportChksumOffset p ≤ i ∧ i < transportChksumOffset p + 2

/-- A first fragment of TCP to port 80 or of UDP to port 53. -/
def PortalProbe (p : List Byte) : Prop :=
  iphOffsetBytes p = 0 ∧
    (iphProto p = ipProtoTcp ∧ destPort p = httpPort ∨
      iphProto p = ipProtoUdp ∧ destPort p = dnsPort)

/-- `q` is the probe `p` sent to the station: only the destination and the checksums differ. -/
structure Redirected (myApIp : IpAddr) (p q : List Byte) : Prop where
  probe : PortalProbe q
  dest : ipDest q = myApIp
  length : q.length = p.length
  frame : ∀ i, ¬ Rewritable p i → q[i]? = p[i]?

/-! ## Effect of the writes -/

@[simp] theorem adjustChecksumAt_length (p : List Byte) (i : Nat) (oldDst newDst : IpAddr) :
    (adjustChecksumAt p i oldDst newDst).length = p.length := by
  simp [adjustChecksumAt]

theorem adjustChecksumAt_outside (p : List Byte) (i j : Nat) (oldDst newDst : IpAddr)
    (outside : j < i ∨ i + 2 ≤ j) : (adjustChecksumAt p i oldDst newDst)[j]? = p[j]? :=
  writeAt_getElem?_outside p i j _ (by simpa using outside)

@[simp] theorem rewriteIpHeader_length (p : List Byte) (oldDst newDst : IpAddr) :
    (rewriteIpHeader p oldDst newDst).length = p.length := by
  simp [rewriteIpHeader]

theorem rewriteIpHeader_outside (p : List Byte) (j : Nat) (oldDst newDst : IpAddr)
    (dest : j < ipDestOffset ∨ ipDestOffset + 4 ≤ j)
    (chksum : j < ipChksumOffset ∨ ipChksumOffset + 2 ≤ j) :
    (rewriteIpHeader p oldDst newDst)[j]? = p[j]? := by
  rw [rewriteIpHeader, writeAt_getElem?_outside _ _ _ _ (by simpa using dest)]
  exact adjustChecksumAt_outside p ipChksumOffset j oldDst newDst chksum

/-- The four bytes of an address, read back. -/
theorem addrBytes_append (ip : IpAddr) :
    ip.extractLsb' 24 8 ++ ip.extractLsb' 16 8 ++ ip.extractLsb' 8 8 ++ ip.extractLsb' 0 8 =
      ip := by
  ext i
  simp only [BitVec.getElem_append, BitVec.getElem_extractLsb']
  grind

theorem readAddr_writeAt (p : List Byte) (i : Nat) (ip : IpAddr) (fits : i + 4 ≤ p.length) :
    readAddr (writeAt p i (addrBytes ip)) i = ip := by
  have stored : ∀ k, k < 4 →
      byteAt (writeAt p i (addrBytes ip)) (i + k) = (addrBytes ip).getD k 0 := by
    intro k inside
    have written := writeAt_getElem?_inside p i k (addrBytes ip) (by simpa using fits)
      (by simpa using inside)
    rw [byteAt, List.getD_eq_getElem?_getD, List.getD_eq_getElem?_getD, written]
  have first := stored 0 (by omega)
  rw [Nat.add_zero] at first
  rw [readAddr, stored 3 (by omega), stored 2 (by omega), stored 1 (by omega), first]
  exact addrBytes_append ip

theorem rewriteIpHeader_dest (p : List Byte) (oldDst newDst : IpAddr)
    (header : ipHdrSize ≤ p.length) : ipDest (rewriteIpHeader p oldDst newDst) = newDst := by
  apply readAddr_writeAt
  simpa [ipDestOffset, ipHdrSize] using header

/-! ## The probe survives its rewrite -/

/-- The transport checksum of a probe lies behind its ports, and both behind the IP header. -/
theorem transportChksumOffset_ge (p : List Byte) :
    iphHlBytes p + 6 ≤ transportChksumOffset p := by
  unfold transportChksumOffset tcpChksumOffset udpChksumOffset
  split <;> omega

/-- Equal outside of the rewritable bytes means equal in every field the hook decides on. -/
theorem portalProbe_of_frame {p q : List Byte} (probe : PortalProbe p)
    (header : ipHdrSize ≤ iphHlBytes p) (frame : ∀ i, ¬ Rewritable p i → q[i]? = p[i]?) :
    PortalProbe q := by
  have beyond := transportChksumOffset_ge p
  have fixed : ∀ i, i < ipChksumOffset ∨ (iphHlBytes p ≤ i ∧ i < iphHlBytes p + 6) →
      byteAt q i = byteAt p i := by
    intro i place
    apply byteAt_eq_of_getElem?
    apply frame
    simp only [Rewritable, ipDestOffset, ipChksumOffset, ipHdrSize] at *
    omega
  have length : iphHlBytes q = iphHlBytes p := by
    rw [iphHlBytes, fixed 0 (by simp [ipChksumOffset]), iphHlBytes]
  have offset : iphOffsetBytes q = iphOffsetBytes p := by
    simp only [iphOffsetBytes, readBe16, fixed 6 (by simp [ipChksumOffset]),
      fixed (6 + 1) (by simp [ipChksumOffset])]
  have proto : iphProto q = iphProto p := by
    rw [iphProto, fixed 9 (by simp [ipChksumOffset]), iphProto]
  have port : destPort q = destPort p := by
    simp only [destPort, readBe16, length]
    rw [fixed (iphHlBytes p + 2) (by omega), fixed (iphHlBytes p + 2 + 1) (by omega)]
  rwa [PortalProbe, offset, proto, port]

/-- The writes of a redirection: a transport checksum that may be adjusted, then the IP
    header. -/
theorem redirected_of_writes {myApIp oldDst : IpAddr} {p body : List Byte}
    (probe : PortalProbe p) (header : ipHdrSize ≤ iphHlBytes p)
    (fits : iphHlBytes p ≤ p.length) (length : body.length = p.length)
    (transport : ∀ j, j < transportChksumOffset p ∨ transportChksumOffset p + 2 ≤ j →
      body[j]? = p[j]?) :
    Redirected myApIp p (rewriteIpHeader body oldDst myApIp) := by
  have frame : ∀ i, ¬ Rewritable p i → (rewriteIpHeader body oldDst myApIp)[i]? = p[i]? := by
    intro i outside
    simp only [Rewritable, not_or, not_and, not_lt] at outside
    rw [rewriteIpHeader_outside _ _ _ _ (by omega) (by omega)]
    exact transport i (by omega)
  exact {
    probe := portalProbe_of_frame probe header frame
    dest := rewriteIpHeader_dest body oldDst myApIp (by omega)
    length := by rw [rewriteIpHeader_length, length]
    frame := frame }

/-- What the rewrite does: it leaves the packet alone, or redirects a TCP probe, a UDP probe with
    a checksum, or a UDP probe without. -/
inductive RewriteEffect (myApIp : IpAddr) (p : List Byte) (oldDst : IpAddr) :
    Bool × List Byte → Prop
  | refused : RewriteEffect myApIp p oldDst (false, p)
  | tcp (header : ipHdrSize ≤ iphHlBytes p) (inside : iphHlBytes p + tcpHdrSize ≤ p.length)
      (first : iphOffsetBytes p = 0) (proto : iphProto p = ipProtoTcp)
      (port : destPort p = httpPort) :
      RewriteEffect myApIp p oldDst
        (true, rewriteIpHeader (adjustChecksumAt p (tcpChksumOffset p) oldDst myApIp) oldDst myApIp)
  | udp (header : ipHdrSize ≤ iphHlBytes p) (inside : iphHlBytes p + udpHdrSize ≤ p.length)
      (first : iphOffsetBytes p = 0) (proto : iphProto p = ipProtoUdp)
      (port : destPort p = dnsPort) (present : readBe16 p (udpChksumOffset p) ≠ 0) :
      RewriteEffect myApIp p oldDst
        (true, rewriteIpHeader (adjustChecksumAt p (udpChksumOffset p) oldDst myApIp) oldDst myApIp)
  | udpUnchecked (header : ipHdrSize ≤ iphHlBytes p)
      (inside : iphHlBytes p + udpHdrSize ≤ p.length) (first : iphOffsetBytes p = 0)
      (proto : iphProto p = ipProtoUdp) (port : destPort p = dnsPort)
      (absent : readBe16 p (udpChksumOffset p) = 0) :
      RewriteEffect myApIp p oldDst (true, rewriteIpHeader p oldDst myApIp)

theorem rewriteUnauthenticatedProbe_effect (myApIp : IpAddr) (p : List Byte) (oldDst : IpAddr) :
    RewriteEffect myApIp p oldDst (rewriteUnauthenticatedProbeToPortal myApIp p oldDst) := by
  unfold rewriteUnauthenticatedProbeToPortal
  dsimp only
  split
  · exact .refused
  rename_i long
  split
  · exact .refused
  rename_i first
  rw [not_not] at first
  split
  · rename_i proto
    split
    · exact .refused
    rename_i inside
    split
    · exact .refused
    rename_i port
    exact .tcp (by omega) (by omega) first proto (not_not.mp port)
  split
  · rename_i proto
    split
    · exact .refused
    rename_i inside
    split
    · exact .refused
    rename_i port
    split
    · rename_i present
      exact .udp (by omega) (by omega) first proto (not_not.mp port) present
    · rename_i absent
      exact .udpUnchecked (by omega) (by omega) first proto (not_not.mp port) (not_not.mp absent)
  · exact .refused

/-- The rewrite either refuses and leaves the packet alone, or redirects a probe. -/
theorem rewriteUnauthenticatedProbe_cases (myApIp : IpAddr) (p : List Byte) (oldDst : IpAddr) :
    rewriteUnauthenticatedProbeToPortal myApIp p oldDst = (false, p) ∨
      ∃ q, rewriteUnauthenticatedProbeToPortal myApIp p oldDst = (true, q) ∧
        Redirected myApIp p q := by
  have effect := rewriteUnauthenticatedProbe_effect myApIp p oldDst
  generalize rewriteUnauthenticatedProbeToPortal myApIp p oldDst = result at effect ⊢
  cases effect with
  | refused => exact Or.inl rfl
  | tcp header inside first proto port =>
    have place : transportChksumOffset p = tcpChksumOffset p := if_pos proto
    refine Or.inr ⟨_, rfl, redirected_of_writes ⟨first, Or.inl ⟨proto, port⟩⟩ header (by omega)
      (by simp) ?_⟩
    rw [place]
    exact fun j => adjustChecksumAt_outside p _ j oldDst myApIp
  | udp header inside first proto port =>
    have place : transportChksumOffset p = udpChksumOffset p := by
      rw [transportChksumOffset, proto, if_neg (by decide)]
    refine Or.inr ⟨_, rfl, redirected_of_writes ⟨first, Or.inr ⟨proto, port⟩⟩ header (by omega)
      (by simp) ?_⟩
    rw [place]
    exact fun j => adjustChecksumAt_outside p _ j oldDst myApIp
  | udpUnchecked header inside first proto port =>
    exact Or.inr ⟨_, rfl, redirected_of_writes ⟨first, Or.inr ⟨proto, port⟩⟩ header (by omega) rfl
      fun _ _ => rfl⟩

/-! ## The gate -/

/-- On the AP interface the hook drops a gated packet, freeing it once, or redirects it to
    the portal; any other packet passes unchanged. -/
theorem solarHookIp4Input_gates (myApIp : IpAddr) (acl : Acl) (inp : Netif) (p : List Byte)
    (onAp : inp.ip4Addr = myApIp) (header : ipHdrSize ≤ p.length) :
    let result := solarHookIp4Input myApIp acl inp p
    (Gated myApIp acl inp p →
        result.ret = 1 ∧ result.frees = 1 ∨
          result.ret = 0 ∧ result.frees = 0 ∧ Redirected myApIp p result.packet) ∧
      (¬ Gated myApIp acl inp p → result = ⟨0, 0, p⟩) := by
  intro result
  have decided : result =
      if Gated myApIp acl inp p then
        let rewritten := rewriteUnauthenticatedProbeToPortal myApIp p (ipDest p)
        if rewritten.1 then ⟨0, 0, rewritten.2⟩ else ⟨1, 1, rewritten.2⟩
      else ⟨0, 0, p⟩ := by
    simp only [result, solarHookIp4Input, Gated, onAp]
    grind
  rw [decided]
  by_cases gated : Gated myApIp acl inp p
  · simp only [gated, if_true, not_true_eq_false, false_implies, and_true, true_implies]
    rcases rewriteUnauthenticatedProbe_cases myApIp p (ipDest p) with refused | ⟨q, sent, moved⟩
    · simp [refused]
    · simpa [sent] using moved
  · simp [gated]

/-- A DNS query to 8.8.8.8 from 192.168.4.2, which no entry admits. -/
def dnsProbe : List Byte :=
  [0x45, 0, 0, 28, 0, 1, 0, 0, 64, 17, 0, 0, 0xC0, 0xA8, 4, 2, 8, 8, 8, 8,
    0x30, 0x39, 0, 53, 0, 8, 0, 0]

/-- The AP interface at 192.168.4.1 in a /24 network. -/
def apNetif : Netif where
  ip4Addr := 0x0104A8C0
  isBroadcast ip := ip == 0xFF04A8C0 || ip == 0xFFFFFFFF

theorem solarHookIp4Input_gates_dnsProbe :
    let result := solarHookIp4Input apNetif.ip4Addr clientAclInit apNetif dnsProbe
    Gated apNetif.ip4Addr clientAclInit apNetif dnsProbe ∧
      (result.ret = 1 ∧ result.frees = 1 ∨
        result.ret = 0 ∧ result.frees = 0 ∧
          Redirected apNetif.ip4Addr dnsProbe result.packet) := by
  have gated : Gated apNetif.ip4Addr clientAclInit apNetif dnsProbe := by decide
  exact ⟨gated, (solarHookIp4Input_gates apNetif.ip4Addr clientAclInit apNetif dnsProbe rfl
    (by decide)).1 gated⟩

end SolarConnect.LwipHooks
