import SolarConnect.Net.Checksum
import SolarConnect.Net.EgressGate

/-!
# Checksums of a redirected UDP probe

The hook sends a DNS query of a client that is not admitted to the station, and adjusts two
checksums for the new destination. Both stay valid sums. In UDP a checksum field of zero says
that there is none, and the adjustment comes out zero for some queries.
-/

namespace SolarConnect.LwipHooks

open Bytes ClientAcl OnesComplement

/-- `header->len` of the UDP header. -/
def udpLen (datagram : List Byte) : Nat :=
  readBe16 datagram (iphHlBytes datagram + 4)

/-- The IP header with its options. -/
def ipHeader (datagram : List Byte) : List Byte :=
  datagram.take (iphHlBytes datagram)

/-- The UDP header and its data. -/
def udpSegment (datagram : List Byte) : List Byte :=
  (datagram.drop (iphHlBytes datagram)).take (udpLen datagram)

/-- The pseudo-header of UDP over IPv4. -/
def pseudoHeader (src dst : IpAddr) (len : Nat) : List Byte :=
  addrBytes src ++ addrBytes dst ++
    [0, BitVec.ofNat 8 ipProtoUdp, BitVec.ofNat 8 (len / 256), BitVec.ofNat 8 len]

/-- The datagram has a valid IP header checksum and a valid UDP checksum. -/
structure UdpChecksummed (datagram : List Byte) : Prop where
  header : onesSum (ipHeader datagram) = 0xFFFF
  present : readBe16 datagram (udpChksumOffset datagram) ≠ 0
  segment : onesSum (pseudoHeader (ipSrc datagram) (ipDest datagram) (udpLen datagram) ++
    udpSegment datagram) = 0xFFFF

/-- A UDP datagram with all the bytes that its length field announces. -/
structure WholeUdp (datagram : List Byte) : Prop where
  proto : iphProto datagram = ipProtoUdp
  header : udpHdrSize ≤ udpLen datagram
  data : iphHlBytes datagram + udpLen datagram ≤ datagram.length

/-- The hook redirects the packet: it is gated, and let through. -/
structure SentToPortal (myApIp : IpAddr) (acl : Acl) (inp : Netif) (p : List Byte) : Prop where
  header : ipHdrSize ≤ p.length
  onAp : inp.ip4Addr = myApIp
  gated : Gated myApIp acl inp p
  kept : (solarHookIp4Input myApIp acl inp p).ret = 0

/-- The words of the checksum and of the old destination together leave the residue of the new
    destination: the checksum for the new destination is zero. -/
def ChecksumVanishes (myApIp : IpAddr) (p : List Byte) : Prop :=
  (readBe16 p (udpChksumOffset p) + wordSum (addrBytes (ipDest p))) % 0xFFFF =
    wordSum (addrBytes myApIp) % 0xFFFF

/-- What a redirected query with a checksum is rewritten to. -/
def redirectedUdp (p : List Byte) (newDst : IpAddr) : List Byte :=
  rewriteIpHeader (adjustChecksumAt p (udpChksumOffset p) (ipDest p) newDst) (ipDest p) newDst

/-! ## When the field comes out zero -/

/-- The first loop gives zero for negative zeros only. -/
theorem subtractWords_eq_zero {x : Int} (isWord : IsWord x) (oldData : List Byte)
    (even : 2 ∣ oldData.length) (zero : subtractWords x oldData = 0) :
    x = 0 ∧ ∀ b ∈ oldData, b = 0xFF := by
  induction oldData, even using words_induction generalizing x with
  | nil => exact ⟨zero, by simp⟩
  | pair b0 b1 rest even ih =>
    rw [subtractWords_pair] at zero
    obtain ⟨round, others⟩ := ih (subtractRound_spec x _ isWord (word_le b0 b1)).1 zero
    have high := b0.isLt
    have low := b1.isLt
    rw [subtractRound, word] at round
    unfold IsWord at isWord
    have start : x = 0 := by
      split at round <;> omega
    have bytes : b0 = 0xFF ∧ b1 = 0xFF := by
      simp only [BitVec.toNat_eq, BitVec.ofNat_eq_ofNat, BitVec.toNat_ofNat]
      split at round <;> omega
    refine ⟨start, ?_⟩
    simp only [List.forall_mem_cons]
    exact ⟨bytes.1, bytes.2, others⟩

/-- The second loop gives zero only where it starts from zero. -/
theorem addWords_eq_zero {x : Int} (isWord : IsWord x) (newData : List Byte)
    (even : 2 ∣ newData.length) (zero : addWords x newData = 0) : x = 0 := by
  induction newData, even using words_induction generalizing x with
  | nil => exact zero
  | pair b0 b1 rest even ih =>
    have small := word_le b0 b1
    rw [addWords_pair] at zero
    have round := ih (addRound_spec x _ isWord small).1 zero
    rw [addRound] at round
    unfold IsWord at isWord
    split at round <;> omega

/-- The adjusted field is zero where the words taken out and put in cancel with the field. -/
theorem checksumAdjust_eq_zero (chksum0 chksum1 : Byte) {oldData newData : List Byte}
    (evenOld : 2 ∣ oldData.length) (evenNew : 2 ∣ newData.length)
    (notOnes : ∃ b ∈ oldData, b ≠ 0xFF) :
    readBe16 (checksumAdjust chksum0 chksum1 oldData newData) 0 = 0 ↔
      (word chksum0 chksum1 + wordSum oldData) % 0xFFFF = wordSum newData % 0xFFFF := by
  have start := startValue_spec chksum0 chksum1
  have subtracted := subtractWords_spec start.2 oldData evenOld
  have adjusted := adjustedValue_spec chksum0 chksum1 evenOld evenNew
  have field := checksumAdjust_word chksum0 chksum1 evenOld evenNew
  rw [wordSum_field (by simp)] at field
  have positive : adjustedValue chksum0 chksum1 oldData newData ≠ 0 := by
    intro zero
    have first := addWords_eq_zero subtracted.1 newData evenNew zero
    obtain ⟨b, mem, other⟩ := notOnes
    exact other ((subtractWords_eq_zero start.2 oldData evenOld first).2 b mem)
  unfold IsWord at adjusted
  omega

/-! ## The writes, part by part -/

theorem addrBytes_readAddr (p : List Byte) (i : Nat) :
    addrBytes (readAddr p i) =
      [byteAt p i, byteAt p (i + 1), byteAt p (i + 2), byteAt p (i + 3)] := by
  simp only [addrBytes, readAddr, List.cons.injEq]
  refine ⟨?_, ?_, ?_, ?_, trivial⟩
  all_goals
    ext j
    simp only [BitVec.getElem_extractLsb', BitVec.getLsbD_append]
    grind

/-- An address in memory, as bytes. -/
theorem slice_addr (p : List Byte) (i : Nat) (inside : i + 4 ≤ p.length) :
    (p.drop i).take 4 = addrBytes (readAddr p i) := by
  rw [addrBytes_readAddr, cons_drop (by omega), cons_drop (by omega), cons_drop (by omega),
    cons_drop (by omega)]
  simp

theorem addrBytes_even (ip : IpAddr) : 2 ∣ (addrBytes ip).length := by
  simp

/-- Only the limited broadcast address has no byte other than `0xFF`. -/
theorem exists_byte_ne_ones {ip : IpAddr} (other : ip ≠ 0xFFFFFFFF) :
    ∃ b ∈ addrBytes ip, b ≠ 0xFF := by
  by_contra none
  push Not at none
  simp only [addrBytes, List.forall_mem_cons] at none
  obtain ⟨byte0, byte1, byte2, byte3, -⟩ := none
  apply other
  rw [← addrBytes_append ip, byte0, byte1, byte2, byte3]
  rfl

section

variable (p : List Byte) (oldDst newDst : IpAddr)

theorem take_adjustChecksumAt {i n : Nat} (inside : i + 2 ≤ n) :
    (adjustChecksumAt p i oldDst newDst).take n = adjustChecksumAt (p.take n) i oldDst newDst := by
  rw [adjustChecksumAt, adjustChecksumAt, take_writeAt, byteAt_take p (by omega),
    byteAt_take p (by omega)]

theorem drop_adjustChecksumAt (n i : Nat) :
    (adjustChecksumAt p (n + i) oldDst newDst).drop n =
      adjustChecksumAt (p.drop n) i oldDst newDst := by
  rw [adjustChecksumAt, adjustChecksumAt, drop_writeAt_inside, byteAt_drop, byteAt_drop,
    Nat.add_assoc]

theorem adjustChecksumAt_append (tail : List Byte) {i : Nat} (inside : i + 2 ≤ p.length) :
    adjustChecksumAt (p ++ tail) i oldDst newDst = adjustChecksumAt p i oldDst newDst ++ tail := by
  rw [adjustChecksumAt, adjustChecksumAt, byteAt_append_left tail (by omega),
    byteAt_append_left tail (by omega)]
  exact writeAt_append p tail i _ (by simpa using inside)

theorem take_rewriteIpHeader {n : Nat} (inside : ipHdrSize ≤ n) :
    (rewriteIpHeader p oldDst newDst).take n = rewriteIpHeader (p.take n) oldDst newDst := by
  rw [rewriteIpHeader, rewriteIpHeader, take_writeAt,
    take_adjustChecksumAt p oldDst newDst (by simp only [ipChksumOffset, ipHdrSize] at *; omega)]

theorem drop_rewriteIpHeader {n : Nat} (behind : ipHdrSize ≤ n) :
    (rewriteIpHeader p oldDst newDst).drop n = p.drop n := by
  simp only [ipHdrSize] at behind
  rw [rewriteIpHeader, drop_writeAt _ _ (by simp [ipDestOffset]; omega), adjustChecksumAt,
    drop_writeAt _ _ (by simp [ipChksumOffset]; omega)]

theorem rewriteIpHeader_append (tail : List Byte) (inside : ipHdrSize ≤ p.length) :
    rewriteIpHeader (p ++ tail) oldDst newDst = rewriteIpHeader p oldDst newDst ++ tail := by
  simp only [ipHdrSize] at inside
  rw [rewriteIpHeader, rewriteIpHeader, adjustChecksumAt_append p oldDst newDst tail
    (by simp only [ipChksumOffset]; omega)]
  exact writeAt_append _ tail _ _ (by simp [ipDestOffset]; omega)

/-- An adjusted checksum makes up for the change of address. -/
theorem adjustChecksumAt_residue {i : Nat} (even : 2 ∣ i) (inside : i + 2 ≤ p.length) :
    (wordSum (adjustChecksumAt p i oldDst newDst) + wordSum (addrBytes newDst)) % 0xFFFF =
      (wordSum p + wordSum (addrBytes oldDst)) % 0xFFFF := by
  have residue := checksumAdjust_residue (byteAt p i) (byteAt p (i + 1)) (addrBytes_even oldDst)
    (addrBytes_even newDst)
  have written := wordSum_writeAt p (checksumAdjust (byteAt p i) (byteAt p (i + 1))
    (addrBytes oldDst) (addrBytes newDst)) even (by simp) (by simpa using inside)
  rw [checksumAdjust_length, wordSum_slice_field p i inside] at written
  rw [wordSum_pair, wordSum_nil, Nat.add_zero] at residue
  rw [readBe16, ← word] at written
  unfold adjustChecksumAt
  omega

end

/-! ## The redirected datagram -/

/-- The new IP header is the old one, adjusted. -/
theorem rewriteIpHeader_residue (h : List Byte) (newDst : IpAddr) (inside : ipHdrSize ≤ h.length) :
    wordSum (rewriteIpHeader h (ipDest h) newDst) % 0xFFFF = wordSum h % 0xFFFF := by
  simp only [ipHdrSize] at inside
  have adjusted := adjustChecksumAt_residue h (ipDest h) newDst (i := ipChksumOffset)
    (by decide) (by simp only [ipChksumOffset]; omega)
  have written := wordSum_writeAt (adjustChecksumAt h ipChksumOffset (ipDest h) newDst)
    (i := ipDestOffset) (addrBytes newDst) (by decide) (addrBytes_even newDst)
    (by simp [ipDestOffset]; omega)
  have old : ((adjustChecksumAt h ipChksumOffset (ipDest h) newDst).drop ipDestOffset).take 4 =
      addrBytes (ipDest h) := by
    rw [adjustChecksumAt, drop_writeAt _ _ (by simp [ipChksumOffset, ipDestOffset]),
      slice_addr h ipDestOffset (by simp only [ipDestOffset]; omega)]
    rfl
  rw [addrBytes_length, old] at written
  unfold rewriteIpHeader
  omega

section

variable (d : List Byte) (newDst : IpAddr)

/-- The bytes of neither checksum and not of the destination stay. -/
theorem redirectedUdp_byteAt (header : ipHdrSize ≤ iphHlBytes d) {i : Nat}
    (place : i < ipChksumOffset ∨ (12 ≤ i ∧ i < ipDestOffset) ∨
      (ipHdrSize ≤ i ∧ i < udpChksumOffset d) ∨ udpChksumOffset d + 2 ≤ i) :
    byteAt (redirectedUdp d newDst) i = byteAt d i := by
  simp only [ipChksumOffset, ipDestOffset, ipHdrSize, udpChksumOffset] at *
  apply byteAt_eq_of_getElem?
  rw [redirectedUdp, rewriteIpHeader_outside _ _ _ _ (by simp only [ipDestOffset]; omega)
    (by simp only [ipChksumOffset]; omega)]
  exact adjustChecksumAt_outside d _ _ _ _ (by simp only [udpChksumOffset]; omega)

theorem redirectedUdp_iphHlBytes (header : ipHdrSize ≤ iphHlBytes d) :
    iphHlBytes (redirectedUdp d newDst) = iphHlBytes d := by
  rw [iphHlBytes, redirectedUdp_byteAt d newDst header (Or.inl (by decide)), iphHlBytes]

theorem redirectedUdp_udpLen (header : ipHdrSize ≤ iphHlBytes d) :
    udpLen (redirectedUdp d newDst) = udpLen d := by
  have same : ∀ k, k < 2 → byteAt (redirectedUdp d newDst) (iphHlBytes d + 4 + k) =
      byteAt d (iphHlBytes d + 4 + k) := by
    intro k field
    apply redirectedUdp_byteAt d newDst header
    simp only [udpChksumOffset, ipHdrSize] at *
    omega
  have high := same 0 (by decide)
  have low := same 1 (by decide)
  rw [Nat.add_zero] at high
  rw [udpLen, redirectedUdp_iphHlBytes d newDst header, readBe16, high, low, udpLen, readBe16]

theorem redirectedUdp_ipSrc (header : ipHdrSize ≤ iphHlBytes d) :
    ipSrc (redirectedUdp d newDst) = ipSrc d := by
  have same : ∀ k, k < 4 → byteAt (redirectedUdp d newDst) (12 + k) = byteAt d (12 + k) := by
    intro k field
    apply redirectedUdp_byteAt d newDst header
    simp only [ipDestOffset]
    omega
  have first := same 0 (by decide)
  rw [Nat.add_zero] at first
  rw [ipSrc, readAddr, same 3 (by decide), same 2 (by decide), same 1 (by decide), first, ipSrc,
    readAddr]

theorem redirectedUdp_ipHeader (header : ipHdrSize ≤ iphHlBytes d) :
    ipHeader (redirectedUdp d newDst) = rewriteIpHeader (ipHeader d) (ipDest d) newDst := by
  rw [ipHeader, redirectedUdp_iphHlBytes d newDst header, redirectedUdp,
    take_rewriteIpHeader _ _ _ header, adjustChecksumAt,
    take_writeAt_front d _ (by simp only [udpChksumOffset]; omega), ipHeader]

theorem redirectedUdp_udpSegment (header : ipHdrSize ≤ iphHlBytes d)
    (length : udpHdrSize ≤ udpLen d) :
    udpSegment (redirectedUdp d newDst) = adjustChecksumAt (udpSegment d) 6 (ipDest d) newDst := by
  simp only [udpHdrSize] at length
  rw [udpSegment, redirectedUdp_iphHlBytes d newDst header, redirectedUdp_udpLen d newDst header,
    redirectedUdp, drop_rewriteIpHeader _ _ _ header, udpChksumOffset, drop_adjustChecksumAt,
    take_adjustChecksumAt _ _ _ (by omega), udpSegment]

end

/-! ## Both sums stay valid -/

section

variable (d : List Byte) (newDst : IpAddr)

theorem redirectedUdp_header_sum (header : ipHdrSize ≤ iphHlBytes d)
    (inside : iphHlBytes d ≤ d.length) (ones : onesSum (ipHeader d) = 0xFFFF) :
    onesSum (ipHeader (redirectedUdp d newDst)) = 0xFFFF := by
  have fits : ipHdrSize ≤ (ipHeader d).length := by
    rwa [ipHeader, List.length_take_of_le inside]
  have dest : ipDest (ipHeader d) = ipDest d := by
    simp only [ipHdrSize] at header
    simp only [ipHeader, ipDest, readAddr]
    rw [byteAt_take d (by omega), byteAt_take d (by omega), byteAt_take d (by omega),
      byteAt_take d (by omega)]
  have residue := rewriteIpHeader_residue (ipHeader d) newDst fits
  rw [dest, ← redirectedUdp_ipHeader d newDst header] at residue
  rw [onesSum_of_residue ones residue]
  apply exists_mem_ne_zero (i := 0)
  simp only [ipHdrSize] at header
  rw [ipHeader, redirectedUdp_iphHlBytes d newDst header, byteAt_take _ (by omega),
    redirectedUdp_byteAt d newDst header (Or.inl (by decide))]
  intro zero
  rw [iphHlBytes, zero] at header
  exact absurd header (by decide)

theorem wordSum_pseudoHeader (src dst : IpAddr) (len : Nat) (rest : List Byte) :
    wordSum (pseudoHeader src dst len ++ rest) =
      wordSum (addrBytes dst) + wordSum (pseudoHeader src 0 len) + wordSum rest := by
  simp only [pseudoHeader, List.append_assoc]
  rw [wordSum_append _ _ (addrBytes_even src), wordSum_append _ _ (addrBytes_even dst),
    wordSum_append _ rest (by simp), wordSum_append _ _ (addrBytes_even src),
    wordSum_append _ _ (addrBytes_even 0)]
  have zero : wordSum (addrBytes 0) = 0 := by decide
  omega

theorem redirectedUdp_segment_sum (header : ipHdrSize ≤ iphHlBytes d) (whole : WholeUdp d)
    (ones : onesSum (pseudoHeader (ipSrc d) (ipDest d) (udpLen d) ++ udpSegment d) = 0xFFFF) :
    onesSum (pseudoHeader (ipSrc (redirectedUdp d newDst)) newDst
      (udpLen (redirectedUdp d newDst)) ++
      udpSegment (redirectedUdp d newDst)) = 0xFFFF := by
  have fits : 6 + 2 ≤ (udpSegment d).length := by
    have length := whole.header
    have data := whole.data
    simp only [udpHdrSize] at length
    rw [udpSegment, List.length_take, List.length_drop]
    omega
  have adjusted := adjustChecksumAt_residue (udpSegment d) (ipDest d) newDst (by decide) fits
  rw [redirectedUdp_ipSrc d newDst header, redirectedUdp_udpLen d newDst header,
    redirectedUdp_udpSegment d newDst header whole.header]
  rw [onesSum_of_residue ones]
  · refine ⟨BitVec.ofNat 8 ipProtoUdp, ?_, by decide⟩
    simp [pseudoHeader]
  · rw [wordSum_pseudoHeader, wordSum_pseudoHeader]
    omega

/-- The new checksum field, in terms of the old one. -/
theorem redirectedUdp_field (header : ipHdrSize ≤ iphHlBytes d)
    (inside : iphHlBytes d + udpHdrSize ≤ d.length) :
    readBe16 (redirectedUdp d newDst) (udpChksumOffset (redirectedUdp d newDst)) =
      readBe16 (checksumAdjust (byteAt d (udpChksumOffset d)) (byteAt d (udpChksumOffset d + 1))
        (addrBytes (ipDest d)) (addrBytes newDst)) 0 := by
  have place : udpChksumOffset (redirectedUdp d newDst) = udpChksumOffset d := by
    rw [udpChksumOffset, redirectedUdp_iphHlBytes d newDst header, udpChksumOffset]
  have stored : ∀ k, k < 2 → byteAt (redirectedUdp d newDst) (udpChksumOffset d + k) =
      byteAt (checksumAdjust (byteAt d (udpChksumOffset d)) (byteAt d (udpChksumOffset d + 1))
        (addrBytes (ipDest d)) (addrBytes newDst)) k := by
    intro k field
    simp only [ipHdrSize, udpHdrSize] at header inside
    have untouched : byteAt (redirectedUdp d newDst) (udpChksumOffset d + k) =
        byteAt (adjustChecksumAt d (udpChksumOffset d) (ipDest d) newDst)
          (udpChksumOffset d + k) := by
      apply byteAt_eq_of_getElem?
      apply rewriteIpHeader_outside
      · simp only [ipDestOffset, udpChksumOffset]
        omega
      · simp only [ipChksumOffset, udpChksumOffset]
        omega
    rw [untouched, adjustChecksumAt, byteAt_writeAt, if_pos (by simpa using field),
      Nat.add_sub_cancel_left]
    rw [checksumAdjust_length, udpChksumOffset]
    omega
  have high := stored 0 (by decide)
  rw [Nat.add_zero] at high
  rw [place, readBe16, high, stored 1 (by decide), readBe16]

/-- The rewritten query keeps its checksums, unless its UDP checksum comes out zero. -/
theorem redirectedUdp_checksummed (header : ipHdrSize ≤ iphHlBytes d) (whole : WholeUdp d)
    (valid : UdpChecksummed d) (other : ipDest d ≠ 0xFFFFFFFF) :
    UdpChecksummed (redirectedUdp d newDst) ↔ ¬ ChecksumVanishes newDst d := by
  have length := whole.header
  have data := whole.data
  have field := redirectedUdp_field d newDst header (by simp only [udpHdrSize] at *; omega)
  have vanishes := checksumAdjust_eq_zero (byteAt d (udpChksumOffset d))
    (byteAt d (udpChksumOffset d + 1)) (addrBytes_even (ipDest d)) (addrBytes_even newDst)
    (exists_byte_ne_ones other)
  have dest : ipDest (redirectedUdp d newDst) = newDst := by
    apply rewriteIpHeader_dest
    rw [adjustChecksumAt_length]
    omega
  have zero : readBe16 (redirectedUdp d newDst) (udpChksumOffset (redirectedUdp d newDst)) = 0 ↔
      ChecksumVanishes newDst d := by
    rw [field, vanishes]
    rfl
  constructor
  · intro kept vanished
    exact kept.present (zero.mpr vanished)
  · intro stays
    exact {
      header := redirectedUdp_header_sum d newDst header (by omega) valid.header
      present := fun vanished => stays (zero.mp vanished)
      segment := by
        rw [dest]
        exact redirectedUdp_segment_sum d newDst header whole valid.segment }

end

/-! ## The hook -/

/-- The rewrite of a UDP packet, where it is made. -/
theorem rewriteUnauthenticatedProbe_udp {myApIp : IpAddr} {p : List Byte}
    (udp : iphProto p = ipProtoUdp)
    (made : (rewriteUnauthenticatedProbeToPortal myApIp p (ipDest p)).1 = true) :
    ipHdrSize ≤ iphHlBytes p ∧ iphHlBytes p + udpHdrSize ≤ p.length ∧
      (readBe16 p (udpChksumOffset p) ≠ 0 →
        (rewriteUnauthenticatedProbeToPortal myApIp p (ipDest p)).2 = redirectedUdp p myApIp) := by
  have effect := rewriteUnauthenticatedProbe_effect myApIp p (ipDest p)
  generalize rewriteUnauthenticatedProbeToPortal myApIp p (ipDest p) = result at effect made ⊢
  cases effect with
  | refused => cases made
  | tcp _ _ _ proto => exact absurd (udp.symm.trans proto) (by decide)
  | udp header inside => exact ⟨header, inside, fun _ => rfl⟩
  | udpUnchecked header inside _ _ _ absent =>
    exact ⟨header, inside, fun present => absurd absent present⟩

/-- What a redirected packet is rewritten to is what the rewrite makes of it. -/
theorem SentToPortal.rewritten {myApIp : IpAddr} {acl : Acl} {inp : Netif} {p : List Byte}
    (sent : SentToPortal myApIp acl inp p) :
    (rewriteUnauthenticatedProbeToPortal myApIp p (ipDest p)).1 = true ∧
      (solarHookIp4Input myApIp acl inp p).packet =
        (rewriteUnauthenticatedProbeToPortal myApIp p (ipDest p)).2 := by
  obtain ⟨header, onAp, ⟨src, admitted, dest, broadcast, multicast⟩, kept⟩ := sent
  have long : ¬ p.length < ipHdrSize := by omega
  simp only [solarHookIp4Input, long, onAp, src, admitted, dest, broadcast, multicast, if_false,
    ne_eq, not_true_eq_false, Bool.or_self, Bool.false_eq_true, decide_false] at kept ⊢
  split at kept
  · rename_i made
    rw [if_pos made]
    exact ⟨made, rfl⟩
  · cases kept

section

variable (p tail : List Byte)

/-- The header fields lie in the first pbuf. -/
theorem header_append (header : ipHdrSize ≤ p.length) :
    iphHlBytes (p ++ tail) = iphHlBytes p ∧ iphProto (p ++ tail) = iphProto p ∧
      ipDest (p ++ tail) = ipDest p := by
  simp only [ipHdrSize] at header
  have same : ∀ i, i < 20 → byteAt (p ++ tail) i = byteAt p i :=
    fun i within => byteAt_append_left tail (by omega)
  refine ⟨?_, ?_, ?_⟩
  · rw [iphHlBytes, same 0 (by decide), iphHlBytes]
  · rw [iphProto, same 9 (by decide), iphProto]
  · simp only [ipDest, readAddr]
    rw [same _ (by decide), same _ (by decide), same _ (by decide), same _ (by decide)]

/-- The rewrite touches the first pbuf only. -/
theorem redirectedUdp_append (newDst : IpAddr) (header : ipHdrSize ≤ p.length)
    (inside : iphHlBytes p + udpHdrSize ≤ p.length) :
    redirectedUdp (p ++ tail) newDst = redirectedUdp p newDst ++ tail := by
  obtain ⟨length, -, dest⟩ := header_append p tail header
  have place : udpChksumOffset (p ++ tail) = udpChksumOffset p := by
    rw [udpChksumOffset, length, udpChksumOffset]
  have fits : udpChksumOffset p + 2 ≤ p.length := inside
  rw [redirectedUdp, place, dest, adjustChecksumAt_append p _ _ tail fits,
    rewriteIpHeader_append _ _ _ tail (by rwa [adjustChecksumAt_length]), redirectedUdp]

end

/-- A redirected DNS query with valid checksums, in a first pbuf and what follows it, keeps them
    unless its UDP checksum comes out zero. -/
theorem sentToPortal_checksummed_iff (myApIp : IpAddr) (acl : Acl) (inp : Netif)
    (p tail : List Byte) (limited : inp.isBroadcast 0xFFFFFFFF = true)
    (sent : SentToPortal myApIp acl inp p) (whole : WholeUdp (p ++ tail))
    (valid : UdpChecksummed (p ++ tail)) :
    UdpChecksummed ((solarHookIp4Input myApIp acl inp p).packet ++ tail) ↔
      ¬ ChecksumVanishes myApIp (p ++ tail) := by
  obtain ⟨length, proto, dest⟩ := header_append p tail sent.header
  obtain ⟨made, packet⟩ := sent.rewritten
  obtain ⟨header, inside, rewrite⟩ :=
    rewriteUnauthenticatedProbe_udp (proto.symm.trans whole.proto) made
  have present : readBe16 p (udpChksumOffset p) ≠ 0 := by
    have field := valid.present
    simp only [udpHdrSize] at inside
    simp only [udpChksumOffset, length, readBe16] at field ⊢
    rwa [byteAt_append_left tail (by omega), byteAt_append_left tail (by omega)] at field
  have other : ipDest (p ++ tail) ≠ 0xFFFFFFFF := by
    intro ones
    have broadcast := sent.gated.2.2.2.1
    rw [← dest, ones, limited] at broadcast
    cases broadcast
  rw [packet, rewrite present, ← redirectedUdp_append p tail myApIp sent.header inside]
  exact redirectedUdp_checksummed (p ++ tail) myApIp (length ▸ header) whole valid other

/-- A query for `a.com` to 8.8.8.8 whose checksum is zero for 192.168.4.1. -/
def vanishingQuery : List Byte :=
  [0x45, 0, 0, 51, 0, 1, 0, 0, 64, 17, 0xA5, 0xFF, 0xC0, 0xA8, 4, 2, 8, 8, 8, 8,
    0x30, 0x39, 0, 53, 0, 31, 0xB4, 0x99,
    0xCE, 0xBB, 1, 0, 0, 1, 0, 0, 0, 0, 0, 0, 1, 0x61, 3, 0x63, 0x6F, 0x6D, 0, 0, 1, 0, 1]

theorem vanishingQuery_unchecksummed :
    let result := solarHookIp4Input apNetif.ip4Addr clientAclInit apNetif vanishingQuery
    SentToPortal apNetif.ip4Addr clientAclInit apNetif vanishingQuery ∧
      WholeUdp vanishingQuery ∧ UdpChecksummed vanishingQuery ∧
      readBe16 result.packet (udpChksumOffset result.packet) = 0 ∧
      ¬ UdpChecksummed result.packet := by
  intro result
  have zero : readBe16 result.packet (udpChksumOffset result.packet) = 0 := by decide
  exact ⟨⟨by decide, rfl, by decide, by decide⟩, ⟨by decide, by decide, by decide⟩,
    ⟨by decide, by decide, by decide⟩, zero, fun kept => kept.present zero⟩

/-- The same query with another identifier, and so with another checksum. -/
def keptQuery : List Byte :=
  [0x45, 0, 0, 51, 0, 1, 0, 0, 64, 17, 0xA5, 0xFF, 0xC0, 0xA8, 4, 2, 8, 8, 8, 8,
    0x30, 0x39, 0, 53, 0, 31, 0xB4, 0x9A,
    0xCE, 0xBA, 1, 0, 0, 1, 0, 0, 0, 0, 0, 0, 1, 0x61, 3, 0x63, 0x6F, 0x6D, 0, 0, 1, 0, 1]

theorem sentToPortal_checksummed_kept :
    UdpChecksummed ((solarHookIp4Input apNetif.ip4Addr clientAclInit apNetif
      (keptQuery.take 28)).packet ++ keptQuery.drop 28) :=
  (sentToPortal_checksummed_iff apNetif.ip4Addr clientAclInit apNetif (keptQuery.take 28)
    (keptQuery.drop 28) rfl ⟨by decide, rfl, by decide, by decide⟩
    ⟨by decide, by decide, by decide⟩ ⟨by decide, by decide, by decide⟩).mpr
    (by unfold ChecksumVanishes; decide)

end SolarConnect.LwipHooks
