import SolarConnect.Misc.Bytes
import SolarConnect.Net.ClientAcl

/-!
# lwIP input hook

The IPv4 input hook of `lwip_hooks.c`. A packet is the bytes of its first pbuf, so `p->len`
is its length. Header fields are read at their offsets in the IPv4, TCP and UDP headers,
as lwIP's `struct ip_hdr`, `struct tcp_hdr` and `struct udp_hdr` lay them out. What lwIP
decides from the interface (`ip4_addr_isbroadcast`) is a field of `Netif`.
-/

namespace SolarConnect.LwipHooks

open Bytes ClientAcl

/-- `DNS_PORT`. -/
def dnsPort : Nat := 53

/-- `HTTP_PORT`. -/
def httpPort : Nat := 80

/-- `IP_PROTO_TCP`. -/
def ipProtoTcp : Nat := 6

/-- `IP_PROTO_UDP`. -/
def ipProtoUdp : Nat := 17

/-- `sizeof(struct ip_hdr)`. -/
def ipHdrSize : Nat := 20

/-- `sizeof(struct tcp_hdr)`. -/
def tcpHdrSize : Nat := 20

/-- `sizeof(struct udp_hdr)`. -/
def udpHdrSize : Nat := 8

/-- The interface a packet arrives on: its address, and which destinations
    `ip4_addr_isbroadcast` takes for broadcast on it. -/
structure Netif where
  ip4Addr : IpAddr
  isBroadcast : IpAddr → Bool

/-! ## Header fields -/

/-- A 32-bit address read from memory (little endian, as the ESP32 loads it). -/
def readAddr (p : List Byte) (i : Nat) : IpAddr :=
  byteAt p (i + 3) ++ byteAt p (i + 2) ++ byteAt p (i + 1) ++ byteAt p i

/-- The four bytes of an address in memory. -/
def addrBytes (ip : IpAddr) : List Byte :=
  [ip.extractLsb' 0 8, ip.extractLsb' 8 8, ip.extractLsb' 16 8, ip.extractLsb' 24 8]

/-- `header->src.addr`. -/
def ipSrc (p : List Byte) : IpAddr := readAddr p 12

/-- `header->dest.addr`. -/
def ipDest (p : List Byte) : IpAddr := readAddr p 16

/-- `IPH_HL_BYTES`. -/
def iphHlBytes (p : List Byte) : Nat := (byteAt p 0).toNat % 16 * 4

/-- `IPH_OFFSET_BYTES`: the 13 low bits of the fragment field, in units of 8 bytes. -/
def iphOffsetBytes (p : List Byte) : Nat := readBe16 p 6 % 0x2000 * 8

/-- `IPH_PROTO`. -/
def iphProto (p : List Byte) : Nat := (byteAt p 9).toNat

/-- `lwip_ntohs(header->dest)` of the TCP or UDP header: both keep the port at offset 2. -/
def destPort (p : List Byte) : Nat := readBe16 p (iphHlBytes p + 2)

/-- `ip4_addr_ismulticast`: the high nibble of the first byte is `0xE`. -/
def ip4AddrIsmulticast (ip : IpAddr) : Bool :=
  ip.extractLsb' 4 4 == 0xE#4

/-! ## Checksum -/

/-- `x = ~x & 0xFFFF`. -/
def complement16 (x : Int) : Int := (-x - 1) % 0x10000

/-- The loop over the old data of `checksum_adjust`: `x -= before`, with an end-around
    borrow when the result is not positive. -/
def subtractWords (x : Int) : List Byte → Int
  | b0 :: b1 :: rest =>
    let before : Int := b0.toNat * 256 + b1.toNat
    let x := x - before
    subtractWords (if x ≤ 0 then (x - 1) % 0x10000 else x) rest
  | _ => x

/-- The loop over the new data: `x += after`, with an end-around carry out of bit 16. -/
def addWords (x : Int) : List Byte → Int
  | b0 :: b1 :: rest =>
    let after : Int := b0.toNat * 256 + b1.toNat
    let x := x + after
    addWords (if x / 0x10000 % 2 = 1 then (x + 1) % 0x10000 else x) rest
  | _ => x

/-- `checksum_adjust` (`lwip_hooks.c:27-59`): the two bytes it leaves in the field. Both data
    arguments have even length. -/
def checksumAdjust (chksum0 chksum1 : Byte) (oldData newData : List Byte) : List Byte :=
  let x := complement16 (chksum0.toNat * 256 + chksum1.toNat)
  let x := addWords (subtractWords x oldData) newData
  let x := complement16 x
  [BitVec.ofInt 8 (x / 256), BitVec.ofInt 8 (x % 256)]

@[simp] theorem checksumAdjust_length (chksum0 chksum1 : Byte) (oldData newData : List Byte) :
    (checksumAdjust chksum0 chksum1 oldData newData).length = 2 := rfl

@[simp] theorem addrBytes_length (ip : IpAddr) : (addrBytes ip).length = 4 := rfl

/-- `checksum_adjust` applied to the field at offset `i` for a change of destination. -/
def adjustChecksumAt (p : List Byte) (i : Nat) (oldDst newDst : IpAddr) : List Byte :=
  writeAt p i
    (checksumAdjust (byteAt p i) (byteAt p (i + 1)) (addrBytes oldDst) (addrBytes newDst))

/-! ## The hook -/

/-- Offset of `IPH_CHKSUM`. -/
def ipChksumOffset : Nat := 10

/-- Offset of `header->dest`. -/
def ipDestOffset : Nat := 16

/-- Offset of the TCP checksum in the packet. -/
def tcpChksumOffset (p : List Byte) : Nat := iphHlBytes p + 16

/-- Offset of the UDP checksum in the packet. -/
def udpChksumOffset (p : List Byte) : Nat := iphHlBytes p + 6

/-- The tail of the rewrite shared by both protocols: adjust the IP checksum, then store the
    new destination. -/
def rewriteIpHeader (p : List Byte) (oldDst newDst : IpAddr) : List Byte :=
  writeAt (adjustChecksumAt p ipChksumOffset oldDst newDst) ipDestOffset (addrBytes newDst)

/-- `rewrite_unauthenticated_probe_to_portal` (`lwip_hooks.c:61-130`): its result, and the
    packet it leaves. -/
def rewriteUnauthenticatedProbeToPortal (myApIp : IpAddr) (p : List Byte) (oldDst : IpAddr) :
    Bool × List Byte :=
  let ipHeaderLen := iphHlBytes p
  if ipHeaderLen < ipHdrSize ∨ p.length < ipHeaderLen then (false, p)
  else if iphOffsetBytes p ≠ 0 then (false, p)
  else if iphProto p = ipProtoTcp then
    if p.length < ipHeaderLen + tcpHdrSize then (false, p)
    else if destPort p ≠ httpPort then (false, p)
    else
      (true, rewriteIpHeader (adjustChecksumAt p (tcpChksumOffset p) oldDst myApIp) oldDst myApIp)
  else if iphProto p = ipProtoUdp then
    if p.length < ipHeaderLen + udpHdrSize then (false, p)
    else if destPort p ≠ dnsPort then (false, p)
    else if readBe16 p (udpChksumOffset p) ≠ 0 then
      (true, rewriteIpHeader (adjustChecksumAt p (udpChksumOffset p) oldDst myApIp) oldDst myApIp)
    else (true, rewriteIpHeader p oldDst myApIp)
  else (false, p)

/-- What the hook does with a packet: its return value, how often it called `pbuf_free`, and
    the bytes left in the pbuf. -/
structure HookResult where
  ret : Nat
  frees : Nat
  packet : List Byte
  deriving DecidableEq, Repr

/-- `solar_hook_ip4_input` (`lwip_hooks.c:132-170`). -/
def solarHookIp4Input (myApIp : IpAddr) (acl : Acl) (inp : Netif) (p : List Byte) : HookResult :=
  if p.length < ipHdrSize then ⟨0, 0, p⟩
  else if inp.ip4Addr ≠ myApIp then ⟨0, 0, p⟩
  else
    let src := ipSrc p
    let dst := ipDest p
    if dst = myApIp then ⟨0, 0, p⟩
    else if inp.isBroadcast dst || ip4AddrIsmulticast dst then ⟨0, 0, p⟩
    else if src = 0 || clientAclIsAdmitted acl src then ⟨0, 0, p⟩
    else
      let rewritten := rewriteUnauthenticatedProbeToPortal myApIp p dst
      if rewritten.1 then ⟨0, 0, rewritten.2⟩ else ⟨1, 1, rewritten.2⟩

end SolarConnect.LwipHooks
