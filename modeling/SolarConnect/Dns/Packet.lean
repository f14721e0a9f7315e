import SolarConnect.Misc.Bytes
import SolarConnect.Net.LwipHooks

/-!
# DNS packets

The packet code of `dns_server.c`. A packet is the list of its bytes, and a loop that moves
`offset` through it walks down the bytes that are left. A `char` array is the string it
holds up to its first NUL, or, before it is read as a string, the bytes written to it.
-/

namespace SolarConnect.Dns

open Bytes LwipHooks

/-- `DNS_BUFFER_SIZE`. -/
def dnsBufferSize : Nat := 512

/-- `DNS_TTL_SECONDS`. -/
def dnsTtlSeconds : Byte := 60

/-- Offset of the question section, right behind the header. -/
def headerSize : Nat := 12

/-- `sizeof(qname)`. -/
def qnameSize : Nat := 96

/-- The string a `char` array holds: its bytes up to the first NUL. -/
def cString (buf : List Byte) : List Byte :=
  buf.takeWhile (· != 0)

/-- `tolower` in the C locale. -/
def toLower (c : Byte) : Byte :=
  if 0x41 ≤ c ∧ c ≤ 0x5A then c + 0x20 else c

/-- `dns_cache_normalize_qname` (`dns_server.c:75-80`), on the string that is left. -/
def dnsCacheNormalizeQname (qname : List Byte) : List Byte :=
  (cString qname).map toLower

/-- The bytes of `"<unknown>"`. -/
def unknownName : List Byte := [0x3C, 0x75, 0x6E, 0x6B, 0x6E, 0x6F, 0x77, 0x6E, 0x3E]

/-! ## Question section -/

/-- `dns_skip_name` (`dns_server.c:175-197`): the bytes behind the name, `none` for the
    result 0. -/
def dnsSkipName : List Byte → Option (List Byte)
  | [] => none
  | len :: rest =>
    if len = 0 then some rest
    else if len &&& 0xC0 = 0xC0 then if rest ≠ [] then some (rest.drop 1) else none
    else if rest.length < len.toNat then none
    else dnsSkipName (rest.drop len.toNat)
  termination_by rest => rest.length
  decreasing_by rw [List.length_drop, List.length_cons]; omega

/-- `dns_is_a_record_query` (`dns_server.c:199-213`). -/
def dnsIsARecordQuery (packet : List Byte) : Bool :=
  match dnsSkipName (packet.drop headerSize) with
  | none => false
  | some rest => 4 ≤ rest.length && readBe16 rest 0 == 1 && readBe16 rest 2 == 1

/-- One label copied into `name_out`, after a `.` when it is not the first. `room` is
    `name_out_len - 1`; what does not fit is dropped. -/
def appendLabel (room : Nat) (name label : List Byte) : List Byte :=
  let name := if 0 < name.length ∧ name.length < room then name ++ [0x2E] else name
  name ++ label.take (room - name.length)

/-- The label loop of `dns_get_question_info`: the name written when it ends, and the bytes
    behind the name, `none` when a label is malformed. The loop also ends, without a
    terminating label, at the end of the packet. -/
def questionName (room : Nat) (name : List Byte) : List Byte → List Byte × Option (List Byte)
  | [] => (name, some [])
  | labelLen :: rest =>
    if labelLen = 0 then (name, some rest)
    else if labelLen &&& 0xC0 ≠ 0 ∨ rest.length < labelLen.toNat then (name, none)
    else
      questionName room (appendLabel room name (rest.take labelLen.toNat))
        (rest.drop labelLen.toNat)
  termination_by rest => rest.length
  decreasing_by rw [List.length_drop, List.length_cons]; omega

/-- The result of `dns_get_question_info` and what it leaves in `name_out` and `qtype_out`. -/
structure QuestionInfo where
  ok : Bool
  name : List Byte
  qtype : Nat
  deriving DecidableEq, Repr

/-- `dns_get_question_info` (`dns_server.c:215-262`) on a buffer of `qnameSize` bytes and a
    type that hold `name` and `qtype` before the call. -/
def dnsGetQuestionInfo (packet name : List Byte) (qtype : Nat) : QuestionInfo :=
  if packet.length < 16 then ⟨false, name, qtype⟩
  else
    match questionName (qnameSize - 1) [] (packet.drop headerSize) with
    | (name, none) => ⟨false, name, qtype⟩
    | (name, some rest) =>
      if rest.length < 4 then ⟨false, name, qtype⟩ else ⟨true, name, readBe16 rest 0⟩

/-! ## Responses -/

/-- `build_dns_response` (`dns_server.c:264-312`) into a buffer of `dnsBufferSize` bytes;
    `none` is the result -1. -/
def buildDnsResponse (myApIp : IpAddr) (query : List Byte) (answerWithPortalIp : Bool) :
    Option (List Byte) :=
  if query.length < headerSize ∨ dnsBufferSize < query.length then none
  else
    match dnsSkipName (query.drop headerSize) with
    | none => none
    | some rest =>
      if rest.length < 4 then none
      else
        let questionEnd := query.length - rest.length
        let copied := query.take (questionEnd + 4)
        let patched := writeAt (writeAt copied 2 [0x81, 0x80]) 6
          [0x00, if answerWithPortalIp then 0x01 else 0x00, 0x00, 0x00, 0x00, 0x00]
        if answerWithPortalIp then
          if dnsBufferSize < questionEnd + 20 then none
          else
            some (patched ++ [0xC0, 0x0C, 0x00, 0x01, 0x00, 0x01, 0x00, 0x00, 0x00, dnsTtlSeconds,
              0x00, 0x04] ++ addrBytes myApIp)
        else some patched

/-- `build_dns_servfail_response` (`dns_server.c:314-323`). -/
def buildDnsServfailResponse (myApIp : IpAddr) (query : List Byte) : Option (List Byte) :=
  (buildDnsResponse myApIp query false).map fun response => writeAt response 3 [0x82]

/-- `dns_response_is_cacheable` (`dns_server.c:162-173`). -/
def dnsResponseIsCacheable (response : List Byte) : Bool :=
  if response.length < 12 then false
  else if byteAt response 3 &&& 0x0F ≠ 0 then false
  else 0 < readBe16 response 6

end SolarConnect.Dns
