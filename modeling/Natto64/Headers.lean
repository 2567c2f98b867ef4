import Natto64.Helpers

/-!
# Headers

Parsing of the IPv6 base header, the wire and pseudo headers, and the transport
helpers both classifiers share.
-/
namespace Natto64
open Octets

def ETH_HDR_LEN : Nat := 14
def IPV4_HDR_LEN : Nat := 20
def IPV6_BASE_HDR_LEN : Nat := 40
def UDP_HDR_LEN : Nat := 8
def MAX_L4_LEN : Nat := 1500
def IPPROTO_TCP : UInt8 := 6
def IPPROTO_UDP : UInt8 := 17

def BPF_F_PSEUDO_HDR : UInt64 := 0x10
def BPF_F_MARK_MANGLED_0 : UInt64 := 0x20

/-- Fields extracted from an IPv6 base header. -/
structure Ipv6Info where
  src : Ipv6Octets
  dst : Ipv6Octets
  nextHeader : UInt8
  payloadLen : UInt16
  l4AbsOffset : Nat

/-- Hop-by-hop, routing, fragment, destination options, ESP or AH. -/
def isExtensionHeader (nextHeader : UInt8) : Bool :=
  nextHeader == 0 || nextHeader == 43 || nextHeader == 44 || nextHeader == 60 ||
    nextHeader == 50 || nextHeader == 51

def loadBeU32 (offset : Nat) : Ebpf (Option UInt32) := Option.map swap32 <$> loadU32 offset

def ipv6FromBeWords (w0 w1 w2 w3 : UInt32) : Ipv6Octets :=
  ⟨beBytes32 w0 ++ beBytes32 w1 ++ beBytes32 w2 ++ beBytes32 w3, by
    simp only [List.length_append, length_beBytes32]⟩

/-- `none` is `Ipv6ParseError::Truncated`. -/
def parseIpv6Base (l3Offset : Nat) : Ebpf (Option Ipv6Info) := do
  let some payloadLenBe ← loadU16 (l3Offset + 4) | return none
  let some nextHeader ← loadU8 (l3Offset + 6) | return none
  let some s0 ← loadBeU32 (l3Offset + 8) | return none
  let some s1 ← loadBeU32 (l3Offset + 12) | return none
  let some s2 ← loadBeU32 (l3Offset + 16) | return none
  let some s3 ← loadBeU32 (l3Offset + 20) | return none
  let some d0 ← loadBeU32 (l3Offset + 24) | return none
  let some d1 ← loadBeU32 (l3Offset + 28) | return none
  let some d2 ← loadBeU32 (l3Offset + 32) | return none
  let some d3 ← loadBeU32 (l3Offset + 36) | return none
  return some {
    src := ipv6FromBeWords s0 s1 s2 s3
    dst := ipv6FromBeWords d0 d1 d2 d3
    nextHeader := nextHeader
    payloadLen := swap16 payloadLenBe
    l4AbsOffset := l3Offset + IPV6_BASE_HDR_LEN }

structure Ipv4WireHeader where
  versionIhlDscpEcnBe : UInt16
  totalLenBe : UInt16
  identificationBe : UInt16
  flagsFragmentBe : UInt16
  ttlProtoBe : UInt16
  checksumBe : UInt16
  srcV4Be : UInt32
  dstV4Be : UInt32

/-- The memory image of the `repr(C)` structure. -/
def Ipv4WireHeader.bytes (h : Ipv4WireHeader) : List UInt8 :=
  neBytes16 h.versionIhlDscpEcnBe ++ neBytes16 h.totalLenBe ++ neBytes16 h.identificationBe ++
    neBytes16 h.flagsFragmentBe ++ neBytes16 h.ttlProtoBe ++ neBytes16 h.checksumBe ++
    neBytes32 h.srcV4Be ++ neBytes32 h.dstV4Be

structure Ipv6WireHeader where
  versionTcFlowBe : UInt32
  payloadLenBe : UInt16
  nextHeader : UInt8
  hopLimit : UInt8
  srcV6 : Ipv6Octets
  dstV6 : Ipv6Octets

def Ipv6WireHeader.bytes (h : Ipv6WireHeader) : List UInt8 :=
  neBytes32 h.versionTcFlowBe ++ neBytes16 h.payloadLenBe ++ [h.nextHeader, h.hopLimit] ++
    h.srcV6.toList ++ h.dstV6.toList

def foldU32Fixed (sum : UInt32) : UInt16 :=
  let sum : UInt32 := (sum &&& (0xffff : UInt32)) + (sum >>> 16)
  let sum : UInt32 := (sum &&& (0xffff : UInt32)) + (sum >>> 16)
  let sum : UInt32 := (sum &&& (0xffff : UInt32)) + (sum >>> 16)
  sum.toUInt16

/-- The header `write_ipv4_header` stores once the total length is known. -/
def ipv4WireHeader (totalLen : UInt16) (srcV4 dstV4 : UInt32) (l4Proto : UInt8) :
    Ipv4WireHeader :=
  let ttlProto : UInt16 := ((64 : UInt16) <<< 8) ||| l4Proto.toUInt16
  let sum : UInt32 := (0x4500 : UInt32) + totalLen.toUInt32 + ttlProto.toUInt32 + (srcV4 >>> 16) +
    (srcV4 &&& (0xffff : UInt32)) + (dstV4 >>> 16) + (dstV4 &&& (0xffff : UInt32))
  let checksum := ~~~foldU32Fixed sum
  { versionIhlDscpEcnBe := swap16 0x4500
    totalLenBe := swap16 totalLen
    identificationBe := 0
    flagsFragmentBe := 0
    ttlProtoBe := swap16 ttlProto
    checksumBe := swap16 checksum
    srcV4Be := swap32 srcV4
    dstV4Be := swap32 dstV4 }

def writeIpv4Header (payloadLen : UInt16) (srcV4 dstV4 : UInt32) (l4Proto : UInt8) :
    Ebpf Bool := do
  -- `payload_len.checked_add(IPV4_HDR_LEN as u16)`
  if payloadLen.toNat + IPV4_HDR_LEN < 65536 then
    let totalLen := payloadLen + UInt16.ofNat IPV4_HDR_LEN
    store ETH_HDR_LEN (ipv4WireHeader totalLen srcV4 dstV4 l4Proto).bytes
  else
    return false

def writeIpv6Header (payloadLen : UInt16) (nextHeader : UInt8) (srcV6 dstV6 : Ipv6Octets) :
    Ebpf Bool :=
  let hdr : Ipv6WireHeader := {
    versionTcFlowBe := swap32 0x60000000
    payloadLenBe := swap16 payloadLen
    nextHeader := nextHeader
    hopLimit := 64
    srcV6 := srcV6
    dstV6 := dstV6 }
  store ETH_HDR_LEN hdr.bytes

def tcpPorts (tcpOffset : Nat) : Ebpf (Option (UInt16 × UInt16)) := do
  let some sportBe ← loadU16 tcpOffset | return none
  let some dportBe ← loadU16 (tcpOffset + 2) | return none
  return some (swap16 sportBe, swap16 dportBe)

/-- Source port, destination port and length of a UDP header. The two source functions
differ in the counter of a failed load, the parameter here. -/
def udpPortsLenCounting (errParse : DebugCounter) (udpOffset : Nat) :
    Ebpf (Option (UInt16 × UInt16 × UInt16)) := do
  let some sport ← loadU16 udpOffset
    | do withCounters [] [errParse]; return none
  let some dport ← loadU16 (udpOffset + 2)
    | do withCounters [] [errParse]; return none
  let some udpLen ← loadU16 (udpOffset + 4)
    | do withCounters [] [errParse]; return none
  return some (swap16 sport, swap16 dport, swap16 udpLen)

def udpPortsLenReverse (udpOffset : Nat) : Ebpf (Option (UInt16 × UInt16 × UInt16)) :=
  udpPortsLenCounting .nat64V4ToV6UdpErrParse udpOffset

def udpPortsLen (udpOffset : Nat) : Ebpf (Option (UInt16 × UInt16 × UInt16)) :=
  udpPortsLenCounting .nat64V6ToV4UdpErrParse udpOffset

structure Ipv4PseudoHeader where
  srcV4Be : UInt32
  dstV4Be : UInt32
  zeroProtoBe : UInt16
  l4LenBe : UInt16

def Ipv4PseudoHeader.new (srcV4 dstV4 : UInt32) (l4Len : UInt16) (proto : UInt8) :
    Ipv4PseudoHeader where
  srcV4Be := swap32 srcV4
  dstV4Be := swap32 dstV4
  zeroProtoBe := swap16 proto.toUInt16
  l4LenBe := swap16 l4Len

def Ipv4PseudoHeader.bytes (h : Ipv4PseudoHeader) : List UInt8 :=
  neBytes32 h.srcV4Be ++ neBytes32 h.dstV4Be ++ neBytes16 h.zeroProtoBe ++ neBytes16 h.l4LenBe

structure Ipv6PseudoHeader where
  srcV6 : Ipv6Octets
  dstV6 : Ipv6Octets
  l4LenBe : UInt32
  nextHeaderBe : UInt32

def Ipv6PseudoHeader.new (srcV6 dstV6 : Ipv6Octets) (l4Len : UInt16) (nextHeader : UInt8) :
    Ipv6PseudoHeader where
  srcV6 := srcV6
  dstV6 := dstV6
  l4LenBe := swap32 l4Len.toUInt32
  nextHeaderBe := swap32 nextHeader.toUInt32

def Ipv6PseudoHeader.bytes (h : Ipv6PseudoHeader) : List UInt8 :=
  h.srcV6.toList ++ h.dstV6.toList ++ neBytes32 h.l4LenBe ++ neBytes32 h.nextHeaderBe

/-- `csum_diff` on the memory images of the two headers. -/
def csumDiff (old new : List UInt8) : Ebpf (Option UInt64) := do
  if old.length % 4 ≠ 0 ∨ new.length % 4 ≠ 0 then
    return none
  bpfCsumDiff old new

/-- The port part of a checksum update, skipped when no port is rewritten. -/
def l4CsumReplacePort (csumOffset : Nat) : Option (UInt16 × UInt16) → Ebpf Bool
  | some (oldPort, newPort) =>
      l4CsumReplace csumOffset (swap16 oldPort).toUInt64 (swap16 newPort).toUInt64 2
  | none => return true

def applyL4Nat64ChecksumDeltaV6ToV4 (csumOffset : Nat) (l4Len : UInt16) (proto : UInt8)
    (oldSrcV6 oldDstV6 : Ipv6Octets) (newSrcV4 newDstV4 : UInt32)
    (portRewrite : Option (UInt16 × UInt16)) (udpIpv4 : Bool) :
    Ebpf (Option FwdL4CsumTrace) := do
  let some oldCheckBe ← loadU16 csumOffset | return none
  let oldPseudo := Ipv6PseudoHeader.new oldSrcV6 oldDstV6 l4Len proto
  let newPseudo := Ipv4PseudoHeader.new newSrcV4 newDstV4 l4Len proto
  let some pseudoDelta ← csumDiff oldPseudo.bytes newPseudo.bytes | return none
  if !(← l4CsumReplace csumOffset 0 pseudoDelta BPF_F_PSEUDO_HDR) then
    withCounters [] [.dbgFwdL4CsumPseudoErr]
    return none
  let some afterPseudoBe ← loadU16 csumOffset | return none
  if !(← l4CsumReplacePort csumOffset portRewrite) then
    withCounters [] [.dbgFwdL4CsumPortErr]
    return none
  let some afterPortBe ← loadU16 csumOffset | return none
  if udpIpv4 then
    let zero := swap16 0
    let ffff := swap16 0xffff
    let flags := 2 ||| BPF_F_MARK_MANGLED_0
    if !(← l4CsumReplace csumOffset zero.toUInt64 ffff.toUInt64 flags) then
      return none
    return some { oldCheckBe, afterPseudoBe, afterPortBe }
  return some { oldCheckBe, afterPseudoBe, afterPortBe }

def applyL4Nat64ChecksumDeltaV4ToV6 (csumOffset : Nat) (l4Len : UInt16) (proto : UInt8)
    (oldSrcV4 oldDstV4 : UInt32) (newSrcV6 newDstV6 : Ipv6Octets)
    (portRewrite : Option (UInt16 × UInt16)) (udpV6 : Bool) : Ebpf Bool := do
  let oldPseudo := Ipv4PseudoHeader.new oldSrcV4 oldDstV4 l4Len proto
  let newPseudo := Ipv6PseudoHeader.new newSrcV6 newDstV6 l4Len proto
  let some pseudoDelta ← csumDiff oldPseudo.bytes newPseudo.bytes | return false
  if !(← l4CsumReplace csumOffset 0 pseudoDelta BPF_F_PSEUDO_HDR) then
    return false
  if !(← l4CsumReplacePort csumOffset portRewrite) then
    return false
  if udpV6 then
    let flags := 2 ||| BPF_F_PSEUDO_HDR ||| BPF_F_MARK_MANGLED_0
    l4CsumReplace csumOffset 0 0 flags
  else
    return true

end Natto64
