import Natto64.Forward

/-!
# The reverse classifier

`nat64_reverse`: IPv4 return packets of known flows leave as IPv6 through the bridge.
-/
namespace Natto64
open Octets

def nat64SourceV6 (ipv4Src : UInt32) : Ipv6Octets :=
  ⟨NAT64_WKPF_PREFIX.toList ++ beBytes32 ipv4Src, by
    simp only [List.length_append, List.Vector.toList_length, length_beBytes32]⟩

/-- The TCP branch of `try_nat64_reverse`. -/
def reverseTcp (cfg : Nat64Config) (ihlBytes totalLen : Nat) (ipv4Src ipv4Dst : UInt32) :
    Ebpf (Except TcAction TcAction) := do
  withCounters [.pktsIpv4Tcp] [.pktsIpv4ToV4src]
  let tcpLen := totalLen - ihlBytes
  if MAX_L4_LEN < tcpLen then
    withCounters [.nat64V4ToV6ErrCsum] []
    withCounters [] [.dbgRevReturnErr]
    return .ok .pipe
  let tcpOffset := ETH_HDR_LEN + ihlBytes
  let some (tcpSport, tcpDport) ← tcpPorts tcpOffset | return .error .pipe
  let lookupKey := natLookupKeyFromIpv4 ipv4Dst tcpDport IPPROTO_TCP
  let some natVal ← natLookup lookupKey
    | do
      withCounters [.natLookupMiss] [.dbgRevReturnErr]
      return .ok .pipe
  withCounters [.natLookupHit] []
  if !natTupleMatches natVal ipv4Src tcpSport then
    withCounters [.natLookupTupleMismatch, .natLookupMiss] [.dbgRevReturnErr]
    return .ok .pipe
  natSetLastSeen lookupKey (← bpfKtimeGetNs)
  withCounters [.natHitRefreshOk] []
  if !(← changeProto ETH_P_IPV6_HELPER) then
    withCounters [] [.nat64V4ToV6ErrChangeProto]
    withCounters [] [.dbgRevReturnErr]
    return .ok .pipe
  if !(← store 12 (beBytes16 ETH_P_IPV6)) then
    withCounters [] [.nat64V4ToV6ErrL2Store]
    withCounters [] [.dbgRevReturnErr]
    return .ok .pipe
  let srcV6 := nat64SourceV6 ipv4Src
  if !(← writeIpv6Header (UInt16.ofNat tcpLen) IPPROTO_TCP srcV6 natVal.vmV6) then
    withCounters [.nat64V4ToV6ErrWriteHdr] []
    withCounters [] [.dbgRevReturnErr]
    return .ok .pipe
  let newTcpOffset := ETH_HDR_LEN + 40
  if !(← store (newTcpOffset + 2) (beBytes16 natVal.vmPort)) then
    withCounters [] [.rewriteTcpDportErr]
    withCounters [] [.dbgRevReturnErr]
    return .ok .pipe
  withCounters [] [.rewriteTcpDportOk]
  if !(← applyL4Nat64ChecksumDeltaV4ToV6 (newTcpOffset + 16) (UInt16.ofNat tcpLen) IPPROTO_TCP
      ipv4Src ipv4Dst srcV6 natVal.vmV6 (some (tcpDport, natVal.vmPort)) false) then
    withCounters [.nat64V4ToV6ErrCsum] []
    withCounters [] [.dbgRevReturnErr]
    return .ok .pipe
  withCounters [.nat64V4ToV6Ok] [.revRewriteOkBeforeRedirect]
  return .ok (← redirectToIface cfg.bridgeIfindex false)

/-- The UDP branch of `try_nat64_reverse`. -/
def reverseUdp (cfg : Nat64Config) (ihlBytes totalLen : Nat) (ipv4Src ipv4Dst : UInt32) :
    Ebpf (Except TcAction TcAction) := do
  withCounters [.pktsIpv4Udp] []
  let udpOffV4 := ETH_HDR_LEN + ihlBytes
  let some (udpSport, udpDport, udpLen) ← udpPortsLenReverse udpOffV4 | return .ok .pipe
  let udpLenUsize := udpLen.toNat
  if udpLenUsize < UDP_HDR_LEN ∨ MAX_L4_LEN < udpLenUsize ∨ totalLen < ihlBytes + udpLenUsize then
    withCounters [] [.nat64V4ToV6UdpErrLen]
    withCounters [] [.dbgRevReturnErr]
    return .ok .pipe
  let lookupKey := natLookupKeyFromIpv4 ipv4Dst udpDport IPPROTO_UDP
  let some natVal ← natLookup lookupKey
    | do
      withCounters [.nat64V4ToV6UdpMiss] [.dbgRevReturnErr]
      return .ok .pipe
  if natVal.remoteV4 ≠ ipv4Src ∨ natVal.remotePort ≠ udpSport then
    withCounters [.nat64V4ToV6UdpTupleMismatch] []
    withCounters [] [.dbgRevReturnErr]
    return .ok .pipe
  natSetLastSeen lookupKey (← bpfKtimeGetNs)
  withCounters [.natHitRefreshOk] []
  if !(← changeProto ETH_P_IPV6_HELPER) then
    withCounters [] [.nat64V4ToV6UdpErrChangeProto]
    withCounters [] [.dbgRevReturnErr]
    return .ok .pipe
  if !(← store 12 (beBytes16 ETH_P_IPV6)) then
    withCounters [] [.nat64V4ToV6UdpErrL2Store]
    withCounters [] [.dbgRevReturnErr]
    return .ok .pipe
  let srcV6 := nat64SourceV6 ipv4Src
  if !(← writeIpv6Header udpLen IPPROTO_UDP srcV6 natVal.vmV6) then
    withCounters [] [.nat64V4ToV6UdpErrParse]
    withCounters [] [.dbgRevReturnErr]
    return .ok .pipe
  let udpOffV6 := ETH_HDR_LEN + 40
  if !(← store (udpOffV6 + 2) (beBytes16 natVal.vmPort)) then
    withCounters [] [.nat64V4ToV6UdpErrDportStore]
    withCounters [] [.dbgRevReturnErr]
    return .ok .pipe
  -- the offset is that of the IPv4 packet, the frame is already the IPv6 one
  let some incomingUdpChecksum ← loadU16 (udpOffV4 + 6) | return .error .pipe
  if incomingUdpChecksum = 0 then
    withCounters [.unsupportedIpv4UdpZeroChecksum] [.nat64V4ToV6UdpZeroCsumUnsupported]
    withCounters [] [.dbgRevReturnErr]
    return .ok .pipe
  if !(← applyL4Nat64ChecksumDeltaV4ToV6 (udpOffV6 + 6) udpLen IPPROTO_UDP
      ipv4Src ipv4Dst srcV6 natVal.vmV6 (some (udpDport, natVal.vmPort)) true) then
    withCounters [] [.nat64V4ToV6UdpErrCsum]
    withCounters [] [.dbgRevReturnErr]
    return .ok .pipe
  withCounters [.nat64V4ToV6UdpOk] [.revRewriteOkBeforeRedirect]
  return .ok (← redirectToIface cfg.bridgeIfindex false)

def tryNat64Reverse : Ebpf (Except TcAction TcAction) := do
  withCounters [.pktsTotal] [.dbgRevEnter]
  let some etherTypeBe ← loadU16 12 | return .error .pipe
  if swap16 etherTypeBe ≠ ETH_P_IP then
    withCounters [] [.dbgRevReturnErr]
    return .ok .pipe
  withCounters [.pktsIpv4] [.dbgRevEthIpv4]
  let l3Offset := ETH_HDR_LEN
  let some vihl ← loadU8 l3Offset | return .error .pipe
  if vihl >>> 4 ≠ 4 then
    withCounters [] [.dbgRevReturnErr]
    return .ok .pipe
  let ihlWords := (vihl &&& 0x0f).toNat
  let ihlBytes := ihlWords * 4
  if ¬(20 ≤ ihlBytes ∧ ihlBytes ≤ 60) then
    withCounters [] [.dbgRevReturnErr]
    return .ok .pipe
  let some totalLenBe ← loadU16 (l3Offset + 2) | return .error .pipe
  let totalLen := (swap16 totalLenBe).toNat
  if totalLen < ihlBytes then
    withCounters [] [.dbgRevReturnErr]
    return .ok .pipe
  let some fragOffFlagsBe ← loadU16 (l3Offset + 6) | return .error .pipe
  let isFragment : Bool := swap16 fragOffFlagsBe &&& 0x3fff ≠ 0
  withCounters [] (if isFragment then [.nat64V4ToV6UdpErrParse] else [])
  let some proto ← loadU8 (l3Offset + 9) | return .error .pipe
  let some ipv4SrcBe ← loadU32 (l3Offset + 12) | return .error .pipe
  let some ipv4DstBe ← loadU32 (l3Offset + 16) | return .error .pipe
  let ipv4Src := swap32 ipv4SrcBe
  let ipv4Dst := swap32 ipv4DstBe
  let cfg := (← configGet).getD DEFAULT_CFG
  if !v4InPool ipv4Dst cfg then
    withCounters [] [.dbgRevReturnErr]
    return .ok .pipe
  withCounters [] [.dbgRevPoolMatch]
  if isFragment then
    withCounters [.unsupportedIpv4Fragments] [.dbgRevReturnErr]
    return .ok .pipe
  if proto ≠ IPPROTO_TCP ∧ proto ≠ IPPROTO_UDP then
    withCounters [.unsupportedIpv4NonTcpUdp] [.dbgRevReturnErr]
    return .ok .pipe
  if proto = IPPROTO_TCP then
    reverseTcp cfg ihlBytes totalLen ipv4Src ipv4Dst
  else
    reverseUdp cfg ihlBytes totalLen ipv4Src ipv4Dst

/-- Translates matching IPv4 return traffic to IPv6 and redirects it to the bridge. -/
def nat64Reverse : Ebpf TcAction := do
  match ← tryNat64Reverse with
  | .ok ret => return ret
  | .error ret => return ret

end Natto64
