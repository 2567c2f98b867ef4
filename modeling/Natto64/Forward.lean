import Natto64.Headers
import Natto64.Session

/-!
# The forward classifier

`nat64_forward`: IPv6 packets to the NAT64 prefix leave as IPv4 through the uplink.
The two protocol branches of `try_nat64_forward` are named parts of it.
-/
namespace Natto64
open Octets

def fwdNatKey (vmV6 : Ipv6Octets) (remoteV4 : UInt32) (vmPort remotePort : UInt16)
    (proto : UInt8) : FwdNatKey :=
  { vmV6, remoteV4, vmPort, remotePort, proto }

def redirectToIface (ifindex : UInt32) (forward : Bool) : Ebpf TcAction := do
  if ifindex = 0 then
    diag (if forward then Diag.countFwdRedirectErr else Diag.countRevRedirectErr)
    return .shot
  let action ← bpfRedirectNeigh ifindex
  if action = .redirect then
    diag (if forward then Diag.countFwdRedirectOk else Diag.countRevRedirectOk)
    return action
  diag (if forward then Diag.countFwdRedirectErr else Diag.countRevRedirectErr)
  return action

/-- The TCP branch of `try_nat64_forward`. -/
def forwardTcp (cfg : Nat64Config) (ipv6Info : Ipv6Info) (remoteV4Bytes : List UInt8)
    (remoteV4 extV4 : UInt32) : Ebpf (Except TcAction TcAction) := do
  withCounters [.pktsNat64Tcp] [.dbgFwdTcpBranch]
  let payloadLen := ipv6Info.payloadLen
  if MAX_L4_LEN < payloadLen.toNat then
    withCounters [.nat64V6ToV4ErrCsum] [.dbgFwdTcpParseErr, .dbgFwdReturnErr]
    return .ok .pipe
  if !(← changeProto ETH_P_IP_HELPER) then
    withCounters [] [.protoChangeErr, .nat64V6ToV4ErrChangeProto, .dbgFwdAdjustRoomErr,
      .dbgFwdReturnErr]
    return .ok .pipe
  withCounters [] [.protoChangeOk]
  if !(← store 12 (beBytes16 ETH_P_IP)) then
    withCounters [] [.nat64V6ToV4ErrL2Store, .dbgFwdStoreBytesErr, .dbgFwdReturnErr]
    return .ok .pipe
  let tcpOffset := ETH_HDR_LEN + IPV4_HDR_LEN
  let some (tcpSport, tcpDport) ← tcpPorts tcpOffset
    | do
      withCounters [.nat64V6ToV4ErrCsum] [.dbgFwdTcpParseErr, .dbgFwdReturnErr]
      return .ok .pipe
  let fwdKey := fwdNatKey ipv6Info.src remoteV4 tcpSport tcpDport IPPROTO_TCP
  let nowNs ← bpfKtimeGetNs
  let some (extV4, extPort, generation) ← lookupOrCreateMapping cfg fwdKey extV4 IPPROTO_TCP nowNs
    | do
      withCounters [] [.dbgFwdRedirectOrReturnErr, .dbgFwdReturnErr]
      return .ok .pipe
  if !(← writeIpv4Header payloadLen extV4 remoteV4 IPPROTO_TCP) then
    withCounters [.nat64V6ToV4ErrWriteHdr] [.rewriteV4SrcErr, .dbgFwdWriteIpv4Err,
      .dbgFwdReturnErr]
    return .ok .pipe
  withCounters [] [.rewriteV4SrcOk]
  if !(← store tcpOffset (beBytes16 extPort)) then
    withCounters [.nat64V6ToV4ErrCsum] [.rewriteTcpSportErr, .dbgFwdStoreBytesErr,
      .dbgFwdReturnErr]
    return .ok .pipe
  withCounters [] [.rewriteTcpSportOk]
  let some csumTrace ← applyL4Nat64ChecksumDeltaV6ToV4 (tcpOffset + 16) payloadLen IPPROTO_TCP
      ipv6Info.src ipv6Info.dst extV4 remoteV4 (some (tcpSport, extPort)) false
    | do
      withCounters [.nat64V6ToV4ErrCsum] [.dbgFwdL4CsumErr, .dbgFwdReturnErr]
      return .ok .pipe
  let natVal := NatVal.newForwardWithGeneration ipv6Info.src tcpSport remoteV4 tcpDport generation
    nowNs
  if !(← natInsert (natKey extV4 extPort IPPROTO_TCP) natVal) then
    withCounters [] [.natInsertErr, .dbgFwdNatInsertErr, .dbgFwdReturnErr]
    return .ok .pipe
  withCounters [] [.natInsertOk]
  diag (Diag.recordFwdTcpSample ipv6Info.dst remoteV4Bytes remoteV4 extV4 tcpSport tcpDport
    true true)
  withCounters [.nat64V6ToV4Ok] [.fwdRewriteOkBeforeRedirect]
  let finalCheckBe := (← loadU16 (tcpOffset + 16)).getD csumTrace.afterPortBe
  diag (Diag.recordFwdTcpCsumSample csumTrace finalCheckBe (swap16 tcpSport) (swap16 extPort)
    extV4 remoteV4)
  return .ok (← redirectToIface cfg.uplinkIfindex true)

/-- The UDP branch of `try_nat64_forward`. -/
def forwardUdp (cfg : Nat64Config) (ipv6Info : Ipv6Info) (remoteV4 extV4 : UInt32) :
    Ebpf (Except TcAction TcAction) := do
  withCounters [.pktsNat64Udp] [.dbgFwdUdpBranch]
  let udpOffset := ipv6Info.l4AbsOffset
  let some (udpSport, udpDport, udpLen) ← udpPortsLen udpOffset | return .ok .pipe
  if udpLen.toNat < UDP_HDR_LEN then
    withCounters [] [.nat64V6ToV4UdpErrLen]
    withCounters [] [.dbgFwdReturnErr]
    return .ok .pipe
  if MAX_L4_LEN < udpLen.toNat then
    withCounters [] [.nat64V6ToV4UdpErrLen]
    withCounters [] [.dbgFwdReturnErr]
    return .ok .pipe
  let fwdKey := fwdNatKey ipv6Info.src remoteV4 udpSport udpDport IPPROTO_UDP
  let nowNs ← bpfKtimeGetNs
  let some (extV4, extPort, generation) ← lookupOrCreateMapping cfg fwdKey extV4 IPPROTO_UDP nowNs
    | do
      withCounters [] [.dbgFwdReturnErr]
      return .ok .pipe
  if !(← changeProto ETH_P_IP_HELPER) then
    withCounters [] [.protoChangeErr, .nat64V6ToV4UdpErrChangeProto]
    withCounters [] [.dbgFwdReturnErr]
    return .ok .pipe
  withCounters [] [.protoChangeOk]
  if !(← store 12 (beBytes16 ETH_P_IP)) then
    withCounters [] [.nat64V6ToV4UdpErrL2Store]
    withCounters [] [.dbgFwdReturnErr]
    return .ok .pipe
  if !(← writeIpv4Header udpLen extV4 remoteV4 IPPROTO_UDP) then
    withCounters [.nat64V6ToV4ErrWriteHdr] [.rewriteV4SrcErr]
    withCounters [] [.dbgFwdReturnErr]
    return .ok .pipe
  withCounters [] [.rewriteV4SrcOk]
  let udpV4Offset := ETH_HDR_LEN + IPV4_HDR_LEN
  if !(← store udpV4Offset (beBytes16 extPort)) then
    withCounters [] [.nat64V6ToV4UdpErrUdpStore]
    withCounters [] [.dbgFwdReturnErr]
    return .ok .pipe
  let some _ ← applyL4Nat64ChecksumDeltaV6ToV4 (udpV4Offset + 6) udpLen IPPROTO_UDP
      ipv6Info.src ipv6Info.dst extV4 remoteV4 (some (udpSport, extPort)) true
    | do
      withCounters [] [.nat64V6ToV4UdpErrCsum]
      withCounters [] [.dbgFwdReturnErr]
      return .ok .pipe
  let natVal : NatVal :=
    { vmV6 := ipv6Info.src, vmPort := udpSport, remoteV4, remotePort := udpDport, generation,
      lastSeenNs := nowNs }
  -- a failed insert is counted, the packet is redirected all the same
  if (← natInsert (natKey extV4 extPort IPPROTO_UDP) natVal) then
    withCounters [] [.natInsertOk, .natInsertUdpOk]
  else
    withCounters [] [.natInsertErr, .natInsertUdpErr]
  withCounters [.nat64V6ToV4UdpOk] [.fwdRewriteOkBeforeRedirect]
  return .ok (← redirectToIface cfg.uplinkIfindex true)

def tryNat64Forward : Ebpf (Except TcAction TcAction) := do
  withCounters [.pktsTotal] [.dbgFwdEnter]
  let some etherTypeBe ← loadU16 12 | return .error .pipe
  if swap16 etherTypeBe ≠ ETH_P_IPV6 then
    withCounters [] [.dbgFwdReturnErr]
    return .ok .pipe
  withCounters [.pktsIpv6] [.dbgFwdEthIpv6]
  let some ipv6Info ← parseIpv6Base ETH_HDR_LEN | return .ok .pipe
  withCounters [] [.pktsIpv6ParsedOk]
  let hasExtensionHeader := isExtensionHeader ipv6Info.nextHeader
  let notTcpUdp := ipv6Info.nextHeader ≠ IPPROTO_TCP ∧ ipv6Info.nextHeader ≠ IPPROTO_UDP
  withCounters []
    (if hasExtensionHeader then [.pktsIpv6ExtHdr]
      else if notTcpUdp then [.pktsIpv6NonTcpUdp]
      else if ipv6Info.nextHeader = IPPROTO_UDP then [.pktsUdp]
      else [])
  diag (Diag.recordFwdDstSample ipv6Info.dst)
  withCounters [] [classifyFwdDst ipv6Info.dst]
  let cfg := (← configGet).getD DEFAULT_CFG
  if ipv6Info.dst.toList.take 12 ≠ cfg.prefix96.toList then
    withCounters [] [.dbgFwdReturnErr]
    return .ok .pipe
  withCounters [.pktsNat64Dst] [.dbgFwdNat64PrefixMatch]
  if hasExtensionHeader then
    withCounters [.unsupportedIpv6ExtensionHeaders] [.dbgFwdReturnErr]
    return .ok .pipe
  if notTcpUdp then
    withCounters [.unsupportedIpv6NonTcpUdp] [.dbgFwdReturnErr]
    return .ok .pipe
  let remoteV4Bytes := nat64EmbeddedV4Bytes ipv6Info.dst
  let remoteV4 := nat64EmbeddedV4Be ipv6Info.dst
  let some extV4 := selectV4FromPoolEbpf ipv6Info.src cfg | return .ok .pipe
  if ipv6Info.nextHeader = IPPROTO_TCP then
    forwardTcp cfg ipv6Info remoteV4Bytes remoteV4 extV4
  else
    forwardUdp cfg ipv6Info remoteV4 extV4

/-- Translates matching IPv6 TCP and UDP traffic to IPv4 and redirects it to the uplink. -/
def nat64Forward : Ebpf TcAction := do
  match ← tryNat64Forward with
  | .ok ret => return ret
  | .error ret => return ret

end Natto64
