import Mathlib.Logic.Function.Basic
import Natto64.Abi

/-!
# Counters and samples

The per-CPU diagnostics of the dataplane. A `PerCpuArray` slot is an `Option`:
`none` is the failed `get_ptr_mut(0)`. Nothing here is ever read back by a classifier.
-/
namespace Natto64

/-- The fields of `ProdCounters`. -/
inductive ProdCounter where
  | pktsTotal | pktsIpv6 | pktsIpv4 | pktsNat64Dst | pktsNat64Tcp | pktsNat64Udp | pktsIpv4Tcp
  | pktsIpv4Udp | nat64V6ToV4Ok | nat64V6ToV4UdpOk | nat64V6ToV4ErrWriteHdr
  | nat64V6ToV4ErrCsum | nat64V4ToV6Ok | nat64V4ToV6UdpOk | nat64V4ToV6ErrWriteHdr
  | nat64V4ToV6ErrCsum | nat64V4ToV6UdpMiss | nat64V4ToV6UdpTupleMismatch | natLookupHit
  | natLookupMiss | natLookupTupleMismatch | natHitRefreshOk | natHitRefreshErr
  | fwdNatLookupHit | fwdNatLookupMiss | fwdNatInsertOk | fwdNatInsertErr | fwdNatRefreshOk
  | fwdNatRefreshErr | portAllocOk | portAllocErr | portAllocExhausted
  | unsupportedIpv6ExtensionHeaders | unsupportedIpv6NonTcpUdp | unsupportedIpv4Fragments
  | unsupportedIpv4NonTcpUdp | unsupportedIpv4UdpZeroChecksum | fwdRedirectOk | fwdRedirectErr
  | revRedirectOk | revRedirectErr
  deriving DecidableEq

/-- The fields of `DebugCounters`. -/
inductive DebugCounter where
  | dbgFwdEnter | dbgFwdEthIpv6 | dbgFwdNat64PrefixMatch | dbgFwdTcpBranch | dbgFwdUdpBranch
  | dbgFwdReturnOk | dbgFwdReturnErr | dbgRevEnter | dbgRevEthIpv4 | dbgRevPoolMatch
  | dbgRevReturnOk | dbgRevReturnErr | pktsIpv6ParsedOk | pktsIpv6ExtHdr | pktsIpv6NonTcpUdp
  | pktsUdp | pktsIpv4ToV4src | natInsertOk | natInsertErr | natInsertUdpOk | natInsertUdpErr
  | portAllocProbe | portAllocCollide | cooldownSkip | cooldownProbeMore | cooldownPushOk
  | cooldownPushErr | dbgFwdDstNat64Prefix | dbgFwdDstGlobalNonNat64 | dbgFwdDstLinkLocal
  | dbgFwdDstMulticast | dbgFwdDstOther | dbgFwdTcpParseErr | dbgFwdEmbeddedV4ExtractErr
  | dbgFwdNatInsertErr | dbgFwdAdjustRoomErr | dbgFwdStoreBytesErr | dbgFwdWriteIpv4Err
  | dbgFwdL4CsumErr | dbgFwdL4CsumPseudoErr | dbgFwdL4CsumPortErr | dbgFwdTcpCsumSampleOk
  | dbgFwdTcpCsumSampleErr | dbgFwdRedirectOrReturnErr | protoChangeOk | protoChangeErr
  | nat64V6ToV4ErrChangeProto | nat64V6ToV4ErrL2Store | nat64V6ToV4UdpErrParse
  | nat64V6ToV4UdpErrLen | nat64V6ToV4UdpErrChangeProto | nat64V6ToV4UdpErrL2Store
  | nat64V6ToV4UdpErrUdpStore | nat64V6ToV4UdpErrCsum | rewriteV4SrcOk | rewriteV4SrcErr
  | rewriteTcpSportOk | rewriteTcpSportErr | nat64V4ToV6ErrChangeProto | nat64V4ToV6ErrL2Store
  | nat64V4ToV6UdpErrParse | nat64V4ToV6UdpErrLen | nat64V4ToV6UdpErrChangeProto
  | nat64V4ToV6UdpErrL2Store | nat64V4ToV6UdpErrDportStore | nat64V4ToV6UdpErrCsum
  | nat64V4ToV6UdpZeroCsumUnsupported | rewriteTcpDportOk | rewriteTcpDportErr
  | dbgFwdTcpCsumSampleAttempt | fwdRewriteOkBeforeRedirect | revRewriteOkBeforeRedirect
  deriving DecidableEq

abbrev ProdCounters := ProdCounter → UInt64
abbrev DebugCounters := DebugCounter → UInt64

/-- `saturating_add` on `u64`. -/
def satAdd (a b : UInt64) : UInt64 := if a + b < a then 18446744073709551615 else a + b

/-- The counters with each listed field incremented by one, saturating. -/
def bump {F : Type} [DecidableEq F] (fields : List F) (c : F → UInt64) : F → UInt64 :=
  fields.foldl (fun c f => Function.update c f (satAdd (c f) 1)) c

def DBG_FWD_DST_SAMPLE_SLOTS : UInt32 := 8
def DBG_FWD_TCP_SAMPLE_SLOTS : UInt32 := 8
def DBG_FWD_TCP_CSUM_SAMPLE_SLOTS : UInt32 := 8

structure DbgIpv6Sample where
  seq : UInt64
  dst : Ipv6Octets

structure DbgFwdTcpSample where
  seq : UInt64
  dst6 : Ipv6Octets
  dst4 : List UInt8
  dst4Be : UInt32
  src4Be : UInt32
  tcpSport : UInt16
  tcpDport : UInt16
  natInsertOk : Bool
  adjustRoomOk : Bool

structure DbgFwdTcpCsumSample where
  seq : UInt64
  oldCheckBe : UInt16
  afterPseudoBe : UInt16
  afterPortBe : UInt16
  finalCheckBe : UInt16
  oldSportBe : UInt16
  newSportBe : UInt16
  srcV4 : UInt32
  dstV4 : UInt32

/-- Checksum field values seen between the stages of the forward update. -/
structure FwdL4CsumTrace where
  oldCheckBe : UInt16
  afterPseudoBe : UInt16
  afterPortBe : UInt16

/-- The diagnostic maps of one CPU. -/
structure Diag where
  prod : Option ProdCounters
  debug : Option DebugCounters
  fwdDstSampleCursor : Option UInt32
  fwdDstSamples : List DbgIpv6Sample
  fwdTcpSampleCursor : Option UInt32
  fwdTcpSamples : List DbgFwdTcpSample
  fwdTcpCsumSampleCursor : Option UInt32
  fwdTcpCsumSamples : List DbgFwdTcpCsumSample

/-- Every counter, cursor and sample slot zero, as the maps are created. -/
def Diag.zeroed : Diag where
  prod := some fun _ => 0
  debug := some fun _ => 0
  fwdDstSampleCursor := some 0
  fwdDstSamples := List.replicate DBG_FWD_DST_SAMPLE_SLOTS.toNat ⟨0, List.Vector.replicate 16 0⟩
  fwdTcpSampleCursor := some 0
  fwdTcpSamples := List.replicate DBG_FWD_TCP_SAMPLE_SLOTS.toNat
    ⟨0, List.Vector.replicate 16 0, [0, 0, 0, 0], 0, 0, 0, 0, false, false⟩
  fwdTcpCsumSampleCursor := some 0
  fwdTcpCsumSamples := List.replicate DBG_FWD_TCP_CSUM_SAMPLE_SLOTS.toNat
    ⟨0, 0, 0, 0, 0, 0, 0, 0, 0⟩

namespace Diag

def withProdCounters (fields : List ProdCounter) (d : Diag) : Diag :=
  { d with prod := d.prod.map (bump fields) }

def withDebugCounters (fields : List DebugCounter) (d : Diag) : Diag :=
  { d with debug := d.debug.map (bump fields) }

/-- `with_counters`: nothing is counted unless both maps are available. -/
def withCounters (prod : List ProdCounter) (debug : List DebugCounter) (d : Diag) : Diag :=
  if d.prod.isSome && d.debug.isSome then (d.withProdCounters prod).withDebugCounters debug else d

def countFwdRedirectOk (d : Diag) : Diag :=
  (d.withProdCounters [.fwdRedirectOk]).withDebugCounters [.dbgFwdReturnOk]

def countFwdRedirectErr (d : Diag) : Diag :=
  (d.withProdCounters [.fwdRedirectErr]).withDebugCounters [.dbgFwdReturnErr]

def countRevRedirectOk (d : Diag) : Diag :=
  (d.withProdCounters [.revRedirectOk]).withDebugCounters [.dbgRevReturnOk]

def countRevRedirectErr (d : Diag) : Diag :=
  (d.withProdCounters [.revRedirectErr]).withDebugCounters [.dbgRevReturnErr]

def recordFwdDstSample (dst : Ipv6Octets) (d : Diag) : Diag :=
  match d.fwdDstSampleCursor with
  | none => d
  | some cursor =>
      let idx := cursor % DBG_FWD_DST_SAMPLE_SLOTS
      { d with
        fwdDstSamples := d.fwdDstSamples.set idx.toNat ⟨satAdd cursor.toUInt64 1, dst⟩
        fwdDstSampleCursor := some (cursor + 1) }

def recordFwdTcpSample (dst6 : Ipv6Octets) (dst4 : List UInt8) (dst4Be src4Be : UInt32)
    (tcpSport tcpDport : UInt16) (natInsertOk adjustRoomOk : Bool) (d : Diag) : Diag :=
  match d.fwdTcpSampleCursor with
  | none => d
  | some current =>
      let seq := current + 1
      let idx := seq % DBG_FWD_TCP_SAMPLE_SLOTS
      { d with
        fwdTcpSampleCursor := some seq
        fwdTcpSamples := d.fwdTcpSamples.set idx.toNat
          { seq := seq.toUInt64, dst6, dst4, dst4Be, src4Be, tcpSport, tcpDport, natInsertOk,
            adjustRoomOk } }

def recordFwdTcpCsumSample (trace : FwdL4CsumTrace) (finalCheckBe oldSportBe newSportBe : UInt16)
    (srcV4 dstV4 : UInt32) (d : Diag) : Diag :=
  let d := d.withCounters [] [.dbgFwdTcpCsumSampleAttempt]
  match d.fwdTcpCsumSampleCursor with
  | none => d.withCounters [] [.dbgFwdTcpCsumSampleErr]
  | some current =>
      let seq := current + 1
      let idx := seq % DBG_FWD_TCP_CSUM_SAMPLE_SLOTS
      let d := { d with fwdTcpCsumSampleCursor := some seq }
      if idx.toNat < d.fwdTcpCsumSamples.length then
        let d := { d with
          fwdTcpCsumSamples := d.fwdTcpCsumSamples.set idx.toNat
            { seq := seq.toUInt64, oldCheckBe := trace.oldCheckBe,
              afterPseudoBe := trace.afterPseudoBe, afterPortBe := trace.afterPortBe,
              finalCheckBe, oldSportBe, newSportBe, srcV4, dstV4 } }
        d.withCounters [] [.dbgFwdTcpCsumSampleOk]
      else d.withCounters [] [.dbgFwdTcpCsumSampleErr]

end Diag

def NAT64_WKPF_PREFIX : List.Vector UInt8 12 :=
  ⟨[0x00, 0x64, 0xff, 0x9b, 0, 0, 0, 0, 0, 0, 0, 0], rfl⟩

/-- The class of a forward destination, as the counter that counts it. -/
def classifyFwdDst (dst : Ipv6Octets) : DebugCounter :=
  if dst.toList.take 12 = NAT64_WKPF_PREFIX.toList then .dbgFwdDstNat64Prefix
  else if dst.get 0 = 0xff then .dbgFwdDstMulticast
  else if dst.get 0 = 0xfe ∧ dst.get 1 &&& 0xc0 = 0x80 then .dbgFwdDstLinkLocal
  else if dst.get 0 &&& 0xe0 = 0x20 then .dbgFwdDstGlobalNonNat64
  else .dbgFwdDstOther

end Natto64
