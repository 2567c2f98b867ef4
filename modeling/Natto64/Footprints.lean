import Natto64.Headers

/-!
# Footprints

The calls the transport helpers may make, over any set of calls that contains them.
-/
namespace Natto64
open CallTree

/-- The call works on the packet and the checksum helpers alone. -/
def Op.OnPacket : Op → Prop
  | .skbLoadBytes _ _ | .skbStoreBytes _ _ | .skbChangeProto _ | .csumDiff _ _
  | .l4CsumReplace _ _ _ _ => True
  | _ => False

section Uses
variable {A : Op → Prop}

theorem uses_withCounters {prod : List ProdCounter} {debug : List DebugCounter}
    (count : A (.diag (Diag.withCounters prod debug))) : (withCounters prod debug).Uses A :=
  ⟨count, fun _ => trivial⟩

section Loads
variable (load : ∀ off n, A (.skbLoadBytes off n))
include load

theorem uses_loadBytes (off n : Nat) : (loadBytes off n).Uses A := ⟨load off n, fun _ => trivial⟩

theorem uses_loadU8 (off : Nat) : (loadU8 off).Uses A := (uses_loadBytes load off 1).map _
theorem uses_loadU16 (off : Nat) : (loadU16 off).Uses A := (uses_loadBytes load off 2).map _
theorem uses_loadU32 (off : Nat) : (loadU32 off).Uses A := (uses_loadBytes load off 4).map _

theorem uses_tcpPorts (off : Nat) : (tcpPorts off).Uses A := by
  refine (uses_loadU16 load _).bindOption trivial fun sport => ?_
  exact (uses_loadU16 load _).bindOption trivial fun dport => trivial

theorem uses_udpPortsLenCounting {errParse : DebugCounter}
    (count : A (.diag (Diag.withCounters [] [errParse]))) (off : Nat) :
    (udpPortsLenCounting errParse off).Uses A := by
  have failed : ((do withCounters [] [errParse]; return none) :
      Ebpf (Option (UInt16 × UInt16 × UInt16))).Uses A :=
    (uses_withCounters count).bind fun _ => trivial
  refine (uses_loadU16 load _).bindOption failed fun sport => ?_
  refine (uses_loadU16 load _).bindOption failed fun dport => ?_
  exact (uses_loadU16 load _).bindOption failed fun udpLen => trivial

theorem uses_parseIpv6Base (off : Nat) : (parseIpv6Base off).Uses A := by
  have word : ∀ offset, (loadBeU32 offset).Uses A := fun offset => (uses_loadU32 load offset).map _
  refine (uses_loadU16 load _).bindOption trivial fun payloadLenBe => ?_
  refine (uses_loadU8 load _).bindOption trivial fun nextHeader => ?_
  iterate 8 refine (word _).bindOption trivial fun _ => ?_
  trivial

end Loads

section Packet
variable (packet : ∀ op : Op, op.OnPacket → A op)
include packet

theorem uses_store (off : Nat) (bytes : List UInt8) : (store off bytes).Uses A :=
  ⟨packet _ trivial, fun _ => trivial⟩

theorem uses_writeIpv4Header (payloadLen : UInt16) (srcV4 dstV4 : UInt32) (proto : UInt8) :
    (writeIpv4Header payloadLen srcV4 dstV4 proto).Uses A := by
  unfold writeIpv4Header
  split
  · exact uses_store packet _ _
  · trivial

theorem uses_csumDiff (old new : List UInt8) : (csumDiff old new).Uses A := by
  unfold csumDiff
  split
  · trivial
  · exact ⟨packet _ trivial, fun _ => trivial⟩

theorem uses_l4CsumReplace (off : Nat) (old new flags : UInt64) :
    (l4CsumReplace off old new flags).Uses A :=
  ⟨packet _ trivial, fun _ => trivial⟩

theorem uses_l4CsumReplacePort (off : Nat) (rewrite : Option (UInt16 × UInt16)) :
    (l4CsumReplacePort off rewrite).Uses A := by
  cases rewrite with
  | none => trivial
  | some ports => exact uses_l4CsumReplace packet _ _ _ _

theorem uses_applyL4Nat64ChecksumDeltaV6ToV4
    (pseudo : A (.diag (Diag.withCounters [] [.dbgFwdL4CsumPseudoErr])))
    (port : A (.diag (Diag.withCounters [] [.dbgFwdL4CsumPortErr])))
    (csumOffset : Nat) (l4Len : UInt16) (proto : UInt8) (oldSrcV6 oldDstV6 : Ipv6Octets)
    (newSrcV4 newDstV4 : UInt32) (portRewrite : Option (UInt16 × UInt16)) (udpIpv4 : Bool) :
    (applyL4Nat64ChecksumDeltaV6ToV4 csumOffset l4Len proto oldSrcV6 oldDstV6 newSrcV4 newDstV4
      portRewrite udpIpv4).Uses A := by
  have none : (pure none : Ebpf (Option FwdL4CsumTrace)).Uses A := trivial
  have load : ∀ off n, A (.skbLoadBytes off n) := fun _ _ => packet _ trivial
  refine (uses_loadU16 load _).bindOption none fun oldCheckBe => ?_
  refine (uses_csumDiff packet _ _).bindOption none fun pseudoDelta => ?_
  refine (uses_l4CsumReplace packet _ _ _ _).bindBool ?_
    ((uses_withCounters pseudo).bind fun _ => none)
  refine (uses_loadU16 load _).bindOption none fun afterPseudoBe => ?_
  refine (uses_l4CsumReplacePort packet _ _).bindBool ?_
    ((uses_withCounters port).bind fun _ => none)
  refine (uses_loadU16 load _).bindOption none fun afterPortBe => ?_
  cases udpIpv4 with
  | false => trivial
  | true => exact (uses_l4CsumReplace packet _ _ _ _).bindBool trivial none

theorem uses_applyL4Nat64ChecksumDeltaV4ToV6 (csumOffset : Nat) (l4Len : UInt16) (proto : UInt8)
    (oldSrcV4 oldDstV4 : UInt32) (newSrcV6 newDstV6 : Ipv6Octets)
    (portRewrite : Option (UInt16 × UInt16)) (udpV6 : Bool) :
    (applyL4Nat64ChecksumDeltaV4ToV6 csumOffset l4Len proto oldSrcV4 oldDstV4 newSrcV6 newDstV6
      portRewrite udpV6).Uses A := by
  refine (uses_csumDiff packet _ _).bindOption trivial fun pseudoDelta => ?_
  refine (uses_l4CsumReplace packet _ _ _ _).bindBool ?_ trivial
  refine (uses_l4CsumReplacePort packet _ _).bindBool ?_ trivial
  cases udpV6 with
  | false => trivial
  | true => exact uses_l4CsumReplace packet _ _ _ _

end Packet

end Uses

end Natto64
