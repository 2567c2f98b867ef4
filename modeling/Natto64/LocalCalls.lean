import Natto64.Footprints
import Natto64.Forward
import Natto64.Rules

/-!
# Calls that touch no shared map

An invocation holds its packet, the slots of its CPU and its log; the maps are shared.
What it does between two calls on the maps does not depend on them.
-/
namespace Natto64
open Octets

/-- What a CPU holds during an invocation. The maps are shared. -/
structure Invocation where
  skb : List UInt8
  cpu : CpuMaps
  log : Calls

def Invocation.machine (v : Invocation) (s : Maps) : Machine :=
  { skb := v.skb, maps := s, cpu := v.cpu, log := v.log }

def Machine.invocation (m : Machine) : Invocation := { skb := m.skb, cpu := m.cpu, log := m.log }

@[simp] theorem Invocation.machine_skb (v : Invocation) (s : Maps) :
    (v.machine s).skb = v.skb := rfl
@[simp] theorem Invocation.machine_maps (v : Invocation) (s : Maps) : (v.machine s).maps = s := rfl
@[simp] theorem Invocation.machine_log (v : Invocation) (s : Maps) :
    (v.machine s).log = v.log := rfl
@[simp] theorem Invocation.machine_invocation (v : Invocation) (s : Maps) :
    (v.machine s).invocation = v := rfl

/-- The call neither reads nor writes a shared map. -/
def Op.Local : Op → Prop
  | .configGet | .fwdNatLookup _ | .fwdNatSetLastSeen _ _ | .fwdNatSetObserved _ _
  | .fwdNatInsert _ _ | .fwdNatRemove _ | .timerStart _ _ | .natLookup _ | .natSetLastSeen _ _
  | .natInsert _ _ | .natRemove _ => False
  | _ => True

/-- A local call answers the same whatever is in the maps. -/
theorem answer_local {op : Op} (h : op.Local) (k : Kernel) (v : Invocation) (s s' : Maps) :
    k.answer op (v.machine s') =
      ((k.answer op (v.machine s)).1, (k.answer op (v.machine s)).2.invocation.machine s') := by
  cases op with
  | skbLoadBytes off n =>
    by_cases hin : k.skbFault v.log.length = false ∧ off + n ≤ v.skb.length
    · simp [Kernel.answer, hin]
      rfl
    · simp [Kernel.answer, hin]
      rfl
  | skbStoreBytes off bytes =>
    by_cases hin : k.skbFault v.log.length = false ∧ off + bytes.length ≤ v.skb.length
    · simp [Kernel.answer, hin]
      rfl
    · simp [Kernel.answer, hin]
      rfl
  | skbChangeProto proto =>
    simp only [Kernel.answer, Invocation.machine_skb]
    split <;> rfl
  | l4CsumReplace off old new flags =>
    simp only [Kernel.answer, Invocation.machine_skb]
    cases k.l4Csum (ofNeBytes16 (slice v.skb off 2)) old new flags with
    | none => rfl
    | some field =>
      by_cases hin : off + 2 ≤ v.skb.length
      · simp [hin]
        rfl
      · simp [hin]
        rfl
  | csumDiff | redirectNeigh | ktimeGetNs | getPrandomU32 | timerInit | timerSetCallback
  | portCursor | setPortCursor | portCooldown | setPortCooldown | diag => rfl
  | _ => exact h.elim

section Local
variable {α β : Type}

/-- The program makes local calls only. -/
def LocalCalls (p : Ebpf α) : Prop := p.Uses Op.Local

theorem LocalCalls.bind {p : Ebpf α} {f : α → Ebpf β} (hp : LocalCalls p)
    (hf : ∀ a, LocalCalls (f a)) : LocalCalls (p >>= f) := CallTree.Uses.bind hp hf

theorem local_pure (a : α) : LocalCalls (pure a) := trivial

/-- A single call. -/
theorem local_perform {op : Op} (h : op.Local) : LocalCalls (CallTree.perform op : Ebpf op.Resp) :=
  ⟨h, fun _ => trivial⟩

theorem local_withCounters (prod : List ProdCounter) (debug : List DebugCounter) :
    LocalCalls (withCounters prod debug) := local_perform trivial

theorem local_diag (update : Diag → Diag) : LocalCalls (diag update) := local_perform trivial
theorem local_ktimeGetNs : LocalCalls bpfKtimeGetNs := local_perform trivial
theorem local_getPrandomU32 : LocalCalls bpfGetPrandomU32 := local_perform trivial
theorem local_timerInit (key : FwdNatKey) : LocalCalls (bpfTimerInit key) := local_perform trivial
theorem local_timerSetCallback (key : FwdNatKey) : LocalCalls (bpfTimerSetCallback key) :=
  local_perform trivial
theorem local_portCursor : LocalCalls portCursor := local_perform trivial
theorem local_setPortCursor (cursor : UInt32) : LocalCalls (setPortCursor cursor) :=
  local_perform trivial
theorem local_portCooldown : LocalCalls portCooldown := local_perform trivial
theorem local_changeProto (proto : UInt16) : LocalCalls (changeProto proto) := local_perform trivial
theorem local_bpfRedirectNeigh (ifindex : UInt32) : LocalCalls (bpfRedirectNeigh ifindex) :=
  local_perform trivial
theorem local_store (off : Nat) (bytes : List UInt8) : LocalCalls (store off bytes) :=
  local_perform trivial

theorem local_loadU16 (off : Nat) : LocalCalls (loadU16 off) :=
  uses_loadU16 (fun _ _ => trivial) off

theorem local_onPacket (op : Op) (h : op.OnPacket) : op.Local := by
  cases op <;> trivial

theorem local_tcpPorts (off : Nat) : LocalCalls (tcpPorts off) :=
  uses_tcpPorts (fun _ _ => trivial) off

theorem local_udpPortsLen (off : Nat) : LocalCalls (udpPortsLen off) :=
  uses_udpPortsLenCounting (fun _ _ => trivial) trivial off

theorem local_parseIpv6Base (off : Nat) : LocalCalls (parseIpv6Base off) :=
  uses_parseIpv6Base (fun _ _ => trivial) off

theorem local_writeIpv4Header (payloadLen : UInt16) (srcV4 dstV4 : UInt32) (proto : UInt8) :
    LocalCalls (writeIpv4Header payloadLen srcV4 dstV4 proto) :=
  uses_writeIpv4Header local_onPacket payloadLen srcV4 dstV4 proto

theorem local_applyL4Nat64ChecksumDeltaV6ToV4 (csumOffset : Nat) (l4Len : UInt16) (proto : UInt8)
    (oldSrcV6 oldDstV6 : Ipv6Octets) (newSrcV4 newDstV4 : UInt32)
    (portRewrite : Option (UInt16 × UInt16)) (udpIpv4 : Bool) :
    LocalCalls (applyL4Nat64ChecksumDeltaV6ToV4 csumOffset l4Len proto oldSrcV6 oldDstV6 newSrcV4
      newDstV4 portRewrite udpIpv4) :=
  uses_applyL4Nat64ChecksumDeltaV6ToV4 local_onPacket trivial trivial csumOffset l4Len proto
    oldSrcV6 oldDstV6 newSrcV4 newDstV4 portRewrite udpIpv4

theorem local_redirectToIface (ifindex : UInt32) (forward : Bool) :
    LocalCalls (redirectToIface ifindex forward) := by
  have answer (action : TcAction) (update : Diag → Diag) :
      LocalCalls (do diag update; return action) := (local_diag update).bind fun _ => local_pure _
  unfold redirectToIface
  split
  · exact answer _ _
  refine (local_bpfRedirectNeigh ifindex).bind fun action => ?_
  split
  · exact answer _ _
  · exact answer _ _

end Local

/-- An invocation, and how far it is. -/
structure Staged (St : Type) extends Invocation where
  stage : St

section Staged
variable {St : Type} (next : St → (op : Op) → op.Resp → St) (k : Kernel) (l : Staged St) (s : Maps)

/-- A call is answered from the shared maps. No answer depends on the stage, which follows
the answers. -/
def stagedAnswer (op : Op) (l : Staged St) (s : Maps) : op.Resp × Staged St × Maps :=
  ((k.answer op (l.machine s)).1,
    { (k.answer op (l.machine s)).2.invocation with
      stage := next l.stage op (k.answer op (l.machine s)).1 },
    (k.answer op (l.machine s)).2.maps)

variable {next k} in
theorem stagedAnswer_local {op : Op} (h : op.Local) {v : Invocation} {stage : St}
    (hnext : ∀ r, next stage op r = stage) (s s' : Maps) :
    stagedAnswer next k op ⟨v, stage⟩ s' = ((k.answer op (v.machine s)).1,
      ⟨(k.answer op (v.machine s)).2.invocation, stage⟩, s') := by
  unfold stagedAnswer
  rw [answer_local h k v s s', hnext]
  rfl

theorem stagedAnswer_fwdNatInsert (key : FwdNatKey) (w : TimedFwdNatVal) :
    ∃ v, v.skb = l.skb ∧ stagedAnswer next k (.fwdNatInsert key w) l s = if k.fwdNatInsertOk then
      (true, ⟨v, next l.stage (.fwdNatInsert key w) true⟩, s.setFwdNat key (some w))
      else (false, ⟨v, next l.stage (.fwdNatInsert key w) false⟩, s) := by
  have hanswer : k.answer (.fwdNatInsert key w) (l.machine s) = if k.fwdNatInsertOk then
      (true, ((l.machine s).logged .fwdNatInsert true).setFwdNat key (some w))
      else (false, (l.machine s).logged .fwdNatInsert false) := rfl
  unfold stagedAnswer
  rw [hanswer]
  cases k.fwdNatInsertOk with
  | false => exact ⟨((l.machine s).logged .fwdNatInsert false).invocation, rfl, rfl⟩
  | true => exact ⟨((l.machine s).logged .fwdNatInsert true).invocation, rfl, rfl⟩

theorem stagedAnswer_fwdNatRemove (key : FwdNatKey) :
    ∃ v, v.skb = l.skb ∧ stagedAnswer next k (.fwdNatRemove key) l s = if k.fwdNatRemoveOk then
      (true, ⟨v, next l.stage (.fwdNatRemove key) true⟩, s.setFwdNat key none)
      else (false, ⟨v, next l.stage (.fwdNatRemove key) false⟩, s) := by
  have hanswer : k.answer (.fwdNatRemove key) (l.machine s) = if k.fwdNatRemoveOk then
      (true, ((l.machine s).logged .fwdNatRemove true).setFwdNat key none)
      else (false, (l.machine s).logged .fwdNatRemove false) := rfl
  unfold stagedAnswer
  rw [hanswer]
  cases k.fwdNatRemoveOk with
  | false => exact ⟨((l.machine s).logged .fwdNatRemove false).invocation, rfl, rfl⟩
  | true => exact ⟨((l.machine s).logged .fwdNatRemove true).invocation, rfl, rfl⟩

theorem stagedAnswer_timerStart (key : FwdNatKey) (delayNs : UInt64) :
    ∃ v, v.skb = l.skb ∧ stagedAnswer next k (.timerStart key delayNs) l s = if k.timerStartOk then
      (true, ⟨v, next l.stage (.timerStart key delayNs) true⟩,
        s.setFwdNat key ((s.fwdNat key).map fun w =>
          { w with timer := some (k.now.toNat + delayNs.toNat) }))
      else (false, ⟨v, next l.stage (.timerStart key delayNs) false⟩, s) := by
  have hanswer : k.answer (.timerStart key delayNs) (l.machine s) = if k.timerStartOk then
      (true, ((l.machine s).logged .timerStart true).setFwdNat key ((s.fwdNat key).map fun w =>
        { w with timer := some (k.now.toNat + delayNs.toNat) }))
      else (false, (l.machine s).logged .timerStart false) := rfl
  unfold stagedAnswer
  rw [hanswer]
  cases k.timerStartOk with
  | false => exact ⟨((l.machine s).logged .timerStart false).invocation, rfl, rfl⟩
  | true => exact ⟨((l.machine s).logged .timerStart true).invocation, rfl, rfl⟩

theorem stagedAnswer_natInsert (t : NatKey) (b : NatVal) :
    ∃ v, v.skb = l.skb ∧ stagedAnswer next k (.natInsert t b) l s = if k.natInsertOk then
      (true, ⟨v, next l.stage (.natInsert t b) true⟩, s.setNat t (some b))
      else (false, ⟨v, next l.stage (.natInsert t b) false⟩, s) := by
  have hanswer : k.answer (.natInsert t b) (l.machine s) = if k.natInsertOk then
      (true, ((l.machine s).logged .natInsert true).setNat t (some b))
      else (false, (l.machine s).logged .natInsert false) := rfl
  unfold stagedAnswer
  rw [hanswer]
  cases k.natInsertOk with
  | false => exact ⟨((l.machine s).logged .natInsert false).invocation, rfl, rfl⟩
  | true => exact ⟨((l.machine s).logged .natInsert true).invocation, rfl, rfl⟩

theorem stagedAnswer_natRemove (t : NatKey) :
    ∃ v, v.skb = l.skb ∧ stagedAnswer next k (.natRemove t) l s = if k.natRemoveOk then
      (true, ⟨v, next l.stage (.natRemove t) true⟩, s.setNat t none)
      else (false, ⟨v, next l.stage (.natRemove t) false⟩, s) := by
  have hanswer : k.answer (.natRemove t) (l.machine s) = if k.natRemoveOk then
      (true, ((l.machine s).logged .natRemove true).setNat t none)
      else (false, (l.machine s).logged .natRemove false) := rfl
  unfold stagedAnswer
  rw [hanswer]
  cases k.natRemoveOk with
  | false => exact ⟨((l.machine s).logged .natRemove false).invocation, rfl, rfl⟩
  | true => exact ⟨((l.machine s).logged .natRemove true).invocation, rfl, rfl⟩

end Staged

end Natto64
