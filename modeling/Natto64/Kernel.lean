import Natto64.CallTree
import Natto64.Diagnostics
import Natto64.InternetChecksum

/-!
# The helper interface

The calls an eBPF program makes, and how the kernel answers them during one
invocation. A `Kernel` fixes every answer that does not follow from the packet
and the maps, so that any helper call may be made to fail.
-/
namespace Natto64
open Octets

def ETH_P_IP : UInt16 := 0x0800
def ETH_P_IPV6 : UInt16 := 0x86DD
/-- `ETH_P_IP.to_be()` and `ETH_P_IPV6.to_be()`, the numeric values the helper expects. -/
def ETH_P_IP_HELPER : UInt16 := swap16 ETH_P_IP
def ETH_P_IPV6_HELPER : UInt16 := swap16 ETH_P_IPV6

/-- The actions the classifiers return. -/
inductive TcAction where
  | pipe
  | shot
  | redirect
  deriving DecidableEq

/-- Forward-flow state. `timer` is the time its `bpf_timer` will expire, if armed. -/
structure TimedFwdNatVal where
  extV4 : UInt32
  extPort : UInt16
  lastSeenNs : UInt64
  generation : UInt32
  observedLastSeenNs : UInt64
  timer : Option Nat
  deriving DecidableEq

/-- The maps shared by all CPUs. -/
structure Maps where
  config : Option Nat64Config
  fwdNat : FwdNatKey → Option TimedFwdNatVal
  nat : NatKey → Option NatVal

/-- The allocator slots of one CPU. -/
structure CpuMaps where
  portCursor : Option UInt32
  portCooldown : Option PortCooldownRing

/-- The helpers that report success or failure. -/
inductive Helper where
  | skbLoadBytes | skbStoreBytes | skbChangeProto | csumDiff | l4CsumReplace | redirectNeigh
  | fwdNatInsert | fwdNatRemove | natInsert | natRemove
  | timerInit | timerSetCallback | timerStart
  deriving DecidableEq

/-- What one invocation acts on; `log` lists its helper calls, newest first. -/
structure Machine where
  skb : List UInt8
  maps : Maps
  cpu : CpuMaps
  log : List (Helper × Bool)

/-- The calls of the program. A write through a map value pointer is a call as well. -/
inductive Op where
  | skbLoadBytes (offset size : Nat)
  | skbStoreBytes (offset : Nat) (bytes : List UInt8)
  | skbChangeProto (proto : UInt16)
  | csumDiff (old new : List UInt8)
  | l4CsumReplace (offset : Nat) (old new flags : UInt64)
  | redirectNeigh (ifindex : UInt32)
  | ktimeGetNs
  | getPrandomU32
  | configGet
  | fwdNatLookup (key : FwdNatKey)
  | fwdNatSetLastSeen (key : FwdNatKey) (ns : UInt64)
  | fwdNatSetObserved (key : FwdNatKey) (ns : UInt64)
  | fwdNatInsert (key : FwdNatKey) (value : TimedFwdNatVal)
  | fwdNatRemove (key : FwdNatKey)
  | timerInit (key : FwdNatKey)
  | timerSetCallback (key : FwdNatKey)
  | timerStart (key : FwdNatKey) (delayNs : UInt64)
  | natLookup (key : NatKey)
  | natSetLastSeen (key : NatKey) (ns : UInt64)
  | natInsert (key : NatKey) (value : NatVal)
  | natRemove (key : NatKey)
  | portCursor
  | setPortCursor (cursor : UInt32)
  | portCooldown
  | setPortCooldown (ring : PortCooldownRing)
  | diag (update : Diag → Diag)

def Op.Resp : Op → Type
  | .skbLoadBytes _ _ => Option (List UInt8)
  | .skbStoreBytes _ _ | .skbChangeProto _ | .l4CsumReplace _ _ _ _ => Bool
  | .csumDiff _ _ => Option UInt64
  | .redirectNeigh _ => TcAction
  | .ktimeGetNs => UInt64
  | .getPrandomU32 => UInt32
  | .configGet => Option Nat64Config
  | .fwdNatLookup _ => Option TimedFwdNatVal
  | .fwdNatInsert _ _ | .fwdNatRemove _ | .natInsert _ _ | .natRemove _ => Bool
  | .timerInit _ | .timerSetCallback _ | .timerStart _ _ => Bool
  | .natLookup _ => Option NatVal
  | .portCursor => Option UInt32
  | .portCooldown => Option PortCooldownRing
  | .fwdNatSetLastSeen _ _ | .fwdNatSetObserved _ _ | .natSetLastSeen _ _ => Unit
  | .setPortCursor _ | .setPortCooldown _ | .diag _ => Unit

abbrev Ebpf := CallTree Op Op.Resp

/-- The kernel during one invocation. `skbFault n` makes the load or store that is the
`n`-th helper call fail in bounds; `csumDiff` and `l4Csum` are the checksum helpers,
`none` being their error return; `room` is what `change_proto` inserts. -/
structure Kernel where
  now : UInt64
  prandom : UInt32
  skbFault : Nat → Bool
  csumDiff : List UInt8 → List UInt8 → Option UInt64
  l4Csum : (field : UInt16) → (old new flags : UInt64) → Option UInt16
  room : List.Vector UInt8 20
  changeProtoOk : Bool
  redirectOk : Bool
  fwdNatInsertOk : Bool
  fwdNatRemoveOk : Bool
  natInsertOk : Bool
  natRemoveOk : Bool
  timerInitOk : Bool
  timerSetCallbackOk : Bool
  timerStartOk : Bool

/-- Every helper succeeds in bounds, and the checksum helpers compute what they document. -/
def Kernel.ideal (now : UInt64) (prandom : UInt32) : Kernel where
  now := now
  prandom := prandom
  skbFault := fun _ => false
  csumDiff := fun old new => some (InternetChecksum.csumDiff old new)
  l4Csum := InternetChecksum.l4CsumReplace
  room := List.Vector.replicate 20 0
  changeProtoOk := true
  redirectOk := true
  fwdNatInsertOk := true
  fwdNatRemoveOk := true
  natInsertOk := true
  natRemoveOk := true
  timerInitOk := true
  timerSetCallbackOk := true
  timerStartOk := true

def Machine.logged (m : Machine) (helper : Helper) (ok : Bool) : Machine :=
  { m with log := (helper, ok) :: m.log }

def Machine.setSkb (m : Machine) (skb : List UInt8) : Machine := { m with skb := skb }

def Maps.setFwdNat (s : Maps) (key : FwdNatKey) (v : Option TimedFwdNatVal) : Maps :=
  { s with fwdNat := Function.update s.fwdNat key v }

def Maps.setNat (s : Maps) (key : NatKey) (v : Option NatVal) : Maps :=
  { s with nat := Function.update s.nat key v }

def Machine.setFwdNat (m : Machine) (key : FwdNatKey) (v : Option TimedFwdNatVal) : Machine :=
  { m with maps := m.maps.setFwdNat key v }

def Machine.setNat (m : Machine) (key : NatKey) (v : Option NatVal) : Machine :=
  { m with maps := m.maps.setNat key v }

namespace Maps
variable (s : Maps) (key : FwdNatKey) (v w : Option TimedFwdNatVal) (natKey : NatKey)
  (b : Option NatVal)

@[simp] theorem setFwdNat_config : (s.setFwdNat key v).config = s.config := rfl
@[simp] theorem setFwdNat_nat : (s.setFwdNat key v).nat = s.nat := rfl
@[simp] theorem setNat_config : (s.setNat natKey b).config = s.config := rfl
@[simp] theorem setNat_fwdNat : (s.setNat natKey b).fwdNat = s.fwdNat := rfl

@[simp] theorem setFwdNat_self : (s.setFwdNat key v).fwdNat key = v := Function.update_self ..
@[simp] theorem setNat_self : (s.setNat natKey b).nat natKey = b := Function.update_self ..

theorem setFwdNat_of_ne {key' : FwdNatKey} (h : key' ≠ key) :
    (s.setFwdNat key v).fwdNat key' = s.fwdNat key' := Function.update_of_ne h ..

theorem setNat_of_ne {natKey' : NatKey} (h : natKey' ≠ natKey) :
    (s.setNat natKey b).nat natKey' = s.nat natKey' := Function.update_of_ne h ..

@[simp] theorem setFwdNat_setFwdNat :
    (s.setFwdNat key v).setFwdNat key w = s.setFwdNat key w := by
  simp only [setFwdNat, Function.update_idem]

theorem setFwdNat_eq_self {s : Maps} {key : FwdNatKey} {v : Option TimedFwdNatVal}
    (h : s.fwdNat key = v) : s.setFwdNat key v = s := by
  simp only [setFwdNat, ← h, Function.update_eq_self]

end Maps

@[simp] theorem Machine.setFwdNat_maps (m : Machine) (key : FwdNatKey)
    (v : Option TimedFwdNatVal) : (m.setFwdNat key v).maps = m.maps.setFwdNat key v := rfl

/-- Removes 20 octets after the Ethernet header, or inserts 20 there. -/
def changeProtoSkb (room : List.Vector UInt8 20) (proto : UInt16) (skb : List UInt8) :
    Option (List UInt8) :=
  if proto = ETH_P_IP_HELPER then
    if 34 ≤ skb.length then some (skb.take 14 ++ skb.drop 34) else none
  else if proto = ETH_P_IPV6_HELPER then
    if 14 ≤ skb.length then some (skb.take 14 ++ room.toList ++ skb.drop 14) else none
  else none

/-- One helper call: its answer and its effect. A write through the pointer that a lookup gave goes
to the entry that the key has now: where another CPU has put a new entry under the key in between,
the program would write to the element it looked up. -/
def Kernel.answer (k : Kernel) : (op : Op) → Machine → op.Resp × Machine
  | .skbLoadBytes off n, m =>
      if k.skbFault m.log.length = false ∧ off + n ≤ m.skb.length then
        (some (slice m.skb off n), m.logged .skbLoadBytes true)
      else (none, m.logged .skbLoadBytes false)
  | .skbStoreBytes off bytes, m =>
      if k.skbFault m.log.length = false ∧ off + bytes.length ≤ m.skb.length then
        (true, (m.logged .skbStoreBytes true).setSkb (overwrite m.skb off bytes))
      else (false, m.logged .skbStoreBytes false)
  | .skbChangeProto proto, m =>
      match k.changeProtoOk, changeProtoSkb k.room proto m.skb with
      | true, some skb => (true, (m.logged .skbChangeProto true).setSkb skb)
      | _, _ => (false, m.logged .skbChangeProto false)
  | .csumDiff old new, m =>
      (k.csumDiff old new, m.logged .csumDiff (k.csumDiff old new).isSome)
  | .l4CsumReplace off old new flags, m =>
      match k.l4Csum (ofNeBytes16 (slice m.skb off 2)) old new flags with
      | some field =>
          if off + 2 ≤ m.skb.length then
            (true, (m.logged .l4CsumReplace true).setSkb (overwrite m.skb off (neBytes16 field)))
          else (false, m.logged .l4CsumReplace false)
      | none => (false, m.logged .l4CsumReplace false)
  | .redirectNeigh _, m =>
      (if k.redirectOk then .redirect else .shot, m.logged .redirectNeigh k.redirectOk)
  | .ktimeGetNs, m => (k.now, m)
  | .getPrandomU32, m => (k.prandom, m)
  | .configGet, m => (m.maps.config, m)
  | .fwdNatLookup key, m => (m.maps.fwdNat key, m)
  | .fwdNatSetLastSeen key ns, m =>
      ((), m.setFwdNat key ((m.maps.fwdNat key).map fun v => { v with lastSeenNs := ns }))
  | .fwdNatSetObserved key ns, m =>
      ((), m.setFwdNat key ((m.maps.fwdNat key).map fun v => { v with observedLastSeenNs := ns }))
  | .fwdNatInsert key value, m =>
      if k.fwdNatInsertOk then
        (true, (m.logged .fwdNatInsert true).setFwdNat key (some value))
      else (false, m.logged .fwdNatInsert false)
  | .fwdNatRemove key, m =>
      if k.fwdNatRemoveOk then (true, (m.logged .fwdNatRemove true).setFwdNat key none)
      else (false, m.logged .fwdNatRemove false)
  -- whether the timer is initialised already (`-EBUSY`) is left to the kernel's answer
  | .timerInit _, m => (k.timerInitOk, m.logged .timerInit k.timerInitOk)
  | .timerSetCallback _, m =>
      (k.timerSetCallbackOk, m.logged .timerSetCallback k.timerSetCallbackOk)
  | .timerStart key delayNs, m =>
      if k.timerStartOk then
        (true, (m.logged .timerStart true).setFwdNat key ((m.maps.fwdNat key).map fun v =>
          { v with timer := some (k.now.toNat + delayNs.toNat) }))
      else (false, m.logged .timerStart false)
  | .natLookup key, m => (m.maps.nat key, m)
  | .natSetLastSeen key ns, m =>
      ((), m.setNat key ((m.maps.nat key).map fun v => { v with lastSeenNs := ns }))
  | .natInsert key value, m =>
      if k.natInsertOk then (true, (m.logged .natInsert true).setNat key (some value))
      else (false, m.logged .natInsert false)
  | .natRemove key, m =>
      if k.natRemoveOk then (true, (m.logged .natRemove true).setNat key none)
      else (false, m.logged .natRemove false)
  | .portCursor, m => (m.cpu.portCursor, m)
  | .setPortCursor cursor, m => ((), { m with cpu := { m.cpu with portCursor := some cursor } })
  | .portCooldown, m => (m.cpu.portCooldown, m)
  | .setPortCooldown ring, m =>
      ((), { m with cpu := { m.cpu with portCooldown := some ring } })
  | .diag _, m => ((), m)

/-- The effect of an invocation on the packet, the maps and the allocator. -/
def Kernel.exec {α : Type} (k : Kernel) (p : Ebpf α) (m : Machine) : α × Machine :=
  CallTree.exec k.answer p m

@[simp] theorem exec_pure {α : Type} (k : Kernel) (a : α) (m : Machine) :
    k.exec (pure a) m = (a, m) := rfl

@[simp] theorem exec_bind {α β : Type} (k : Kernel) (p : Ebpf α) (f : α → Ebpf β)
    (m : Machine) : k.exec (p >>= f) m = k.exec (f (k.exec p m).1) (k.exec p m).2 :=
  CallTree.exec_bind k.answer p f m

@[simp] theorem exec_map {α β : Type} (k : Kernel) (p : Ebpf α) (f : α → β) (m : Machine) :
    k.exec (f <$> p) m = (f (k.exec p m).1, (k.exec p m).2) :=
  CallTree.exec_map k.answer p f m

/-- The diagnostics of the same run: the updates of the `diag` calls it passes. -/
def Kernel.diagnose {α : Type} (k : Kernel) : Ebpf α → Machine → Diag → Diag
  | .done _, _, d => d
  | .call op next, m, d =>
      k.diagnose (next (k.answer op m).1) (k.answer op m).2
        (match op with
          | .diag update => update d
          | _ => d)

end Natto64
