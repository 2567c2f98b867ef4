import Natto64.Kernel

/-!
# Calls under their source names

One wrapper for each helper binding the program uses, and what each does when run.
-/
namespace Natto64
open Octets
open CallTree (perform)

def loadBytes (offset size : Nat) : Ebpf (Option (List UInt8)) :=
  perform (Op.skbLoadBytes offset size)

/-- `ctx.load::<u8>`, `ctx.load::<u16>` and `ctx.load::<u32>`, in native byte order. -/
def loadU8 (offset : Nat) : Ebpf (Option UInt8) :=
  Option.map (fun bs => UInt8.ofNat (leNat bs)) <$> loadBytes offset 1
def loadU16 (offset : Nat) : Ebpf (Option UInt16) := Option.map ofNeBytes16 <$> loadBytes offset 2
def loadU32 (offset : Nat) : Ebpf (Option UInt32) := Option.map ofNeBytes32 <$> loadBytes offset 4

def store (offset : Nat) (bytes : List UInt8) : Ebpf Bool := perform (Op.skbStoreBytes offset bytes)
def changeProto (proto : UInt16) : Ebpf Bool := perform (Op.skbChangeProto proto)
def l4CsumReplace (offset : Nat) (old new flags : UInt64) : Ebpf Bool :=
  perform (Op.l4CsumReplace offset old new flags)
def bpfCsumDiff (old new : List UInt8) : Ebpf (Option UInt64) := perform (Op.csumDiff old new)
def bpfRedirectNeigh (ifindex : UInt32) : Ebpf TcAction := perform (Op.redirectNeigh ifindex)
def bpfKtimeGetNs : Ebpf UInt64 := perform Op.ktimeGetNs
def bpfGetPrandomU32 : Ebpf UInt32 := perform Op.getPrandomU32

def configGet : Ebpf (Option Nat64Config) := perform Op.configGet
def fwdNatLookup (key : FwdNatKey) : Ebpf (Option TimedFwdNatVal) := perform (Op.fwdNatLookup key)
def fwdNatSetLastSeen (key : FwdNatKey) (ns : UInt64) : Ebpf Unit :=
  perform (Op.fwdNatSetLastSeen key ns)
def fwdNatSetObserved (key : FwdNatKey) (ns : UInt64) : Ebpf Unit :=
  perform (Op.fwdNatSetObserved key ns)
def fwdNatInsert (key : FwdNatKey) (value : TimedFwdNatVal) : Ebpf Bool :=
  perform (Op.fwdNatInsert key value)
def fwdNatRemove (key : FwdNatKey) : Ebpf Bool := perform (Op.fwdNatRemove key)
def bpfTimerInit (key : FwdNatKey) : Ebpf Bool := perform (Op.timerInit key)
def bpfTimerSetCallback (key : FwdNatKey) : Ebpf Bool := perform (Op.timerSetCallback key)
def bpfTimerStart (key : FwdNatKey) (delayNs : UInt64) : Ebpf Bool :=
  perform (Op.timerStart key delayNs)
def natLookup (key : NatKey) : Ebpf (Option NatVal) := perform (Op.natLookup key)
def natSetLastSeen (key : NatKey) (ns : UInt64) : Ebpf Unit := perform (Op.natSetLastSeen key ns)
def natInsert (key : NatKey) (value : NatVal) : Ebpf Bool := perform (Op.natInsert key value)
def natRemove (key : NatKey) : Ebpf Bool := perform (Op.natRemove key)
def portCursor : Ebpf (Option UInt32) := perform Op.portCursor
def setPortCursor (cursor : UInt32) : Ebpf Unit := perform (Op.setPortCursor cursor)
def portCooldown : Ebpf (Option PortCooldownRing) := perform Op.portCooldown
def setPortCooldown (ring : PortCooldownRing) : Ebpf Unit := perform (Op.setPortCooldown ring)

/-- A diagnostic update; it answers nothing. -/
def diag (update : Diag → Diag) : Ebpf Unit := perform (Op.diag update)

/-- `with_counters` on a closure that increments the listed fields. -/
def withCounters (prod : List ProdCounter) (debug : List DebugCounter) : Ebpf Unit :=
  diag (Diag.withCounters prod debug)

section Exec
variable (k : Kernel) (m : Machine)

@[simp] theorem exec_diag (f : Diag → Diag) : k.exec (diag f) m = ((), m) := rfl

@[simp] theorem exec_withCounters (prod : List ProdCounter) (debug : List DebugCounter) :
    k.exec (withCounters prod debug) m = ((), m) := rfl

@[simp] theorem exec_configGet : k.exec configGet m = (m.maps.config, m) := rfl
@[simp] theorem exec_ktimeGetNs : k.exec bpfKtimeGetNs m = (k.now, m) := rfl
@[simp] theorem exec_getPrandomU32 : k.exec bpfGetPrandomU32 m = (k.prandom, m) := rfl
@[simp] theorem exec_fwdNatLookup (key : FwdNatKey) :
    k.exec (fwdNatLookup key) m = (m.maps.fwdNat key, m) := rfl
@[simp] theorem exec_natLookup (key : NatKey) :
    k.exec (natLookup key) m = (m.maps.nat key, m) := rfl
@[simp] theorem exec_portCursor : k.exec portCursor m = (m.cpu.portCursor, m) := rfl
@[simp] theorem exec_portCooldown : k.exec portCooldown m = (m.cpu.portCooldown, m) := rfl

@[simp] theorem exec_fwdNatSetLastSeen (key : FwdNatKey) (ns : UInt64) :
    k.exec (fwdNatSetLastSeen key ns) m =
      ((), m.setFwdNat key ((m.maps.fwdNat key).map fun v => { v with lastSeenNs := ns })) := rfl

@[simp] theorem exec_fwdNatSetObserved (key : FwdNatKey) (ns : UInt64) :
    k.exec (fwdNatSetObserved key ns) m =
      ((), m.setFwdNat key
        ((m.maps.fwdNat key).map fun v => { v with observedLastSeenNs := ns })) := rfl

@[simp] theorem exec_natSetLastSeen (key : NatKey) (ns : UInt64) :
    k.exec (natSetLastSeen key ns) m =
      ((), m.setNat key ((m.maps.nat key).map fun v => { v with lastSeenNs := ns })) := rfl

theorem exec_fwdNatInsert (key : FwdNatKey) (value : TimedFwdNatVal) :
    k.exec (fwdNatInsert key value) m =
      if k.fwdNatInsertOk then (true, (m.logged .fwdNatInsert true).setFwdNat key (some value))
      else (false, m.logged .fwdNatInsert false) := rfl

theorem exec_fwdNatRemove (key : FwdNatKey) :
    k.exec (fwdNatRemove key) m =
      if k.fwdNatRemoveOk then (true, (m.logged .fwdNatRemove true).setFwdNat key none)
      else (false, m.logged .fwdNatRemove false) := rfl

theorem exec_natInsert (key : NatKey) (value : NatVal) :
    k.exec (natInsert key value) m =
      if k.natInsertOk then (true, (m.logged .natInsert true).setNat key (some value))
      else (false, m.logged .natInsert false) := rfl

theorem exec_natRemove (key : NatKey) :
    k.exec (natRemove key) m =
      if k.natRemoveOk then (true, (m.logged .natRemove true).setNat key none)
      else (false, m.logged .natRemove false) := rfl

theorem exec_timerInit (key : FwdNatKey) :
    k.exec (bpfTimerInit key) m = (k.timerInitOk, m.logged .timerInit k.timerInitOk) := rfl

theorem exec_timerSetCallback (key : FwdNatKey) :
    k.exec (bpfTimerSetCallback key) m =
      (k.timerSetCallbackOk, m.logged .timerSetCallback k.timerSetCallbackOk) := rfl

theorem exec_timerStart (key : FwdNatKey) (delayNs : UInt64) :
    k.exec (bpfTimerStart key delayNs) m =
      if k.timerStartOk then
        (true, (m.logged .timerStart true).setFwdNat key ((m.maps.fwdNat key).map fun v =>
          { v with timer := some (k.now.toNat + delayNs.toNat) }))
      else (false, m.logged .timerStart false) := rfl

theorem exec_redirectNeigh (ifindex : UInt32) :
    k.exec (bpfRedirectNeigh ifindex) m =
      (if k.redirectOk then .redirect else .shot, m.logged .redirectNeigh k.redirectOk) := rfl

/-- Whether the next load or store succeeds on the octets `off .. off + n`. -/
def Kernel.Reaches (k : Kernel) (m : Machine) (off n : Nat) : Prop :=
  k.skbFault m.log.length = false ∧ off + n ≤ m.skb.length

instance (off n : Nat) : Decidable (k.Reaches m off n) :=
  inferInstanceAs (Decidable (_ ∧ _))

theorem exec_loadBytes (off n : Nat) :
    k.exec (loadBytes off n) m =
      if k.Reaches m off n then (some (slice m.skb off n), m.logged .skbLoadBytes true)
      else (none, m.logged .skbLoadBytes false) := rfl

theorem exec_loadU8 (off : Nat) :
    k.exec (loadU8 off) m =
      if k.Reaches m off 1 then
        (some (UInt8.ofNat (leNat (slice m.skb off 1))), m.logged .skbLoadBytes true)
      else (none, m.logged .skbLoadBytes false) := by
  rw [loadU8, exec_map, exec_loadBytes]
  split <;> rfl

theorem exec_loadU16 (off : Nat) :
    k.exec (loadU16 off) m =
      if k.Reaches m off 2 then
        (some (ofNeBytes16 (slice m.skb off 2)), m.logged .skbLoadBytes true)
      else (none, m.logged .skbLoadBytes false) := by
  rw [loadU16, exec_map, exec_loadBytes]
  split <;> rfl

theorem exec_loadU32 (off : Nat) :
    k.exec (loadU32 off) m =
      if k.Reaches m off 4 then
        (some (ofNeBytes32 (slice m.skb off 4)), m.logged .skbLoadBytes true)
      else (none, m.logged .skbLoadBytes false) := by
  rw [loadU32, exec_map, exec_loadBytes]
  split <;> rfl

theorem exec_store (off : Nat) (bytes : List UInt8) :
    k.exec (store off bytes) m =
      if k.Reaches m off bytes.length then
        (true, (m.logged .skbStoreBytes true).setSkb (overwrite m.skb off bytes))
      else (false, m.logged .skbStoreBytes false) := rfl

end Exec

end Natto64
