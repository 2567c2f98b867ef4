import Natto64.AbiLayout
import Natto64.Dataplane

/-!
# The dataplane over octets

The kernel's hash maps know neither records nor fields: they find a key by its octets and
keep a value as octets. The dataplane over such maps, whatever stands in the octets that no
field determines, does what the dataplane over records does.
-/
namespace Natto64
open EventRun Octets StructLayout

/-- The hash maps as the kernel keeps them. -/
structure OctetMaps where
  config : Option (List UInt8)
  fwdNat : List UInt8 → Option FwdNatOctets
  nat : List UInt8 → Option (List UInt8)

structure OctetMachine where
  skb : List UInt8
  maps : OctetMaps
  cpu : CpuMaps
  log : List (Helper × Bool)

/-- What no field determines: the gap in a value put into `NAT`, and what the kernel writes
into a timer, at the helper call of each number. -/
structure FreeOctets where
  natVal : Nat → NatVal → List UInt8
  timer : Nat → List.Vector UInt8 16
  represents : ∀ n v, NatVal.layout.Represents (natVal n v) v

/-- Gap and timers hold zeros. -/
def FreeOctets.zeroed : FreeOctets where
  natVal _ v := NatVal.layout.encode v
  timer _ := List.Vector.replicate 16 0
  represents _ v := Layout.represents_encode NatVal.layout v

namespace OctetMaps

def setFwdNat (o : OctetMaps) (key : FwdNatKey) (e : Option FwdNatOctets) : OctetMaps :=
  { o with fwdNat := Function.update o.fwdNat (FwdNatKey.layout.encode key) e }

def setNat (o : OctetMaps) (key : NatKey) (bs : Option (List UInt8)) : OctetMaps :=
  { o with nat := Function.update o.nat (NatKey.layout.encode key) bs }

def fwdNatAt (o : OctetMaps) (key : FwdNatKey) : Option FwdNatOctets :=
  o.fwdNat (FwdNatKey.layout.encode key)

def natAt (o : OctetMaps) (key : NatKey) : Option (List UInt8) :=
  o.nat (NatKey.layout.encode key)

end OctetMaps

namespace OctetMachine

def logged (o : OctetMachine) (helper : Helper) (ok : Bool) : OctetMachine :=
  { o with log := (helper, ok) :: o.log }

def setFwdNat (o : OctetMachine) (key : FwdNatKey) (e : Option FwdNatOctets) : OctetMachine :=
  { o with maps := o.maps.setFwdNat key e }

def setNat (o : OctetMachine) (key : NatKey) (bs : Option (List UInt8)) : OctetMachine :=
  { o with maps := o.maps.setNat key bs }

/-- The machine without its maps, for the calls that do not use them. -/
def mapless (o : OctetMachine) : Machine where
  skb := o.skb
  maps := { config := none, fwdNat := fun _ => none, nat := fun _ => none }
  cpu := o.cpu
  log := o.log

end OctetMachine

/-- One helper call on maps of octets. -/
def Kernel.octetAnswer (k : Kernel) (r : FreeOctets) : (op : Op) → OctetMachine →
    op.Resp × OctetMachine
  | .configGet, o => (o.maps.config.map Nat64Config.layout.read, o)
  | .fwdNatLookup key, o => ((o.maps.fwdNatAt key).map TimedFwdNatVal.read, o)
  | .fwdNatSetLastSeen key ns, o =>
      ((), o.setFwdNat key ((o.maps.fwdNatAt key).map fun e =>
        { e with octets := overwrite e.octets 8 (neBytes64 ns) }))
  | .fwdNatSetObserved key ns, o =>
      ((), o.setFwdNat key ((o.maps.fwdNatAt key).map fun e =>
        { e with octets := overwrite e.octets 24 (neBytes64 ns) }))
  | .fwdNatInsert key value, o =>
      if k.fwdNatInsertOk then
        (true, (o.logged .fwdNatInsert true).setFwdNat key (some value.encode))
      else (false, o.logged .fwdNatInsert false)
  | .fwdNatRemove key, o =>
      if k.fwdNatRemoveOk then (true, (o.logged .fwdNatRemove true).setFwdNat key none)
      else (false, o.logged .fwdNatRemove false)
  | .timerInit key, o =>
      (k.timerInitOk, (o.logged .timerInit k.timerInitOk).setFwdNat key
        ((o.maps.fwdNatAt key).map fun e =>
          { e with octets := overwrite e.octets 32 (r.timer o.log.length).toList }))
  | .timerStart key delayNs, o =>
      if k.timerStartOk then
        (true, (o.logged .timerStart true).setFwdNat key ((o.maps.fwdNatAt key).map fun e =>
          { octets := overwrite e.octets 32 (r.timer o.log.length).toList
            armed := some (k.now.toNat + delayNs.toNat) }))
      else (false, o.logged .timerStart false)
  | .natLookup key, o => ((o.maps.natAt key).map NatVal.layout.read, o)
  | .natSetLastSeen key ns, o =>
      ((), o.setNat key ((o.maps.natAt key).map fun bs => overwrite bs 32 (neBytes64 ns)))
  | .natInsert key value, o =>
      if k.natInsertOk then
        (true, (o.logged .natInsert true).setNat key (some (r.natVal o.log.length value)))
      else (false, o.logged .natInsert false)
  | .natRemove key, o =>
      if k.natRemoveOk then (true, (o.logged .natRemove true).setNat key none)
      else (false, o.logged .natRemove false)
  | op, o =>
      let after := (k.answer op o.mapless).2
      ((k.answer op o.mapless).1, { o with skb := after.skb, cpu := after.cpu, log := after.log })

structure OctetMaps.Represents (o : OctetMaps) (s : Maps) : Prop where
  config : Option.Rel Nat64Config.layout.Represents o.config s.config
  fwdNat : FwdNatKey.layout.TableRel FwdNatOctets.Represents o.fwdNat s.fwdNat
  nat : NatKey.layout.TableRel NatVal.layout.Represents o.nat s.nat

/-- The machines differ in the maps only. -/
structure OctetMachine.Represents (o : OctetMachine) (m : Machine) : Prop where
  skb : o.skb = m.skb
  maps : o.maps.Represents m.maps
  cpu : o.cpu = m.cpu
  log : o.log = m.log

namespace OctetMaps.Represents
variable {o : OctetMaps} {s : Maps}

theorem setFwdNat (h : o.Represents s) (key : FwdNatKey) {e : Option FwdNatOctets}
    {v : Option TimedFwdNatVal} (hev : Option.Rel FwdNatOctets.Represents e v) :
    (o.setFwdNat key e).Represents (s.setFwdNat key v) :=
  ⟨h.config, h.fwdNat.update key hev, h.nat⟩

theorem setNat (h : o.Represents s) (key : NatKey) {bs : Option (List UInt8)} {v : Option NatVal}
    (hbv : Option.Rel NatVal.layout.Represents bs v) :
    (o.setNat key bs).Represents (s.setNat key v) :=
  ⟨h.config, h.fwdNat, h.nat.update key hbv⟩

end OctetMaps.Represents

namespace OctetMachine.Represents
variable {o : OctetMachine} {m : Machine}

theorem logged (h : o.Represents m) (helper : Helper) (ok : Bool) :
    (o.logged helper ok).Represents (m.logged helper ok) :=
  ⟨h.skb, h.maps, h.cpu, congrArg _ h.log⟩

theorem setFwdNat (h : o.Represents m) (key : FwdNatKey) {e : Option FwdNatOctets}
    {v : Option TimedFwdNatVal} (hev : Option.Rel FwdNatOctets.Represents e v) :
    (o.setFwdNat key e).Represents (m.setFwdNat key v) :=
  ⟨h.skb, h.maps.setFwdNat key hev, h.cpu, h.log⟩

theorem setNat (h : o.Represents m) (key : NatKey) {bs : Option (List UInt8)} {v : Option NatVal}
    (hbv : Option.Rel NatVal.layout.Represents bs v) :
    (o.setNat key bs).Represents (m.setNat key v) :=
  ⟨h.skb, h.maps.setNat key hbv, h.cpu, h.log⟩

/-- A change of the entry under the key, where there is one. -/
theorem mapFwdNat (h : o.Represents m) (key : FwdNatKey) {f : FwdNatOctets → FwdNatOctets}
    {g : TimedFwdNatVal → TimedFwdNatVal} (hfg : ∀ e v, e.Represents v → (f e).Represents (g v)) :
    (o.setFwdNat key ((o.maps.fwdNatAt key).map f)).Represents
      (m.setFwdNat key ((m.maps.fwdNat key).map g)) :=
  h.setFwdNat key (rel_map hfg (h.maps.fwdNat.entry key))

theorem mapNat (h : o.Represents m) (key : NatKey) {f : List UInt8 → List UInt8}
    {g : NatVal → NatVal}
    (hfg : ∀ bs v, NatVal.layout.Represents bs v → NatVal.layout.Represents (f bs) (g v)) :
    (o.setNat key ((o.maps.natAt key).map f)).Represents
      (m.setNat key ((m.maps.nat key).map g)) :=
  h.setNat key (rel_map hfg (h.maps.nat.entry key))

end OctetMachine.Represents

/-- A call that leaves the maps alone is answered from the rest of the machine. -/
def Op.Mapless : Op → Prop
  | .skbLoadBytes .. | .skbStoreBytes .. | .skbChangeProto .. | .csumDiff .. | .l4CsumReplace ..
  | .redirectNeigh .. | .ktimeGetNs | .getPrandomU32 | .timerSetCallback .. | .portCursor
  | .setPortCursor .. | .portCooldown | .setPortCooldown .. | .diag .. => True
  | _ => False

theorem answer_mapless (k : Kernel) {op : Op} (hop : op.Mapless) (m : Machine) (s : Maps) :
    (k.answer op { m with maps := s }).1 = (k.answer op m).1 ∧
      (k.answer op { m with maps := s }).2 = { (k.answer op m).2 with maps := s } ∧
      (k.answer op m).2.maps = m.maps := by
  cases op with
  | skbLoadBytes | skbStoreBytes | skbChangeProto =>
      simp only [Kernel.answer]
      split <;> exact ⟨rfl, rfl, rfl⟩
  | l4CsumReplace off old new flags =>
      simp only [Kernel.answer]
      cases k.l4Csum (ofNeBytes16 (slice m.skb off 2)) old new flags with
      | none => exact ⟨rfl, rfl, rfl⟩
      | some field =>
          dsimp only
          split <;> exact ⟨rfl, rfl, rfl⟩
  | csumDiff | redirectNeigh | ktimeGetNs | getPrandomU32 | timerSetCallback | portCursor
  | setPortCursor | portCooldown | setPortCooldown | diag => exact ⟨rfl, rfl, rfl⟩
  | configGet | fwdNatLookup | fwdNatSetLastSeen | fwdNatSetObserved | fwdNatInsert | fwdNatRemove
  | timerInit | timerStart | natLookup | natSetLastSeen | natInsert | natRemove => cases hop

theorem octetAnswer_mapless (k : Kernel) (r : FreeOctets) {op : Op} (hop : op.Mapless)
    (o : OctetMachine) : k.octetAnswer r op o = ((k.answer op o.mapless).1,
      { o with
        skb := (k.answer op o.mapless).2.skb
        cpu := (k.answer op o.mapless).2.cpu
        log := (k.answer op o.mapless).2.log }) := by
  cases op
  all_goals first | rfl | cases hop

theorem octetAnswer_of_mapless (k : Kernel) (r : FreeOctets) {op : Op} (hop : op.Mapless)
    {m : Machine} {o : OctetMachine} (h : o.Represents m) :
    (k.answer op m).1 = (k.octetAnswer r op o).1 ∧
      (k.octetAnswer r op o).2.Represents (k.answer op m).2 := by
  obtain ⟨skb, maps, cpu, log⟩ := o
  obtain ⟨rfl, hmaps, rfl, rfl⟩ := h
  obtain ⟨answer, after, kept⟩ := answer_mapless k hop m ⟨none, fun _ => none, fun _ => none⟩
  rw [octetAnswer_mapless k r hop]
  constructor
  · exact answer.symm
  · constructor
    · exact (congrArg Machine.skb after :)
    · rw [kept]
      exact hmaps
    · exact (congrArg Machine.cpu after :)
    · exact (congrArg Machine.log after :)

/-- Each call gets the same answer from octets as from records. -/
theorem octetAnswer_answer (k : Kernel) (r : FreeOctets) (op : Op) (m : Machine) (o : OctetMachine)
    (h : o.Represents m) : (k.answer op m).1 = (k.octetAnswer r op o).1 ∧
      (k.octetAnswer r op o).2.Represents (k.answer op m).2 := by
  cases op with
  | configGet => exact ⟨(Layout.read_of_rel h.maps.config).symm, h⟩
  | fwdNatLookup key =>
      constructor
      · exact (FwdNatOctets.read_of_rel (h.maps.fwdNat.entry key)).symm
      · exact h
  | fwdNatSetLastSeen key ns => exact ⟨rfl, h.mapFwdNat key fun _ _ hev => hev.lastSeenNs ns⟩
  | fwdNatSetObserved key ns =>
      exact ⟨rfl, h.mapFwdNat key fun _ _ hev => hev.observedLastSeenNs ns⟩
  | fwdNatInsert key value =>
      simp only [Kernel.answer, Kernel.octetAnswer]
      split
      · exact ⟨rfl, (h.logged _ _).setFwdNat key (.some (FwdNatOctets.represents_encode value))⟩
      · exact ⟨rfl, h.logged _ _⟩
  | fwdNatRemove key =>
      simp only [Kernel.answer, Kernel.octetAnswer]
      split
      · exact ⟨rfl, (h.logged _ _).setFwdNat key .none⟩
      · exact ⟨rfl, h.logged _ _⟩
  | timerInit key =>
      refine ⟨rfl, ?_⟩
      have same := (h.logged .timerInit k.timerInitOk).mapFwdNat key
        (g := id) fun _ _ hev => hev.touched (r.timer o.log.length)
      have kept : m.maps.setFwdNat key ((m.maps.fwdNat key).map id) = m.maps :=
        Maps.setFwdNat_eq_self (congrFun Option.map_id _).symm
      rw [Machine.setFwdNat, show (m.logged _ _).maps = m.maps from rfl, kept] at same
      exact same
  | timerStart key delayNs =>
      simp only [Kernel.answer, Kernel.octetAnswer]
      split
      · exact ⟨rfl, (h.logged _ _).mapFwdNat key fun _ _ hev => hev.timer _ _⟩
      · exact ⟨rfl, h.logged _ _⟩
  | natLookup key => exact ⟨(Layout.read_of_rel (h.maps.nat.entry key)).symm, h⟩
  | natSetLastSeen key ns =>
      exact ⟨rfl, h.mapNat key fun _ _ hbv => NatVal.represents_lastSeenNs hbv ns⟩
  | natInsert key value =>
      simp only [Kernel.answer, Kernel.octetAnswer]
      split
      · exact ⟨rfl, (h.logged _ _).setNat key (.some (r.represents _ value))⟩
      · exact ⟨rfl, h.logged _ _⟩
  | natRemove key =>
      simp only [Kernel.answer, Kernel.octetAnswer]
      split
      · exact ⟨rfl, (h.logged _ _).setNat key .none⟩
      · exact ⟨rfl, h.logged _ _⟩
  | skbLoadBytes | skbStoreBytes | skbChangeProto | csumDiff | l4CsumReplace | redirectNeigh
  | ktimeGetNs | getPrandomU32 | timerSetCallback | portCursor | setPortCursor | portCooldown
  | setPortCooldown | diag =>
      exact octetAnswer_of_mapless k r (by trivial) h

/-- An invocation over maps of octets. -/
def Kernel.octetExec {α : Type} (k : Kernel) (r : FreeOctets) (p : Ebpf α) (o : OctetMachine) :
    α × OctetMachine :=
  CallTree.exec (k.octetAnswer r) p o

/-- No program can tell octets from records. -/
theorem octetExec_exec {α : Type} (k : Kernel) (r : FreeOctets) (p : Ebpf α) {m : Machine}
    {o : OctetMachine} (h : o.Represents m) : (k.exec p m).1 = (k.octetExec r p o).1 ∧
      (k.octetExec r p o).2.Represents (k.exec p m).2 :=
  CallTree.exec_related (R := fun m o => OctetMachine.Represents o m) (octetAnswer_answer k r) p h

/-- The dataplane, without its counters, between invocations. -/
structure OctetSystem where
  maps : OctetMaps
  cpus : Nat → CpuMaps

/-- What became of a packet. -/
def System.packet (s : System) : Event → Option (TcAction × List UInt8)
  | .forward cpu skb k => some ((s.forward cpu skb k).1, (s.forward cpu skb k).2.skb)
  | .reverse cpu skb k => some ((s.reverse cpu skb k).1, (s.reverse cpu skb k).2.skb)
  | .timer .. | .evictFwdNat _ | .evictNat _ => none

namespace OctetSystem

/-- Empty maps, and the configuration as userspace writes it. -/
def initial (cfg : Nat64Config) : OctetSystem where
  maps := {
    config := some (Nat64Config.layout.encode cfg)
    fwdNat := fun _ => none
    nat := fun _ => none }
  cpus := (System.initial cfg).cpus

def machine (s : OctetSystem) (cpu : Nat) (skb : List UInt8) : OctetMachine :=
  { skb, maps := s.maps, cpu := s.cpus cpu, log := [] }

def commit (s : OctetSystem) (cpu : Nat) (o : OctetMachine) : OctetSystem where
  maps := o.maps
  cpus := Function.update s.cpus cpu o.cpu

def forward (s : OctetSystem) (cpu : Nat) (skb : List UInt8) (k : Kernel) (r : FreeOctets) :
    TcAction × OctetMachine :=
  k.octetExec r nat64Forward (s.machine cpu skb)

def reverse (s : OctetSystem) (cpu : Nat) (skb : List UInt8) (k : Kernel) (r : FreeOctets) :
    TcAction × OctetMachine :=
  k.octetExec r nat64Reverse (s.machine cpu skb)

/-- The timer of an entry has fired: it is no longer armed. -/
def unarmed (s : OctetSystem) (key : FwdNatKey) : OctetMaps :=
  s.maps.setFwdNat key ((s.maps.fwdNatAt key).map fun e => { e with armed := none })

def timer (s : OctetSystem) (key : FwdNatKey) (k : Kernel) (r : FreeOctets) : OctetMachine :=
  (k.octetExec r (sessionTimerCallback key)
    { skb := [], maps := s.unarmed key, cpu := ⟨none, none⟩, log := [] }).2

def step (s : OctetSystem) : Event × FreeOctets → OctetSystem
  | (.forward cpu skb k, r) => s.commit cpu (s.forward cpu skb k r).2
  | (.reverse cpu skb k, r) => s.commit cpu (s.reverse cpu skb k r).2
  | (.timer key k, r) => { s with maps := (s.timer key k r).maps }
  | (.evictFwdNat key, _) => { s with maps := s.maps.setFwdNat key none }
  | (.evictNat key, _) => { s with maps := s.maps.setNat key none }

def packet (s : OctetSystem) : Event × FreeOctets → Option (TcAction × List UInt8)
  | (.forward cpu skb k, r) => some ((s.forward cpu skb k r).1, (s.forward cpu skb k r).2.skb)
  | (.reverse cpu skb k, r) => some ((s.reverse cpu skb k r).1, (s.reverse cpu skb k r).2.skb)
  | (.timer .., _) | (.evictFwdNat _, _) | (.evictNat _, _) => none

structure Represents (o : OctetSystem) (s : System) : Prop where
  maps : o.maps.Represents s.maps
  cpus : o.cpus = s.cpus

theorem represents_initial (cfg : Nat64Config) :
    (initial cfg).Represents (System.initial cfg) where
  maps := ⟨.some (Layout.represents_encode _ cfg), Layout.tableRel_empty _ _,
    Layout.tableRel_empty _ _⟩
  cpus := rfl

namespace Represents
variable {o : OctetSystem} {s : System}

theorem machine (h : o.Represents s) (cpu : Nat) (skb : List UInt8) :
    (o.machine cpu skb).Represents (s.machine cpu skb) :=
  ⟨rfl, h.maps, congrFun h.cpus cpu, rfl⟩

theorem commit (h : o.Represents s) (cpu : Nat) {after : OctetMachine} {m : Machine}
    (hm : after.Represents m) (d : Diag) : (o.commit cpu after).Represents (s.commit cpu m d) where
  maps := hm.maps
  cpus := by rw [OctetSystem.commit, System.commit, h.cpus, hm.cpu]

theorem timerMachine (h : o.Represents s) (key : FwdNatKey) :
    OctetMachine.Represents ⟨[], o.unarmed key, ⟨none, none⟩, []⟩ (s.timerMachine key) where
  skb := rfl
  maps := h.maps.setFwdNat key (rel_map (fun _ _ hev => hev.unarmed) (h.maps.fwdNat.entry key))
  cpu := rfl
  log := rfl

/-- One event does the same to octets as to records. -/
theorem step (h : o.Represents s) (e : Event) (r : FreeOctets) :
    s.packet e = o.packet (e, r) ∧ (o.step (e, r)).Represents (s.step e) := by
  cases e with
  | forward cpu skb k =>
      obtain ⟨action, after⟩ := octetExec_exec k r nat64Forward (h.machine cpu skb)
      exact ⟨congrArg some (Prod.ext action after.skb.symm), h.commit cpu after _⟩
  | reverse cpu skb k =>
      obtain ⟨action, after⟩ := octetExec_exec k r nat64Reverse (h.machine cpu skb)
      exact ⟨congrArg some (Prod.ext action after.skb.symm), h.commit cpu after _⟩
  | timer key k =>
      obtain ⟨-, after⟩ := octetExec_exec k r (sessionTimerCallback key) (h.timerMachine key)
      exact ⟨rfl, after.maps, h.cpus⟩
  | evictFwdNat key => exact ⟨rfl, h.maps.setFwdNat key .none, h.cpus⟩
  | evictNat key => exact ⟨rfl, h.maps.setNat key .none, h.cpus⟩

end Represents

end OctetSystem

/-- In every run the dataplane over octets treats every packet as the dataplane over records
does, and its maps hold exactly the octets of the records. -/
theorem octet_dataplane_refines (cfg : Nat64Config) (es : List (Event × FreeOctets)) :
    outputs System.step System.packet (System.initial cfg) (es.map Prod.fst) =
        outputs OctetSystem.step OctetSystem.packet (OctetSystem.initial cfg) es ∧
      (run OctetSystem.step (OctetSystem.initial cfg) es).Represents
        (dataplane cfg (es.map Prod.fst)) :=
  run_related (R := fun s o => OctetSystem.Represents o s)
    (fun _ _ e related => related.step e.1 e.2) (OctetSystem.represents_initial cfg) es

/-- The example exchange over octets: the answer is translated as over records. -/
theorem octet_dataplane_refines_exchange :
    outputs System.step System.packet (System.initial exampleDataplane) exampleExchange =
        outputs OctetSystem.step OctetSystem.packet (OctetSystem.initial exampleDataplane)
          (exampleExchange.map fun e => (e, .zeroed)) ∧
      (run OctetSystem.step (OctetSystem.initial exampleDataplane)
        (exampleExchange.map fun e => (e, .zeroed))).Represents
          (dataplane exampleDataplane exampleExchange) :=
  octet_dataplane_refines exampleDataplane (exampleExchange.map fun e => (e, .zeroed))

end Natto64
