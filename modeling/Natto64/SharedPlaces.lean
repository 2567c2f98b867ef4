import Natto64.AccessOrder
import Natto64.SerialOrder

/-!
# Shared places

What invocations share are the entries of the two session maps and the allocator slots of each
CPU. A call that is not private to its invocation sees and changes one of these places.
-/
namespace Natto64
open EventRun Interleaving

/-- What invocations share. -/
structure Live where
  maps : Maps
  slots : Nat → CpuMaps

/-- What an invocation holds for itself. -/
structure Held where
  skb : List UInt8
  log : Calls

/-- The state in which an invocation on this CPU goes on. -/
def Held.machine (v : Held) (cpu : Nat) (s : Live) : Machine :=
  { skb := v.skb, maps := s.maps, cpu := s.slots cpu, log := v.log }

def Machine.held (m : Machine) : Held := { skb := m.skb, log := m.log }

/-- What is shared when the state of an invocation on this CPU is `m`. -/
def Live.leave (s : Live) (cpu : Nat) (m : Machine) : Live where
  maps := m.maps
  slots := Function.update s.slots cpu m.cpu

def liveAnswer (k : Kernel) (cpu : Nat) (op : Op) (v : Held) (s : Live) : op.Resp × Held × Live :=
  ((k.answer op (v.machine cpu s)).1, (k.answer op (v.machine cpu s)).2.held,
    s.leave cpu (k.answer op (v.machine cpu s)).2)

theorem Live.leave_machine (s : Live) (cpu : Nat) (v : Held) : s.leave cpu (v.machine cpu s) = s :=
  congrArg (Live.mk s.maps) (Function.update_eq_self cpu s.slots)

theorem Live.leave_leave (s : Live) (cpu : Nat) (m n : Machine) :
    (s.leave cpu m).leave cpu n = s.leave cpu n := by
  simp only [leave, Function.update_idem]

theorem Live.machine_leave (s : Live) (cpu : Nat) (m : Machine) :
    m.held.machine cpu (s.leave cpu m) = m := by
  obtain ⟨skb, maps, slots, log⟩ := m
  simp only [Machine.held, Held.machine, Live.leave, Function.update_self]

/-- An invocation that runs alone does what its program does. -/
theorem alone_live {α : Type} (k : Kernel) (cpu : Nat) (p : Ebpf α) (v : Held) (s : Live) :
    alone (liveAnswer k cpu) p v s = ((k.exec p (v.machine cpu s)).1,
      (k.exec p (v.machine cpu s)).2.held, s.leave cpu (k.exec p (v.machine cpu s)).2) := by
  induction p generalizing v s with
  | done a => exact congrArg (fun s' => (a, v, s')) (s.leave_machine cpu v).symm
  | call op next ih =>
      rw [alone, ih]
      simp only [liveAnswer, Live.machine_leave, Live.leave_leave]
      rfl

def Op.onSlots : Op → Bool
  | .portCursor | .setPortCursor _ | .portCooldown | .setPortCooldown _ => true
  | _ => false

def Op.OffSlots (op : Op) : Prop := op.onSlots = false

instance : DecidablePred Op.OffSlots := fun _ => inferInstanceAs (Decidable (_ = false))

def Machine.setCpu (m : Machine) (cpu : CpuMaps) : Machine := { m with cpu }

/-- Other calls neither see nor change the slots. -/
theorem answer_offSlots {op : Op} (h : op.OffSlots) (k : Kernel) (m : Machine) (cpu : CpuMaps) :
    k.answer op (m.setCpu cpu) = ((k.answer op m).1, (k.answer op m).2.setCpu cpu) := by
  obtain ⟨skb, maps, slots, log⟩ := m
  cases op with
  | portCursor | setPortCursor | portCooldown | setPortCooldown => exact Bool.noConfusion h
  | skbChangeProto proto =>
      simp only [Kernel.answer, Machine.setCpu]
      cases k.changeProtoOk <;> cases changeProtoSkb k.room proto skb <;> rfl
  | l4CsumReplace off old new flags =>
      simp only [Kernel.answer, Machine.setCpu]
      cases k.l4Csum (Octets.ofNeBytes16 (Octets.slice skb off 2)) old new flags with
      | none => rfl
      | some field =>
          by_cases hin : off + 2 ≤ skb.length
          · simp [hin]
            rfl
          · simp [hin]
            rfl
  | skbLoadBytes off n =>
      by_cases hin : k.skbFault log.length = false ∧ off + n ≤ skb.length
      · simp [Kernel.answer, Machine.setCpu, hin]
        rfl
      · simp [Kernel.answer, Machine.setCpu, hin]
        rfl
  | skbStoreBytes off bytes =>
      by_cases hin : k.skbFault log.length = false ∧ off + bytes.length ≤ skb.length
      · simp [Kernel.answer, Machine.setCpu, hin]
        rfl
      · simp [Kernel.answer, Machine.setCpu, hin]
        rfl
  | fwdNatInsert key v =>
      simp only [Kernel.answer]
      cases k.fwdNatInsertOk <;> rfl
  | fwdNatRemove key =>
      simp only [Kernel.answer]
      cases k.fwdNatRemoveOk <;> rfl
  | timerStart key delayNs =>
      simp only [Kernel.answer]
      cases k.timerStartOk <;> rfl
  | natInsert tuple b =>
      simp only [Kernel.answer]
      cases k.natInsertOk <;> rfl
  | natRemove tuple =>
      simp only [Kernel.answer]
      cases k.natRemoveOk <;> rfl
  | _ => rfl

theorem exec_offSlots {α : Type} {p : Ebpf α} (hp : p.Uses Op.OffSlots) (k : Kernel) (m : Machine)
    (cpu : CpuMaps) : k.exec p (m.setCpu cpu) = ((k.exec p m).1, (k.exec p m).2.setCpu cpu) := by
  induction p generalizing m with
  | done a => rfl
  | call op next ih =>
      have answered := answer_offSlots hp.1 k m cpu
      have after := ih (k.answer op m).1 (hp.2 _) (k.answer op m).2
      calc
        k.exec (.call op next) (m.setCpu cpu) =
            k.exec (next (k.answer op (m.setCpu cpu)).1) (k.answer op (m.setCpu cpu)).2 := rfl
        _ = k.exec (next (k.answer op m).1) ((k.answer op m).2.setCpu cpu) := by rw [answered]
        _ = _ := after

/-- The call is of no concern to other invocations. -/
def Op.Private (op : Op) : Prop := op.OffSessions ∧ op.OffSlots

instance : DecidablePred Op.Private := fun _ => inferInstanceAs (Decidable (_ ∧ _))

theorem live_hides (k : Kernel) (cpu : Nat) (cfg : Nat64Config) :
    Hides (liveAnswer k cpu) Op.Private fun s => s.maps.config = some cfg where
  kept op v s hs := (answer_config k op (v.machine cpu s)).trans hs
  blind := by
    rintro op v s s' ⟨offSessions, offSlots⟩ hs hs'
    have moved : k.answer op (v.machine cpu s') =
        ((k.answer op (v.machine cpu s)).1,
          ((k.answer op (v.machine cpu s)).2.held).machine cpu s') := by
      have slots := answer_offSlots offSlots k
        (Invocation.machine ⟨v.skb, s.slots cpu, v.log⟩ s'.maps) (s'.slots cpu)
      rcases offSessions.cases with hlocal | rfl
      · rw [answer_local hlocal k ⟨v.skb, s.slots cpu, v.log⟩ s.maps s'.maps] at slots
        exact slots
      · have same : s'.maps.config = s.maps.config := Eq.trans hs' (Eq.symm hs)
        exact congrArg (fun c => (c, v.machine cpu s')) same
    rw [liveAnswer, moved, Live.leave_machine]
    rfl

/-- What a call that is not private accesses. -/
inductive Place where
  | fwdNat (key : FwdNatKey)
  | nat (tuple : NatKey)
  | slots (cpu : Nat)
  deriving DecidableEq

def Place.Val : Place → Type
  | .fwdNat _ => Option TimedFwdNatVal
  | .nat _ => Option NatVal
  | .slots _ => CpuMaps

namespace Live

def get (s : Live) : (x : Place) → x.Val
  | .fwdNat key => s.maps.fwdNat key
  | .nat tuple => s.maps.nat tuple
  | .slots cpu => s.slots cpu

def set (s : Live) : (x : Place) → x.Val → Live
  | .fwdNat key, v => { s with maps := s.maps.setFwdNat key v }
  | .nat tuple, b => { s with maps := s.maps.setNat tuple b }
  | .slots cpu, c => { s with slots := Function.update s.slots cpu c }

theorem get_set (s : Live) (x : Place) (v : x.Val) : (s.set x v).get x = v := by
  cases x with
  | fwdNat key => exact Maps.setFwdNat_self s.maps key v
  | nat tuple => exact Maps.setNat_self s.maps tuple v
  | slots cpu => exact Function.update_self ..

theorem set_get (s : Live) (x : Place) : s.set x (s.get x) = s := by
  cases x with
  | fwdNat key => exact congrArg (Live.mk · s.slots) (Maps.setFwdNat_eq_self rfl)
  | nat tuple =>
      exact congrArg (fun m => Live.mk { s.maps with nat := m } s.slots)
        (Function.update_eq_self tuple s.maps.nat)
  | slots cpu => exact congrArg (Live.mk s.maps) (Function.update_eq_self cpu s.slots)

theorem get_set_of_ne (s : Live) {x y : Place} (v : x.Val) (h : y ≠ x) :
    (s.set x v).get y = s.get y := by
  cases x with
  | fwdNat key =>
      cases y with
      | fwdNat key' => exact Maps.setFwdNat_of_ne _ _ _ fun same => h (congrArg Place.fwdNat same)
      | nat | slots => rfl
  | nat tuple =>
      cases y with
      | nat tuple' => exact Maps.setNat_of_ne _ _ _ fun same => h (congrArg Place.nat same)
      | fwdNat | slots => rfl
  | slots cpu =>
      cases y with
      | slots cpu' => exact Function.update_of_ne (fun same => h (congrArg Place.slots same)) ..
      | fwdNat | nat => rfl

theorem set_comm (s : Live) {x y : Place} (v : x.Val) (w : y.Val) (h : y ≠ x) :
    (s.set x v).set y w = (s.set y w).set x v := by
  cases x with
  | fwdNat key =>
      cases y with
      | fwdNat key' =>
          have hne : key ≠ key' := fun same => h (congrArg Place.fwdNat same.symm)
          have swapped := Function.update_comm hne v w s.maps.fwdNat
          exact congrArg (fun m => Live.mk { s.maps with fwdNat := m } s.slots) swapped
      | nat | slots => rfl
  | nat tuple =>
      cases y with
      | nat tuple' =>
          have hne : tuple ≠ tuple' := fun same => h (congrArg Place.nat same.symm)
          have swapped := Function.update_comm hne v w s.maps.nat
          exact congrArg (fun m => Live.mk { s.maps with nat := m } s.slots) swapped
      | fwdNat | slots => rfl
  | slots cpu =>
      cases y with
      | slots cpu' =>
          have hne : cpu ≠ cpu' := fun same => h (congrArg Place.slots same.symm)
          have swapped := Function.update_comm hne v w s.slots
          exact congrArg (Live.mk s.maps) swapped
      | fwdNat | nat => rfl

end Live

def sharedPlaces : Places Place Place.Val Live where
  get x s := s.get x
  set x v s := s.set x v
  get_set_of_ne _ _ v s h := s.get_set_of_ne v h
  set_comm _ _ v w s h := s.set_comm v w h

/-- The place that a call of an invocation on this CPU accesses. -/
def Op.place (cpu : Nat) : Op → Option Place
  | .fwdNatLookup key | .fwdNatSetLastSeen key _ | .fwdNatSetObserved key _ | .fwdNatInsert key _
  | .fwdNatRemove key | .timerStart key _ => some (.fwdNat key)
  | .natLookup tuple | .natSetLastSeen tuple _ | .natInsert tuple _ | .natRemove tuple =>
      some (.nat tuple)
  | .portCursor | .setPortCursor _ | .portCooldown | .setPortCooldown _ => some (.slots cpu)
  | _ => none

theorem private_iff (cpu : Nat) (op : Op) : op.Private ↔ op.place cpu = none := by
  cases op <;>
    simp [Op.Private, Op.OffSessions, Op.onSessions, Op.OffSlots, Op.onSlots, Op.place]

def Held.logged (v : Held) (helper : Helper) (ok : Bool) : Held :=
  { v with log := (helper, ok) :: v.log }

section Calls
variable {k : Kernel} {cpu : Nat} {op : Op} {x : Place} {r : x.Val → op.Resp} {v : Held → Held}

/-- A place is a session entry, or the slots of the CPU. -/
def Place.At (cpu : Nat) (x : Place) : Prop := ∀ cpu', x = .slots cpu' → cpu' = cpu

theorem leave_set (hx : x.At cpu) (s : Live) (l : Held) (w : x.Val) :
    s.leave cpu (l.machine cpu (s.set x w)) = s.set x w := by
  cases x with
  | fwdNat key =>
      exact congrArg (Live.mk (s.maps.setFwdNat key w)) (Function.update_eq_self cpu s.slots)
  | nat tuple =>
      exact congrArg (Live.mk (s.maps.setNat tuple w)) (Function.update_eq_self cpu s.slots)
  | slots cpu' =>
      obtain rfl := hx cpu' rfl
      have held : (Function.update s.slots cpu' w) cpu' = w := Function.update_self ..
      exact congrArg (fun c => Live.mk s.maps (Function.update s.slots cpu' c)) held

/-- A call that writes what it makes of the place. -/
theorem only_of_write (hx : x.At cpu) {f : x.Val → x.Val}
    (h : ∀ (l : Held) s, k.answer op (l.machine cpu s) =
      (r (s.get x), (v l).machine cpu (s.set x (f (s.get x))))) :
    sharedPlaces.Only x (liveAnswer k cpu op) := by
  have answers : ∀ l s, liveAnswer k cpu op l s =
      (r (s.get x), v l, s.set x (f (s.get x))) := by
    intro l s
    rw [liveAnswer, h, leave_set hx]
    rfl
  constructor
  · intro l s s' same
    have same : s.get x = s'.get x := same
    rw [answers, answers, same]
    exact ⟨rfl, rfl, (s.get_set x _).trans (s'.get_set x _).symm⟩
  · intro l s
    rw [answers]
    exact congrArg (s.set x) (s.get_set x _).symm

theorem only_of_read (hx : x.At cpu) (h : ∀ (l : Held) s, k.answer op (l.machine cpu s) =
    (r (s.get x), (v l).machine cpu s)) : sharedPlaces.Only x (liveAnswer k cpu op) := by
  apply only_of_write hx (f := id)
  intro l s
  rw [h, id_eq, s.set_get]

/-- A call that writes if the kernel lets it. -/
theorem only_of_fallible (hx : x.At cpu) (ok : Bool) (helper : Helper) (answer : Bool → op.Resp)
    (f : x.Val → x.Val) (h : ∀ (l : Held) s, k.answer op (l.machine cpu s) =
      if ok then (answer true, (l.logged helper true).machine cpu (s.set x (f (s.get x))))
      else (answer false, (l.logged helper false).machine cpu s)) :
    sharedPlaces.Only x (liveAnswer k cpu op) := by
  cases ok with
  | true => exact only_of_write hx (r := fun _ => answer true) (f := f) h
  | false => exact only_of_read hx (r := fun _ => answer false) h

end Calls

theorem only_place (k : Kernel) (cpu : Nat) (op : Op) (x : Place) (h : op.place cpu = some x) :
    sharedPlaces.Only x (liveAnswer k cpu op) := by
  have fwdNat : ∀ key, (Place.fwdNat key).At cpu := fun _ _ => nofun
  have nat : ∀ tuple, (Place.nat tuple).At cpu := fun _ _ => nofun
  have slots : (Place.slots cpu).At cpu := fun _ same => (Place.slots.inj same).symm
  cases op with
  | fwdNatLookup key =>
      obtain rfl := Option.some.inj h
      exact only_of_read (fwdNat key) (r := id) (v := id) fun _ _ => rfl
  | natLookup tuple =>
      obtain rfl := Option.some.inj h
      exact only_of_read (nat tuple) (r := id) (v := id) fun _ _ => rfl
  | fwdNatSetLastSeen key ns | fwdNatSetObserved key ns =>
      obtain rfl := Option.some.inj h
      exact only_of_write (fwdNat key) (r := fun _ => ()) (v := id) (f := Option.map _)
        fun _ _ => rfl
  | natSetLastSeen tuple ns =>
      obtain rfl := Option.some.inj h
      exact only_of_write (nat tuple) (r := fun _ => ()) (v := id) (f := Option.map _)
        fun _ _ => rfl
  | fwdNatInsert key w =>
      obtain rfl := Option.some.inj h
      exact only_of_fallible (fwdNat key) k.fwdNatInsertOk .fwdNatInsert id (fun _ => some w)
        fun _ _ => rfl
  | fwdNatRemove key =>
      obtain rfl := Option.some.inj h
      exact only_of_fallible (fwdNat key) k.fwdNatRemoveOk .fwdNatRemove id (fun _ => none)
        fun _ _ => rfl
  | timerStart key delayNs =>
      obtain rfl := Option.some.inj h
      exact only_of_fallible (fwdNat key) k.timerStartOk .timerStart id (Option.map _)
        fun _ _ => rfl
  | natInsert tuple b =>
      obtain rfl := Option.some.inj h
      exact only_of_fallible (nat tuple) k.natInsertOk .natInsert id (fun _ => some b)
        fun _ _ => rfl
  | natRemove tuple =>
      obtain rfl := Option.some.inj h
      exact only_of_fallible (nat tuple) k.natRemoveOk .natRemove id (fun _ => none)
        fun _ _ => rfl
  | portCursor =>
      obtain rfl := Option.some.inj h
      exact only_of_read slots (r := CpuMaps.portCursor) (v := id) fun _ _ => rfl
  | portCooldown =>
      obtain rfl := Option.some.inj h
      exact only_of_read slots (r := CpuMaps.portCooldown) (v := id) fun _ _ => rfl
  | setPortCursor cursor =>
      obtain rfl := Option.some.inj h
      refine only_of_write slots (r := fun _ => ()) (v := id)
        (f := fun c : CpuMaps => { c with portCursor := some cursor }) fun l s => ?_
      exact congrArg (fun c => ((), { l.machine cpu s with cpu := c }))
        (Function.update_self cpu _ s.slots).symm
  | setPortCooldown ring =>
      obtain rfl := Option.some.inj h
      refine only_of_write slots (r := fun _ => ()) (v := id)
        (f := fun c : CpuMaps => { c with portCooldown := some ring }) fun l s => ?_
      exact congrArg (fun c => ((), { l.machine cpu s with cpu := c }))
        (Function.update_self cpu _ s.slots).symm
  | _ => cases h

/-- Calls of invocations, each on its CPU, are accesses to shared places or private. -/
theorem live_sited {ι : Type} (cfg : Nat64Config) (k : ι → Kernel) (cpu : ι → Nat) :
    Sited (fun i => liveAnswer (k i) (cpu i)) Op.Private (fun s : Live => s.maps.config = some cfg)
      sharedPlaces fun i => Op.place (cpu i) where
  hides i := live_hides (k i) (cpu i) cfg
  hidden_iff i := private_iff (cpu i)
  only i := only_place (k i) (cpu i)

end Natto64
