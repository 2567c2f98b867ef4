import Natto64.ArmedTimers
import Natto64.OctetMaps
import Natto64.SerialOrder

/-!
# Serial runs

The events of a run as invocations that are in flight together. Where their accesses to the
session maps do not overlap, nothing tells them from the run of whole events.
-/
namespace Natto64
open EventRun Interleaving

namespace Event

/-- The CPU of a packet. -/
def cpu : Event → Option Nat
  | .forward cpu _ _ | .reverse cpu _ _ => some cpu
  | .timer _ _ | .evictFwdNat _ | .evictNat _ => none

/-- An eviction is a removal that succeeds. -/
def kernel : Event → Kernel
  | .forward _ _ k | .reverse _ _ k | .timer _ k => k
  | .evictFwdNat _ | .evictNat _ => .ideal 0 0

/-- The invocation of the event; a packet finds the allocator of its CPU. -/
def task (cpus : Nat → CpuMaps) : Event → Task
  | .forward cpu skb _ => .forward skb (cpus cpu)
  | .reverse cpu skb _ => .reverse skb (cpus cpu)
  | .timer key _ => .timer key
  | .evictFwdNat key => .evictFwdNat key
  | .evictNat key => .evictNat key

/-- The whole event as an invocation on these maps. -/
def invoked (e : Event) (cpus : Nat → CpuMaps) (s : Maps) : (e.task cpus).Result × Machine :=
  e.kernel.exec (e.task cpus).program ((e.task cpus).invocation.machine s)

end Event

/-- The action on a packet and its frame. -/
def Task.packet : (task : Task) → task.Result → List UInt8 → Option (TcAction × List UInt8)
  | .forward _ _, a, skb | .reverse _ _, a, skb => some (a, skb)
  | .timer _, _, _ | .evictFwdNat _, _, _ | .evictNat _, _, _ => none

/-- What a finished task made of its packet. -/
def InFlight.packet {ι : Type} {tasks : ι → Task} (c : InFlight tasks) (i : ι) :
    Option (TcAction × List UInt8) :=
  (c.result i).bind fun r => (tasks i).packet r (c.frame i)

section One
variable {s : Maps} {t : System}

/-- A timer that has fired is no longer armed. -/
theorem sameButTimers_unarmed (h : s.SameButTimers t.maps) (key : FwdNatKey) :
    s.SameButTimers (t.unarmed key) where
  config := h.config
  fwdNat key' := by
    by_cases hkey : key' = key
    · subst hkey
      rw [h.fwdNat, System.unarmed, Maps.setFwdNat_self, Option.map_map]
      rfl
    · rw [h.fwdNat, System.unarmed, Maps.setFwdNat_of_ne _ _ _ hkey]
  nat := h.nat

/-- An invocation does on these maps what the event does in this state. -/
theorem invoked_event (h : s.SameButTimers t.maps) (e : Event) :
    (e.invoked t.cpus s).2.maps.SameButTimers (t.step e).maps ∧
      (e.task t.cpus).packet (e.invoked t.cpus s).1 (e.invoked t.cpus s).2.skb = t.packet e ∧
      ∀ cpu, e.cpu = some cpu → (e.invoked t.cpus s).2.cpu = (t.step e).cpus cpu := by
  have runs : ∀ {α : Type} {p : Ebpf α}, TimerBlind p → ∀ (k : Kernel) (m n : Machine),
      m.SameButTimers n →
      (k.exec p m).1 = (k.exec p n).1 ∧ (k.exec p m).2.SameButTimers (k.exec p n).2 :=
    fun hp k m n same => CallTree.Ignores.exec_related (answer_sameButTimers k) hp same
  cases e with
  | forward cpu skb k =>
      obtain ⟨action, same⟩ := runs blind_nat64Forward k
        (Invocation.machine ⟨skb, t.cpus cpu, []⟩ s) (t.machine cpu skb) ⟨rfl, h, rfl, rfl⟩
      have left : (t.step (.forward cpu skb k)).cpus cpu = (t.forward cpu skb k).2.cpu :=
        Function.update_self ..
      refine ⟨same.maps, congrArg some (Prod.ext action same.skb), ?_⟩
      intro cpu' hcpu
      obtain rfl := Option.some.inj hcpu
      exact same.cpu.trans left.symm
  | reverse cpu skb k =>
      obtain ⟨action, same⟩ := runs blind_nat64Reverse k
        (Invocation.machine ⟨skb, t.cpus cpu, []⟩ s) (t.machine cpu skb) ⟨rfl, h, rfl, rfl⟩
      have left : (t.step (.reverse cpu skb k)).cpus cpu = (t.reverse cpu skb k).2.cpu :=
        Function.update_self ..
      refine ⟨same.maps, congrArg some (Prod.ext action same.skb), ?_⟩
      intro cpu' hcpu
      obtain rfl := Option.some.inj hcpu
      exact same.cpu.trans left.symm
  | timer key k =>
      have unarmed := sameButTimers_unarmed h key
      have same := (runs (blind_sessionTimerCallback key) k
        (Invocation.machine ⟨[], ⟨none, none⟩, []⟩ s) (t.timerMachine key)
        ⟨rfl, unarmed, rfl, rfl⟩).2
      exact ⟨same.maps, rfl, nofun⟩
  | evictFwdNat key => exact ⟨h.setFwdNat key rfl, rfl, nofun⟩
  | evictNat key => exact ⟨h.setNat key none, rfl, nofun⟩

end One

theorem finRange_take_succ {m n : Nat} (h : n < m) :
    (List.finRange m).take (n + 1) = (List.finRange m).take n ++ [⟨n, h⟩] := by
  rw [List.take_add_one, List.getElem?_eq_getElem (by simpa using h)]
  simp

theorem finRange_split {m : Nat} (i : Fin m) : List.finRange m =
    (List.finRange m).take i ++ i :: (List.finRange m).drop (i + 1) := by
  have hi : (i : Nat) < (List.finRange m).length := by simp
  have hget : (List.finRange m)[(i : Nat)] = i := by simp
  have whole := List.take_append_drop i (List.finRange m)
  rw [List.drop_eq_getElem_cons hi, hget] at whole
  exact whole.symm

section Runs
variable (cfg : Nat64Config) (es : List Event)

/-- The events of a run as tasks: a packet finds the allocator of its CPU as the packets
before it left it. -/
def tasksOf (i : Fin es.length) : Task := (es.get i).task (dataplane cfg (es.take i)).cpus

def kernelsOf (i : Fin es.length) : Kernel := (es.get i).kernel

/-- Whole invocations one after the other are the run. -/
theorem oneByOne_tasksOf (n : Nat) :
    (oneByOne cfg (tasksOf cfg es) (kernelsOf es) ((List.finRange es.length).take n)).SameButTimers
      (dataplane cfg (es.take n)).maps := by
  induction n with
  | zero => exact .refl _
  | succ n ih =>
      by_cases hn : n < es.length
      · have hevents : es.take (n + 1) = es.take n ++ [es[n]] := List.take_succ_eq_append_getElem hn
        rw [finRange_take_succ hn, hevents, dataplane_concat, oneByOne, List.foldl_append]
        exact (invoked_event ih es[n]).1
      · have hlen : es.length ≤ n := Nat.le_of_not_lt hn
        rw [List.take_of_length_le (by simpa using hlen), List.take_of_length_le hlen] at ih
        rw [List.take_of_length_le (by simp; omega), List.take_of_length_le (by omega)]
        exact ih

/-- Where the accesses of each event come in one piece, in the order of the run. -/
theorem settled_as_run {schedule : List (Fin es.length)} (n : Fin es.length → Nat)
    (pieces : SettlesAs cfg (tasksOf cfg es) (kernelsOf es) schedule
      ((List.finRange es.length).flatMap fun i => List.replicate (n i) i))
    (finished : ∀ i, ((inFlight cfg (tasksOf cfg es) (kernelsOf es) schedule).result i).isSome) :
    (inFlight cfg (tasksOf cfg es) (kernelsOf es) schedule).shared.SameButTimers
        (dataplane cfg es).maps ∧
      ∀ i, (inFlight cfg (tasksOf cfg es) (kernelsOf es) schedule).packet i =
          (dataplane cfg (es.take i)).packet es[i] ∧
        ∀ cpu, es[i].cpu = some cpu →
          ((inFlight cfg (tasksOf cfg es) (kernelsOf es) schedule).own i).cpu =
            (dataplane cfg (es.take (i + 1))).cpus cpu := by
  obtain ⟨shared, ends⟩ := serial_outcome cfg (tasksOf cfg es) (kernelsOf es)
    (List.nodup_finRange es.length) n pieces fun i _ => finished i
  constructor
  · have whole := oneByOne_tasksOf cfg es es.length
    rw [List.take_of_length_le (by simp), List.take_length] at whole
    rw [shared]
    exact whole
  intro i
  obtain ⟨result, own⟩ := ends _ i _ (finRange_split i)
  obtain ⟨-, packet, cpus⟩ := invoked_event (oneByOne_tasksOf cfg es i) es[i]
  constructor
  · rw [InFlight.packet, result, InFlight.frame, own]
    exact packet
  · intro cpu hcpu
    have hevents : es.take (i + 1) = es.take i ++ [es[i]] := List.take_succ_eq_append_getElem i.isLt
    rw [own, hevents, dataplane_concat]
    exact cpus cpu hcpu

end Runs

/-- The reply arrives first, and waits before its lookup until the request has left. -/
def exampleSchedule : List (Fin 2) :=
  List.replicate 12 1 ++ List.replicate 80 0 ++ List.replicate 40 1

end Natto64
