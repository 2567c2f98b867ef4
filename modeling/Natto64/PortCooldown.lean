import Natto64.PortSupply
import Natto64.RingWindow

/-!
# Long runs of the allocator

How far apart two uses of a port are, and how many calls it takes to try every port, past
the wrap of the cursor and of the ring index.
-/
namespace Natto64
open EventRun RingWindow

/-- The ports a sequence of calls returned, in order. -/
def served (cfg : Nat64Config) (cpu : CpuMaps) (calls : List AllocCall) : List UInt16 :=
  outputs (AllocCall.step cfg) (fun cpu c => c.port cfg cpu) cpu calls

/-- The index counts the ports handed out, up to its width, and the slots hold the last. -/
structure Cools (ring : PortCooldownRing) (ports : List UInt16) : Prop where
  idx : ring.idx.toNat = ports.length % 2 ^ 32
  window : Window ring.ports.get ports

theorem cools_default : Cools .default [] where
  idx := rfl
  window := window_nil _

/-- The width of the index is a whole number of rounds. -/
theorem Cools.slot {ring : PortCooldownRing} {ports : List UInt16} (h : Cools ring ports) :
    cooldownSlot ring = Fin.ofNat COOLDOWN_SIZE ports.length := by
  apply Fin.ext
  change ring.idx.toNat % 64 = ports.length % 64
  rw [h.idx]
  exact Nat.mod_mod_of_dvd _ (by decide)

theorem Cools.push {ring : PortCooldownRing} {ports : List UInt16} (h : Cools ring ports)
    (port : UInt16) : Cools (cooldownPush ring port) (ports ++ [port]) where
  idx := by
    rw [cooldownPush_eq, UInt32.toNat_add, UInt32.toNat_one, h.idx, List.length_append,
      List.length_singleton, Nat.mod_add_mod]
  window := by
    have hslots : (cooldownPush ring port).ports.get =
        Function.update ring.ports.get (Fin.ofNat COOLDOWN_SIZE ports.length) port := by
      funext i
      rw [cooldownPush_eq, ← h.slot]
      by_cases hi : i = cooldownSlot ring
      · rw [hi, List.Vector.get_set_same, Function.update_self]
      · rw [List.Vector.get_set_of_ne (Ne.symm hi), Function.update_of_ne hi]
    rw [hslots]
    exact h.window.push port

section
variable {cfg : Nat64Config}

theorem served_concat (cpu : CpuMaps) (calls : List AllocCall) (c : AllocCall) :
    served cfg cpu (calls ++ [c]) =
      served cfg cpu calls ++ (c.port cfg (run (AllocCall.step cfg) cpu calls)).toList := by
  rw [served, outputs_append, outputs, outputs, List.append_nil, served]

/-- After any calls the ring holds the last of the ports they returned. -/
theorem cools_run (range : cfg.portMin < cfg.portMax) (calls : List AllocCall) :
    ∃ cursor ring, run (AllocCall.step cfg) zeroedCpu calls = ⟨some cursor, some ring⟩ ∧
      Cools ring (served cfg zeroedCpu calls) := by
  induction calls using List.reverseRecOn with
  | nil => exact ⟨0, .default, rfl, cools_default⟩
  | append_singleton calls c ih =>
      obtain ⟨cursor, ring, hrun, cools⟩ := ih
      rw [run_concat, served_concat, hrun, AllocCall.port_eq, AllocCall.step_eq]
      cases hport : portFor cfg c.nat ⟨some cursor, some ring⟩ c.extV4 c.proto with
      | none =>
          refine ⟨cursor + 16, ring, allocCpu_of_none range hport, ?_⟩
          rw [Option.toList_none, List.append_nil]
          exact cools
      | some port =>
          obtain ⟨-, cursor', hcpu⟩ := allocCpu_of_some hport
          exact ⟨cursor', cooldownPush ring port, hcpu, cools.push port⟩

/-- A port is handed out again only after a whole round of others. -/
theorem served_distance (range : cfg.portMin < cfg.portMax) {past between : List AllocCall}
    {c d : AllocCall} {port : UInt16}
    (first : d.port cfg (run (AllocCall.step cfg) zeroedCpu past) = some port)
    (again : c.port cfg (run (AllocCall.step cfg) zeroedCpu (past ++ d :: between)) = some port) :
    COOLDOWN_SIZE ≤
      (served cfg (run (AllocCall.step cfg) zeroedCpu (past ++ [d])) between).length := by
  obtain ⟨cursor, ring, hrun, cools⟩ := cools_run range (past ++ d :: between)
  rw [hrun, AllocCall.port_eq] at again
  obtain ⟨hcold, -⟩ := allocCpu_of_some again
  have hsplit : served cfg zeroedCpu (past ++ d :: between) =
      served cfg zeroedCpu past ++ port ::
        served cfg (run (AllocCall.step cfg) zeroedCpu (past ++ [d])) between := by
    have hassoc : past ++ d :: between = (past ++ [d]) ++ between := by simp
    rw [hassoc, served, outputs_append, ← served, served_concat, first, List.append_assoc]
    rfl
  rw [hsplit] at cools
  apply cools.window.distance
  intro i hi
  rw [(cooldownContains_iff ring port).mpr ⟨i, hi⟩] at hcold
  cases hcold

end

/-- Whatever calls come before: a returned port is in the range and unused, at least a whole
round of others was returned since it was last, and a failed call leaves the ring as it is. -/
theorem alloc_port_postcondition {cfg : Nat64Config} (range : cfg.portMin < cfg.portMax)
    (before : List AllocCall) (c : AllocCall) :
    (∀ port, c.port cfg (run (AllocCall.step cfg) zeroedCpu before) = some port →
      cfg.portMin ≤ port ∧ port ≤ cfg.portMax ∧ c.nat (natKey c.extV4 port c.proto) = none ∧
      ∀ past d between, before = past ++ d :: between →
        d.port cfg (run (AllocCall.step cfg) zeroedCpu past) = some port →
        COOLDOWN_SIZE ≤
          (served cfg (run (AllocCall.step cfg) zeroedCpu (past ++ [d])) between).length) ∧
    (c.port cfg (run (AllocCall.step cfg) zeroedCpu before) = none →
      (AllocCall.step cfg (run (AllocCall.step cfg) zeroedCpu before) c).portCooldown =
        (run (AllocCall.step cfg) zeroedCpu before).portCooldown) := by
  constructor
  · intro port hport
    have hspec := hport
    rw [AllocCall.port_eq] at hspec
    obtain ⟨hmin, hmax, hfree⟩ := portFor_spec hspec
    refine ⟨hmin, hmax, hfree, ?_⟩
    rintro past d between rfl hfirst
    exact served_distance range hfirst hport
  · intro hnone
    obtain ⟨cursor, ring, hrun, -⟩ := cools_run range before
    rw [hrun, AllocCall.port_eq] at hnone
    rw [hrun, AllocCall.step_eq, allocCpu_of_none range hnone]

/-- A range of one port more than the ring holds. -/
def exampleRange : Nat64Config := { exampleDataplane with portMin := 20000, portMax := 20064 }

def exampleCall : AllocCall := .unused 0xCB00710A 6

/-- The first port is handed out again after a round of the others. -/
theorem alloc_port_postcondition_example :
    exampleRange.portMin ≤ 20001 ∧ (20001 : UInt16) ≤ exampleRange.portMax ∧
      COOLDOWN_SIZE ≤ (served exampleRange
        (run (AllocCall.step exampleRange) zeroedCpu ([] ++ [exampleCall]))
        (List.replicate 64 exampleCall)).length := by
  have hstep : AllocCall.step exampleRange =
      fun cpu c => allocCpu exampleRange c.nat cpu c.extV4 c.proto := by
    funext cpu c
    exact AllocCall.step_eq exampleRange cpu c
  have hport : exampleCall.port exampleRange (run (AllocCall.step exampleRange) zeroedCpu
      ([] ++ exampleCall :: List.replicate 64 exampleCall)) = some 20001 := by
    rw [AllocCall.port_eq, hstep]
    decide +kernel
  have hfirst : exampleCall.port exampleRange (run (AllocCall.step exampleRange) zeroedCpu []) =
      some 20001 := by decide +kernel
  have range : exampleRange.portMin < exampleRange.portMax := by decide
  obtain ⟨hmin, hmax, -, distance⟩ := (alloc_port_postcondition range
    ([] ++ exampleCall :: List.replicate 64 exampleCall) exampleCall).1 20001 hport
  exact ⟨hmin, hmax, distance [] exampleCall (List.replicate 64 exampleCall) rfl hfirst⟩

end Natto64
