import Natto64.QuietEvents
import Natto64.ReturnPackets
import Natto64.SessionSteps

/-!
# Unsolicited traffic

Packets that are not for the translator, and IPv4 packets that answer no session, pass
through intact and leave no trace: a run without them ends with the same sessions and
translates the other packets to the same frames.
-/
namespace Natto64
open EventRun

/-- The forward packet is not admitted, the reverse packet matches no reverse entry. -/
def System.Unsolicited (s : System) : Event → Prop
  | .forward _ skb _ => ∀ extV4, ¬ FwdAdmitted (s.maps.config.getD DEFAULT_CFG) skb extV4
  | .reverse _ skb _ => ∀ v, ¬ RevMatched s.maps skb v
  | .timer _ _ | .evictFwdNat _ | .evictNat _ => False

/-- The frame a packet was made into, and the action taken on it. -/
def translation (z : TcAction × Machine) : Option (TcAction × List UInt8) :=
  if z.1 = .pipe then none else some (z.1, z.2.skb)

def System.translated (s : System) : Event → Option (TcAction × List UInt8)
  | .forward cpu skb k => translation (s.forward cpu skb k)
  | .reverse cpu skb k => translation (s.reverse cpu skb k)
  | .timer _ _ | .evictFwdNat _ | .evictNat _ => none

/-- The event hands its packet back to the stack as it was. -/
def System.HandsBack (s : System) : Event → Prop
  | .forward cpu skb k => (s.forward cpu skb k).1 = .pipe ∧ (s.forward cpu skb k).2.skb = skb
  | .reverse cpu skb k => (s.reverse cpu skb k).1 = .pipe ∧ (s.reverse cpu skb k).2.skb = skb
  | .timer _ _ | .evictFwdNat _ | .evictNat _ => False

/-- The maps and the allocators, without the counters. -/
def System.tables (s : System) : Maps × (Nat → CpuMaps) := (s.maps, s.cpus)

section Packet
variable {k : Kernel} {m : Machine}

theorem forward_refused (h : ∀ extV4, ¬ FwdAdmitted (m.maps.config.getD DEFAULT_CFG) m.skb extV4) :
    (k.exec nat64Forward m).1 = .pipe ∧ m.SameState (k.exec nat64Forward m).2 := by
  have hcase := nat64Forward_case k m
  generalize k.exec nat64Forward m = z at hcase ⊢
  cases hcase with
  | passed cause same => exact ⟨rfl, same⟩
  | cut admitted => exact absurd admitted (h _)
  | unmapped mapped | dropped mapped | translated mapped => exact absurd mapped.admitted (h _)

theorem reverse_unmatched (h : ∀ v, ¬ RevMatched m.maps m.skb v) :
    (k.exec nat64Reverse m).1 = .pipe ∧ m.SameState (k.exec nat64Reverse m).2 := by
  have hcase := nat64Reverse_case k m
  generalize k.exec nat64Reverse m = z at hcase ⊢
  cases hcase with
  | passed cause same => exact ⟨rfl, same⟩
  | kept matched | cut matched | translated matched => exact absurd matched (h _)

end Packet

section Tables
variable {s s' : System}

/-- A packet that keeps its machine state keeps the tables. -/
theorem tables_commit {cpu : Nat} {skb : List UInt8} {m' : Machine}
    (same : (s.machine cpu skb).SameState m') (d : Diag) :
    (s.commit cpu m' d).tables = s.tables := by
  have hcpus : Function.update s.cpus cpu m'.cpu = s.cpus := by
    have hcpu : m'.cpu = s.cpus cpu := same.2.2
    rw [hcpu, Function.update_eq_self]
  exact Prod.ext same.2.1 hcpus

theorem machine_eq (h : s.tables = s'.tables) (cpu : Nat) (skb : List UInt8) :
    s.machine cpu skb = s'.machine cpu skb := by
  have hmaps : s.maps = s'.maps := congrArg Prod.fst h
  have hcpus : s.cpus = s'.cpus := congrArg Prod.snd h
  rw [System.machine, System.machine, hmaps, hcpus]

theorem System.Unsolicited.forward {cpu : Nat} {skb : List UInt8} {k : Kernel}
    (h : s.Unsolicited (.forward cpu skb k)) :
    (s.forward cpu skb k).1 = .pipe ∧
      (s.machine cpu skb).SameState (s.forward cpu skb k).2 := forward_refused h

theorem System.Unsolicited.reverse {cpu : Nat} {skb : List UInt8} {k : Kernel}
    (h : s.Unsolicited (.reverse cpu skb k)) :
    (s.reverse cpu skb k).1 = .pipe ∧
      (s.machine cpu skb).SameState (s.reverse cpu skb k).2 := reverse_unmatched h

theorem System.Unsolicited.handsBack {e : Event} (h : s.Unsolicited e) : s.HandsBack e := by
  cases e with
  | forward cpu skb k => exact ⟨h.forward.1, h.forward.2.1⟩
  | reverse cpu skb k => exact ⟨h.reverse.1, h.reverse.2.1⟩
  | timer key k => exact h
  | evictFwdNat key => exact h
  | evictNat key => exact h

/-- Unsolicited packets are quiet: the counters see them, the tables do not. -/
theorem unsolicited_quiet :
    Quiet System.step System.translated System.Unsolicited System.tables where
  step_view := by
    intro s s' e h
    have hmaps : s.maps = s'.maps := congrArg Prod.fst h
    have hcpus : s.cpus = s'.cpus := congrArg Prod.snd h
    cases e with
    | forward cpu skb k =>
        simp only [System.step, System.forward, System.tables, System.commit, machine_eq h, hcpus]
    | reverse cpu skb k =>
        simp only [System.step, System.reverse, System.tables, System.commit, machine_eq h, hcpus]
    | timer key k =>
        simp only [System.step, System.timer, System.timerMachine, System.unarmed, System.tables,
          hmaps, hcpus]
    | evictFwdNat key => simp only [System.step, System.tables, hmaps, hcpus]
    | evictNat key => simp only [System.step, System.tables, hmaps, hcpus]
  out_view := by
    intro s s' e h
    cases e with
    | forward cpu skb k =>
        exact congrArg (fun m => translation (k.exec nat64Forward m)) (machine_eq h cpu skb)
    | reverse cpu skb k =>
        exact congrArg (fun m => translation (k.exec nat64Reverse m)) (machine_eq h cpu skb)
    | timer key k => rfl
    | evictFwdNat key => rfl
    | evictNat key => rfl
  unseen := by
    intro s e h
    cases e with
    | forward cpu skb k => exact tables_commit h.forward.2 _
    | reverse cpu skb k => exact tables_commit h.reverse.2 _
    | timer key k => exact h.elim
    | evictFwdNat key => exact h.elim
    | evictNat key => exact h.elim
  silent := by
    intro s e h
    cases e with
    | forward cpu skb k => exact if_pos h.forward.1
    | reverse cpu skb k => exact if_pos h.reverse.1
    | timer key k => rfl
    | evictFwdNat key => rfl
    | evictNat key => rfl

end Tables

/-- The run without its unsolicited packets. -/
noncomputable def solicited (cfg : Nat64Config) (es : List Event) : List Event :=
  loud System.step System.Unsolicited (System.initial cfg) es

/-- Whatever fails or is evicted, deleting the unsolicited packets of a run changes neither its
sessions and allocators nor the frames the other packets are made into; the deleted packets
were handed back intact. -/
theorem unsolicited_traffic_inert (cfg : Nat64Config) (es : List Event) :
    (dataplane cfg (solicited cfg es)).maps = (dataplane cfg es).maps ∧
      (dataplane cfg (solicited cfg es)).cpus = (dataplane cfg es).cpus ∧
      outputs System.step System.translated (System.initial cfg) (solicited cfg es) =
        outputs System.step System.translated (System.initial cfg) es ∧
      Along System.step (fun s e => s.Unsolicited e → s.HandsBack e) (System.initial cfg) es := by
  have tables := unsolicited_quiet.run_loud (rfl : (System.initial cfg).tables = _) es
  refine ⟨congrArg Prod.fst tables, congrArg Prod.snd tables, ?_, ?_⟩
  · exact unsolicited_quiet.outputs_loud rfl es
  · exact along_of_forall fun _ _ _ h => h.handsBack

/-- What a classifier emits is unsolicited traffic to it, in every state. -/
theorem emitted_unsolicited (s s' : System) (cpu cpu' : Nat) (skb : List UInt8) (k k' : Kernel) :
    ((s.forward cpu skb k).1 ≠ .pipe →
        s'.Unsolicited (.forward cpu' (s.forward cpu skb k).2.skb k')) ∧
      ((s.reverse cpu skb k).1 ≠ .pipe →
        s'.Unsolicited (.reverse cpu' (s.reverse cpu skb k).2.skb k')) := by
  constructor
  · intro rewritten extV4 admitted
    obtain ⟨_, t, _, _, csum, -, within, hskb, -⟩ := forward_rewritten rewritten
    have h : 12 ≤ skb.length := by
      have within : 54 + csumFieldOff (u8At skb 20) + 2 ≤ skb.length := within
      omega
    have htype : be16At (s.forward cpu skb k).2.skb 12 = ETH_P_IP :=
      (congrArg (be16At · 12) hskb).trans (fwdFrame_etherType h)
    exact absurd (htype.symm.trans admitted.etherType) (by decide)
  · intro rewritten v matched
    obtain ⟨_, csum, -, within, hskb, -⟩ := reverse_rewritten rewritten
    have h : 12 ≤ skb.length := by
      have within : 34 + csumFieldOff (u8At skb 23) + 2 ≤ skb.length := within
      omega
    have htype : be16At (s.reverse cpu skb k).2.skb 12 = ETH_P_IPV6 :=
      (congrArg (be16At · 12) hskb).trans (revFrame_etherType h)
    exact absurd (htype.symm.trans matched.admitted.etherType) (by decide)

end Natto64
