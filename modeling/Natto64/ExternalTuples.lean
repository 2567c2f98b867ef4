import Natto64.SessionSteps

/-!
# External tuples

No two sessions share an external tuple while every session has its reverse entry; when
no call fails after a session is opened, the two maps mirror each other.
-/
namespace Natto64
open EventRun

/-- The forward packets of the run complete the sessions they open, its callbacks remove
no reverse entry alone, and nothing is evicted. -/
def System.OpensWhole (s : System) : Event → Prop
  | .forward cpu skb k => ForwardCompletes k (s.machine cpu skb)
  | .reverse _ _ _ => True
  | .timer _ k => k.natRemoveOk = true → k.fwdNatRemoveOk = true
  | .evictFwdNat _ | .evictNat _ => False

theorem System.OpensWhole.resident {s : System} {e : Event} (h : s.OpensWhole e) : ¬ e.evicts := by
  cases e <;> first | exact id | exact h.elim

theorem System.OpensWhole.completes {s : System} {e : Event} (h : s.OpensWhole e) :
    s.Completes e := by
  cases e with
  | forward cpu skb k => exact .inl h
  | timer key k => exact .inl h
  | _ => trivial

theorem covered_initial (cfg : Nat64Config) : (System.initial cfg).Covered :=
  sessions.mirror_empty.1

/-- Over a run whose sessions are opened whole, an external tuple belongs to one session. -/
theorem external_tuple_unique {cfg : Nat64Config} {es : List Event}
    (run : Along System.step System.OpensWhole (System.initial cfg) es)
    {key key' : FwdNatKey} {v v' : TimedFwdNatVal}
    (entry : (dataplane cfg es).maps.fwdNat key = some v)
    (entry' : (dataplane cfg es).maps.fwdNat key' = some v') (proto : key.proto = key'.proto)
    (extV4 : v.extV4 = v'.extV4) (extPort : v.extPort = v'.extPort) : key = key' := by
  have covered : (dataplane cfg es).Covered :=
    invariant (fun _ _ h ok => covered_step h ok.resident ok.completes) (covered_initial cfg) run
  have haddr : sessions.addr key v = sessions.addr key' v' :=
    natKey_inj.mpr ⟨extV4, extPort, proto⟩
  exact covered.addr_inj entry entry' haddr

/-- The kernel answers as documented, and the event is no eviction. -/
def Event.Ordinary : Event → Prop
  | .forward _ _ k | .reverse _ _ k | .timer _ k => ∃ now prandom, k = .ideal now prandom
  | .evictFwdNat _ | .evictNat _ => False

/-- With such answers, a frame is only too short. -/
theorem ideal_completes (now : UInt64) (prandom : UInt32) {m : Machine}
    (within : 54 + csumFieldOff (u8At m.skb 20) + 2 ≤ m.skb.length) :
    ForwardCompletes (.ideal now prandom) m := by
  intro extV4 extPort _ _ _ _ _
  rw [if_neg fun h => Bool.false_ne_true h.2.symm]
  exact ⟨fun ⟨_, h⟩ => Bool.false_ne_true h, rfl, rfl, within, fwdCsum_ideal _ _ _ _ _⟩

/-- Two TCP flows of the example client, opened on two CPUs. -/
def twoFlows (length : Nat) : List Event :=
  [.forward 0 (exampleTcp6 4000 length) (.ideal 1000 7),
    .forward 1 (exampleTcp6 4001 20) (.ideal 2000 9)]

theorem external_tuple_unique_two_flows :
    fwdKeyAt (exampleTcp6 4001 20) = ⟨exampleClient, exampleServer, 4001, 80, IPPROTO_TCP⟩ := by
  have whole : Along System.step System.OpensWhole (System.initial exampleDataplane)
      (twoFlows 20) :=
    ⟨ideal_completes 1000 7 (by decide), ideal_completes 2000 9 (by decide), trivial⟩
  have entry : (dataplane exampleDataplane (twoFlows 20)).maps.fwdNat
      (fwdKeyAt (exampleTcp6 4001 20)) =
      some (openedVal (.ideal 2000 9) exampleDataplane 0xCB00710A 20002) := by decide +kernel
  have entry' : (dataplane exampleDataplane (twoFlows 20)).maps.fwdNat
      ⟨exampleClient, exampleServer, 4001, 80, IPPROTO_TCP⟩ =
      some (openedVal (.ideal 2000 9) exampleDataplane 0xCB00710A 20002) := by decide +kernel
  have proto : (fwdKeyAt (exampleTcp6 4001 20)).proto = IPPROTO_TCP := by decide
  exact external_tuple_unique whole entry entry' proto rfl rfl

/-- A frame that ends after its ports leaves its port to the next flow of another CPU. -/
theorem truncated_tcp_shares_tuple :
    ¬ ∀ (u : Userspace.Nat64Config) (bridge uplink : UInt32) (es : List Event),
      u.validate = .ok () → (∀ e ∈ es, e.Ordinary) →
      ∀ (key key' : FwdNatKey) (v v' : TimedFwdNatVal),
        (dataplane (u.dataplaneConfig bridge uplink) es).maps.fwdNat key = some v →
        (dataplane (u.dataplaneConfig bridge uplink) es).maps.fwdNat key' = some v' →
        key.proto = key'.proto → v.extV4 = v'.extV4 → v.extPort = v'.extPort → key = key' := by
  intro h
  have ordinary : ∀ e ∈ twoFlows 4, e.Ordinary := by
    intro e he
    rcases List.mem_cons.mp he with rfl | he
    · exact ⟨_, _, rfl⟩
    · rw [List.mem_singleton.mp he]
      exact ⟨_, _, rfl⟩
  have same := h exampleConfig 2 3 (twoFlows 4) rfl ordinary (fwdKeyAt (exampleTcp6 4000 4))
    (fwdKeyAt (exampleTcp6 4001 20)) (openedVal (.ideal 1000 7) exampleDataplane 0xCB00710A 20001)
    (openedVal (.ideal 2000 9) exampleDataplane 0xCB00710A 20001) (by decide +kernel)
    (by decide +kernel) (by decide) rfl rfl
  exact absurd same (by decide)

/-- Nothing is evicted, no call fails after a session is opened, and the removals of the
callbacks succeed. -/
def System.FaultFree (s : System) : Event → Prop
  | .forward cpu skb k => ¬ FailsAfterOpening (s.forward cpu skb k).2.log
  | .reverse _ _ _ => True
  | .timer key k => (.fwdNatRemove, false) ∉ (s.timer key k).log ∧
      (.natRemove, false) ∉ (s.timer key k).log
  | .evictFwdNat _ | .evictNat _ => False

theorem System.FaultFree.resident {s : System} {e : Event} (h : s.FaultFree e) : ¬ e.evicts := by
  cases e <;> first | exact id | exact h.elim

theorem System.FaultFree.completes {s : System} {e : Event} (h : s.FaultFree e) :
    s.Completes e := by
  cases e with
  | forward cpu skb k => exact .inr h
  | timer key k => exact .inr h.1
  | _ => trivial

def System.Mirror (s : System) : Prop := sessions.Mirror s.maps.fwdNat s.maps.nat

theorem refresh_backed {m : Maps} {l : NatKey} {v : NatVal} {nowNs : UInt64}
    (h : sessions.Backed m.fwdNat m.nat) (entry : m.nat l = some v) :
    sessions.Backed (m.refresh l v nowNs).fwdNat (m.refresh l v nowNs).nat := by
  refine h.refresh fun l' b' hb' => ?_
  by_cases hl : l' = l
  · subst hl
    obtain rfl := Option.some.inj ((Maps.setNat_self ..).symm.trans hb')
    exact ⟨v, entry, fun _ _ hab => hab⟩
  · exact ⟨b', (Maps.setNat_of_ne _ _ _ hl).symm.trans hb', fun _ _ hab => hab⟩

/-- A session owns the reverse entry at its address. -/
theorem System.Covered.ownsReverse {s : System} (h : s.Covered) {key : FwdNatKey}
    {v : TimedFwdNatVal} (entry : s.maps.fwdNat key = some v) :
    ownsReverse s.maps.nat key v = true := by
  obtain ⟨b, hb, hab⟩ := h key v entry
  change ((s.maps.nat (sessions.addr key v)).any _) = true
  rw [hb, Option.any_some, beq_iff_eq]
  exact hab.2.2.2.2

/-- Every reverse entry keeps its session. -/
theorem mirror_step {s : System} {e : Event} (h : s.Mirror) (ok : s.FaultFree e) :
    (s.step e).Mirror := by
  refine ⟨covered_step h.1 ok.resident ok.completes, ?_⟩
  cases e with
  | forward cpu skb k =>
      change sessions.Backed (s.forward cpu skb k).2.maps.fwdNat (s.forward cpu skb k).2.maps.nat
      cases s.forward_maps cpu skb k with
      | idle maps => exact maps ▸ h.2
      | @touched v old maps log =>
          have same := v.sameTuple_seen k.now
          rw [maps]
          exact h.2.touch old (same.addr _) (same.agrees _)
      | @recorded v old maps =>
          have same := v.sameTuple_seen k.now
          have hseen := h.2.touch old (same.addr _) (same.agrees _)
          rw [maps, ← same.addr]
          exact hseen.record (Maps.setFwdNat_self ..) (agrees_fwdNatVal rfl k.now)
      | opened new pool port maps =>
          rw [maps]
          exact h.2.insert new (agrees_fwdNatVal rfl k.now)
      | orphaned maps incomplete log =>
          exact absurd (failsAfterOpening_of_log log) ok
  | reverse cpu skb k =>
      change sessions.Backed (s.reverse cpu skb k).2.maps.fwdNat (s.reverse cpu skb k).2.maps.nat
      cases s.reverse_maps cpu skb k with
      | idle maps => exact maps ▸ h.2
      | refreshed matched maps =>
          rw [maps]
          exact refresh_backed h.2 matched.entry
  | timer key k =>
      change sessions.Backed (s.timer key k).maps.fwdNat (s.timer key k).maps.nat
      cases timer_maps s key k with
      | idle maps => exact maps ▸ h.2
      | kept entry same maps =>
          rw [maps]
          exact h.2.touch entry (same.addr _) (same.agrees _)
      | forgotten entry maps =>
          rw [maps]
          exact (Pairing.Mirror.remove h entry).2
      | erased entry maps cause =>
          rcases cause with disowned | failed
          · have covered : s.Covered := h.1
            exact absurd (disowned.symm.trans (covered.ownsReverse entry)) Bool.false_ne_true
          · exact absurd failed ok.2
      | severed entry maps insert remove log => exact absurd log ok.1
  | evictFwdNat key => exact ok.elim
  | evictNat key => exact ok.elim

/-- The external tuples are those the configuration hands out. -/
def System.Assigned (cfg : Nat64Config) (s : System) : Prop :=
  s.maps.config = some cfg ∧ ∀ key v, s.maps.fwdNat key = some v → cfg.Assigns v

theorem assigned_step {cfg : Nat64Config} {s : System} {e : Event} (h : s.Assigned cfg)
    (completes : s.Completes e) : (s.step e).Assigned cfg := by
  refine ⟨(step_config s e).trans h.1, fun key w entry => ?_⟩
  rcases fwdNat_step entry completes with ⟨v, old, same⟩ | ⟨-, assigns⟩
  · exact same.assigns (h.2 key v old)
  · rw [h.1, Option.getD_some] at assigns
    exact assigns

/-- Over a run without faults after a session is opened, every forward entry has its reverse
entry at its external tuple, which is one the configuration hands out, and every reverse
entry has exactly one forward entry. -/
theorem sessions_mirror {cfg : Nat64Config} {es : List Event}
    (run : Along System.step System.FaultFree (System.initial cfg) es) :
    (∀ key v, (dataplane cfg es).maps.fwdNat key = some v →
      (∃ b, (dataplane cfg es).maps.nat (natKey v.extV4 v.extPort key.proto) = some b ∧
        b.vmV6 = key.vmV6 ∧ b.vmPort = key.vmPort ∧ b.remoteV4 = key.remoteV4 ∧
        b.remotePort = key.remotePort ∧ b.generation = v.generation) ∧
      v.extV4 ∈ cfg.pool ∧ cfg.portMin ≤ v.extPort ∧ v.extPort ≤ cfg.portMax) ∧
    ∀ l b, (dataplane cfg es).maps.nat l = some b →
      ∃! key : FwdNatKey, ∃ v, (dataplane cfg es).maps.fwdNat key = some v ∧
        natKey v.extV4 v.extPort key.proto = l ∧ b.vmV6 = key.vmV6 ∧ b.vmPort = key.vmPort ∧
        b.remoteV4 = key.remoteV4 ∧ b.remotePort = key.remotePort ∧
        b.generation = v.generation := by
  have mirror : (dataplane cfg es).Mirror :=
    invariant (fun _ _ h ok => mirror_step h ok) sessions.mirror_empty run
  have assigned : (dataplane cfg es).Assigned cfg :=
    invariant (fun _ _ h ok => assigned_step h ok.completes)
      ⟨rfl, fun _ _ h => absurd h (Option.some_ne_none _).symm⟩ run
  refine ⟨fun key v entry => ⟨mirror.1 key v entry, assigned.2 key v entry⟩, fun l b hb => ?_⟩
  exact Pairing.Mirror.existsUnique mirror hb

theorem sessions_mirror_exchange :
    ∃ b, (dataplane exampleDataplane exampleExchange).maps.nat
        (natKey 0xCB00710A 20001 IPPROTO_TCP) = some b ∧
      b.vmV6 = exampleClient ∧ b.vmPort = 4000 ∧ b.remoteV4 = exampleServer := by
  have clean : Clean ((System.initial exampleDataplane).forward 0 (exampleTcp6 4000 20)
      (.ideal 1000 7)).2.log := by
    decide +kernel
  have run : Along System.step System.FaultFree (System.initial exampleDataplane) exampleExchange :=
    ⟨clean.not_failsAfterOpening, trivial, trivial⟩
  have entry : (dataplane exampleDataplane exampleExchange).maps.fwdNat
      (fwdKeyAt (exampleTcp6 4000 20)) =
      some (openedVal (.ideal 1000 7) exampleDataplane 0xCB00710A 20001) := by decide +kernel
  obtain ⟨⟨b, hb, client, port, remote, -⟩, -⟩ := (sessions_mirror run).1 _ _ entry
  exact ⟨b, hb, client, port, remote⟩

end Natto64
