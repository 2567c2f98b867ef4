import Natto64.ReturnPackets
import Natto64.SessionSteps

/-!
# Inbound filtering

Every reverse entry was written by a forward packet of its flow, whatever failed or was
evicted since; so only answers to forwarded packets are delivered.
-/
namespace Natto64
open EventRun Octets

/-- The event is a forward packet from the client of `v` to its remote end that was
rewritten with the source `l`. -/
def Forwarded (cfg : Nat64Config) (l : NatKey) (v : NatVal) (s : System) (e : Event) : Prop :=
  ∃ cpu skb k, e = .forward cpu skb k ∧ (s.forward cpu skb k).1 ≠ .pipe ∧
    be16At skb 12 = ETH_P_IPV6 ∧
    ipv6TupleAt skb =
      ⟨v.vmV6, v.vmPort, underPrefix cfg.prefix96 v.remoteV4, v.remotePort, l.proto⟩ ∧
    be16At (s.forward cpu skb k).2.skb 12 = ETH_P_IP ∧
    ipv4TupleAt (s.forward cpu skb k).2.skb =
      ⟨l.extV4, l.extPort, v.remoteV4, v.remotePort, l.proto⟩

theorem Forwarded.of_untimed {cfg : Nat64Config} {l : NatKey} {v v' : NatVal}
    (h : v'.untimed = v.untimed) {s : System} {e : Event} (hf : Forwarded cfg l v s e) :
    Forwarded cfg l v' s e := by
  obtain ⟨vmV6, vmPort, remoteV4, remotePort, generation, lastSeenNs⟩ := v
  obtain ⟨_, _, _, _, _, _⟩ := v'
  simp only [NatVal.untimed, NatVal.mk.injEq] at h
  obtain ⟨rfl, rfl, rfl, rfl, -⟩ := h
  exact hf

theorem MappingCase.nat_eq {k : Kernel} {cfg : Nat64Config} {key : FwdNatKey} {extV4 : UInt32}
    {proto : UInt8} {nowNs : UInt64} {s s' : Maps} {cpu : CpuMaps}
    {r : Option (UInt32 × UInt16 × UInt32)} {l : Calls}
    (h : MappingCase k cfg key extV4 proto nowNs s cpu r s' l) : s'.nat = s.nat := by
  cases h <;> rfl

/-- A packet handed back to the stack writes no reverse entry. -/
theorem forward_piped_nat {k : Kernel} {m : Machine} (h : (k.exec nat64Forward m).1 = .pipe) :
    (k.exec nat64Forward m).2.maps.nat = m.maps.nat := by
  have hcase := nat64Forward_case k m
  generalize k.exec nat64Forward m = z at h hcase ⊢
  cases hcase with
  | passed cause same => rw [same.2.1]
  | cut admitted tcp change cause length maps => rw [maps.1]
  | unmapped mapped maps => rw [maps, mapped.mapping.nat_eq]
  | dropped mapped maps => rw [maps, mapped.mapping.nat_eq]
  | translated => exact absurd h (redirected_ne_pipe _ _)

/-- A reverse entry a forward packet leaves was there before, or is of that packet. -/
theorem forward_nat {cfg : Nat64Config} {s : System} {cpu : Nat} {skb : List UInt8} {k : Kernel}
    (hcfg : s.maps.config = some cfg) {l : NatKey} {v : NatVal}
    (entry : (s.forward cpu skb k).2.maps.nat l = some v) :
    s.maps.nat l = some v ∨ Forwarded cfg l v s (.forward cpu skb k) := by
  by_cases piped : (s.forward cpu skb k).1 = .pipe
  · have hnat : (s.forward cpu skb k).2.maps.nat = s.maps.nat := forward_piped_nat piped
    rw [hnat] at entry
    exact .inl entry
  obtain ⟨extV4, t, s', calls, csum, mapped, within, hskb, hmaps⟩ := forward_rewritten piped
  have hold : s'.nat = s.maps.nat := mapped.mapping.nat_eq
  change (s.forward cpu skb k).2.maps = _ at hmaps
  rw [hmaps] at entry
  split at entry
  · by_cases hl : l = natKey t.1 t.2.1 (u8At (s.machine cpu skb).skb 20)
    · subst hl
      obtain rfl := Option.some.inj ((Maps.setNat_self ..).symm.trans entry)
      have hoff := six_le_csumFieldOff (u8At skb 20)
      have h12 : 12 ≤ skb.length :=
        (by omega : 12 ≤ 54 + csumFieldOff (u8At skb 20) + 2).trans within
      have hprefix : (v6At skb 38).toList.take 12 =
          (s.maps.config.getD DEFAULT_CFG).prefix96.toList := mapped.admitted.prefix96
      rw [hcfg, Option.getD_some] at hprefix
      have hdst := (underPrefix_embedded_iff cfg.prefix96 (v6At skb 38)).mpr hprefix
      refine .inr ⟨cpu, skb, k, rfl, piped, mapped.admitted.etherType, ?_, ?_, ?_⟩
      · exact congrArg (fun dst => Ipv6Tuple.mk _ _ dst _ _) hdst.symm
      · rw [System.forward, hskb]
        exact fwdFrame_etherType h12
      · rw [System.forward, hskb]
        exact fwdFrame_tuple within
    · rw [Maps.setNat_of_ne _ _ _ hl, hold] at entry
      exact .inl entry
  · rw [hold] at entry
    exact .inl entry

/-- The same for every event. -/
theorem nat_step {cfg : Nat64Config} {s : System} {e : Event} (hcfg : s.maps.config = some cfg)
    {l : NatKey} {v : NatVal} (entry : (s.step e).maps.nat l = some v) :
    (∃ w, s.maps.nat l = some w ∧ v.untimed = w.untimed) ∨ Forwarded cfg l v s e := by
  cases e with
  | forward cpu skb k => exact (forward_nat hcfg entry).imp_left fun old => ⟨v, old, rfl⟩
  | reverse cpu skb k =>
      change (s.reverse cpu skb k).2.maps.nat l = some v at entry
      refine .inl ?_
      cases s.reverse_maps cpu skb k with
      | idle maps =>
          rw [maps] at entry
          exact ⟨v, entry, rfl⟩
      | @refreshed w matched maps =>
          rw [maps] at entry
          by_cases hl : l = revKeyAt (s.machine cpu skb).skb
          · subst hl
            obtain rfl := Option.some.inj ((Maps.setNat_self ..).symm.trans entry)
            exact ⟨w, matched.entry, rfl⟩
          · rw [Maps.refresh, Maps.setNat_of_ne _ _ _ hl] at entry
            exact ⟨v, entry, rfl⟩
  | timer key k =>
      change (s.timer key k).maps.nat l = some v at entry
      refine .inl ⟨v, ?_, rfl⟩
      cases timer_maps s key k with
      | idle maps | kept _ _ maps | erased _ maps =>
          rw [maps] at entry
          exact entry
      | forgotten _ maps | severed _ maps =>
          rw [maps] at entry
          exact record_of_removed entry
  | evictFwdNat key => exact .inl ⟨v, entry, rfl⟩
  | evictNat key => exact .inl ⟨v, record_of_removed entry, rfl⟩

/-- Every reverse entry has a forward packet in the past. -/
def Justified (cfg : Nat64Config) (past : List Event) (s : System) : Prop :=
  s.maps.config = some cfg ∧ ∀ l v, s.maps.nat l = some v →
    Happened System.step (Forwarded cfg l v) (System.initial cfg) past

theorem justified_run (cfg : Nat64Config) (es : List Event) :
    Justified cfg es (dataplane cfg es) := by
  refine run_history ⟨rfl, fun l v h => absurd h (Option.some_ne_none _).symm⟩ ?_ es
  rintro past e ⟨hcfg, hpast⟩
  refine ⟨(step_config _ e).trans hcfg, fun l v entry => ?_⟩
  rcases nat_step hcfg entry with ⟨w, old, same⟩ | now
  · exact ((hpast l w old).mono fun _ _ => Forwarded.of_untimed same).concat e
  · exact happened_last now

/-- In any run from empty maps, a packet delivered to a client answers a packet of that
client which was forwarded before, with the same source and destination exchanged. -/
theorem delivered_answers_forwarded (cfg : Nat64Config) (es : List Event) (cpu : Nat)
    (skb : List UInt8) (k : Kernel)
    (redirect : ((dataplane cfg es).reverse cpu skb k).1 = .redirect) :
    (ipv4TupleAt skb).dst ∈ cfg.pool ∧
      (ipv6TupleAt ((dataplane cfg es).reverse cpu skb k).2.skb).proto = (ipv4TupleAt skb).proto ∧
      ∃ past cpu' skb' k' rest, es = past ++ .forward cpu' skb' k' :: rest ∧
        ((dataplane cfg past).forward cpu' skb' k').1 ≠ .pipe ∧
        be16At skb' 12 = ETH_P_IPV6 ∧
        ipv6TupleAt skb' =
          { src := (ipv6TupleAt ((dataplane cfg es).reverse cpu skb k).2.skb).dst
            sport := (ipv6TupleAt ((dataplane cfg es).reverse cpu skb k).2.skb).dport
            dst := underPrefix cfg.prefix96 (ipv4TupleAt skb).src
            dport := (ipv4TupleAt skb).sport
            proto := (ipv4TupleAt skb).proto } ∧
        be16At ((dataplane cfg past).forward cpu' skb' k').2.skb 12 = ETH_P_IP ∧
        ipv4TupleAt ((dataplane cfg past).forward cpu' skb' k').2.skb =
          { src := (ipv4TupleAt skb).dst
            sport := (ipv4TupleAt skb).dport
            dst := (ipv4TupleAt skb).src
            dport := (ipv4TupleAt skb).sport
            proto := (ipv4TupleAt skb).proto } := by
  obtain ⟨hcfg, hpast⟩ := justified_run cfg es
  obtain ⟨v, csum, matched, within, hskb, -⟩ := reverse_rewritten (redirect_ne_pipe redirect)
  have hpool : v4InPool (be32At skb 30) ((dataplane cfg es).maps.config.getD DEFAULT_CFG) = true :=
    matched.admitted.pool
  rw [hcfg, Option.getD_some] at hpool
  have hout : ipv6TupleAt ((dataplane cfg es).reverse cpu skb k).2.skb = _ :=
    (congrArg ipv6TupleAt hskb).trans (revFrame_tuple within)
  have hremote : v.remoteV4 = be32At skb 26 := matched.remoteV4
  have hport : v.remotePort = be16At skb (14 + ihlAt skb) := matched.remotePort
  refine ⟨(v4InPool_iff.mp hpool).2, by rw [hout]; rfl, ?_⟩
  obtain ⟨past, e, rest, hes, cpu', skb', k', rfl, piped, hin, htuple, hether, hsource⟩ :=
    hpast _ v matched.entry
  rw [hremote, hport] at htuple hsource
  refine ⟨past, cpu', skb', k', rest, hes, piped, hin, ?_, hether, hsource⟩
  rw [hout]
  exact htuple

theorem delivered_answers_forwarded_exchange :
    0xCB00710A ∈ exampleDataplane.pool ∧
      ∃ past cpu skb k rest, [Event.forward 0 (exampleTcp6 4000 20) (.ideal 1000 7)] =
        past ++ .forward cpu skb k :: rest ∧ (ipv6TupleAt skb).src = exampleClient := by
  have redirect : ((dataplane exampleDataplane
      [.forward 0 (exampleTcp6 4000 20) (.ideal 1000 7)]).reverse 1 (exampleTcp4 20001 [])
        (.ideal 2000 8)).1 = .redirect := by decide +kernel
  obtain ⟨pool, -, past, cpu, skb, k, rest, hes, -, -, htuple, -⟩ :=
    delivered_answers_forwarded _ _ _ _ _ redirect
  refine ⟨pool, past, cpu, skb, k, rest, hes, ?_⟩
  rw [htuple]
  decide +kernel

end Natto64
