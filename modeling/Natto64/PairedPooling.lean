import Mathlib.Algebra.Order.BigOperators.Group.Finset
import Mathlib.Data.Set.Card
import Natto64.InboundFiltering

/-!
# Paired pooling

Every client has one external address, whatever fails or is evicted: no entry of either
map and no source of a translated packet pairs it with another, or leaves the port range.
So the reverse map never outgrows the pool.
-/
namespace Natto64
open EventRun

/-- An external tuple the client may have: at the address its own address selects. -/
structure Nat64Config.Grants (cfg : Nat64Config) (vmV6 : Ipv6Octets) (l : NatKey) : Prop where
  address : selectV4FromPoolEbpf vmV6 cfg = some l.extV4
  portMin : cfg.portMin ≤ l.extPort
  portMax : l.extPort ≤ cfg.portMax
  proto : l.proto = IPPROTO_TCP ∨ l.proto = IPPROTO_UDP

structure System.Pooled (cfg : Nat64Config) (s : System) : Prop where
  config : s.maps.config = some cfg
  fwdNat : ∀ key v, s.maps.fwdNat key = some v → cfg.Grants key.vmV6 (sessions.addr key v)
  nat : ∀ l b, s.maps.nat l = some b → cfg.Grants b.vmV6 l

theorem pooled_initial (cfg : Nat64Config) : (System.initial cfg).Pooled cfg :=
  ⟨rfl, fun _ _ h => absurd h (Option.some_ne_none _).symm,
    fun _ _ h => absurd h (Option.some_ne_none _).symm⟩

section Packet
variable {k : Kernel} {cfg : Nat64Config} {m : Machine} {extV4 : UInt32}
  {r : Option (UInt32 × UInt16 × UInt32)} {s : Maps} {l : Calls}

/-- A newly allocated tuple is the client's. -/
theorem grants_portFor {cfg : Nat64Config} {skb : List UInt8}
    (admitted : FwdAdmitted cfg skb extV4) {nat : NatKey → Option NatVal} {cpu : CpuMaps}
    {port : UInt16} (h : portFor cfg nat cpu extV4 (u8At skb 20) = some port) :
    cfg.Grants (fwdKeyAt skb).vmV6 (natKey extV4 port (u8At skb 20)) :=
  ⟨admitted.pool, (portFor_spec h).1, (portFor_spec h).2.1, admitted.proto⟩

/-- The entries stay the clients', and so is a tuple that is returned. -/
theorem FwdMapped.grants (h : FwdMapped k m extV4 r s l) (hcfg : m.maps.config = some cfg)
    (fwdNat : ∀ key v, m.maps.fwdNat key = some v → cfg.Grants key.vmV6 (sessions.addr key v)) :
    (∀ key v, s.fwdNat key = some v → cfg.Grants key.vmV6 (sessions.addr key v)) ∧
      ∀ t, r = some t → cfg.Grants (fwdKeyAt m.skb).vmV6 (natKey t.1 t.2.1 (u8At m.skb 20)) := by
  have admitted := h.admitted
  have mapping := h.mapping
  rw [hcfg, Option.getD_some] at admitted mapping
  have inserted : ∀ w : TimedFwdNatVal, cfg.Grants (fwdKeyAt m.skb).vmV6
        (natKey w.extV4 w.extPort (u8At m.skb 20)) →
      ∀ key v, (m.maps.setFwdNat (fwdKeyAt m.skb) (some w)).fwdNat key = some v →
        cfg.Grants key.vmV6 (sessions.addr key v) := by
    intro w granted key v entry
    rcases entry_of_set entry with ⟨rfl, rfl⟩ | stays
    · exact granted
    · exact fwdNat key v stays
  cases mapping with
  | @hit v old =>
      have granted := fwdNat _ _ old
      refine ⟨inserted _ granted, ?_⟩
      rintro t ⟨⟩
      exact granted
  | refused new cause => exact ⟨fwdNat, nofun⟩
  | stuck new port_eq inserts cause after =>
      exact ⟨inserted _ (grants_portFor admitted port_eq), nofun⟩
  | created new port_eq inserts armed after =>
      have granted := grants_portFor admitted port_eq
      refine ⟨inserted _ granted, ?_⟩
      rintro t ⟨⟩
      exact granted

end Packet

/-- A callback gives no entry another tuple. -/
theorem timer_entry {s : System} {key key' : FwdNatKey} {k : Kernel} {w : TimedFwdNatVal}
    (entry : (s.timer key k).maps.fwdNat key' = some w) :
    ∃ v, s.maps.fwdNat key' = some v ∧ v.SameTuple w := by
  have found : ∀ w, (s.timerMachine key).maps.fwdNat key' = some w →
      ∃ v, s.maps.fwdNat key' = some v ∧ v.SameTuple w := by
    intro w hw
    by_cases hkey : key' = key
    · subst hkey
      obtain ⟨v, hv, rfl⟩ := timerMachine_entry hw
      exact ⟨v, hv, rfl, rfl, rfl⟩
    · exact ⟨w, (Maps.setFwdNat_of_ne _ _ _ hkey).symm.trans hw, .refl w⟩
  have hcase := timer_case s key k
  generalize s.timer key k = m' at hcase entry
  cases hcase with
  | skipped cause => exact found w entry
  | active old on recent maps | observed old on quiet fresh maps =>
      rw [maps] at entry
      rcases entry_of_set entry with ⟨rfl, rfl⟩ | stays
      · obtain ⟨v, hv, same⟩ := found _ old
        exact ⟨v, hv, same.trans ⟨rfl, rfl, rfl⟩⟩
      · exact found w stays
  | expired old on quiet confirmed maps =>
      refine found w ?_
      rw [maps, Maps.expire] at entry
      split at entry
      · exact entry_of_removed entry
      · exact entry

section Steps
variable {cfg : Nat64Config} {s : System}

theorem forward_pooled (h : s.Pooled cfg) (cpu : Nat) (skb : List UInt8) (k : Kernel) :
    (s.step (.forward cpu skb k)).Pooled cfg := by
  refine ⟨(step_config s _).trans h.config, fun key v entry => ?_, fun l b record => ?_⟩
  · change (s.forward cpu skb k).2.maps.fwdNat key = some v at entry
    have hcase := nat64Forward_case k (s.machine cpu skb)
    change ForwardCase k _ (s.forward cpu skb k) at hcase
    generalize s.forward cpu skb k = z at hcase entry
    cases hcase with
    | passed cause same =>
        have entry : _ = some v := (congrArg (fun m => m.fwdNat key) same.2.1).symm.trans entry
        exact h.fwdNat key v entry
    | cut admitted tcp change cause length maps log =>
        have entry : _ = some v := (congrArg (fun m => m.fwdNat key) maps.1).symm.trans entry
        exact h.fwdNat key v entry
    | unmapped mapped maps | dropped mapped maps =>
        rw [maps] at entry
        exact (mapped.grants h.config h.fwdNat).1 key v entry
    | @translated m' _ t s' _ csum mapped change within chain skb maps =>
        have hfwd : m'.maps.fwdNat = s'.fwdNat := by
          rw [maps]
          split <;> rfl
        rw [hfwd] at entry
        exact (mapped.grants h.config h.fwdNat).1 key v entry
  · change (s.forward cpu skb k).2.maps.nat l = some b at record
    by_cases piped : (s.forward cpu skb k).1 = .pipe
    · have hnat : (s.forward cpu skb k).2.maps.nat = s.maps.nat := forward_piped_nat piped
      rw [hnat] at record
      exact h.nat l b record
    obtain ⟨extV4, t, s', calls, csum, mapped, within, hskb, hmaps⟩ := forward_rewritten piped
    have hold : s'.nat = s.maps.nat := mapped.mapping.nat_eq
    change (s.forward cpu skb k).2.maps = _ at hmaps
    rw [hmaps] at record
    split at record
    · by_cases hl : l = natKey t.1 t.2.1 (u8At (s.machine cpu skb).skb 20)
      · subst hl
        obtain rfl := Option.some.inj ((Maps.setNat_self ..).symm.trans record)
        exact (mapped.grants h.config h.fwdNat).2 t rfl
      · rw [Maps.setNat_of_ne _ _ _ hl, hold] at record
        exact h.nat l b record
    · rw [hold] at record
      exact h.nat l b record

theorem pooled_step (h : s.Pooled cfg) (e : Event) : (s.step e).Pooled cfg := by
  cases e with
  | forward cpu skb k => exact forward_pooled h cpu skb k
  | reverse cpu skb k =>
      refine ⟨(step_config s _).trans h.config, ?_, ?_⟩
      · intro key v entry
        change (s.reverse cpu skb k).2.maps.fwdNat key = some v at entry
        cases s.reverse_maps cpu skb k with
        | idle maps | refreshed _ maps =>
            rw [maps] at entry
            exact h.fwdNat key v entry
      · intro l b record
        change (s.reverse cpu skb k).2.maps.nat l = some b at record
        cases s.reverse_maps cpu skb k with
        | idle maps =>
            rw [maps] at record
            exact h.nat l b record
        | @refreshed w matched maps =>
            rw [maps] at record
            by_cases hl : l = revKeyAt (s.machine cpu skb).skb
            · subst hl
              obtain rfl := Option.some.inj ((Maps.setNat_self ..).symm.trans record)
              exact h.nat _ w matched.entry
            · rw [Maps.refresh, Maps.setNat_of_ne _ _ _ hl] at record
              exact h.nat l b record
  | timer key k =>
      refine ⟨(step_config s _).trans h.config, ?_, ?_⟩
      · intro key' w entry
        obtain ⟨v, old, same⟩ := timer_entry entry
        rw [same.addr]
        exact h.fwdNat key' v old
      · intro l b record
        change (s.timer key k).maps.nat l = some b at record
        cases timer_maps s key k with
        | idle maps | kept _ _ maps | erased _ maps =>
            rw [maps] at record
            exact h.nat l b record
        | forgotten _ maps | severed _ maps =>
            rw [maps] at record
            exact h.nat l b (record_of_removed record)
  | evictFwdNat key => exact ⟨h.config, fun key' v entry => h.fwdNat key' v
      (entry_of_removed entry), h.nat⟩
  | evictNat key => exact ⟨h.config, h.fwdNat, fun l b record => h.nat l b
      (record_of_removed record)⟩

end Steps

theorem dataplane_pooled (cfg : Nat64Config) (es : List Event) : (dataplane cfg es).Pooled cfg :=
  run_history (I := fun _ s => System.Pooled cfg s) (pooled_initial cfg)
    (fun _ e h => pooled_step h e) es

/-- The event translates no packet, or one whose source its client may have. -/
def System.SendsGranted (cfg : Nat64Config) (s : System) : Event → Prop
  | .forward cpu skb k => (s.forward cpu skb k).1 ≠ .pipe →
      cfg.Grants (v6At skb 22) (natKey (ipv4TupleAt (s.forward cpu skb k).2.skb).src
        (ipv4TupleAt (s.forward cpu skb k).2.skb).sport
        (ipv4TupleAt (s.forward cpu skb k).2.skb).proto)
  | _ => True

theorem sends_granted {cfg : Nat64Config} {s : System} (h : s.Pooled cfg) (e : Event) :
    s.SendsGranted cfg e := by
  cases e with
  | forward cpu skb k =>
      intro rewritten
      obtain ⟨extV4, t, s', calls, csum, mapped, within, hskb, -⟩ := forward_rewritten rewritten
      have htuple : ipv4TupleAt (s.forward cpu skb k).2.skb = _ :=
        (congrArg ipv4TupleAt hskb).trans (fwdFrame_tuple within)
      rw [htuple]
      exact (mapped.grants h.config h.fwdNat).2 t rfl
  | reverse cpu skb k => trivial
  | timer key k => trivial
  | evictFwdNat key => trivial
  | evictNat key => trivial

/-- Whatever fails or is evicted in a run, each client's sessions, the reverse entries of its
sessions and the sources of its translated packets are at the one external address its own
address selects from the pool, at ports of the range. -/
theorem paired_pooling (cfg : Nat64Config) (es : List Event) :
    (∀ key v, (dataplane cfg es).maps.fwdNat key = some v →
      cfg.Grants key.vmV6 (natKey v.extV4 v.extPort key.proto)) ∧
    (∀ l b, (dataplane cfg es).maps.nat l = some b → cfg.Grants b.vmV6 l) ∧
    Along System.step (System.SendsGranted cfg) (System.initial cfg) es := by
  refine ⟨(dataplane_pooled cfg es).fwdNat, (dataplane_pooled cfg es).nat, ?_⟩
  refine along_iff_split.mpr fun before e after _ => ?_
  exact sends_granted (dataplane_pooled cfg before) e

section Capacity
variable (cfg : Nat64Config)

/-- The number of ports of the range. -/
def Nat64Config.portCount : Nat := cfg.portMax.toNat + 1 - cfg.portMin.toNat

/-- The tuples at an address. -/
def Nat64Config.tuplesAt (a : UInt32) : Finset NatKey :=
  (Finset.range cfg.portCount ×ˢ {IPPROTO_TCP, IPPROTO_UDP}).image fun x =>
    natKey a (UInt16.ofNat (cfg.portMin.toNat + x.1)) x.2

theorem card_tuplesAt (a : UInt32) : (cfg.tuplesAt a).card ≤ 2 * cfg.portCount := by
  refine Finset.card_image_le.trans ?_
  rw [Finset.card_product, Finset.card_range, Nat.mul_comm]
  exact Nat.mul_le_mul_right _ (Finset.card_le_two)

/-- The tuples at an address and port. -/
def bothProtocols (a : UInt32) (p : UInt16) : Finset NatKey :=
  {natKey a p IPPROTO_TCP, natKey a p IPPROTO_UDP}

variable {cfg}

theorem Nat64Config.Grants.mem_bothProtocols {vmV6 : Ipv6Octets} {l : NatKey}
    (h : cfg.Grants vmV6 l) : l ∈ bothProtocols l.extV4 l.extPort := by
  obtain ⟨extV4, extPort, proto⟩ := l
  rw [bothProtocols, Finset.mem_insert, Finset.mem_singleton]
  rcases h.proto with tcp | udp
  · exact .inl (congrArg (natKey extV4 extPort) tcp)
  · exact .inr (congrArg (natKey extV4 extPort) udp)

theorem Nat64Config.Grants.mem_tuplesAt {vmV6 : Ipv6Octets} {l : NatKey} (h : cfg.Grants vmV6 l) :
    l ∈ cfg.tuplesAt l.extV4 := by
  obtain ⟨extV4, extPort, proto⟩ := l
  have hmin : cfg.portMin.toNat ≤ extPort.toNat := UInt16.le_iff_toNat_le.mp h.portMin
  have hmax : extPort.toNat ≤ cfg.portMax.toNat := UInt16.le_iff_toNat_le.mp h.portMax
  have hproto : proto ∈ ({IPPROTO_TCP, IPPROTO_UDP} : Finset UInt8) := by
    rw [Finset.mem_insert, Finset.mem_singleton]
    exact h.proto
  refine Finset.mem_image.mpr ⟨(extPort.toNat - cfg.portMin.toNat, proto), ?_, ?_⟩
  · refine Finset.mem_product.mpr ⟨Finset.mem_range.mpr ?_, hproto⟩
    change _ < cfg.portMax.toNat + 1 - cfg.portMin.toNat
    omega
  · have hport : UInt16.ofNat (cfg.portMin.toNat + (extPort.toNat - cfg.portMin.toNat)) =
        extPort := by
      rw [Nat.add_sub_cancel' hmin, UInt16.ofNat_toNat]
    exact congrArg (fun p => natKey extV4 p proto) hport

/-- The reverse map holds entries only at addresses of the pool and ports of the range, at most two
at each of them, whatever fails or is evicted. -/
theorem reverse_map_bounded (cfg : Nat64Config) (es : List Event) :
    (∀ l, (dataplane cfg es).maps.nat l ≠ none → l.extV4 ∈ cfg.pool ∧ cfg.portMin ≤ l.extPort ∧
      l.extPort ≤ cfg.portMax ∧ (l.proto = IPPROTO_TCP ∨ l.proto = IPPROTO_UDP)) ∧
    (∀ a p, {l : NatKey | l.extV4 = a ∧ l.extPort = p ∧
      (dataplane cfg es).maps.nat l ≠ none}.ncard ≤ 2) ∧
    (∀ a, {l : NatKey | l.extV4 = a ∧ (dataplane cfg es).maps.nat l ≠ none}.ncard ≤
      2 * cfg.portCount) ∧
    {l : NatKey | (dataplane cfg es).maps.nat l ≠ none}.Finite ∧
    {l : NatKey | (dataplane cfg es).maps.nat l ≠ none}.ncard ≤
      cfg.pool.length * (2 * cfg.portCount) := by
  have granted : ∀ l, (dataplane cfg es).maps.nat l ≠ none → ∃ vmV6, cfg.Grants vmV6 l := by
    intro l hl
    obtain ⟨b, hb⟩ := Option.ne_none_iff_exists'.mp hl
    exact ⟨b.vmV6, (dataplane_pooled cfg es).nat l b hb⟩
  have within : {l : NatKey | (dataplane cfg es).maps.nat l ≠ none} ⊆
      ↑(cfg.pool.toFinset.biUnion cfg.tuplesAt) := by
    intro l hl
    obtain ⟨vmV6, grants⟩ := granted l hl
    refine Finset.mem_coe.mpr (Finset.mem_biUnion.mpr ⟨l.extV4, ?_, grants.mem_tuplesAt⟩)
    exact List.mem_toFinset.mpr (selectV4FromPoolEbpf_mem grants.address)
  refine ⟨fun l hl => ?_, fun a p => ?_, fun a => ?_,
    Set.Finite.subset (Finset.finite_toSet _) within, ?_⟩
  · obtain ⟨vmV6, grants⟩ := granted l hl
    exact ⟨selectV4FromPoolEbpf_mem grants.address, grants.portMin, grants.portMax, grants.proto⟩
  · have hsub : {l : NatKey | l.extV4 = a ∧ l.extPort = p ∧ (dataplane cfg es).maps.nat l ≠ none} ⊆
        ↑(bothProtocols a p) := by
      rintro l ⟨rfl, rfl, hl⟩
      obtain ⟨vmV6, grants⟩ := granted l hl
      exact grants.mem_bothProtocols
    calc _ ≤ (↑(bothProtocols a p) : Set NatKey).ncard := Set.ncard_le_ncard hsub
      _ = (bothProtocols a p).card := Set.ncard_coe_finset _
      _ ≤ 2 := Finset.card_le_two
  · have hsub : {l : NatKey | l.extV4 = a ∧ (dataplane cfg es).maps.nat l ≠ none} ⊆
        ↑(cfg.tuplesAt a) := by
      rintro l ⟨rfl, hl⟩
      obtain ⟨vmV6, grants⟩ := granted l hl
      exact grants.mem_tuplesAt
    calc _ ≤ (↑(cfg.tuplesAt a) : Set NatKey).ncard := Set.ncard_le_ncard hsub
      _ = (cfg.tuplesAt a).card := Set.ncard_coe_finset _
      _ ≤ 2 * cfg.portCount := card_tuplesAt cfg a
  · calc _ ≤ (↑(cfg.pool.toFinset.biUnion cfg.tuplesAt) : Set NatKey).ncard :=
          Set.ncard_le_ncard within
      _ = (cfg.pool.toFinset.biUnion cfg.tuplesAt).card := Set.ncard_coe_finset _
      _ ≤ cfg.pool.toFinset.card * (2 * cfg.portCount) :=
          Finset.card_biUnion_le_card_mul _ _ _ fun a _ => card_tuplesAt cfg a
      _ ≤ cfg.pool.length * (2 * cfg.portCount) :=
          Nat.mul_le_mul_right _ (List.toFinset_card_le _)

end Capacity

end Natto64
