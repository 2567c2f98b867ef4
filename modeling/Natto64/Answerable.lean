import Natto64.ExternalTuples
import Natto64.FrameFields

/-!
# Answers to a redirected packet

A redirected forward packet can be answered when both maps record its flow at the source
it leaves with. The TCP branch drops a packet whose reverse entry cannot be stored, the
UDP branch redirects it all the same.
-/
namespace Natto64

/-- Both maps record the flow at the external tuple, with one generation. -/
def Maps.Records (s : Maps) (key : FwdNatKey) (extV4 : UInt32) (extPort : UInt16) : Prop :=
  ∃ v b, s.fwdNat key = some v ∧ v.extV4 = extV4 ∧ v.extPort = extPort ∧
    s.nat (natKey extV4 extPort key.proto) = some b ∧ sessions.Agrees key v b

/-- The flow had its reverse entry before. -/
def Maps.Recorded (s : Maps) (key : FwdNatKey) : Prop :=
  ∃ v b, s.fwdNat key = some v ∧ s.nat (sessions.addr key v) = some b ∧ sessions.Agrees key v b

section Mapping
variable {k : Kernel} {cfg : Nat64Config} {key : FwdNatKey} {extV4 : UInt32} {proto : UInt8}
  {nowNs : UInt64} {s s' : Maps} {cpu : CpuMaps} {t : UInt32 × UInt16 × UInt32} {l : Calls}

/-- The new reverse entry completes the record. -/
theorem MappingCase.records_stored
    (h : MappingCase k cfg key extV4 proto nowNs s cpu (some t) s' l) (now : UInt64) :
    (s'.setNat (natKey t.1 t.2.1 key.proto) (some (fwdNatVal key t.2.2 now))).Records key t.1
      t.2.1 := by
  obtain ⟨w, hw, hext, hport, hgeneration⟩ := h.entry
  exact ⟨w, fwdNatVal key t.2.2 now, hw, hext, hport, Maps.setNat_self ..,
    rfl, rfl, rfl, rfl, hgeneration.symm⟩

/-- Without it, the flow is recorded if it was before. -/
theorem MappingCase.records_iff
    (h : MappingCase k cfg key extV4 key.proto nowNs s cpu (some t) s' l) :
    s'.Records key t.1 t.2.1 ↔ s.Recorded key := by
  cases h with
  | @hit v old =>
    constructor
    · rintro ⟨w, b, hw, -, -, hb, agrees⟩
      rw [Maps.setFwdNat_self] at hw
      obtain rfl := Option.some.inj hw
      exact ⟨v, b, old, hb, agrees⟩
    · rintro ⟨w, b, hw, hb, agrees⟩
      obtain rfl := Option.some.inj (old.symm.trans hw)
      exact ⟨_, b, Maps.setFwdNat_self .., rfl, rfl, hb, agrees⟩
  | @created port l new port_eq inserts armed after =>
    constructor
    · rintro ⟨w, b, -, -, -, hb, -⟩
      obtain ⟨-, -, unused⟩ := portFor_spec port_eq
      rw [Maps.setFwdNat_nat, unused] at hb
      cases hb
    · rintro ⟨w, b, hw, -⟩
      rw [new] at hw
      cases hw

end Mapping

/-- A redirected forward packet can be answered unless it is a datagram whose reverse entry
could not be stored and was not there before. -/
theorem forward_answerable_iff (k : Kernel) (m : Machine)
    (redirected : (k.exec nat64Forward m).1 = .redirect) :
    (k.exec nat64Forward m).2.maps.Records (fwdKeyAt m.skb)
        (ipv4TupleAt (k.exec nat64Forward m).2.skb).src
        (ipv4TupleAt (k.exec nat64Forward m).2.skb).sport ↔
      u8At m.skb 20 = IPPROTO_TCP ∨ k.natInsertOk = true ∨ m.maps.Recorded (fwdKeyAt m.skb) := by
  have ends := nat64Forward_case k m
  generalize k.exec nat64Forward m = z at ends redirected ⊢
  cases ends with
  | passed | cut | unmapped | dropped => cases redirected
  | @translated m' extV4 t s l csum mapped change within chain skb maps tcp log =>
    have tuple : ipv4TupleAt (fwdFrame m.skb t.1 t.2.1 csum) = _ := fwdFrame_tuple within
    dsimp only
    rw [skb, tuple, maps]
    by_cases inserts : k.natInsertOk = true
    · rw [if_pos inserts]
      exact iff_of_true (mapped.mapping.records_stored k.now) (.inr (.inl inserts))
    · rw [if_neg inserts]
      have mapping : MappingCase k _ (fwdKeyAt m.skb) extV4 (fwdKeyAt m.skb).proto k.now m.maps
        m.cpu (some t) s l := mapped.mapping
      rw [mapping.records_iff]
      constructor
      · intro recorded
        exact .inr (.inr recorded)
      · rintro (isTcp | isOk | recorded)
        · exact absurd (tcp isTcp) inserts
        · exact absurd isOk inserts
        · exact recorded

/-- A first packet of the example client, and the kernel of a full `NAT` map. -/
def exampleFirst (skb : List UInt8) (k : Kernel) : TcAction × Machine :=
  k.exec nat64Forward (exampleSystem.machine 0 skb)

def exampleFullNat : Kernel := { Kernel.ideal 1000 7 with natInsertOk := false }

theorem forward_answerable_example :
    (exampleFirst (exampleTcp6 4000 20) (.ideal 1000 7)).2.maps.Records
      (fwdKeyAt (exampleTcp6 4000 20))
      (ipv4TupleAt (exampleFirst (exampleTcp6 4000 20) (.ideal 1000 7)).2.skb).src
      (ipv4TupleAt (exampleFirst (exampleTcp6 4000 20) (.ideal 1000 7)).2.skb).sport := by
  have redirected : (exampleFirst (exampleTcp6 4000 20) (.ideal 1000 7)).1 = .redirect := by
    decide +kernel
  unfold exampleFirst at redirected ⊢
  exact (forward_answerable_iff _ _ redirected).mpr (.inl rfl)

/-- The datagram leaves, and no answer to it finds its way back. -/
theorem datagram_unanswerable :
    (exampleFirst (exampleUdp6 4000) exampleFullNat).1 = .redirect ∧
      ¬ (exampleFirst (exampleUdp6 4000) exampleFullNat).2.maps.Records
        (fwdKeyAt (exampleUdp6 4000))
        (ipv4TupleAt (exampleFirst (exampleUdp6 4000) exampleFullNat).2.skb).src
        (ipv4TupleAt (exampleFirst (exampleUdp6 4000) exampleFullNat).2.skb).sport := by
  refine ⟨by decide +kernel, ?_⟩
  rintro ⟨v, b, -, -, -, hb, -⟩
  have unused : (exampleFirst (exampleUdp6 4000) exampleFullNat).2.maps.nat
      (natKey (ipv4TupleAt (exampleFirst (exampleUdp6 4000) exampleFullNat).2.skb).src
        (ipv4TupleAt (exampleFirst (exampleUdp6 4000) exampleFullNat).2.skb).sport
        (fwdKeyAt (exampleUdp6 4000)).proto) = none := by decide +kernel
  rw [unused] at hb
  cases hb

end Natto64
