import Natto64.PortSupply
import Natto64.SessionRules

/-!
# The first mapping

What a configuration accepted by `validate` can serve: the selector and the allocator
of the program, on the record written to the `CONFIG` map.
-/
namespace Natto64

namespace Userspace.Nat64Config
variable {u : Userspace.Nat64Config}

/-- What `validate` checks of the pool and the ports. -/
theorem validate_bounds (valid : u.validate = .ok ()) :
    0 < u.v4Pool.length ∧ u.v4Pool.length ≤ V4_POOL_MAX ∧ u.portMin ≠ 0 ∧
      u.portMin ≤ u.portMax := by
  obtain ⟨nonempty, small, ⟨hmin, hmax⟩, -⟩ := validate_ok_iff.mp valid
  exact ⟨nonempty, small, hmin, hmax⟩

/-- The record holds the addresses of the user, and no others count. -/
theorem dataplaneConfig_pool (small : u.v4Pool.length ≤ V4_POOL_MAX)
    (bridgeIfindex uplinkIfindex : UInt32) :
    (u.dataplaneConfig bridgeIfindex uplinkIfindex).v4PoolLen.toNat = u.v4Pool.length ∧
      (u.dataplaneConfig bridgeIfindex uplinkIfindex).pool = u.v4Pool := by
  have hlen : (u.dataplaneConfig bridgeIfindex uplinkIfindex).v4PoolLen.toNat =
      u.v4Pool.length := UInt32.toNat_ofNat_of_lt' (by
    unfold V4_POOL_MAX at small
    unfold UInt32.size
    omega)
  refine ⟨hlen, ?_⟩
  rw [Natto64.Nat64Config.pool, hlen]
  change ((u.v4Pool ++ List.replicate V4_POOL_MAX 0).take V4_POOL_MAX).take u.v4Pool.length = _
  rw [List.take_take, min_eq_left small, List.take_left']
  rfl

end Userspace.Nat64Config

theorem selectV4FromPoolEbpf_isSome {cfg : Nat64Config} (nonempty : 0 < cfg.v4PoolLen.toNat)
    (small : cfg.v4PoolLen.toNat ≤ V4_POOL_MAX) (vmV6 : Ipv6Octets) :
    ∃ extV4, selectV4FromPoolEbpf vmV6 cfg = some extV4 := by
  have hlen : ¬ (cfg.v4PoolLen = 0 ∨ V4_POOL_MAX < cfg.v4PoolLen.toNat) := by
    rintro (h | h)
    · rw [h] at nonempty
      cases nonempty
    · exact absurd small (Nat.not_le_of_lt h)
  have hidx : (fnvHash vmV6 % cfg.v4PoolLen).toNat < 16 := by
    rw [UInt32.toNat_mod]
    exact (Nat.mod_lt _ nonempty).trans_le small
  unfold selectV4FromPoolEbpf
  dsimp only
  rw [if_neg hlen]
  generalize (fnvHash vmV6 % cfg.v4PoolLen).toNat = idx at hidx
  interval_cases idx <;> exact ⟨_, rfl⟩

/-- A fresh ring holds only zeros, so it blocks no port of a range above zero. -/
theorem cooldownContains_default {port : UInt16} (h : port ≠ 0) :
    cooldownContains .default port = false := by
  rw [← Bool.not_eq_true, cooldownContains_iff]
  rintro ⟨i, rfl⟩
  exact h (List.Vector.get_replicate 0 i)

/-- On empty maps and zeroed slots the first probe succeeds, if there is one. -/
theorem portFor_fresh_iff {cfg : Nat64Config} (hmin : cfg.portMin ≠ 0) (extV4 : UInt32)
    (proto : UInt8) :
    (∃ port, portFor cfg (fun _ => none) zeroedCpu extV4 proto = some port) ↔
      cfg.portMin < cfg.portMax := by
  constructor
  · rintro ⟨port, hport⟩
    by_contra range
    rw [portFor, if_pos (UInt16.not_lt.mp range)] at hport
    cases hport
  · intro range
    have hpos : 0 < cfg.portMin.toNat := Nat.pos_of_ne_zero fun h => hmin (UInt16.toNat_inj.mp h)
    have hmem : (candidatePort cfg 1).toNat ∈ portRange cfg := candidatePort_mem range 1
    obtain ⟨hlow, hhigh⟩ := Finset.mem_Icc.mp hmem
    have hle := cfg.portMax.toNat_lt
    have hport : (candidatePort cfg 1).toUInt16.toNat = (candidatePort cfg 1).toNat := by
      rw [UInt32.toNat_toUInt16]
      exact Nat.mod_eq_of_lt (by omega)
    have hne : (candidatePort cfg 1).toUInt16 ≠ 0 := by
      intro h
      rw [h, UInt16.toNat_zero] at hport
      omega
    have hcold := cooldownContains_default hne
    have hfree :
        portFree cfg (fun _ => none) zeroedCpu.portCooldown extV4 proto (0 + 1) = true := by
      simp only [portFree, zeroedCpu, Option.any_some, UInt32.zero_add, hcold,
        Option.isNone_none, Bool.not_false, Bool.and_true, decide_eq_true_eq]
      omega
    refine ⟨(candidatePort cfg (0 + 1)).toUInt16, ?_⟩
    rw [portFor, if_neg (UInt16.not_le.mpr range)]
    simp only [zeroedCpu, Option.bind_some, probes, List.find?_cons] at hfree ⊢
    rw [hfree]
    rfl

/-- What a new client flow gets in a fresh dataplane: an address of the user's pool and
a port of the user's range. -/
def ServedFresh (u : Userspace.Nat64Config) (bridgeIfindex uplinkIfindex : UInt32) (k : Kernel)
    (cpu : Nat) (key : FwdNatKey) (nowNs : UInt64) : Prop :=
  ∃ selected extV4 extPort generation,
    selectV4FromPoolEbpf key.vmV6 (u.dataplaneConfig bridgeIfindex uplinkIfindex) =
      some selected ∧
    (k.exec (lookupOrCreateMapping (u.dataplaneConfig bridgeIfindex uplinkIfindex) key selected
      key.proto nowNs) ((System.initial (u.dataplaneConfig bridgeIfindex uplinkIfindex)).machine
        cpu [])).1 = some (extV4, extPort, generation) ∧
    extV4 ∈ u.v4Pool ∧ u.portMin ≤ extPort ∧ extPort ≤ u.portMax

/-- A mapping of a fresh dataplane is the selected address with the port of the allocator. -/
theorem fresh_mapping {k : Kernel} {cfg : Nat64Config} {m : Machine} {key : FwdNatKey}
    {selected extV4 : UInt32} {extPort : UInt16} {generation : UInt32} {nowNs : UInt64}
    (hcfg : m.maps.config = some cfg) (new : m.maps.fwdNat key = none)
    (h : (k.exec (lookupOrCreateMapping cfg key selected key.proto nowNs) m).1 =
      some (extV4, extPort, generation)) :
    extV4 = selected ∧ portFor cfg m.maps.nat m.cpu selected key.proto = some extPort := by
  obtain ⟨l, -, -, hcase⟩ := lookupOrCreateMapping_end k key selected key.proto nowNs m
    (show m.maps.config.getD DEFAULT_CFG = cfg by rw [hcfg]; rfl)
  rw [h] at hcase
  generalize (k.exec (lookupOrCreateMapping cfg key selected key.proto nowNs) m).2.maps = s'
    at hcase
  cases hcase with
  | hit old =>
    rw [new] at old
    cases old
  | created _ port => exact ⟨rfl, port⟩

/-- When the helpers succeed, a free port is enough for a mapping. -/
theorem mapping_of_port {k : Kernel} {cfg : Nat64Config} {m : Machine} {key : FwdNatKey}
    {selected : UInt32} {extPort : UInt16} {nowNs : UInt64}
    (hcfg : m.maps.config = some cfg) (new : m.maps.fwdNat key = none)
    (inserts : k.fwdNatInsertOk = true) (arms : k.Arms = true)
    (port : portFor cfg m.maps.nat m.cpu selected key.proto = some extPort) :
    (k.exec (lookupOrCreateMapping cfg key selected key.proto nowNs) m).1 =
      some (selected, extPort, k.prandom) := by
  obtain ⟨l, -, -, hcase⟩ := lookupOrCreateMapping_end k key selected key.proto nowNs m
    (show m.maps.config.getD DEFAULT_CFG = cfg by rw [hcfg]; rfl)
  generalize k.exec (lookupOrCreateMapping cfg key selected key.proto nowNs) m = z at hcase ⊢
  obtain ⟨r, m'⟩ := z
  generalize m'.maps = s' at hcase
  dsimp only at hcase ⊢
  cases hcase with
  | hit old =>
    rw [new] at old
    cases old
  | refused _ cause =>
    rcases cause with h | h | ⟨-, h, -⟩
    · rw [port] at h
      cases h
    · rw [inserts] at h
      cases h
    · rw [arms] at h
      cases h
  | stuck _ _ _ cause =>
    rw [arms] at cause
    cases cause.2.1
  | created _ hport =>
    rw [port] at hport
    cases hport
    rfl

/-- A validated configuration serves its first flow exactly when it has two ports. -/
theorem first_mapping_iff (u : Userspace.Nat64Config) (valid : u.validate = .ok ())
    (bridgeIfindex uplinkIfindex : UInt32) (k : Kernel) (inserts : k.fwdNatInsertOk = true)
    (arms : k.Arms = true) (cpu : Nat) (key : FwdNatKey) (nowNs : UInt64) :
    ServedFresh u bridgeIfindex uplinkIfindex k cpu key nowNs ↔ u.portMin < u.portMax := by
  obtain ⟨nonempty, small, hmin, -⟩ := Userspace.Nat64Config.validate_bounds valid
  obtain ⟨hlen, hpool⟩ :=
    Userspace.Nat64Config.dataplaneConfig_pool small bridgeIfindex uplinkIfindex
  unfold ServedFresh
  generalize hcfg : u.dataplaneConfig bridgeIfindex uplinkIfindex = cfg at hlen hpool
  have hports : cfg.portMin = u.portMin ∧ cfg.portMax = u.portMax := by
    rw [← hcfg]
    exact ⟨rfl, rfl⟩
  rw [← hports.1] at hmin
  rw [← hports.1, ← hports.2]
  constructor
  · rintro ⟨selected, extV4, extPort, generation, -, hmapping, -⟩
    obtain ⟨-, port⟩ := fresh_mapping rfl rfl hmapping
    exact (portFor_fresh_iff hmin selected key.proto).mp ⟨extPort, port⟩
  · intro range
    obtain ⟨selected, hselected⟩ := selectV4FromPoolEbpf_isSome (by rw [hlen]; exact nonempty)
      (by rw [hlen]; exact small) key.vmV6
    obtain ⟨extPort, hport⟩ := (portFor_fresh_iff hmin selected key.proto).mpr range
    obtain ⟨hlow, hhigh, -⟩ := portFor_spec hport
    have hmem := selectV4FromPoolEbpf_mem hselected
    rw [hpool] at hmem
    exact ⟨selected, selected, extPort, k.prandom, hselected,
      mapping_of_port rfl rfl inserts arms hport, hmem, hlow, hhigh⟩

theorem first_mapping_example :
    exampleConfig.validate = .ok () ∧
      ServedFresh exampleConfig 2 3 (.ideal 1000 7) 0 (fwdKeyAt (exampleTcp6 4000 20)) 1000 :=
  ⟨rfl, (first_mapping_iff exampleConfig rfl 2 3 (.ideal 1000 7) rfl rfl 0
    (fwdKeyAt (exampleTcp6 4000 20)) 1000).mpr (by decide)⟩

/-- The example policy with one port. -/
def onePortConfig : Userspace.Nat64Config :=
  { exampleConfig with portMin := 20000, portMax := 20000 }

/-- It is accepted and serves nothing. -/
theorem one_port_unserved :
    onePortConfig.validate = .ok () ∧
      ¬ ServedFresh onePortConfig 2 3 (.ideal 1000 7) 0 (fwdKeyAt (exampleTcp6 4000 20)) 1000 := by
  refine ⟨rfl, ?_⟩
  rintro ⟨selected, extV4, extPort, generation, -, hmapping, -⟩
  obtain ⟨-, port⟩ := fresh_mapping rfl rfl hmapping
  cases port

end Natto64
