import Natto64.FirstMapping

/-!
# The pool

The unrolled selection and membership test of the program against the indexed selection of
the ABI crate and the list the user configured.
-/
namespace Natto64

/-- The unrolled match is an indexed load. -/
theorem selectV4FromPoolEbpf_eq (vmV6 : Ipv6Octets) (cfg : Nat64Config) :
    selectV4FromPoolEbpf vmV6 cfg = selectV4FromPool vmV6 cfg := by
  unfold selectV4FromPoolEbpf selectV4FromPool
  dsimp only
  by_cases hlen : cfg.v4PoolLen = 0 ∨ V4_POOL_MAX < cfg.v4PoolLen.toNat
  · rw [if_pos hlen, dif_pos hlen]
  · rw [if_neg hlen, dif_neg hlen]
    obtain ⟨idx, hidx⟩ : ∃ idx, idx = (⟨poolIndex vmV6 cfg, poolIndex_lt vmV6 hlen⟩ :
        Fin V4_POOL_MAX) := ⟨_, rfl⟩
    have hval : (fnvHash vmV6 % cfg.v4PoolLen).toNat = idx.val := congrArg Fin.val hidx.symm
    rw [← hidx, hval]
    obtain ⟨n, hn⟩ := idx
    unfold V4_POOL_MAX at hn
    interval_cases n <;> rfl

/-- The selected address is one of the pool. -/
theorem v4InPool_of_select {vmV6 : Ipv6Octets} {cfg : Nat64Config} {extV4 : UInt32}
    (small : cfg.v4PoolLen.toNat ≤ V4_POOL_MAX)
    (h : selectV4FromPoolEbpf vmV6 cfg = some extV4) : v4InPool extV4 cfg = true :=
  v4InPool_iff.mpr ⟨small, selectV4FromPoolEbpf_mem h⟩

/-- The program recognises exactly the addresses of the user, selects one of them for every
client, and selects as the ABI crate does, whatever the configuration. -/
theorem pool_selection_agrees {u : Userspace.Nat64Config} (valid : u.validate = .ok ())
    (bridgeIfindex uplinkIfindex : UInt32) :
    (∀ v4, v4InPool v4 (u.dataplaneConfig bridgeIfindex uplinkIfindex) = true ↔ v4 ∈ u.v4Pool) ∧
    (∀ vmV6, ∃ extV4,
      selectV4FromPoolEbpf vmV6 (u.dataplaneConfig bridgeIfindex uplinkIfindex) = some extV4 ∧
      selectV4FromPool vmV6 (u.dataplaneConfig bridgeIfindex uplinkIfindex) = some extV4 ∧
      v4InPool extV4 (u.dataplaneConfig bridgeIfindex uplinkIfindex) = true) ∧
    (∀ vmV6 cfg, selectV4FromPoolEbpf vmV6 cfg = selectV4FromPool vmV6 cfg) := by
  obtain ⟨nonempty, small, -, -⟩ := Userspace.Nat64Config.validate_bounds valid
  obtain ⟨hlen, hpool⟩ :=
    Userspace.Nat64Config.dataplaneConfig_pool small bridgeIfindex uplinkIfindex
  refine ⟨fun v4 => ?_, fun vmV6 => ?_, selectV4FromPoolEbpf_eq⟩
  · rw [v4InPool_iff, hlen, hpool]
    exact and_iff_right small
  · rw [← hlen] at nonempty small
    obtain ⟨extV4, hselect⟩ := selectV4FromPoolEbpf_isSome nonempty small vmV6
    refine ⟨extV4, hselect, ?_, v4InPool_of_select small hselect⟩
    rw [← selectV4FromPoolEbpf_eq, hselect]

theorem pool_selection_example :
    (∀ v4, v4InPool v4 exampleDataplane = true ↔ v4 ∈ exampleConfig.v4Pool) ∧
    (∀ vmV6, ∃ extV4, selectV4FromPoolEbpf vmV6 exampleDataplane = some extV4 ∧
      selectV4FromPool vmV6 exampleDataplane = some extV4 ∧
      v4InPool extV4 exampleDataplane = true) ∧
    (∀ vmV6 cfg, selectV4FromPoolEbpf vmV6 cfg = selectV4FromPool vmV6 cfg) :=
  pool_selection_agrees (u := exampleConfig) rfl 2 3

end Natto64
