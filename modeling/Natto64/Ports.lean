import Mathlib.Tactic.IntervalCases
import Natto64.Allocator
import Natto64.Rules

/-!
# What the allocator returns

The pool as a list of addresses, and the port returned as the first free one among
the sixteen that follow the cursor.
-/
namespace Natto64

/-- The first `v4_pool_len` addresses of the pool. -/
def Nat64Config.pool (cfg : Nat64Config) : List UInt32 :=
  cfg.v4Pool.toList.take cfg.v4PoolLen.toNat

theorem v4Pool_get_mem (cfg : Nat64Config) (i : Fin V4_POOL_MAX)
    (h : i.val < cfg.v4PoolLen.toNat) : cfg.v4Pool.get i ∈ cfg.pool := by
  rw [List.Vector.get_eq_get_toList, Nat64Config.pool]
  refine List.mem_take_iff_getElem.mpr ⟨i.val, ?_, rfl⟩
  rw [List.Vector.toList_length]
  exact lt_min h i.isLt

theorem selectV4FromPoolEbpf_mem {vmV6 : Ipv6Octets} {cfg : Nat64Config} {ext : UInt32}
    (h : selectV4FromPoolEbpf vmV6 cfg = some ext) : ext ∈ cfg.pool := by
  unfold selectV4FromPoolEbpf at h
  dsimp only at h
  split at h
  · cases h
  next hlen =>
    have hpos : cfg.v4PoolLen ≠ 0 := fun h0 => hlen (.inl h0)
    have hidx : (fnvHash vmV6 % cfg.v4PoolLen).toNat < cfg.v4PoolLen.toNat := by
      rw [UInt32.toNat_mod]
      exact Nat.mod_lt _ (Nat.pos_of_ne_zero fun h0 => hpos (UInt32.toNat_inj.mp h0))
    generalize (fnvHash vmV6 % cfg.v4PoolLen).toNat = idx at h hidx
    split at h
    case h_17 => cases h
    all_goals
      cases h
      exact v4Pool_get_mem cfg _ hidx

theorem v4InPool_iff {v4 : UInt32} {cfg : Nat64Config} :
    v4InPool v4 cfg = true ↔ cfg.v4PoolLen.toNat ≤ V4_POOL_MAX ∧ v4 ∈ cfg.pool := by
  obtain ⟨_, ⟨l, hl⟩, len, _, _, _, _, _, _⟩ := cfg
  match l, hl with
  | [a0, a1, a2, a3, a4, a5, a6, a7, a8, a9, a10, a11, a12, a13, a14, a15], _ =>
    have hzero : len = 0 ↔ len.toNat = 0 := by
      rw [← UInt32.toNat_inj]
      rfl
    simp only [v4InPool, Nat64Config.pool, List.Vector.toList_mk, hzero]
    generalize len.toNat = n
    by_cases hn : n = 0 ∨ 16 < n
    · rw [if_pos hn]
      rcases hn with rfl | hn
      · simp
      · simp [Nat.not_le_of_lt hn]
    · rw [if_neg hn]
      obtain ⟨h0, h16⟩ := not_or.mp hn
      have h16 : n ≤ 16 := Nat.le_of_not_lt h16
      simp only [h16, true_and]
      interval_cases n <;> simp [List.Vector.get, or_assoc] at h0 ⊢

/-- The cursors `alloc_port` visits. -/
def probes : Nat → UInt32 → List UInt32
  | 0, _ => []
  | n + 1, cursor => (cursor + 1) :: probes n (cursor + 1)

def portSpan (cfg : Nat64Config) : UInt32 := (cfg.portMax - cfg.portMin).toUInt32 + 1

def candidatePort (cfg : Nat64Config) (cursor : UInt32) : UInt32 :=
  cfg.portMin.toUInt32 + cursor % portSpan cfg

/-- Neither cooling down nor the external port of a reverse entry. -/
def portFree (cfg : Nat64Config) (nat : NatKey → Option NatVal) (ring : Option PortCooldownRing)
    (extV4 : UInt32) (proto : UInt8) (cursor : UInt32) : Bool :=
  (candidatePort cfg cursor).toNat ≤ 65535 &&
    !ring.any (cooldownContains · (candidatePort cfg cursor).toUInt16) &&
    (nat (natKey extV4 (candidatePort cfg cursor).toUInt16 proto)).isNone

/-- The port a new flow gets. -/
def portFor (cfg : Nat64Config) (nat : NatKey → Option NatVal) (cpu : CpuMaps) (extV4 : UInt32)
    (proto : UInt8) : Option UInt16 :=
  if cfg.portMin ≥ cfg.portMax then none
  else cpu.portCursor.bind fun cursor =>
    ((probes 16 cursor).find? (portFree cfg nat cpu.portCooldown extV4 proto)).map
      fun c => (candidatePort cfg c).toUInt16

/-- The slots after the probes: the cursor has moved, and a port that was found cools down. -/
def afterProbes (cfg : Nat64Config) (free : UInt32 → Bool) (ring : Option PortCooldownRing) :
    Nat → UInt32 → CpuMaps
  | 0, cursor => ⟨some cursor, ring⟩
  | n + 1, cursor =>
      if free (cursor + 1) then
        ⟨some (cursor + 1), ring.map (cooldownPush · (candidatePort cfg (cursor + 1)).toUInt16)⟩
      else afterProbes cfg free ring n (cursor + 1)

/-- The slots after a call of `alloc_port`. -/
def allocCpu (cfg : Nat64Config) (nat : NatKey → Option NatVal) (cpu : CpuMaps) (extV4 : UInt32)
    (proto : UInt8) : CpuMaps :=
  if cfg.portMin ≥ cfg.portMax then cpu
  else match cpu.portCursor with
    | none => cpu
    | some cursor => afterProbes cfg (portFree cfg nat cpu.portCooldown extV4 proto)
        cpu.portCooldown 16 cursor

theorem exec_allocPortLoop (k : Kernel) (cfg : Nat64Config) (extV4 : UInt32) (proto : UInt8)
    (n : Nat) (cursor : UInt32) (hadCooldownSkip : Bool) (m : Machine) :
    k.exec (allocPortLoop cfg extV4 proto (portSpan cfg) n cursor hadCooldownSkip) m =
      (((probes n cursor).find?
          (portFree cfg m.maps.nat m.cpu.portCooldown extV4 proto)).map
        fun c => (candidatePort cfg c).toUInt16,
        { m with
          cpu := afterProbes cfg (portFree cfg m.maps.nat m.cpu.portCooldown extV4 proto)
            m.cpu.portCooldown n cursor }) := by
  induction n generalizing cursor hadCooldownSkip m with
  | zero => rfl
  | succ n ih =>
    obtain ⟨skb, maps, ⟨slot, ring⟩, log⟩ := m
    let free := portFree cfg maps.nat ring extV4 proto
    let m' : Machine := ⟨skb, maps, ⟨some (cursor + 1), ring⟩, log⟩
    have hset : k.exec (setPortCursor (cursor + 1)) ⟨skb, maps, ⟨slot, ring⟩, log⟩ = ((), m') :=
      rfl
    have hloop : ∀ skip,
        k.exec (allocPortLoop cfg extV4 proto (portSpan cfg) n (cursor + 1) skip) m' =
          (((probes n (cursor + 1)).find? free).map fun c => (candidatePort cfg c).toUInt16,
            ⟨skb, maps, afterProbes cfg free ring n (cursor + 1), log⟩) :=
      fun skip => ih (cursor + 1) skip m'
    simp only [allocPortLoop, exec_bind, exec_withCounters, hset, probes, List.find?_cons,
      afterProbes]
    change k.exec (if 65535 < (candidatePort cfg (cursor + 1)).toNat then _ else _) m' = _
    by_cases hbig : 65535 < (candidatePort cfg (cursor + 1)).toNat
    · have hfree : portFree cfg maps.nat ring extV4 proto (cursor + 1) = false := by
        simp only [portFree, Nat.not_le_of_lt hbig, decide_false, Bool.false_and]
      rw [if_pos hbig, hfree]
      exact hloop hadCooldownSkip
    rw [if_neg hbig, exec_bind, exec_portCooldown]
    change k.exec (if ring.any (cooldownContains ·
      (candidatePort cfg (cursor + 1)).toUInt16) = true then _ else _) m' = _
    by_cases hcool : ring.any (cooldownContains ·
      (candidatePort cfg (cursor + 1)).toUInt16) = true
    · have hfree : portFree cfg maps.nat ring extV4 proto (cursor + 1) = false := by
        simp only [portFree, hcool, Bool.not_true, Bool.and_false, Bool.false_and]
      rw [if_pos hcool, hfree]
      exact hloop true
    rw [if_neg hcool, exec_bind, exec_natLookup]
    change k.exec (if (maps.nat (natKey extV4
      (candidatePort cfg (cursor + 1)).toUInt16 proto)).isSome = true then _ else _) m' = _
    cases hnat : maps.nat (natKey extV4 (candidatePort cfg (cursor + 1)).toUInt16 proto) with
    | some v =>
      have hfree : portFree cfg maps.nat ring extV4 proto (cursor + 1) = false := by
        simp only [portFree, hnat, Option.isNone_some, Bool.and_false]
      rw [hfree]
      exact hloop hadCooldownSkip
    | none =>
      have hfree : portFree cfg maps.nat ring extV4 proto (cursor + 1) = true := by
        simp only [portFree, hnat, Nat.le_of_not_lt hbig, decide_true, hcool, Bool.not_false,
          Option.isNone_none, Bool.and_self]
      rw [hfree]
      cases hadCooldownSkip <;> cases ring <;> rfl

theorem exec_allocPort_eq (k : Kernel) (cfg : Nat64Config) (extV4 : UInt32) (proto : UInt8)
    (m : Machine) : k.exec (allocPort cfg extV4 proto) m =
      (portFor cfg m.maps.nat m.cpu extV4 proto,
        { m with cpu := allocCpu cfg m.maps.nat m.cpu extV4 proto }) := by
  unfold allocPort portFor allocCpu
  by_cases hr : cfg.portMin ≥ cfg.portMax
  · rw [if_pos hr, if_pos hr, if_pos hr]
    rfl
  · rw [if_neg hr, if_neg hr, if_neg hr]
    simp only [exec_bind, exec_portCursor]
    cases hc : m.cpu.portCursor with
    | none => rfl
    | some cursor => exact exec_allocPortLoop k cfg extV4 proto 16 cursor false m

theorem exec_allocPort (k : Kernel) (cfg : Nat64Config) (extV4 : UInt32) (proto : UInt8)
    (m : Machine) : ∃ cpu, k.exec (allocPort cfg extV4 proto) m =
      (portFor cfg m.maps.nat m.cpu extV4 proto, { m with cpu := cpu }) :=
  ⟨_, exec_allocPort_eq k cfg extV4 proto m⟩

theorem candidatePort_toNat {cfg : Nat64Config} (h : cfg.portMin < cfg.portMax)
    (cursor : UInt32) : (candidatePort cfg cursor).toNat =
      cfg.portMin.toNat + cursor.toNat % (cfg.portMax.toNat - cfg.portMin.toNat + 1) := by
  have hlt : cfg.portMin.toNat < cfg.portMax.toNat := UInt16.lt_iff_toNat_lt.mp h
  have hmax := cfg.portMax.toNat_lt
  have hsub : (cfg.portMax - cfg.portMin).toNat = cfg.portMax.toNat - cfg.portMin.toNat :=
    UInt16.toNat_sub_of_le _ _ (UInt16.le_iff_toNat_le.mpr hlt.le)
  have hspan : (portSpan cfg).toNat = cfg.portMax.toNat - cfg.portMin.toNat + 1 := by
    rw [portSpan, UInt32.toNat_add, UInt16.toNat_toUInt32, hsub]
    exact Nat.mod_eq_of_lt (by rw [UInt32.toNat_one]; omega)
  have hmod : cursor.toNat % (cfg.portMax.toNat - cfg.portMin.toNat + 1) <
      cfg.portMax.toNat - cfg.portMin.toNat + 1 := Nat.mod_lt _ (Nat.succ_pos _)
  rw [candidatePort, UInt32.toNat_add, UInt32.toNat_mod, hspan, UInt16.toNat_toUInt32]
  exact Nat.mod_eq_of_lt (by omega)

/-- The port is in the configured range and has no reverse entry. -/
theorem portFor_spec {cfg : Nat64Config} {nat : NatKey → Option NatVal} {cpu : CpuMaps}
    {extV4 : UInt32} {proto : UInt8} {port : UInt16}
    (h : portFor cfg nat cpu extV4 proto = some port) :
    cfg.portMin ≤ port ∧ port ≤ cfg.portMax ∧ nat (natKey extV4 port proto) = none := by
  unfold portFor at h
  split at h
  · cases h
  next hr =>
    obtain ⟨cursor, -, hfind⟩ := Option.bind_eq_some_iff.mp h
    obtain ⟨c, hc, rfl⟩ := Option.map_eq_some_iff.mp hfind
    have hfree := List.find?_some hc
    simp only [portFree, Bool.and_eq_true, decide_eq_true_eq, Option.isNone_iff_eq_none] at hfree
    have hlt : cfg.portMin < cfg.portMax := UInt16.not_le.mp hr
    have hltN : cfg.portMin.toNat < cfg.portMax.toNat := UInt16.lt_iff_toNat_lt.mp hlt
    have hval := candidatePort_toNat hlt c
    have hmod : c.toNat % (cfg.portMax.toNat - cfg.portMin.toNat + 1) <
        cfg.portMax.toNat - cfg.portMin.toNat + 1 := Nat.mod_lt _ (Nat.succ_pos _)
    have hport : (candidatePort cfg c).toUInt16.toNat = (candidatePort cfg c).toNat := by
      rw [UInt32.toNat_toUInt16]
      exact Nat.mod_eq_of_lt (by omega)
    refine ⟨UInt16.le_iff_toNat_le.mpr ?_, UInt16.le_iff_toNat_le.mpr ?_, hfree.2⟩ <;>
      omega

end Natto64
