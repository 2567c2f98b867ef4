import Mathlib.Algebra.Order.Interval.Finset.Basic
import Mathlib.Data.Finset.Card
import Mathlib.Order.Interval.Finset.Nat
import Natto64.Dataplane

/-!
# The supply of ports

A port that is handed out blocks itself until its slot of the cooldown ring is
overwritten, and only the next allocations overwrite it. A range larger than the ring
always has a port outside it; a smaller one ends up inside it.
-/
namespace Natto64
open EventRun

theorem cooldownContains_iff (ring : PortCooldownRing) (port : UInt16) :
    cooldownContains ring port = true ↔ ∃ i, ring.ports.get i = port := by
  have hany : cooldownContains ring port =
      (List.finRange 64).any fun i => ring.ports.get i == port := by
    unfold cooldownContains
    rw [← Bool.or_false (ring.ports.get 63 == port)]
    simp only [Bool.or_assoc]
    rfl
  rw [hany, List.any_eq_true]
  simp

def cooldownSlot (ring : PortCooldownRing) : Fin COOLDOWN_SIZE :=
  ⟨ring.idx.toNat % COOLDOWN_SIZE, Nat.mod_lt _ (by decide)⟩

theorem cooldownPush_eq (ring : PortCooldownRing) (port : UInt16) :
    cooldownPush ring port = ⟨ring.idx + 1, ring.ports.set (cooldownSlot ring) port⟩ := by
  have hslot : ring.idx.toNat % COOLDOWN_SIZE = (cooldownSlot ring).val := rfl
  unfold cooldownPush
  rw [hslot]
  obtain ⟨slot, hlt⟩ := cooldownSlot ring
  unfold COOLDOWN_SIZE at hlt
  interval_cases slot <;> rfl

/-- The port numbers of the configured range. -/
def portRange (cfg : Nat64Config) : Finset Nat := Finset.Icc cfg.portMin.toNat cfg.portMax.toNat

theorem card_portRange {cfg : Nat64Config} (h : cfg.portMin < cfg.portMax) :
    (portRange cfg).card = cfg.portMax.toNat - cfg.portMin.toNat + 1 := by
  have hlt : cfg.portMin.toNat < cfg.portMax.toNat := UInt16.lt_iff_toNat_lt.mp h
  rw [portRange, Nat.card_Icc]
  omega

theorem candidatePort_mem {cfg : Nat64Config} (range : cfg.portMin < cfg.portMax)
    (cursor : UInt32) : (candidatePort cfg cursor).toNat ∈ portRange cfg := by
  have hlt : cfg.portMin.toNat < cfg.portMax.toNat := UInt16.lt_iff_toNat_lt.mp range
  have hmod : cursor.toNat % (cfg.portMax.toNat - cfg.portMin.toNat + 1) <
      cfg.portMax.toNat - cfg.portMin.toNat + 1 := Nat.mod_lt _ (Nat.succ_pos _)
  rw [candidatePort_toNat range, portRange, Finset.mem_Icc]
  omega

/-- The port numbers in the ring. -/
def cooling (ring : PortCooldownRing) : Finset Nat :=
  Finset.univ.image fun i => (ring.ports.get i).toNat

theorem card_cooling_le (ring : PortCooldownRing) : (cooling ring).card ≤ COOLDOWN_SIZE := by
  calc (cooling ring).card ≤ (Finset.univ : Finset (Fin COOLDOWN_SIZE)).card :=
        Finset.card_image_le
    _ = COOLDOWN_SIZE := Finset.card_fin _

theorem mem_cooling {ring : PortCooldownRing} {port : UInt16} :
    port.toNat ∈ cooling ring ↔ cooldownContains ring port = true := by
  rw [cooldownContains_iff, cooling, Finset.mem_image]
  constructor
  · rintro ⟨i, -, hi⟩
    exact ⟨i, UInt16.toNat_inj.mp hi⟩
  · rintro ⟨i, rfl⟩
    exact ⟨i, Finset.mem_univ i, rfl⟩

/-- The port numbers in the slots written so far. -/
def handedOut (ring : PortCooldownRing) : Finset Nat :=
  (Finset.univ.filter fun i : Fin COOLDOWN_SIZE => i.val < ring.idx.toNat).image
    fun i => (ring.ports.get i).toNat

theorem handedOut_subset (ring : PortCooldownRing) : handedOut ring ⊆ cooling ring :=
  Finset.image_subset_image (Finset.filter_subset _ _)

/-- While slots are left, a push only adds. -/
theorem handedOut_push {ring : PortCooldownRing} (room : ring.idx.toNat < COOLDOWN_SIZE)
    (port : UInt16) : handedOut (cooldownPush ring port) = insert port.toNat (handedOut ring) := by
  have hslot : (cooldownSlot ring).val = ring.idx.toNat := Nat.mod_eq_of_lt room
  have hidx : (ring.idx + 1).toNat = ring.idx.toNat + 1 := by
    rw [UInt32.toNat_add, UInt32.toNat_one]
    exact Nat.mod_eq_of_lt (by unfold COOLDOWN_SIZE at room; omega)
  rw [cooldownPush_eq]
  ext n
  simp only [handedOut, hidx, Finset.mem_insert, Finset.mem_image, Finset.mem_filter,
    Finset.mem_univ, true_and]
  constructor
  · rintro ⟨i, hi, rfl⟩
    by_cases same : i = cooldownSlot ring
    · left
      rw [same, List.Vector.get_set_same]
    · right
      have hne : i.val ≠ ring.idx.toNat := fun h => same (Fin.ext (h.trans hslot.symm))
      exact ⟨i, by omega, by rw [List.Vector.get_set_of_ne (Ne.symm same)]⟩
  · rintro (rfl | ⟨i, hi, rfl⟩)
    · exact ⟨cooldownSlot ring, by omega, by rw [List.Vector.get_set_same]⟩
    · have hne : cooldownSlot ring ≠ i := fun h => by
        rw [← h, hslot] at hi
        exact Nat.lt_irrefl _ hi
      exact ⟨i, by omega, by rw [List.Vector.get_set_of_ne hne]⟩

theorem mem_probes {n i : Nat} (h : i < n) (cursor : UInt32) :
    cursor + 1 + UInt32.ofNat i ∈ probes n cursor := by
  induction n generalizing i cursor with
  | zero => cases h
  | succ n ih =>
    cases i with
    | zero =>
      have hzero : cursor + 1 + UInt32.ofNat 0 = cursor + 1 := UInt32.add_zero _
      rw [hzero]
      exact List.mem_cons_self
    | succ i =>
      have hshift : cursor + 1 + UInt32.ofNat (i + 1) = cursor + 1 + 1 + UInt32.ofNat i := by
        rw [UInt32.ofNat_add]
        ac_rfl
      rw [hshift]
      exact List.mem_cons_of_mem _ (ih (Nat.lt_of_succ_lt_succ h) (cursor + 1))

theorem afterProbes_of_none {cfg : Nat64Config} {free : UInt32 → Bool}
    {ring : Option PortCooldownRing} {n : Nat} {cursor : UInt32}
    (h : (probes n cursor).find? free = none) :
    afterProbes cfg free ring n cursor = ⟨some (cursor + UInt32.ofNat n), ring⟩ := by
  induction n generalizing cursor with
  | zero =>
    have hzero : cursor + UInt32.ofNat 0 = cursor := UInt32.add_zero _
    rw [afterProbes, hzero]
  | succ n ih =>
    obtain ⟨hc, hrest⟩ := List.forall_mem_cons.mp (List.find?_eq_none.mp h)
    have hshift : cursor + 1 + UInt32.ofNat n = cursor + UInt32.ofNat (n + 1) := by
      rw [UInt32.ofNat_add]
      ac_rfl
    rw [afterProbes, if_neg hc, ih (List.find?_eq_none.mpr hrest), hshift]

theorem afterProbes_of_some {cfg : Nat64Config} {free : UInt32 → Bool}
    {ring : Option PortCooldownRing} {n : Nat} {cursor c : UInt32}
    (h : (probes n cursor).find? free = some c) :
    afterProbes cfg free ring n cursor =
      ⟨some c, ring.map (cooldownPush · (candidatePort cfg c).toUInt16)⟩ := by
  induction n generalizing cursor with
  | zero => cases h
  | succ n ih =>
    rw [probes, List.find?_cons] at h
    rw [afterProbes]
    cases hc : free (cursor + 1) with
    | true =>
      rw [hc] at h
      cases h
      rfl
    | false =>
      rw [hc] at h
      exact ih h

section
variable {cfg : Nat64Config} {nat : NatKey → Option NatVal} {cursor : UInt32}
  {ring : PortCooldownRing} {extV4 : UInt32} {proto : UInt8}

/-- A failing call moves the cursor past its probes and leaves the ring alone. -/
theorem allocCpu_of_none (range : cfg.portMin < cfg.portMax)
    (h : portFor cfg nat ⟨some cursor, some ring⟩ extV4 proto = none) :
    allocCpu cfg nat ⟨some cursor, some ring⟩ extV4 proto = ⟨some (cursor + 16), some ring⟩ := by
  have hr : ¬ cfg.portMin ≥ cfg.portMax := UInt16.not_le.mpr range
  rw [portFor, if_neg hr] at h
  rw [allocCpu, if_neg hr]
  exact afterProbes_of_none (Option.map_eq_none_iff.mp h)

theorem allocCpu_of_some {port : UInt16}
    (h : portFor cfg nat ⟨some cursor, some ring⟩ extV4 proto = some port) :
    cooldownContains ring port = false ∧
      ∃ c, allocCpu cfg nat ⟨some cursor, some ring⟩ extV4 proto =
        ⟨some c, some (cooldownPush ring port)⟩ := by
  unfold portFor at h
  unfold allocCpu
  split at h
  · cases h
  next hr =>
    rw [if_neg hr]
    obtain ⟨c, hc, rfl⟩ := Option.map_eq_some_iff.mp h
    have hfree := List.find?_some hc
    simp only [portFree, Bool.and_eq_true, Option.any_some, Bool.not_eq_true'] at hfree
    exact ⟨hfree.1.2, c, afterProbes_of_some hc⟩

theorem toNat_candidatePort16 (range : cfg.portMin < cfg.portMax) (cursor : UInt32) :
    (candidatePort cfg cursor).toUInt16.toNat = (candidatePort cfg cursor).toNat := by
  have hmem := Finset.mem_Icc.mp (candidatePort_mem range cursor)
  have hmax := cfg.portMax.toNat_lt
  rw [UInt32.toNat_toUInt16]
  exact Nat.mod_eq_of_lt (by omega)

/-- A cursor that falls on a port outside the ring and without `NAT` entry finds it free. -/
theorem portFree_of_cold (range : cfg.portMin < cfg.portMax) {p : UInt16}
    (hp : p.toNat ∈ portRange cfg) (cold : cooldownContains ring p = false)
    (free : nat (natKey extV4 p proto) = none)
    (h : cursor.toNat % (cfg.portMax.toNat - cfg.portMin.toNat + 1) =
      p.toNat - cfg.portMin.toNat) :
    portFree cfg nat (some ring) extV4 proto cursor = true := by
  obtain ⟨hmin, hmax⟩ := Finset.mem_Icc.mp hp
  have hle := cfg.portMax.toNat_lt
  have hval : (candidatePort cfg cursor).toNat = p.toNat := by
    rw [candidatePort_toNat range, h]
    omega
  have hport : (candidatePort cfg cursor).toUInt16 = p :=
    UInt16.toNat_inj.mp ((toNat_candidatePort16 range cursor).trans hval)
  simp only [portFree, hport, hval, Option.any_some, cold, free, Option.isNone_none,
    Bool.not_false, Bool.and_true, decide_eq_true_eq]
  omega

/-- Among twice as many cursors as there are ports, wrapping or not, one falls on any port. -/
theorem exists_cursor_mod {span r : Nat} (hspan : span ≤ 65536) (hr : r < span)
    (cursor : UInt32) :
    ∃ t < 2 * span, (cursor + 1 + UInt32.ofNat t).toNat % span = r := by
  have hadd : ∀ t, (cursor + 1 + UInt32.ofNat t).toNat = ((cursor + 1).toNat + t) % 2 ^ 32 := by
    intro t
    rw [UInt32.toNat_add, UInt32.toNat_ofNat', Nat.add_mod_mod]
  have hstart := (cursor + 1).toNat_lt
  by_cases hwrap : (cursor + 1).toNat + span ≤ 2 ^ 32
  · -- the first `span` cursors are consecutive numbers
    have hmod : (cursor + 1).toNat % span < span := Nat.mod_lt _ (by omega)
    have hq := Nat.div_add_mod (cursor + 1).toNat span
    by_cases hle : (cursor + 1).toNat % span ≤ r
    · refine ⟨r - (cursor + 1).toNat % span, by omega, ?_⟩
      have hval : (cursor + 1 + UInt32.ofNat (r - (cursor + 1).toNat % span)).toNat =
          r + span * ((cursor + 1).toNat / span) := by
        rw [hadd]
        omega
      rw [hval, Nat.add_mul_mod_self_left, Nat.mod_eq_of_lt hr]
    · refine ⟨r + span - (cursor + 1).toNat % span, by omega, ?_⟩
      have hval : (cursor + 1 + UInt32.ofNat (r + span - (cursor + 1).toNat % span)).toNat =
          r + span + span * ((cursor + 1).toNat / span) := by
        rw [hadd]
        omega
      rw [hval, Nat.add_mul_mod_self_left, Nat.add_mod_right, Nat.mod_eq_of_lt hr]
  · -- the cursors after the wrap count from zero
    refine ⟨2 ^ 32 - (cursor + 1).toNat + r, by omega, ?_⟩
    have hval : (cursor + 1 + UInt32.ofNat (2 ^ 32 - (cursor + 1).toNat + r)).toNat = r := by
      rw [hadd]
      omega
    rw [hval, Nat.mod_eq_of_lt hr]

end

/-- A call of `alloc_port`, with the `NAT` contents it finds. -/
structure AllocCall where
  nat : NatKey → Option NatVal
  extV4 : UInt32
  proto : UInt8

namespace AllocCall

/-- The call on a CPU whose allocator slots are `cpu`. -/
def exec (cfg : Nat64Config) (cpu : CpuMaps) (c : AllocCall) : Option UInt16 × Machine :=
  (Kernel.ideal 0 0).exec (allocPort cfg c.extV4 c.proto)
    { skb := []
      maps := { config := some cfg, fwdNat := fun _ => none, nat := c.nat }
      cpu := cpu
      log := [] }

def port (cfg : Nat64Config) (cpu : CpuMaps) (c : AllocCall) : Option UInt16 := (c.exec cfg cpu).1

def step (cfg : Nat64Config) (cpu : CpuMaps) (c : AllocCall) : CpuMaps := (c.exec cfg cpu).2.cpu

theorem port_eq (cfg : Nat64Config) (cpu : CpuMaps) (c : AllocCall) :
    c.port cfg cpu = portFor cfg c.nat cpu c.extV4 c.proto := by
  rw [port, exec, exec_allocPort_eq]

theorem step_eq (cfg : Nat64Config) (cpu : CpuMaps) (c : AllocCall) :
    step cfg cpu c = allocCpu cfg c.nat cpu c.extV4 c.proto := by
  rw [step, exec, exec_allocPort_eq]

/-- A call that finds every port unused. -/
def unused (extV4 : UInt32) (proto : UInt8) : AllocCall := ⟨fun _ => none, extV4, proto⟩

end AllocCall

def zeroedCpu : CpuMaps := ⟨some 0, some PortCooldownRing.default⟩

/-- Some sequence of calls leads from the zeroed slots to these. -/
def AllocReachable (cfg : Nat64Config) (cpu : CpuMaps) : Prop :=
  ∃ calls : List AllocCall, run (AllocCall.step cfg) zeroedCpu calls = cpu

/-- The slots after `n` calls on an empty `NAT`. -/
def afterUnused (cfg : Nat64Config) (extV4 : UInt32) (proto : UInt8) (cpu : CpuMaps) (n : Nat) :
    CpuMaps :=
  run (AllocCall.step cfg) cpu (List.replicate n (.unused extV4 proto))

/-- Once `NAT` stays empty, one of the next calls returns a port. -/
def Supplies (cfg : Nat64Config) (extV4 : UInt32) (proto : UInt8) (cpu : CpuMaps) : Prop :=
  ∃ n, ((AllocCall.unused extV4 proto).port cfg (afterUnused cfg extV4 proto cpu n)).isSome

section
variable {cfg : Nat64Config} {extV4 : UInt32} {proto : UInt8}

theorem afterUnused_succ (cpu : CpuMaps) (n : Nat) :
    afterUnused cfg extV4 proto cpu (n + 1) =
      AllocCall.step cfg (afterUnused cfg extV4 proto cpu n) (.unused extV4 proto) := by
  rw [afterUnused, List.replicate_succ', run_concat, afterUnused]

theorem AllocReachable.afterUnused {cpu : CpuMaps} (h : AllocReachable cfg cpu) (extV4 : UInt32)
    (proto : UInt8) (n : Nat) : AllocReachable cfg (afterUnused cfg extV4 proto cpu n) := by
  obtain ⟨calls, rfl⟩ := h
  exact ⟨calls ++ List.replicate n (.unused extV4 proto), run_append ..⟩

/-- A dry spell: the cursor moves by sixteen a call, the ring stays. -/
theorem run_dry (range : cfg.portMin < cfg.portMax) (c : AllocCall) (cursor : UInt32)
    (ring : PortCooldownRing) (n : Nat)
    (dry : ∀ i < n, c.port cfg
      (run (AllocCall.step cfg) ⟨some cursor, some ring⟩ (List.replicate i c)) = none) :
    run (AllocCall.step cfg) ⟨some cursor, some ring⟩ (List.replicate n c) =
      ⟨some (cursor + UInt32.ofNat (16 * n)), some ring⟩ := by
  induction n with
  | zero => simp
  | succ n ih =>
    have hstate := ih fun i hi => dry i (Nat.lt_succ_of_lt hi)
    have hnone := dry n (Nat.lt_succ_self n)
    rw [hstate, AllocCall.port_eq] at hnone
    rw [List.replicate_succ', run_concat, hstate, AllocCall.step_eq,
      allocCpu_of_none range hnone, Nat.mul_succ, UInt32.ofNat_add, ← UInt32.add_assoc]
    rfl

/-- A port that stays free is reached by some probe of these calls. -/
theorem exists_port_of_cold (range : cfg.portMin < cfg.portMax) (c : AllocCall)
    (cursor : UInt32) {ring : PortCooldownRing} {p : UInt16} (hp : p.toNat ∈ portRange cfg)
    (cold : cooldownContains ring p = false) (free : c.nat (natKey c.extV4 p c.proto) = none) :
    ∃ i < (2 * (cfg.portMax.toNat - cfg.portMin.toNat + 1) + 15) / 16,
      (c.port cfg
        (run (AllocCall.step cfg) ⟨some cursor, some ring⟩ (List.replicate i c))).isSome := by
  by_contra hstuck
  have dry : ∀ i < (2 * (cfg.portMax.toNat - cfg.portMin.toNat + 1) + 15) / 16, c.port cfg
      (run (AllocCall.step cfg) ⟨some cursor, some ring⟩ (List.replicate i c)) = none :=
    fun i hi => Option.not_isSome_iff_eq_none.mp fun h => hstuck ⟨i, hi, h⟩
  obtain ⟨hmin, hmax⟩ := Finset.mem_Icc.mp hp
  have hle := cfg.portMax.toNat_lt
  obtain ⟨t, ht, hresidue⟩ := exists_cursor_mod
    (show cfg.portMax.toNat - cfg.portMin.toNat + 1 ≤ 65536 by omega)
    (show p.toNat - cfg.portMin.toNat < _ by omega) cursor
  have hcall : t / 16 < (2 * (cfg.portMax.toNat - cfg.portMin.toNat + 1) + 15) / 16 := by omega
  have hnone := dry (t / 16) hcall
  rw [run_dry range c cursor ring _ fun i hi => dry i (hi.trans hcall), AllocCall.port_eq, portFor,
    if_neg (UInt16.not_le.mpr range)] at hnone
  have hprobe := mem_probes (Nat.mod_lt t (show 0 < 16 by decide))
    (cursor + UInt32.ofNat (16 * (t / 16)))
  have hcursor : cursor + UInt32.ofNat (16 * (t / 16)) + 1 + UInt32.ofNat (t % 16) =
      cursor + 1 + UInt32.ofNat t := by
    calc cursor + UInt32.ofNat (16 * (t / 16)) + 1 + UInt32.ofNat (t % 16)
        = cursor + 1 + (UInt32.ofNat (16 * (t / 16)) + UInt32.ofNat (t % 16)) := by ac_rfl
      _ = cursor + 1 + UInt32.ofNat t := by rw [← UInt32.ofNat_add, Nat.div_add_mod]
  rw [hcursor] at hprobe
  exact List.find?_eq_none.mp (Option.map_eq_none_iff.mp hnone) _ hprobe
    (portFree_of_cold range hp cold free hresidue)

/-- A port outside the ring is reached by some probe of some call. -/
theorem supplies_of_cold (range : cfg.portMin < cfg.portMax) (cursor : UInt32)
    {ring : PortCooldownRing} {p : Nat} (hp : p ∈ portRange cfg) (cold : p ∉ cooling ring) :
    Supplies cfg extV4 proto ⟨some cursor, some ring⟩ := by
  have hmax := (Finset.mem_Icc.mp hp).2
  have hle := cfg.portMax.toNat_lt
  have hport : (UInt16.ofNat p).toNat = p := by
    rw [UInt16.toNat_ofNat']
    omega
  rw [← hport] at hp cold
  rw [mem_cooling, Bool.not_eq_true] at cold
  obtain ⟨i, -, hi⟩ := exists_port_of_cold range (.unused extV4 proto) cursor hp cold rfl
  exact ⟨i, hi⟩

/-- Where supply never fails, the ring fills up with different ports. -/
theorem exists_handedOut (range : cfg.portMin < cfg.portMax)
    (live : ∀ cpu, AllocReachable cfg cpu → Supplies cfg extV4 proto cpu) (j : Nat)
    (hj : j ≤ COOLDOWN_SIZE) :
    ∃ cursor ring, AllocReachable cfg ⟨some cursor, some ring⟩ ∧ ring.idx.toNat = j ∧
      (handedOut ring).card = j ∧ handedOut ring ⊆ portRange cfg := by
  induction j with
  | zero => exact ⟨0, PortCooldownRing.default, ⟨[], rfl⟩, rfl, rfl, Finset.empty_subset _⟩
  | succ j ih =>
    obtain ⟨cursor, ring, reach, hidx, hcard, hsub⟩ := ih (Nat.le_of_succ_le hj)
    -- the first of the calls that is served
    have hserved := live _ reach
    let n := Nat.find hserved
    have hsome := Nat.find_spec hserved
    have dry := run_dry range (.unused extV4 proto) cursor ring n fun i hi =>
      Option.not_isSome_iff_eq_none.mp (Nat.find_min hserved hi)
    have hreach := reach.afterUnused extV4 proto (n + 1)
    obtain ⟨port, hport⟩ := Option.isSome_iff_exists.mp hsome
    rw [show afterUnused cfg extV4 proto _ (Nat.find hserved) = _ from dry,
      AllocCall.port_eq] at hport
    obtain ⟨hcold, c, hcpu⟩ := allocCpu_of_some hport
    obtain ⟨hmin, hmax, -⟩ := portFor_spec hport
    rw [afterUnused_succ, afterUnused, dry, AllocCall.step_eq] at hreach
    have hroom : ring.idx.toNat < COOLDOWN_SIZE := by omega
    have hnew : port.toNat ∉ handedOut ring := fun h => by
      rw [mem_cooling.mp (handedOut_subset ring h)] at hcold
      cases hcold
    refine ⟨c, cooldownPush ring port, hcpu ▸ hreach, ?_, ?_, ?_⟩
    · rw [cooldownPush_eq, UInt32.toNat_add, UInt32.toNat_one, hidx]
      exact Nat.mod_eq_of_lt (by unfold COOLDOWN_SIZE at hj; omega)
    · rw [handedOut_push hroom, Finset.card_insert_of_notMem hnew, hcard]
    · rw [handedOut_push hroom]
      exact Finset.insert_subset (Finset.mem_Icc.mpr
        ⟨UInt16.le_iff_toNat_le.mp hmin, UInt16.le_iff_toNat_le.mp hmax⟩) hsub

/-- Once the whole range is in the ring, no call is served. -/
theorem portFor_of_cooling (nat : NatKey → Option NatVal) (cursor : UInt32)
    {ring : PortCooldownRing} (full : portRange cfg ⊆ cooling ring) :
    portFor cfg nat ⟨some cursor, some ring⟩ extV4 proto = none := by
  cases h : portFor cfg nat ⟨some cursor, some ring⟩ extV4 proto with
  | none => rfl
  | some port =>
    obtain ⟨hcold, -⟩ := allocCpu_of_some h
    obtain ⟨hmin, hmax, -⟩ := portFor_spec h
    have hmem := mem_cooling.mp (full (Finset.mem_Icc.mpr
      ⟨UInt16.le_iff_toNat_le.mp hmin, UInt16.le_iff_toNat_le.mp hmax⟩))
    rw [hmem] at hcold
    cases hcold

theorem not_supplies_of_cooling (range : cfg.portMin < cfg.portMax) (cursor : UInt32)
    {ring : PortCooldownRing} (full : portRange cfg ⊆ cooling ring) :
    ¬ Supplies cfg extV4 proto ⟨some cursor, some ring⟩ := by
  have dry : ∀ n, (AllocCall.unused extV4 proto).port cfg
      (afterUnused cfg extV4 proto ⟨some cursor, some ring⟩ n) = none := by
    intro n
    induction n using Nat.strong_induction_on with
    | h n ih =>
      rw [afterUnused, run_dry range (.unused extV4 proto) cursor ring n ih, AllocCall.port_eq]
      exact portFor_of_cooling _ _ full
  rintro ⟨n, hn⟩
  rw [dry n] at hn
  cases hn

theorem allocStep_slots (range : cfg.portMin < cfg.portMax) (c : AllocCall) (cursor : UInt32)
    (ring : PortCooldownRing) :
    ∃ cursor' ring',
      AllocCall.step cfg ⟨some cursor, some ring⟩ c = ⟨some cursor', some ring'⟩ := by
  rw [AllocCall.step_eq]
  cases h : portFor cfg c.nat ⟨some cursor, some ring⟩ c.extV4 c.proto with
  | none => exact ⟨cursor + 16, ring, allocCpu_of_none range h⟩
  | some port =>
    obtain ⟨-, cursor', hcpu⟩ := allocCpu_of_some h
    exact ⟨cursor', cooldownPush ring port, hcpu⟩

theorem AllocReachable.slots (range : cfg.portMin < cfg.portMax) {cpu : CpuMaps}
    (h : AllocReachable cfg cpu) : ∃ cursor ring, cpu = ⟨some cursor, some ring⟩ := by
  obtain ⟨calls, rfl⟩ := h
  induction calls using List.reverseRecOn with
  | nil => exact ⟨0, PortCooldownRing.default, rfl⟩
  | append_singleton calls c ih =>
    obtain ⟨cursor, ring, hcpu⟩ := ih
    rw [run_concat, hcpu]
    exact allocStep_slots range c cursor ring

end

/-- A range keeps supplying ports exactly when it is larger than the cooldown ring. -/
theorem allocator_supplies_iff (cfg : Nat64Config) (extV4 : UInt32) (proto : UInt8)
    (range : cfg.portMin < cfg.portMax) :
    (∀ cpu, AllocReachable cfg cpu → Supplies cfg extV4 proto cpu) ↔
      COOLDOWN_SIZE ≤ cfg.portMax.toNat - cfg.portMin.toNat := by
  have hcard := card_portRange range
  constructor
  · intro live
    by_contra hsmall
    have hle : (portRange cfg).card ≤ COOLDOWN_SIZE := by omega
    obtain ⟨cursor, ring, reach, -, hall, hsub⟩ := exists_handedOut range live _ hle
    have hfull : handedOut ring = portRange cfg := Finset.eq_of_subset_of_card_le hsub hall.ge
    exact not_supplies_of_cooling range cursor (hfull ▸ handedOut_subset ring) (live _ reach)
  · intro large cpu reach
    obtain ⟨cursor, ring, rfl⟩ := reach.slots range
    have hlt : (cooling ring).card < (portRange cfg).card := by
      have := card_cooling_le ring
      omega
    obtain ⟨p, hp, cold⟩ := Finset.exists_mem_notMem_of_card_lt_card hlt
    exact supplies_of_cold range cursor hp cold

theorem allocator_supplies_example :
    COOLDOWN_SIZE ≤ 60000 - 20000 ∧
      ∀ cpu, AllocReachable exampleDataplane cpu → Supplies exampleDataplane 0xCB00710A 6 cpu :=
  ⟨by decide, (allocator_supplies_iff exampleDataplane 0xCB00710A 6 (by decide)).mpr (by decide)⟩

/-- The example policy with two ports. -/
def twoPortConfig : Userspace.Nat64Config :=
  { exampleConfig with portMin := 20000, portMax := 20001 }

def twoPortDataplane : Nat64Config := twoPortConfig.dataplaneConfig 2 3

/-- Two flows are served, and none after them. -/
theorem two_ports_run_out :
    twoPortConfig.validate = .ok () ∧
      AllocReachable twoPortDataplane (afterUnused twoPortDataplane 0xCB00710A 6 zeroedCpu 2) ∧
      ¬ Supplies twoPortDataplane 0xCB00710A 6
        (afterUnused twoPortDataplane 0xCB00710A 6 zeroedCpu 2) := by
  refine ⟨rfl, ⟨_, rfl⟩, ?_⟩
  have hslots : afterUnused twoPortDataplane 0xCB00710A 6 zeroedCpu 2 =
      ⟨some 2, some (cooldownPush (cooldownPush .default 20001) 20000)⟩ := rfl
  rw [hslots]
  exact not_supplies_of_cooling (by decide) 2 (by decide +kernel)

end Natto64
