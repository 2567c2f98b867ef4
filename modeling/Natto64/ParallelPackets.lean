import Mathlib.Data.Fintype.Defs
import Natto64.ForwardSafety
import Natto64.Granularity

/-!
# Forward packets on several CPUs

Any number of forward packets, one on each CPU, whose calls interleave in any order. They
agree on their external tuples unless two of them read the maps before either has
written what it read for.
-/
namespace Natto64
open EventRun Interleaving

/-- Forward packets in flight, at most one on a CPU. -/
abbrev Packets (ι : Type) := Pool Op.Resp (fun _ : ι => TcAction) (fun _ : ι => PacketState) Maps

section Stages
variable {t : NatKey}

/-- The packet saw the tuple `t` free and has not inserted the reverse entry. -/
def Stage.Holds (t : NatKey) : Stage → Prop
  | .probed t' | .reserved t' _ => t' = t
  | _ => False

/-- The tuple `t` is the one of a forward entry that the packet read or wrote. -/
def Stage.Mapped (t : NatKey) : Stage → Prop
  | .reserved t' _ | .found t' _ | .stored t' _ => t' = t
  | _ => False

instance : DecidablePred (Stage.Holds t)
  | .probed t' | .reserved t' _ => inferInstanceAs (Decidable (t' = t))
  | .start | .missed | .found _ _ | .stored _ _ => inferInstanceAs (Decidable False)

end Stages

section Invariant
variable {ι : Type} {flow : ι → FwdNatKey} {cfg : Nat64Config} {st : ι → Stage} {s s' : Maps}

/-- The tuple `t` is recorded for the flow, or the packet that opened the flow is about to. -/
def Recorded (flow : ι → FwdNatKey) (st : ι → Stage) (s : Maps) (key : FwdNatKey) (t : NatKey) :
    Prop :=
  (∃ b, s.nat t = some b ∧ b.flow t.proto = key) ∨
    ∃ i generation, flow i = key ∧ st i = .reserved t generation

/-- The invariant of packets that do not race. -/
structure Parallel (flow : ι → FwdNatKey) (cfg : Nat64Config) (st : ι → Stage) (s : Maps) :
    Prop where
  config : s.config.getD DEFAULT_CFG = cfg
  fresh : ∀ i, (st i).Opening → s.fwdNat (flow i) = none
  apart : ∀ i j, (st i).Opening → (st j).Opening → flow i = flow j → i = j
  alone : ∀ i j t, (st i).Holds t → (st j).Holds t → i = j
  free : ∀ i t b, (st i).Holds t → s.nat t = some b → b.flow t.proto = flow i
  mapped : ∀ i t, (st i).Mapped t → ∃ v, s.fwdNat (flow i) = some v ∧ sessions.addr (flow i) v = t
  covered : ∀ key v, s.fwdNat key = some v → Recorded flow st s key (sessions.addr key v)

theorem Stage.holds_of_reserved {stage : Stage} {t : NatKey} {generation : UInt32}
    (h : stage = .reserved t generation) : stage.Holds t := by
  subst h
  rfl

/-- A tuple that a packet holds is recorded for its flow, if for any. -/
theorem Recorded.of_holds (h : Parallel flow cfg st s) {key : FwdNatKey} {t : NatKey} {i : ι}
    (hi : (st i).Holds t) (hr : Recorded flow st s key t) : flow i = key := by
  obtain ⟨b, hb, rfl⟩ | ⟨j, g, rfl, hj⟩ := hr
  · exact (h.free i t b hi hb).symm
  · rw [h.alone i j t hi (Stage.holds_of_reserved hj)]

/-- A tuple is recorded for one flow. -/
theorem Recorded.unique (h : Parallel flow cfg st s) {key key' : FwdNatKey} {t : NatKey}
    (hr : Recorded flow st s key t) (hr' : Recorded flow st s key' t) : key = key' := by
  obtain ⟨b, hb, rfl⟩ | ⟨i, g, rfl, hi⟩ := hr
  · obtain ⟨b', hb', rfl⟩ | ⟨j, g', rfl, hj⟩ := hr'
    · rw [hb'] at hb
      obtain rfl := Option.some.inj hb
      rfl
    · exact h.free j t b (Stage.holds_of_reserved hj) hb
  · exact hr'.of_holds h (Stage.holds_of_reserved hi)

/-- Two packets that know their tuples. -/
theorem Parallel.tuples (h : Parallel flow cfg st s) {i j : ι} {t t' : NatKey}
    (hi : (st i).Mapped t) (hj : (st j).Mapped t') : t = t' ↔ flow i = flow j := by
  obtain ⟨v, hv, rfl⟩ := h.mapped i t hi
  obtain ⟨w, hw, rfl⟩ := h.mapped j t' hj
  constructor
  · intro heq
    have hr := h.covered _ _ hv
    rw [heq] at hr
    exact hr.unique h (h.covered _ _ hw)
  · intro heq
    rw [heq, hw] at hv
    obtain rfl := Option.some.inj hv
    rw [heq]

/-- The forward entry of packet `i` is touched. -/
theorem Parallel.touched (h : Parallel flow cfg st s) {key : FwdNatKey} {v w : TimedFwdNatVal}
    (entry : s.fwdNat key = some v) (same : v.SameTuple w) :
    Parallel flow cfg st (s.setFwdNat key (some w)) := by
  refine ⟨h.config, fun i hi => ?_, h.apart, h.alone, h.free, fun i t hi => ?_, fun κ u hu => ?_⟩
  · have hne : flow i ≠ key := by
      rintro rfl
      rw [h.fresh i hi] at entry
      cases entry
    rw [Maps.setFwdNat_of_ne _ _ _ hne]
    exact h.fresh i hi
  · obtain ⟨u, hu, haddr⟩ := h.mapped i t hi
    by_cases hkey : flow i = key
    · subst hkey
      obtain rfl := Option.some.inj (entry.symm.trans hu)
      exact ⟨w, Maps.setFwdNat_self .., (same.addr _).trans haddr⟩
    · exact ⟨u, (Maps.setFwdNat_of_ne _ _ _ hkey).trans hu, haddr⟩
  · by_cases hkey : κ = key
    · subst hkey
      rw [Maps.setFwdNat_self] at hu
      obtain rfl := Option.some.inj hu
      rw [same.addr]
      exact h.covered κ v entry
    · rw [Maps.setFwdNat_of_ne _ _ _ hkey] at hu
      exact h.covered κ u hu

section Steps
variable [DecidableEq ι] {i : ι} {stage : Stage}

theorem restaged {Q : Stage → Prop} {j : ι} (h : Q (Function.update st i stage j)) :
    j = i ∧ Q stage ∨ j ≠ i ∧ Q (st j) := by
  by_cases hji : j = i
  · subst hji
    rw [Function.update_self] at h
    exact .inl ⟨rfl, h⟩
  · rw [Function.update_of_ne hji] at h
    exact .inr ⟨hji, h⟩

theorem restaged_other {Q : Stage → Prop} {j : ι} (h : Q (Function.update st i stage j))
    (not : ¬ Q stage) : j ≠ i ∧ Q (st j) := by
  obtain ⟨-, hj⟩ | hj := restaged h
  · exact absurd hj not
  · exact hj

/-- The packet only read the maps. -/
theorem Parallel.restage (h : Parallel flow cfg st s)
    (before : ∀ t generation, st i ≠ .reserved t generation)
    (opening : stage.Opening → s.fwdNat (flow i) = none ∧
      ∀ j, j ≠ i → (st j).Opening → flow j ≠ flow i)
    (holds : ∀ t, stage.Holds t → s.nat t = none ∧ ∀ j, j ≠ i → ¬ (st j).Holds t)
    (mapped : ∀ t, stage.Mapped t →
      ∃ v, s.fwdNat (flow i) = some v ∧ sessions.addr (flow i) v = t) :
    Parallel flow cfg (Function.update st i stage) s := by
  constructor
  · exact h.config
  · intro j hj₀
    obtain ⟨rfl, hj⟩ | ⟨-, hj⟩ := restaged hj₀
    · exact (opening hj).1
    · exact h.fresh j hj
  · intro j m hj₀ hm₀ hflow
    obtain ⟨rfl, hj⟩ | ⟨hji, hj⟩ := restaged hj₀
    · obtain ⟨rfl, hm⟩ | ⟨hmi, hm⟩ := restaged hm₀
      · rfl
      · exact absurd hflow.symm ((opening hj).2 m hmi hm)
    · obtain ⟨rfl, hm⟩ | ⟨-, hm⟩ := restaged hm₀
      · exact absurd hflow ((opening hm).2 j hji hj)
      · exact h.apart j m hj hm hflow
  · intro j m t hj₀ hm₀
    obtain ⟨rfl, hj⟩ | ⟨hji, hj⟩ := restaged hj₀
    · obtain ⟨rfl, hm⟩ | ⟨hmi, hm⟩ := restaged hm₀
      · rfl
      · exact absurd hm ((holds t hj).2 m hmi)
    · obtain ⟨rfl, hm⟩ | ⟨-, hm⟩ := restaged hm₀
      · exact absurd hj ((holds t hm).2 j hji)
      · exact h.alone j m t hj hm
  · intro j t b hj₀ hb
    obtain ⟨rfl, hj⟩ | ⟨-, hj⟩ := restaged hj₀
    · rw [(holds t hj).1] at hb
      cases hb
    · exact h.free j t b hj hb
  · intro j t hj₀
    obtain ⟨rfl, hj⟩ | ⟨-, hj⟩ := restaged hj₀
    · exact mapped t hj
    · exact h.mapped j t hj
  · intro key v hv
    refine (h.covered key v hv).imp_right ?_
    rintro ⟨j, g, hflow, hj⟩
    have hji : j ≠ i := by
      rintro rfl
      exact before _ _ hj
    exact ⟨j, g, hflow, (Function.update_of_ne hji _ _).trans hj⟩

/-- The packet inserted its forward entry. -/
theorem Parallel.reserved (h : Parallel flow cfg st s) {v : TimedFwdNatVal}
    (hi : st i = .probed (sessions.addr (flow i) v)) :
    Parallel flow cfg (Function.update st i (.reserved (sessions.addr (flow i) v) v.generation))
      (s.setFwdNat (flow i) (some v)) := by
  have opening : (st i).Opening := by
    rw [hi]
    trivial
  have holds : ∀ {j t}, (Function.update st i
      (.reserved (sessions.addr (flow i) v) v.generation) j).Holds t → (st j).Holds t := by
    intro j t hj₀
    obtain ⟨rfl, hj⟩ | ⟨-, hj⟩ := restaged hj₀
    · rw [hi]
      exact hj
    · exact hj
  have new := h.fresh i opening
  constructor
  · exact h.config
  · intro j hj₀
    obtain ⟨hji, hj⟩ := restaged_other hj₀ id
    have hflow : flow j ≠ flow i := fun hflow => hji (h.apart j i hj opening hflow)
    rw [Maps.setFwdNat_of_ne _ _ _ hflow]
    exact h.fresh j hj
  · intro j m hj₀ hm₀ hflow
    exact h.apart j m (restaged_other hj₀ id).2 (restaged_other hm₀ id).2 hflow
  · intro j m t hj₀ hm₀
    exact h.alone j m t (holds hj₀) (holds hm₀)
  · intro j t b hj₀ hb
    exact h.free j t b (holds hj₀) hb
  · intro j t hj₀
    obtain ⟨rfl, hj⟩ | ⟨-, hj⟩ := restaged hj₀
    · exact ⟨v, Maps.setFwdNat_self .., hj⟩
    · obtain ⟨u, hu, haddr⟩ := h.mapped j t hj
      have hflow : flow j ≠ flow i := by
        intro hflow
        rw [hflow, new] at hu
        cases hu
      exact ⟨u, (Maps.setFwdNat_of_ne _ _ _ hflow).trans hu, haddr⟩
  · intro key u hu
    by_cases hkey : key = flow i
    · subst hkey
      rw [Maps.setFwdNat_self] at hu
      obtain rfl := Option.some.inj hu
      exact .inr ⟨i, v.generation, rfl, Function.update_self ..⟩
    · rw [Maps.setFwdNat_of_ne _ _ _ hkey] at hu
      refine (h.covered key u hu).imp_right ?_
      rintro ⟨j, g, hflow, hj⟩
      have hji : j ≠ i := by
        rintro rfl
        exact hkey hflow.symm
      exact ⟨j, g, hflow, (Function.update_of_ne hji _ _).trans hj⟩

/-- The packet inserted its reverse entry. -/
theorem Parallel.stored (h : Parallel flow cfg st s) {t : NatKey} {b : NatVal}
    (hflow : b.flow (flow i).proto = flow i)
    (hi : st i = .found t b.generation ∨ st i = .reserved t b.generation) :
    Parallel flow cfg (Function.update st i (.stored t b.generation)) (s.setNat t (some b)) := by
  have hmapped : (st i).Mapped t := by
    obtain hi | hi := hi <;> rw [hi] <;> rfl
  obtain ⟨v, hv, rfl⟩ := h.mapped i t hmapped
  have hproto : (sessions.addr (flow i) v).proto = (flow i).proto := rfl
  have hrecorded := h.covered _ _ hv
  constructor
  · exact h.config
  · intro j hj₀
    exact h.fresh j (restaged_other hj₀ id).2
  · intro j m hj₀ hm₀ hflow
    exact h.apart j m (restaged_other hj₀ id).2 (restaged_other hm₀ id).2 hflow
  · intro j m t hj₀ hm₀
    exact h.alone j m t (restaged_other hj₀ id).2 (restaged_other hm₀ id).2
  · intro j t b' hj₀ hb'
    obtain ⟨-, hj⟩ := restaged_other hj₀ id
    by_cases ht : t = sessions.addr (flow i) v
    · subst ht
      rw [Maps.setNat_self] at hb'
      obtain rfl := Option.some.inj hb'
      rw [hproto, hflow]
      exact (hrecorded.of_holds h hj).symm
    · rw [Maps.setNat_of_ne _ _ _ ht] at hb'
      exact h.free j t b' hj hb'
  · intro j t hj₀
    obtain ⟨rfl, hj⟩ | ⟨-, hj⟩ := restaged hj₀
    · exact ⟨v, hv, hj⟩
    · exact h.mapped j t hj
  · intro key u hu
    by_cases ht : sessions.addr key u = sessions.addr (flow i) v
    · have hold := h.covered key u hu
      rw [ht] at hold ⊢
      obtain rfl := hold.unique h hrecorded
      exact .inl ⟨b, Maps.setNat_self .., hflow⟩
    · obtain ⟨b', hb', hflow'⟩ | ⟨j, g, hflow', hj⟩ := h.covered key u hu
      · exact .inl ⟨b', (Maps.setNat_of_ne _ _ _ ht).trans hb', hflow'⟩
      · have hji : j ≠ i := by
          rintro rfl
          rw [hj] at hmapped
          exact ht hmapped
        exact .inr ⟨j, g, hflow', (Function.update_of_ne hji _ _).trans hj⟩

/-- Any call keeps the invariant, unless it reads that its flow or its tuple is free while
another packet is about to take it. -/
theorem Parallel.step (h : Parallel flow cfg st s) {op : Op}
    (hstep : PacketStep cfg (flow i) op s (st i) stage s')
    (miss : op = .fwdNatLookup (flow i) → s.fwdNat (flow i) = none →
      ∀ j, j ≠ i → (st j).Opening → flow j ≠ flow i)
    (probe : ∀ t, op = .natLookup t → s.nat t = none → ∀ j, j ≠ i → ¬ (st j).Holds t) :
    Parallel flow cfg (Function.update st i stage) s' := by
  generalize hi : st i = before at hstep
  cases hstep with
  | idle =>
    rw [← hi, Function.update_eq_self]
    exact h
  | missed lookup absent =>
    refine h.restage (fun t g hr => ?_) (fun _ => ⟨absent, miss lookup absent⟩)
      (fun t ht => ht.elim) (fun t ht => ht.elim)
    rw [hi] at hr
    cases hr
  | @found v lookup entry =>
    refine h.restage (fun t g hr => ?_) (fun ho => ho.elim) (fun t ht => ht.elim)
      (fun t ht => ⟨v, entry, ht⟩)
    rw [hi] at hr
    cases hr
  | @probed extV4 port call pool free =>
    have opening : (st i).Opening := by
      rw [hi]
      trivial
    refine h.restage (fun t g hr => ?_) (fun _ => ⟨h.fresh i opening, fun j hji hj hflow => ?_⟩)
      (fun t ht => ?_) (fun t ht => ht.elim)
    · rw [hi] at hr
      cases hr
    · exact hji (h.apart j i hj opening hflow)
    · obtain rfl : natKey extV4 port (flow i).proto = t := ht
      exact ⟨free, probe _ call free⟩
  | reserved insert => exact h.reserved hi
  | touched entry same =>
    rw [← hi, Function.update_eq_self]
    exact h.touched entry same
  | stored insert hflow at_stage =>
    subst hi
    exact h.stored hflow at_stage

/-- A packet that returned without a forward entry opens nothing any more. -/
theorem Parallel.closed (h : Parallel flow cfg st s) (opening : (st i).Opening) :
    Parallel flow cfg (Function.update st i .start) s := by
  refine h.restage (fun t g hi => ?_) (fun ho => ho.elim) (fun t ht => ht.elim)
    (fun t ht => ht.elim)
  rw [hi] at opening
  exact opening

end Steps

end Invariant

section Runs
variable {ι : Type} [DecidableEq ι] {k : ι → Kernel} {skb : ι → List UInt8} {cpus : ι → CpuMaps}
  {s : Maps}

/-- Every packet is at the start of `nat64_forward`. -/
def arriving (skb : ι → List UInt8) (cpus : ι → CpuMaps) (s : Maps) : Packets ι where
  progs _ := nat64Forward
  own i := { skb := skb i, cpu := cpus i, log := [], stage := .start }
  shared := s

/-- The next call of a packet, answered from the shared maps. -/
def Packets.step (k : ι → Kernel) : Packets ι → ι → Packets ι :=
  Interleaving.step fun i => packetAnswer (k i)

/-- How far a packet is. One that returned without a forward entry will not open its flow. -/
def Packets.stage (c : Packets ι) (i : ι) : Stage :=
  if (c.result i).isSome ∧ (c.own i).stage.Opening then .start else (c.own i).stage

/-- The next call of packet `i` finds its flow or its tuple free, and another packet that
found the same has not written its entry yet. -/
def Packets.Races (flow : ι → FwdNatKey) (c : Packets ι) (i : ι) : Prop :=
  match c.next i with
  | some (.fwdNatLookup key) =>
      c.shared.fwdNat key = none ∧ ∃ j, j ≠ i ∧ flow j = key ∧ (c.stage j).Opening
  | some (.natLookup t) => c.shared.nat t = none ∧ ∃ j, j ≠ i ∧ (c.stage j).Holds t
  | _ => False

instance [Fintype ι] (flow : ι → FwdNatKey) (c : Packets ι) (i : ι) :
    Decidable (c.Races flow i) := by
  unfold Packets.Races
  cases c.next i with
  | none => exact inferInstanceAs (Decidable False)
  | some op => cases op <;> dsimp only <;> infer_instance

omit [DecidableEq ι] in
theorem parallel_start (covered : sessions.Covered s.fwdNat s.nat) (flow : ι → FwdNatKey) :
    Parallel flow (s.config.getD DEFAULT_CFG) (fun _ => .start) s := by
  refine ⟨rfl, fun _ h => h.elim, fun _ _ h => h.elim, fun _ _ _ h => h.elim, fun _ _ _ h => h.elim,
    fun _ _ h => h.elim, fun key v hv => ?_⟩
  obtain ⟨b, hb, agrees⟩ := covered key v hv
  exact .inl ⟨b, hb, flow_of_agrees agrees⟩

omit [DecidableEq ι] in
theorem stage_of_call {c : Packets ι} {i : ι} {op : Op} {next : op.Resp → Ebpf TcAction}
    (h : c.progs i = .call op next) : c.stage i = (c.own i).stage := by
  have running : c.result i = none := by
    unfold Pool.result
    rw [h]
  rw [Packets.stage, running, if_neg fun hc => Bool.false_ne_true hc.1]

omit [DecidableEq ι] in
theorem stage_of_not_opening {c : Packets ι} {i : ι} (h : ¬ (c.own i).stage.Opening) :
    c.stage i = (c.own i).stage := if_neg fun hc => h hc.2

theorem stage_step_of_ne {c : Packets ι} {i j : ι} (h : j ≠ i) :
    (c.step k i).stage j = c.stage j := by
  have place : (c.step k i).place j = c.place j := place_step_of_ne h
  have hprogs : (c.step k i).progs j = c.progs j := congrArg Prod.fst place
  have hown : (c.step k i).own j = c.own j := congrArg Prod.snd place
  have hresult : (c.step k i).result j = c.result j := by
    unfold Pool.result
    rw [hprogs]
  rw [Packets.stage, Packets.stage, hresult, hown]

/-- The packets keep to the protocol. -/
structure Packets.Keep (k : ι → Kernel) (skb : ι → List UInt8) (cfg : Nat64Config)
    (c : Packets ι) : Prop where
  safe : ∀ i, Safe (packetAnswer (k i)) (fun l => ForwardMay cfg (fwdKeyAt (skb i)) l.stage)
    (fun l => ForwardKnows cfg (fwdKeyAt (skb i)) l.stage)
    (fun a => ForwardPost (k i) (skb i) (.ok a)) (c.progs i) (c.own i)
  inv : Parallel (fun i => fwdKeyAt (skb i)) cfg c.stage c.shared

/-- A call that does not race. -/
theorem Packets.Keep.step {cfg : Nat64Config} {c : Packets ι} {i : ι} (h : c.Keep k skb cfg)
    (ok : ¬ c.Races (fun i => fwdKeyAt (skb i)) i) : (c.step k i).Keep k skb cfg := by
  cases hp : c.progs i with
  | done a =>
      rw [Packets.step, step_done hp]
      exact h
  | call op next =>
      have hstage := stage_of_call hp
      have known : ForwardKnows cfg (fwdKeyAt (skb i)) (c.own i).stage c.shared := by
        refine ⟨h.inv.config, fun t g hi => ?_⟩
        obtain ⟨v, hv, -⟩ := h.inv.mapped i t (by rw [hstage, hi]; rfl)
        rw [hv]
        exact Option.some_ne_none v
      refine ⟨safe_step h.safe known, ?_⟩
      have may := (h.safe i)
      rw [hp] at may
      rw [Packets.Races, c.next_call hp] at ok
      have called := packet_step (k := k i) may.1 c.shared
      rw [← hstage] at called
      have kept := h.inv.step called (by
        rintro rfl absent j hji hj hflow
        exact ok ⟨absent, j, hji, hflow, hj⟩) (by
        rintro t rfl free j hji hj
        exact ok ⟨free, j, hji, hj⟩)
      have hown : (c.step k i).own i = (packetAnswer (k i) op (c.own i) c.shared).2.1 :=
        congrArg Prod.snd (place_step_self hp)
      have hshared : (c.step k i).shared = (packetAnswer (k i) op (c.own i) c.shared).2.2 :=
        shared_step hp
      rw [← hown, ← hshared] at kept
      have stages : (c.step k i).stage = Function.update c.stage i ((c.step k i).stage i) := by
        funext j
        by_cases hj : j = i
        · subst hj
          rw [Function.update_self]
        · rw [Function.update_of_ne hj, stage_step_of_ne hj]
      rw [stages]
      by_cases opens : ((c.step k i).own i).stage.Opening
      · have closed := kept.closed (i := i) (by rw [Function.update_self]; exact opens)
        rw [Function.update_idem] at closed
        unfold Packets.stage
        split
        · exact closed
        · exact kept
      · rw [stage_of_not_opening opens]
        exact kept

/-- So it is in a run that does not race. -/
theorem keep_run (covered : sessions.Covered s.fwdNat s.nat) (arms : ∀ i, (k i).Arms = true)
    (inserts : ∀ i, (k i).natInsertOk = true) {schedule : List ι}
    (along : Along (Packets.step k) (fun c i => ¬ c.Races (fun i => fwdKeyAt (skb i)) i)
      (arriving skb cpus s) schedule) :
    (run (Packets.step k) (arriving skb cpus s) schedule).Keep k skb
      (s.config.getD DEFAULT_CFG) := by
  have start : (arriving skb cpus s).Keep k skb (s.config.getD DEFAULT_CFG) := by
    refine ⟨fun i => ?_, ?_⟩
    · exact safe_nat64Forward (arms i) (inserts i) ⟨skb i, cpus i, []⟩
    · have stages : (arriving skb cpus s).stage = fun _ => .start := by
        funext i
        exact stage_of_not_opening id
      rw [stages]
      exact parallel_start covered _
  exact invariant (fun _ _ h ok => h.step ok) start along

/-- The external address and port in the frame of packet `i`. -/
def Packets.external (c : Packets ι) (i : ι) : UInt32 × UInt16 :=
  ((ipv4TupleAt (c.own i).skb).src, (ipv4TupleAt (c.own i).skb).sport)

/-- In every run without a race, two redirected packets of one protocol carry the same
external tuple exactly if they belong to the same flow. -/
theorem parallel_tuples (covered : sessions.Covered s.fwdNat s.nat)
    (arms : ∀ i, (k i).Arms = true) (inserts : ∀ i, (k i).natInsertOk = true) {schedule : List ι}
    (noRace : Along (Packets.step k) (fun c i => ¬ c.Races (fun i => fwdKeyAt (skb i)) i)
      (arriving skb cpus s) schedule) {i j : ι}
    (hi : (run (Packets.step k) (arriving skb cpus s) schedule).result i = some .redirect)
    (hj : (run (Packets.step k) (arriving skb cpus s) schedule).result j = some .redirect)
    (proto : u8At (skb i) 20 = u8At (skb j) 20) :
    (run (Packets.step k) (arriving skb cpus s) schedule).external i =
        (run (Packets.step k) (arriving skb cpus s) schedule).external j ↔
      fwdKeyAt (skb i) = fwdKeyAt (skb j) := by
  have keep := keep_run covered arms inserts noRace
  generalize run (Packets.step k) (arriving skb cpus s) schedule = c at keep hi hj ⊢
  have mapped : ∀ {i}, c.result i = some .redirect →
      (c.stage i).Mapped (natKey (c.external i).1 (c.external i).2 (u8At (skb i) 20)) := by
    intro i hi
    have safe := keep.safe i
    rw [Pool.done_of_result hi] at safe
    obtain ⟨g, hstored⟩ := safe.1 rfl
    rw [stage_of_not_opening (by rw [hstored]; exact id), hstored]
    rfl
  have tuples := keep.inv.tuples (mapped hi) (mapped hj)
  rw [← tuples, natKey_inj, Packets.external, Packets.external, Prod.mk.injEq]
  simp only [proto, and_true]

end Runs

/-- Two TCP packets with the given source ports. -/
def exampleFrames (sport : Bool → UInt16) (i : Bool) : List UInt8 := exampleTcp6 (sport i) 20

/-- They arrive on two CPUs with the given cursors, on empty maps. -/
def examplePackets (sport : Bool → UInt16) (cursor : Bool → UInt32) : Packets Bool :=
  arriving (exampleFrames sport) (fun i => ⟨some (cursor i), some .default⟩) exampleSystem.maps

/-- Their calls in turn. -/
def inTurn (n : Nat) : List Bool := (List.replicate n [false, true]).flatten

/-- The second packet has found its flow and a tuple free, and waits with its entry until the first
has left. -/
def oneWaits : List Bool :=
  List.replicate 38 true ++ List.replicate 80 false ++ List.replicate 80 true

def exampleRun (sport : Bool → UInt16) (cursor : Bool → UInt32) (schedule : List Bool) :
    Packets Bool :=
  run (Packets.step fun _ => .ideal 1000 7) (examplePackets sport cursor) schedule

def apartSports (i : Bool) : UInt16 := if i then 4001 else 4000
def equalSports (_ : Bool) : UInt16 := 4000
def apartCursors (i : Bool) : UInt32 := if i then 9 else 0
def equalCursors (_ : Bool) : UInt32 := 0

theorem parallel_tuples_example :
    (exampleRun apartSports apartCursors (inTurn 64)).external false =
        (exampleRun apartSports apartCursors (inTurn 64)).external true ↔
      fwdKeyAt (exampleFrames apartSports false) = fwdKeyAt (exampleFrames apartSports true) :=
  parallel_tuples (sessions.mirror_empty).1 (fun _ => rfl) (fun _ => rfl) (by decide +kernel)
    (by decide +kernel) (by decide +kernel) rfl

/-- From empty maps: two flows on CPUs whose cursors are equal leave with one external
tuple, and two packets of one flow, on CPUs whose cursors differ, with two. -/
theorem parallel_packets_disagree :
    sessions.Mirror exampleSystem.maps.fwdNat exampleSystem.maps.nat ∧
    ((∀ i, (exampleRun apartSports equalCursors (inTurn 64)).result i = some .redirect) ∧
      (exampleRun apartSports equalCursors (inTurn 64)).external false =
        (exampleRun apartSports equalCursors (inTurn 64)).external true ∧
      fwdKeyAt (exampleFrames apartSports false) ≠ fwdKeyAt (exampleFrames apartSports true)) ∧
    (∀ i, (exampleRun equalSports apartCursors oneWaits).result i = some .redirect) ∧
      (exampleRun equalSports apartCursors oneWaits).external false ≠
        (exampleRun equalSports apartCursors oneWaits).external true := by
  refine ⟨sessions.mirror_empty, ⟨?_, ?_, ?_⟩, ?_, ?_⟩
  · decide +kernel
  · decide +kernel
  · decide +kernel
  · decide +kernel
  · decide +kernel

end Natto64
