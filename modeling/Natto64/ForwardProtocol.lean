import Natto64.FrameFields
import Natto64.Interleaving
import Natto64.LocalCalls
import Natto64.SessionSteps

/-!
# A forward packet among others

Other invocations change the maps between two calls of a packet. How far the packet is
with its flow, which calls it makes at each stage, and the external tuple it leaves with.
-/
namespace Natto64
open Octets

/-- How far a packet is with its flow. -/
inductive Stage where
  | start
  /-- The flow has no forward entry. -/
  | missed
  /-- The external tuple `t` has no reverse entry. -/
  | probed (t : NatKey)
  /-- The forward entry is inserted. -/
  | reserved (t : NatKey) (generation : UInt32)
  /-- The flow has a forward entry. -/
  | found (t : NatKey) (generation : UInt32)
  /-- The reverse entry is inserted. -/
  | stored (t : NatKey) (generation : UInt32)
  deriving DecidableEq

/-- The packet missed its flow and has not inserted the forward entry. -/
def Stage.Opening : Stage → Prop
  | .missed | .probed _ => True
  | _ => False

instance : DecidablePred Stage.Opening
  | .missed | .probed _ => inferInstanceAs (Decidable True)
  | .start | .reserved _ _ | .found _ _ | .stored _ _ => inferInstanceAs (Decidable False)

/-- The stage after a call, told from its answer. -/
def Stage.next : Stage → (op : Op) → op.Resp → Stage
  | .start, .fwdNatLookup _, none => .missed
  | .start, .fwdNatLookup key, some v => .found (sessions.addr key v) v.generation
  | .missed, .natLookup t, none => .probed t
  | .probed _, .fwdNatInsert key v, true => .reserved (sessions.addr key v) v.generation
  | .found t generation, .natInsert _ _, true => .stored t generation
  | .reserved t generation, .natInsert _ _, true => .stored t generation
  | stage, _, _ => stage

theorem Stage.next_local {op : Op} (h : op.Local) (stage : Stage) (r : op.Resp) :
    stage.next op r = stage := by
  cases op <;> first | exact h.elim | (cases stage <;> rfl)

/-- The flow a reverse entry records, given its protocol. -/
def NatVal.flow (b : NatVal) (proto : UInt8) : FwdNatKey where
  vmV6 := b.vmV6
  remoteV4 := b.remoteV4
  vmPort := b.vmPort
  remotePort := b.remotePort
  proto := proto

theorem flow_of_agrees {key : FwdNatKey} {v : TimedFwdNatVal} {b : NatVal}
    (h : sessions.Agrees key v b) : b.flow key.proto = key := by
  obtain ⟨vmV6, remoteV4, vmPort, remotePort, proto⟩ := key
  obtain ⟨hvm, hvmPort, hremote, hremotePort, -⟩ := h
  simp only [NatVal.flow, FwdNatKey.mk.injEq]
  exact ⟨hvm, hremote, hvmPort, hremotePort, trivial⟩

/-- The calls on the maps that a packet of the flow `key` makes at each stage. -/
def ForwardMay (cfg : Nat64Config) (key : FwdNatKey) (stage : Stage) : Op → Prop
  | .fwdNatLookup key' => key' = key ∧ (stage = .start ∨ ∃ t g, stage = .reserved t g)
  | .fwdNatSetLastSeen key' _ | .fwdNatSetObserved key' _ =>
      key' = key ∧ ∃ t g, stage = .found t g
  | .natLookup t => stage = .missed ∧
      ∃ extV4 port, selectV4FromPoolEbpf key.vmV6 cfg = some extV4 ∧ t = natKey extV4 port key.proto
  | .fwdNatInsert key' v => key' = key ∧ stage = .probed (sessions.addr key v)
  | .timerStart key' _ => key' = key ∧ ∃ t g, stage = .reserved t g
  | .natInsert t b => b.flow key.proto = key ∧
      (stage = .found t b.generation ∨ stage = .reserved t b.generation)
  | .fwdNatRemove _ | .natSetLastSeen _ _ | .natRemove _ => False
  | _ => True

/-- What the packet counts on: the configuration, and the forward entry it inserted. -/
structure ForwardKnows (cfg : Nat64Config) (key : FwdNatKey) (stage : Stage) (s : Maps) : Prop where
  config : s.config.getD DEFAULT_CFG = cfg
  reserved : ∀ t g, stage = .reserved t g → s.fwdNat key ≠ none

abbrev PacketState := Staged Stage

def packetAnswer (k : Kernel) : (op : Op) → PacketState → Maps → op.Resp × PacketState × Maps :=
  stagedAnswer Stage.next k

/-- What a permitted call does to the stage and to the maps. -/
inductive PacketStep (cfg : Nat64Config) (key : FwdNatKey) (op : Op) (s : Maps) :
    Stage → Stage → Maps → Prop
  | idle {stage} : PacketStep cfg key op s stage stage s
  | missed (lookup : op = .fwdNatLookup key) (absent : s.fwdNat key = none) :
      PacketStep cfg key op s .start .missed s
  | found {v} (lookup : op = .fwdNatLookup key) (entry : s.fwdNat key = some v) :
      PacketStep cfg key op s .start (.found (sessions.addr key v) v.generation) s
  | probed {extV4 port} (probe : op = .natLookup (natKey extV4 port key.proto))
      (pool : selectV4FromPoolEbpf key.vmV6 cfg = some extV4)
      (free : s.nat (natKey extV4 port key.proto) = none) :
      PacketStep cfg key op s .missed (.probed (natKey extV4 port key.proto)) s
  | reserved {v} (insert : op = .fwdNatInsert key v) :
      PacketStep cfg key op s (.probed (sessions.addr key v))
        (.reserved (sessions.addr key v) v.generation) (s.setFwdNat key (some v))
  | touched {stage} {v w : TimedFwdNatVal} (entry : s.fwdNat key = some v) (same : v.SameTuple w) :
      PacketStep cfg key op s stage stage (s.setFwdNat key (some w))
  | stored {stage t b} (insert : op = .natInsert t b) (flow : b.flow key.proto = key)
      (at_stage : stage = .found t b.generation ∨ stage = .reserved t b.generation) :
      PacketStep cfg key op s stage (.stored t b.generation) (s.setNat t (some b))

/-- The program makes only the calls of its stage. -/
def ForwardSafe {α : Type} (k : Kernel) (cfg : Nat64Config) (key : FwdNatKey)
    (post : α → PacketState → Prop) (p : Ebpf α) (l : PacketState) : Prop :=
  Interleaving.Safe (packetAnswer k) (fun l => ForwardMay cfg key l.stage)
    (fun l => ForwardKnows cfg key l.stage) post p l

section Safe
variable {α β : Type} {k : Kernel} {cfg : Nat64Config} {key : FwdNatKey}
  {post : β → PacketState → Prop} {v : Invocation} {stage : Stage}

theorem ForwardMay.of_local {op : Op} (h : op.Local) : ForwardMay cfg key stage op := by
  cases op <;> first | exact h.elim | trivial

/-- A write through the pointer of a forward entry that keeps its tuple. -/
theorem PacketStep.touch {op : Op} {s : Maps} {f : TimedFwdNatVal → TimedFwdNatVal}
    (same : ∀ v : TimedFwdNatVal, v.SameTuple (f v)) :
    PacketStep cfg key op s stage stage (s.setFwdNat key ((s.fwdNat key).map f)) := by
  cases hv : s.fwdNat key with
  | none =>
    rw [Option.map_none, Maps.setFwdNat_eq_self hv]
    exact .idle
  | some w => exact .touched hv (same w)

theorem packetAnswer_local {op : Op} (h : op.Local) (v : Invocation) (stage : Stage)
    (s s' : Maps) : packetAnswer k op ⟨v, stage⟩ s' = ((k.answer op (v.machine s)).1,
      ⟨(k.answer op (v.machine s)).2.invocation, stage⟩, s') :=
  stagedAnswer_local h (Stage.next_local h stage) s s'

/-- The calls on the maps, one by one. -/
theorem packet_step {op : Op} {l : PacketState} (may : ForwardMay cfg key l.stage op) (s : Maps) :
    PacketStep cfg key op s l.stage (packetAnswer k op l s).2.1.stage
      (packetAnswer k op l s).2.2 := by
  obtain ⟨v, stage⟩ := l
  by_cases hlocal : op.Local
  · rw [packetAnswer_local hlocal v stage s s]
    exact .idle
  cases op with
  | configGet =>
    change PacketStep cfg key _ s stage (stage.next .configGet s.config) s
    cases stage <;> exact .idle
  | fwdNatLookup key' =>
    obtain ⟨rfl, rfl | ⟨t, generation, rfl⟩⟩ := may
    · change PacketStep cfg key' _ s .start
        (Stage.start.next (.fwdNatLookup key') (s.fwdNat key')) s
      cases hv : s.fwdNat key' with
      | none => exact .missed rfl hv
      | some w => exact .found rfl hv
    · exact .idle
  | fwdNatSetLastSeen key' ns =>
    obtain ⟨rfl, t, generation, rfl⟩ := may
    exact .touch fun _ => ⟨rfl, rfl, rfl⟩
  | fwdNatSetObserved key' ns =>
    obtain ⟨rfl, t, generation, rfl⟩ := may
    exact .touch fun _ => ⟨rfl, rfl, rfl⟩
  | natLookup t =>
    obtain ⟨rfl, extV4, port, pool, rfl⟩ := may
    change PacketStep cfg key _ s .missed (Stage.missed.next (.natLookup _) (s.nat _)) s
    cases hb : s.nat (natKey extV4 port key.proto) with
    | none => exact .probed rfl pool hb
    | some b => exact .idle
  | fwdNatInsert key' w =>
    obtain ⟨rfl, hstage⟩ := may
    obtain ⟨v', -, hanswer⟩ := stagedAnswer_fwdNatInsert Stage.next k ⟨v, stage⟩ s key' w
    rw [packetAnswer, hanswer]
    subst hstage
    split
    · exact .reserved rfl
    · exact .idle
  | timerStart key' delayNs =>
    obtain ⟨rfl, t, generation, rfl⟩ := may
    obtain ⟨v', -, hanswer⟩ :=
      stagedAnswer_timerStart Stage.next k ⟨v, .reserved t generation⟩ s key' delayNs
    rw [packetAnswer, hanswer]
    split
    · exact .touch fun _ => ⟨rfl, rfl, rfl⟩
    · exact .idle
  | natInsert t b =>
    obtain ⟨flow, at_stage⟩ := may
    obtain ⟨v', -, hanswer⟩ := stagedAnswer_natInsert Stage.next k ⟨v, stage⟩ s t b
    rw [packetAnswer, hanswer]
    dsimp only at at_stage
    split
    · have stored : stage.next (.natInsert t b) true = .stored t b.generation := by
        rcases at_stage with rfl | rfl <;> rfl
      rw [stored]
      exact .stored rfl flow at_stage
    · have same : stage.next (.natInsert t b) false = stage := by
        rcases at_stage with rfl | rfl <;> rfl
      rw [same]
      exact .idle
  | fwdNatRemove | natSetLastSeen | natRemove => exact may.elim
  | _ => exact absurd trivial hlocal

/-- A local program runs as it does alone, on whatever maps. -/
theorem safe_local {p : Ebpf α} (hp : LocalCalls p) (s : Maps) {q : α → Ebpf β}
    (h : ForwardSafe k cfg key post (q (k.exec p (v.machine s)).1)
      ⟨(k.exec p (v.machine s)).2.invocation, stage⟩) :
    ForwardSafe k cfg key post (p >>= q) ⟨v, stage⟩ := by
  induction p generalizing v with
  | done a => exact h
  | call op next ih =>
    refine ⟨ForwardMay.of_local hp.1, fun s' _ => ?_⟩
    rw [packetAnswer_local hp.1 v stage s s']
    have hstate : (k.answer op (v.machine s)).2 =
        (k.answer op (v.machine s)).2.invocation.machine s :=
      congrArg Prod.snd (answer_local hp.1 k v s s)
    apply ih _ (hp.2 _)
    rw [← hstate]
    exact h

/-- A local program at the end. -/
theorem safe_local_end {p : Ebpf β} (hp : LocalCalls p) (s : Maps)
    (h : post (k.exec p (v.machine s)).1 ⟨(k.exec p (v.machine s)).2.invocation, stage⟩) :
    ForwardSafe k cfg key post p ⟨v, stage⟩ := by
  have hbind : ForwardSafe k cfg key post (p >>= pure) ⟨v, stage⟩ := safe_local hp s h
  rwa [bind_pure] at hbind

theorem ForwardSafe.bind {post' : α → PacketState → Prop} {p : Ebpf α} {q : α → Ebpf β}
    {l : PacketState} (hp : ForwardSafe k cfg key post' p l)
    (hq : ∀ a l', post' a l' → ForwardSafe k cfg key post (q a) l') :
    ForwardSafe k cfg key post (p >>= q) l :=
  Interleaving.Safe.bind (Interleaving.Safe.mono hq hp)

/-- The maps of an empty dataplane: local programs may be run on them. -/
def noMaps : Maps := { config := none, fwdNat := fun _ => none, nat := fun _ => none }

theorem safe_withCounters {prod : List ProdCounter} {debug : List DebugCounter} {q : Unit → Ebpf β}
    (h : ForwardSafe k cfg key post (q ()) ⟨v, stage⟩) :
    ForwardSafe k cfg key post (withCounters prod debug >>= q) ⟨v, stage⟩ :=
  safe_local (local_withCounters prod debug) noMaps h

/-! One rule for each call on a shared map. -/

theorem safe_configGet {q : Option Nat64Config → Ebpf β}
    (h : ∀ c, c.getD DEFAULT_CFG = cfg → ForwardSafe k cfg key post (q c) ⟨v, stage⟩) :
    ForwardSafe k cfg key post (configGet >>= q) ⟨v, stage⟩ := by
  refine ⟨trivial, fun s hs => ?_⟩
  have hstage : stage.next .configGet s.config = stage := by cases stage <;> rfl
  change ForwardSafe k cfg key post (q s.config) ⟨v, stage.next .configGet s.config⟩
  rw [hstage]
  exact h s.config hs.config

theorem safe_fwdNatLookup {q : Option TimedFwdNatVal → Ebpf β}
    (missed : ForwardSafe k cfg key post (q none) ⟨v, .missed⟩)
    (found : ∀ w, ForwardSafe k cfg key post (q (some w))
      ⟨v, .found (sessions.addr key w) w.generation⟩) :
    ForwardSafe k cfg key post (fwdNatLookup key >>= q) ⟨v, .start⟩ := by
  refine ⟨⟨rfl, .inl rfl⟩, fun s _ => ?_⟩
  change ForwardSafe k cfg key post (q (s.fwdNat key))
    ⟨v, Stage.start.next (.fwdNatLookup key) (s.fwdNat key)⟩
  cases s.fwdNat key with
  | none => exact missed
  | some w => exact found w

theorem safe_fwdNatLookup_reserved {t : NatKey} {generation : UInt32}
    {q : Option TimedFwdNatVal → Ebpf β}
    (h : ∀ w, ForwardSafe k cfg key post (q (some w)) ⟨v, .reserved t generation⟩) :
    ForwardSafe k cfg key post (fwdNatLookup key >>= q) ⟨v, .reserved t generation⟩ := by
  refine ⟨⟨rfl, .inr ⟨t, generation, rfl⟩⟩, fun s hs => ?_⟩
  obtain ⟨w, hw⟩ := Option.ne_none_iff_exists'.mp (hs.reserved t generation rfl)
  change ForwardSafe k cfg key post (q (s.fwdNat key)) _
  rw [hw]
  exact h w

theorem safe_fwdNatSet {t : NatKey} {generation : UInt32} {lastSeen observed : UInt64}
    {q : Unit → Ebpf β} (h : ForwardSafe k cfg key post (q ()) ⟨v, .found t generation⟩) :
    ForwardSafe k cfg key post (fwdNatSetLastSeen key lastSeen >>= fun _ =>
      fwdNatSetObserved key observed >>= q) ⟨v, .found t generation⟩ :=
  ⟨⟨rfl, t, generation, rfl⟩, fun _ _ => ⟨⟨rfl, t, generation, rfl⟩, fun _ _ => h⟩⟩

theorem safe_natLookup {extV4 : UInt32} {port : UInt16} {q : Option NatVal → Ebpf β}
    (pool : selectV4FromPoolEbpf key.vmV6 cfg = some extV4)
    (taken : ∀ b, ForwardSafe k cfg key post (q (some b)) ⟨v, .missed⟩)
    (free : ForwardSafe k cfg key post (q none) ⟨v, .probed (natKey extV4 port key.proto)⟩) :
    ForwardSafe k cfg key post (natLookup (natKey extV4 port key.proto) >>= q) ⟨v, .missed⟩ := by
  refine ⟨⟨rfl, extV4, port, pool, rfl⟩, fun s _ => ?_⟩
  change ForwardSafe k cfg key post (q (s.nat (natKey extV4 port key.proto)))
    ⟨v, Stage.missed.next (.natLookup _) (s.nat (natKey extV4 port key.proto))⟩
  cases s.nat (natKey extV4 port key.proto) with
  | none => exact free
  | some b => exact taken b

theorem safe_fwdNatInsert {w : TimedFwdNatVal} {q : Bool → Ebpf β}
    (inserted : ∀ v', v'.skb = v.skb → ForwardSafe k cfg key post (q true)
      ⟨v', .reserved (sessions.addr key w) w.generation⟩)
    (failed : ∀ v', v'.skb = v.skb → ForwardSafe k cfg key post (q false)
      ⟨v', .probed (sessions.addr key w)⟩) :
    ForwardSafe k cfg key post (fwdNatInsert key w >>= q) ⟨v, .probed (sessions.addr key w)⟩ := by
  refine ⟨⟨rfl, rfl⟩, fun s _ => ?_⟩
  obtain ⟨v', hskb, hanswer⟩ :=
    stagedAnswer_fwdNatInsert Stage.next k ⟨v, .probed (sessions.addr key w)⟩ s key w
  rw [packetAnswer, hanswer]
  split
  · exact inserted v' hskb
  · exact failed v' hskb

theorem safe_timerStart {t : NatKey} {generation : UInt32} {delayNs : UInt64} {q : Bool → Ebpf β}
    (starts : k.timerStartOk = true)
    (h : ∀ v', v'.skb = v.skb → ForwardSafe k cfg key post (q true) ⟨v', .reserved t generation⟩) :
    ForwardSafe k cfg key post (bpfTimerStart key delayNs >>= q) ⟨v, .reserved t generation⟩ := by
  refine ⟨⟨rfl, t, generation, rfl⟩, fun s _ => ?_⟩
  obtain ⟨v', hskb, hanswer⟩ :=
    stagedAnswer_timerStart Stage.next k ⟨v, .reserved t generation⟩ s key delayNs
  rw [packetAnswer, hanswer, if_pos starts]
  exact h v' hskb

theorem safe_natInsert {t : NatKey} {b : NatVal} {q : Bool → Ebpf β} (flow : b.flow key.proto = key)
    (at_stage : stage = .found t b.generation ∨ stage = .reserved t b.generation)
    (inserts : k.natInsertOk = true)
    (h : ∀ v', v'.skb = v.skb → ForwardSafe k cfg key post (q true) ⟨v', .stored t b.generation⟩) :
    ForwardSafe k cfg key post (natInsert t b >>= q) ⟨v, stage⟩ := by
  refine ⟨⟨flow, at_stage⟩, fun s _ => ?_⟩
  obtain ⟨v', hskb, hanswer⟩ := stagedAnswer_natInsert Stage.next k ⟨v, stage⟩ s t b
  rw [packetAnswer, hanswer, if_pos inserts]
  obtain hfound | hreserved := at_stage
  · subst hfound
    exact h v' hskb
  · subst hreserved
    exact h v' hskb

end Safe

end Natto64
