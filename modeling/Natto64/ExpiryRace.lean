import Natto64.Expiry
import Natto64.ForwardSafety

/-!
# A timer callback beside a packet of its flow

The calls of one timer callback and of one forward packet of the same flow interleave in
any order. What is left of the session when both have finished.
-/
namespace Natto64
open EventRun Interleaving

/-! ## The callback -/

/-- How far the callback is. -/
inductive ExpiryStage where
  | watching
  /-- The reverse entry is removed. -/
  | unrecorded
  /-- Both entries are removed. -/
  | expired
  deriving DecidableEq

def ExpiryStage.next : ExpiryStage → (op : Op) → op.Resp → ExpiryStage
  | .watching, .natRemove _, true => .unrecorded
  | .unrecorded, .fwdNatRemove _, true => .expired
  | stage, _, _ => stage

theorem ExpiryStage.next_local {op : Op} (h : op.Local) (stage : ExpiryStage) (r : op.Resp) :
    stage.next op r = stage := by
  cases op <;> first | exact h.elim | (cases stage <;> rfl)

abbrev CallbackState := Staged ExpiryStage

def callbackAnswer (k : Kernel) :
    (op : Op) → CallbackState → Maps → op.Resp × CallbackState × Maps :=
  stagedAnswer ExpiryStage.next k

/-- The forward entry of the flow has the tuple `t`. -/
def Maps.HoldsForward (s : Maps) (key : FwdNatKey) (t : NatKey) (generation : UInt32) : Prop :=
  ∃ v, s.fwdNat key = some v ∧ sessions.addr key v = t ∧ v.generation = generation

/-- The reverse entry at `t` is of the flow. -/
def Maps.HoldsReverse (s : Maps) (key : FwdNatKey) (t : NatKey) (generation : UInt32) : Prop :=
  ∃ b, s.nat t = some b ∧ b.flow t.proto = key ∧ b.generation = generation

/-- The calls on the maps that the callback of a session at `t` makes at each stage. -/
def CallbackMay (key : FwdNatKey) (t : NatKey) (stage : ExpiryStage) : Op → Prop
  | .fwdNatSetObserved key' _ | .timerStart key' _ => key' = key ∧ stage = .watching
  | .natRemove t' => t' = t ∧ stage = .watching
  | .fwdNatRemove key' => key' = key ∧ stage = .unrecorded
  | .fwdNatSetLastSeen _ _ | .fwdNatInsert _ _ | .natSetLastSeen _ _ | .natInsert _ _ => False
  | _ => True

/-- Both entries are there until the callback removes them. -/
def CallbackKnows (key : FwdNatKey) (t : NatKey) (generation : UInt32) (stage : ExpiryStage)
    (s : Maps) : Prop :=
  stage = .watching → s.HoldsForward key t generation ∧ s.HoldsReverse key t generation

def CallbackSafe {α : Type} (k : Kernel) (key : FwdNatKey) (t : NatKey) (generation : UInt32)
    (post : α → CallbackState → Prop) (p : Ebpf α) (l : CallbackState) : Prop :=
  Interleaving.Safe (callbackAnswer k) (fun l => CallbackMay key t l.stage)
    (fun l => CallbackKnows key t generation l.stage) post p l

/-- What a permitted call does to the stage and to the maps. -/
inductive CallbackStep (key : FwdNatKey) (t : NatKey) (s : Maps) :
    ExpiryStage → ExpiryStage → Maps → Prop
  | idle {stage} : CallbackStep key t s stage stage s
  | touched {v w : TimedFwdNatVal} (entry : s.fwdNat key = some v) (same : v.SameTuple w) :
      CallbackStep key t s .watching .watching (s.setFwdNat key (some w))
  | unrecorded : CallbackStep key t s .watching .unrecorded (s.setNat t none)
  | expired : CallbackStep key t s .unrecorded .expired (s.setFwdNat key none)

section Callback
variable {k : Kernel} {key : FwdNatKey} {t : NatKey} {generation : UInt32} {β : Type}
  {post : β → CallbackState → Prop} {v : Invocation} {stage : ExpiryStage}

theorem CallbackStep.touch {s : Maps} {f : TimedFwdNatVal → TimedFwdNatVal}
    (same : ∀ v : TimedFwdNatVal, v.SameTuple (f v)) :
    CallbackStep key t s .watching .watching (s.setFwdNat key ((s.fwdNat key).map f)) := by
  cases hv : s.fwdNat key with
  | none =>
    rw [Option.map_none, Maps.setFwdNat_eq_self hv]
    exact .idle
  | some w => exact .touched hv (same w)

theorem callback_step {op : Op} {l : CallbackState} (may : CallbackMay key t l.stage op)
    (s : Maps) : CallbackStep key t s l.stage (callbackAnswer k op l s).2.1.stage
      (callbackAnswer k op l s).2.2 := by
  obtain ⟨v, stage⟩ := l
  by_cases hlocal : op.Local
  · rw [callbackAnswer, stagedAnswer_local hlocal (ExpiryStage.next_local hlocal stage) s s]
    exact .idle
  cases op with
  | configGet | fwdNatLookup | natLookup => cases stage <;> exact .idle
  | fwdNatSetObserved key' ns =>
    obtain ⟨rfl, rfl⟩ := may
    exact .touch fun _ => ⟨rfl, rfl, rfl⟩
  | timerStart key' delayNs =>
    obtain ⟨rfl, rfl⟩ := may
    obtain ⟨v', -, hanswer⟩ :=
      stagedAnswer_timerStart ExpiryStage.next k ⟨v, .watching⟩ s key' delayNs
    rw [callbackAnswer, hanswer]
    split
    · exact .touch fun _ => ⟨rfl, rfl, rfl⟩
    · exact .idle
  | natRemove t' =>
    obtain ⟨rfl, rfl⟩ := may
    obtain ⟨v', -, hanswer⟩ := stagedAnswer_natRemove ExpiryStage.next k ⟨v, .watching⟩ s t'
    rw [callbackAnswer, hanswer]
    split
    · exact .unrecorded
    · exact .idle
  | fwdNatRemove key' =>
    obtain ⟨rfl, rfl⟩ := may
    obtain ⟨v', -, hanswer⟩ :=
      stagedAnswer_fwdNatRemove ExpiryStage.next k ⟨v, .unrecorded⟩ s key'
    rw [callbackAnswer, hanswer]
    split
    · exact .expired
    · exact .idle
  | fwdNatSetLastSeen | fwdNatInsert | natSetLastSeen | natInsert => exact may.elim
  | _ => exact absurd trivial hlocal

/-! Its calls, as long as both entries are there. -/

theorem callback_fwdNatLookup {q : Option TimedFwdNatVal → Ebpf β}
    (h : ∀ w, sessions.addr key w = t → w.generation = generation →
      CallbackSafe k key t generation post (q (some w)) ⟨v, .watching⟩) :
    CallbackSafe k key t generation post (fwdNatLookup key >>= q) ⟨v, .watching⟩ := by
  refine ⟨trivial, fun s hs => ?_⟩
  obtain ⟨w, hw, haddr, hgeneration⟩ := (hs rfl).1
  change CallbackSafe k key t generation post (q (s.fwdNat key)) ⟨v, .watching⟩
  rw [hw]
  exact h w haddr hgeneration

theorem callback_natLookup {q : Option NatVal → Ebpf β}
    (h : ∀ b, b.generation = generation →
      CallbackSafe k key t generation post (q (some b)) ⟨v, .watching⟩) :
    CallbackSafe k key t generation post (natLookup t >>= q) ⟨v, .watching⟩ := by
  refine ⟨trivial, fun s hs => ?_⟩
  obtain ⟨b, hb, -, hgeneration⟩ := (hs rfl).2
  change CallbackSafe k key t generation post (q (s.nat t)) ⟨v, .watching⟩
  rw [hb]
  exact h b hgeneration

theorem callback_configGet {q : Option Nat64Config → Ebpf β}
    (h : ∀ c, CallbackSafe k key t generation post (q c) ⟨v, .watching⟩) :
    CallbackSafe k key t generation post (configGet >>= q) ⟨v, .watching⟩ :=
  ⟨trivial, fun s _ => h s.config⟩

theorem callback_ktimeGetNs {q : UInt64 → Ebpf β}
    (h : CallbackSafe k key t generation post (q k.now) ⟨v, .watching⟩) :
    CallbackSafe k key t generation post (bpfKtimeGetNs >>= q) ⟨v, .watching⟩ :=
  ⟨trivial, fun _ _ => h⟩

theorem callback_fwdNatSetObserved {observed : UInt64} {q : Unit → Ebpf β}
    (h : CallbackSafe k key t generation post (q ()) ⟨v, .watching⟩) :
    CallbackSafe k key t generation post (fwdNatSetObserved key observed >>= q) ⟨v, .watching⟩ :=
  ⟨⟨rfl, rfl⟩, fun _ _ => h⟩

theorem callback_timerStart {delay : UInt64} {q : Bool → Ebpf β}
    (h : ∀ b v', CallbackSafe k key t generation post (q b) ⟨v', .watching⟩) :
    CallbackSafe k key t generation post (bpfTimerStart key delay >>= q) ⟨v, .watching⟩ := by
  refine ⟨⟨rfl, rfl⟩, fun s _ => ?_⟩
  obtain ⟨v', -, hanswer⟩ :=
    stagedAnswer_timerStart ExpiryStage.next k ⟨v, .watching⟩ s key delay
  rw [callbackAnswer, hanswer]
  split
  · exact h true v'
  · exact h false v'

theorem callback_natRemove {q : Bool → Ebpf β} (removes : k.natRemoveOk = true)
    (h : ∀ v', CallbackSafe k key t generation post (q true) ⟨v', .unrecorded⟩) :
    CallbackSafe k key t generation post (natRemove t >>= q) ⟨v, .watching⟩ := by
  refine ⟨⟨rfl, rfl⟩, fun s _ => ?_⟩
  obtain ⟨v', -, hanswer⟩ := stagedAnswer_natRemove ExpiryStage.next k ⟨v, .watching⟩ s t
  rw [callbackAnswer, hanswer, if_pos removes]
  exact h v'

theorem callback_fwdNatRemove {q : Bool → Ebpf β} (removes : k.fwdNatRemoveOk = true)
    (h : ∀ v', CallbackSafe k key t generation post (q true) ⟨v', .expired⟩) :
    CallbackSafe k key t generation post (fwdNatRemove key >>= q) ⟨v, .unrecorded⟩ := by
  refine ⟨⟨rfl, rfl⟩, fun s _ => ?_⟩
  obtain ⟨v', -, hanswer⟩ := stagedAnswer_fwdNatRemove ExpiryStage.next k ⟨v, .unrecorded⟩ s key
  rw [callbackAnswer, hanswer, if_pos removes]
  exact h v'

/-- The callback removes both entries of the session or none. -/
theorem safe_sessionTimerCallback (removes : k.natRemoveOk = true)
    (removesFwd : k.fwdNatRemoveOk = true) :
    CallbackSafe k key t generation (fun _ l => l.stage ≠ .unrecorded)
      (sessionTimerCallback key) ⟨v, .watching⟩ := by
  have rearm : ∀ (observed delay : UInt64) (v : Invocation),
      CallbackSafe k key t generation (fun _ l => l.stage ≠ .unrecorded) (do
        fwdNatSetObserved key observed
        let _ ← timerRearm key delay
        return ()) ⟨v, .watching⟩ := by
    intro observed delay v
    refine callback_fwdNatSetObserved (callback_timerStart fun b v' => ?_)
    exact (by decide : ExpiryStage.watching ≠ .unrecorded)
  unfold sessionTimerCallback
  refine callback_fwdNatLookup fun value haddr hgeneration => ?_
  refine callback_configGet fun c => ?_
  dsimp only
  split
  · exact (by decide : ExpiryStage.watching ≠ .unrecorded)
  rw [show natKey value.extV4 value.extPort key.proto = t from haddr, hgeneration]
  refine callback_ktimeGetNs (callback_fwdNatLookup fun w₁ _ _ => ?_)
  refine callback_natLookup fun b₁ _ => ?_
  split
  · exact rearm _ _ v
  refine callback_fwdNatLookup fun w₂ _ _ => ?_
  split
  · exact rearm _ _ v
  refine callback_fwdNatLookup fun w₃ _ _ => ?_
  refine callback_natLookup fun b₃ hb₃ => ?_
  split
  · exact rearm _ _ v
  rw [if_pos (by simp [hb₃])]
  refine callback_natRemove removes fun v₁ => ?_
  refine callback_fwdNatRemove removesFwd fun v₂ => ?_
  exact (by decide : ExpiryStage.expired ≠ .unrecorded)

end Callback

/-! ## The session -/

/-- The packet has not opened the flow again. -/
def Stage.Old (t : NatKey) (generation : UInt32) : Stage → Prop
  | .start => True
  | .found t' generation' | .stored t' generation' => t' = t ∧ generation' = generation
  | _ => False

/-- A reverse entry that the packet stored after the callback removed the one before it. -/
inductive Stray (key : FwdNatKey) (t : NatKey) (generation : UInt32) (s : Maps) :
    ExpiryStage → Stage → Prop
  | removing (forward : s.HoldsForward key t generation)
      (reverse : s.HoldsReverse key t generation) :
      Stray key t generation s .unrecorded (.stored t generation)
  | removed (gone : s.fwdNat key = none) (reverse : s.HoldsReverse key t generation) :
      Stray key t generation s .expired (.stored t generation)

/-- The entries of the flow at each pair of stages; `late` if the packet stored a stray
reverse entry. -/
inductive Session (late : Prop) (key : FwdNatKey) (t : NatKey) (generation : UInt32) (s : Maps) :
    ExpiryStage → Stage → Prop
  | live {pk} (old : pk.Old t generation) (forward : s.HoldsForward key t generation)
      (reverse : s.HoldsReverse key t generation) : Session late key t generation s .watching pk
  | removing {pk} (old : pk.Old t generation) (forward : s.HoldsForward key t generation)
      (bare : s.nat t = none) : Session late key t generation s .unrecorded pk
  | removed {pk} (old : pk.Old t generation ∨ pk.Opening) (gone : s.fwdNat key = none)
      (bare : s.nat t = none) : Session late key t generation s .expired pk
  | reopened {t' generation'} (forward : s.HoldsForward key t' generation') :
      Session late key t generation s .expired (.reserved t' generation')
  | renewed {t' generation'} (forward : s.HoldsForward key t' generation')
      (reverse : s.HoldsReverse key t' generation') :
      Session late key t generation s .expired (.stored t' generation')
  | stray {cb pk} (cause : late) (h : Stray key t generation s cb pk) :
      Session late key t generation s cb pk

section Session
variable {late : Prop} {cfg : Nat64Config} {key : FwdNatKey} {t : NatKey} {generation : UInt32}
  {s s' : Maps} {cb cb' : ExpiryStage} {pk pk' : Stage}

theorem Maps.HoldsForward.entry (h : s.HoldsForward key t generation) {v : TimedFwdNatVal}
    (entry : s.fwdNat key = some v) : sessions.addr key v = t ∧ v.generation = generation := by
  obtain ⟨u, hu, haddr, hgeneration⟩ := h
  obtain rfl := Option.some.inj (entry.symm.trans hu)
  exact ⟨haddr, hgeneration⟩

theorem Maps.HoldsForward.ne_none (h : s.HoldsForward key t generation) : s.fwdNat key ≠ none := by
  obtain ⟨v, hv, -⟩ := h
  rw [hv]
  exact Option.some_ne_none v

theorem Maps.HoldsForward.touch (h : s.HoldsForward key t generation) {v w : TimedFwdNatVal}
    (entry : s.fwdNat key = some v) (same : v.SameTuple w) :
    (s.setFwdNat key (some w)).HoldsForward key t generation := by
  obtain ⟨haddr, hgeneration⟩ := h.entry entry
  exact ⟨w, Maps.setFwdNat_self .., (same.addr key).trans haddr, same.2.2.trans hgeneration⟩

theorem Stray.callback (h : Stray key t generation s cb pk)
    (hstep : CallbackStep key t s cb cb' s') : Stray key t generation s' cb' pk := by
  cases h with
  | removing forward reverse =>
    cases hstep with
    | idle => exact .removing forward reverse
    | expired => exact .removed (Maps.setFwdNat_self ..) reverse
  | removed gone reverse =>
    cases hstep with
    | idle => exact .removed gone reverse

theorem Stray.packet {op : Op} (h : Stray key t generation s cb pk)
    (hstep : PacketStep cfg key op s pk pk' s') : Stray key t generation s' cb pk' := by
  cases h with
  | removing forward reverse =>
    cases hstep with
    | idle => exact .removing forward reverse
    | touched entry same => exact .removing (forward.touch entry same) reverse
    | stored _ _ at_stage => rcases at_stage with h | h <;> cases h
  | removed gone reverse =>
    cases hstep with
    | idle => exact .removed gone reverse
    | touched entry same =>
      rw [gone] at entry
      cases entry
    | stored _ _ at_stage => rcases at_stage with h | h <;> cases h

theorem Session.callback (h : Session late key t generation s cb pk)
    (hstep : CallbackStep key t s cb cb' s') : Session late key t generation s' cb' pk := by
  cases h with
  | live old forward reverse =>
    cases hstep with
    | idle => exact .live old forward reverse
    | touched entry same => exact .live old (forward.touch entry same) reverse
    | unrecorded => exact .removing old forward (Maps.setNat_self ..)
  | removing old forward bare =>
    cases hstep with
    | idle => exact .removing old forward bare
    | expired => exact .removed (.inl old) (Maps.setFwdNat_self ..) bare
  | removed old gone bare =>
    cases hstep with
    | idle => exact .removed old gone bare
  | reopened forward =>
    cases hstep with
    | idle => exact .reopened forward
  | renewed forward reverse =>
    cases hstep with
    | idle => exact .renewed forward reverse
  | stray cause h => exact .stray cause (h.callback hstep)

/-- The packet stores a reverse entry of the flow. -/
theorem Maps.holdsReverse_setNat {b : NatVal} (hflow : b.flow key.proto = key)
    (proto : t.proto = key.proto) : (s.setNat t (some b)).HoldsReverse key t b.generation :=
  ⟨b, Maps.setNat_self .., by rw [proto]; exact hflow, rfl⟩

theorem Session.packet {op : Op} (h : Session late key t generation s cb pk)
    (proto : t.proto = key.proto) (hstep : PacketStep cfg key op s pk pk' s')
    (hlate : ∀ t' b, op = .natInsert t' b → cb ≠ .watching →
      (∃ t generation, pk = .found t generation) → late) :
    Session late key t generation s' cb pk' := by
  cases h with
  | live old forward reverse =>
    cases hstep with
    | idle => exact .live old forward reverse
    | missed _ absent => exact absurd absent forward.ne_none
    | found _ entry => exact .live (forward.entry entry) forward reverse
    | probed => exact old.elim
    | reserved => exact old.elim
    | touched entry same => exact .live old (forward.touch entry same) reverse
    | stored _ hflow at_stage =>
      rcases at_stage with rfl | rfl
      · obtain ⟨rfl, rfl⟩ := old
        exact .live ⟨rfl, rfl⟩ forward (Maps.holdsReverse_setNat hflow proto)
      · exact old.elim
  | removing old forward bare =>
    cases hstep with
    | idle => exact .removing old forward bare
    | missed _ absent => exact absurd absent forward.ne_none
    | found _ entry => exact .removing (forward.entry entry) forward bare
    | probed => exact old.elim
    | reserved => exact old.elim
    | touched entry same => exact .removing old (forward.touch entry same) bare
    | stored call hflow at_stage =>
      rcases at_stage with rfl | rfl
      · obtain ⟨rfl, rfl⟩ := old
        refine .stray (hlate _ _ call (by decide) ⟨_, _, rfl⟩) ?_
        exact .removing forward (Maps.holdsReverse_setNat hflow proto)
      · exact old.elim
  | removed old gone bare =>
    cases hstep with
    | idle => exact .removed old gone bare
    | missed => exact .removed (.inr trivial) gone bare
    | found _ entry =>
      rw [gone] at entry
      cases entry
    | probed => exact .removed (.inr trivial) gone bare
    | @reserved v => exact .reopened ⟨v, Maps.setFwdNat_self .., rfl, rfl⟩
    | touched entry =>
      rw [gone] at entry
      cases entry
    | stored call hflow at_stage =>
      rcases at_stage with rfl | rfl
      · obtain ⟨rfl, rfl⟩ | opening := old
        · refine .stray (hlate _ _ call (by decide) ⟨_, _, rfl⟩) ?_
          exact .removed gone (Maps.holdsReverse_setNat hflow proto)
        · exact opening.elim
      · exact (old.elim id id).elim
  | reopened forward =>
    cases hstep with
    | idle => exact .reopened forward
    | touched entry same => exact .reopened (forward.touch entry same)
    | stored _ hflow at_stage =>
      obtain ⟨v, hv, rfl, rfl⟩ := forward
      rcases at_stage with h | h
      · cases h
      · obtain ⟨rfl, hgeneration⟩ := Stage.reserved.inj h
        exact .renewed ⟨v, hv, rfl, hgeneration⟩ (Maps.holdsReverse_setNat hflow rfl)
  | renewed forward reverse =>
    cases hstep with
    | idle => exact .renewed forward reverse
    | touched entry same => exact .renewed (forward.touch entry same) reverse
    | stored _ _ at_stage => rcases at_stage with h | h <;> cases h
  | stray cause h => exact .stray cause (h.packet hstep)

theorem Session.callbackKnows (h : Session late key t generation s cb pk) :
    CallbackKnows key t generation cb s := by
  intro hwatching
  subst hwatching
  cases h with
  | live _ forward reverse => exact ⟨forward, reverse⟩
  | stray _ h => cases h

theorem Session.forwardKnows (h : Session late key t generation s cb pk)
    (config : s.config.getD DEFAULT_CFG = cfg) : ForwardKnows cfg key pk s := by
  refine ⟨config, ?_⟩
  rintro t' generation' rfl
  cases h with
  | live old | removing old => exact old.elim
  | removed old => exact (old.elim id id).elim
  | reopened forward => exact forward.ne_none
  | stray _ h => cases h

/-- The packet stores the reverse entry of a session the callback is removing. -/
theorem Session.strays (h : Session late key t generation s cb pk) (hcb : cb ≠ .watching)
    {t' : NatKey} {b : NatVal} (hpk : pk = .found t' b.generation) (hflow : b.flow key.proto = key)
    (proto : t.proto = key.proto) :
    Stray key t generation (s.setNat t' (some b)) cb (.stored t' b.generation) := by
  subst hpk
  cases h with
  | live => exact absurd rfl hcb
  | removing old forward bare =>
    obtain ⟨rfl, rfl⟩ := old
    exact .removing forward (Maps.holdsReverse_setNat hflow proto)
  | removed old gone bare =>
    obtain ⟨rfl, rfl⟩ | opening := old
    · exact .removed gone (Maps.holdsReverse_setNat hflow proto)
    · exact opening.elim
  | stray _ h => cases h

theorem PacketStep.config {op : Op} (h : PacketStep cfg key op s pk pk' s') :
    s'.config = s.config := by
  cases h <;> rfl

theorem CallbackStep.config (h : CallbackStep key t s cb cb' s') : s'.config = s.config := by
  cases h <;> rfl

end Session

/-! ## Runs -/

/-- The two that run. -/
inductive Party where
  | callback
  | packet
  deriving DecidableEq

namespace Party

abbrev Result : Party → Type
  | callback => Unit
  | packet => TcAction

abbrev State : Party → Type
  | callback => CallbackState
  | packet => PacketState

def answer (callbackKernel packetKernel : Kernel) :
    (i : Party) → (op : Op) → i.State → Maps → op.Resp × i.State × Maps
  | callback => callbackAnswer callbackKernel
  | packet => packetAnswer packetKernel

def May (cfg : Nat64Config) (key : FwdNatKey) (t : NatKey) : (i : Party) → i.State → Op → Prop
  | callback, l => CallbackMay key t l.stage
  | packet, l => ForwardMay cfg key l.stage

def Knows (cfg : Nat64Config) (key : FwdNatKey) (t : NatKey) (generation : UInt32) :
    (i : Party) → i.State → Maps → Prop
  | callback, l => CallbackKnows key t generation l.stage
  | packet, l => ForwardKnows cfg key l.stage

def Post (packetKernel : Kernel) (skb : List UInt8) : (i : Party) → i.Result → i.State → Prop
  | callback, _, l => l.stage ≠ .unrecorded
  | packet, a, l => ForwardPost packetKernel skb (.ok a) l

end Party

/-- A timer callback and a forward packet. -/
abbrev Meeting := Pool Op.Resp Party.Result Party.State Maps

/-- The timer of the flow has fired, and the packet arrives. -/
def meeting (key : FwdNatKey) (skb : List UInt8) (cpu : CpuMaps) (s : Maps) : Meeting where
  progs
    | .callback => sessionTimerCallback key
    | .packet => nat64Forward
  own
    | .callback => ⟨⟨[], ⟨none, none⟩, []⟩, .watching⟩
    | .packet => ⟨⟨skb, cpu, []⟩, .start⟩
  shared := s

namespace Meeting

/-- The next call of one of the two, answered from the shared maps. -/
def step (callbackKernel packetKernel : Kernel) : Meeting → Party → Meeting :=
  Interleaving.step (Party.answer callbackKernel packetKernel)

/-- The packet found the forward entry, and inserts the reverse entry after the callback
has removed it. -/
def Late (c : Meeting) (i : Party) : Prop :=
  i = .packet ∧ (∃ t b, c.next .packet = some (.natInsert t b)) ∧
    (∃ t generation, (c.own .packet).stage = .found t generation) ∧
    (c.own .callback).stage ≠ .watching

end Meeting

section Runs
variable {late : Prop} {kc kp : Kernel} {cfg : Nat64Config} {key : FwdNatKey} {t : NatKey}
  {generation : UInt32} {skb : List UInt8} {cpu : CpuMaps} {s : Maps}

/-- The invariant of the two. -/
def Meets (late : Prop) (cfg : Nat64Config) (key : FwdNatKey) (t : NatKey) (generation : UInt32)
    (own : ∀ i : Party, i.State) (s : Maps) : Prop :=
  s.config.getD DEFAULT_CFG = cfg ∧
    Session late key t generation s (own .callback).stage (own .packet).stage

theorem Meets.known {own : ∀ i : Party, i.State} (h : Meets late cfg key t generation own s)
    (i : Party) : i.Knows cfg key t generation (own i) s := by
  cases i with
  | callback => exact h.2.callbackKnows
  | packet => exact h.2.forwardKnows h.1

/-- A permitted call of one of the two keeps what relates the maps to their stages. -/
theorem may_step {holds : Maps → ExpiryStage → Stage → Prop} {own : ∀ i : Party, i.State}
    (config : s.config.getD DEFAULT_CFG = cfg) {i : Party} {op : Op}
    (may : i.May cfg key t (own i) op)
    (callback : ∀ {cb' s'}, i = .callback → CallbackStep key t s (own .callback).stage cb' s' →
      holds s' cb' (own .packet).stage)
    (packet : ∀ {pk' s'}, i = .packet → PacketStep cfg key op s (own .packet).stage pk' s' →
      holds s' (own .callback).stage pk') :
    (i.answer kc kp op (own i) s).2.2.config.getD DEFAULT_CFG = cfg ∧
      holds (i.answer kc kp op (own i) s).2.2
        (Function.update own i (i.answer kc kp op (own i) s).2.1 .callback).stage
        (Function.update own i (i.answer kc kp op (own i) s).2.1 .packet).stage := by
  cases i with
  | callback =>
    have hstep := callback_step (k := kc) may s
    refine ⟨(congrArg (·.getD DEFAULT_CFG) hstep.config).trans config, ?_⟩
    rw [Function.update_self, Function.update_of_ne (by decide)]
    exact callback rfl hstep
  | packet =>
    have hstep := packet_step (k := kp) may s
    refine ⟨(congrArg (·.getD DEFAULT_CFG) hstep.config).trans config, ?_⟩
    rw [Function.update_self, Function.update_of_ne (by decide)]
    exact packet rfl hstep

theorem Meets.step {own : ∀ i : Party, i.State} (h : Meets late cfg key t generation own s)
    (proto : t.proto = key.proto) {i : Party} {op : Op} (may : i.May cfg key t (own i) op)
    (hlate : i = .packet → ∀ t' b, op = .natInsert t' b → (own .callback).stage ≠ .watching →
      (∃ t generation, (own .packet).stage = .found t generation) → late) :
    Meets late cfg key t generation (Function.update own i (i.answer kc kp op (own i) s).2.1)
      (i.answer kc kp op (own i) s).2.2 := by
  refine may_step h.1 may (fun _ hstep => ?_) (fun hi hstep => ?_)
  · exact h.2.callback hstep
  · exact h.2.packet proto hstep (hlate hi)

/-- The invariant once the packet has stored a stray reverse entry. -/
def Strayed (cfg : Nat64Config) (key : FwdNatKey) (t : NatKey) (generation : UInt32)
    (own : ∀ i : Party, i.State) (s : Maps) : Prop :=
  s.config.getD DEFAULT_CFG = cfg ∧
    Stray key t generation s (own .callback).stage (own .packet).stage

theorem Strayed.known {own : ∀ i : Party, i.State} (h : Strayed cfg key t generation own s)
    (i : Party) : i.Knows cfg key t generation (own i) s := by
  have meets : Meets True cfg key t generation own s := ⟨h.1, .stray trivial h.2⟩
  exact meets.known i

theorem Strayed.step {own : ∀ i : Party, i.State} (h : Strayed cfg key t generation own s)
    {i : Party} {op : Op} (may : i.May cfg key t (own i) op) :
    Strayed cfg key t generation (Function.update own i (i.answer kc kp op (own i) s).2.1)
      (i.answer kc kp op (own i) s).2.2 :=
  may_step h.1 may (fun _ hstep => h.2.callback hstep) (fun _ hstep => h.2.packet hstep)

theorem Strayed.run {post : ∀ i : Party, i.Result → i.State → Prop} {c : Meeting}
    (h : Sound (Party.answer kc kp) (Party.May cfg key t) (Party.Knows cfg key t generation) post
      (Strayed cfg key t generation) c) (schedule : List Party) :
    Sound (Party.answer kc kp) (Party.May cfg key t) (Party.Knows cfg key t generation) post
      (Strayed cfg key t generation) (run (Meeting.step kc kp) c schedule) :=
  Sound.run h (fun _ _ i h => h.known i) (fun _ _ _ _ h _ _ may => h.step may)
    (along_of_forall fun _ _ _ => (trivial : True))

/-- The forward entry goes with the callback, the stray reverse entry stays. -/
theorem Strayed.alone {own : ∀ i : Party, i.State} (h : Strayed cfg key t generation own s)
    (hcb : (own .callback).stage ≠ .unrecorded) :
    s.fwdNat key = none ∧ s.HoldsReverse key t generation := by
  obtain ⟨-, h⟩ := h
  generalize (own .callback).stage = cb at h hcb
  generalize (own .packet).stage = pk at h
  cases h with
  | removing => exact absurd rfl hcb
  | removed gone reverse => exact ⟨gone, reverse⟩

/-- The two keep to their protocols in every run. -/
theorem meeting_run (late : Prop) {v : TimedFwdNatVal} {b : NatVal}
    (entry : s.fwdNat key = some v) (record : s.nat (sessions.addr key v) = some b)
    (agrees : sessions.Agrees key v b) (flow : fwdKeyAt skb = key)
    (removes : kc.natRemoveOk = true ∧ kc.fwdNatRemoveOk = true)
    (inserts : kp.Arms = true ∧ kp.natInsertOk = true) {schedule : List Party}
    (along : Along (Meeting.step kc kp) (fun c i => c.Late i → late) (meeting key skb cpu s)
      schedule) :
    Sound (Party.answer kc kp) (Party.May (s.config.getD DEFAULT_CFG) key (sessions.addr key v))
      (Party.Knows (s.config.getD DEFAULT_CFG) key (sessions.addr key v) v.generation)
      (Party.Post kp skb)
      (Meets late (s.config.getD DEFAULT_CFG) key (sessions.addr key v) v.generation)
      (run (Meeting.step kc kp) (meeting key skb cpu s) schedule) := by
  refine Sound.run ⟨⟨rfl, ?_⟩, fun i => ?_⟩ (fun own s i h => h.known i) ?_ along
  · exact .live trivial ⟨v, entry, rfl, rfl⟩ ⟨b, record, flow_of_agrees agrees, agrees.2.2.2.2⟩
  · cases i with
    | callback => exact safe_sessionTimerCallback removes.1 removes.2
    | packet =>
      subst flow
      exact safe_nat64Forward inserts.1 inserts.2 ⟨skb, cpu, []⟩
  · intro c i op next h hok hcall may
    refine h.step rfl may ?_
    rintro rfl t' b' rfl hcb hfound
    exact hok ⟨rfl, ⟨t', b', c.next_call hcall⟩, hfound, hcb⟩

/-- Both entries of the flow, at one tuple and of one generation. -/
def Maps.Paired (s : Maps) (key : FwdNatKey) : Prop :=
  ∃ t generation, s.HoldsForward key t generation ∧ s.HoldsReverse key t generation

/-- The run ends with both entries or none if no step of it is late. -/
theorem Meets.paired {own : ∀ i : Party, i.State}
    (h : Meets False cfg key t generation own s) (hcb : (own .callback).stage ≠ .unrecorded)
    (hpk : ∀ t generation, (own .packet).stage ≠ .reserved t generation) :
    s.Paired key ∨ (s.fwdNat key = none ∧ s.nat t = none) := by
  obtain ⟨-, h⟩ := h
  generalize (own .callback).stage = cb at h hcb
  generalize (own .packet).stage = pk at h hpk
  cases h with
  | live _ forward reverse => exact .inl ⟨t, generation, forward, reverse⟩
  | removing => exact absurd rfl hcb
  | removed _ gone bare => exact .inr ⟨gone, bare⟩
  | reopened => exact absurd rfl (hpk _ _)
  | renewed forward reverse => exact .inl ⟨_, _, forward, reverse⟩
  | stray cause => exact cause.elim

/-- The late step, and what it leaves. -/
theorem Meets.strayed {post : ∀ i : Party, i.Result → i.State → Prop} {c : Meeting}
    (h : Sound (Party.answer kc kp) (Party.May cfg key t) (Party.Knows cfg key t generation) post
      (Meets True cfg key t generation) c) (proto : t.proto = key.proto)
    (inserts : kp.natInsertOk = true) {i : Party} (late : c.Late i) :
    Strayed cfg key t generation (Meeting.step kc kp c i).own (Meeting.step kc kp c i).shared := by
  obtain ⟨rfl, ⟨t', b, hnext⟩, ⟨t₀, g₀, hfound⟩, hcb⟩ := late
  obtain ⟨next, hcall⟩ := c.call_of_next hnext
  have hsafe := h.safe .packet
  rw [hcall] at hsafe
  obtain ⟨hflow, at_stage⟩ : b.flow key.proto = key ∧
    ((c.own .packet).stage = .found t' b.generation ∨
      (c.own .packet).stage = .reserved t' b.generation) := hsafe.1
  have hstage : (c.own .packet).stage = .found t' b.generation := by
    refine at_stage.resolve_right fun hreserved => ?_
    rw [hfound] at hreserved
    cases hreserved
  obtain ⟨v, -, hanswer⟩ := stagedAnswer_natInsert Stage.next kp (c.own .packet) c.shared t' b
  rw [if_pos inserts, hstage] at hanswer
  have hcalled : Party.answer kc kp .packet (.natInsert t' b) (c.own .packet) c.shared =
      (true, ⟨v, .stored t' b.generation⟩, c.shared.setNat t' (some b)) := hanswer
  rw [Meeting.step, step_call hcall, hcalled]
  refine ⟨h.inv.1, ?_⟩
  dsimp only
  rw [Function.update_self, Function.update_of_ne (by decide)]
  exact h.inv.2.strays hcb hstage hflow proto

/-- When both have finished, the flow has both entries, of one generation, or none, unless
the packet stored the reverse entry late. Then the reverse entry is all that is left. -/
theorem refresh_versus_expiry {v : TimedFwdNatVal} {b : NatVal} (entry : s.fwdNat key = some v)
    (record : s.nat (sessions.addr key v) = some b) (agrees : sessions.Agrees key v b)
    (flow : fwdKeyAt skb = key) (removes : kc.natRemoveOk = true ∧ kc.fwdNatRemoveOk = true)
    (inserts : kp.Arms = true ∧ kp.natInsertOk = true) (translates : Translates kp skb)
    (schedule : List Party) {a : TcAction}
    (hc : (run (Meeting.step kc kp) (meeting key skb cpu s) schedule).result .callback = some ())
    (hp : (run (Meeting.step kc kp) (meeting key skb cpu s) schedule).result .packet = some a) :
    (¬ Happened (Meeting.step kc kp) Meeting.Late (meeting key skb cpu s) schedule →
      (run (Meeting.step kc kp) (meeting key skb cpu s) schedule).shared.Paired key ∨
      ((run (Meeting.step kc kp) (meeting key skb cpu s) schedule).shared.fwdNat key = none ∧
        (run (Meeting.step kc kp) (meeting key skb cpu s) schedule).shared.nat
          (sessions.addr key v) = none)) ∧
    (Happened (Meeting.step kc kp) Meeting.Late (meeting key skb cpu s) schedule →
      (run (Meeting.step kc kp) (meeting key skb cpu s) schedule).shared.fwdNat key = none ∧
        (run (Meeting.step kc kp) (meeting key skb cpu s) schedule).shared.HoldsReverse key
          (sessions.addr key v) v.generation) := by
  constructor
  · intro never
    have along : Along (Meeting.step kc kp) (fun c i => c.Late i → False)
        (meeting key skb cpu s) schedule :=
      along_iff_split.mpr fun before i after hsplit hlate => never ⟨before, i, after, hsplit, hlate⟩
    have sound := meeting_run False entry record agrees flow removes inserts along
    have hcallback := sound.finished hc
    have hpacket := sound.finished hp
    exact sound.inv.paired hcallback (hpacket.2 translates)
  · rintro ⟨before, i, after, rfl, late⟩
    have along : ∀ schedule, Along (Meeting.step kc kp) (fun c i => c.Late i → True)
        (meeting key skb cpu s) schedule :=
      fun _ => along_of_forall fun _ _ _ _ => trivial
    have sound := meeting_run True entry record agrees flow removes inserts (along before)
    have strayed := Meets.strayed sound rfl inserts.2 late
    have sound' := meeting_run True entry record agrees flow removes inserts (along (before ++ [i]))
    rw [run_concat] at sound'
    rw [run_append, run_cons] at hc ⊢
    have final := Strayed.run ⟨strayed, sound'.safe⟩ after
    exact final.inv.alone (final.finished hc)

end Runs

/-- The client was silent until the timer fired once. The timer fires again, and the client
sends another packet. -/
def exampleArrival : Meeting :=
  meeting exampleFlow (exampleTcp6 4000 20) ⟨some 1, some .default⟩
    (dataplane exampleDataplane exampleQuiet).maps

def exampleStep : Meeting → Party → Meeting :=
  Meeting.step (.ideal 300010001000 9) (.ideal 300010001500 10)

def exampleMeeting (schedule : List Party) : Meeting := run exampleStep exampleArrival schedule

/-- The packet finds the forward entry, and waits until the callback has returned. -/
def overtaken : List Party :=
  List.replicate 27 .packet ++ List.replicate 10 .callback ++ List.replicate 40 .packet

/-- The packet refreshes the forward entry before the callback confirms the expiry. -/
def refreshed : List Party :=
  List.replicate 7 .callback ++ List.replicate 67 .packet ++ List.replicate 8 .callback

theorem refresh_versus_expiry_example :
    (¬ Happened exampleStep Meeting.Late exampleArrival refreshed →
      (exampleMeeting refreshed).shared.Paired exampleFlow ∨
      ((exampleMeeting refreshed).shared.fwdNat exampleFlow = none ∧
        (exampleMeeting refreshed).shared.nat (sessions.addr exampleFlow exampleObserved) =
          none)) ∧
    (Happened exampleStep Meeting.Late exampleArrival refreshed →
      (exampleMeeting refreshed).shared.fwdNat exampleFlow = none ∧
        (exampleMeeting refreshed).shared.HoldsReverse exampleFlow
          (sessions.addr exampleFlow exampleObserved) exampleObserved.generation) := by
  have entry : (dataplane exampleDataplane exampleQuiet).maps.fwdNat exampleFlow =
      some exampleObserved := by decide +kernel
  have record : (dataplane exampleDataplane exampleQuiet).maps.nat
      (sessions.addr exampleFlow exampleObserved) = some (fwdNatVal exampleFlow 7 1000) := by
    decide +kernel
  have agrees : sessions.Agrees exampleFlow exampleObserved (fwdNatVal exampleFlow 7 1000) :=
    ⟨rfl, rfl, rfl, rfl, rfl⟩
  have flow : fwdKeyAt (exampleTcp6 4000 20) = exampleFlow := rfl
  have removes : (Kernel.ideal 300010001000 9).natRemoveOk = true ∧
      (Kernel.ideal 300010001000 9).fwdNatRemoveOk = true := ⟨rfl, rfl⟩
  have inserts : (Kernel.ideal 300010001500 10).Arms = true ∧
      (Kernel.ideal 300010001500 10).natInsertOk = true := ⟨rfl, rfl⟩
  have translates : Translates (.ideal 300010001500 10) (exampleTcp6 4000 20) :=
    translates_ideal _ _ (by decide +kernel)
  have hc : (exampleMeeting refreshed).result .callback = some () := by decide +kernel
  have hp : (exampleMeeting refreshed).result .packet = some .redirect := by decide +kernel
  unfold exampleMeeting exampleStep exampleArrival
  exact refresh_versus_expiry entry record agrees flow removes inserts translates refreshed hc hp

/-- The reverse entry outlives its forward entry. -/
theorem refresh_recreates_reverse :
    (dataplane exampleDataplane exampleQuiet).maps.fwdNat exampleFlow = some exampleObserved ∧
    (∃ b, (dataplane exampleDataplane exampleQuiet).maps.nat
        (sessions.addr exampleFlow exampleObserved) = some b ∧
      sessions.Agrees exampleFlow exampleObserved b) ∧
    (exampleMeeting overtaken).result .callback = some () ∧
    (exampleMeeting overtaken).result .packet = some .redirect ∧
    (exampleMeeting overtaken).shared.fwdNat exampleFlow = none ∧
    (exampleMeeting overtaken).shared.nat (sessions.addr exampleFlow exampleObserved) =
      some (fwdNatVal exampleFlow 7 300010001500) := by
  refine ⟨?_, ⟨fwdNatVal exampleFlow 7 1000, ?_, ?_⟩, ?_, ?_, ?_, ?_⟩
  · decide +kernel
  · decide +kernel
  · exact ⟨rfl, rfl, rfl, rfl, rfl⟩
  · decide +kernel
  · decide +kernel
  · decide +kernel
  · decide +kernel

end Natto64
