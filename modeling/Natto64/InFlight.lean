import Natto64.ForwardProtocol
import Natto64.PairedPooling

/-!
# Invocations in flight

Any number of packets, timer callbacks and evictions whose calls on the maps interleave,
each with answers of its own. What each of them may do to the maps, and what they keep.
-/
namespace Natto64
open Interleaving Octets

/-- An invocation, with what it starts with. An eviction is one removal. -/
inductive Task where
  | forward (skb : List UInt8) (cpu : CpuMaps)
  | reverse (skb : List UInt8) (cpu : CpuMaps)
  | timer (key : FwdNatKey)
  | evictFwdNat (key : FwdNatKey)
  | evictNat (key : NatKey)

namespace Task

def Result : Task → Type
  | .forward _ _ | .reverse _ _ => TcAction
  | .timer _ => Unit
  | .evictFwdNat _ | .evictNat _ => Bool

def program : (task : Task) → Ebpf task.Result
  | .forward _ _ => nat64Forward
  | .reverse _ _ => nat64Reverse
  | .timer key => sessionTimerCallback key
  | .evictFwdNat key => fwdNatRemove key
  | .evictNat key => natRemove key

/-- What the task holds before its first call. -/
def invocation : Task → Invocation
  | .forward skb cpu | .reverse skb cpu => { skb, cpu, log := [] }
  | .timer _ | .evictFwdNat _ | .evictNat _ => { skb := [], cpu := ⟨none, none⟩, log := [] }

end Task

/-- The last reverse entry a task has seen, or the one it wrote, with its flow. -/
inductive Trail where
  | fresh
  | read (tuple : NatKey) (flow : FwdNatKey)
  | wrote (tuple : NatKey) (flow : FwdNatKey)

/-- A task that wrote its reverse entry stays so. -/
def Trail.next : Trail → (op : Op) → op.Resp → Trail
  | .wrote t f, _, _ => .wrote t f
  | _, .natLookup t, some b => .read t (b.flow t.proto)
  | _, .natInsert t b, true => .wrote t (b.flow t.proto)
  | trail, _, _ => trail

/-- The reverse entry is not written yet. -/
def Trail.Open : Trail → Prop
  | .wrote _ _ => False
  | _ => True

abbrev TaskState := Staged Trail

def taskAnswer (k : Kernel) : (op : Op) → TaskState → Maps → op.Resp × TaskState × Maps :=
  stagedAnswer Trail.next k

/-- The frame `skb` is the packet `skb₀` rewritten with the source `tuple`, for its flow. -/
structure RewrittenAs (cfg : Nat64Config) (skb₀ skb : List UInt8) (tuple : NatKey)
    (flow : FwdNatKey) : Prop where
  admitted : ∃ extV4, FwdAdmitted cfg skb₀ extV4
  flow_eq : flow = fwdKeyAt skb₀
  grants : cfg.Grants flow.vmV6 tuple
  proto : tuple.proto = flow.proto
  within : 54 + csumFieldOff (u8At skb₀ 20) + 2 ≤ skb₀.length
  frame : ∃ csum, skb = fwdFrame skb₀ tuple.extV4 tuple.extPort csum

/-- Only forward packets write reverse entries, and each its own. -/
def Task.Wrote (cfg : Nat64Config) (skb : List UInt8) (tuple : NatKey) (flow : FwdNatKey) :
    Task → Prop
  | .forward skb₀ _ => RewrittenAs cfg skb₀ skb tuple flow
  | _ => False

/-- The calls a task may make. After the reverse entry is written, the frame stays. -/
def TaskMay (cfg : Nat64Config) (task : Task) (l : TaskState) : Op → Prop
  | .skbStoreBytes _ _ | .skbChangeProto _ | .l4CsumReplace _ _ _ _ => l.stage.Open
  | .fwdNatInsert key v => cfg.Grants key.vmV6 (sessions.addr key v)
  | .natInsert t b => l.stage.Open ∧ task.Wrote cfg l.skb t (b.flow t.proto)
  | _ => True

/-- What every task may count on. -/
structure TaskKnows (cfg : Nat64Config) (s : Maps) : Prop where
  config : s.config = some cfg
  fwdNat : ∀ key v, s.fwdNat key = some v → cfg.Grants key.vmV6 (sessions.addr key v)

/-- What a permitted call does to the task and to the maps. -/
inductive TaskStep (cfg : Nat64Config) (task : Task) (l : TaskState) (s : Maps) :
    TaskState → Maps → Prop
  | idle {l'} (trail : l'.stage = l.stage) (skb : l.stage.Open ∨ l'.skb = l.skb) :
      TaskStep cfg task l s l' s
  | saw {l' t b} (entry : s.nat t = some b) (undone : l.stage.Open)
      (trail : l'.stage = .read t (b.flow t.proto)) : TaskStep cfg task l s l' s
  | stored {l' key v} (trail : l'.stage = l.stage) (skb : l'.skb = l.skb)
      (grants : cfg.Grants key.vmV6 (sessions.addr key v)) :
      TaskStep cfg task l s l' (s.setFwdNat key (some v))
  | removed {l'} (key) (trail : l'.stage = l.stage) (skb : l'.skb = l.skb) :
      TaskStep cfg task l s l' (s.setFwdNat key none)
  | recorded {l' t b} (undone : l.stage.Open) (trail : l'.stage = .wrote t (b.flow t.proto))
      (wrote : task.Wrote cfg l'.skb t (b.flow t.proto)) :
      TaskStep cfg task l s l' (s.setNat t (some b))
  | refreshed {l' t b b'} (entry : s.nat t = some b) (flow : b'.flow t.proto = b.flow t.proto)
      (trail : l'.stage = l.stage) (skb : l'.skb = l.skb) :
      TaskStep cfg task l s l' (s.setNat t (some b'))
  | forgotten {l'} (t) (trail : l'.stage = l.stage) (skb : l'.skb = l.skb) :
      TaskStep cfg task l s l' (s.setNat t none)

/-- The call writes neither the frame nor a new entry, and looks up no reverse entry. -/
def Op.Passive : Op → Prop
  | .skbStoreBytes _ _ | .skbChangeProto _ | .l4CsumReplace _ _ _ _ | .fwdNatInsert _ _
  | .natInsert _ _ | .natLookup _ => False
  | _ => True

section Calls
variable {k : Kernel} {cfg : Nat64Config} {task : Task} {v : Invocation} {trail : Trail} {s : Maps}

theorem Trail.next_passive {op : Op} (h : op.Passive) (trail : Trail) (r : op.Resp) :
    trail.next op r = trail := by
  cases op <;> first | exact h.elim | (cases trail <;> rfl)

theorem Trail.next_local {op : Op} (h : op.Local) (trail : Trail) (r : op.Resp) :
    trail.next op r = trail := by
  cases op <;> first | exact h.elim | (cases trail <;> rfl)

/-- Whatever it answers, a passive call keeps the frame and the trail. -/
theorem taskAnswer_passive (k : Kernel) (v : Invocation) (trail : Trail) (s : Maps) {op : Op}
    (h : op.Passive) :
    (taskAnswer k op ⟨v, trail⟩ s).2.1.stage = trail ∧
      (taskAnswer k op ⟨v, trail⟩ s).2.1.skb = v.skb := by
  refine ⟨Trail.next_passive h trail _, ?_⟩
  change (k.answer op (v.machine s)).2.skb = v.skb
  cases op with
  | skbLoadBytes off n =>
    simp only [Kernel.answer]
    split <;> rfl
  | fwdNatRemove key =>
    simp only [Kernel.answer]
    split <;> rfl
  | timerStart key delayNs =>
    simp only [Kernel.answer]
    split <;> rfl
  | natRemove t =>
    simp only [Kernel.answer]
    split <;> rfl
  | skbStoreBytes | skbChangeProto | l4CsumReplace | fwdNatInsert | natInsert | natLookup =>
    exact h.elim
  | _ => rfl

theorem taskAnswer_local {op : Op} (h : op.Local) (v : Invocation) (trail : Trail) (s s' : Maps) :
    taskAnswer k op ⟨v, trail⟩ s' = ((k.answer op (v.machine s)).1,
      ⟨(k.answer op (v.machine s)).2.invocation, trail⟩, s') :=
  stagedAnswer_local h (Trail.next_local h trail) s s'

/-- A write through the pointer of a forward entry that keeps its tuple. -/
theorem TaskStep.touch (known : TaskKnows cfg s) {l l' : TaskState} {key : FwdNatKey}
    {f : TimedFwdNatVal → TimedFwdNatVal} (same : ∀ v : TimedFwdNatVal, v.SameTuple (f v))
    (trail : l'.stage = l.stage) (skb : l'.skb = l.skb) :
    TaskStep cfg task l s l' (s.setFwdNat key ((s.fwdNat key).map f)) := by
  cases hv : s.fwdNat key with
  | none =>
    rw [Option.map_none, Maps.setFwdNat_eq_self hv]
    exact .idle trail (.inr skb)
  | some w =>
    refine .stored trail skb ?_
    rw [(same w).addr]
    exact known.fwdNat key w hv

/-- A write through the pointer of a reverse entry that keeps its flow. -/
theorem TaskStep.refresh {l l' : TaskState} {t : NatKey} {f : NatVal → NatVal}
    (flow : ∀ b : NatVal, (f b).flow t.proto = b.flow t.proto) (trail : l'.stage = l.stage)
    (skb : l'.skb = l.skb) : TaskStep cfg task l s l' (s.setNat t ((s.nat t).map f)) := by
  cases hb : s.nat t with
  | none =>
    have same : s.setNat t none = s := by
      simp only [Maps.setNat, ← hb, Function.update_eq_self]
    rw [Option.map_none, same]
    exact .idle trail (.inr skb)
  | some b => exact .refreshed hb (flow b) trail skb

/-- The calls one by one. -/
theorem task_step {op : Op} {l : TaskState} (may : TaskMay cfg task l op)
    (known : TaskKnows cfg s) :
    TaskStep cfg task l s (taskAnswer k op l s).2.1 (taskAnswer k op l s).2.2 := by
  obtain ⟨v, trail⟩ := l
  by_cases hpassive : op.Passive
  · obtain ⟨htrail, hskb⟩ := taskAnswer_passive k v trail s hpassive
    by_cases hlocal : op.Local
    · rw [taskAnswer_local hlocal v trail s s] at htrail hskb ⊢
      exact .idle htrail (.inr hskb)
    cases op with
    | configGet | fwdNatLookup => exact .idle htrail (.inr hskb)
    | fwdNatSetLastSeen | fwdNatSetObserved =>
      exact .touch known (fun _ => ⟨rfl, rfl, rfl⟩) htrail hskb
    | fwdNatRemove key =>
      obtain ⟨v', hskb, hanswer⟩ := stagedAnswer_fwdNatRemove Trail.next k ⟨v, trail⟩ s key
      rw [taskAnswer, hanswer]
      split
      · exact .removed key (Trail.next_passive hpassive trail _) hskb
      · exact .idle (Trail.next_passive hpassive trail _) (.inr hskb)
    | timerStart key delayNs =>
      obtain ⟨v', hskb, hanswer⟩ := stagedAnswer_timerStart Trail.next k ⟨v, trail⟩ s key delayNs
      rw [taskAnswer, hanswer]
      split
      · exact .touch known (fun _ => ⟨rfl, rfl, rfl⟩) (Trail.next_passive hpassive trail _) hskb
      · exact .idle (Trail.next_passive hpassive trail _) (.inr hskb)
    | natSetLastSeen t ns => exact .refresh (fun _ => rfl) htrail hskb
    | natRemove t =>
      obtain ⟨v', hskb, hanswer⟩ := stagedAnswer_natRemove Trail.next k ⟨v, trail⟩ s t
      rw [taskAnswer, hanswer]
      split
      · exact .forgotten t (Trail.next_passive hpassive trail _) hskb
      · exact .idle (Trail.next_passive hpassive trail _) (.inr hskb)
    | natLookup | fwdNatInsert | natInsert => exact hpassive.elim
    | _ => exact absurd trivial hlocal
  by_cases hlocal : op.Local
  · have undone : trail.Open := by
      cases op <;> first | exact may | exact absurd trivial hpassive | exact hlocal.elim
    rw [taskAnswer_local hlocal v trail s s]
    exact .idle rfl (.inl undone)
  cases op with
  | natLookup t =>
    change TaskStep cfg task _ s ⟨v, trail.next (.natLookup t) (s.nat t)⟩ s
    cases trail with
    | wrote t' f => exact .idle rfl (.inr rfl)
    | fresh =>
      cases hb : s.nat t with
      | none => exact .idle rfl (.inr rfl)
      | some b => exact .saw hb trivial rfl
    | read t' f =>
      cases hb : s.nat t with
      | none => exact .idle rfl (.inr rfl)
      | some b => exact .saw hb trivial rfl
  | fwdNatInsert key w =>
    obtain ⟨v', hskb, hanswer⟩ := stagedAnswer_fwdNatInsert Trail.next k ⟨v, trail⟩ s key w
    have htrail : ∀ r, trail.next (.fwdNatInsert key w) r = trail := by
      intro r
      cases trail <;> rfl
    rw [taskAnswer, hanswer]
    split
    · exact .stored (htrail true) hskb may
    · exact .idle (htrail false) (.inr hskb)
  | natInsert t b =>
    obtain ⟨undone, wrote⟩ := may
    obtain ⟨v', hskb, hanswer⟩ := stagedAnswer_natInsert Trail.next k ⟨v, trail⟩ s t b
    rw [taskAnswer, hanswer]
    have written : trail.next (.natInsert t b) true = .wrote t (b.flow t.proto) := by
      cases trail with
      | wrote t' f => exact undone.elim
      | fresh => rfl
      | read t' f => rfl
    have kept : trail.next (.natInsert t b) false = trail := by cases trail <;> rfl
    split
    · refine .recorded undone written ?_
      change task.Wrote cfg v'.skb t _
      rw [hskb]
      exact wrote
    · exact .idle kept (.inr hskb)
  | skbStoreBytes | skbChangeProto | l4CsumReplace => exact absurd trivial hlocal
  | _ => exact absurd trivial hpassive

end Calls

section Invariant
variable {ι : Type} {tasks : ι → Task} {cfg : Nat64Config} {own : ι → TaskState} {s : Maps}

/-- Every reverse entry, and every one that a task has seen, was written by a forward packet
of its flow, whose frame is rewritten with its tuple. -/
structure Filtered (tasks : ι → Task) (cfg : Nat64Config) (own : ι → TaskState) (s : Maps) :
    Prop where
  known : TaskKnows cfg s
  backed : ∀ t b, s.nat t = some b → ∃ i, (own i).stage = .wrote t (b.flow t.proto)
  wrote : ∀ i t f, (own i).stage = .wrote t f → (tasks i).Wrote cfg (own i).skb t f
  read : ∀ i t f, (own i).stage = .read t f → ∃ j, (own j).stage = .wrote t f

variable {i : ι} {l' : TaskState} {s' : Maps}

/-- A task that wrote its entry before still has. -/
theorem TaskStep.keeps_wrote [DecidableEq ι] (h : TaskStep cfg (tasks i) (own i) s l' s') {j : ι}
    {t : NatKey} {f : FwdNatKey} (hj : (own j).stage = .wrote t f) :
    (Function.update own i l' j).stage = .wrote t f := by
  by_cases hji : j = i
  · subst hji
    rw [Function.update_self]
    have not_open : ¬ (own j).stage.Open := by
      rw [hj]
      exact id
    cases h with
    | idle trail | stored trail | removed _ trail | refreshed _ _ trail | forgotten _ trail =>
      exact trail.trans hj
    | saw entry undone | recorded undone => exact absurd undone not_open
  · rw [Function.update_of_ne hji]
    exact hj

theorem TaskStep.known (h : TaskStep cfg (tasks i) (own i) s l' s') (known : TaskKnows cfg s) :
    TaskKnows cfg s' := by
  cases h with
  | idle | saw => exact known
  | stored trail skb grants =>
    refine ⟨known.config, fun key v entry => ?_⟩
    rcases entry_of_set entry with ⟨rfl, rfl⟩ | stays
    · exact grants
    · exact known.fwdNat key v stays
  | removed key => exact ⟨known.config, fun key' v entry => known.fwdNat key' v
      (entry_of_removed entry)⟩
  | recorded | refreshed | forgotten => exact ⟨known.config, known.fwdNat⟩

theorem TaskStep.wrote (h : TaskStep cfg (tasks i) (own i) s l' s')
    (hinv : Filtered tasks cfg own s) {t : NatKey} {f : FwdNatKey} (hl : l'.stage = .wrote t f) :
    (tasks i).Wrote cfg l'.skb t f := by
  have before : l'.stage = (own i).stage → (own i).stage.Open ∨ l'.skb = (own i).skb →
      (tasks i).Wrote cfg l'.skb t f := by
    intro trail skb
    have hown := trail.symm.trans hl
    rcases skb with undone | skb
    · rw [hown] at undone
      exact undone.elim
    · rw [skb]
      exact hinv.wrote i t f hown
  cases h with
  | idle trail skb => exact before trail skb
  | saw entry undone trail =>
    rw [trail] at hl
    cases hl
  | stored trail skb | removed _ trail skb | refreshed _ _ trail skb | forgotten _ trail skb =>
    exact before trail (.inr skb)
  | recorded undone trail wrote =>
    rw [trail] at hl
    cases hl
    exact wrote

theorem filtered_step [DecidableEq ι] (hinv : Filtered tasks cfg own s)
    (h : TaskStep cfg (tasks i) (own i) s l' s') :
    Filtered tasks cfg (Function.update own i l') s' := by
  have still : ∀ {t f}, (∃ j, (own j).stage = .wrote t f) →
      ∃ j, (Function.update own i l' j).stage = .wrote t f :=
    fun ⟨j, hj⟩ => ⟨j, h.keeps_wrote hj⟩
  have self : (Function.update own i l' i).stage = l'.stage := by rw [Function.update_self]
  refine ⟨h.known hinv.known, fun t b entry => ?_, fun j t f hj => ?_, fun j t f hj => ?_⟩
  · have before : s.nat t = some b → ∃ j, (Function.update own i l' j).stage =
        .wrote t (b.flow t.proto) := fun entry => still (hinv.backed t b entry)
    cases h with
    | idle | saw | stored | removed => exact before entry
    | @recorded t' b' undone trail wrote =>
      by_cases ht : t = t'
      · subst ht
        rw [Maps.setNat_self] at entry
        obtain rfl := Option.some.inj entry
        exact ⟨i, self.trans trail⟩
      · rw [Maps.setNat_of_ne _ _ _ ht] at entry
        exact before entry
    | @refreshed t' b₀ b' old flow trail skb =>
      by_cases ht : t = t'
      · subst ht
        rw [Maps.setNat_self] at entry
        obtain rfl := Option.some.inj entry
        rw [flow]
        exact still (hinv.backed t b₀ old)
      · rw [Maps.setNat_of_ne _ _ _ ht] at entry
        exact before entry
    | forgotten t' => exact before (record_of_removed entry)
  · by_cases hji : j = i
    · subst hji
      rw [Function.update_self] at hj ⊢
      exact h.wrote hinv hj
    · rw [Function.update_of_ne hji] at hj ⊢
      exact hinv.wrote j t f hj
  · by_cases hji : j = i
    · subst hji
      rw [Function.update_self] at hj
      cases h with
      | idle trail | stored trail | removed _ trail | refreshed _ _ trail | forgotten _ trail =>
        exact still (hinv.read j t f (trail.symm.trans hj))
      | saw entry undone trail =>
        rw [trail] at hj
        cases hj
        exact still (hinv.backed _ _ entry)
      | recorded undone trail =>
        rw [trail] at hj
        cases hj
    · rw [Function.update_of_ne hji] at hj
      exact still (hinv.read j t f hj)

end Invariant

end Natto64
