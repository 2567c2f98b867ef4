import Natto64.Dataplane
import Natto64.PairedMaps

/-!
# What an event does to the sessions

A session is a forward entry together with the reverse entry at its external tuple. The
three kinds of invocation change the two maps in the few ways listed here.
-/
namespace Natto64
open EventRun

/-- The forward entries, recorded at their external tuples. -/
def sessions : Pairing FwdNatKey TimedFwdNatVal NatKey NatVal where
  addr key v := natKey v.extV4 v.extPort key.proto
  Agrees key v b := b.vmV6 = key.vmV6 ∧ b.vmPort = key.vmPort ∧ b.remoteV4 = key.remoteV4 ∧
    b.remotePort = key.remotePort ∧ b.generation = v.generation
  inj := by
    rintro ⟨_, _, _, _, _⟩ ⟨_, _, _, _, _⟩ v v' b haddr ⟨h1, h2, h3, h4, -⟩ ⟨h1', h2', h3', h4', -⟩
    obtain ⟨-, -, hproto⟩ := natKey_inj.mp haddr
    simp only at h1 h2 h3 h4 h1' h2' h3' h4' hproto
    simp only [FwdNatKey.mk.injEq]
    exact ⟨h1.symm.trans h1', h3.symm.trans h3', h2.symm.trans h2', h4.symm.trans h4', hproto⟩

/-- The same external tuple and generation. -/
def TimedFwdNatVal.SameTuple (v w : TimedFwdNatVal) : Prop :=
  w.extV4 = v.extV4 ∧ w.extPort = v.extPort ∧ w.generation = v.generation

theorem TimedFwdNatVal.SameTuple.addr {v w : TimedFwdNatVal} (h : v.SameTuple w)
    (key : FwdNatKey) : sessions.addr key w = sessions.addr key v := by
  change natKey w.extV4 w.extPort key.proto = _
  rw [h.1, h.2.1]
  rfl

theorem TimedFwdNatVal.SameTuple.agrees {v w : TimedFwdNatVal} (h : v.SameTuple w)
    (key : FwdNatKey) (b : NatVal) (hb : sessions.Agrees key v b) : sessions.Agrees key w b :=
  ⟨hb.1, hb.2.1, hb.2.2.1, hb.2.2.2.1, hb.2.2.2.2.trans h.2.2.symm⟩

theorem agrees_fwdNatVal {key : FwdNatKey} {v : TimedFwdNatVal} {generation : UInt32}
    (h : generation = v.generation) (nowNs : UInt64) :
    sessions.Agrees key v (fwdNatVal key generation nowNs) := ⟨rfl, rfl, rfl, rfl, h⟩

/-! ## A forward packet -/

/-- A call failed after a new forward entry was inserted. -/
def FailsAfterOpening (l : Calls) : Prop :=
  ∃ rest start, l = rest ++ (.fwdNatInsert, true) :: start ∧ Faulty rest

theorem Clean.not_failsAfterOpening {l : Calls} (h : Clean l) : ¬ FailsAfterOpening l := by
  rintro ⟨rest, start, rfl, hf⟩
  exact h.left.not_faulty hf

/-- A packet that opens a session can be translated to the end, and the reverse entry can
be inserted; where the timer cannot be armed, the forward entry can be removed again. -/
def ForwardCompletes (k : Kernel) (m : Machine) : Prop :=
  ∀ extV4 extPort, FwdAdmitted (m.maps.config.getD DEFAULT_CFG) m.skb extV4 →
    (u8At m.skb 20 = IPPROTO_TCP → k.changeProtoOk = true ∧ 58 ≤ m.skb.length) →
    m.maps.fwdNat (fwdKeyAt m.skb) = none →
    portFor (m.maps.config.getD DEFAULT_CFG) m.maps.nat m.cpu extV4 (u8At m.skb 20) =
      some extPort →
    k.fwdNatInsertOk = true →
    if (m.maps.config.getD DEFAULT_CFG).sessionTimeoutSecs ≠ 0 ∧ k.Arms = false then
      k.fwdNatRemoveOk = true
    else ¬ k.Spurious ∧ k.changeProtoOk = true ∧ k.natInsertOk = true ∧
      54 + csumFieldOff (u8At m.skb 20) + 2 ≤ m.skb.length ∧ fwdCsum k m.skb extV4 extPort ≠ none

/-- The forward entry after its flow was seen. -/
def TimedFwdNatVal.seen (v : TimedFwdNatVal) (nowNs : UInt64) : TimedFwdNatVal :=
  { v with lastSeenNs := nowNs, observedLastSeenNs := 0 }

theorem TimedFwdNatVal.sameTuple_seen (v : TimedFwdNatVal) (nowNs : UInt64) :
    v.SameTuple (v.seen nowNs) := ⟨rfl, rfl, rfl⟩

/-- The forward entry of a new session. -/
def openedVal (k : Kernel) (cfg : Nat64Config) (extV4 : UInt32) (extPort : UInt16) :
    TimedFwdNatVal :=
  { TimedFwdNatVal.new extV4 extPort k.prandom k.now with timer := armedUntil k cfg }

/-- What a forward packet does to the sessions. -/
inductive ForwardMaps (k : Kernel) (m : Machine) (z : TcAction × Machine) : Prop
  | idle (maps : z.2.maps = m.maps)
      (cause : m.FaultyTo z.2 ∨
        (∀ extV4, ¬ FwdAdmitted (m.maps.config.getD DEFAULT_CFG) m.skb extV4) ∨
        m.maps.fwdNat (fwdKeyAt m.skb) = none)
  | touched {v} (old : m.maps.fwdNat (fwdKeyAt m.skb) = some v)
      (maps : z.2.maps = m.maps.setFwdNat (fwdKeyAt m.skb) (some (v.seen k.now)))
      (log : m.FaultyTo z.2)
  | recorded {v} (old : m.maps.fwdNat (fwdKeyAt m.skb) = some v)
      (maps : z.2.maps = (m.maps.setFwdNat (fwdKeyAt m.skb) (some (v.seen k.now))).setNat
        (sessions.addr (fwdKeyAt m.skb) v) (some (fwdNatVal (fwdKeyAt m.skb) v.generation k.now)))
  | opened {extV4 extPort} (new : m.maps.fwdNat (fwdKeyAt m.skb) = none)
      (pool : extV4 ∈ (m.maps.config.getD DEFAULT_CFG).pool)
      (port : portFor (m.maps.config.getD DEFAULT_CFG) m.maps.nat m.cpu extV4 (u8At m.skb 20) =
        some extPort)
      (maps : z.2.maps = (m.maps.setFwdNat (fwdKeyAt m.skb)
          (some (openedVal k (m.maps.config.getD DEFAULT_CFG) extV4 extPort))).setNat
        (natKey extV4 extPort (u8At m.skb 20)) (some (fwdNatVal (fwdKeyAt m.skb) k.prandom k.now)))
  | orphaned {w} (maps : z.2.maps = m.maps.setFwdNat (fwdKeyAt m.skb) (some w))
      (incomplete : ¬ ForwardCompletes k m)
      (log : ∃ l, z.2.log = l ++ m.log ∧ FailsAfterOpening l)

theorem Machine.Spans.failsAfterOpening {m m' : Machine} {l : Calls} {Q : Calls → Prop}
    (h : m.Spans m' (l ++ [(.fwdNatInsert, true)]) Q)
    (fails : ∀ rest, Q rest → Faulty (rest ++ l)) :
    ∃ l', m'.log = l' ++ m.log ∧ FailsAfterOpening l' := by
  obtain ⟨start, rest, hlog, -, hQ⟩ := h
  refine ⟨rest ++ l ++ (.fwdNatInsert, true) :: start, ?_, rest ++ l, start, rfl, fails rest hQ⟩
  rw [hlog]
  simp only [List.append_assoc, List.cons_append, List.nil_append]

theorem Machine.Spans.faultyTo {m m' : Machine} {l : Calls} {Q : Calls → Prop}
    (h : m.Spans m' l Q) (fails : ∀ rest, Q rest → Faulty rest) : m.FaultyTo m' := by
  obtain ⟨start, rest, hlog, -, hQ⟩ := h
  refine ⟨rest ++ (l ++ start), ?_, (fails rest hQ).append_right⟩
  rw [hlog]
  simp only [List.append_assoc]

theorem forward_maps (k : Kernel) (m : Machine) :
    ForwardMaps k m (k.exec nat64Forward m) := by
  have h := nat64Forward_case k m
  generalize k.exec nat64Forward m = z at h ⊢
  cases h with
  | passed cause same =>
      exact .idle same.2.1 (cause.elim (fun h => .inl h.1) fun h => .inr (.inl h))
  | cut admitted tcp change cause length maps log => exact .idle maps.1 (.inl log)
  | @unmapped m' extV4 s l mapped maps skb log =>
      have hmap := mapped.mapping
      cases hmap with
      | refused new cause => exact .idle maps (.inr (.inr new))
      | stuck new port inserts cause after =>
          refine .orphaned maps (fun complete => ?_)
            (log.failsAfterOpening fun rest _ => after.append_left)
          have hremove := complete extV4 _ mapped.admitted mapped.tcp new port inserts
          rw [if_pos ⟨cause.1, cause.2.1⟩, cause.2.2] at hremove
          cases hremove
  | @dropped m' extV4 t s l mapped maps cause skb log =>
      have hmap := mapped.mapping
      cases hmap with
      | hit old => exact .touched old maps (log.faultyTo fun _ h => h)
      | created new port inserts armed after =>
          refine .orphaned maps (fun complete => ?_)
            (log.failsAfterOpening fun rest h => h.append_right)
          have hdone := complete extV4 _ mapped.admitted mapped.tcp new port inserts
          rw [if_neg fun hc => armed.elim hc.1 fun ha => by simp [hc.2] at ha] at hdone
          obtain ⟨exact, change, insert, within, chain⟩ := hdone
          rcases cause with spurious | hc | short | none | ⟨-, hi⟩
          · exact exact spurious
          · exact absurd (hc.symm.trans change) (by decide)
          · exact absurd within (Nat.not_le_of_lt short)
          · exact chain none
          · exact absurd (hi.symm.trans insert) (by decide)
  | @translated m' extV4 t s l csum mapped change within chain skb maps tcp log =>
      have hmap := mapped.mapping
      cases insert : k.natInsertOk with
      | true =>
          rw [insert, if_pos rfl] at maps
          cases hmap with
          | hit old => exact .recorded old maps
          | created new port inserts armed after =>
              exact .opened new (selectV4FromPoolEbpf_mem mapped.admitted.pool) port maps
      | false =>
          rw [insert, if_neg (by decide)] at maps
          have fails : ∀ rest : Calls, (Helper.natInsert, k.natInsertOk) ∈ rest → Faulty rest :=
            fun rest h => ⟨_, h, insert⟩
          cases hmap with
          | hit old => exact .touched old maps (log.faultyTo fun rest h => fails rest h.1)
          | created new port inserts armed after =>
              refine .orphaned maps (fun complete => ?_)
                (log.failsAfterOpening fun rest h => (fails rest h.1).append_right)
              have hdone := complete extV4 _ mapped.admitted mapped.tcp new port inserts
              rw [if_neg fun hc => armed.elim hc.1 fun ha => by simp [hc.2] at ha] at hdone
              exact absurd (insert.symm.trans hdone.2.2.1) (by decide)

/-- What a reverse packet does to the sessions. -/
inductive ReverseMaps (k : Kernel) (m : Machine) (z : TcAction × Machine) : Prop
  | idle (maps : z.2.maps = m.maps) (piped : z.1 = .pipe)
      (cause : m.FaultyTo z.2 ∨ ∀ v, ¬ RevMatched m.maps m.skb v)
  | refreshed {v} (matched : RevMatched m.maps m.skb v)
      (maps : z.2.maps = m.maps.refresh (revKeyAt m.skb) v k.now)

theorem reverse_maps (k : Kernel) (m : Machine) :
    ReverseMaps k m (k.exec nat64Reverse m) := by
  have h := nat64Reverse_case k m
  generalize k.exec nat64Reverse m = z at h ⊢
  cases h with
  | passed cause same => exact .idle same.2.1 rfl (cause.imp_left fun h => h.1)
  | kept matched change skb maps => exact .refreshed matched maps
  | cut matched change cause length maps => exact .refreshed matched maps
  | translated matched change within nonzero chain skb maps => exact .refreshed matched maps

/-! ## A timer callback -/

/-- What the callback finds: the entry with its timer gone off. -/
def TimedFwdNatVal.unarmed (v : TimedFwdNatVal) : TimedFwdNatVal := { v with timer := none }

section Timer
variable {s : System} {key : FwdNatKey} {v : TimedFwdNatVal}

theorem unarmed_of_some (h : s.maps.fwdNat key = some v) :
    s.unarmed key = s.maps.setFwdNat key (some v.unarmed) := by
  rw [System.unarmed, h]
  rfl

theorem unarmed_of_none (h : s.maps.fwdNat key = none) : s.unarmed key = s.maps := by
  rw [System.unarmed, h]
  exact Maps.setFwdNat_eq_self h

theorem setFwdNat_unarmed (w : Option TimedFwdNatVal) :
    (s.timerMachine key).maps.setFwdNat key w = s.maps.setFwdNat key w :=
  Maps.setFwdNat_setFwdNat ..

@[simp] theorem timerMachine_nat : (s.timerMachine key).maps.nat = s.maps.nat := rfl
@[simp] theorem timerMachine_config : (s.timerMachine key).maps.config = s.maps.config := rfl

@[simp] theorem lastActivity_unarmed (nat : NatKey → Option NatVal) :
    lastActivity nat key v.unarmed = lastActivity nat key v := rfl

/-- What the callback finds at its key. -/
theorem timerMachine_entry {w : TimedFwdNatVal}
    (h : (s.timerMachine key).maps.fwdNat key = some w) :
    ∃ v, s.maps.fwdNat key = some v ∧ w = v.unarmed := by
  change Function.update s.maps.fwdNat key _ key = some w at h
  rw [Function.update_self] at h
  obtain ⟨v, hv, rfl⟩ := Option.map_eq_some_iff.mp h
  exact ⟨v, hv, rfl⟩

end Timer

/-- What a timer callback does to the sessions. -/
inductive TimerMaps (k : Kernel) (s : System) (key : FwdNatKey) (m' : Machine) : Prop
  | idle (maps : m'.maps = s.maps)
  | kept {v w} (entry : s.maps.fwdNat key = some v) (same : v.SameTuple w)
      (maps : m'.maps = s.maps.setFwdNat key (some w))
  | forgotten {v} (entry : s.maps.fwdNat key = some v)
      (maps : m'.maps = (s.maps.setFwdNat key none).setNat (sessions.addr key v) none)
  | erased {v} (entry : s.maps.fwdNat key = some v) (maps : m'.maps = s.maps.setFwdNat key none)
      (cause : ownsReverse s.maps.nat key v = false ∨ (.natRemove, false) ∈ m'.log)
  | severed {v w} (entry : s.maps.fwdNat key = some v)
      (maps : m'.maps = (s.maps.setFwdNat key (some w)).setNat (sessions.addr key v) none)
      (insert : k.natRemoveOk = true) (remove : k.fwdNatRemoveOk = false)
      (log : (.fwdNatRemove, false) ∈ m'.log)

/-- The ways an expiry can end. -/
theorem expire_maps {k : Kernel} {s : System} {key : FwdNatKey} {v : TimedFwdNatVal}
    {m' : Machine} (entry : s.maps.fwdNat key = some v)
    (maps : m'.maps = (s.timerMachine key).maps.expire k key v.unarmed)
    (log : m'.log = (.fwdNatRemove, k.fwdNatRemoveOk) ::
      if ownsReverse s.maps.nat key v then [(.natRemove, k.natRemoveOk)] else []) :
    TimerMaps k s key m' := by
  have hunarmed : (s.timerMachine key).maps = s.maps.setFwdNat key (some v.unarmed) :=
    unarmed_of_some entry
  have howns : ownsReverse (s.maps.setFwdNat key (some v.unarmed)).nat key v.unarmed =
      ownsReverse s.maps.nat key v := rfl
  rw [hunarmed, Maps.expire, howns] at maps
  cases hf : k.fwdNatRemoveOk with
  | true =>
      have hfwd : Function.update (s.maps.setFwdNat key (some v.unarmed)).fwdNat key none =
          (s.maps.setFwdNat key none).fwdNat := Function.update_idem ..
      rw [hf, if_pos rfl, hfwd] at maps
      cases owns : ownsReverse s.maps.nat key v with
      | false =>
          rw [owns, Bool.false_and, if_neg (by decide)] at maps
          exact .erased entry maps (.inl owns)
      | true =>
          rw [owns, Bool.true_and] at maps
          rw [owns, if_pos rfl] at log
          cases hn : k.natRemoveOk with
          | true =>
              rw [hn, if_pos rfl] at maps
              exact .forgotten entry maps
          | false =>
              rw [hn, if_neg (by decide)] at maps
              rw [hn] at log
              refine .erased entry maps (.inr ?_)
              rw [log]
              exact List.mem_cons_of_mem _ List.mem_cons_self
  | false =>
      rw [hf, if_neg (by decide)] at maps
      rw [hf] at log
      by_cases hremoved : (ownsReverse s.maps.nat key v && k.natRemoveOk) = true
      · rw [if_pos hremoved] at maps
        exact .severed entry maps (Bool.and_eq_true_iff.mp hremoved).2 hf
          (by rw [log]; exact List.mem_cons_self)
      · rw [if_neg hremoved] at maps
        have same : v.SameTuple v.unarmed := ⟨rfl, rfl, rfl⟩
        exact .kept entry same maps

theorem timer_case (s : System) (key : FwdNatKey) (k : Kernel) :
    TimerCase k (sessionTimeoutNs (s.maps.config.getD DEFAULT_CFG)) key (s.timerMachine key)
      (s.timer key k) := by
  have h := sessionTimerCallback_case k key (s.timerMachine key)
  rw [timerMachine_config] at h
  exact h

theorem timer_maps (s : System) (key : FwdNatKey) (k : Kernel) :
    TimerMaps k s key (s.timer key k) := by
  have h := timer_case s key k
  generalize s.timer key k = m' at h ⊢
  cases h with
  | skipped cause =>
      cases entry : s.maps.fwdNat key with
      | none => exact .idle (unarmed_of_none entry)
      | some v =>
          have same : v.SameTuple v.unarmed := ⟨rfl, rfl, rfl⟩
          exact .kept entry same (unarmed_of_some entry)
  | active entry on recent maps log =>
      obtain ⟨v, stored, rfl⟩ := timerMachine_entry entry
      refine .kept stored ?_ (maps.trans (setFwdNat_unarmed _))
      exact ⟨rfl, rfl, rfl⟩
  | observed entry on quiet fresh maps log =>
      obtain ⟨v, stored, rfl⟩ := timerMachine_entry entry
      refine .kept stored ?_ (maps.trans (setFwdNat_unarmed _))
      exact ⟨rfl, rfl, rfl⟩
  | expired entry on quiet confirmed maps log =>
      obtain ⟨v, stored, rfl⟩ := timerMachine_entry entry
      exact expire_maps stored maps (log.trans (congrArg _ (List.append_nil _)))

/-! ## Sessions and their reverse entries -/

theorem System.forward_maps (s : System) (cpu : Nat) (skb : List UInt8) (k : Kernel) :
    ForwardMaps k (s.machine cpu skb) (s.forward cpu skb k) := Natto64.forward_maps ..

theorem System.reverse_maps (s : System) (cpu : Nat) (skb : List UInt8) (k : Kernel) :
    ReverseMaps k (s.machine cpu skb) (s.reverse cpu skb k) := Natto64.reverse_maps ..

theorem step_config (s : System) (e : Event) : (s.step e).maps.config = s.maps.config := by
  cases e with
  | forward cpu skb k =>
      change (s.forward cpu skb k).2.maps.config = _
      cases s.forward_maps cpu skb k with
      | idle maps | touched _ maps | recorded _ maps | opened _ _ _ maps | orphaned maps =>
          exact (congrArg Maps.config maps).trans rfl
  | reverse cpu skb k =>
      change (s.reverse cpu skb k).2.maps.config = _
      cases s.reverse_maps cpu skb k with
      | idle maps | refreshed _ maps =>
          exact (congrArg Maps.config maps).trans rfl
  | timer key k =>
      change (s.timer key k).maps.config = _
      cases timer_maps s key k with
      | idle maps | kept _ _ maps | forgotten _ maps | erased _ maps | severed _ maps =>
          exact (congrArg Maps.config maps).trans rfl
  | evictFwdNat key => rfl
  | evictNat key => rfl

/-- The event neither opens a session without its reverse entry nor takes one's away. -/
def System.Completes (s : System) : Event → Prop
  | .forward cpu skb k => ForwardCompletes k (s.machine cpu skb) ∨
      ¬ FailsAfterOpening (s.forward cpu skb k).2.log
  | .timer key k => (k.natRemoveOk = true → k.fwdNatRemoveOk = true) ∨
      (.fwdNatRemove, false) ∉ (s.timer key k).log
  | _ => True

section Completes
variable {s : System} {k : Kernel}

theorem failsAfterOpening_of_log {m' : Machine} {cpu : Nat} {skb : List UInt8}
    (log : ∃ l, m'.log = l ++ (s.machine cpu skb).log ∧ FailsAfterOpening l) :
    FailsAfterOpening m'.log := by
  obtain ⟨l, hlog, fails⟩ := log
  have hl : m'.log = l := hlog.trans (List.append_nil l)
  rw [hl]
  exact fails

theorem System.Completes.not_orphaned {cpu : Nat} {skb : List UInt8}
    (h : s.Completes (.forward cpu skb k)) (incomplete : ¬ ForwardCompletes k (s.machine cpu skb))
    (log : ∃ l, (s.forward cpu skb k).2.log = l ++ (s.machine cpu skb).log ∧ FailsAfterOpening l) :
    False :=
  h.elim incomplete fun intact => intact (failsAfterOpening_of_log log)

theorem System.Completes.not_severed {key : FwdNatKey} (h : s.Completes (.timer key k))
    (insert : k.natRemoveOk = true) (remove : k.fwdNatRemoveOk = false)
    (log : (.fwdNatRemove, false) ∈ (s.timer key k).log) : False :=
  h.elim (fun removes => Bool.false_ne_true (remove.symm.trans (removes insert)))
    fun removed => removed log

end Completes

def System.Covered (s : System) : Prop := sessions.Covered s.maps.fwdNat s.maps.nat

theorem refresh_covered {m : Maps} {l : NatKey} {v : NatVal} {nowNs : UInt64}
    (h : sessions.Covered m.fwdNat m.nat) (entry : m.nat l = some v) :
    sessions.Covered (m.refresh l v nowNs).fwdNat (m.refresh l v nowNs).nat := by
  refine h.refresh fun l' b hb => ?_
  by_cases hl : l' = l
  · subst hl
    obtain rfl := Option.some.inj (entry.symm.trans hb)
    exact ⟨_, Maps.setNat_self .., fun _ _ hab => hab⟩
  · exact ⟨b, (Maps.setNat_of_ne _ _ _ hl).trans hb, fun _ _ hab => hab⟩

/-- Every session keeps its reverse entry. -/
theorem covered_step {s : System} {e : Event} (h : s.Covered) (resident : ¬ e.evicts)
    (completes : s.Completes e) : (s.step e).Covered := by
  cases e with
  | forward cpu skb k =>
      change sessions.Covered (s.forward cpu skb k).2.maps.fwdNat (s.forward cpu skb k).2.maps.nat
      cases s.forward_maps cpu skb k with
      | idle maps => exact maps ▸ h
      | @touched v old maps log =>
          have same := v.sameTuple_seen k.now
          rw [maps]
          exact h.touch old (same.addr _) (same.agrees _)
      | @recorded v old maps =>
          have same := v.sameTuple_seen k.now
          have hseen := h.touch old (same.addr _) (same.agrees _)
          rw [maps, ← same.addr]
          exact hseen.record (Maps.setFwdNat_self ..) (agrees_fwdNatVal rfl k.now)
      | opened new pool port maps =>
          have fresh := (portFor_spec port).2.2
          rw [maps]
          exact h.insert fresh (agrees_fwdNatVal rfl k.now)
      | orphaned maps incomplete log => exact (completes.not_orphaned incomplete log).elim
  | reverse cpu skb k =>
      change sessions.Covered (s.reverse cpu skb k).2.maps.fwdNat (s.reverse cpu skb k).2.maps.nat
      cases s.reverse_maps cpu skb k with
      | idle maps => exact maps ▸ h
      | refreshed matched maps =>
          rw [maps]
          exact refresh_covered h matched.entry
  | timer key k =>
      change sessions.Covered (s.timer key k).maps.fwdNat (s.timer key k).maps.nat
      cases timer_maps s key k with
      | idle maps => exact maps ▸ h
      | kept entry same maps =>
          rw [maps]
          exact h.touch entry (same.addr _) (same.agrees _)
      | forgotten entry maps =>
          rw [maps]
          exact h.remove entry
      | erased entry maps cause =>
          rw [maps]
          exact h.erase
      | severed entry maps insert remove log => exact (completes.not_severed insert remove log).elim
  | evictFwdNat key => exact absurd trivial resident
  | evictNat key => exact absurd trivial resident

/-- The external tuple is one the configuration hands out. -/
def Nat64Config.Assigns (cfg : Nat64Config) (v : TimedFwdNatVal) : Prop :=
  v.extV4 ∈ cfg.pool ∧ cfg.portMin ≤ v.extPort ∧ v.extPort ≤ cfg.portMax

theorem TimedFwdNatVal.SameTuple.refl (v : TimedFwdNatVal) : v.SameTuple v := ⟨rfl, rfl, rfl⟩

theorem TimedFwdNatVal.SameTuple.trans {u v w : TimedFwdNatVal} (huv : u.SameTuple v)
    (hvw : v.SameTuple w) : u.SameTuple w :=
  ⟨hvw.1.trans huv.1, hvw.2.1.trans huv.2.1, hvw.2.2.trans huv.2.2⟩

theorem TimedFwdNatVal.SameTuple.assigns {v w : TimedFwdNatVal} (h : v.SameTuple w)
    {cfg : Nat64Config} (hv : cfg.Assigns v) : cfg.Assigns w := by
  unfold Nat64Config.Assigns
  rw [h.1, h.2.1]
  exact hv

theorem entry_of_set {m : Maps} {key key' : FwdNatKey} {v w : TimedFwdNatVal}
    (h : (m.setFwdNat key (some v)).fwdNat key' = some w) :
    key' = key ∧ w = v ∨ m.fwdNat key' = some w := by
  by_cases hk : key' = key
  · subst hk
    rw [Maps.setFwdNat_self] at h
    exact .inl ⟨rfl, (Option.some.inj h).symm⟩
  · rw [Maps.setFwdNat_of_ne _ _ _ hk] at h
    exact .inr h

theorem entry_of_removed {m : Maps} {key key' : FwdNatKey} {w : TimedFwdNatVal}
    (h : (m.setFwdNat key none).fwdNat key' = some w) : m.fwdNat key' = some w := by
  by_cases hk : key' = key
  · subst hk
    rw [Maps.setFwdNat_self] at h
    cases h
  · rwa [Maps.setFwdNat_of_ne _ _ _ hk] at h

theorem record_of_removed {m : Maps} {l l' : NatKey} {v : NatVal}
    (h : (m.setNat l none).nat l' = some v) : m.nat l' = some v := by
  by_cases hl : l' = l
  · subst hl
    rw [Maps.setNat_self] at h
    cases h
  · rwa [Maps.setNat_of_ne _ _ _ hl] at h

/-- A forward entry was there before with the same external tuple, or is newly assigned. -/
theorem fwdNat_step {s : System} {e : Event} {key : FwdNatKey} {w : TimedFwdNatVal}
    (entry : (s.step e).maps.fwdNat key = some w) (completes : s.Completes e) :
    (∃ v, s.maps.fwdNat key = some v ∧ v.SameTuple w) ∨
      (s.maps.fwdNat key = none ∧ (s.maps.config.getD DEFAULT_CFG).Assigns w) := by
  cases e with
  | forward cpu skb k =>
      change (s.forward cpu skb k).2.maps.fwdNat key = some w at entry
      cases s.forward_maps cpu skb k with
      | idle maps =>
          rw [maps] at entry
          exact .inl ⟨w, entry, .refl w⟩
      | @touched v old maps log =>
          rw [maps] at entry
          rcases entry_of_set entry with ⟨rfl, rfl⟩ | stays
          · exact .inl ⟨v, old, v.sameTuple_seen k.now⟩
          · exact .inl ⟨w, stays, .refl w⟩
      | @recorded v old maps =>
          rw [maps] at entry
          rcases entry_of_set entry with ⟨rfl, rfl⟩ | stays
          · exact .inl ⟨v, old, v.sameTuple_seen k.now⟩
          · exact .inl ⟨w, stays, .refl w⟩
      | opened new pool port maps =>
          rw [maps] at entry
          rcases entry_of_set entry with ⟨rfl, rfl⟩ | stays
          · have range := portFor_spec port
            exact .inr ⟨new, pool, range.1, range.2.1⟩
          · exact .inl ⟨w, stays, .refl w⟩
      | orphaned maps incomplete log => exact (completes.not_orphaned incomplete log).elim
  | reverse cpu skb k =>
      change (s.reverse cpu skb k).2.maps.fwdNat key = some w at entry
      cases s.reverse_maps cpu skb k with
      | idle maps | refreshed _ maps =>
          rw [maps] at entry
          exact .inl ⟨w, entry, .refl w⟩
  | timer key' k =>
      change (s.timer key' k).maps.fwdNat key = some w at entry
      cases timer_maps s key' k with
      | idle maps =>
          rw [maps] at entry
          exact .inl ⟨w, entry, .refl w⟩
      | @kept v w' old same maps =>
          rw [maps] at entry
          rcases entry_of_set entry with ⟨rfl, rfl⟩ | stays
          · exact .inl ⟨v, old, same⟩
          · exact .inl ⟨w, stays, .refl w⟩
      | forgotten _ maps | erased _ maps _ =>
          rw [maps] at entry
          exact .inl ⟨w, entry_of_removed entry, .refl w⟩
      | severed _ maps insert remove log => exact (completes.not_severed insert remove log).elim
  | evictFwdNat key' => exact .inl ⟨w, entry_of_removed entry, .refl w⟩
  | evictNat key' => exact .inl ⟨w, entry, .refl w⟩

end Natto64
