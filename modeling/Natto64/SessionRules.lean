import Natto64.Ports
import Natto64.Session

/-!
# How sessions change

The ways `lookup_or_create_mapping` and the timer callback can end, with what each
does to the maps.
-/
namespace Natto64

/-- The three timer calls that arm a new session succeed. -/
def Kernel.Arms (k : Kernel) : Bool := k.timerInitOk && k.timerSetCallbackOk && k.timerStartOk

/-- When the timer of a session created now will expire. -/
def armedUntil (k : Kernel) (cfg : Nat64Config) : Option Nat :=
  if cfg.sessionTimeoutSecs = 0 then none
  else some (k.now.toNat + (max (sessionTimeoutNs cfg) 1).toNat)

/-- The end of `lookup_or_create_mapping`: the tuple and generation of the flow, the maps
and the calls made. -/
inductive MappingCase (k : Kernel) (cfg : Nat64Config) (key : FwdNatKey) (extV4 : UInt32)
    (proto : UInt8) (nowNs : UInt64) (s : Maps) (cpu : CpuMaps) :
    Option (UInt32 × UInt16 × UInt32) → Maps → Calls → Prop
  | hit {v} (old : s.fwdNat key = some v) :
      MappingCase k cfg key extV4 proto nowNs s cpu (some (v.extV4, v.extPort, v.generation))
        (s.setFwdNat key (some { v with lastSeenNs := nowNs, observedLastSeenNs := 0 })) []
  | refused {l} (new : s.fwdNat key = none)
      (cause : portFor cfg s.nat cpu extV4 proto = none ∨ k.fwdNatInsertOk = false ∨
        (cfg.sessionTimeoutSecs ≠ 0 ∧ k.Arms = false ∧ k.fwdNatRemoveOk = true)) :
      MappingCase k cfg key extV4 proto nowNs s cpu none s l
  | stuck {port l} (new : s.fwdNat key = none)
      (port_eq : portFor cfg s.nat cpu extV4 proto = some port)
      (inserts : k.fwdNatInsertOk = true)
      (cause : cfg.sessionTimeoutSecs ≠ 0 ∧ k.Arms = false ∧ k.fwdNatRemoveOk = false)
      (after : Faulty l) :
      MappingCase k cfg key extV4 proto nowNs s cpu none
        (s.setFwdNat key (some (TimedFwdNatVal.new extV4 port k.prandom nowNs)))
        (l ++ [(.fwdNatInsert, true)])
  | created {port l} (new : s.fwdNat key = none)
      (port_eq : portFor cfg s.nat cpu extV4 proto = some port)
      (inserts : k.fwdNatInsertOk = true)
      (armed : cfg.sessionTimeoutSecs = 0 ∨ k.Arms = true) (after : Clean l) :
      MappingCase k cfg key extV4 proto nowNs s cpu (some (extV4, port, k.prandom))
        (s.setFwdNat key (some { TimedFwdNatVal.new extV4 port k.prandom nowNs with
          timer := armedUntil k cfg })) (l ++ [(.fwdNatInsert, true)])

/-- The forward entry has the tuple and generation that are returned. -/
theorem MappingCase.entry {k : Kernel} {cfg : Nat64Config} {key : FwdNatKey} {extV4 : UInt32}
    {proto : UInt8} {nowNs : UInt64} {s s' : Maps} {cpu : CpuMaps} {t : UInt32 × UInt16 × UInt32}
    {l : Calls} (h : MappingCase k cfg key extV4 proto nowNs s cpu (some t) s' l) :
    ∃ w, s'.fwdNat key = some w ∧ w.extV4 = t.1 ∧ w.extPort = t.2.1 ∧ w.generation = t.2.2 := by
  cases h with
  | hit old => exact ⟨_, Maps.setFwdNat_self .., rfl, rfl, rfl⟩
  | created new port inserts armed after => exact ⟨_, Maps.setFwdNat_self .., rfl, rfl, rfl⟩

/-- A flow that has an entry gets the external tuple of it. -/
theorem MappingCase.tuple_of_entry {k : Kernel} {cfg : Nat64Config} {key : FwdNatKey}
    {extV4 : UInt32} {proto : UInt8} {nowNs : UInt64} {s s' : Maps} {cpu : CpuMaps}
    {r : Option (UInt32 × UInt16 × UInt32)} {l : Calls} {v : TimedFwdNatVal}
    (h : MappingCase k cfg key extV4 proto nowNs s cpu r s' l) (entry : s.fwdNat key = some v) :
    r = some (v.extV4, v.extPort, v.generation) := by
  cases h with
  | hit old =>
      obtain rfl := Option.some.inj (entry.symm.trans old)
      rfl
  | refused new | stuck new | created new =>
      rw [new] at entry
      cases entry

section Timer
variable {β : Type} {k : Kernel} {m : Machine} {P : β × Machine → Prop}

theorem armSessionTimer_rule {key : FwdNatKey} {v : TimedFwdNatVal} {q : Bool → Ebpf β}
    (entry : m.maps.fwdNat key = some v)
    (ok : k.Arms = true → ∀ m', m.CleanTo m' → m'.skb = m.skb →
      m'.maps = m.maps.setFwdNat key (some { v with timer := some (k.now.toNat +
        (max (sessionTimeoutNs (m.maps.config.getD DEFAULT_CFG)) 1).toNat) }) →
      P (k.exec (q true) m'))
    (failed : k.Arms = false → ∀ m', m.FaultyTo m' → m.SameState m' → P (k.exec (q false) m')) :
    P (k.exec (armSessionTimer key >>= q) m) := by
  have start := (Machine.CleanTo.refl m).logged .timerInit
  have run : k.exec (armSessionTimer key) m =
      if k.timerInitOk then
        if k.timerSetCallbackOk then
          k.exec (timerRearm key (sessionTimeoutNs (m.maps.config.getD DEFAULT_CFG)))
            ((m.logged .timerInit true).logged .timerSetCallback true)
        else (false, (m.logged .timerInit true).logged .timerSetCallback false)
      else (false, m.logged .timerInit false) := by
    unfold armSessionTimer
    rw [exec_bind, exec_fwdNatLookup, entry]
    dsimp only
    rw [exec_bind, exec_timerInit]
    cases k.timerInitOk with
    | false => rfl
    | true =>
        dsimp only
        rw [if_neg (by decide), if_pos rfl, exec_bind, exec_timerSetCallback]
        cases k.timerSetCallbackOk <;> rfl
  rw [exec_bind, run]
  cases hi : k.timerInitOk with
  | false =>
      exact failed (by simp only [Kernel.Arms, hi, Bool.false_and]) _
        ((Machine.CleanTo.refl m).faulted _) ⟨rfl, rfl, rfl⟩
  | true =>
    cases hc : k.timerSetCallbackOk with
    | false =>
        exact failed (by simp only [Kernel.Arms, hi, hc, Bool.and_false, Bool.false_and]) _
          (start.faulted _) ⟨rfl, rfl, rfl⟩
    | true =>
        simp only [reduceIte, timerRearm, exec_timerStart]
        cases hs : k.timerStartOk with
        | false =>
            exact failed (by simp only [Kernel.Arms, hs, Bool.and_false]) _
              ((start.logged _).faulted _) ⟨rfl, rfl, rfl⟩
        | true =>
            refine ok (by simp only [Kernel.Arms, hi, hc, hs, Bool.and_self]) _
              ((start.logged .timerSetCallback).logged .timerStart) rfl ?_
            simp only [reduceIte, Machine.setFwdNat, Machine.logged, entry, Option.map_some]

end Timer

/-- `MappingCase` between machine states. -/
def MappingEnd (k : Kernel) (cfg : Nat64Config) (key : FwdNatKey) (extV4 : UInt32)
    (proto : UInt8) (nowNs : UInt64) (m : Machine)
    (z : Option (UInt32 × UInt16 × UInt32) × Machine) : Prop :=
  ∃ l, z.2.log = l ++ m.log ∧ z.2.skb = m.skb ∧
    MappingCase k cfg key extV4 proto nowNs m.maps m.cpu z.1 z.2.maps l

theorem lookupOrCreateMapping_end (k : Kernel) {cfg : Nat64Config} (key : FwdNatKey)
    (extV4 : UInt32) (proto : UInt8) (nowNs : UInt64) (m : Machine)
    (hcfg : m.maps.config.getD DEFAULT_CFG = cfg) :
    MappingEnd k cfg key extV4 proto nowNs m
      (k.exec (lookupOrCreateMapping cfg key extV4 proto nowNs) m) := by
  unfold lookupOrCreateMapping
  rw [exec_bind, exec_fwdNatLookup]
  cases hold : m.maps.fwdNat key with
  | some v =>
      simp only [exec_bind, exec_fwdNatSetLastSeen, exec_fwdNatSetObserved, exec_withCounters,
        exec_pure, hold, Option.map_some, Machine.setFwdNat_maps, Maps.setFwdNat_self]
      refine ⟨[], rfl, rfl, ?_⟩
      simp only [Machine.setFwdNat_maps, Maps.setFwdNat_setFwdNat]
      exact .hit hold
  | none =>
      obtain ⟨cpu, halloc⟩ := exec_allocPort k cfg extV4 proto m
      simp only [exec_bind _ (withCounters _ _), exec_withCounters]
      rw [exec_bind, halloc]
      cases hport : portFor cfg m.maps.nat m.cpu extV4 proto with
      | none => exact ⟨[], rfl, rfl, .refused hold (.inl hport)⟩
      | some port =>
          simp only [exec_bind _ (withCounters _ _), exec_withCounters,
            exec_bind _ bpfGetPrandomU32, exec_getPrandomU32]
          refine branch_rule (exec_fwdNatInsert k _ key _) (fun hins => ?_) (fun hins => ?_)
          · by_cases ht : cfg.sessionTimeoutSecs = 0
            · have created : MappingCase k cfg key extV4 proto nowNs m.maps m.cpu _ _ _ :=
                .created hold hport hins (.inl ht) fun _ h => absurd h List.not_mem_nil
              have htimer : armedUntil k cfg = none := if_pos ht
              rw [htimer] at created
              rw [if_neg (by decide), if_neg (not_not.mpr ht)]
              exact ⟨_, rfl, rfl, created⟩
            have htimer : armedUntil k cfg =
              some (k.now.toNat + (max (sessionTimeoutNs cfg) 1).toNat) := if_neg ht
            rw [if_neg (by decide), if_pos ht]
            refine armSessionTimer_rule (Maps.setFwdNat_self _ key _)
              (fun ha m' hlog hskb hmaps => ?_) (fun ha m' hlog hsame => ?_)
            · obtain ⟨l, hl, hclean⟩ := hlog
              have created : MappingCase k cfg key extV4 proto nowNs m.maps m.cpu _ _ _ :=
                .created hold hport hins (.inr ha) hclean
              have hmaps' : m'.maps = m.maps.setFwdNat key
                  (some { TimedFwdNatVal.new extV4 port k.prandom nowNs with
                    timer := armedUntil k cfg }) := by
                rw [hmaps, htimer, ← hcfg, Machine.setFwdNat_maps, Maps.setFwdNat_setFwdNat]
                rfl
              rw [← hmaps'] at created
              rw [if_neg (by decide), exec_bind, exec_withCounters, exec_pure]
              exact ⟨_, hl.trans (List.append_cons ..), hskb, created⟩
            · obtain ⟨l, hl, -⟩ := hlog
              rw [if_pos (by decide)]
              refine branch_rule (exec_fwdNatRemove k _ key) (fun hrem => ?_) (fun hrem => ?_)
              · have hmaps' : (m'.setFwdNat key none).maps = m.maps := by
                  rw [Machine.setFwdNat_maps, hsame.2.1, Machine.setFwdNat_maps,
                    Maps.setFwdNat_setFwdNat]
                  exact Maps.setFwdNat_eq_self hold
                have refused : MappingCase k cfg key extV4 proto nowNs m.maps m.cpu none
                    (m'.setFwdNat key none).maps
                    ((.fwdNatRemove, true) :: l ++ [(.fwdNatInsert, true)]) := by
                  rw [hmaps']
                  exact .refused hold (.inr (.inr ⟨ht, ha, hrem⟩))
                refine ⟨_, ?_, hsame.1, refused⟩
                exact congrArg (List.cons (Helper.fwdNatRemove, true))
                  (hl.trans (List.append_cons ..))
              · have stuck : MappingCase k cfg key extV4 proto nowNs m.maps m.cpu _ _
                    ((.fwdNatRemove, false) :: l ++ [(.fwdNatInsert, true)]) :=
                  .stuck hold hport hins ⟨ht, ha, hrem⟩ ⟨_, List.mem_cons_self, rfl⟩
                have hmaps' : m'.maps = m.maps.setFwdNat key
                    (some (TimedFwdNatVal.new extV4 port k.prandom nowNs)) := hsame.2.1
                rw [← hmaps'] at stuck
                refine ⟨_, ?_, hsame.1, stuck⟩
                exact congrArg (List.cons (Helper.fwdNatRemove, false))
                  (hl.trans (List.append_cons ..))
          · exact ⟨[(.fwdNatInsert, false)], rfl, rfl, .refused hold (.inr (.inl hins))⟩

theorem mapping_rule {β : Type} {k : Kernel} {cfg : Nat64Config} {key : FwdNatKey}
    {extV4 : UInt32} {proto : UInt8} {nowNs : UInt64} {m : Machine} {P : β × Machine → Prop}
    {q : Option (UInt32 × UInt16 × UInt32) → Ebpf β}
    (hcfg : m.maps.config.getD DEFAULT_CFG = cfg)
    (mapped : ∀ r m' l, m'.log = l ++ m.log → m'.skb = m.skb →
      MappingCase k cfg key extV4 proto nowNs m.maps m.cpu r m'.maps l → P (k.exec (q r) m')) :
    P (k.exec (lookupOrCreateMapping cfg key extV4 proto nowNs >>= q) m) := by
  obtain ⟨l, hlog, hskb, hcase⟩ := lookupOrCreateMapping_end k key extV4 proto nowNs m hcfg
  rw [exec_bind]
  exact mapped _ _ l hlog hskb hcase

/-- The later of the two activity times of a session, as the callback merges them. -/
def lastActivity (nat : NatKey → Option NatVal) (key : FwdNatKey) (v : TimedFwdNatVal) : UInt64 :=
  max v.lastSeenNs
    (reverseLastSeen v.generation (nat (natKey v.extV4 v.extPort key.proto)))

/-- A session whose timer was started again. -/
def rearmedValue (k : Kernel) (v : TimedFwdNatVal) (observed delay : UInt64) : TimedFwdNatVal :=
  { v with
    observedLastSeenNs := observed
    timer := if k.timerStartOk then some (k.now.toNat + (max delay 1).toNat) else v.timer }

/-- The reverse entry of the session is of its generation. -/
def ownsReverse (nat : NatKey → Option NatVal) (key : FwdNatKey) (v : TimedFwdNatVal) : Bool :=
  (nat (natKey v.extV4 v.extPort key.proto)).any (·.generation == v.generation)

/-- The maps after an expiry: the reverse entry goes if it is of the session. -/
def Maps.expire (s : Maps) (k : Kernel) (key : FwdNatKey) (v : TimedFwdNatVal) : Maps where
  config := s.config
  fwdNat := if k.fwdNatRemoveOk then Function.update s.fwdNat key none else s.fwdNat
  nat := if ownsReverse s.nat key v && k.natRemoveOk then
    Function.update s.nat (natKey v.extV4 v.extPort key.proto) none else s.nat

/-- The end of the timer callback. -/
inductive TimerCase (k : Kernel) (timeoutNs : UInt64) (key : FwdNatKey) (m : Machine) :
    Machine → Prop
  | skipped (cause : m.maps.fwdNat key = none ∨ timeoutNs = 0) : TimerCase k timeoutNs key m m
  | active {v m'} (entry : m.maps.fwdNat key = some v) (on : timeoutNs ≠ 0)
      (recent : satSub k.now (lastActivity m.maps.nat key v) < timeoutNs)
      (maps : m'.maps = m.maps.setFwdNat key (some (rearmedValue k v 0
        (timeoutNs - satSub k.now (lastActivity m.maps.nat key v)))))
      (log : m'.log = (.timerStart, k.timerStartOk) :: m.log) : TimerCase k timeoutNs key m m'
  | observed {v m'} (entry : m.maps.fwdNat key = some v) (on : timeoutNs ≠ 0)
      (quiet : ¬ satSub k.now (lastActivity m.maps.nat key v) < timeoutNs)
      (fresh : v.observedLastSeenNs ≠ lastActivity m.maps.nat key v)
      (maps : m'.maps = m.maps.setFwdNat key (some (rearmedValue k v
        (lastActivity m.maps.nat key v) EXPIRY_CONFIRMATION_NS)))
      (log : m'.log = (.timerStart, k.timerStartOk) :: m.log) : TimerCase k timeoutNs key m m'
  | expired {v m'} (entry : m.maps.fwdNat key = some v) (on : timeoutNs ≠ 0)
      (quiet : ¬ satSub k.now (lastActivity m.maps.nat key v) < timeoutNs)
      (confirmed : v.observedLastSeenNs = lastActivity m.maps.nat key v)
      (maps : m'.maps = m.maps.expire k key v)
      (log : m'.log = (.fwdNatRemove, k.fwdNatRemoveOk) ::
        ((if ownsReverse m.maps.nat key v then [(.natRemove, k.natRemoveOk)] else []) ++ m.log)) :
      TimerCase k timeoutNs key m m'

theorem exec_timerRearm (k : Kernel) (m : Machine) (key : FwdNatKey) (delayNs : UInt64) :
    k.exec (timerRearm key delayNs) m =
      (k.timerStartOk, if k.timerStartOk then
        (m.logged .timerStart true).setFwdNat key ((m.maps.fwdNat key).map fun v =>
          { v with timer := some (k.now.toNat + (max delayNs 1).toNat) })
      else m.logged .timerStart false) := by
  rw [timerRearm, exec_timerStart]
  cases k.timerStartOk <;> rfl

/-- The observed time is written, then the timer is started again. -/
theorem rearm_maps (k : Kernel) {m : Machine} {key : FwdNatKey} {v : TimedFwdNatVal}
    (entry : m.maps.fwdNat key = some v) (observed delay : UInt64) :
    (k.exec (fwdNatSetObserved key observed >>= fun _ => timerRearm key delay) m).2.maps =
        m.maps.setFwdNat key (some (rearmedValue k v observed delay)) ∧
      (k.exec (fwdNatSetObserved key observed >>= fun _ => timerRearm key delay) m).2.log =
        (.timerStart, k.timerStartOk) :: m.log := by
  rw [exec_bind, exec_fwdNatSetObserved, exec_timerRearm, rearmedValue]
  cases k.timerStartOk with
  | false => exact ⟨by simp only [entry]; rfl, rfl⟩
  | true =>
      refine ⟨?_, rfl⟩
      simp only [reduceIte, Machine.setFwdNat_maps, Machine.logged, entry, Option.map_some,
        Maps.setFwdNat_self, Maps.setFwdNat_setFwdNat]

theorem sessionTimerCallback_case (k : Kernel) (key : FwdNatKey) (m : Machine) :
    TimerCase k (sessionTimeoutNs (m.maps.config.getD DEFAULT_CFG)) key m
      (k.exec (sessionTimerCallback key) m).2 := by
  unfold sessionTimerCallback
  rw [exec_bind, exec_fwdNatLookup]
  cases entry : m.maps.fwdNat key with
  | none => exact .skipped (.inl entry)
  | some v =>
      dsimp only
      rw [exec_bind, exec_configGet]
      dsimp only
      generalize sessionTimeoutNs (m.maps.config.getD DEFAULT_CFG) = timeoutNs
      by_cases on : timeoutNs = 0
      · rw [if_pos on]
        exact .skipped (.inr on)
      rw [if_neg on]
      simp only [exec_bind _ bpfKtimeGetNs, exec_ktimeGetNs, exec_bind _ (fwdNatLookup _),
        exec_fwdNatLookup, exec_bind _ (natLookup _), exec_natLookup, entry, Option.getD_some]
      change TimerCase k timeoutNs key m (k.exec (if satSub k.now (lastActivity m.maps.nat key v) <
        timeoutNs then _ else _) m).2
      by_cases recent : satSub k.now (lastActivity m.maps.nat key v) < timeoutNs
      · rw [if_pos recent]
        obtain ⟨hmaps, hlog⟩ := rearm_maps k entry 0
          (timeoutNs - satSub k.now (lastActivity m.maps.nat key v))
        exact .active entry on recent hmaps hlog
      rw [if_neg recent]
      simp only [exec_bind _ (fwdNatLookup _), exec_fwdNatLookup, entry, Option.getD_some]
      change TimerCase k timeoutNs key m (k.exec
        (if v.observedLastSeenNs ≠ lastActivity m.maps.nat key v then _ else _) m).2
      by_cases fresh : v.observedLastSeenNs ≠ lastActivity m.maps.nat key v
      · rw [if_pos fresh]
        obtain ⟨hmaps, hlog⟩ := rearm_maps k entry (lastActivity m.maps.nat key v)
          EXPIRY_CONFIRMATION_NS
        exact .observed entry on recent fresh hmaps hlog
      rw [if_neg fresh]
      -- nothing ran in between, so the third reading agrees with the first
      rw [exec_bind, exec_fwdNatLookup, entry]
      have settled : ¬ (lastActivity m.maps.nat key v ≠ lastActivity m.maps.nat key v ∨
          satSub k.now (lastActivity m.maps.nat key v) < timeoutNs) :=
        not_or.mpr ⟨not_not.mpr rfl, recent⟩
      change TimerCase k timeoutNs key m (k.exec (if lastActivity m.maps.nat key v ≠
        lastActivity m.maps.nat key v ∨ satSub k.now (lastActivity m.maps.nat key v) < timeoutNs
        then _ else _) m).2
      rw [if_neg settled]
      change TimerCase k timeoutNs key m
        (k.exec (if ownsReverse m.maps.nat key v = true then _ else _) m).2
      have confirmed := not_not.mp fresh
      cases owns : ownsReverse m.maps.nat key v with
      | false =>
          rw [if_neg (by decide), exec_bind, exec_fwdNatRemove]
          cases hf : k.fwdNatRemoveOk <;>
            exact .expired entry on recent confirmed (by rw [Maps.expire, hf, owns]; rfl)
              (by rw [owns, hf]; rfl)
      | true =>
          rw [if_pos rfl, exec_bind, exec_natRemove]
          cases hn : k.natRemoveOk <;> simp only [reduceIte, exec_bind, exec_fwdNatRemove] <;>
            cases hf : k.fwdNatRemoveOk <;>
            exact .expired entry on recent confirmed (by rw [Maps.expire, hf, owns, hn]; rfl)
              (by rw [owns, hf, hn]; rfl)

end Natto64
