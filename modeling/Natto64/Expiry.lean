import Natto64.RoundTrip

/-!
# Expiry

A session is removed only after its timeout has passed without a packet, by a callback
whose predecessor had already seen the last of them.
-/
namespace Natto64
open EventRun

/-- When the event happens. -/
def Event.time : Event → Nat
  | .forward _ _ k | .reverse _ _ k | .timer _ k => k.now.toNat
  | .evictFwdNat _ | .evictNat _ => 0

/-- The clock does not run backwards. -/
def InOrder (es : List Event) : Prop := es.Pairwise fun e e' => e.time ≤ e'.time

/-- Nothing fails, the clock is positive, and a callback finds its timer due. -/
def System.Punctual (s : System) (e : Event) : Prop :=
  s.Flawless e ∧ 0 < e.time ∧ ∀ key k v, e = .timer key k → s.maps.fwdNat key = some v →
    ∃ due, v.timer = some due ∧ due ≤ k.now.toNat

/-- A packet of the flow `key`, or one translated through the reverse entry `l`. -/
def ActiveIn (cfg : Nat64Config) (key : FwdNatKey) (l : NatKey) (s : System) (e : Event) : Prop :=
  (∃ cpu skb k extV4, e = .forward cpu skb k ∧ FwdAdmitted cfg skb extV4 ∧ fwdKeyAt skb = key) ∨
    ∃ cpu skb k, e = .reverse cpu skb k ∧ revKeyAt skb = l ∧ (s.reverse cpu skb k).1 ≠ .pipe

section Activity
variable {nat nat' : NatKey → Option NatVal} {key : FwdNatKey} {v : TimedFwdNatVal}

theorem lastActivity_congr (h : nat' (sessions.addr key v) = nat (sessions.addr key v)) :
    lastActivity nat' key v = lastActivity nat key v := by
  change max v.lastSeenNs (reverseLastSeen v.generation (nat' (sessions.addr key v))) = _
  rw [h]
  rfl

theorem le_lastActivity : v.lastSeenNs.toNat ≤ (lastActivity nat key v).toNat := by
  rw [lastActivity, UInt64.toNat_max]
  exact le_max_left _ _

theorem le_lastActivity_of_record {b : NatVal} (h : nat (sessions.addr key v) = some b)
    (owned : b.generation = v.generation) :
    b.lastSeenNs.toNat ≤ (lastActivity nat key v).toNat := by
  change _ ≤ (max v.lastSeenNs (reverseLastSeen v.generation (nat (sessions.addr key v)))).toNat
  have hseen : reverseLastSeen v.generation (some b) = b.lastSeenNs := by
    rw [reverseLastSeen, Option.filter_some, if_pos (beq_iff_eq.mpr owned)]
    rfl
  rw [h, hseen, UInt64.toNat_max]
  exact le_max_right _ _

end Activity

theorem toNat_sessionTimeoutNs (cfg : Nat64Config) :
    (sessionTimeoutNs cfg).toNat = cfg.sessionTimeoutSecs.toNat * 1000000000 := by
  have hsecs := cfg.sessionTimeoutSecs.toNat_lt
  have hmin : min (cfg.sessionTimeoutSecs.toUInt64.toNat * (1000000000 : UInt64).toNat)
      (2 ^ 64 - 1) = cfg.sessionTimeoutSecs.toNat * 1000000000 := by
    rw [UInt32.toNat_toUInt64]
    change min (cfg.sessionTimeoutSecs.toNat * 1000000000) _ = _
    omega
  rw [sessionTimeoutNs, satMul, hmin, UInt64.toNat_ofNat']
  omega

theorem sessionTimeoutNs_ne_zero {cfg : Nat64Config} (timeout : cfg.sessionTimeoutSecs ≠ 0) :
    sessionTimeoutNs cfg ≠ 0 := by
  intro h
  have hsecs := toNat_sessionTimeoutNs cfg
  rw [h] at hsecs
  have hzero : cfg.sessionTimeoutSecs.toNat = 0 := by
    change 0 = _ at hsecs
    omega
  exact timeout (UInt32.toNat_inj.mp hzero)

theorem toNat_satSub (a b : UInt64) : (satSub a b).toNat = a.toNat - b.toNat := by
  unfold satSub
  split
  next hlt => rw [Nat.sub_eq_zero_of_le (UInt64.lt_iff_toNat_lt.mp hlt).le, UInt64.toNat_zero]
  next hle => exact UInt64.toNat_sub_of_le _ _ (UInt64.not_lt.mp hle)

/-- A session that is not recent has been quiet for the timeout. -/
theorem add_le_of_quiet {now latest timeoutNs : UInt64} (on : timeoutNs ≠ 0)
    (quiet : ¬ satSub now latest < timeoutNs) :
    latest.toNat + timeoutNs.toNat ≤ now.toNat := by
  have hpos : 0 < timeoutNs.toNat := Nat.pos_of_ne_zero fun h => on (UInt64.toNat_inj.mp h)
  rw [UInt64.lt_iff_toNat_lt, toNat_satSub] at quiet
  omega

/-- The callback of the session saw the last activity its entry now has noted, and armed
the timer for the confirmation. -/
def Noted (key : FwdNatKey) (v : TimedFwdNatVal) (s : System) (e : Event) : Prop :=
  ∃ k v₀, e = .timer key k ∧ s.maps.fwdNat key = some v₀ ∧
    lastActivity s.maps.nat key v₀ = v.observedLastSeenNs ∧
    ∀ due, v.timer = some due → k.now.toNat + EXPIRY_CONFIRMATION_NS.toNat ≤ due

/-- The last activity is no earlier than any packet of the session so far. -/
structure Tracked (cfg : Nat64Config) (past : List Event) (nat : NatKey → Option NatVal)
    (key : FwdNatKey) (v : TimedFwdNatVal) : Prop where
  positive : 0 < v.lastSeenNs.toNat
  recent : Along System.step (fun s e => ActiveIn cfg key (sessions.addr key v) s e →
    e.time ≤ (lastActivity nat key v).toNat) (System.initial cfg) past
  noted : v.observedLastSeenNs ≠ 0 →
    Happened System.step (Noted key v) (System.initial cfg) past

def System.Watched (cfg : Nat64Config) (past : List Event) (s : System) : Prop :=
  s.Sound cfg ∧ ∀ key v, s.maps.fwdNat key = some v → Tracked cfg past s.maps.nat key v

section Tracked
variable {cfg : Nat64Config} {past : List Event} {nat nat' : NatKey → Option NatVal}
  {key : FwdNatKey} {v : TimedFwdNatVal} {e : Event}

/-- The event has nothing to do with the session. -/
theorem Tracked.carry (h : Tracked cfg past nat key v)
    (same : nat' (sessions.addr key v) = nat (sessions.addr key v))
    (inactive : ¬ ActiveIn cfg key (sessions.addr key v) (dataplane cfg past) e) :
    Tracked cfg (past ++ [e]) nat' key v where
  positive := h.positive
  recent := by
    rw [lastActivity_congr same]
    exact along_concat.mpr ⟨h.recent, fun active => absurd active inactive⟩
  noted hobs := (h.noted hobs).concat e

theorem recent_of_le {es : List Event} {l : NatKey} {t : Nat} (times : ∀ e ∈ es, e.time ≤ t) :
    Along System.step (fun s e => ActiveIn cfg key l s e → e.time ≤ t) (System.initial cfg) es :=
  along_of_forall fun e he _ _ => times e he

/-- The flow itself was seen now. -/
theorem Tracked.seen {now : UInt64} (times : ∀ e' ∈ past ++ [e], e'.time ≤ now.toNat)
    (positive : 0 < now.toNat) (last : v.lastSeenNs = now) (fresh : v.observedLastSeenNs = 0) :
    Tracked cfg (past ++ [e]) nat' key v where
  positive := by rw [last]; exact positive
  recent := recent_of_le fun e' he' => (times e' he').trans (last ▸ le_lastActivity)
  noted hobs := absurd fresh hobs

/-- An answer was translated through the reverse entry now. -/
theorem Tracked.answered (h : Tracked cfg past nat key v) {b : NatVal}
    (times : ∀ e' ∈ past ++ [e], e'.time ≤ b.lastSeenNs.toNat)
    (entry : nat' (sessions.addr key v) = some b) (owned : b.generation = v.generation) :
    Tracked cfg (past ++ [e]) nat' key v where
  positive := h.positive
  recent := recent_of_le fun e' he' =>
    (times e' he').trans (le_lastActivity_of_record entry owned)
  noted hobs := (h.noted hobs).concat e

/-- The timer of the session was armed again. -/
theorem Tracked.rearmed (h : Tracked cfg past nat key v) {w : TimedFwdNatVal}
    (same : v.SameTuple w) (last : w.lastSeenNs = v.lastSeenNs)
    (inactive : ¬ ActiveIn cfg key (sessions.addr key v) (dataplane cfg past) e)
    (noted : w.observedLastSeenNs ≠ 0 → Noted key w (dataplane cfg past) e) :
    Tracked cfg (past ++ [e]) nat key w where
  positive := by rw [last]; exact h.positive
  recent := by
    have hactivity : lastActivity nat key w = lastActivity nat key v := by
      rw [lastActivity, lastActivity, last, same.1, same.2.1, same.2.2]
    rw [hactivity, same.addr]
    exact along_concat.mpr ⟨h.recent, fun active => absurd active inactive⟩
  noted hobs := happened_last (noted hobs)

end Tracked

/-- Another session has another address. -/
theorem System.Sound.addr_ne {cfg : Nat64Config} {s : System} (h : s.Sound cfg)
    {key key' : FwdNatKey} {v v' : TimedFwdNatVal} (hk : s.maps.fwdNat key = some v)
    (hk' : s.maps.fwdNat key' = some v') (ne : key ≠ key') :
    sessions.addr key v ≠ sessions.addr key' v' :=
  fun haddr => ne (Pairing.Covered.addr_inj h.covered hk hk' haddr)

section Step
variable {cfg : Nat64Config} {past : List Event}

theorem watched_forward {cpu : Nat} {skb : List UInt8} {k : Kernel}
    (h : (dataplane cfg past).Watched cfg past)
    (ok : (dataplane cfg past).Punctual (.forward cpu skb k))
    (times : ∀ e ∈ past ++ [.forward cpu skb k], e.time ≤ k.now.toNat) :
    ((dataplane cfg past).step (.forward cpu skb k)).Watched cfg
      (past ++ [.forward cpu skb k]) := by
  obtain ⟨sound, tracked⟩ := h
  obtain ⟨flawless, positive, -⟩ := ok
  refine ⟨sound_step sound flawless.faultFree, fun key w entry => ?_⟩
  have hget : ((dataplane cfg past).machine cpu skb).maps.config.getD DEFAULT_CFG = cfg := by
    change (dataplane cfg past).maps.config.getD DEFAULT_CFG = cfg
    rw [sound.assigned.1, Option.getD_some]
  have clean : Clean ((dataplane cfg past).forward cpu skb k).2.log := flawless.2
  have other : ∀ {key l}, key ≠ fwdKeyAt skb →
      ¬ ActiveIn cfg key l (dataplane cfg past) (.forward cpu skb k) := by
    rintro key l ne (⟨_, _, _, _, he, -, hkey⟩ | ⟨_, _, _, he, -⟩)
    · cases he
      exact ne hkey.symm
    · cases he
  change ((dataplane cfg past).forward cpu skb k).2.maps.fwdNat key = some w at entry
  change Tracked cfg _ ((dataplane cfg past).forward cpu skb k).2.maps.nat key w
  cases (dataplane cfg past).forward_maps cpu skb k with
  | idle maps cause =>
      rw [maps] at entry ⊢
      refine (tracked key w entry).carry rfl ?_
      rintro (⟨_, _, _, extV4, he, admitted, hkey⟩ | ⟨_, _, _, he, -⟩)
      · cases he
        rcases cause with faulty | refused | new
        · exact faulty.not_clean clean
        · refine refused extV4 ?_
          rw [hget]
          exact admitted
        · have entry' : (dataplane cfg past).maps.fwdNat key = some w := entry
          rw [← hkey] at entry'
          exact Option.some_ne_none _ (entry'.symm.trans new)
      · cases he
  | touched old maps log => exact absurd clean log.not_clean
  | @recorded v old maps =>
      simp only [System.machine_maps, System.machine_skb] at maps old
      rw [maps] at entry ⊢
      by_cases hk : key = fwdKeyAt skb
      · subst hk
        obtain rfl := Option.some.inj ((Maps.setFwdNat_self ..).symm.trans entry)
        exact .seen times positive rfl rfl
      · rw [Maps.setNat_fwdNat, Maps.setFwdNat_of_ne _ _ _ hk] at entry
        refine (tracked key w entry).carry ?_ (other hk)
        exact Maps.setNat_of_ne _ _ _ (sound.addr_ne entry old hk)
  | @opened extV4 extPort new pool port maps =>
      simp only [System.machine_maps, System.machine_skb] at maps
      rw [maps] at entry ⊢
      by_cases hk : key = fwdKeyAt skb
      · subst hk
        obtain rfl := Option.some.inj ((Maps.setFwdNat_self ..).symm.trans entry)
        exact .seen times positive rfl rfl
      · rw [Maps.setNat_fwdNat, Maps.setFwdNat_of_ne _ _ _ hk] at entry
        refine (tracked key w entry).carry ?_ (other hk)
        refine Maps.setNat_of_ne _ _ _ fun haddr => ?_
        -- the allocated port had no reverse entry
        obtain ⟨b, hb, -⟩ := sound.covered key w entry
        rw [haddr] at hb
        exact Option.some_ne_none _ (hb.symm.trans (portFor_spec port).2.2)
  | orphaned maps incomplete log =>
      exact absurd (failsAfterOpening_of_log log) clean.not_failsAfterOpening

theorem watched_reverse {cpu : Nat} {skb : List UInt8} {k : Kernel}
    (h : (dataplane cfg past).Watched cfg past)
    (ok : (dataplane cfg past).Punctual (.reverse cpu skb k))
    (times : ∀ e ∈ past ++ [.reverse cpu skb k], e.time ≤ k.now.toNat) :
    ((dataplane cfg past).step (.reverse cpu skb k)).Watched cfg
      (past ++ [.reverse cpu skb k]) := by
  obtain ⟨sound, tracked⟩ := h
  obtain ⟨flawless, -, -⟩ := ok
  refine ⟨sound_step sound flawless.faultFree, fun key v entry => ?_⟩
  change ((dataplane cfg past).reverse cpu skb k).2.maps.fwdNat key = some v at entry
  change Tracked cfg _ ((dataplane cfg past).reverse cpu skb k).2.maps.nat key v
  cases (dataplane cfg past).reverse_maps cpu skb k with
  | idle maps piped =>
      rw [maps] at entry ⊢
      refine (tracked key v entry).carry rfl ?_
      rintro (⟨_, _, _, _, he, -⟩ | ⟨_, _, _, he, -, translated⟩)
      · cases he
      · cases he
        exact translated piped
  | @refreshed b matched maps =>
      rw [maps] at entry ⊢
      have entry : (dataplane cfg past).maps.fwdNat key = some v := entry
      by_cases hl : sessions.addr key v = revKeyAt skb
      · obtain ⟨b', hb', -, -, -, -, owned⟩ := sound.covered key v entry
        rw [hl] at hb'
        obtain rfl := Option.some.inj (hb'.symm.trans matched.entry)
        have hrecord : ((dataplane cfg past).maps.refresh (revKeyAt skb) b' k.now).nat
            (sessions.addr key v) = some { b' with lastSeenNs := k.now } := by
          rw [hl]
          exact Maps.setNat_self ..
        exact (tracked key v entry).answered times hrecord owned
      · refine (tracked key v entry).carry (Maps.setNat_of_ne _ _ _ hl) ?_
        rintro (⟨_, _, _, _, he, -⟩ | ⟨_, _, _, he, hrev, -⟩)
        · cases he
        · cases he
          exact hl hrev.symm

theorem timer_inactive {key key' : FwdNatKey} {l : NatKey} {s : System} {k : Kernel} :
    ¬ ActiveIn cfg key l s (.timer key' k) := by
  rintro (⟨_, _, _, _, he, -⟩ | ⟨_, _, _, he, -⟩) <;> cases he

/-- A removal that succeeds takes both entries. -/
theorem expired_maps {s : System} {key : FwdNatKey} {v : TimedFwdNatVal} {k : Kernel}
    {m' : Machine} (covered : s.Covered) (entry : s.maps.fwdNat key = some v)
    (maps : m'.maps = (s.timerMachine key).maps.expire k key v.unarmed)
    (log : m'.log = (.fwdNatRemove, k.fwdNatRemoveOk) ::
      if ownsReverse s.maps.nat key v then [(.natRemove, k.natRemoveOk)] else [])
    (clean : Clean m'.log) :
    m'.maps = (s.maps.setFwdNat key none).setNat (sessions.addr key v) none := by
  have owns := covered.ownsReverse entry
  rw [log, owns, if_pos rfl] at clean
  have hfwd : k.fwdNatRemoveOk = true := clean _ List.mem_cons_self
  have hnat : k.natRemoveOk = true := clean _ (List.mem_cons_of_mem _ List.mem_cons_self)
  have howns : Natto64.ownsReverse (s.timerMachine key).maps.nat key v.unarmed = true := owns
  have hupdate : Function.update (s.timerMachine key).maps.fwdNat key none =
      (s.maps.setFwdNat key none).fwdNat := Function.update_idem ..
  rw [maps, Maps.expire, howns, hfwd, hnat, Bool.and_self, if_pos rfl, if_pos rfl, hupdate]
  rfl

/-- The timer of a session was armed again, and its entry noted a last activity. -/
theorem watched_rearmed {key : FwdNatKey} {k : Kernel} {v w : TimedFwdNatVal}
    (tracked : ∀ key v, (dataplane cfg past).maps.fwdNat key = some v →
      Tracked cfg past (dataplane cfg past).maps.nat key v)
    (entry : (dataplane cfg past).maps.fwdNat key = some v) (same : v.SameTuple w)
    (last : w.lastSeenNs = v.lastSeenNs)
    (noted : w.observedLastSeenNs ≠ 0 → Noted key w (dataplane cfg past) (.timer key k))
    {key' : FwdNatKey} {w' : TimedFwdNatVal}
    (entry' : ((dataplane cfg past).maps.setFwdNat key (some w)).fwdNat key' = some w') :
    Tracked cfg (past ++ [.timer key k]) (dataplane cfg past).maps.nat key' w' := by
  rcases entry_of_set entry' with ⟨rfl, rfl⟩ | stays
  · exact (tracked key' v entry).rearmed same last timer_inactive noted
  · exact (tracked key' w' stays).carry rfl timer_inactive

theorem watched_timer {key : FwdNatKey} {k : Kernel}
    (timeout : sessionTimeoutNs cfg ≠ 0) (h : (dataplane cfg past).Watched cfg past)
    (ok : (dataplane cfg past).Punctual (.timer key k)) :
    ((dataplane cfg past).step (.timer key k)).Watched cfg (past ++ [.timer key k]) := by
  obtain ⟨sound, tracked⟩ := h
  obtain ⟨flawless, -, -⟩ := ok
  refine ⟨sound_step sound flawless.faultFree, fun key' w entry => ?_⟩
  have clean : Clean ((dataplane cfg past).timer key k).log := flawless.2
  have hcase := timer_case (dataplane cfg past) key k
  rw [sound.assigned.1, Option.getD_some] at hcase
  change ((dataplane cfg past).timer key k).maps.fwdNat key' = some w at entry
  change Tracked cfg _ ((dataplane cfg past).timer key k).maps.nat key' w
  generalize (dataplane cfg past).timer key k = m' at hcase clean entry ⊢
  cases hcase with
  | skipped cause =>
      have none := cause.resolve_right timeout
      have hk : key' ≠ key := by
        rintro rfl
        exact Option.some_ne_none _ (entry.symm.trans none)
      have entry : (dataplane cfg past).maps.fwdNat key' = some w :=
        (Maps.setFwdNat_of_ne _ _ _ hk).symm.trans entry
      exact (tracked key' w entry).carry rfl timer_inactive
  | active stored on recent maps log =>
      obtain ⟨v, old, rfl⟩ := timerMachine_entry stored
      rw [maps, setFwdNat_unarmed] at entry ⊢
      refine watched_rearmed tracked old ?_ ?_ ?_ entry
      · exact ⟨rfl, rfl, rfl⟩
      · rfl
      · exact fun hobs => absurd rfl hobs
  | observed stored on quiet fresh maps log =>
      obtain ⟨v, old, rfl⟩ := timerMachine_entry stored
      rw [maps, setFwdNat_unarmed] at entry ⊢
      refine watched_rearmed tracked old ?_ ?_ ?_ entry
      · exact ⟨rfl, rfl, rfl⟩
      · rfl
      · refine fun _ => ⟨k, v, rfl, old, rfl, fun due hdue => ?_⟩
        have starts : k.timerStartOk = true := by
          rw [log] at clean
          exact clean _ List.mem_cons_self
        have hdue : some (k.now.toNat + (max EXPIRY_CONFIRMATION_NS 1).toNat) = some due := by
          rw [← hdue, rearmedValue, starts]
          rfl
        rw [← Option.some.inj hdue]
        exact le_rfl
  | expired stored on quiet confirmed maps log =>
      obtain ⟨v, old, rfl⟩ := timerMachine_entry stored
      have hmaps := expired_maps sound.covered old maps
        (log.trans (congrArg _ (List.append_nil _))) clean
      rw [hmaps] at entry ⊢
      have hk : key' ≠ key := by
        rintro rfl
        exact Option.some_ne_none _ (entry.symm.trans (Maps.setFwdNat_self ..))
      have stays := entry_of_removed entry
      exact (tracked key' w stays).carry
        (Maps.setNat_of_ne _ _ _ (sound.addr_ne stays old hk)) timer_inactive

end Step

theorem watched_run {cfg : Nat64Config} {es : List Event} (timeout : sessionTimeoutNs cfg ≠ 0)
    (punctual : Along System.step System.Punctual (System.initial cfg) es)
    (clock : InOrder es) : (dataplane cfg es).Watched cfg es := by
  induction es using List.reverseRecOn with
  | nil => exact ⟨sound_initial cfg, fun _ _ entry => nomatch entry⟩
  | append_singleton es e ih =>
      obtain ⟨along, ok⟩ := along_concat.mp punctual
      obtain ⟨sorted, -, last⟩ := List.pairwise_append.mp clock
      have watched := ih along sorted
      have times : ∀ e' ∈ es ++ [e], e'.time ≤ e.time := by
        intro e' he'
        rcases List.mem_append.mp he' with before | now
        · exact last e' before e List.mem_cons_self
        · rw [List.mem_singleton.mp now]
      rw [dataplane_concat]
      cases e with
      | forward cpu skb k => exact watched_forward watched ok times
      | reverse cpu skb k => exact watched_reverse watched ok times
      | timer key k => exact watched_timer timeout watched ok
      | evictFwdNat key => exact absurd trivial ok.1.1
      | evictNat key => exact absurd trivial ok.1.1

/-- A callback of the flow saw the given last activity at least 10 ms before `now`. -/
def SeenBefore (key : FwdNatKey) (latest now : UInt64) (s : System) (e : Event) : Prop :=
  ∃ k v, e = .timer key k ∧ s.maps.fwdNat key = some v ∧
    lastActivity s.maps.nat key v = latest ∧ k.now.toNat + 10000000 ≤ now.toNat

/-- Where a callback removes a session, it takes both entries and no other. No packet of the
session arrived within the timeout, and an earlier callback had seen the same. -/
theorem expiry_safe {cfg : Nat64Config} {past : List Event} {key : FwdNatKey} {k : Kernel}
    {v : TimedFwdNatVal} (timeout : cfg.sessionTimeoutSecs ≠ 0)
    (punctual : Along System.step System.Punctual (System.initial cfg) (past ++ [.timer key k]))
    (clock : InOrder (past ++ [.timer key k]))
    (entry : (dataplane cfg past).maps.fwdNat key = some v)
    (removed : (dataplane cfg (past ++ [.timer key k])).maps.fwdNat key = none) :
    (∃ b, (dataplane cfg past).maps.nat (sessions.addr key v) = some b ∧
      sessions.Agrees key v b) ∧
    (dataplane cfg (past ++ [.timer key k])).maps =
      ((dataplane cfg past).maps.setFwdNat key none).setNat (sessions.addr key v) none ∧
    Along System.step (fun s e => ActiveIn cfg key (sessions.addr key v) s e →
      e.time + cfg.sessionTimeoutSecs.toNat * 1000000000 ≤ k.now.toNat)
      (System.initial cfg) past ∧
    Happened System.step
      (SeenBefore key (lastActivity (dataplane cfg past).maps.nat key v) k.now)
      (System.initial cfg) past := by
  have timeoutNs := sessionTimeoutNs_ne_zero timeout
  obtain ⟨along, flawless, -, due⟩ := along_concat.mp punctual
  obtain ⟨sound, tracked⟩ := watched_run timeoutNs along (List.pairwise_append.mp clock).1
  have track := tracked key v entry
  obtain ⟨due, armed, late⟩ := due key k v rfl entry
  have clean : Clean ((dataplane cfg past).timer key k).log := flawless.2
  have hcase := timer_case (dataplane cfg past) key k
  rw [sound.assigned.1, Option.getD_some] at hcase
  rw [dataplane_concat] at removed ⊢
  change ((dataplane cfg past).timer key k).maps.fwdNat key = none at removed
  change _ ∧ ((dataplane cfg past).timer key k).maps = _ ∧ _
  generalize (dataplane cfg past).timer key k = m' at hcase clean removed ⊢
  cases hcase with
  | skipped cause =>
      rcases cause with missing | off
      · have stored : some v.unarmed = none := by
          rw [← missing, System.timerMachine, unarmed_of_some entry]
          exact (Maps.setFwdNat_self ..).symm
        cases stored
      · exact absurd off timeoutNs
  | active stored on recent maps log =>
      rw [maps, Maps.setFwdNat_self] at removed
      cases removed
  | observed stored on quiet fresh maps log =>
      rw [maps, Maps.setFwdNat_self] at removed
      cases removed
  | expired stored on quiet confirmed maps log =>
      obtain ⟨v', old, rfl⟩ := timerMachine_entry stored
      obtain rfl := Option.some.inj (entry.symm.trans old)
      have hmaps := expired_maps sound.covered entry maps
        (log.trans (congrArg _ (List.append_nil _))) clean
      rw [lastActivity_unarmed, timerMachine_nat] at quiet confirmed
      have limit := add_le_of_quiet timeoutNs quiet
      rw [toNat_sessionTimeoutNs] at limit
      refine ⟨sound.covered key v entry, hmaps, ?_, ?_⟩
      · refine track.recent.mono fun s e recent active => ?_
        exact (Nat.add_le_add_right (recent active) _).trans limit
      · -- the last activity is positive, so what the entry noted is not the initial zero
        have positive : 0 < (lastActivity (dataplane cfg past).maps.nat key v).toNat :=
          track.positive.trans_le le_lastActivity
        have observed : v.observedLastSeenNs = lastActivity (dataplane cfg past).maps.nat key v :=
          confirmed
        have noted : v.observedLastSeenNs ≠ 0 := by
          intro h
          rw [← observed, h] at positive
          exact Nat.lt_irrefl 0 positive
        refine (track.noted noted).mono ?_
        rintro s e ⟨k₀, v₀, rfl, stored₀, seen, apart⟩
        exact ⟨k₀, v₀, rfl, stored₀, seen.trans observed, (apart due armed).trans late⟩

theorem System.Flawless.punctual_timer {s : System} {key : FwdNatKey} {k : Kernel}
    {v : TimedFwdNatVal} {due : Nat} (h : s.Flawless (.timer key k)) (positive : 0 < k.now.toNat)
    (entry : s.maps.fwdNat key = some v) (armed : v.timer = some due)
    (late : due ≤ k.now.toNat) : s.Punctual (.timer key k) := by
  refine ⟨h, positive, fun key' k' w same found => ?_⟩
  cases same
  obtain rfl := Option.some.inj (entry.symm.trans found)
  exact ⟨due, armed, late⟩

def exampleFlow : FwdNatKey := fwdKeyAt (exampleTcp6 4000 20)

/-- One packet, and the callback that first finds its session quiet. -/
def exampleQuiet : List Event :=
  [.forward 0 (exampleTcp6 4000 20) (.ideal 1000 7), .timer exampleFlow (.ideal 300000001000 0)]

def exampleExpiry : Event := .timer exampleFlow (.ideal 300010001000 0)

/-- The session of the example client after its packet, and when it was found quiet. -/
def exampleOpened : TimedFwdNatVal := ⟨0xCB00710A, 20001, 1000, 7, 0, some 300000001000⟩
def exampleObserved : TimedFwdNatVal := ⟨0xCB00710A, 20001, 1000, 7, 1000, some 300010001000⟩

theorem expiry_safe_example :
    (dataplane exampleDataplane (exampleQuiet ++ [exampleExpiry])).maps.nat
      (natKey 0xCB00710A 20001 IPPROTO_TCP) = none := by
  have opens : (System.initial exampleDataplane).Punctual
      (.forward 0 (exampleTcp6 4000 20) (.ideal 1000 7)) :=
    ⟨⟨id, by decide +kernel⟩, by decide, fun _ _ _ h => (nomatch h)⟩
  have opened : ((System.initial exampleDataplane).step
      (.forward 0 (exampleTcp6 4000 20) (.ideal 1000 7))).maps.fwdNat exampleFlow =
        some exampleOpened := by decide +kernel
  have observed : (dataplane exampleDataplane exampleQuiet).maps.fwdNat exampleFlow =
      some exampleObserved := by decide +kernel
  have punctual : Along System.step System.Punctual (System.initial exampleDataplane)
      (exampleQuiet ++ [exampleExpiry]) := by
    refine ⟨opens, ?_, ?_, trivial⟩
    · exact System.Flawless.punctual_timer ⟨id, by decide +kernel⟩ (by decide) opened rfl
        (by decide)
    · exact System.Flawless.punctual_timer ⟨id, by decide +kernel⟩ (by decide) observed rfl
        (by decide)
  have clock : InOrder (exampleQuiet ++ [exampleExpiry]) := by
    unfold InOrder
    decide
  obtain ⟨-, maps, -⟩ := expiry_safe (by decide) punctual clock observed (by decide +kernel)
  rw [exampleExpiry, maps]
  rfl

end Natto64
