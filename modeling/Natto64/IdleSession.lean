import Natto64.Expiry

/-!
# Idle sessions

From any state of its entry, a session without packets is removed by the third callback of
its timer at the latest, and until then every callback arms the timer again.
-/
namespace Natto64
open EventRun

/-- A callback of the session that is not early and whose helpers succeed, or an event that
leaves both entries of the session alone. -/
inductive IdleEvent (key : FwdNatKey) (l : NatKey) (s : System) : Event → Prop
  | callback {k} (clean : Clean (s.timer key k).log)
      (due : ∀ w, s.maps.fwdNat key = some w →
        (lastActivity s.maps.nat key w).toNat ≤ k.now.toNat ∧
          ∀ t, w.timer = some t → t ≤ k.now.toNat) :
      IdleEvent key l s (.timer key k)
  | other {e} (apart : ∀ k, e ≠ .timer key k)
      (fwdNat : (s.step e).maps.fwdNat key = s.maps.fwdNat key)
      (nat : (s.step e).maps.nat l = s.maps.nat l) : IdleEvent key l s e

def isCallback (key : FwdNatKey) : Event → Bool
  | .timer key' _ => key' = key
  | _ => false

def callbacks (key : FwdNatKey) (es : List Event) : Nat := es.countP (isCallback key)

/-- The session `v` with its last activity, but for its timer and what it noted. -/
structure Idle (key : FwdNatKey) (v : TimedFwdNatVal) (latest : UInt64) (s : System)
    (w : TimedFwdNatVal) : Prop where
  entry : s.maps.fwdNat key = some w
  same : v.SameTuple w
  activity : lastActivity s.maps.nat key w = latest

/-- Neither entry of the session is left. -/
structure Reclaimed (key : FwdNatKey) (v : TimedFwdNatVal) (s : System) : Prop where
  fwdNat : s.maps.fwdNat key = none
  nat : ∀ b, s.maps.nat (sessions.addr key v) = some b → b.generation ≠ v.generation

/-- So many callbacks at most until the session is removed. -/
inductive Remaining (key : FwdNatKey) (v : TimedFwdNatVal) (latest timeoutNs : UInt64)
    (s : System) : Nat → Prop
  | removed {n} (gone : Reclaimed key v s) : Remaining key v latest timeoutNs s n
  | confirming {n w t} (idle : Idle key v latest s w) (armed : w.timer = some t)
      (quiet : latest.toNat + timeoutNs.toNat ≤ t) (observed : w.observedLastSeenNs = latest) :
      Remaining key v latest timeoutNs s (n + 1)
  | waiting {n w t} (idle : Idle key v latest s w) (armed : w.timer = some t)
      (quiet : latest.toNat + timeoutNs.toNat ≤ t) : Remaining key v latest timeoutNs s (n + 2)
  | open {n w} (idle : Idle key v latest s w) : Remaining key v latest timeoutNs s (n + 3)

section Callback
variable {key : FwdNatKey} {v w : TimedFwdNatVal} {latest timeoutNs : UInt64} {s : System}
  {k : Kernel}

/-- How a callback ends that is not early: it arms the timer past the timeout, or for the
confirmation, or removes the session. -/
inductive CallbackEnd (key : FwdNatKey) (v w : TimedFwdNatVal) (latest timeoutNs : UInt64)
    (k : Kernel) (s' : System) : Prop
  | rearmed {w' t} (idle : Idle key v latest s' w') (armed : w'.timer = some t)
      (ahead : k.now.toNat < t) (quiet : latest.toNat + timeoutNs.toNat ≤ t)
      (recent : k.now.toNat < latest.toNat + timeoutNs.toNat)
  | noted {w' t} (idle : Idle key v latest s' w') (armed : w'.timer = some t)
      (ahead : k.now.toNat < t) (quiet : latest.toNat + timeoutNs.toNat ≤ t)
      (fresh : w.observedLastSeenNs ≠ latest) (observed : w'.observedLastSeenNs = latest)
  | removed (gone : Reclaimed key v s')

theorem Idle.rearmed (h : Idle key v latest s w) {observed delay : UInt64} {m' : Machine}
    (maps : m'.maps = (s.timerMachine key).maps.setFwdNat key
      (some (rearmedValue k w.unarmed observed delay))) :
    Idle key v latest { s with maps := m'.maps } (rearmedValue k w.unarmed observed delay) where
  entry := by
    change m'.maps.fwdNat key = _
    rw [maps, Maps.setFwdNat_self]
  same := h.same
  activity := by
    change lastActivity m'.maps.nat key _ = _
    rw [maps]
    exact h.activity

theorem rearmedValue_timer (start : k.timerStartOk = true) (observed delay : UInt64) :
    (rearmedValue k w observed delay).timer = some (k.now.toNat + (max delay 1).toNat) := by
  rw [rearmedValue, start]
  rfl

theorem Idle.reclaimed (h : Idle key v latest s w) {m' : Machine}
    (maps : m'.maps = (s.timerMachine key).maps.expire k key w.unarmed)
    (log : m'.log = (.fwdNatRemove, k.fwdNatRemoveOk) ::
      if ownsReverse s.maps.nat key w then [(.natRemove, k.natRemoveOk)] else [])
    (clean : Clean m'.log) : Reclaimed key v { s with maps := m'.maps } := by
  rw [log] at clean
  have hfwd : k.fwdNatRemoveOk = true := clean _ List.mem_cons_self
  have haddr : natKey w.unarmed.extV4 w.unarmed.extPort key.proto = sessions.addr key v :=
    h.same.addr key
  constructor
  · change m'.maps.fwdNat key = none
    rw [maps, Maps.expire, hfwd]
    exact Function.update_self ..
  · intro b hb
    change m'.maps.nat _ = some b at hb
    rw [maps, Maps.expire, haddr] at hb
    by_cases owns : ownsReverse s.maps.nat key w = true
    · rw [if_pos owns] at clean
      have hnat : k.natRemoveOk = true := clean _ (List.mem_cons_of_mem _ List.mem_cons_self)
      have hown : (ownsReverse (s.timerMachine key).maps.nat key w.unarmed && k.natRemoveOk) =
          true := by
        rw [hnat, Bool.and_true]
        exact owns
      dsimp only at hb
      rw [if_pos hown, Function.update_self] at hb
      cases hb
    · have hown : ¬ (ownsReverse (s.timerMachine key).maps.nat key w.unarmed &&
          k.natRemoveOk) = true := fun h => owns (Bool.and_eq_true_iff.mp h).1
      dsimp only at hb
      rw [if_neg hown, timerMachine_nat, ← haddr] at hb
      intro hgen
      apply owns
      change ((s.maps.nat (natKey w.unarmed.extV4 w.unarmed.extPort key.proto)).any _) = true
      rw [hb, Option.any_some, hgen, h.same.2.2]
      exact beq_self_eq_true _

theorem timer_end (on : timeoutNs ≠ 0)
    (timeout : sessionTimeoutNs (s.maps.config.getD DEFAULT_CFG) = timeoutNs)
    (idle : Idle key v latest s w) (late : latest.toNat ≤ k.now.toNat)
    (clean : Clean (s.timer key k).log) :
    CallbackEnd key v w latest timeoutNs k (s.step (.timer key k)) := by
  have hcase := timer_case s key k
  rw [timeout] at hcase
  change CallbackEnd key v w latest timeoutNs k { s with maps := (s.timer key k).maps }
  generalize s.timer key k = m' at hcase clean ⊢
  cases hcase with
  | skipped cause =>
      rcases cause with missing | off
      · rw [System.timerMachine, unarmed_of_some idle.entry, Maps.setFwdNat_self] at missing
        cases missing
      · exact absurd off on
  | active stored _ recent maps log =>
      obtain ⟨w', old, rfl⟩ := timerMachine_entry stored
      obtain rfl := Option.some.inj (idle.entry.symm.trans old)
      rw [log] at clean
      have start : k.timerStartOk = true := clean _ List.mem_cons_self
      rw [lastActivity_unarmed, timerMachine_nat, idle.activity] at recent maps
      have hdelay : (max (timeoutNs - satSub k.now latest) 1).toNat =
          latest.toNat + timeoutNs.toNat - k.now.toNat := by
        have hone : (1 : UInt64).toNat = 1 := rfl
        rw [UInt64.toNat_max, UInt64.toNat_sub_of_le _ _ (UInt64.le_of_lt recent), hone]
        rw [UInt64.lt_iff_toNat_lt] at recent
        rw [toNat_satSub] at recent ⊢
        omega
      rw [UInt64.lt_iff_toNat_lt, toNat_satSub] at recent
      refine .rearmed (idle.rearmed maps) (rearmedValue_timer start _ _) ?_ ?_ ?_ <;> omega
  | observed stored _ quiet fresh maps log =>
      obtain ⟨w', old, rfl⟩ := timerMachine_entry stored
      obtain rfl := Option.some.inj (idle.entry.symm.trans old)
      rw [log] at clean
      have start : k.timerStartOk = true := clean _ List.mem_cons_self
      rw [lastActivity_unarmed, timerMachine_nat, idle.activity] at quiet fresh maps
      have limit := add_le_of_quiet on quiet
      have hdelay : (max EXPIRY_CONFIRMATION_NS 1).toNat = 10000000 := by decide
      refine .noted (idle.rearmed maps) (rearmedValue_timer start _ _) ?_ ?_ fresh rfl <;> omega
  | expired stored _ quiet confirmed maps log =>
      obtain ⟨w', old, rfl⟩ := timerMachine_entry stored
      obtain rfl := Option.some.inj (idle.entry.symm.trans old)
      exact .removed (idle.reclaimed maps (log.trans (congrArg _ (List.append_nil _))) clean)

/-- A callback of a flow without entry does nothing. -/
theorem Reclaimed.timer (h : Reclaimed key v s) : Reclaimed key v (s.step (.timer key k)) := by
  have hcase := timer_case s key k
  have missing : (s.timerMachine key).maps.fwdNat key = none := by
    rw [System.timerMachine, unarmed_of_none h.fwdNat]
    exact h.fwdNat
  change Reclaimed key v { s with maps := (s.timer key k).maps }
  generalize s.timer key k = m' at hcase ⊢
  cases hcase with
  | skipped => exact ⟨missing, h.nat⟩
  | active stored | observed stored | expired stored =>
      rw [missing] at stored
      cases stored

end Callback

section Run
variable {key : FwdNatKey} {v : TimedFwdNatVal} {latest timeoutNs : UInt64} {s : System}
  {e : Event} {n : Nat}

theorem Remaining.session (h : Remaining key v latest timeoutNs s n) :
    Reclaimed key v s ∨ ∃ w, Idle key v latest s w := by
  cases h with
  | removed gone => exact .inl gone
  | confirming idle | waiting idle | «open» idle => exact .inr ⟨_, idle⟩

theorem Remaining.reclaimed (h : Remaining key v latest timeoutNs s 0) : Reclaimed key v s := by
  cases h with
  | removed gone => exact gone

/-- An event that leaves the session alone. -/
theorem Idle.other {w : TimedFwdNatVal} (h : Idle key v latest s w)
    (fwdNat : (s.step e).maps.fwdNat key = s.maps.fwdNat key)
    (nat : (s.step e).maps.nat (sessions.addr key v) = s.maps.nat (sessions.addr key v)) :
    Idle key v latest (s.step e) w where
  entry := fwdNat.trans h.entry
  same := h.same
  activity := by
    rw [← h.same.addr key] at nat
    exact (lastActivity_congr nat).trans h.activity

theorem Remaining.other (h : Remaining key v latest timeoutNs s n)
    (fwdNat : (s.step e).maps.fwdNat key = s.maps.fwdNat key)
    (nat : (s.step e).maps.nat (sessions.addr key v) = s.maps.nat (sessions.addr key v)) :
    Remaining key v latest timeoutNs (s.step e) n := by
  cases h with
  | removed gone =>
      refine .removed ⟨fwdNat.trans gone.fwdNat, ?_⟩
      rw [nat]
      exact gone.nat
  | confirming idle armed quiet observed =>
      exact .confirming (idle.other fwdNat nat) armed quiet observed
  | waiting idle armed quiet => exact .waiting (idle.other fwdNat nat) armed quiet
  | «open» idle => exact .open (idle.other fwdNat nat)

/-- The state armed the timer of the session past `now`, if the session is still there. -/
def Armed (key : FwdNatKey) (now : Nat) (s : System) : Prop :=
  ∀ w, s.maps.fwdNat key = some w → ∃ t, w.timer = some t ∧ now < t

/-- A callback takes one off, and leaves the timer armed unless it removes the session. -/
theorem Remaining.callback {k : Kernel} (on : timeoutNs ≠ 0)
    (timeout : sessionTimeoutNs (s.maps.config.getD DEFAULT_CFG) = timeoutNs)
    (h : Remaining key v latest timeoutNs s n)
    (ok : IdleEvent key (sessions.addr key v) s (.timer key k)) :
    Remaining key v latest timeoutNs (s.step (.timer key k)) (n - 1) ∧
      Armed key k.now.toNat (s.step (.timer key k)) := by
  cases ok with
  | other apart => exact absurd rfl (apart k)
  | callback clean due =>
      have ending : ∀ w, Idle key v latest s w →
          CallbackEnd key v w latest timeoutNs k (s.step (.timer key k)) ∧
            ∀ t, w.timer = some t → t ≤ k.now.toNat := by
        intro w idle
        obtain ⟨late, hdue⟩ := due w idle.entry
        rw [idle.activity] at late
        exact ⟨timer_end on timeout idle late clean, hdue⟩
      have armed : Armed key k.now.toNat (s.step (.timer key k)) := by
        intro w' entry
        rcases h.session with gone | ⟨w, idle⟩
        · rw [gone.timer.fwdNat] at entry
          cases entry
        · cases (ending w idle).1 with
          | rearmed idle' armed ahead | noted idle' armed ahead =>
              obtain rfl := Option.some.inj (idle'.entry.symm.trans entry)
              exact ⟨_, armed, ahead⟩
          | removed gone =>
              rw [gone.fwdNat] at entry
              cases entry
      refine ⟨?_, armed⟩
      cases h with
      | removed gone => exact .removed gone.timer
      | confirming idle armed quiet observed =>
          obtain ⟨hend, hdue⟩ := ending _ idle
          have late := hdue _ armed
          cases hend with
          | rearmed _ _ _ _ recent => omega
          | noted _ _ _ _ fresh => exact absurd observed fresh
          | removed gone => exact .removed gone
      | waiting idle armed quiet =>
          obtain ⟨hend, hdue⟩ := ending _ idle
          have late := hdue _ armed
          cases hend with
          | rearmed _ _ _ _ recent => omega
          | noted idle' armed' _ quiet' _ observed => exact .confirming idle' armed' quiet' observed
          | removed gone => exact .removed gone
      | «open» idle =>
          obtain ⟨hend, -⟩ := ending _ idle
          cases hend with
          | rearmed idle' armed' _ quiet' => exact .waiting idle' armed' quiet'
          | noted idle' armed' _ quiet' _ observed => exact .confirming idle' armed' quiet' observed
          | removed gone => exact .removed gone

/-- Every callback of a run takes one off. -/
theorem Remaining.run {es : List Event} (on : timeoutNs ≠ 0)
    (timeout : sessionTimeoutNs (s.maps.config.getD DEFAULT_CFG) = timeoutNs)
    (h : Remaining key v latest timeoutNs s n)
    (idle : Along System.step (IdleEvent key (sessions.addr key v)) s es) :
    Remaining key v latest timeoutNs (EventRun.run System.step s es) (n - callbacks key es) ∧
      Along System.step (fun s e => ∀ k, e = .timer key k → Armed key k.now.toNat (s.step e))
        s es := by
  induction es generalizing s n with
  | nil => exact ⟨h, trivial⟩
  | cons e es ih =>
      obtain ⟨ok, rest⟩ := idle
      have timeout' : sessionTimeoutNs ((s.step e).maps.config.getD DEFAULT_CFG) = timeoutNs := by
        rw [step_config]
        exact timeout
      by_cases hc : ∃ k, e = .timer key k
      · obtain ⟨k, rfl⟩ := hc
        obtain ⟨next, armed⟩ := h.callback on timeout ok
        obtain ⟨final, along⟩ := ih timeout' next rest
        have hcount : callbacks key (.timer key k :: es) = callbacks key es + 1 :=
          List.countP_cons_of_pos (decide_eq_true rfl)
        rw [hcount, run_cons, Nat.add_comm, Nat.sub_add_eq]
        refine ⟨final, ?_, along⟩
        rintro k' same
        cases same
        exact armed
      · have hcount : callbacks key (e :: es) = callbacks key es := by
          apply List.countP_cons_of_neg
          cases e with
          | timer key' k =>
              intro hkey
              obtain rfl := of_decide_eq_true hkey
              exact hc ⟨k, rfl⟩
          | _ => exact Bool.false_ne_true
        cases ok with
        | callback => exact absurd ⟨_, rfl⟩ hc
        | other apart fwdNat nat =>
            obtain ⟨final, along⟩ := ih timeout' (h.other fwdNat nat) rest
            rw [hcount, run_cons]
            exact ⟨final, fun k same => absurd same (apart k), along⟩

end Run

/-- From any state of a session, three callbacks that are not early remove it. It is never
removed without the reverse entry of its generation, and each callback before leaves the timer
armed for a later time. -/
theorem idle_session_reclaimed {s : System} {key : FwdNatKey} {v : TimedFwdNatVal}
    (on : sessionTimeoutNs (s.maps.config.getD DEFAULT_CFG) ≠ 0)
    (entry : s.maps.fwdNat key = some v) {es : List Event}
    (idle : Along System.step (IdleEvent key (sessions.addr key v)) s es) :
    (3 ≤ callbacks key es ∨ (run System.step s es).maps.fwdNat key = none →
      Reclaimed key v (run System.step s es)) ∧
    Along System.step (fun s e => ∀ k, e = .timer key k → Armed key k.now.toNat (s.step e))
      s es := by
  have start : Remaining key v (lastActivity s.maps.nat key v)
      (sessionTimeoutNs (s.maps.config.getD DEFAULT_CFG)) s (0 + 3) :=
    .open ⟨entry, ⟨rfl, rfl, rfl⟩, rfl⟩
  obtain ⟨final, armed⟩ := start.run on rfl idle
  refine ⟨?_, armed⟩
  rintro (three | missing)
  · rw [Nat.sub_eq_zero_of_le three] at final
    exact final.reclaimed
  · rcases final.session with gone | ⟨w, kept⟩
    · exact gone
    · cases missing.symm.trans kept.entry

theorem idleEvent_of_entry {s : System} {key : FwdNatKey} {l : NatKey} {k : Kernel}
    {w : TimedFwdNatVal} (entry : s.maps.fwdNat key = some w)
    (clean : Clean (s.timer key k).log)
    (late : (lastActivity s.maps.nat key w).toNat ≤ k.now.toNat)
    (due : ∀ t ∈ w.timer, t ≤ k.now.toNat) : IdleEvent key l s (.timer key k) := by
  refine .callback clean fun w' entry' => ?_
  obtain rfl := Option.some.inj (entry.symm.trans entry')
  exact ⟨late, fun t armed => due t armed⟩

/-- The example client sends a second packet after 100 s, and no more. -/
def exampleIdle : System :=
  dataplane exampleDataplane
    [.forward 0 (exampleTcp6 4000 20) (.ideal 1000 7),
      .forward 0 (exampleTcp6 4000 20) (.ideal 100000000000 8)]

/-- Too recent, quiet and confirmed. -/
def exampleCallbacks : List Event :=
  [.timer exampleFlow (.ideal 300000001000 0), .timer exampleFlow (.ideal 400000000000 0),
    .timer exampleFlow (.ideal 400010000000 0)]

theorem idle_session_reclaimed_example :
    (run System.step exampleIdle exampleCallbacks).maps.fwdNat exampleFlow = none := by
  have entry : exampleIdle.maps.fwdNat exampleFlow =
      some ⟨0xCB00710A, 20001, 100000000000, 7, 0, some 300000001000⟩ := by decide +kernel
  have second : (run System.step exampleIdle (exampleCallbacks.take 1)).maps.fwdNat exampleFlow =
      some ⟨0xCB00710A, 20001, 100000000000, 7, 0, some 400000000000⟩ := by decide +kernel
  have third : (run System.step exampleIdle (exampleCallbacks.take 2)).maps.fwdNat exampleFlow =
      some ⟨0xCB00710A, 20001, 100000000000, 7, 100000000000, some 400010000000⟩ := by
    decide +kernel
  have on : sessionTimeoutNs (exampleIdle.maps.config.getD DEFAULT_CFG) ≠ 0 := by decide +kernel
  have idle : Along System.step (IdleEvent exampleFlow (sessions.addr exampleFlow
      ⟨0xCB00710A, 20001, 100000000000, 7, 0, some 300000001000⟩)) exampleIdle
      exampleCallbacks := by
    refine ⟨?_, ?_, ?_, trivial⟩
    · exact idleEvent_of_entry entry (by decide +kernel) (by decide +kernel) (by decide)
    · exact idleEvent_of_entry second (by decide +kernel) (by decide +kernel) (by decide)
    · exact idleEvent_of_entry third (by decide +kernel) (by decide +kernel) (by decide)
  exact ((idle_session_reclaimed on entry idle).1 (.inl (by decide))).fwdNat

end Natto64
