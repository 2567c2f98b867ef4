import Natto64.Expiry

/-!
# Reverse entries without a session

Only the forward entry carries the timer. A reverse entry outlives its session exactly
where a forward entry is evicted whose reverse entry stays.
-/
namespace Natto64
open EventRun

/-- Every reverse entry has its session, whose timer is armed. -/
def System.ReverseTimed (s : System) : Prop :=
  ∀ l b, s.maps.nat l = some b →
    ∃ v, s.maps.fwdNat ⟨b.vmV6, b.remoteV4, b.vmPort, b.remotePort, l.proto⟩ = some v ∧
      natKey v.extV4 v.extPort l.proto = l ∧ v.generation = b.generation ∧ v.timer ≠ none

/-- The timer of a new session is armed or its entry removed again, and the calls of a
callback succeed. -/
def Event.Answered : Event → Prop
  | .forward _ _ k => k.Arms = false → k.fwdNatRemoveOk = true
  | .timer _ k => k.timerStartOk = true ∧ k.natRemoveOk = true ∧ k.fwdNatRemoveOk = true
  | _ => True

/-- A forward entry is evicted only after its reverse entry. -/
def System.EvictsLast (s : System) : Event → Prop
  | .evictFwdNat key => ∀ v b, s.maps.fwdNat key = some v →
      s.maps.nat (sessions.addr key v) = some b → ¬ sessions.Agrees key v b
  | _ => True

def System.Armed (s : System) : Prop := ∀ key v, s.maps.fwdNat key = some v → v.timer ≠ none

def System.Backed (s : System) : Prop := sessions.Backed s.maps.fwdNat s.maps.nat

theorem System.Backed.reverseTimed {s : System} (h : s.Backed) (armed : s.Armed) :
    s.ReverseTimed := by
  intro l b hb
  obtain ⟨key, v, entry, haddr, hclient, hport, hremote, hremotePort, hgen⟩ := h l b hb
  have hproto : l.proto = key.proto := by
    rw [← haddr]
    rfl
  rw [hclient, hport, hremote, hremotePort, hproto]
  exact ⟨v, entry, haddr, hgen.symm, armed key v entry⟩

/-- A mapping leaves every timer armed. -/
theorem MappingCase.armed {k : Kernel} {cfg : Nat64Config} {key : FwdNatKey} {extV4 : UInt32}
    {proto : UInt8} {nowNs : UInt64} {s s' : Maps} {cpu : CpuMaps}
    {r : Option (UInt32 × UInt16 × UInt32)} {l : Calls}
    (h : MappingCase k cfg key extV4 proto nowNs s cpu r s' l)
    (timeout : cfg.sessionTimeoutSecs ≠ 0) (answered : k.Arms = false → k.fwdNatRemoveOk = true)
    (armed : ∀ key v, s.fwdNat key = some v → v.timer ≠ none) :
    ∀ key v, s'.fwdNat key = some v → v.timer ≠ none := by
  intro key' w entry
  cases h with
  | @hit v old =>
      rcases entry_of_set entry with ⟨rfl, rfl⟩ | stays
      · exact armed key' v old
      · exact armed key' w stays
  | refused new cause => exact armed key' w entry
  | stuck new port inserts cause after =>
      have removes := answered cause.2.1
      rw [cause.2.2] at removes
      cases removes
  | created new port inserts arms after =>
      rcases entry_of_set entry with ⟨rfl, rfl⟩ | stays
      · rw [armedUntil, if_neg timeout]
        exact Option.some_ne_none _
      · exact armed key' w stays

theorem forward_armed {s : System} {cpu : Nat} {skb : List UInt8} {k : Kernel}
    (timeout : (s.maps.config.getD DEFAULT_CFG).sessionTimeoutSecs ≠ 0)
    (answered : k.Arms = false → k.fwdNatRemoveOk = true) (armed : s.Armed) :
    ∀ key v, (s.forward cpu skb k).2.maps.fwdNat key = some v → v.timer ≠ none := by
  have h := nat64Forward_case k (s.machine cpu skb)
  change ForwardCase k _ (s.forward cpu skb k) at h
  generalize s.forward cpu skb k = z at h ⊢
  cases h with
  | passed cause same =>
      rw [same.2.1]
      exact armed
  | cut admitted tcp change cause length maps log =>
      rw [maps.1]
      exact armed
  | unmapped mapped maps skb log =>
      rw [maps]
      exact mapped.mapping.armed timeout answered armed
  | dropped mapped maps cause skb log =>
      rw [maps]
      exact mapped.mapping.armed timeout answered armed
  | translated mapped change within chain skb maps tcp log =>
      have kept := mapped.mapping.armed timeout answered armed
      intro key v entry
      apply kept key v
      rw [maps] at entry
      split at entry <;> exact entry

theorem armed_step {cfg : Nat64Config} {s : System} {e : Event}
    (timeout : cfg.sessionTimeoutSecs ≠ 0) (hcfg : s.maps.config = some cfg)
    (answered : e.Answered) (armed : s.Armed) : (s.step e).Armed := by
  have hget : s.maps.config.getD DEFAULT_CFG = cfg := by
    rw [hcfg, Option.getD_some]
  cases e with
  | forward cpu skb k =>
      refine forward_armed ?_ answered armed
      rw [hget]
      exact timeout
  | reverse cpu skb k =>
      intro key v entry
      apply armed key v
      change (s.reverse cpu skb k).2.maps.fwdNat key = some v at entry
      cases s.reverse_maps cpu skb k with
      | idle maps | refreshed _ maps =>
          rw [maps] at entry
          exact entry
  | timer key k =>
      obtain ⟨starts, -, removes⟩ := answered
      have hcase := timer_case s key k
      rw [hget] at hcase
      intro key' v entry
      change (s.timer key k).maps.fwdNat key' = some v at entry
      generalize s.timer key k = m' at hcase entry
      have rearmed : ∀ {v w : TimedFwdNatVal} {observed delay : UInt64},
          m'.maps = (s.timerMachine key).maps.setFwdNat key
            (some (rearmedValue k v observed delay)) →
          m'.maps.fwdNat key' = some w → w.timer ≠ none := by
        intro v w observed delay maps entry
        rw [maps, setFwdNat_unarmed] at entry
        rcases entry_of_set entry with ⟨-, rfl⟩ | stays
        · simp [rearmedValue, starts]
        · exact armed key' w stays
      cases hcase with
      | skipped cause =>
          have missing := cause.resolve_right (sessionTimeoutNs_ne_zero timeout)
          have hk : key' ≠ key := by
            rintro rfl
            exact Option.some_ne_none _ (entry.symm.trans missing)
          exact armed key' v ((Maps.setFwdNat_of_ne _ _ _ hk).symm.trans entry)
      | active stored on recent maps log => exact rearmed maps entry
      | observed stored on quiet fresh maps log => exact rearmed maps entry
      | expired stored on quiet confirmed maps log =>
          have hk : key' ≠ key := by
            rintro rfl
            simp [maps, Maps.expire, removes] at entry
          have kept : m'.maps.fwdNat key' = s.maps.fwdNat key' := by
            simp [maps, Maps.expire, removes, Function.update_of_ne hk, System.timerMachine,
              System.unarmed, Maps.setFwdNat_of_ne _ _ _ hk]
          rw [kept] at entry
          exact armed key' v entry
  | evictFwdNat key =>
      intro key' v entry
      exact armed key' v (entry_of_removed entry)
  | evictNat key => exact armed

theorem ownsReverse_of_agrees {nat : NatKey → Option NatVal} {key : FwdNatKey}
    {v : TimedFwdNatVal} {b : NatVal} (hb : nat (sessions.addr key v) = some b)
    (hab : sessions.Agrees key v b) : ownsReverse nat key v = true := by
  change ((nat (sessions.addr key v)).any _) = true
  rw [hb, Option.any_some, beq_iff_eq]
  exact hab.2.2.2.2

/-- A session goes together with the entry at its address. -/
theorem backed_forgotten {m : Maps} {key : FwdNatKey} {v : TimedFwdNatVal}
    (h : sessions.Backed m.fwdNat m.nat) (entry : m.fwdNat key = some v) :
    sessions.Backed ((m.setFwdNat key none).setNat (sessions.addr key v) none).fwdNat
      ((m.setFwdNat key none).setNat (sessions.addr key v) none).nat := by
  have alone : sessions.Backed m.fwdNat (m.setNat (sessions.addr key v) none).nat := h.forget
  apply Pairing.Backed.erase alone
  intro v' b stored hb
  obtain rfl := Option.some.inj (entry.symm.trans stored)
  rw [Maps.setNat_self] at hb
  cases hb

theorem natRemove_answered {s : System} {key : FwdNatKey} {k : Kernel}
    (removes : k.natRemoveOk = true) : (.natRemove, false) ∉ (s.timer key k).log := by
  intro failed
  have hcase := timer_case s key k
  generalize s.timer key k = m' at hcase failed
  cases hcase with
  | skipped cause => cases failed
  | active stored on recent maps log | observed stored on quiet fresh maps log =>
      rw [log] at failed
      cases List.mem_cons.mp failed with
      | inl h => cases h
      | inr h => cases h
  | expired stored on quiet confirmed maps log =>
      rw [log, removes] at failed
      cases List.mem_cons.mp failed with
      | inl h => cases h
      | inr h =>
          split at h
          · cases List.mem_singleton.mp h
          · cases h

theorem backed_step {s : System} {e : Event} (h : s.Backed) (answered : e.Answered)
    (last : s.EvictsLast e) : (s.step e).Backed := by
  cases e with
  | forward cpu skb k =>
      change sessions.Backed (s.forward cpu skb k).2.maps.fwdNat (s.forward cpu skb k).2.maps.nat
      cases s.forward_maps cpu skb k with
      | idle maps => exact maps ▸ h
      | @touched v old maps log =>
          have same := v.sameTuple_seen k.now
          rw [maps]
          exact Pairing.Backed.touch h old (same.addr _) (same.agrees _)
      | @recorded v old maps =>
          have same := v.sameTuple_seen k.now
          have hseen := Pairing.Backed.touch h old (same.addr _) (same.agrees _)
          rw [maps, ← same.addr]
          exact hseen.record (Maps.setFwdNat_self ..) (agrees_fwdNatVal rfl k.now)
      | opened new pool port maps =>
          rw [maps]
          exact Pairing.Backed.insert h new (agrees_fwdNatVal rfl k.now)
      | orphaned maps incomplete log =>
          -- only a packet of a new flow fails to complete
          have new : s.maps.fwdNat (fwdKeyAt skb) = none := by
            by_contra old
            exact incomplete fun _ _ _ _ new => absurd new old
          rw [maps]
          exact Pairing.Backed.admit h new
  | reverse cpu skb k =>
      change sessions.Backed (s.reverse cpu skb k).2.maps.fwdNat (s.reverse cpu skb k).2.maps.nat
      cases s.reverse_maps cpu skb k with
      | idle maps => exact maps ▸ h
      | refreshed matched maps =>
          rw [maps]
          exact refresh_backed h matched.entry
  | timer key k =>
      obtain ⟨-, natRemoves, removes⟩ := answered
      change sessions.Backed (s.timer key k).maps.fwdNat (s.timer key k).maps.nat
      cases timer_maps s key k with
      | idle maps => exact maps ▸ h
      | kept entry same maps =>
          rw [maps]
          exact Pairing.Backed.touch h entry (same.addr _) (same.agrees _)
      | forgotten entry maps =>
          rw [maps]
          exact backed_forgotten h entry
      | erased entry maps cause =>
          rw [maps]
          apply Pairing.Backed.erase h
          intro v b stored hb hab
          obtain rfl := Option.some.inj (entry.symm.trans stored)
          have owns := ownsReverse_of_agrees hb hab
          rcases cause with disowned | failed
          · rw [owns] at disowned
            cases disowned
          · exact natRemove_answered natRemoves failed
      | severed entry maps insert remove log =>
          rw [remove] at removes
          cases removes
  | evictFwdNat key => exact Pairing.Backed.erase h last
  | evictNat key => exact Pairing.Backed.forget h

def System.Timed (cfg : Nat64Config) (s : System) : Prop :=
  s.maps.config = some cfg ∧ s.Armed ∧ s.Backed

theorem timed_initial (cfg : Nat64Config) : (System.initial cfg).Timed cfg :=
  ⟨rfl, fun _ _ entry => (nomatch entry), sessions.mirror_empty.2⟩

theorem timed_step {cfg : Nat64Config} {s : System} {e : Event}
    (timeout : cfg.sessionTimeoutSecs ≠ 0) (h : s.Timed cfg) (ok : e.Answered ∧ s.EvictsLast e) :
    (s.step e).Timed cfg := by
  obtain ⟨config, armed, backed⟩ := h
  obtain ⟨answered, last⟩ := ok
  exact ⟨(step_config s e).trans config, armed_step timeout config answered armed,
    backed_step backed answered last⟩

/-- An eviction out of order leaves the reverse entry alone. -/
theorem not_reverseTimed_of_evicted {s : System} {key : FwdNatKey} {v : TimedFwdNatVal}
    {b : NatVal} (hb : s.maps.nat (sessions.addr key v) = some b)
    (hab : sessions.Agrees key v b) : ¬ (s.step (.evictFwdNat key)).ReverseTimed := by
  intro h
  obtain ⟨hclient, hport, hremote, hremotePort, -⟩ := hab
  obtain ⟨w, entry, -⟩ := h (sessions.addr key v) b hb
  rw [hclient, hport, hremote, hremotePort] at entry
  exact Option.some_ne_none w (entry.symm.trans (Maps.setFwdNat_self ..))

/-- In a run whose timers are armed and whose callbacks succeed, every reverse entry always
has its session exactly if no forward entry is evicted before its reverse entry. -/
theorem reverse_entries_timed_iff {cfg : Nat64Config} {es : List Event}
    (timeout : cfg.sessionTimeoutSecs ≠ 0) (answered : ∀ e ∈ es, e.Answered) :
    (∀ past, past <+: es → (dataplane cfg past).ReverseTimed) ↔
      Along System.step System.EvictsLast (System.initial cfg) es := by
  constructor
  · intro h
    rw [along_iff_split]
    rintro before e after rfl
    cases e with
    | evictFwdNat key =>
        intro v b entry hb hab
        have reached := h (before ++ [.evictFwdNat key]) ⟨after, by simp⟩
        rw [dataplane_concat] at reached
        exact not_reverseTimed_of_evicted hb hab reached
    | _ => trivial
  · rintro along past ⟨rest, rfl⟩
    have both : Along System.step (fun s e => e.Answered ∧ s.EvictsLast e) (System.initial cfg)
        past := by
      rw [along_iff_split] at along ⊢
      rintro before e after rfl
      refine ⟨answered e (by simp), along before e (after ++ rest) (by simp)⟩
    obtain ⟨-, armed, backed⟩ := invariant (I := System.Timed cfg)
      (fun _ _ h ok => timed_step timeout h ok) (timed_initial cfg) both
    exact backed.reverseTimed armed

/-- A session whose reverse entry is evicted first. -/
def exampleEviction : List Event :=
  [.forward 0 (exampleTcp6 4000 20) (.ideal 1000 7),
    .evictNat (natKey 0xCB00710A 20001 IPPROTO_TCP), .evictFwdNat exampleFlow]

theorem reverse_entries_timed_example :
    (dataplane exampleDataplane exampleEviction).ReverseTimed := by
  have answered : ∀ e ∈ exampleEviction, e.Answered := by
    simp [exampleEviction, Event.Answered, Kernel.Arms, Kernel.ideal]
  have last : Along System.step System.EvictsLast (System.initial exampleDataplane)
      exampleEviction := by
    refine ⟨trivial, trivial, ?_, trivial⟩
    intro v b entry hb
    have stored : ((System.initial exampleDataplane).step (.forward 0 (exampleTcp6 4000 20)
        (.ideal 1000 7))).maps.fwdNat exampleFlow = some exampleOpened := by decide +kernel
    obtain rfl := Option.some.inj (stored.symm.trans entry)
    exact absurd (hb.symm.trans (Maps.setNat_self ..)) (Option.some_ne_none b)
  have timeout : exampleDataplane.sessionTimeoutSecs ≠ 0 := by decide
  exact (reverse_entries_timed_iff timeout answered).mpr last _ (List.prefix_refl _)

/-- A session whose forward entry is evicted. -/
def exampleOrphan : List Event :=
  [.forward 0 (exampleTcp6 4000 20) (.ideal 1000 7), .evictFwdNat exampleFlow]

/-- The reverse entry of an evicted session stays, and translates an answer a day later. -/
theorem evicted_session_leaves_reverse_entry :
    (¬ ∀ (u : Userspace.Nat64Config) (bridge uplink : UInt32) (es : List Event),
      u.validate = .ok () → (u.dataplaneConfig bridge uplink).sessionTimeoutSecs ≠ 0 →
      (∀ e ∈ es, e.Ordinary ∨ e.evicts) →
      (dataplane (u.dataplaneConfig bridge uplink) es).ReverseTimed) ∧
    ((dataplane exampleDataplane exampleOrphan).reverse 1 (exampleTcp4 20001 [])
      (.ideal 86400000000000 8)).1 = .redirect := by
  constructor
  · intro h
    have possible : ∀ e ∈ exampleOrphan, e.Ordinary ∨ e.evicts := by
      simp [exampleOrphan, Event.Ordinary, Event.evicts]
    have timed := h exampleConfig 2 3 exampleOrphan rfl (by decide) possible
    obtain ⟨v, entry, -⟩ := timed (natKey 0xCB00710A 20001 IPPROTO_TCP)
      (fwdNatVal exampleFlow 7 1000) (by decide +kernel)
    exact Option.some_ne_none v (entry.symm.trans (by decide +kernel))
  · decide +kernel

end Natto64
