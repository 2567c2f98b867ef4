import Natto64.InFlightReverse

/-!
# Armed timers

No program looks at the time at which a timer will expire: on maps that differ in nothing
else, every invocation does the same.
-/
namespace Natto64

def TimedFwdNatVal.disarmed (v : TimedFwdNatVal) : TimedFwdNatVal := { v with timer := none }

section Disarmed
variable (v : TimedFwdNatVal) (r : Option TimedFwdNatVal)

@[simp] theorem TimedFwdNatVal.disarmed_extV4 : v.disarmed.extV4 = v.extV4 := rfl
@[simp] theorem TimedFwdNatVal.disarmed_extPort : v.disarmed.extPort = v.extPort := rfl
@[simp] theorem TimedFwdNatVal.disarmed_generation : v.disarmed.generation = v.generation := rfl

@[simp] theorem TimedFwdNatVal.getD_disarmed_lastSeenNs :
    (r.getD v.disarmed).lastSeenNs = (r.getD v).lastSeenNs := by
  cases r <;> rfl

@[simp] theorem TimedFwdNatVal.getD_disarmed_observedLastSeenNs :
    (r.getD v.disarmed).observedLastSeenNs = (r.getD v).observedLastSeenNs := by
  cases r <;> rfl

end Disarmed

/-- The answer without the time the timer will expire. -/
def Op.forgetTimer : (op : Op) → op.Resp → op.Resp
  | .fwdNatLookup _, r => Option.map TimedFwdNatVal.disarmed r
  | .skbLoadBytes _ _, r | .skbStoreBytes _ _, r | .skbChangeProto _, r | .csumDiff _ _, r
  | .l4CsumReplace _ _ _ _, r | .redirectNeigh _, r | .ktimeGetNs, r | .getPrandomU32, r
  | .configGet, r | .fwdNatSetLastSeen _ _, r | .fwdNatSetObserved _ _, r | .fwdNatInsert _ _, r
  | .fwdNatRemove _, r | .timerInit _, r | .timerSetCallback _, r | .timerStart _ _, r
  | .natLookup _, r | .natSetLastSeen _ _, r | .natInsert _ _, r | .natRemove _, r
  | .portCursor, r | .setPortCursor _, r | .portCooldown, r | .setPortCooldown _, r
  | .diag _, r => r

structure Maps.SameButTimers (s t : Maps) : Prop where
  config : s.config = t.config
  fwdNat (key : FwdNatKey) :
    (s.fwdNat key).map TimedFwdNatVal.disarmed = (t.fwdNat key).map TimedFwdNatVal.disarmed
  nat : s.nat = t.nat

structure Machine.SameButTimers (m n : Machine) : Prop where
  skb : m.skb = n.skb
  maps : m.maps.SameButTimers n.maps
  cpu : m.cpu = n.cpu
  log : m.log = n.log

section Calls
variable {s t : Maps}

theorem Maps.SameButTimers.refl (s : Maps) : s.SameButTimers s := ⟨rfl, fun _ => rfl, rfl⟩

theorem Maps.SameButTimers.setFwdNat (h : s.SameButTimers t) (key : FwdNatKey)
    {v w : Option TimedFwdNatVal}
    (hvw : v.map TimedFwdNatVal.disarmed = w.map TimedFwdNatVal.disarmed) :
    (s.setFwdNat key v).SameButTimers (t.setFwdNat key w) where
  config := h.config
  fwdNat key' := by
    by_cases hkey : key' = key
    · subst hkey
      simpa using hvw
    · simpa [Maps.setFwdNat_of_ne, hkey] using h.fwdNat key'
  nat := h.nat

/-- A write through a pointer to a forward entry. -/
theorem Maps.SameButTimers.touch (h : s.SameButTimers t) (key : FwdNatKey)
    {f : TimedFwdNatVal → TimedFwdNatVal} (hf : ∀ v, (f v).disarmed = (f v.disarmed).disarmed) :
    (s.setFwdNat key ((s.fwdNat key).map f)).SameButTimers
      (t.setFwdNat key ((t.fwdNat key).map f)) := by
  apply h.setFwdNat
  have hentry := h.fwdNat key
  cases hs : s.fwdNat key with
  | none =>
      cases ht : t.fwdNat key with
      | none => rfl
      | some w => simp [hs, ht] at hentry
  | some v =>
      cases ht : t.fwdNat key with
      | none => simp [hs, ht] at hentry
      | some w =>
          simp only [hs, ht, Option.map_some, Option.some.injEq] at hentry ⊢
          rw [hf v, hf w, hentry]

theorem Maps.SameButTimers.setNat (h : s.SameButTimers t) (key : NatKey) (b : Option NatVal) :
    (s.setNat key b).SameButTimers (t.setNat key b) where
  config := h.config
  fwdNat := h.fwdNat
  nat := by simp [Maps.setNat, h.nat]

theorem answer_sameButTimers (k : Kernel) (op : Op) (m n : Machine) (h : m.SameButTimers n) :
    op.forgetTimer (k.answer op m).1 = op.forgetTimer (k.answer op n).1 ∧
      (k.answer op m).2.SameButTimers (k.answer op n).2 := by
  obtain ⟨skb, s, cpu, log⟩ := m
  obtain ⟨skb', t, cpu', log'⟩ := n
  obtain ⟨rfl, hmaps, rfl, rfl⟩ := h
  by_cases hlocal : op.Local
  · have same := answer_local hlocal k ⟨skb, cpu, log⟩ s s
    have other := answer_local hlocal k ⟨skb, cpu, log⟩ s t
    have kept : (k.answer op ⟨skb, s, cpu, log⟩).2.maps = s := congrArg (fun z => z.2.maps) same
    have after : (k.answer op ⟨skb, s, cpu, log⟩).2.maps.SameButTimers t := by
      rw [kept]
      exact hmaps
    change op.forgetTimer (k.answer op ⟨skb, s, cpu, log⟩).1 =
        op.forgetTimer (k.answer op (Invocation.machine ⟨skb, cpu, log⟩ t)).1 ∧
      (k.answer op ⟨skb, s, cpu, log⟩).2.SameButTimers
        (k.answer op (Invocation.machine ⟨skb, cpu, log⟩ t)).2
    rw [other]
    exact ⟨rfl, rfl, after, rfl, rfl⟩
  cases op with
  | fwdNatLookup key => exact ⟨hmaps.fwdNat key, rfl, hmaps, rfl, rfl⟩
  | configGet => exact ⟨hmaps.config, rfl, hmaps, rfl, rfl⟩
  | natLookup key => exact ⟨congrFun hmaps.nat key, rfl, hmaps, rfl, rfl⟩
  | fwdNatSetLastSeen key ns => exact ⟨rfl, rfl, hmaps.touch key fun _ => rfl, rfl, rfl⟩
  | fwdNatSetObserved key ns => exact ⟨rfl, rfl, hmaps.touch key fun _ => rfl, rfl, rfl⟩
  | natSetLastSeen key ns =>
      have hentry : s.nat key = t.nat key := congrFun hmaps.nat key
      refine ⟨rfl, rfl, ?_, rfl, rfl⟩
      change (s.setNat key ((s.nat key).map _)).SameButTimers
        (t.setNat key ((t.nat key).map _))
      rw [hentry]
      exact hmaps.setNat key _
  | fwdNatInsert key v =>
      simp only [Kernel.answer]
      split
      · exact ⟨rfl, rfl, hmaps.setFwdNat key rfl, rfl, rfl⟩
      · exact ⟨rfl, rfl, hmaps, rfl, rfl⟩
  | fwdNatRemove key =>
      simp only [Kernel.answer]
      split
      · exact ⟨rfl, rfl, hmaps.setFwdNat key rfl, rfl, rfl⟩
      · exact ⟨rfl, rfl, hmaps, rfl, rfl⟩
  | timerStart key delayNs =>
      simp only [Kernel.answer]
      split
      · exact ⟨rfl, rfl, hmaps.touch key fun _ => rfl, rfl, rfl⟩
      · exact ⟨rfl, rfl, hmaps, rfl, rfl⟩
  | natInsert key b =>
      simp only [Kernel.answer]
      split
      · exact ⟨rfl, rfl, hmaps.setNat key _, rfl, rfl⟩
      · exact ⟨rfl, rfl, hmaps, rfl, rfl⟩
  | natRemove key =>
      simp only [Kernel.answer]
      split
      · exact ⟨rfl, rfl, hmaps.setNat key _, rfl, rfl⟩
      · exact ⟨rfl, rfl, hmaps, rfl, rfl⟩
  | _ => exact absurd trivial hlocal

end Calls

section Programs
variable {α β : Type}

def TimerBlind (p : Ebpf α) : Prop := p.Ignores Op.forgetTimer

/-- The call answers without timers. -/
def Op.Timeless : Op → Prop
  | .fwdNatLookup _ => False
  | _ => True

theorem Op.Timeless.forgets {op : Op} (h : op.Timeless) (r : op.Resp) : op.forgetTimer r = r := by
  cases op <;> first | rfl | exact h.elim

theorem blind_of_timeless {p : Ebpf α} (hp : p.Uses Op.Timeless) : TimerBlind p :=
  (hp.mono fun _ h => h.forgets).ignores

theorem LocalCalls.timeless {p : Ebpf α} (hp : LocalCalls p) : p.Uses Op.Timeless := by
  apply hp.mono
  intro op h
  cases op <;> trivial

theorem LocalCalls.blind {p : Ebpf α} (hp : LocalCalls p) : TimerBlind p :=
  blind_of_timeless hp.timeless

theorem TimerBlind.bind {p : Ebpf α} {q : α → Ebpf β} (hp : TimerBlind p)
    (hq : ∀ a, TimerBlind (q a)) : TimerBlind (p >>= q) := CallTree.Ignores.bind hp hq

theorem TimerBlind.option {p : Ebpf (Option α)} {q : Option α → Ebpf β} (hp : TimerBlind p)
    (hnone : TimerBlind (q none)) (hsome : ∀ a, TimerBlind (q (some a))) :
    TimerBlind (p >>= q) := by
  apply hp.bind
  intro a
  cases a with
  | none => exact hnone
  | some a => exact hsome a

theorem TimerBlind.bool {p : Ebpf Bool} {q : Bool → Ebpf β} (hp : TimerBlind p)
    (htrue : TimerBlind (q true)) (hfalse : TimerBlind (q false)) : TimerBlind (p >>= q) := by
  apply hp.bind
  intro b
  cases b with
  | true => exact htrue
  | false => exact hfalse

theorem blind_pure (a : α) : TimerBlind (pure a) := trivial

theorem blind_call {op : Op} (h : op.Timeless) : TimerBlind (CallTree.perform op : Ebpf op.Resp) :=
  blind_of_timeless ⟨h, fun _ => trivial⟩

theorem blind_natLookup (key : NatKey) : TimerBlind (natLookup key) := blind_call trivial
theorem blind_natInsert (key : NatKey) (b : NatVal) : TimerBlind (natInsert key b) :=
  blind_call trivial
theorem blind_natRemove (key : NatKey) : TimerBlind (natRemove key) := blind_call trivial
theorem blind_natSetLastSeen (key : NatKey) (ns : UInt64) : TimerBlind (natSetLastSeen key ns) :=
  blind_call trivial
theorem blind_fwdNatInsert (key : FwdNatKey) (v : TimedFwdNatVal) :
    TimerBlind (fwdNatInsert key v) := blind_call trivial
theorem blind_fwdNatRemove (key : FwdNatKey) : TimerBlind (fwdNatRemove key) := blind_call trivial
theorem blind_fwdNatSetLastSeen (key : FwdNatKey) (ns : UInt64) :
    TimerBlind (fwdNatSetLastSeen key ns) := blind_call trivial
theorem blind_fwdNatSetObserved (key : FwdNatKey) (ns : UInt64) :
    TimerBlind (fwdNatSetObserved key ns) := blind_call trivial
theorem blind_timerRearm (key : FwdNatKey) (delayNs : UInt64) :
    TimerBlind (timerRearm key delayNs) := blind_call trivial
theorem blind_configGet : TimerBlind configGet := blind_call trivial
theorem blind_setPortCooldown (ring : PortCooldownRing) : TimerBlind (setPortCooldown ring) :=
  blind_call trivial

theorem blind_counters (prod : List ProdCounter) (debug : List DebugCounter) {q : Unit → Ebpf β}
    (hq : TimerBlind (q ())) : TimerBlind (withCounters prod debug >>= q) :=
  (local_withCounters prod debug).blind.bind fun _ => hq

theorem blind_exit (prod : List ProdCounter) (debug : List DebugCounter) (a : β) :
    TimerBlind (do withCounters prod debug; return a) := blind_counters prod debug (blind_pure a)

/-- A lookup whose entry is read field by field. -/
theorem blind_lookup (key : FwdNatKey) {q : Option TimedFwdNatVal → Ebpf β}
    (same : ∀ r, q r = q (r.map TimedFwdNatVal.disarmed)) (hq : ∀ r, TimerBlind (q r)) :
    TimerBlind (fwdNatLookup key >>= q) := by
  intro r
  exact ⟨same r, hq r⟩

/-- The port is found: it cools down and is returned. -/
theorem blind_coolPort (port : UInt16) :
    TimerBlind (do
      match (← portCooldown) with
      | some ring =>
          setPortCooldown (cooldownPush ring port)
          withCounters [] [.cooldownPushOk]
      | none => withCounters [] [.cooldownPushErr]
      return some port : Ebpf (Option UInt16)) := by
  apply TimerBlind.option local_portCooldown.blind
  · exact blind_exit _ _ _
  · intro ring
    exact (blind_setPortCooldown _).bind fun _ => blind_exit _ _ _

theorem blind_allocPortLoop (cfg : Nat64Config) (extV4 : UInt32) (proto : UInt8) (span : UInt32)
    (n : Nat) (cursor : UInt32) (hadCooldownSkip : Bool) :
    TimerBlind (allocPortLoop cfg extV4 proto span n cursor hadCooldownSkip) := by
  induction n generalizing cursor hadCooldownSkip with
  | zero => exact (local_setPortCursor cursor).blind.bind fun _ => blind_exit _ _ _
  | succ n ih =>
      unfold allocPortLoop
      apply blind_counters
      apply (local_setPortCursor _).blind.bind
      intro _
      split
      · exact ih _ _
      apply local_portCooldown.blind.bind
      intro ring
      split
      · exact blind_counters _ _ (ih _ _)
      apply TimerBlind.option (blind_natLookup _)
      · cases hadCooldownSkip with
        | true => exact blind_counters _ _ (blind_coolPort _)
        | false => exact blind_coolPort _
      · intro b
        exact blind_counters _ _ (ih _ _)

theorem blind_allocPort (cfg : Nat64Config) (extV4 : UInt32) (proto : UInt8) :
    TimerBlind (allocPort cfg extV4 proto) := by
  unfold allocPort
  split
  · exact blind_pure none
  apply TimerBlind.option local_portCursor.blind
  · exact blind_pure none
  · intro cursor
    exact blind_allocPortLoop cfg extV4 proto _ 16 cursor false

theorem blind_armSessionTimer (key : FwdNatKey) : TimerBlind (armSessionTimer key) := by
  unfold armSessionTimer
  apply blind_lookup
  · intro r
    cases r <;> rfl
  intro r
  cases r with
  | none => exact blind_pure false
  | some v =>
      refine (local_timerInit key).blind.bool ?_ (blind_pure false)
      refine (local_timerSetCallback key).blind.bool ?_ (blind_pure false)
      apply blind_configGet.bind
      intro cfg
      exact blind_timerRearm _ _

theorem blind_lookupOrCreateMapping (cfg : Nat64Config) (key : FwdNatKey) (selectedExtV4 : UInt32)
    (proto : UInt8) (nowNs : UInt64) :
    TimerBlind (lookupOrCreateMapping cfg key selectedExtV4 proto nowNs) := by
  unfold lookupOrCreateMapping
  apply blind_lookup
  · intro r
    cases r <;> rfl
  intro r
  cases r with
  | some v =>
      apply (blind_fwdNatSetLastSeen _ _).bind
      intro _
      apply (blind_fwdNatSetObserved _ _).bind
      intro _
      exact blind_exit _ _ _
  | none =>
      apply blind_counters
      apply (blind_allocPort _ _ _).option
      · exact blind_exit _ _ _
      intro extPort
      apply blind_counters
      apply local_getPrandomU32.blind.bind
      intro generation
      refine (blind_fwdNatInsert _ _).bool ?_ (blind_exit _ _ _)
      have disarmed : TimerBlind (do
          let _ ← fwdNatRemove key
          withCounters [.fwdNatInsertErr] []
          return none : Ebpf (Option (UInt32 × UInt16 × UInt32))) := by
        apply (blind_fwdNatRemove _).bind
        intro _
        exact blind_exit _ _ _
      rw [if_neg (by decide)]
      split
      · exact (blind_armSessionTimer key).bool (blind_exit _ _ _) disarmed
      · exact blind_exit _ _ _

/-- The callback reads its entry again and again, field by field. -/
theorem blind_sessionTimerCallback (key : FwdNatKey) : TimerBlind (sessionTimerCallback key) := by
  have rearms : ∀ observed delay, TimerBlind (do
      fwdNatSetObserved key observed
      let _ ← timerRearm key delay
      return () : Ebpf Unit) := by
    intro observed delay
    apply (blind_fwdNatSetObserved _ _).bind
    intro _
    apply (blind_timerRearm _ _).bind
    intro _
    exact blind_pure ()
  have removes : TimerBlind (do
      let _ ← fwdNatRemove key
      return () : Ebpf Unit) := (blind_fwdNatRemove key).bind fun _ => blind_pure ()
  unfold sessionTimerCallback
  apply blind_lookup
  · intro r
    cases r with
    | none => rfl
    | some v => simp
  intro value
  cases value with
  | none => exact blind_pure ()
  | some value =>
      apply blind_configGet.bind
      intro cfg
      dsimp only
      split
      · exact blind_pure ()
      apply local_ktimeGetNs.blind.bind
      intro nowNs
      apply blind_lookup
      · intro r
        cases r <;> rfl
      intro fwd
      apply (blind_natLookup _).bind
      intro reverse
      split
      · exact rearms _ _
      apply blind_lookup
      · intro r
        cases r <;> rfl
      intro fwd
      split
      · exact rearms _ _
      apply blind_lookup
      · intro r
        cases r <;> rfl
      intro fwd
      apply (blind_natLookup _).bind
      intro reverse
      split
      · exact rearms _ _
      split
      · exact (blind_natRemove _).bind fun _ => removes
      · exact removes

theorem blind_refuse (prod prod' : List ProdCounter) (debug debug' : List DebugCounter) (a : α) :
    TimerBlind (do withCounters prod debug; withCounters prod' debug'; return a) :=
  blind_counters prod debug (blind_exit prod' debug' a)

theorem blind_redirect (ifindex : UInt32) (forward : Bool) :
    TimerBlind (do return .ok (← redirectToIface ifindex forward) :
      Ebpf (Except TcAction TcAction)) :=
  (local_redirectToIface ifindex forward).blind.bind fun _ => blind_pure _

theorem blind_forwardTcp (cfg : Nat64Config) (ipv6Info : Ipv6Info) (remoteV4Bytes : List UInt8)
    (remoteV4 extV4 : UInt32) :
    TimerBlind (forwardTcp cfg ipv6Info remoteV4Bytes remoteV4 extV4) := by
  unfold forwardTcp
  apply blind_counters
  dsimp only
  split
  · exact blind_exit _ _ _
  refine (local_changeProto _).blind.bool ?_ (blind_exit _ _ _)
  apply blind_counters
  refine (local_store _ _).blind.bool ?_ (blind_exit _ _ _)
  refine (local_tcpPorts _).blind.option (blind_exit _ _ _) fun ports => ?_
  apply local_ktimeGetNs.blind.bind
  intro nowNs
  refine (blind_lookupOrCreateMapping _ _ _ _ _).option (blind_exit _ _ _) fun mapping => ?_
  refine (local_writeIpv4Header _ _ _ _).blind.bool ?_ (blind_exit _ _ _)
  apply blind_counters
  refine (local_store _ _).blind.bool ?_ (blind_exit _ _ _)
  apply blind_counters
  refine (local_applyL4Nat64ChecksumDeltaV6ToV4 _ _ _ _ _ _ _ _ _).blind.option
    (blind_exit _ _ _) fun csumTrace => ?_
  refine (blind_natInsert _ _).bool ?_ (blind_exit _ _ _)
  apply blind_counters
  apply (local_diag _).blind.bind
  intro _
  apply blind_counters
  apply (local_loadU16 _).blind.bind
  intro check
  apply (local_diag _).blind.bind
  intro _
  exact blind_redirect _ _

theorem blind_forwardUdp (cfg : Nat64Config) (ipv6Info : Ipv6Info) (remoteV4 extV4 : UInt32) :
    TimerBlind (forwardUdp cfg ipv6Info remoteV4 extV4) := by
  unfold forwardUdp
  apply blind_counters
  refine (local_udpPortsLen _).blind.option (blind_pure _) fun ports => ?_
  dsimp only
  split
  · exact blind_refuse _ _ _ _ _
  split
  · exact blind_refuse _ _ _ _ _
  apply local_ktimeGetNs.blind.bind
  intro nowNs
  refine (blind_lookupOrCreateMapping _ _ _ _ _).option (blind_exit _ _ _) fun mapping => ?_
  refine (local_changeProto _).blind.bool ?_ (blind_refuse _ _ _ _ _)
  apply blind_counters
  refine (local_store _ _).blind.bool ?_ (blind_refuse _ _ _ _ _)
  refine (local_writeIpv4Header _ _ _ _).blind.bool ?_ (blind_refuse _ _ _ _ _)
  apply blind_counters
  refine (local_store _ _).blind.bool ?_ (blind_refuse _ _ _ _ _)
  refine (local_applyL4Nat64ChecksumDeltaV6ToV4 _ _ _ _ _ _ _ _ _).blind.option
    (blind_refuse _ _ _ _ _) fun csumTrace => ?_
  refine (blind_natInsert _ _).bool ?_ ?_
  · exact blind_counters _ _ (blind_counters _ _ (blind_redirect _ _))
  · exact blind_counters _ _ (blind_counters _ _ (blind_redirect _ _))

theorem blind_tryNat64Forward : TimerBlind tryNat64Forward := by
  unfold tryNat64Forward
  apply blind_counters
  refine (local_loadU16 _).blind.option (blind_pure _) fun etherType => ?_
  dsimp only
  split
  · exact blind_exit _ _ _
  apply blind_counters
  refine (local_parseIpv6Base _).blind.option (blind_pure _) fun ipv6Info => ?_
  apply blind_counters
  apply blind_counters
  apply (local_diag _).blind.bind
  intro _
  apply blind_counters
  apply blind_configGet.bind
  intro cfg
  split
  · exact blind_exit _ _ _
  apply blind_counters
  split
  · exact blind_exit _ _ _
  split
  · exact blind_exit _ _ _
  split
  · split
    · exact blind_forwardTcp _ _ _ _ _
    · exact blind_forwardUdp _ _ _ _
  · exact blind_pure _

theorem blind_reverseTcp (cfg : Nat64Config) (ihlBytes totalLen : Nat) (ipv4Src ipv4Dst : UInt32) :
    TimerBlind (reverseTcp cfg ihlBytes totalLen ipv4Src ipv4Dst) := by
  unfold reverseTcp
  apply blind_counters
  dsimp only
  split
  · exact blind_refuse _ _ _ _ _
  refine (local_tcpPorts _).blind.option (blind_pure _) fun ports => ?_
  refine (blind_natLookup _).option (blind_exit _ _ _) fun natVal => ?_
  apply blind_counters
  split
  · exact blind_exit _ _ _
  apply local_ktimeGetNs.blind.bind
  intro nowNs
  apply (blind_natSetLastSeen _ _).bind
  intro _
  apply blind_counters
  exact (local_revRewrite (local_refuse _ _) (local_refuse _ _) (local_refuse _ _)
    (local_refuse _ _) ((local_withCounters _ _).bind fun _ => local_sendBack)).blind

theorem blind_reverseUdp (cfg : Nat64Config) (ihlBytes totalLen : Nat) (ipv4Src ipv4Dst : UInt32) :
    TimerBlind (reverseUdp cfg ihlBytes totalLen ipv4Src ipv4Dst) := by
  unfold reverseUdp
  apply blind_counters
  have ports : TimerBlind (udpPortsLenReverse (ETH_HDR_LEN + ihlBytes)) :=
    LocalCalls.blind (uses_udpPortsLenCounting (fun _ _ => trivial) trivial _)
  refine ports.option (blind_pure _) fun ports => ?_
  dsimp only
  split
  · exact blind_refuse _ _ _ _ _
  refine (blind_natLookup _).option (blind_exit _ _ _) fun natVal => ?_
  dsimp only
  split
  · exact blind_refuse _ _ _ _ _
  apply local_ktimeGetNs.blind.bind
  intro nowNs
  apply (blind_natSetLastSeen _ _).bind
  intro _
  apply blind_counters
  refine (local_revRewrite (local_refuse _ _) (local_refuse _ _) (local_refuse _ _)
    (local_refuse _ _) ?_).blind
  refine CallTree.Uses.bindOption (local_loadU16 _) (local_pure _) fun incoming => ?_
  dsimp only
  split
  · exact local_refuse _ _
  · exact local_sendBack

theorem blind_tryNat64Reverse : TimerBlind tryNat64Reverse := by
  have octet : ∀ off, TimerBlind (loadU8 off) := fun off =>
    LocalCalls.blind (uses_loadU8 (fun _ _ => trivial) off)
  have word : ∀ off, TimerBlind (loadU32 off) := fun off =>
    LocalCalls.blind (uses_loadU32 (fun _ _ => trivial) off)
  unfold tryNat64Reverse
  apply blind_counters
  refine (local_loadU16 _).blind.option (blind_pure _) fun etherType => ?_
  dsimp only
  split
  · exact blind_exit _ _ _
  apply blind_counters
  refine (octet _).option (blind_pure _) fun vihl => ?_
  dsimp only
  split
  · exact blind_exit _ _ _
  split
  · exact blind_exit _ _ _
  refine (local_loadU16 _).blind.option (blind_pure _) fun totalLenBe => ?_
  dsimp only
  split
  · exact blind_exit _ _ _
  refine (local_loadU16 _).blind.option (blind_pure _) fun fragOffFlagsBe => ?_
  apply blind_counters
  refine (octet _).option (blind_pure _) fun proto => ?_
  refine (word _).option (blind_pure _) fun ipv4SrcBe => ?_
  refine (word _).option (blind_pure _) fun ipv4DstBe => ?_
  apply blind_configGet.bind
  intro cfg
  split
  · exact blind_exit _ _ _
  apply blind_counters
  split
  · exact blind_exit _ _ _
  split
  · exact blind_exit _ _ _
  split
  · exact blind_reverseTcp _ _ _ _ _
  · exact blind_reverseUdp _ _ _ _ _

theorem blind_verdict {p : Ebpf (Except TcAction TcAction)} (hp : TimerBlind p) :
    TimerBlind (do
      match ← p with
      | .ok ret => return ret
      | .error ret => return ret : Ebpf TcAction) := by
  apply hp.bind
  intro r
  cases r with
  | ok ret => exact blind_pure ret
  | error ret => exact blind_pure ret

theorem blind_nat64Forward : TimerBlind nat64Forward := blind_verdict blind_tryNat64Forward

theorem blind_nat64Reverse : TimerBlind nat64Reverse := blind_verdict blind_tryNat64Reverse

end Programs

end Natto64
