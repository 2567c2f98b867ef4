import Natto64.Dataplane
import Natto64.FrameFields

/-!
# Packets that are not redirected

When a packet handed back to the stack is the packet that came in, and when it leaves
no session behind.
-/
namespace Natto64
open Octets

/-- The external tuple the flow of a frame gets. -/
def tupleFor (k : Kernel) (cfg : Nat64Config) (key : FwdNatKey) (extV4 : UInt32) (proto : UInt8)
    (s : Maps) (cpu : CpuMaps) : Option (UInt32 × UInt16) :=
  match s.fwdNat key with
  | some v => some (v.extV4, v.extPort)
  | none =>
      if k.fwdNatInsertOk = true ∧ (cfg.sessionTimeoutSecs = 0 ∨ k.Arms = true) then
        (portFor cfg s.nat cpu extV4 proto).map (extV4, ·)
      else none

theorem MappingCase.tuple {k : Kernel} {cfg : Nat64Config} {key : FwdNatKey} {extV4 : UInt32}
    {proto : UInt8} {nowNs : UInt64} {s s' : Maps} {cpu : CpuMaps}
    {r : Option (UInt32 × UInt16 × UInt32)} {l : Calls}
    (h : MappingCase k cfg key extV4 proto nowNs s cpu r s' l) :
    r.map (fun t => (t.1, t.2.1)) = tupleFor k cfg key extV4 proto s cpu := by
  cases h with
  | hit old => simp only [tupleFor, old, Option.map_some]
  | refused new cause =>
      simp only [tupleFor, new, Option.map_none]
      rcases cause with port | insert | ⟨on, arms, -⟩
      · rw [port, Option.map_none, ite_self]
      · rw [if_neg fun hc => by simp [insert] at hc]
      · rw [if_neg fun hc => hc.2.elim on fun ha => by simp [arms] at ha]
  | stuck new port inserts cause =>
      simp only [tupleFor, new, Option.map_none]
      rw [if_neg fun hc => hc.2.elim cause.1 fun ha => by simp [cause.2.1] at ha]
  | created new port inserts armed =>
      simp only [tupleFor, new, Option.map_some]
      rw [if_pos ⟨inserts, armed⟩, port, Option.map_some]

/-- Everything that follows the lookup of the flow can be done: the frame holds the
checksum field, the checksum helpers answer, and a TCP flow gets its reverse entry. -/
def FwdRewritable (k : Kernel) (skb : List UInt8) (t : UInt32 × UInt16) : Prop :=
  54 + csumFieldOff (u8At skb 20) + 2 ≤ skb.length ∧ fwdCsum k skb t.1 t.2 ≠ none ∧
    (u8At skb 20 = IPPROTO_TCP → k.natInsertOk = true)

/-- An admitted frame whose protocol is changed is rewritten to the end; only a UDP frame
may stop before the change, for want of a tuple. -/
def ForwardPassesIntact (k : Kernel) (m : Machine) : Prop :=
  ∀ extV4, FwdAdmitted (m.maps.config.getD DEFAULT_CFG) m.skb extV4 → k.changeProtoOk = true →
    match tupleFor k (m.maps.config.getD DEFAULT_CFG) (fwdKeyAt m.skb) extV4 (u8At m.skb 20) m.maps
      m.cpu with
    | some t => FwdRewritable k m.skb t
    | none => u8At m.skb 20 = IPPROTO_UDP

/-- The octets that the zero-checksum test finds where the checksum was before the header was
changed: two of the client's address, from octet 2, 6, 10 or 14, for a header of 20, 24, 28 or 32
octets; the client's port for one of 36; two octets of the arrived frame for a longer one. -/
def zeroTested (skb : List UInt8) (v : NatVal) : List UInt8 :=
  if ihlAt skb < 36 then slice v.vmV6.toList (ihlAt skb - 18) 2
  else if ihlAt skb = 36 then beBytes16 v.vmPort
  else slice skb (ihlAt skb) 2

/-- A matched frame whose protocol is changed is rewritten to the end. -/
def ReversePassesIntact (k : Kernel) (m : Machine) : Prop :=
  ∀ v, RevMatched m.maps m.skb v → k.changeProtoOk = true →
    34 + csumFieldOff (u8At m.skb 23) + 2 ≤ m.skb.length ∧ revCsum k m.skb v ≠ none ∧
      (u8At m.skb 23 = IPPROTO_UDP → ofNeBytes16 (zeroTested m.skb v) ≠ 0)

theorem zeroTestAt_eq {skb : List UInt8} {v : NatVal} (ihl : 20 ≤ ihlAt skb)
    (within : 36 ≤ skb.length) : zeroTestAt skb v = ofNeBytes16 (zeroTested skb v) := by
  have heth : (ethHeader skb ETH_P_IPV6).length = 14 := length_ethHeader (by omega) _
  have hhdr : (revHeader skb v).length = 40 := length_revHeader skb v
  have words : ihlAt skb % 4 = 0 := Nat.mul_mod_left ..
  rw [zeroTestAt, zeroTested]
  apply congrArg ofNeBytes16
  by_cases address : ihlAt skb < 36
  · have hdst : slice (revHeader skb v) 24 16 = v.vmV6.toList := ipv6WireHeader_dstV6 _
    have header : slice (revDraft skb v) (14 + (ihlAt skb + 6)) 2 =
        slice (revHeader skb v) (ihlAt skb + 6) 2 := slice_header heth (by omega)
    have off : 24 + (ihlAt skb - 18) = ihlAt skb + 6 := by omega
    rw [if_pos address, Nat.add_assoc, header, ← hdst, slice_slice _ (by omega), off]
  · have off : 14 + ihlAt skb + 6 = 54 + (ihlAt skb - 34) := by omega
    have segment : slice (revDraft skb v) (54 + (ihlAt skb - 34)) 2 =
        slice (overwrite (skb.drop 34) 2 (beBytes16 v.vmPort)) (ihlAt skb - 34) 2 :=
      slice_segment (by rw [heth, hhdr])
    have long : 2 ≤ (skb.drop 34).length := by
      rw [List.length_drop]
      omega
    rw [if_neg address, off, segment]
    by_cases port : ihlAt skb = 36
    · rw [if_pos port, port]
      exact slice_overwrite_self long
    · have rest : 34 + (ihlAt skb - 34) = ihlAt skb := by omega
      have after : 2 + (beBytes16 v.vmPort).length ≤ ihlAt skb - 34 := by
        rw [length_beBytes16]
        omega
      rw [if_neg port, slice_overwrite_of_disjoint long (.inr after), slice_drop, rest]

/-- What a matched datagram's test reads. -/
theorem RevMatched.zeroTestAt_eq {s : Maps} {skb : List UInt8} {v : NatVal}
    (h : RevMatched s skb v) (udp : u8At skb 23 = IPPROTO_UDP) :
    zeroTestAt skb v = ofNeBytes16 (zeroTested skb v) := by
  have ihl := h.admitted.ihl.1
  have present := (h.admitted.udp udp).1
  exact Natto64.zeroTestAt_eq ihl (by omega)

theorem FwdAdmitted.extV4_eq {cfg : Nat64Config} {skb : List UInt8} {a b : UInt32}
    (ha : FwdAdmitted cfg skb a) (hb : FwdAdmitted cfg skb b) : a = b :=
  Option.some.inj (ha.pool.symm.trans hb.pool)

/-- What stops a rewrite, when loads and stores are exact. -/
theorem not_rewritable {k : Kernel} (hk : k.SkbExact) {skb : List UInt8} {t : UInt32 × UInt16}
    (cause : k.Spurious ∨ k.changeProtoOk = false ∨
      skb.length < 54 + csumFieldOff (u8At skb 20) + 2 ∨ fwdCsum k skb t.1 t.2 = none ∨
      (u8At skb 20 = IPPROTO_TCP ∧ k.natInsertOk = false)) :
    k.changeProtoOk = false ∨ ¬ FwdRewritable k skb t := by
  rcases cause with spurious | change | short | chain | ⟨tcp, insert⟩
  · exact absurd spurious hk.not_spurious
  · exact .inl change
  · exact .inr fun h => absurd h.1 (Nat.not_le_of_lt short)
  · exact .inr fun h => h.2.1 chain
  · exact .inr fun h => Bool.false_ne_true (insert.symm.trans (h.2.2 tcp))

theorem forward_intact_iff {k : Kernel} (hk : k.SkbExact) (m : Machine) :
    ((k.exec nat64Forward m).1 = .pipe → (k.exec nat64Forward m).2.skb = m.skb) ↔
      ForwardPassesIntact k m := by
  have h := nat64Forward_case k m
  generalize k.exec nat64Forward m = z at h ⊢
  cases h with
  | passed cause same =>
      refine ⟨fun _ extV4 adm change => ?_, fun _ _ => same.1⟩
      rcases cause with ⟨-, spurious | ⟨-, hc⟩⟩ | refused
      · exact absurd spurious hk.not_spurious
      · rw [hc] at change
        cases change
      · exact absurd adm (refused extV4)
  | @cut m' extV4 admitted tcp change cause length maps log =>
      have short := cause.resolve_left hk.not_spurious
      refine ⟨fun intact => ?_, fun cond => ?_⟩
      · have hlen := congrArg List.length (intact rfl)
        dsimp only at hlen
        omega
      · have hcond := cond extV4 admitted change
        have hoff := six_le_csumFieldOff (u8At m.skb 20)
        split at hcond
        · have hlong := hcond.1
          omega
        · rw [tcp] at hcond
          exact absurd hcond (by decide)
  | @unmapped m' extV4 s l mapped maps skb log =>
      have htuple := mapped.mapping.tuple
      rw [Option.map_none] at htuple
      by_cases tcp : u8At m.skb 20 = IPPROTO_TCP
      · obtain ⟨change, -⟩ := mapped.tcp tcp
        rw [if_pos tcp] at skb
        refine ⟨fun intact => ?_, fun cond => ?_⟩
        · have hlen := congrArg List.length (intact rfl)
          dsimp only at hlen
          omega
        · have hcond := cond extV4 mapped.admitted change
          rw [← htuple] at hcond
          have hudp : u8At m.skb 20 = IPPROTO_UDP := hcond
          rw [tcp] at hudp
          exact absurd hudp (by decide)
      · rw [if_neg tcp] at skb
        refine ⟨fun _ extV4' adm change => ?_, fun _ _ => skb⟩
        obtain rfl := adm.extV4_eq mapped.admitted
        rw [← htuple]
        exact mapped.admitted.proto.resolve_left tcp
  | @dropped m' extV4 t s l mapped maps cause skb log =>
      have htuple := mapped.mapping.tuple
      rw [Option.map_some] at htuple
      have stopped : k.changeProtoOk = false ∨ ¬ FwdRewritable k m.skb (t.1, t.2.1) :=
        not_rewritable hk cause
      cases change : k.changeProtoOk with
      | false =>
          rw [change, if_neg (by decide)] at skb
          refine ⟨fun _ extV4' adm hc => ?_, fun _ _ => skb⟩
          rw [change] at hc
          cases hc
      | true =>
          rw [change, if_pos rfl] at skb
          refine ⟨fun intact => ?_, fun cond => ?_⟩
          · have hlen := congrArg List.length (intact rfl)
            dsimp only at hlen
            omega
          · have hcond := cond extV4 mapped.admitted change
            rw [← htuple] at hcond
            rcases stopped with hc | hc
            · rw [hc] at change
              cases change
            · exact absurd hcond hc
  | @translated m' extV4 t s l csum mapped change within chain skb maps tcp log =>
      have htuple := mapped.mapping.tuple
      rw [Option.map_some] at htuple
      refine ⟨fun _ extV4' adm _ => ?_, fun _ hpipe => absurd hpipe (redirected_ne_pipe _ _)⟩
      obtain rfl := adm.extV4_eq mapped.admitted
      rw [← htuple]
      exact ⟨within, by rw [chain]; exact Option.some_ne_none _, tcp⟩

theorem reverse_intact_iff {k : Kernel} (hk : k.SkbExact) (m : Machine) :
    ((k.exec nat64Reverse m).1 = .pipe → (k.exec nat64Reverse m).2.skb = m.skb) ↔
      ReversePassesIntact k m := by
  have h := nat64Reverse_case k m
  generalize k.exec nat64Reverse m = z at h ⊢
  cases h with
  | passed cause same =>
      have miss := cause.resolve_left fun hc => hk.not_spurious hc.2
      exact ⟨fun _ v mat => absurd mat (miss v), fun _ _ => same.1⟩
  | kept matched change skb maps cpu log =>
      exact ⟨fun _ _ _ hc => absurd (change.symm.trans hc) (by decide), fun _ _ => skb⟩
  | @cut m' v matched change cause length maps cpu =>
      refine ⟨fun intact => ?_, fun cond => ?_⟩
      · have hlen := congrArg List.length (intact rfl)
        dsimp only at hlen
        omega
      · obtain ⟨within, chain, nonzero⟩ := cond v matched change
        rcases cause with ⟨-, spurious | short | hc⟩ | ⟨udp, zero⟩
        · exact absurd spurious hk.not_spurious
        · omega
        · exact absurd hc chain
        · rw [matched.zeroTestAt_eq udp] at zero
          exact absurd zero (nonzero udp)
  | @translated m' v csum matched change within nonzero chain skb maps cpu log =>
      refine ⟨fun _ v' mat _ => ?_, fun _ hpipe => absurd hpipe (redirected_ne_pipe _ _)⟩
      obtain rfl := Option.some.inj (matched.entry.symm.trans mat.entry)
      refine ⟨within, by rw [chain]; exact Option.some_ne_none _, fun udp => ?_⟩
      rw [← matched.zeroTestAt_eq udp]
      exact nonzero udp

/-- Loads and stores being exact, a packet handed back to the stack is the one that came
in exactly when its rewrite, once begun, can be finished. -/
theorem piped_intact_iff (k : Kernel) (hk : k.SkbExact) (m : Machine) :
    (((k.exec nat64Forward m).1 = .pipe → (k.exec nat64Forward m).2.skb = m.skb) ↔
      ForwardPassesIntact k m) ∧
    (((k.exec nat64Reverse m).1 = .pipe → (k.exec nat64Reverse m).2.skb = m.skb) ↔
      ReversePassesIntact k m) :=
  ⟨forward_intact_iff hk m, reverse_intact_iff hk m⟩

theorem piped_intact_iff_truncated :
    (Kernel.ideal 1000 7).SkbExact ∧
      ¬ ForwardPassesIntact (.ideal 1000 7) (exampleSystem.machine 0 (exampleTcp6 4000 4)) := by
  have hk : (Kernel.ideal 1000 7).SkbExact := fun _ => rfl
  refine ⟨hk, fun h => ?_⟩
  have intact := (piped_intact_iff _ hk (exampleSystem.machine 0 (exampleTcp6 4000 4))).1.mpr h
  exact absurd (intact (by decide)) (by decide)

/-- A TCP frame that ends after its ports comes back shortened by twenty octets. -/
theorem truncated_tcp_not_intact :
    ¬ ∀ (k : Kernel) (m : Machine), k.SkbExact →
      ((k.exec nat64Forward m).1 = .pipe → (k.exec nat64Forward m).2.skb = m.skb) ∧
      ((k.exec nat64Reverse m).1 = .pipe → (k.exec nat64Reverse m).2.skb = m.skb) := by
  intro h
  have intact := (h (.ideal 1000 7) (exampleSystem.machine 0 (exampleTcp6 4000 4))
    fun _ => rfl).1
  exact absurd (intact (by decide)) (by decide)

/-- A forward value but for its two activity times. -/
def TimedFwdNatVal.untimed (v : TimedFwdNatVal) : TimedFwdNatVal :=
  { v with lastSeenNs := 0, observedLastSeenNs := 0 }

/-- The same entries in both maps, up to the activity times of forward entries. -/
def SameSessions (s s' : Maps) : Prop :=
  s'.nat = s.nat ∧
    ∀ key, (s'.fwdNat key).map TimedFwdNatVal.untimed = (s.fwdNat key).map TimedFwdNatVal.untimed

/-- A frame that opens a session is rewritten to the end; where the timer of the session
cannot be armed, the entry just inserted can be removed. -/
def ForwardKeepsSessions (k : Kernel) (m : Machine) : Prop :=
  ∀ extV4 extPort, FwdAdmitted (m.maps.config.getD DEFAULT_CFG) m.skb extV4 →
    (u8At m.skb 20 = IPPROTO_TCP → k.changeProtoOk = true ∧ 58 ≤ m.skb.length) →
    m.maps.fwdNat (fwdKeyAt m.skb) = none →
    portFor (m.maps.config.getD DEFAULT_CFG) m.maps.nat m.cpu extV4 (u8At m.skb 20) =
      some extPort →
    k.fwdNatInsertOk = true →
    if (m.maps.config.getD DEFAULT_CFG).sessionTimeoutSecs ≠ 0 ∧ k.Arms = false then
      k.fwdNatRemoveOk = true
    else k.changeProtoOk = true ∧ FwdRewritable k m.skb (extV4, extPort)

theorem SameSessions.refl (s : Maps) : SameSessions s s := ⟨rfl, fun _ => rfl⟩

theorem SameSessions.of_hit {s : Maps} {key : FwdNatKey} {v : TimedFwdNatVal}
    (old : s.fwdNat key = some v) (lastSeenNs observedLastSeenNs : UInt64) :
    SameSessions s (s.setFwdNat key (some { v with lastSeenNs, observedLastSeenNs })) := by
  refine ⟨rfl, fun key' => ?_⟩
  by_cases h : key' = key
  · subst h
    rw [Maps.setFwdNat_self, old]
    rfl
  · rw [Maps.setFwdNat_of_ne _ _ _ h]

/-- A new entry is no old one. -/
theorem not_sameSessions_of_new {s : Maps} {key : FwdNatKey} {v : TimedFwdNatVal}
    (new : s.fwdNat key = none) : ¬ SameSessions s (s.setFwdNat key (some v)) := by
  intro h
  have hkey := h.2 key
  rw [Maps.setFwdNat_self, new] at hkey
  cases hkey

/-- Loads and stores being exact, a forward packet handed back to the stack leaves the
sessions as they were exactly when the session it opens, if any, is completed. -/
theorem piped_keeps_sessions_iff (k : Kernel) (hk : k.SkbExact) (m : Machine) :
    ((k.exec nat64Forward m).1 = .pipe →
        SameSessions m.maps (k.exec nat64Forward m).2.maps) ↔
      ForwardKeepsSessions k m := by
  have h := nat64Forward_case k m
  generalize k.exec nat64Forward m = z at h ⊢
  cases h with
  | passed cause same =>
      refine ⟨fun _ extV4 extPort adm tcp _ _ _ => ?_, fun _ _ => same.2.1 ▸ SameSessions.refl _⟩
      rcases cause with ⟨-, spurious | ⟨htcp, hc⟩⟩ | refused
      · exact absurd spurious hk.not_spurious
      · rw [(tcp htcp).1] at hc
        cases hc
      · exact absurd adm (refused extV4)
  | @cut m' extV4 admitted tcp change cause length maps log =>
      have short := cause.resolve_left hk.not_spurious
      refine ⟨fun _ _ _ _ htcp _ _ _ => absurd (htcp tcp).2 (Nat.not_le_of_lt short), fun _ _ => ?_⟩
      exact maps.1 ▸ SameSessions.refl _
  | @unmapped m' extV4 s l mapped maps skb log =>
      dsimp only
      rw [maps]
      have hmap := mapped.mapping
      cases hmap with
      | refused new cause =>
          refine ⟨fun _ extV4' extPort adm _ _ port inserts => ?_, fun _ _ => SameSessions.refl _⟩
          obtain rfl := adm.extV4_eq mapped.admitted
          rcases cause with none | insert | ⟨on, arms, removes⟩
          · rw [none] at port
            cases port
          · rw [insert] at inserts
            cases inserts
          · rw [if_pos ⟨on, arms⟩]
            exact removes
      | stuck new port inserts cause after =>
          refine ⟨fun same => absurd (same rfl) (not_sameSessions_of_new new), fun cond => ?_⟩
          have hcond := cond extV4 _ mapped.admitted mapped.tcp new port inserts
          rw [if_pos ⟨cause.1, cause.2.1⟩, cause.2.2] at hcond
          cases hcond
  | @dropped m' extV4 t s l mapped maps cause skb log =>
      have stopped : k.changeProtoOk = false ∨ ¬ FwdRewritable k m.skb (t.1, t.2.1) :=
        not_rewritable hk cause
      dsimp only
      rw [maps]
      have hmap := mapped.mapping
      cases hmap with
      | hit old =>
          refine ⟨fun _ _ _ _ _ new => ?_, fun _ _ => SameSessions.of_hit old _ _⟩
          rw [old] at new
          cases new
      | created new port inserts armed after =>
          refine ⟨fun same => absurd (same rfl) (not_sameSessions_of_new new), fun cond => ?_⟩
          have hcond := cond extV4 _ mapped.admitted mapped.tcp new port inserts
          rw [if_neg fun hc => armed.elim hc.1 fun ha => by simp [hc.2] at ha] at hcond
          rcases stopped with hc | hc
          · exact absurd (hc.symm.trans hcond.1) (by decide)
          · exact absurd hcond.2 hc
  | @translated m' extV4 t s l csum mapped change within chain skb maps tcp log =>
      refine ⟨fun _ extV4' extPort adm _ new port _ => ?_,
        fun _ hpipe => absurd hpipe (redirected_ne_pipe _ _)⟩
      obtain rfl := adm.extV4_eq mapped.admitted
      have hmap := mapped.mapping
      cases hmap with
      | hit old =>
          rw [old] at new
          cases new
      | created _ port' inserts armed after =>
          obtain rfl := Option.some.inj (port'.symm.trans port)
          rw [if_neg fun hc => armed.elim hc.1 fun ha => by simp [hc.2] at ha]
          exact ⟨change, within, by rw [chain]; exact Option.some_ne_none _, tcp⟩

theorem piped_keeps_sessions_iff_truncated :
    (Kernel.ideal 1000 7).SkbExact ∧
      ¬ ForwardKeepsSessions (.ideal 1000 7) (exampleSystem.machine 0 (exampleTcp6 4000 4)) := by
  have hk : (Kernel.ideal 1000 7).SkbExact := fun _ => rfl
  refine ⟨hk, fun h => ?_⟩
  have same := (piped_keeps_sessions_iff _ hk (exampleSystem.machine 0 (exampleTcp6 4000 4))).mpr h
    (by decide)
  exact absurd (same.2 (fwdKeyAt (exampleTcp6 4000 4))) (by decide)

/-- A TCP frame that ends after its ports is handed back, and its session stays. -/
theorem truncated_tcp_leaves_session :
    ¬ ∀ (k : Kernel) (m : Machine), k.SkbExact → (k.exec nat64Forward m).1 = .pipe →
      SameSessions m.maps (k.exec nat64Forward m).2.maps := by
  intro h
  have same := h (.ideal 1000 7) (exampleSystem.machine 0 (exampleTcp6 4000 4)) (fun _ => rfl)
    (by decide)
  exact absurd (same.2 (fwdKeyAt (exampleTcp6 4000 4))) (by decide)

end Natto64
