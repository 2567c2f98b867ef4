import Natto64.ForwardProtocol

/-!
# The forward classifier keeps the protocol

`nat64_forward` makes only the calls of its stage, whatever the maps hold when it makes
them, and a packet that is redirected has stored its reverse entry.
-/
namespace Natto64
open Octets

section Mapping
variable {k : Kernel} {cfg : Nat64Config} {key : FwdNatKey} {extV4 : UInt32}

/-- The frame is untouched, and a port that is returned had no reverse entry. -/
def AllocPost (skb : List UInt8) (extV4 : UInt32) (proto : UInt8) (r : Option UInt16)
    (l : PacketState) : Prop :=
  l.skb = skb ∧ l.stage = r.elim .missed fun port => .probed (natKey extV4 port proto)

/-- The port is found: it cools down and is returned. -/
theorem safe_coolPort {skb : List UInt8} {port : UInt16} (v : Invocation) (hskb : v.skb = skb) :
    ForwardSafe k cfg key (AllocPost skb extV4 key.proto) (do
      match (← portCooldown) with
      | some ring =>
          setPortCooldown (cooldownPush ring port)
          withCounters [] [.cooldownPushOk]
      | none => withCounters [] [.cooldownPushErr]
      return some port) ⟨v, .probed (natKey extV4 port key.proto)⟩ := by
  refine safe_local local_portCooldown noMaps ?_
  obtain ⟨skb', ⟨cursor, ring⟩, log⟩ := v
  cases ring with
  | none => exact safe_local_end (local_perform trivial) noMaps ⟨hskb, rfl⟩
  | some ring =>
    exact safe_local_end ⟨trivial, fun _ => ⟨trivial, fun _ => trivial⟩⟩ noMaps ⟨hskb, rfl⟩

theorem safe_allocPortLoop (pool : selectV4FromPoolEbpf key.vmV6 cfg = some extV4) (span : UInt32)
    (n : Nat) (cursor : UInt32) (hadCooldownSkip : Bool) {skb : List UInt8} (v : Invocation)
    (hskb : v.skb = skb) :
    ForwardSafe k cfg key (AllocPost skb extV4 key.proto)
      (allocPortLoop cfg extV4 key.proto span n cursor hadCooldownSkip) ⟨v, .missed⟩ := by
  induction n generalizing cursor hadCooldownSkip v with
  | zero =>
    exact safe_local_end ⟨trivial, fun _ => ⟨trivial, fun _ => trivial⟩⟩ noMaps ⟨hskb, rfl⟩
  | succ n ih =>
    unfold allocPortLoop
    refine safe_withCounters ?_
    refine safe_local (local_setPortCursor _) noMaps ?_
    split
    · exact ih _ _ _ hskb
    refine safe_local local_portCooldown noMaps ?_
    split
    · exact safe_withCounters (ih _ _ _ hskb)
    refine safe_natLookup pool (fun b => ?_) ?_
    · exact safe_withCounters (ih _ _ _ hskb)
    · cases hadCooldownSkip with
      | false => exact safe_coolPort _ hskb
      | true => exact safe_withCounters (safe_coolPort _ hskb)

theorem safe_allocPort (pool : selectV4FromPoolEbpf key.vmV6 cfg = some extV4)
    {skb : List UInt8} (v : Invocation) (hskb : v.skb = skb) :
    ForwardSafe k cfg key (AllocPost skb extV4 key.proto) (allocPort cfg extV4 key.proto)
      ⟨v, .missed⟩ := by
  unfold allocPort
  split
  · exact safe_local_end (local_pure none) noMaps ⟨hskb, rfl⟩
  refine safe_local local_portCursor noMaps ?_
  obtain ⟨skb', ⟨cursor, ring⟩, log⟩ := v
  cases cursor with
  | none => exact safe_local_end (local_pure none) noMaps ⟨hskb, rfl⟩
  | some cursor => exact safe_allocPortLoop pool _ 16 cursor false _ hskb

theorem safe_armSessionTimer {t : NatKey} {generation : UInt32} (arms : k.Arms = true)
    (v : Invocation) :
    ForwardSafe k cfg key
      (fun armed l => armed = true ∧ l.skb = v.skb ∧ l.stage = .reserved t generation)
      (armSessionTimer key) ⟨v, .reserved t generation⟩ := by
  simp only [Kernel.Arms, Bool.and_eq_true] at arms
  obtain ⟨⟨init, callback⟩, start⟩ := arms
  unfold armSessionTimer
  refine safe_fwdNatLookup_reserved fun w => ?_
  refine safe_local (local_timerInit key) noMaps ?_
  rw [exec_timerInit, init]
  dsimp only
  rw [if_neg (by decide)]
  refine safe_local (local_timerSetCallback key) noMaps ?_
  rw [exec_timerSetCallback, callback]
  dsimp only
  rw [if_neg (by decide)]
  refine safe_configGet fun c _ => ?_
  rw [timerRearm, ← bind_pure (bpfTimerStart _ _)]
  exact safe_timerStart start fun v' hskb => ⟨rfl, hskb, rfl⟩

/-- An external tuple that is returned is the one of the forward entry. -/
def MappingPost (skb : List UInt8) (proto : UInt8) (r : Option (UInt32 × UInt16 × UInt32))
    (l : PacketState) : Prop :=
  l.skb = skb ∧ match r with
    | none => ∀ t generation, l.stage ≠ .reserved t generation
    | some (extV4, extPort, generation) =>
        l.stage = .found (natKey extV4 extPort proto) generation ∨
          l.stage = .reserved (natKey extV4 extPort proto) generation

theorem safe_lookupOrCreateMapping {proto : UInt8} (hproto : key.proto = proto)
    (arms : k.Arms = true) (pool : selectV4FromPoolEbpf key.vmV6 cfg = some extV4) (nowNs : UInt64)
    (v : Invocation) :
    ForwardSafe k cfg key (MappingPost v.skb proto)
      (lookupOrCreateMapping cfg key extV4 proto nowNs) ⟨v, .start⟩ := by
  subst hproto
  unfold lookupOrCreateMapping
  refine safe_fwdNatLookup ?_ fun w => ?_
  swap
  · refine safe_fwdNatSet ?_
    exact safe_withCounters ⟨rfl, .inl rfl⟩
  refine safe_withCounters ?_
  refine (safe_allocPort pool v rfl).bind ?_
  rintro port ⟨v', stage⟩ ⟨hskb, hstage⟩
  cases port with
  | none =>
    obtain rfl : stage = .missed := hstage
    exact safe_withCounters ⟨hskb, fun _ _ h => by cases h⟩
  | some port =>
    obtain rfl : stage = .probed (natKey extV4 port key.proto) := hstage
    refine safe_withCounters ?_
    refine safe_local local_getPrandomU32 noMaps ?_
    refine safe_fwdNatInsert (w := TimedFwdNatVal.new extV4 port k.prandom nowNs)
      (fun v₁ hskb₁ => ?_) (fun v₁ hskb₁ => ?_)
    swap
    · exact safe_withCounters ⟨hskb₁.trans hskb, fun _ _ h => by cases h⟩
    have finish : ∀ l : PacketState, l.skb = v₁.skb →
        l.stage = .reserved (natKey extV4 port key.proto) k.prandom →
        ForwardSafe k cfg key (MappingPost v.skb key.proto) (do
          withCounters [.fwdNatInsertOk] []
          return some (extV4, port, k.prandom)) l := by
      rintro ⟨v₂, stage⟩ hskb₂ rfl
      exact safe_withCounters ⟨hskb₂.trans (hskb₁.trans hskb), .inr rfl⟩
    rw [if_neg (by decide)]
    split
    · refine (safe_armSessionTimer arms v₁).bind ?_
      rintro armed l ⟨rfl, hskb₂, hstage⟩
      exact finish l hskb₂ hstage
    · exact finish _ rfl rfl

end Mapping

section Packet
variable {k : Kernel} {cfg : Nat64Config} {key : FwdNatKey}

/-- What is left of a program where its local part stopped. -/
def Continues {α β : Type} (k : Kernel) (cfg : Nat64Config) (key : FwdNatKey)
    (post : β → PacketState → Prop) (stage : Stage) (q : α → Ebpf β) (z : α × Machine) : Prop :=
  ForwardSafe k cfg key post (q z.1) ⟨z.2.invocation, stage⟩

/-- The rules for a single run apply to the local parts. -/
theorem safe_rule {α β : Type} {post : β → PacketState → Prop} {stage : Stage} {p : Ebpf α}
    (hp : LocalCalls p) {q : α → Ebpf β} {m : Machine}
    (h : Continues k cfg key post stage q (k.exec (p >>= pure) m)) :
    ForwardSafe k cfg key post (p >>= q) ⟨m.invocation, stage⟩ := by
  rw [bind_pure] at h
  exact safe_local hp m.maps h

/-- Every frame of the length of `skb` is translated to the end. -/
structure Translates (k : Kernel) (skb : List UInt8) : Prop where
  exact : ¬ k.Spurious
  change : k.changeProtoOk = true
  within : 54 + csumFieldOff (u8At skb 20) + 2 ≤ skb.length
  chain : ∀ extV4 extPort, fwdCsum k skb extV4 extPort ≠ none

/-- With documented answers, a frame is only too short. -/
theorem translates_ideal (now : UInt64) (prandom : UInt32) {skb : List UInt8}
    (within : 54 + csumFieldOff (u8At skb 20) + 2 ≤ skb.length) :
    Translates (.ideal now prandom) skb :=
  ⟨fun ⟨_, h⟩ => Bool.false_ne_true h, rfl, within, fwdCsum_ideal now prandom skb⟩

/-- No update of its checksum fails. -/
theorem Translates.not_cause {skb : List UInt8} (h : Translates k skb) {extV4 : UInt32}
    {extPort : UInt16} : ¬ (k.Spurious ∨ skb.length < 54 + csumFieldOff (u8At skb 20) + 2 ∨
      fwdCsum k skb extV4 extPort = none) := by
  rintro (spurious | short | none)
  · exact h.exact spurious
  · exact absurd h.within (Nat.not_le_of_lt short)
  · exact h.chain _ _ none

/-- A redirected packet stored its reverse entry and carries its external tuple. One that
is translated does not leave a forward entry alone. -/
def ForwardPost (k : Kernel) (skb : List UInt8) (r : Except TcAction TcAction)
    (l : PacketState) : Prop :=
  (verdict r = .redirect → ∃ generation, l.stage = .stored (natKey (ipv4TupleAt l.skb).src
    (ipv4TupleAt l.skb).sport (u8At skb 20)) generation) ∧
  (Translates k skb → ∀ t generation, l.stage ≠ .reserved t generation)

theorem forwardPost_pipe {skb : List UInt8} {l : PacketState}
    (h : Translates k skb → ∀ t generation, l.stage ≠ .reserved t generation) :
    ForwardPost k skb (.ok .pipe) l := ⟨fun hr => (by cases hr), h⟩

theorem forwardPost_stored {skb : List UInt8} {extV4 : UInt32} {extPort csum : UInt16}
    {generation : UInt32} {l : PacketState} (r : Except TcAction TcAction)
    (within : 54 + csumFieldOff (u8At skb 20) + 2 ≤ skb.length)
    (hskb : l.skb = fwdFrame skb extV4 extPort csum)
    (hstage : l.stage = .stored (natKey extV4 extPort (u8At skb 20)) generation) :
    ForwardPost k skb r l := by
  refine ⟨fun _ => ⟨generation, ?_⟩, fun _ t g h => ?_⟩
  · rw [hstage, hskb, fwdFrame_tuple within]
  · rw [hstage] at h
    cases h

/-- The packet ends with its reverse entry stored. -/
theorem safe_redirect {skb : List UInt8} {extV4 : UInt32} {extPort csum : UInt16}
    {generation : UInt32} (ifindex : UInt32) {m : Machine}
    (within : 54 + csumFieldOff (u8At skb 20) + 2 ≤ skb.length)
    (hskb : m.skb = fwdFrame skb extV4 extPort csum) :
    ForwardSafe k cfg key (ForwardPost k skb)
      (do return .ok (← redirectToIface ifindex true))
      ⟨m.invocation, .stored (natKey extV4 extPort (u8At skb 20)) generation⟩ := by
  refine safe_local_end ((local_redirectToIface ifindex true).bind fun _ => local_pure _) m.maps ?_
  have hlast : (k.exec (do return (.ok (← redirectToIface ifindex true) : Except TcAction TcAction))
      m).2.skb = m.skb := by
    rw [exec_bind, exec_pure, exec_redirectToIface]
    split <;> rfl
  exact forwardPost_stored _ within (hlast.trans hskb) rfl

theorem continues_pure {α β : Type} {post : β → PacketState → Prop} {stage : Stage} (a : α)
    {q : α → Ebpf β} (m : Machine) : Continues k cfg key post stage q (k.exec (pure a) m) =
      ForwardSafe k cfg key post (q a) ⟨m.invocation, stage⟩ := rfl

theorem safe_forwardTcp {skb : List UInt8} {extV4 : UInt32} (arms : k.Arms = true)
    (inserts : k.natInsertOk = true) (base : 54 ≤ skb.length) (tcp : u8At skb 20 = IPPROTO_TCP)
    (pool : selectV4FromPoolEbpf (v6At skb 22) cfg = some extV4) {m : Machine}
    (hskb : m.skb = skb) :
    ForwardSafe k cfg (fwdKeyAt skb) (ForwardPost k skb)
      (forwardTcp cfg (ipv6InfoAt 14 skb) (nat64EmbeddedV4Bytes (v6At skb 38))
        (nat64EmbeddedV4Be (v6At skb 38)) extV4) ⟨m.invocation, .start⟩ := by
  have hsrc : (ipv6InfoAt 14 skb).src = v6At skb 22 := rfl
  have hdst : (ipv6InfoAt 14 skb).dst = v6At skb 38 := rfl
  have hlen : (ipv6InfoAt 14 skb).payloadLen = fwdL4LenAt skb := by
    rw [fwdL4LenAt, if_pos tcp]
    rfl
  have hoff : ETH_HDR_LEN + IPV4_HDR_LEN = 34 := rfl
  have atStart : Translates k skb → ∀ t generation, Stage.start ≠ .reserved t generation :=
    fun _ _ _ h => by cases h
  unfold forwardTcp
  refine safe_withCounters ?_
  simp only [hsrc, hdst, hlen, hoff]
  by_cases hmax : MAX_L4_LEN < (fwdL4LenAt skb).toNat
  · rw [if_pos hmax]
    exact safe_withCounters (forwardPost_pipe atStart)
  have lenMax := Nat.le_of_not_lt hmax
  rw [if_neg hmax]
  have hchange := changeProtoSkb_ip k.room (show 34 ≤ m.skb.length by rw [hskb]; omega)
  refine safe_rule (local_changeProto _) (changeProto_rule hchange (fun m₁ _ hskb₁ _ _ => ?_)
    (fun m₁ _ _ _ => ?_))
  swap
  · exact safe_withCounters (forwardPost_pipe atStart)
  rw [hskb] at hskb₁
  rw [continues_pure, if_neg (by decide)]
  refine safe_withCounters ?_
  refine safe_rule (local_store _ _) (etherType_rule base hskb₁ (fun m₂ hskb₂ _ _ => ?_)
    (fun m₂ _ _ _ => ?_))
  swap
  · exact safe_withCounters (forwardPost_pipe atStart)
  have he : (ethHeader skb ETH_P_IP).length = 14 := length_ethHeader (by omega) _
  rw [continues_pure, if_neg (by decide)]
  refine safe_rule (local_tcpPorts _) ((reads_tcpPorts 34).rule (fun m₃ _ same₃ within => ?_)
    (fun m₃ _ _ _ => ?_))
  swap
  · exact safe_withCounters (forwardPost_pipe atStart)
  rw [continues_pure]
  dsimp only
  have proto : (fwdKeyAt skb).proto = IPPROTO_TCP := tcp
  have client : selectV4FromPoolEbpf (fwdKeyAt skb).vmV6 cfg = some extV4 := pool
  refine safe_local local_ktimeGetNs m₃.maps ?_
  rw [fwdKeyAt_tcp (by omega) tcp hskb₂]
  refine (safe_lookupOrCreateMapping proto arms client _ _).bind ?_
  rintro r ⟨v₄, stage⟩ ⟨hskb₄, hstage⟩
  obtain ⟨m₄, rfl⟩ : ∃ m : Machine, m.invocation = v₄ := ⟨v₄.machine noMaps, rfl⟩
  have hskb₄ : m₄.skb = m₃.skb := hskb₄
  rcases r with _ | ⟨ext, port, gen⟩
  · exact safe_withCounters (forwardPost_pipe fun _ => hstage)
  have base₂ : 58 ≤ skb.length := by
    rw [hskb₂, List.length_append, he, List.length_drop] at within
    omega
  have hskb₄ : m₄.skb = ethHeader skb ETH_P_IP ++ skb.drop 34 := by rw [hskb₄, same₃.1, hskb₂]
  refine safe_rule (local_writeIpv4Header _ _ _ _) (fwdHeader_rule base lenMax tcp hskb₄
    (fun m₅ hskb₅ _ _ => ?_) (fun m₅ cause _ _ => ?_))
  swap
  · exact safe_withCounters (forwardPost_pipe fun complete => absurd cause complete.exact)
  rw [continues_pure, if_neg (by decide)]
  refine safe_withCounters ?_
  refine safe_rule (local_store _ _) (fwdPort_rule (by omega) hskb₅ (fun m₆ hskb₆ _ _ => ?_)
    (fun m₆ cause _ _ => ?_))
  swap
  · exact safe_withCounters (forwardPost_pipe fun complete => absurd cause complete.exact)
  rw [continues_pure, if_neg (by decide)]
  refine safe_withCounters ?_
  rw [applyV6ToV4_tcp (by omega) tcp hskb₂]
  refine safe_rule (local_applyL4Nat64ChecksumDeltaV6ToV4 _ _ _ _ _ _ _ _ _) (fwdChecksum_rule
    (by omega) hskb₆ (fun trace m₇ csum _ within hskb₇ _ _ => ?_) (fun m₇ cause _ _ _ => ?_))
  swap
  · exact safe_withCounters (forwardPost_pipe fun complete => absurd cause complete.not_cause)
  rw [continues_pure]
  dsimp only
  rw [newForward_tcp (by omega) hskb₂]
  refine safe_natInsert rfl hstage inserts fun v₈ hskb₈ => ?_
  obtain ⟨m₈, rfl⟩ : ∃ m : Machine, m.invocation = v₈ := ⟨v₈.machine noMaps, rfl⟩
  have hskb₈ : m₈.skb = fwdFrame skb ext port csum := hskb₈.trans hskb₇
  rw [if_neg (by decide)]
  refine safe_withCounters (safe_local (local_diag _) m₈.maps (safe_withCounters ?_))
  rw [← tcp]
  refine safe_rule (local_loadU16 _) ((Reads.loadU16 _).rule (fun m₉ _ same₉ _ => ?_)
    (fun m₉ _ same₉ _ => ?_))
  · rw [continues_pure]
    exact safe_local (local_diag _) m₉.maps (safe_redirect _ within (same₉.1.trans hskb₈))
  · rw [continues_pure]
    exact safe_local (local_diag _) m₉.maps (safe_redirect _ within (same₉.1.trans hskb₈))

theorem safe_forwardUdp {skb : List UInt8} {extV4 : UInt32} (arms : k.Arms = true)
    (inserts : k.natInsertOk = true) (base : 54 ≤ skb.length) (udp : u8At skb 20 = IPPROTO_UDP)
    (pool : selectV4FromPoolEbpf (v6At skb 22) cfg = some extV4) {m : Machine}
    (hskb : m.skb = skb) :
    ForwardSafe k cfg (fwdKeyAt skb) (ForwardPost k skb)
      (forwardUdp cfg (ipv6InfoAt 14 skb) (nat64EmbeddedV4Be (v6At skb 38)) extV4)
      ⟨m.invocation, .start⟩ := by
  have hsrc : (ipv6InfoAt 14 skb).src = v6At skb 22 := rfl
  have hdst : (ipv6InfoAt 14 skb).dst = v6At skb 38 := rfl
  have hl4 : (ipv6InfoAt 14 skb).l4AbsOffset = 54 := rfl
  have hlen : fwdL4LenAt skb = be16At skb 58 := if_neg (by rw [udp]; decide)
  have hoff : ETH_HDR_LEN + IPV4_HDR_LEN = 34 := rfl
  have atStart : Translates k skb → ∀ t generation, Stage.start ≠ .reserved t generation :=
    fun _ _ _ h => by cases h
  unfold forwardUdp
  refine safe_withCounters ?_
  simp only [hsrc, hdst, hl4, hoff]
  refine safe_rule (local_udpPortsLen _) ((reads_udpPortsLenCounting _ 54).rule
    (fun m₁ _ same₁ within => ?_) (fun m₁ _ _ _ => forwardPost_pipe atStart))
  rw [hskb] at within ⊢
  rw [continues_pure]
  dsimp only
  rw [← hlen]
  by_cases hmin : (fwdL4LenAt skb).toNat < UDP_HDR_LEN
  · rw [if_pos hmin]
    exact safe_withCounters (safe_withCounters (forwardPost_pipe atStart))
  by_cases hmax : MAX_L4_LEN < (fwdL4LenAt skb).toNat
  · rw [if_neg hmin, if_pos hmax]
    exact safe_withCounters (safe_withCounters (forwardPost_pipe atStart))
  have lenMax := Nat.le_of_not_lt hmax
  have hkey : fwdNatKey (v6At skb 22) (nat64EmbeddedV4Be (v6At skb 38)) (be16At skb 54)
      (be16At skb (54 + 2)) IPPROTO_UDP = fwdKeyAt skb := by
    rw [fwdKeyAt, udp]
  have proto : (fwdKeyAt skb).proto = IPPROTO_UDP := udp
  have client : selectV4FromPoolEbpf (fwdKeyAt skb).vmV6 cfg = some extV4 := pool
  rw [if_neg hmin, if_neg hmax]
  refine safe_local local_ktimeGetNs m₁.maps ?_
  rw [hkey]
  refine (safe_lookupOrCreateMapping proto arms client _ _).bind ?_
  rintro r ⟨v₂, stage⟩ ⟨hskb₂, hstage⟩
  obtain ⟨m₂, rfl⟩ : ∃ m : Machine, m.invocation = v₂ := ⟨v₂.machine noMaps, rfl⟩
  have hskb₂ : m₂.skb = skb := hskb₂.trans (same₁.1.trans hskb)
  rcases r with _ | ⟨ext, port, gen⟩
  · exact safe_withCounters (forwardPost_pipe fun _ => hstage)
  have hchange := changeProtoSkb_ip k.room (show 34 ≤ m₂.skb.length by rw [hskb₂]; omega)
  refine safe_rule (local_changeProto _) (changeProto_rule hchange (fun m₃ _ hskb₃ _ _ => ?_)
    (fun m₃ change _ _ => ?_))
  swap
  · exact safe_withCounters (safe_withCounters (forwardPost_pipe fun complete =>
      absurd (change.symm.trans complete.change) (by decide)))
  rw [hskb₂] at hskb₃
  rw [continues_pure, if_neg (by decide)]
  refine safe_withCounters ?_
  refine safe_rule (local_store _ _) (etherType_rule base hskb₃ (fun m₄ hskb₄ _ _ => ?_)
    (fun m₄ cause _ _ => ?_))
  swap
  · exact safe_withCounters (safe_withCounters (forwardPost_pipe fun complete =>
      absurd cause complete.exact))
  rw [continues_pure, if_neg (by decide)]
  refine safe_rule (local_writeIpv4Header _ _ _ _) (fwdHeader_rule base lenMax udp hskb₄
    (fun m₅ hskb₅ _ _ => ?_) (fun m₅ cause _ _ => ?_))
  swap
  · exact safe_withCounters (safe_withCounters (forwardPost_pipe fun complete =>
      absurd cause complete.exact))
  rw [continues_pure, if_neg (by decide)]
  refine safe_withCounters ?_
  refine safe_rule (local_store _ _) (fwdPort_rule (by omega) hskb₅ (fun m₆ hskb₆ _ _ => ?_)
    (fun m₆ cause _ _ => ?_))
  swap
  · exact safe_withCounters (safe_withCounters (forwardPost_pipe fun complete =>
      absurd cause complete.exact))
  have hcsum : applyL4Nat64ChecksumDeltaV6ToV4 (34 + 6) (fwdL4LenAt skb) IPPROTO_UDP
      (v6At skb 22) (v6At skb 38) ext (nat64EmbeddedV4Be (v6At skb 38))
      (some (be16At skb 54, port)) true =
    applyL4Nat64ChecksumDeltaV6ToV4 (34 + csumFieldOff (u8At skb 20)) (fwdL4LenAt skb)
      (u8At skb 20) (v6At skb 22) (v6At skb 38) ext (nat64EmbeddedV4Be (v6At skb 38))
      (some (be16At skb 54, port)) (u8At skb 20 == IPPROTO_UDP) := by
    rw [udp]
    rfl
  rw [continues_pure, if_neg (by decide), hcsum]
  refine safe_rule (local_applyL4Nat64ChecksumDeltaV6ToV4 _ _ _ _ _ _ _ _ _) (fwdChecksum_rule
    (by omega) hskb₆ (fun trace m₇ csum _ within hskb₇ _ _ => ?_) (fun m₇ cause _ _ _ => ?_))
  swap
  · exact safe_withCounters (safe_withCounters (forwardPost_pipe fun complete =>
      absurd cause complete.not_cause))
  rw [continues_pure]
  dsimp only
  refine safe_natInsert ?_ hstage inserts fun v₈ hskb₈ => ?_
  · rfl
  obtain ⟨m₈, rfl⟩ : ∃ m : Machine, m.invocation = v₈ := ⟨v₈.machine noMaps, rfl⟩
  have hskb₈ : m₈.skb = fwdFrame skb ext port csum := hskb₈.trans hskb₇
  rw [if_pos rfl, ← udp]
  exact safe_withCounters (safe_withCounters (safe_redirect _ within hskb₈))

theorem safe_tryNat64Forward (arms : k.Arms = true) (inserts : k.natInsertOk = true) (m : Machine) :
    ForwardSafe k cfg (fwdKeyAt m.skb) (ForwardPost k m.skb) tryNat64Forward
      ⟨m.invocation, .start⟩ := by
  have refuse : ∀ v, ForwardPost k m.skb (.ok .pipe) ⟨v, .start⟩ :=
    fun v => forwardPost_pipe fun _ _ _ h => by cases h
  unfold tryNat64Forward
  refine safe_withCounters ?_
  refine safe_rule (local_loadU16 12) ((Reads.loadU16 12).rule (fun m₁ _ same₁ within => ?_)
    (fun m₁ _ _ _ => refuse _))
  rw [continues_pure]
  dsimp only
  rw [swap16_loaded within]
  by_cases etherType : be16At m.skb 12 = ETH_P_IPV6
  swap
  · rw [if_pos etherType]
    exact safe_withCounters (refuse _)
  rw [if_neg (not_not.mpr etherType)]
  refine safe_withCounters ?_
  refine safe_rule (local_parseIpv6Base _) ((reads_parseIpv6Base ETH_HDR_LEN).rule
    (fun m₂ _ same₂ base => ?_) (fun m₂ _ _ _ => refuse _))
  rw [same₁.1] at base ⊢
  have hskb₂ : m₂.skb = m.skb := same₂.1.trans same₁.1
  have base : 54 ≤ m.skb.length := base
  have hdst : (ipv6InfoAt ETH_HDR_LEN m.skb).dst = v6At m.skb 38 := rfl
  have hnext : (ipv6InfoAt ETH_HDR_LEN m.skb).nextHeader = u8At m.skb 20 := rfl
  have hsrc : (ipv6InfoAt ETH_HDR_LEN m.skb).src = v6At m.skb 22 := rfl
  rw [continues_pure]
  dsimp only
  rw [hdst, hnext, hsrc]
  refine safe_withCounters (safe_withCounters (safe_local (local_diag _) m₂.maps
    (safe_withCounters (safe_configGet fun c config => ?_))))
  rw [config]
  by_cases prefix96 : (v6At m.skb 38).toList.take 12 = cfg.prefix96.toList
  swap
  · rw [if_pos prefix96]
    exact safe_withCounters (refuse _)
  rw [if_neg (not_not.mpr prefix96)]
  refine safe_withCounters ?_
  by_cases extension : isExtensionHeader (u8At m.skb 20) = true
  · rw [if_pos extension]
    exact safe_withCounters (refuse _)
  rw [if_neg extension]
  by_cases other : u8At m.skb 20 ≠ IPPROTO_TCP ∧ u8At m.skb 20 ≠ IPPROTO_UDP
  · rw [if_pos other]
    exact safe_withCounters (refuse _)
  rw [if_neg other]
  cases pool : selectV4FromPoolEbpf (v6At m.skb 22) cfg with
  | none => exact refuse _
  | some extV4 =>
    dsimp only
    by_cases tcp : u8At m.skb 20 = IPPROTO_TCP
    · rw [if_pos tcp]
      exact safe_forwardTcp arms inserts base tcp pool hskb₂
    · have udp : u8At m.skb 20 = IPPROTO_UDP := not_not.mp fun udp => other ⟨tcp, udp⟩
      rw [if_neg tcp]
      exact safe_forwardUdp arms inserts base udp pool hskb₂

/-- Whatever other invocations do to the maps between its calls. -/
theorem safe_nat64Forward (arms : k.Arms = true) (inserts : k.natInsertOk = true)
    (v : Invocation) :
    ForwardSafe k cfg (fwdKeyAt v.skb) (fun a => ForwardPost k v.skb (.ok a)) nat64Forward
      ⟨v, .start⟩ := by
  refine (safe_tryNat64Forward arms inserts (v.machine noMaps)).bind ?_
  intro r l h
  cases r with
  | ok ret => exact h
  | error ret => exact h

end Packet

end Natto64
