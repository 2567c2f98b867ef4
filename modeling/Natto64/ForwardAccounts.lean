import Natto64.SessionAccounts

/-!
# Accounts of a forward packet

Every way through `nat64_forward`, with what it counts: it keeps the balances, and has
its outcome counted unless the frame is cut short.
-/
namespace Natto64
open Octets

section Forward
variable {k : Kernel} {inBounds : Prop}

/-- What a packet to the prefix has counted before its protocol is told. -/
def prefixTally : List Counter :=
  counted [.pktsTotal] [.dbgFwdEnter] ++ counted [.pktsNat64Dst] [.dbgFwdNat64PrefixMatch]

theorem forwardTcp_accounts (cfg : Nat64Config) (info : Ipv6Info) (remoteV4Bytes : List UInt8)
    (remoteV4 extV4 : UInt32) (m : Machine) :
    Accounts k inBounds (forwardTcp cfg info remoteV4Bytes remoteV4 extV4) m prefixTally
      Closed := by
  unfold forwardTcp
  refine Accounts.withCounters ?_
  dsimp only
  split
  · exact closed_exit _
  refine Accounts.bool ⟨trivial, fun _ => trivial⟩ (fun _ => ?_) fun m₁ => closed_exit _
  refine Accounts.withCounters ?_
  refine Accounts.bool ⟨trivial, fun _ => trivial⟩ (fun _ => ?_) fun m₂ => closed_exit _
  refine Accounts.option (accounts_silent (uses_tcpPorts (fun _ _ => trivial) _))
    (fun ports m₃ => ?_) fun m₃ => closed_exit _
  obtain ⟨sport, dport⟩ := ports
  refine Accounts.any ⟨trivial, fun _ => trivial⟩ fun nowNs m₄ => ?_
  refine Accounts.option (lookupOrCreateMapping_accounts _ _ _ _ _ _)
    (fun mapping m₅ => ?_) fun m₅ => closed_exit _
  obtain ⟨ext, port, generation⟩ := mapping
  refine Accounts.bool (uses_writeIpv4Header silent_onPacket _ _ _ _) (fun _ => ?_)
    fun m₆ => closed_exit _
  refine Accounts.withCounters ?_
  refine Accounts.bool ⟨trivial, fun _ => trivial⟩ (fun _ => ?_) fun m₇ => closed_exit _
  refine Accounts.withCounters ?_
  refine Accounts.option (accounts_silent (uses_applyL4Nat64ChecksumDeltaV6ToV4 silent_onPacket
    settles_withCounters settles_withCounters _ _ _ _ _ _ _ _ _))
    (fun trace m₈ => ?_) fun m₈ => closed_exit _
  refine Accounts.bool ⟨trivial, fun _ => trivial⟩ (fun _ => ?_) fun m₉ => closed_exit _
  refine Accounts.withCounters ?_
  refine Accounts.any (silent_diag (settles_recordFwdTcpSample _ _ _ _ _ _ _ _)) fun _ m₁₀ => ?_
  refine Accounts.withCounters ?_
  refine Accounts.any (uses_loadU16 (fun _ _ => trivial) _) fun check m₁₁ => ?_
  refine Accounts.any (silent_diag (settles_recordFwdTcpCsumSample _ _ _ _ _ _)) fun _ m₁₂ => ?_
  exact redirect_exit ⟨rfl, rfl⟩

theorem forwardUdp_accounts (cfg : Nat64Config) {info : Ipv6Info} (hoff : info.l4AbsOffset = 54)
    (remoteV4 extV4 : UInt32) (m : Machine) :
    Accounts k inBounds (forwardUdp cfg info remoteV4 extV4) m prefixTally
      (Outcome inBounds (m.skb.length < 60) true) := by
  unfold forwardUdp
  refine Accounts.withCounters ?_
  dsimp only
  rw [hoff]
  refine Accounts.read (reads_udpPortsLenCounting _ 54)
    (uses_udpPortsLenCounting (fun _ _ => trivial) settles_withCounters _) rfl rfl
    (fun m₁ _ _ within => ?_) fun m₁ short => ?_
  swap
  · exact open_exit _ short
  refine Accounts.mono ?_ (closed_outcome (Nat.not_lt_of_le within))
  dsimp only
  split
  · exact Accounts.withCounters (closed_exit _)
  split
  · exact Accounts.withCounters (closed_exit _)
  refine Accounts.any ⟨trivial, fun _ => trivial⟩ fun nowNs m₂ => ?_
  refine Accounts.option (lookupOrCreateMapping_accounts _ _ _ _ _ _)
    (fun mapping m₃ => ?_) fun m₃ => closed_exit _
  obtain ⟨ext, port, generation⟩ := mapping
  refine Accounts.bool ⟨trivial, fun _ => trivial⟩ (fun _ => ?_)
    fun m₄ => Accounts.withCounters (closed_exit _)
  refine Accounts.withCounters ?_
  refine Accounts.bool ⟨trivial, fun _ => trivial⟩ (fun _ => ?_)
    fun m₅ => Accounts.withCounters (closed_exit _)
  refine Accounts.bool (uses_writeIpv4Header silent_onPacket _ _ _ _) (fun _ => ?_)
    fun m₆ => Accounts.withCounters (closed_exit _)
  refine Accounts.withCounters ?_
  refine Accounts.bool ⟨trivial, fun _ => trivial⟩ (fun _ => ?_)
    fun m₇ => Accounts.withCounters (closed_exit _)
  refine Accounts.option (accounts_silent (uses_applyL4Nat64ChecksumDeltaV6ToV4 silent_onPacket
    settles_withCounters settles_withCounters _ _ _ _ _ _ _ _ _))
    (fun trace m₈ => ?_) fun m₈ => Accounts.withCounters (closed_exit _)
  -- both answers of the insert go on to the redirect
  refine Accounts.bool ⟨trivial, fun _ => trivial⟩ (fun _ => ?_) fun m₉ => ?_
  all_goals
    refine Accounts.withCounters (Accounts.withCounters ?_)
    exact redirect_exit ⟨rfl, rfl⟩

/-- The frame ends before a field that is loaded without counting a failure. -/
def FwdUncounted (cfg : Nat64Config) (skb : List UInt8) : Prop :=
  skb.length < 14 ∨ be16At skb 12 = ETH_P_IPV6 ∧ (skb.length < 54 ∨
    (v6At skb 38).toList.take 12 = cfg.prefix96.toList ∧ u8At skb 20 = IPPROTO_UDP ∧
      skb.length < 60)

theorem tryNat64Forward_accounts {cfg : Nat64Config} {m : Machine}
    (config : m.maps.config = some cfg)
    (pool : ∀ vmV6, ∃ extV4, selectV4FromPoolEbpf vmV6 cfg = some extV4) :
    Accounts k inBounds tryNat64Forward m []
      (Outcome inBounds (FwdUncounted cfg m.skb) true) := by
  unfold tryNat64Forward
  refine Accounts.withCounters ?_
  refine Accounts.read (Reads.loadU16 12) (uses_loadU16 (fun _ _ => trivial) _) rfl rfl
    (fun m₁ skb₁ maps₁ within => ?_) fun m₁ short => ?_
  swap
  · exact open_exit _ fun hin => .inl (short hin)
  dsimp only
  rw [swap16_loaded within]
  by_cases etherType : be16At m.skb 12 = ETH_P_IPV6
  swap
  · rw [if_pos etherType]
    refine counted_exit _ ?_
    rintro (h | ⟨h, -⟩)
    · omega
    · exact etherType h
  rw [if_neg (not_not.mpr etherType)]
  have ipv6 : FwdUncounted cfg m.skb ↔ (m.skb.length < 54 ∨
      (v6At m.skb 38).toList.take 12 = cfg.prefix96.toList ∧ u8At m.skb 20 = IPPROTO_UDP ∧
        m.skb.length < 60) :=
    (or_iff_right (by omega)).trans (and_iff_right etherType)
  refine Accounts.diag settles_withCounters ?_
  refine Accounts.read (reads_parseIpv6Base ETH_HDR_LEN)
    (uses_parseIpv6Base (fun _ _ => trivial) _) skb₁ maps₁ (fun m₂ skb₂ maps₂ base => ?_)
    fun m₂ short => ?_
  swap
  · exact open_exit _ fun hin => ipv6.mpr (.inl (short hin))
  have base : 54 ≤ m.skb.length := base
  have whole := ipv6.trans (or_iff_right (Nat.not_lt_of_le base))
  dsimp only
  refine Accounts.diag settles_withCounters ?_
  refine Accounts.diag (settles_withCounters ?_) ?_
  · split_ifs <;> decide
  refine Accounts.diag (settles_recordFwdDstSample _) ?_
  refine Accounts.diag (settles_classifyFwdDst _) ?_
  refine Accounts.config ?_
  have hdst : (ipv6InfoAt ETH_HDR_LEN m.skb).dst = v6At m.skb 38 := rfl
  have hnext : (ipv6InfoAt ETH_HDR_LEN m.skb).nextHeader = u8At m.skb 20 := rfl
  rw [maps₂, config, hdst, hnext]
  dsimp only [Option.getD_some]
  by_cases prefix96 : (v6At m.skb 38).toList.take 12 = cfg.prefix96.toList
  swap
  · rw [if_pos prefix96]
    exact counted_exit _ fun h => prefix96 (whole.mp h).1
  rw [if_neg (not_not.mpr prefix96)]
  refine Accounts.withCounters ?_
  split
  · next extension =>
    refine counted_exit _ fun h => ?_
    rw [(whole.mp h).2.1] at extension
    exact absurd extension (by decide)
  split
  · next other => exact counted_exit _ fun h => other.2 (whole.mp h).2.1
  next other =>
  obtain ⟨extV4, selected⟩ := pool (ipv6InfoAt ETH_HDR_LEN m.skb).src
  rw [selected]
  dsimp only
  split
  · next tcp =>
    refine (forwardTcp_accounts _ _ _ _ _ _).mono (closed_outcome fun h => ?_)
    have udp := (whole.mp h).2.1
    rw [tcp] at udp
    exact absurd udp (by decide)
  · next tcp =>
    have udp : u8At m.skb 20 = IPPROTO_UDP := not_not.mp fun udp => other ⟨tcp, udp⟩
    have cut : FwdUncounted cfg m.skb ↔ m₂.skb.length < 60 := by
      rw [skb₂, whole, and_iff_right prefix96, and_iff_right udp]
    rw [cut]
    exact forwardUdp_accounts cfg rfl _ _ m₂

theorem nat64Forward_accounts {cfg : Nat64Config} {m : Machine}
    (config : m.maps.config = some cfg)
    (pool : ∀ vmV6, ∃ extV4, selectV4FromPoolEbpf vmV6 cfg = some extV4) :
    Accounts k inBounds nat64Forward m [] (Outcome inBounds (FwdUncounted cfg m.skb) true) := by
  refine (tryNat64Forward_accounts config pool).pass fun result => ?_
  cases result with
  | ok ret => exact ⟨ret, rfl⟩
  | error ret => exact ⟨ret, rfl⟩

end Forward

end Natto64
