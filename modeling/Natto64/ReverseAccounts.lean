import Natto64.ReverseRules
import Natto64.SessionAccounts

/-!
# Accounts of a reverse packet

The same for `nat64_reverse`. Its last load reads at the offset of the IPv4 packet; the
lengths of the rewritten frame show that this load cannot reach past the end.
-/
namespace Natto64
open Octets

section Reverse
variable {k : Kernel} {inBounds : Prop}

section Lengths
variable {β : Type} {m : Machine} {before : List Counter} {P : Nat → Nat → Prop}
  {q : Bool → Ebpf β}

theorem Accounts.store {off : Nat} {bytes : List UInt8}
    (ok : ∀ m', m'.skb.length = m.skb.length → Accounts k inBounds (q true) m' before P)
    (failed : ∀ m', Accounts k inBounds (q false) m' before P) :
    Accounts k inBounds (store off bytes >>= q) m before P := by
  refine Accounts.bool ⟨trivial, fun _ => trivial⟩ (fun _ => ok _ ?_) failed
  rw [exec_store]
  split
  next h => exact length_overwrite h.2
  next => rfl

theorem Accounts.changeProto (base : 14 ≤ m.skb.length)
    (ok : ∀ m', m'.skb.length = m.skb.length + 20 → Accounts k inBounds (q true) m' before P)
    (failed : ∀ m', Accounts k inBounds (q false) m' before P) :
    Accounts k inBounds (changeProto ETH_P_IPV6_HELPER >>= q) m before P := by
  refine Accounts.bool ⟨trivial, fun _ => trivial⟩ (fun changed => ok _ ?_) failed
  cases hok : k.changeProtoOk with
  | false =>
      rw [exec_changeProto_failed _ hok] at changed
      cases changed
  | true =>
      rw [exec_changeProto_ok (changeProtoSkb_ipv6 k.room base) hok]
      change (m.skb.take 14 ++ k.room.toList ++ m.skb.drop 14).length = _
      rw [List.length_append, List.length_append, List.length_take, List.length_drop,
        List.Vector.toList_length]
      omega

end Lengths

/-- What a reverse packet has counted before its protocol is told. -/
def poolTally : List Counter := counted [.pktsTotal] [.dbgRevEnter]

theorem reverseTcp_accounts (cfg : Nat64Config) (ihlBytes totalLen : Nat)
    (ipv4Src ipv4Dst : UInt32) (m : Machine) :
    Accounts k inBounds (reverseTcp cfg ihlBytes totalLen ipv4Src ipv4Dst) m poolTally
      (Outcome inBounds (totalLen - ihlBytes ≤ MAX_L4_LEN ∧ m.skb.length < 14 + ihlBytes + 4)
        false) := by
  unfold reverseTcp
  refine Accounts.withCounters ?_
  dsimp only
  split
  · next long =>
    exact Accounts.withCounters (counted_exit _ fun h => absurd h.1 (by omega))
  next long =>
  have long := Nat.le_of_not_lt long
  refine Accounts.read (reads_tcpPorts _) (uses_tcpPorts (fun _ _ => trivial) _) rfl rfl
    (fun m₁ _ _ within => ?_) fun m₁ short => ?_
  swap
  · exact open_exit _ fun hin => ⟨long, short hin⟩
  refine Accounts.mono ?_ (closed_outcome fun h => Nat.not_lt_of_le within h.2)
  dsimp only
  refine Accounts.option (accounts_silent ⟨trivial, fun _ => trivial⟩)
    (fun natVal m₂ => ?_) fun m₂ => closed_exit _
  refine Accounts.withCounters ?_
  split
  · exact closed_exit _
  refine Accounts.any ⟨trivial, fun _ => trivial⟩ fun nowNs m₃ => ?_
  refine Accounts.any ⟨trivial, fun _ => trivial⟩ fun _ m₄ => ?_
  refine Accounts.withCounters ?_
  refine Accounts.bool ⟨trivial, fun _ => trivial⟩ (fun _ => ?_)
    fun m₅ => Accounts.withCounters (closed_exit _)
  refine Accounts.bool ⟨trivial, fun _ => trivial⟩ (fun _ => ?_)
    fun m₆ => Accounts.withCounters (closed_exit _)
  refine Accounts.bool (uses_store silent_onPacket _ _) (fun _ => ?_)
    fun m₇ => Accounts.withCounters (closed_exit _)
  refine Accounts.bool ⟨trivial, fun _ => trivial⟩ (fun _ => ?_)
    fun m₈ => Accounts.withCounters (closed_exit _)
  refine Accounts.withCounters ?_
  refine Accounts.bool (uses_applyL4Nat64ChecksumDeltaV4ToV6 silent_onPacket _ _ _ _ _ _ _ _ _)
    (fun _ => ?_) fun m₉ => Accounts.withCounters (closed_exit _)
  refine Accounts.withCounters ?_
  exact redirect_exit ⟨rfl, rfl⟩

theorem reverseUdp_accounts (cfg : Nat64Config) (ihlBytes totalLen : Nat)
    (ipv4Src ipv4Dst : UInt32) (m : Machine) :
    Accounts k inBounds (reverseUdp cfg ihlBytes totalLen ipv4Src ipv4Dst) m poolTally
      (Outcome inBounds (m.skb.length < 14 + ihlBytes + 6) false) := by
  unfold reverseUdp
  refine Accounts.withCounters ?_
  dsimp only
  refine Accounts.read (reads_udpPortsLenCounting _ _)
    (uses_udpPortsLenCounting (fun _ _ => trivial) settles_withCounters _) rfl rfl
    (fun m₁ skb₁ _ within => ?_) fun m₁ short => ?_
  swap
  · exact open_exit _ short
  have within : 14 + ihlBytes + 6 ≤ m.skb.length := within
  have reached : ¬ m.skb.length < 14 + ihlBytes + 6 := Nat.not_lt_of_le within
  dsimp only
  split
  · exact Accounts.withCounters (counted_exit _ reached)
  refine Accounts.keeping ⟨trivial, fun _ => trivial⟩ rfl fun natVal m₂ skb₂ => ?_
  cases natVal with
  | none => exact counted_exit _ reached
  | some natVal =>
  dsimp only
  split
  · exact Accounts.withCounters (counted_exit _ reached)
  refine Accounts.keeping ⟨trivial, fun _ => trivial⟩ rfl fun nowNs m₃ skb₃ => ?_
  refine Accounts.keeping ⟨trivial, fun _ => trivial⟩ rfl fun _ m₄ skb₄ => ?_
  have hlen₄ : m₄.skb.length = m.skb.length := by rw [skb₄, skb₃, skb₂, skb₁]
  refine Accounts.withCounters ?_
  refine Accounts.changeProto (by omega) (fun m₅ hlen₅ => ?_)
    fun m₅ => Accounts.withCounters (counted_exit _ reached)
  refine Accounts.store (fun m₆ hlen₆ => ?_)
    fun m₆ => Accounts.withCounters (counted_exit _ reached)
  refine Accounts.store (fun m₇ hlen₇ => ?_)
    fun m₇ => Accounts.withCounters (counted_exit _ reached)
  refine Accounts.store (fun m₈ hlen₈ => ?_)
    fun m₈ => Accounts.withCounters (counted_exit _ reached)
  -- the frame has grown by 20 octets, so the offset of the IPv4 checksum is inside
  refine Accounts.read (Reads.loadU16 _) (uses_loadU16 (fun _ _ => trivial) _) rfl rfl
    (fun m₉ _ _ _ => ?_) fun m₉ short => ?_
  swap
  · refine open_exit _ fun hin => ?_
    have hshort : m₈.skb.length < 14 + ihlBytes + 6 + 2 := short hin
    omega
  refine Accounts.mono ?_ (closed_outcome reached)
  dsimp only
  split
  · exact Accounts.withCounters (closed_exit _)
  refine Accounts.bool (uses_applyL4Nat64ChecksumDeltaV4ToV6 silent_onPacket _ _ _ _ _ _ _ _ _)
    (fun _ => ?_) fun m₉ => Accounts.withCounters (closed_exit _)
  refine Accounts.withCounters ?_
  exact redirect_exit ⟨rfl, rfl⟩

theorem ihlAt_le (skb : List UInt8) : ihlAt skb ≤ 60 := by
  have hwords : (u8At skb 14 &&& 0x0f).toNat ≤ 15 := by
    rw [UInt8.toNat_and]
    exact Nat.and_le_right
  unfold ihlAt
  omega

/-- The frame ends before a field that is loaded without counting a failure. -/
def RevUncounted (cfg : Nat64Config) (skb : List UInt8) : Prop :=
  skb.length < 14 ∨ be16At skb 12 = ETH_P_IP ∧ (skb.length < 15 ∨
    u8At skb 14 >>> 4 = 4 ∧ 20 ≤ ihlAt skb ∧ (skb.length < 18 ∨
      ihlAt skb ≤ totalLenAt skb ∧ (skb.length < 34 ∨
        v4InPool (be32At skb 30) cfg = true ∧ be16At skb 20 &&& 0x3fff = 0 ∧
          (u8At skb 23 = IPPROTO_TCP ∧ totalLenAt skb - ihlAt skb ≤ MAX_L4_LEN ∧
              skb.length < 14 + ihlAt skb + 4 ∨
            u8At skb 23 = IPPROTO_UDP ∧ skb.length < 14 + ihlAt skb + 6))))

theorem tryNat64Reverse_accounts {cfg : Nat64Config} {m : Machine}
    (config : m.maps.config = some cfg) :
    Accounts k inBounds tryNat64Reverse m []
      (Outcome inBounds (RevUncounted cfg m.skb) false) := by
  unfold tryNat64Reverse
  refine Accounts.withCounters ?_
  refine Accounts.read (Reads.loadU16 12) (uses_loadU16 (fun _ _ => trivial) _) rfl rfl
    (fun m₁ skb₁ maps₁ within => ?_) fun m₁ short => ?_
  swap
  · exact open_exit _ fun hin => .inl (short hin)
  dsimp only
  rw [swap16_loaded within]
  have frame : RevUncounted cfg m.skb ↔ _ := or_iff_right (Nat.not_lt_of_le within)
  by_cases etherType : be16At m.skb 12 = ETH_P_IP
  swap
  · rw [if_pos etherType]
    exact counted_exit _ fun h => etherType (frame.mp h).1
  rw [if_neg (not_not.mpr etherType)]
  have ipv4 := frame.trans (and_iff_right etherType)
  refine Accounts.diag settles_withCounters ?_
  refine Accounts.read (Reads.loadU8 ETH_HDR_LEN) (uses_loadU8 (fun _ _ => trivial) _) skb₁ maps₁
    (fun m₂ skb₂ maps₂ within₂ => ?_) fun m₂ short => ?_
  swap
  · exact open_exit _ fun hin => ipv4.mpr (.inl (short hin))
  have hvihl : UInt8.ofNat (leNat (slice m.skb ETH_HDR_LEN 1)) = u8At m.skb 14 := rfl
  have vihl := ipv4.trans (or_iff_right (Nat.not_lt_of_le within₂))
  dsimp only
  rw [hvihl]
  by_cases version : u8At m.skb 14 >>> 4 = 4
  swap
  · rw [if_pos version]
    exact counted_exit _ fun h => version (vihl.mp h).1
  rw [if_neg (not_not.mpr version)]
  change Accounts k inBounds (if ¬(20 ≤ ihlAt m.skb ∧ ihlAt m.skb ≤ 60) then _ else _) m₂ _ _
  by_cases ihl : 20 ≤ ihlAt m.skb ∧ ihlAt m.skb ≤ 60
  swap
  · rw [if_pos ihl]
    exact counted_exit _ fun h => ihl ⟨(vihl.mp h).2.1, ihlAt_le m.skb⟩
  rw [if_neg (not_not.mpr ihl)]
  have header := vihl.trans ((and_iff_right version).trans (and_iff_right ihl.1))
  refine Accounts.read (Reads.loadU16 (ETH_HDR_LEN + 2)) (uses_loadU16 (fun _ _ => trivial) _)
    skb₂ maps₂ (fun m₃ skb₃ maps₃ within₃ => ?_) fun m₃ short => ?_
  swap
  · exact open_exit _ fun hin => header.mpr (.inl (short hin))
  have lengths := header.trans (or_iff_right (Nat.not_lt_of_le within₃))
  dsimp only
  rw [swap16_loaded within₃]
  change Accounts k inBounds (if totalLenAt m.skb < ihlAt m.skb then _ else _) m₃ _ _
  by_cases total : ihlAt m.skb ≤ totalLenAt m.skb
  swap
  · rw [if_pos (Nat.lt_of_not_le total)]
    exact counted_exit _ fun h => total (lengths.mp h).1
  rw [if_neg (Nat.not_lt_of_le total)]
  have fields := lengths.trans (and_iff_right total)
  have early : ∀ {n}, n ≤ 34 → (inBounds → m.skb.length < n) → inBounds →
      RevUncounted cfg m.skb :=
    fun hn short hin => fields.mpr (.inl ((short hin).trans_le hn))
  refine Accounts.read (Reads.loadU16 (ETH_HDR_LEN + 6)) (uses_loadU16 (fun _ _ => trivial) _)
    skb₃ maps₃ (fun m₄ skb₄ maps₄ within₄ => ?_)
    fun m₄ short => open_exit _ (early (by decide) short)
  dsimp only
  rw [swap16_loaded within₄]
  refine Accounts.diag (settles_withCounters ?_) ?_
  · split_ifs <;> decide
  refine Accounts.read (Reads.loadU8 (ETH_HDR_LEN + 9)) (uses_loadU8 (fun _ _ => trivial) _)
    skb₄ maps₄ (fun m₅ skb₅ maps₅ within₅ => ?_)
    fun m₅ short => open_exit _ (early (by decide) short)
  have hproto : UInt8.ofNat (leNat (slice m.skb (ETH_HDR_LEN + 9) 1)) = u8At m.skb 23 := rfl
  dsimp only
  rw [hproto]
  refine Accounts.read (Reads.loadU32 (ETH_HDR_LEN + 12)) (uses_loadU32 (fun _ _ => trivial) _)
    skb₅ maps₅ (fun m₆ skb₆ maps₆ within₆ => ?_)
    fun m₆ short => open_exit _ (early (by decide) short)
  refine Accounts.read (Reads.loadU32 (ETH_HDR_LEN + 16)) (uses_loadU32 (fun _ _ => trivial) _)
    skb₆ maps₆ (fun m₇ skb₇ maps₇ within₇ => ?_)
    fun m₇ short => open_exit _ (early (by decide) short)
  have whole := fields.trans (or_iff_right (Nat.not_lt_of_le within₇))
  dsimp only
  rw [swap32_loaded within₆, swap32_loaded within₇]
  refine Accounts.config ?_
  rw [maps₇, config, Option.getD_some]
  change Accounts k inBounds (if (!v4InPool (be32At m.skb 30) cfg) = true then _ else _) m₇ _ _
  cases pool : v4InPool (be32At m.skb 30) cfg with
  | false =>
    exact counted_exit _ fun h => Bool.false_ne_true (pool.symm.trans (whole.mp h).1)
  | true =>
  rw [if_neg (by decide)]
  refine Accounts.diag settles_withCounters ?_
  change Accounts k inBounds (if decide (be16At m.skb 20 &&& 0x3fff ≠ 0) = true then _ else _)
    m₇ _ _
  by_cases fragment : be16At m.skb 20 &&& 0x3fff = 0
  swap
  · rw [if_pos (decide_eq_true fragment)]
    exact counted_exit _ fun h => fragment (whole.mp h).2.1
  rw [if_neg (by simpa using fragment)]
  have segment := whole.trans ((and_iff_right pool).trans (and_iff_right fragment))
  split
  · next other =>
    refine counted_exit _ fun h => ?_
    rcases segment.mp h with h | h
    · exact other.1 h.1
    · exact other.2 h.1
  next other =>
  split
  · next tcp =>
    have cut : RevUncounted cfg m.skb ↔ totalLenAt m.skb - ihlAt m.skb ≤ MAX_L4_LEN ∧
        m₇.skb.length < 14 + ihlAt m.skb + 4 := by
      rw [skb₇, segment, and_iff_right tcp, or_iff_left]
      rintro ⟨udp, -⟩
      rw [tcp] at udp
      exact absurd udp (by decide)
    rw [cut]
    exact reverseTcp_accounts cfg _ _ _ _ m₇
  · next tcp =>
    have udp : u8At m.skb 23 = IPPROTO_UDP := not_not.mp fun udp => other ⟨tcp, udp⟩
    have cut : RevUncounted cfg m.skb ↔ m₇.skb.length < 14 + ihlAt m.skb + 6 := by
      rw [skb₇, segment, and_iff_right udp, or_iff_right fun h => tcp h.1]
    rw [cut]
    exact reverseUdp_accounts cfg _ _ _ _ m₇

theorem nat64Reverse_accounts {cfg : Nat64Config} {m : Machine}
    (config : m.maps.config = some cfg) :
    Accounts k inBounds nat64Reverse m [] (Outcome inBounds (RevUncounted cfg m.skb) false) := by
  refine (tryNat64Reverse_accounts config).pass fun result => ?_
  cases result with
  | ok ret => exact ⟨ret, rfl⟩
  | error ret => exact ⟨ret, rfl⟩

end Reverse

end Natto64
