import Natto64.ForwardRules
import Natto64.Reverse

/-!
# What the reverse classifier does

The checks an IPv4 frame has to pass, the frame a translation makes of it, and the
ways `nat64_reverse` can end.
-/
namespace Natto64
open Octets

/-- The length of the IPv4 header, options included. -/
def ihlAt (skb : List UInt8) : Nat := (u8At skb 14 &&& 0x0f).toNat * 4

def totalLenAt (skb : List UInt8) : Nat := (be16At skb 16).toNat

/-- The IPv4 payload length for TCP, the UDP length for UDP. -/
def revL4LenAt (skb : List UInt8) : UInt16 :=
  if u8At skb 23 = IPPROTO_TCP then UInt16.ofNat (totalLenAt skb - ihlAt skb)
  else be16At skb (14 + ihlAt skb + 4)

/-- The reverse entry a frame asks for. -/
def revKeyAt (skb : List UInt8) : NatKey :=
  natLookupKeyFromIpv4 (be32At skb 30) (be16At skb (14 + ihlAt skb + 2)) (u8At skb 23)

/-- The frame passes the checks made before the reverse entry is looked up. -/
structure RevAdmitted (cfg : Nat64Config) (skb : List UInt8) : Prop where
  base : 34 ≤ skb.length
  etherType : be16At skb 12 = ETH_P_IP
  version : u8At skb 14 >>> 4 = 4
  ihl : 20 ≤ ihlAt skb ∧ ihlAt skb ≤ 60
  total : ihlAt skb ≤ totalLenAt skb
  pool : v4InPool (be32At skb 30) cfg = true
  whole : be16At skb 20 &&& 0x3fff = 0
  proto : u8At skb 23 = IPPROTO_TCP ∨ u8At skb 23 = IPPROTO_UDP
  tcp : u8At skb 23 = IPPROTO_TCP →
    14 + ihlAt skb + 4 ≤ skb.length ∧ totalLenAt skb - ihlAt skb ≤ MAX_L4_LEN
  udp : u8At skb 23 = IPPROTO_UDP → 14 + ihlAt skb + 6 ≤ skb.length ∧
    UDP_HDR_LEN ≤ (revL4LenAt skb).toNat ∧ (revL4LenAt skb).toNat ≤ MAX_L4_LEN ∧
    ihlAt skb + (revL4LenAt skb).toNat ≤ totalLenAt skb

/-- The frame is admitted and `v` is the reverse entry of its tuple. -/
structure RevMatched (s : Maps) (skb : List UInt8) (v : NatVal) : Prop where
  admitted : RevAdmitted (s.config.getD DEFAULT_CFG) skb
  entry : s.nat (revKeyAt skb) = some v
  remoteV4 : v.remoteV4 = be32At skb 26
  remotePort : v.remotePort = be16At skb (14 + ihlAt skb)

def revHeader (skb : List UInt8) (v : NatVal) : List UInt8 :=
  Ipv6WireHeader.bytes {
    versionTcFlowBe := swap32 0x60000000
    payloadLenBe := swap16 (revL4LenAt skb)
    nextHeader := u8At skb 23
    hopLimit := 64
    srcV6 := nat64SourceV6 (be32At skb 26)
    dstV6 := v.vmV6 }

/-- The frame before the checksum is updated. -/
def revDraft (skb : List UInt8) (v : NatVal) : List UInt8 :=
  ethHeader skb ETH_P_IPV6 ++
    (revHeader skb v ++ overwrite (skb.drop 34) 2 (beBytes16 v.vmPort))

/-- The translated frame. -/
def revFrame (skb : List UInt8) (v : NatVal) (csum : UInt16) : List UInt8 :=
  ethHeader skb ETH_P_IPV6 ++ (revHeader skb v ++
    overwrite (overwrite (skb.drop 34) 2 (beBytes16 v.vmPort)) (csumFieldOff (u8At skb 23))
      (neBytes16 csum))

/-- What the zero-checksum test of the UDP branch loads. -/
def zeroTestAt (skb : List UInt8) (v : NatVal) : UInt16 :=
  ofNeBytes16 (slice (revDraft skb v) (14 + ihlAt skb + 6) 2)

def revCsum (k : Kernel) (skb : List UInt8) (v : NatVal) : Option UInt16 :=
  csumV4ToV6 k (revL4LenAt skb) (u8At skb 23) (be32At skb 26) (be32At skb 30)
    (nat64SourceV6 (be32At skb 26)) v.vmV6
    (some (be16At skb (14 + ihlAt skb + 2), v.vmPort)) (u8At skb 23 == IPPROTO_UDP)
    (ofNeBytes16 (slice skb (34 + csumFieldOff (u8At skb 23)) 2))

/-- The maps after the matched entry is refreshed. -/
def Maps.refresh (s : Maps) (key : NatKey) (v : NatVal) (nowNs : UInt64) : Maps :=
  s.setNat key (some { v with lastSeenNs := nowNs })

/-- The end of `nat64_reverse`. -/
inductive ReverseCase (k : Kernel) (m : Machine) : TcAction × Machine → Prop
  | passed {m'} (cause : (m.FaultyTo m' ∧ k.Spurious) ∨ ∀ v, ¬ RevMatched m.maps m.skb v)
      (same : m.SameState m') : ReverseCase k m (.pipe, m')
  | kept {m' v} (matched : RevMatched m.maps m.skb v) (change : k.changeProtoOk = false)
      (skb : m'.skb = m.skb) (maps : m'.maps = m.maps.refresh (revKeyAt m.skb) v k.now)
      (cpu : m'.cpu = m.cpu) (log : m.FaultyTo m') : ReverseCase k m (.pipe, m')
  | cut {m' v} (matched : RevMatched m.maps m.skb v) (change : k.changeProtoOk = true)
      (cause : (m.FaultyTo m' ∧ (k.Spurious ∨
          m.skb.length < 34 + csumFieldOff (u8At m.skb 23) + 2 ∨ revCsum k m.skb v = none)) ∨
        (u8At m.skb 23 = IPPROTO_UDP ∧ zeroTestAt m.skb v = 0))
      (length : m'.skb.length = m.skb.length + 20)
      (maps : m'.maps = m.maps.refresh (revKeyAt m.skb) v k.now) (cpu : m'.cpu = m.cpu) :
      ReverseCase k m (.pipe, m')
  | translated {m' v csum} (matched : RevMatched m.maps m.skb v) (change : k.changeProtoOk = true)
      (within : 34 + csumFieldOff (u8At m.skb 23) + 2 ≤ m.skb.length)
      (nonzero : u8At m.skb 23 = IPPROTO_UDP → zeroTestAt m.skb v ≠ 0)
      (chain : revCsum k m.skb v = some csum) (skb : m'.skb = revFrame m.skb v csum)
      (maps : m'.maps = m.maps.refresh (revKeyAt m.skb) v k.now) (cpu : m'.cpu = m.cpu)
      (log : (m.maps.config.getD DEFAULT_CFG).bridgeIfindex ≠ 0 →
        (.redirectNeigh, k.redirectOk) ∈ m'.log) :
      ReverseCase k m (redirected k (m.maps.config.getD DEFAULT_CFG).bridgeIfindex, m')

def ReverseEnd (k : Kernel) (m : Machine) (z : Except TcAction TcAction × Machine) : Prop :=
  ReverseCase k m (verdict z.1, z.2)

section Rewrite
variable {β : Type} {k : Kernel} {m : Machine} {P : β × Machine → Prop}

@[simp] theorem length_revHeader (skb : List UInt8) (v : NatVal) : (revHeader skb v).length = 40 :=
  length_ipv6WireHeader _

theorem writeIpv6Header_rule {eth gap rest : List UInt8} {l4Len : UInt16} {proto : UInt8}
    {srcV6 dstV6 : Ipv6Octets} {q : Bool → Ebpf β}
    (hskb : m.skb = eth ++ (gap ++ rest)) (he : eth.length = 14) (hg : gap.length = 40)
    (ok : ∀ m', m'.skb = eth ++ (Ipv6WireHeader.bytes ⟨swap32 0x60000000, swap16 l4Len, proto, 64,
      srcV6, dstV6⟩ ++ rest) → m.SameMaps m' → m.CleanTo m' → P (k.exec (q true) m'))
    (failed : ∀ m', k.Spurious → m.SameState m' → m.FaultyTo m' → P (k.exec (q false) m')) :
    P (k.exec (writeIpv6Header l4Len proto srcV6 dstV6 >>= q) m) := by
  unfold writeIpv6Header
  refine store_rule (fun m' _ hskb' maps log => ok m' ?_ maps log)
    (fun m' cause same log => failed m' (cause.resolve_right ?_) same log)
  · rw [hskb', hskb]
    exact overwrite_header he (by rw [length_ipv6WireHeader, hg])
  · rw [length_ipv6WireHeader, hskb, ETH_HDR_LEN, List.length_append, List.length_append, he, hg]
    omega

/-- The part both branches share: the frame becomes IPv6, and its destination port is
stored. The four error continuations are parameters. -/
theorem revRewrite_rule {skb : List UInt8} {l4Len : UInt16} {proto : UInt8}
    {srcV6 dstV6 : Ipv6Octets} {vmPort : UInt16} {e₁ e₂ e₃ e₄ rest : Ebpf β}
    (hskb : m.skb = skb) (base : 38 ≤ skb.length)
    (ok : ∀ m', k.changeProtoOk = true → m'.skb = ethHeader skb ETH_P_IPV6 ++
        (Ipv6WireHeader.bytes ⟨swap32 0x60000000, swap16 l4Len, proto, 64, srcV6, dstV6⟩ ++
          overwrite (skb.drop 34) 2 (beBytes16 vmPort)) →
      m.SameMaps m' → m.CleanTo m' → P (k.exec rest m'))
    (kept : ∀ m', k.changeProtoOk = false → m.SameState m' → m.FaultyTo m' → P (k.exec e₁ m'))
    (cut : ∀ e m', e = e₂ ∨ e = e₃ ∨ e = e₄ → k.changeProtoOk = true → k.Spurious →
      m'.skb.length = skb.length + 20 → m.SameMaps m' → m.FaultyTo m' → P (k.exec e m')) :
    P (k.exec (do
      if !(← changeProto ETH_P_IPV6_HELPER) then e₁ else
      if !(← store 12 (beBytes16 ETH_P_IPV6)) then e₂ else
      if !(← writeIpv6Header l4Len proto srcV6 dstV6) then e₃ else
      if !(← store (ETH_HDR_LEN + 40 + 2) (beBytes16 vmPort)) then e₄ else
      rest) m) := by
  have hroom : k.room.toList.length = 20 := k.room.toList_length
  have he : (ethHeader skb ETH_P_IPV6).length = 14 := length_ethHeader (by omega) _
  refine changeProto_rule (changeProtoSkb_ipv6 k.room (by rw [hskb]; omega))
    (fun m₁ change hskb₁ maps₁ log₁ => ?_) (fun m₁ change same₁ log₁ => kept m₁ change same₁ log₁)
  rw [hskb] at hskb₁
  have hlen₁ : m₁.skb.length = skb.length + 20 := by
    rw [hskb₁, List.length_append, List.length_append, List.length_take, hroom, List.length_drop]
    omega
  rw [List.append_assoc] at hskb₁
  rw [if_neg (by decide)]
  refine store_rule (fun m₂ _ hskb₂ maps₂ log₂ => ?_) (fun m₂ cause same₂ log₂ => ?_)
  swap
  · have hcause := cause.resolve_right (by rw [length_beBytes16]; omega)
    exact cut _ m₂ (.inl rfl) change hcause (by rw [same₂.1, hlen₁]) (maps₁.trans same₂.2)
      (log₁.trans_faulty log₂)
  have maps₂ := maps₁.trans maps₂
  have log₂ := log₁.trans log₂
  have hskb₂ : m₂.skb = ethHeader skb ETH_P_IPV6 ++
      ((k.room.toList ++ (skb.drop 14).take 20) ++ skb.drop 34) := by
    have hsplit := List.take_append_drop 20 (skb.drop 14)
    rw [List.drop_drop] at hsplit
    rw [hskb₂, hskb₁, overwrite_etherType (by omega), List.append_assoc, hsplit]
  have hgap : (k.room.toList ++ (skb.drop 14).take 20).length = 40 := by
    rw [List.length_append, hroom, List.length_take, List.length_drop]
    omega
  have hlen₂ : m₂.skb.length = skb.length + 20 := by
    rw [hskb₂, List.length_append, List.length_append, hgap, he, List.length_drop]
    omega
  rw [if_neg (by decide)]
  refine writeIpv6Header_rule hskb₂ he hgap (fun m₃ hskb₃ maps₃ log₃ => ?_)
    (fun m₃ cause same₃ log₃ => ?_)
  swap
  · exact cut _ m₃ (.inr (.inl rfl)) change cause (by rw [same₃.1, hlen₂]) (maps₂.trans same₃.2)
      (log₂.trans_faulty log₃)
  have maps₃ := maps₂.trans maps₃
  have log₃ := log₂.trans log₃
  have hn : (ethHeader skb ETH_P_IPV6).length + (Ipv6WireHeader.bytes ⟨swap32 0x60000000,
      swap16 l4Len, proto, 64, srcV6, dstV6⟩).length = 54 := by
    rw [he, length_ipv6WireHeader]
  have hlen₃ : m₃.skb.length = skb.length + 20 := by
    rw [hskb₃, List.length_append, List.length_append, ← Nat.add_assoc, hn, List.length_drop]
    omega
  have hfits : 2 + (beBytes16 vmPort).length ≤ (skb.drop 34).length := by
    rw [length_beBytes16, List.length_drop]
    omega
  rw [if_neg (by decide)]
  refine storeSegment_rule hskb₃ hn hfits rfl (fun m₄ hskb₄ maps₄ log₄ => ?_)
    (fun m₄ cause same₄ log₄ => ?_)
  swap
  · exact cut _ m₄ (.inr (.inr rfl)) change cause (by rw [same₄.1, hlen₃]) (maps₃.trans same₄.2)
      (log₃.trans_faulty log₄)
  exact ok m₄ change hskb₄ (maps₃.trans maps₄) (log₃.trans log₄)

theorem length_revDraft {skb : List UInt8} {v : NatVal} (base : 38 ≤ skb.length) :
    (revDraft skb v).length = skb.length + 20 := by
  have hfits : 2 + (beBytes16 v.vmPort).length ≤ (skb.drop 34).length := by
    rw [length_beBytes16, List.length_drop]
    omega
  rw [revDraft, List.length_append, List.length_append, length_ethHeader (by omega),
    length_revHeader, length_overwrite hfits, List.length_drop]
  omega

/-- The checksum update of either branch, the rest of the frame being done. -/
theorem revChecksum_rule {skb : List UInt8} {v : NatVal} {q : Bool → Ebpf β}
    (base : 38 ≤ skb.length) (hskb : m.skb = revDraft skb v)
    (updated : ∀ m' csum, revCsum k skb v = some csum →
      34 + csumFieldOff (u8At skb 23) + 2 ≤ skb.length → m'.skb = revFrame skb v csum →
      m.SameMaps m' → m.CleanTo m' → P (k.exec (q true) m'))
    (failed : ∀ m', (k.Spurious ∨ skb.length < 34 + csumFieldOff (u8At skb 23) + 2 ∨
      revCsum k skb v = none) → m'.skb.length = skb.length + 20 → m.SameMaps m' →
      m.FaultyTo m' → P (k.exec (q false) m')) :
    P (k.exec (applyL4Nat64ChecksumDeltaV4ToV6 (ETH_HDR_LEN + 40 + csumFieldOff (u8At skb 23))
      (revL4LenAt skb) (u8At skb 23) (be32At skb 26) (be32At skb 30)
      (nat64SourceV6 (be32At skb 26)) v.vmV6
      (some (be16At skb (14 + ihlAt skb + 2), v.vmPort)) (u8At skb 23 == IPPROTO_UDP) >>= q)
      m) := by
  have hoff := six_le_csumFieldOff (u8At skb 23)
  have hn : (ethHeader skb ETH_P_IPV6).length + (revHeader skb v).length = 54 := by
    rw [length_ethHeader (by omega), length_revHeader]
  have hdrop : 2 ≤ (skb.drop 34).length := by
    rw [List.length_drop]
    omega
  have hfield : slice m.skb (54 + csumFieldOff (u8At skb 23)) 2 =
      slice skb (34 + csumFieldOff (u8At skb 23)) 2 := by
    rw [hskb, revDraft, slice_segment hn, slice_overwrite_of_disjoint hdrop (.inr ?_), slice_drop]
    rw [length_beBytes16]
    omega
  have hlen : m.skb.length = skb.length + 20 := by rw [hskb, length_revDraft base]
  have hcase := applyV4ToV6_case k m (54 + csumFieldOff (u8At skb 23)) (revL4LenAt skb)
    (u8At skb 23) (nat64SourceV6 (be32At skb 26)) v.vmV6 (be32At skb 26) (be32At skb 30)
    (some (be16At skb (14 + ihlAt skb + 2), v.vmPort)) (u8At skb 23 == IPPROTO_UDP)
  rw [hfield] at hcase
  refine hcase.rule (fun a m' c answer chain within hskb' maps log => ?_)
    (fun a m' answer cause hlen' maps log => ?_)
  · subst answer
    refine updated m' c chain (by omega) ?_ maps log
    rw [hskb', hskb, revDraft, overwrite_segment hn]
    rfl
  · subst answer
    exact failed m' (cause.imp_right fun h => h.imp_left fun h => by omega) (hlen'.trans hlen)
      maps log

end Rewrite

section Branches
variable {k : Kernel} {m m₀ : Machine}

theorem refresh_maps {key : NatKey} {v : NatVal} (entry : m₀.maps.nat key = some v)
    (nowNs : UInt64) :
    (m₀.setNat key ((m₀.maps.nat key).map fun v => { v with lastSeenNs := nowNs })).maps =
      m₀.maps.refresh key v nowNs := by
  rw [entry]
  rfl

/-- The redirect that ends a translation. -/
theorem ReverseCase.redirect {m₄ : Machine} {v : NatVal} {csum : UInt16}
    (matched : RevMatched m.maps m.skb v) (change : k.changeProtoOk = true)
    (within : 34 + csumFieldOff (u8At m.skb 23) + 2 ≤ m.skb.length)
    (nonzero : u8At m.skb 23 = IPPROTO_UDP → zeroTestAt m.skb v ≠ 0)
    (chain : revCsum k m.skb v = some csum) (skb : m₄.skb = revFrame m.skb v csum)
    (maps : m₄.maps = m.maps.refresh (revKeyAt m.skb) v k.now) (cpu : m₄.cpu = m.cpu) :
    ReverseCase k m (redirected k (m.maps.config.getD DEFAULT_CFG).bridgeIfindex,
      if (m.maps.config.getD DEFAULT_CFG).bridgeIfindex = 0 then m₄
      else m₄.logged .redirectNeigh k.redirectOk) := by
  by_cases h : (m.maps.config.getD DEFAULT_CFG).bridgeIfindex = 0
  · rw [if_pos h]
    exact .translated matched change within nonzero chain skb maps cpu fun hne => absurd h hne
  · rw [if_neg h]
    exact .translated matched change within nonzero chain skb maps cpu
      fun _ => List.mem_cons_self

theorem reverseTcp_end (log₀ : m.CleanTo m₀) (same₀ : m.SameState m₀)
    (base : 34 ≤ m.skb.length) (etherType : be16At m.skb 12 = ETH_P_IP)
    (version : u8At m.skb 14 >>> 4 = 4) (ihl : 20 ≤ ihlAt m.skb ∧ ihlAt m.skb ≤ 60)
    (total : ihlAt m.skb ≤ totalLenAt m.skb)
    (pool : v4InPool (be32At m.skb 30) (m.maps.config.getD DEFAULT_CFG) = true)
    (whole : be16At m.skb 20 &&& 0x3fff = 0) (tcp : u8At m.skb 23 = IPPROTO_TCP) :
    ReverseEnd k m (k.exec (reverseTcp (m.maps.config.getD DEFAULT_CFG) (ihlAt m.skb)
      (totalLenAt m.skb) (be32At m.skb 26) (be32At m.skb 30)) m₀) := by
  have notUdp : u8At m.skb 23 ≠ IPPROTO_UDP := by rw [tcp]; decide
  have hlen : revL4LenAt m.skb = UInt16.ofNat (totalLenAt m.skb - ihlAt m.skb) := if_pos tcp
  unfold reverseTcp
  rw [exec_bind, exec_withCounters]
  dsimp only
  by_cases hmax : MAX_L4_LEN < totalLenAt m.skb - ihlAt m.skb
  · rw [if_pos hmax]
    exact .passed (.inr fun _ h => absurd hmax (Nat.not_lt_of_le (h.admitted.tcp tcp).2)) same₀
  have lenMax := Nat.le_of_not_lt hmax
  rw [if_neg hmax]
  refine (reads_tcpPorts (ETH_HDR_LEN + ihlAt m.skb)).rule_after log₀ same₀
    (fun m₁ log₁ same₁ ports => ?_) (fun m₁ log₁ same₁ cause => ?_)
  swap
  · exact .passed (cause.imp (fun h => ⟨log₁, h⟩)
      fun h _ mat => absurd (mat.admitted.tcp tcp).1 (Nat.not_le_of_lt h)) same₁
  have ports : 14 + ihlAt m.skb + 4 ≤ m.skb.length := ports
  have admitted : RevAdmitted (m.maps.config.getD DEFAULT_CFG) m.skb :=
    ⟨base, etherType, version, ihl, total, pool, whole, .inl tcp, fun _ => ⟨ports, lenMax⟩,
      fun udp => absurd udp notUdp⟩
  have hkey : natLookupKeyFromIpv4 (be32At m.skb 30) (be16At m.skb (ETH_HDR_LEN + ihlAt m.skb + 2))
      IPPROTO_TCP = revKeyAt m.skb := by
    rw [revKeyAt, tcp]
    rfl
  dsimp only
  rw [hkey, exec_bind, exec_natLookup, same₁.2.1]
  cases entry : m.maps.nat (revKeyAt m.skb) with
  | none =>
    have miss : ∀ v, ¬ RevMatched m.maps m.skb v := by
      intro v mat
      rw [mat.entry] at entry
      cases entry
    exact .passed (.inr miss) same₁
  | some v =>
  dsimp only
  rw [exec_bind, exec_withCounters]
  dsimp only
  by_cases hmatch : natTupleMatches v (be32At m.skb 26)
      (be16At m.skb (ETH_HDR_LEN + ihlAt m.skb)) = true
  swap
  · have miss : ∀ v, ¬ RevMatched m.maps m.skb v := by
      intro v' mat
      rw [mat.entry] at entry
      obtain rfl := Option.some.inj entry
      exact hmatch (natTupleMatches_iff.mpr ⟨mat.remoteV4, mat.remotePort⟩)
    rw [if_pos (by rw [Bool.not_eq_true] at hmatch; rw [hmatch]; rfl)]
    exact .passed (.inr miss) same₁
  obtain ⟨remoteV4, remotePort⟩ := natTupleMatches_iff.mp hmatch
  have matched : RevMatched m.maps m.skb v := ⟨admitted, entry, remoteV4, remotePort⟩
  rw [if_neg (by rw [hmatch]; decide)]
  simp only [exec_bind _ bpfKtimeGetNs, exec_ktimeGetNs, exec_bind _ (natSetLastSeen _ _),
    exec_natSetLastSeen, exec_bind _ (withCounters _ _), exec_withCounters]
  have entry₁ : m₁.maps.nat (revKeyAt m.skb) = some v := by
    rw [same₁.2.1]
    exact entry
  have hmaps₂ := refresh_maps entry₁ k.now
  generalize hm₂ : m₁.setNat (revKeyAt m.skb)
    ((m₁.maps.nat (revKeyAt m.skb)).map fun v => { v with lastSeenNs := k.now }) = m₂ at hmaps₂ ⊢
  rw [same₁.2.1] at hmaps₂
  have hskb₂ : m₂.skb = m.skb := by
    rw [← hm₂]
    exact same₁.1
  have hcpu₂ : m₂.cpu = m.cpu := by
    rw [← hm₂]
    exact same₁.2.2
  have log₂ : m.CleanTo m₂ := log₁.of_log (by rw [← hm₂]; rfl)
  refine revRewrite_rule hskb₂ (by omega) (fun m₃ change hskb₃ maps₃ log₃ => ?_)
    (fun m₃ change same₃ log₃ => ?_) (fun e m₃ he change cause hlen₃ maps₃ log₃ => ?_)
  rotate_left
  · exact .kept matched change (same₃.1.trans hskb₂) (same₃.2.1.trans hmaps₂)
      (same₃.2.2.trans hcpu₂) (log₂.trans_faulty log₃)
  · rcases he with rfl | rfl | rfl <;>
      exact .cut matched change (.inl ⟨log₂.trans_faulty log₃, .inl cause⟩) hlen₃
        (maps₃.1.trans hmaps₂) (maps₃.2.trans hcpu₂)
  have hdraft : m₃.skb = revDraft m.skb v := by
    rw [hskb₃, revDraft, revHeader, tcp, hlen]
  have hcsum : applyL4Nat64ChecksumDeltaV4ToV6 (ETH_HDR_LEN + 40 + 16)
      (UInt16.ofNat (totalLenAt m.skb - ihlAt m.skb)) IPPROTO_TCP (be32At m.skb 26)
      (be32At m.skb 30) (nat64SourceV6 (be32At m.skb 26)) v.vmV6
      (some (be16At m.skb (ETH_HDR_LEN + ihlAt m.skb + 2), v.vmPort)) false =
    applyL4Nat64ChecksumDeltaV4ToV6 (ETH_HDR_LEN + 40 + csumFieldOff (u8At m.skb 23))
      (revL4LenAt m.skb) (u8At m.skb 23) (be32At m.skb 26) (be32At m.skb 30)
      (nat64SourceV6 (be32At m.skb 26)) v.vmV6
      (some (be16At m.skb (14 + ihlAt m.skb + 2), v.vmPort)) (u8At m.skb 23 == IPPROTO_UDP) := by
    rw [hlen, tcp]
    rfl
  rw [exec_bind, exec_withCounters, hcsum]
  refine revChecksum_rule (by omega) hdraft (fun m₄ csum chain within hskb₄ maps₄ log₄ => ?_)
    (fun m₄ cause hlen₄ maps₄ log₄ => ?_)
  swap
  · exact .cut matched change (.inl ⟨log₂.trans_faulty (log₃.trans_faulty log₄), cause⟩) hlen₄
      (maps₄.1.trans (maps₃.1.trans hmaps₂)) (maps₄.2.trans (maps₃.2.trans hcpu₂))
  simp only [Bool.not_true, Bool.false_eq_true, reduceIte, exec_bind, exec_withCounters,
    exec_redirectToIface, exec_pure]
  exact ReverseCase.redirect matched change within (fun udp => absurd udp notUdp) chain hskb₄
    (maps₄.1.trans (maps₃.1.trans hmaps₂)) (maps₄.2.trans (maps₃.2.trans hcpu₂))

theorem reverseUdp_end (log₀ : m.CleanTo m₀) (same₀ : m.SameState m₀)
    (base : 34 ≤ m.skb.length) (etherType : be16At m.skb 12 = ETH_P_IP)
    (version : u8At m.skb 14 >>> 4 = 4) (ihl : 20 ≤ ihlAt m.skb ∧ ihlAt m.skb ≤ 60)
    (total : ihlAt m.skb ≤ totalLenAt m.skb)
    (pool : v4InPool (be32At m.skb 30) (m.maps.config.getD DEFAULT_CFG) = true)
    (whole : be16At m.skb 20 &&& 0x3fff = 0) (udp : u8At m.skb 23 = IPPROTO_UDP) :
    ReverseEnd k m (k.exec (reverseUdp (m.maps.config.getD DEFAULT_CFG) (ihlAt m.skb)
      (totalLenAt m.skb) (be32At m.skb 26) (be32At m.skb 30)) m₀) := by
  have notTcp : u8At m.skb 23 ≠ IPPROTO_TCP := by rw [udp]; decide
  have hlen : revL4LenAt m.skb = be16At m.skb (ETH_HDR_LEN + ihlAt m.skb + 4) := if_neg notTcp
  unfold reverseUdp
  rw [exec_bind, exec_withCounters]
  dsimp only
  refine (reads_udpPortsLenCounting _ (ETH_HDR_LEN + ihlAt m.skb)).rule_after log₀ same₀
    (fun m₁ log₁ same₁ ports => ?_) (fun m₁ log₁ same₁ cause => ?_)
  swap
  · exact .passed (cause.imp (fun h => ⟨log₁, h⟩)
      fun h _ mat => absurd (mat.admitted.udp udp).1 (Nat.not_le_of_lt h)) same₁
  have ports : 14 + ihlAt m.skb + 6 ≤ m.skb.length := ports
  dsimp only
  rw [← hlen]
  by_cases hbad : (revL4LenAt m.skb).toNat < UDP_HDR_LEN ∨ MAX_L4_LEN < (revL4LenAt m.skb).toNat ∨
      totalLenAt m.skb < ihlAt m.skb + (revL4LenAt m.skb).toNat
  · have miss : ∀ v, ¬ RevMatched m.maps m.skb v := by
      intro v mat
      obtain ⟨-, hmin, hmax, hfit⟩ := mat.admitted.udp udp
      omega
    rw [if_pos hbad]
    exact .passed (.inr miss) same₁
  have admitted : RevAdmitted (m.maps.config.getD DEFAULT_CFG) m.skb :=
    ⟨base, etherType, version, ihl, total, pool, whole, .inr udp, fun tcp => absurd tcp notTcp,
      fun _ => ⟨ports, by omega, by omega, by omega⟩⟩
  have hkey : natLookupKeyFromIpv4 (be32At m.skb 30) (be16At m.skb (ETH_HDR_LEN + ihlAt m.skb + 2))
      IPPROTO_UDP = revKeyAt m.skb := by
    rw [revKeyAt, udp]
    rfl
  rw [if_neg hbad, hkey, exec_bind, exec_natLookup, same₁.2.1]
  cases entry : m.maps.nat (revKeyAt m.skb) with
  | none =>
    have miss : ∀ v, ¬ RevMatched m.maps m.skb v := by
      intro v mat
      rw [mat.entry] at entry
      cases entry
    exact .passed (.inr miss) same₁
  | some v =>
  dsimp only
  by_cases hmatch : v.remoteV4 ≠ be32At m.skb 26 ∨
      v.remotePort ≠ be16At m.skb (ETH_HDR_LEN + ihlAt m.skb)
  · have miss : ∀ v, ¬ RevMatched m.maps m.skb v := by
      intro v' mat
      rw [mat.entry] at entry
      obtain rfl := Option.some.inj entry
      exact hmatch.elim (· mat.remoteV4) (· mat.remotePort)
    rw [if_pos hmatch]
    exact .passed (.inr miss) same₁
  obtain ⟨remoteV4, remotePort⟩ := not_or.mp hmatch
  have matched : RevMatched m.maps m.skb v :=
    ⟨admitted, entry, not_not.mp remoteV4, not_not.mp remotePort⟩
  rw [if_neg hmatch]
  simp only [exec_bind _ bpfKtimeGetNs, exec_ktimeGetNs, exec_bind _ (natSetLastSeen _ _),
    exec_natSetLastSeen, exec_bind _ (withCounters _ _), exec_withCounters]
  have entry₁ : m₁.maps.nat (revKeyAt m.skb) = some v := by
    rw [same₁.2.1]
    exact entry
  have hmaps₂ := refresh_maps entry₁ k.now
  generalize hm₂ : m₁.setNat (revKeyAt m.skb)
    ((m₁.maps.nat (revKeyAt m.skb)).map fun v => { v with lastSeenNs := k.now }) = m₂ at hmaps₂ ⊢
  rw [same₁.2.1] at hmaps₂
  have hskb₂ : m₂.skb = m.skb := by
    rw [← hm₂]
    exact same₁.1
  have hcpu₂ : m₂.cpu = m.cpu := by
    rw [← hm₂]
    exact same₁.2.2
  have log₂ : m.CleanTo m₂ := log₁.of_log (by rw [← hm₂]; rfl)
  refine revRewrite_rule hskb₂ (by omega) (fun m₃ change hskb₃ maps₃ log₃ => ?_)
    (fun m₃ change same₃ log₃ => ?_) (fun e m₃ he change cause hlen₃ maps₃ log₃ => ?_)
  rotate_left
  · exact .kept matched change (same₃.1.trans hskb₂) (same₃.2.1.trans hmaps₂)
      (same₃.2.2.trans hcpu₂) (log₂.trans_faulty log₃)
  · rcases he with rfl | rfl | rfl <;>
      exact .cut matched change (.inl ⟨log₂.trans_faulty log₃, .inl cause⟩) hlen₃
        (maps₃.1.trans hmaps₂) (maps₃.2.trans hcpu₂)
  have hdraft : m₃.skb = revDraft m.skb v := by
    rw [hskb₃, revDraft, revHeader, udp]
  have hlen₃ : m₃.skb.length = m.skb.length + 20 := by rw [hdraft, length_revDraft (by omega)]
  refine (Reads.loadU16 (ETH_HDR_LEN + ihlAt m.skb + 6)).rule (fun m₄ log₄ same₄ _ => ?_)
    (fun m₄ log₄ same₄ cause => ?_)
  swap
  · have cause := cause.resolve_right (by rw [hlen₃, ETH_HDR_LEN]; omega)
    exact .cut matched change (.inl ⟨log₂.trans_faulty (log₃.trans_faulty log₄), .inl cause⟩)
      ((congrArg _ same₄.1).trans hlen₃) (same₄.2.1.trans (maps₃.1.trans hmaps₂))
      (same₄.2.2.trans (maps₃.2.trans hcpu₂))
  have log₄ := log₃.trans log₄
  have maps₄ := maps₃.trans same₄.2
  have htest : ofNeBytes16 (slice m₃.skb (ETH_HDR_LEN + ihlAt m.skb + 6) 2) =
      zeroTestAt m.skb v := by
    rw [hdraft]
    rfl
  dsimp only
  rw [htest]
  by_cases hzero : zeroTestAt m.skb v = 0
  · rw [if_pos hzero]
    exact .cut matched change (.inr ⟨udp, hzero⟩) ((congrArg _ same₄.1).trans hlen₃)
      (maps₄.1.trans hmaps₂) (maps₄.2.trans hcpu₂)
  have hcsum : applyL4Nat64ChecksumDeltaV4ToV6 (ETH_HDR_LEN + 40 + 6) (revL4LenAt m.skb)
      IPPROTO_UDP (be32At m.skb 26) (be32At m.skb 30) (nat64SourceV6 (be32At m.skb 26)) v.vmV6
      (some (be16At m.skb (ETH_HDR_LEN + ihlAt m.skb + 2), v.vmPort)) true =
    applyL4Nat64ChecksumDeltaV4ToV6 (ETH_HDR_LEN + 40 + csumFieldOff (u8At m.skb 23))
      (revL4LenAt m.skb) (u8At m.skb 23) (be32At m.skb 26) (be32At m.skb 30)
      (nat64SourceV6 (be32At m.skb 26)) v.vmV6
      (some (be16At m.skb (14 + ihlAt m.skb + 2), v.vmPort)) (u8At m.skb 23 == IPPROTO_UDP) := by
    rw [udp]
    rfl
  rw [if_neg hzero, hcsum]
  refine revChecksum_rule (by omega) (same₄.1.trans hdraft)
    (fun m₅ csum chain within hskb₅ maps₅ log₅ => ?_) (fun m₅ cause hlen₅ maps₅ log₅ => ?_)
  swap
  · exact .cut matched change (.inl ⟨log₂.trans_faulty (log₄.trans_faulty log₅), cause⟩) hlen₅
      (maps₅.1.trans (maps₄.1.trans hmaps₂)) (maps₅.2.trans (maps₄.2.trans hcpu₂))
  simp only [Bool.not_true, Bool.false_eq_true, reduceIte, exec_bind, exec_withCounters,
    exec_redirectToIface, exec_pure]
  exact ReverseCase.redirect matched change within (fun _ => hzero) chain hskb₅
    (maps₅.1.trans (maps₄.1.trans hmaps₂)) (maps₅.2.trans (maps₄.2.trans hcpu₂))

end Branches

theorem tryNat64Reverse_end (k : Kernel) (m : Machine) :
    ReverseEnd k m (k.exec tryNat64Reverse m) := by
  unfold tryNat64Reverse
  rw [exec_bind, exec_withCounters]
  dsimp only
  have short : ∀ {m' n}, m.FaultyTo m' → m.SameState m' → n ≤ 34 →
      (k.Spurious ∨ m.skb.length < n) → ReverseEnd k m (.error .pipe, m') := by
    intro m' n log same hn cause
    exact .passed (cause.imp (fun h => ⟨log, h⟩)
      fun h _ mat => absurd mat.admitted.base (by omega)) same
  refine (Reads.loadU16 12).rule (fun m₁ log₁ same₁ within₁ => ?_) (fun m₁ log₁ same₁ cause => ?_)
  swap
  · exact short log₁ same₁ (by decide) cause
  have refuse : ∀ {m'}, m.SameState m' → (¬ RevAdmitted (m.maps.config.getD DEFAULT_CFG) m.skb) →
      ReverseEnd k m (.ok .pipe, m') :=
    fun same h => .passed (.inr fun _ mat => h mat.admitted) same
  dsimp only
  rw [swap16_loaded within₁]
  by_cases etherType : be16At m.skb 12 = ETH_P_IP
  swap
  · rw [if_pos etherType]
    exact refuse same₁ fun adm => etherType adm.etherType
  rw [if_neg (not_not.mpr etherType), exec_bind, exec_withCounters]
  refine (Reads.loadU8 ETH_HDR_LEN).rule_after log₁ same₁ (fun m₂ log₂ same₂ within₂ => ?_)
    fun m₂ log₂ same₂ cause => short log₂ same₂ (by decide) cause
  have hvihl : UInt8.ofNat (leNat (slice m.skb ETH_HDR_LEN 1)) = u8At m.skb 14 := rfl
  dsimp only
  rw [hvihl]
  by_cases version : u8At m.skb 14 >>> 4 = 4
  swap
  · rw [if_pos version]
    exact refuse same₂ fun adm => version adm.version
  rw [if_neg (not_not.mpr version)]
  change ReverseEnd k m (k.exec (if ¬(20 ≤ ihlAt m.skb ∧ ihlAt m.skb ≤ 60) then _ else _) m₂)
  by_cases ihl : 20 ≤ ihlAt m.skb ∧ ihlAt m.skb ≤ 60
  swap
  · rw [if_pos ihl]
    exact refuse same₂ fun adm => ihl adm.ihl
  rw [if_neg (not_not.mpr ihl)]
  refine (Reads.loadU16 (ETH_HDR_LEN + 2)).rule_after log₂ same₂
    (fun m₃ log₃ same₃ within₃ => ?_)
    fun m₃ log₃ same₃ cause => short log₃ same₃ (by decide) cause
  dsimp only
  rw [swap16_loaded within₃]
  change ReverseEnd k m (k.exec (if totalLenAt m.skb < ihlAt m.skb then _ else _) m₃)
  by_cases total : ihlAt m.skb ≤ totalLenAt m.skb
  swap
  · rw [if_pos (Nat.lt_of_not_le total)]
    exact refuse same₃ fun adm => total adm.total
  rw [if_neg (Nat.not_lt_of_le total)]
  refine (Reads.loadU16 (ETH_HDR_LEN + 6)).rule_after log₃ same₃
    (fun m₄ log₄ same₄ within₄ => ?_)
    fun m₄ log₄ same₄ cause => short log₄ same₄ (by decide) cause
  dsimp only
  rw [swap16_loaded within₄, exec_bind, exec_withCounters]
  refine (Reads.loadU8 (ETH_HDR_LEN + 9)).rule_after log₄ same₄
    (fun m₅ log₅ same₅ within₅ => ?_)
    fun m₅ log₅ same₅ cause => short log₅ same₅ (by decide) cause
  have hproto : UInt8.ofNat (leNat (slice m.skb (ETH_HDR_LEN + 9) 1)) = u8At m.skb 23 := rfl
  dsimp only
  rw [hproto]
  refine (Reads.loadU32 (ETH_HDR_LEN + 12)).rule_after log₅ same₅
    (fun m₆ log₆ same₆ within₆ => ?_)
    fun m₆ log₆ same₆ cause => short log₆ same₆ (by decide) cause
  refine (Reads.loadU32 (ETH_HDR_LEN + 16)).rule_after log₆ same₆
    (fun m₇ log₇ same₇ within₇ => ?_)
    fun m₇ log₇ same₇ cause => short log₇ same₇ (by decide) cause
  have base : 34 ≤ m.skb.length := within₇
  dsimp only
  rw [swap32_loaded within₆, swap32_loaded within₇, exec_bind, exec_configGet, same₇.2.1]
  change ReverseEnd k m (k.exec (if (!v4InPool (be32At m.skb 30)
    (m.maps.config.getD DEFAULT_CFG)) = true then _ else _) m₇)
  cases pool : v4InPool (be32At m.skb 30) (m.maps.config.getD DEFAULT_CFG) with
  | false => exact refuse same₇ fun adm => Bool.false_ne_true (pool.symm.trans adm.pool)
  | true =>
  rw [if_neg (by decide), exec_bind, exec_withCounters]
  change ReverseEnd k m (k.exec (if decide (be16At m.skb 20 &&& 0x3fff ≠ 0) = true
    then _ else _) m₇)
  by_cases whole : be16At m.skb 20 &&& 0x3fff = 0
  swap
  · rw [if_pos (decide_eq_true whole)]
    exact refuse same₇ fun adm => whole adm.whole
  rw [if_neg (by simpa using whole)]
  by_cases other : u8At m.skb 23 ≠ IPPROTO_TCP ∧ u8At m.skb 23 ≠ IPPROTO_UDP
  · rw [if_pos other]
    exact refuse same₇ fun adm => adm.proto.elim other.1 other.2
  rw [if_neg other]
  by_cases tcp : u8At m.skb 23 = IPPROTO_TCP
  · rw [if_pos tcp]
    exact reverseTcp_end log₇ same₇ base etherType version ihl total pool whole tcp
  · have udp : u8At m.skb 23 = IPPROTO_UDP := not_not.mp fun udp => other ⟨tcp, udp⟩
    rw [if_neg tcp]
    exact reverseUdp_end log₇ same₇ base etherType version ihl total pool whole udp

theorem nat64Reverse_case (k : Kernel) (m : Machine) : ReverseCase k m (k.exec nat64Reverse m) := by
  have h := tryNat64Reverse_end k m
  unfold nat64Reverse
  rw [exec_bind]
  generalize k.exec tryNat64Reverse m = z at h ⊢
  obtain ⟨r, m'⟩ := z
  cases r with
  | ok ret => exact h
  | error ret => exact h

end Natto64
