import Natto64.ChecksumRules
import Natto64.Forward
import Natto64.Frames
import Natto64.SessionRules

/-!
# What the forward classifier does

The checks a frame has to pass, the frame a translation makes of it, and the ways
`nat64_forward` can end.
-/
namespace Natto64
open Octets

/-- The flow of a forward frame. -/
def fwdKeyAt (skb : List UInt8) : FwdNatKey :=
  fwdNatKey (v6At skb 22) (nat64EmbeddedV4Be (v6At skb 38)) (be16At skb 54) (be16At skb 56)
    (u8At skb 20)

/-- The IPv6 payload length for TCP, the UDP length for UDP. -/
def fwdL4LenAt (skb : List UInt8) : UInt16 :=
  if u8At skb 20 = IPPROTO_TCP then be16At skb 18 else be16At skb 58

/-- Where the checksum field is in a transport header. -/
def csumFieldOff (proto : UInt8) : Nat := if proto = IPPROTO_TCP then 16 else 6

/-- The frame passes the checks made before the flow is looked up, and its client maps to
the external address `extV4`. -/
structure FwdAdmitted (cfg : Nat64Config) (skb : List UInt8) (extV4 : UInt32) : Prop where
  base : 54 ≤ skb.length
  etherType : be16At skb 12 = ETH_P_IPV6
  prefix96 : (v6At skb 38).toList.take 12 = cfg.prefix96.toList
  proto : u8At skb 20 = IPPROTO_TCP ∨ u8At skb 20 = IPPROTO_UDP
  pool : selectV4FromPoolEbpf (v6At skb 22) cfg = some extV4
  lenMax : (fwdL4LenAt skb).toNat ≤ MAX_L4_LEN
  udp : u8At skb 20 = IPPROTO_UDP → 60 ≤ skb.length ∧ UDP_HDR_LEN ≤ (fwdL4LenAt skb).toNat

/-- The checksum field after the update, from the one of the frame. -/
def fwdCsum (k : Kernel) (skb : List UInt8) (extV4 : UInt32) (extPort : UInt16) :
    Option UInt16 :=
  csumV6ToV4 k (fwdL4LenAt skb) (u8At skb 20) (v6At skb 22) (v6At skb 38) extV4
    (nat64EmbeddedV4Be (v6At skb 38)) (some (be16At skb 54, extPort))
    (u8At skb 20 == IPPROTO_UDP)
    (ofNeBytes16 (slice skb (54 + csumFieldOff (u8At skb 20)) 2))

theorem fwdCsum_ideal (now : UInt64) (prandom : UInt32) (skb : List UInt8) (extV4 : UInt32)
    (extPort : UInt16) : fwdCsum (.ideal now prandom) skb extV4 extPort ≠ none :=
  Option.isSome_iff_ne_none.mp (csumV6ToV4_ideal ..)

def fwdHeader (skb : List UInt8) (extV4 : UInt32) : List UInt8 :=
  (ipv4WireHeader (fwdL4LenAt skb + 20) extV4 (nat64EmbeddedV4Be (v6At skb 38))
    (u8At skb 20)).bytes

/-- The translated frame. -/
def fwdFrame (skb : List UInt8) (extV4 : UInt32) (extPort csum : UInt16) : List UInt8 :=
  ethHeader skb ETH_P_IP ++ (fwdHeader skb extV4 ++
    overwrite (overwrite (skb.drop 54) 0 (beBytes16 extPort)) (csumFieldOff (u8At skb 20))
      (neBytes16 csum))

/-- The reverse entry a forward packet writes. -/
def fwdNatVal (key : FwdNatKey) (generation : UInt32) (nowNs : UInt64) : NatVal where
  vmV6 := key.vmV6
  vmPort := key.vmPort
  remoteV4 := key.remoteV4
  remotePort := key.remotePort
  generation := generation
  lastSeenNs := nowNs

/-- The action of `redirect_to_iface`. -/
def redirected (k : Kernel) (ifindex : UInt32) : TcAction :=
  if ifindex ≠ 0 ∧ k.redirectOk = true then .redirect else .shot

theorem redirected_ne_pipe (k : Kernel) (ifindex : UInt32) : redirected k ifindex ≠ .pipe := by
  unfold redirected
  split <;> decide

/-- The calls from one state to another: a clean start, `l`, and an end satisfying `Q`. -/
def Machine.Spans (m m' : Machine) (l : Calls) (Q : Calls → Prop) : Prop :=
  ∃ start rest, m'.log = rest ++ (l ++ (start ++ m.log)) ∧ Clean start ∧ Q rest

/-- The flow of the frame was looked up, with the stated outcome. -/
structure FwdMapped (k : Kernel) (m : Machine) (extV4 : UInt32)
    (r : Option (UInt32 × UInt16 × UInt32)) (s : Maps) (l : Calls) : Prop where
  admitted : FwdAdmitted (m.maps.config.getD DEFAULT_CFG) m.skb extV4
  tcp : u8At m.skb 20 = IPPROTO_TCP → k.changeProtoOk = true ∧ 58 ≤ m.skb.length
  mapping : MappingCase k (m.maps.config.getD DEFAULT_CFG) (fwdKeyAt m.skb) extV4 (u8At m.skb 20)
    k.now m.maps m.cpu r s l

/-- The end of `nat64_forward`. -/
inductive ForwardCase (k : Kernel) (m : Machine) : TcAction × Machine → Prop
  | passed {m'} (cause : (m.FaultyTo m' ∧ (k.Spurious ∨
          (u8At m.skb 20 = IPPROTO_TCP ∧ k.changeProtoOk = false))) ∨
        ∀ extV4, ¬ FwdAdmitted (m.maps.config.getD DEFAULT_CFG) m.skb extV4)
      (same : m.SameState m') : ForwardCase k m (.pipe, m')
  | cut {m' extV4} (admitted : FwdAdmitted (m.maps.config.getD DEFAULT_CFG) m.skb extV4)
      (tcp : u8At m.skb 20 = IPPROTO_TCP) (change : k.changeProtoOk = true)
      (cause : k.Spurious ∨ m.skb.length < 58) (length : m'.skb.length + 20 = m.skb.length)
      (maps : m.SameMaps m') (log : m.FaultyTo m') : ForwardCase k m (.pipe, m')
  | unmapped {m' extV4 s l} (mapped : FwdMapped k m extV4 none s l) (maps : m'.maps = s)
      (skb : if u8At m.skb 20 = IPPROTO_TCP then m'.skb.length + 20 = m.skb.length
        else m'.skb = m.skb) (log : m.Spans m' l (· = [])) : ForwardCase k m (.pipe, m')
  | dropped {m' extV4 t s l} (mapped : FwdMapped k m extV4 (some t) s l) (maps : m'.maps = s)
      (cause : k.Spurious ∨ k.changeProtoOk = false ∨
        m.skb.length < 54 + csumFieldOff (u8At m.skb 20) + 2 ∨ fwdCsum k m.skb t.1 t.2.1 = none ∨
        (u8At m.skb 20 = IPPROTO_TCP ∧ k.natInsertOk = false))
      (skb : if k.changeProtoOk then m'.skb.length + 20 = m.skb.length else m'.skb = m.skb)
      (log : m.Spans m' l Faulty) : ForwardCase k m (.pipe, m')
  | translated {m' extV4 t s l csum} (mapped : FwdMapped k m extV4 (some t) s l)
      (change : k.changeProtoOk = true)
      (within : 54 + csumFieldOff (u8At m.skb 20) + 2 ≤ m.skb.length)
      (chain : fwdCsum k m.skb t.1 t.2.1 = some csum)
      (skb : m'.skb = fwdFrame m.skb t.1 t.2.1 csum)
      (maps : m'.maps = if k.natInsertOk then s.setNat (natKey t.1 t.2.1 (u8At m.skb 20))
        (some (fwdNatVal (fwdKeyAt m.skb) t.2.2 k.now)) else s)
      (tcp : u8At m.skb 20 = IPPROTO_TCP → k.natInsertOk = true)
      (log : m.Spans m' l fun rest => (.natInsert, k.natInsertOk) ∈ rest ∧
        ((m.maps.config.getD DEFAULT_CFG).uplinkIfindex ≠ 0 →
          (.redirectNeigh, k.redirectOk) ∈ rest)) :
      ForwardCase k m (redirected k (m.maps.config.getD DEFAULT_CFG).uplinkIfindex, m')

/-- The action in the result of `try_nat64_forward` or `try_nat64_reverse`. -/
def verdict : Except TcAction TcAction → TcAction
  | .ok ret => ret
  | .error ret => ret

def ForwardEnd (k : Kernel) (m : Machine) (z : Except TcAction TcAction × Machine) : Prop :=
  ForwardCase k m (verdict z.1, z.2)

theorem exec_redirectToIface (k : Kernel) (m : Machine) (ifindex : UInt32) (forward : Bool) :
    k.exec (redirectToIface ifindex forward) m =
      (redirected k ifindex,
        if ifindex = 0 then m else m.logged .redirectNeigh k.redirectOk) := by
  unfold redirectToIface
  by_cases h : ifindex = 0
  · have hr : redirected k ifindex = .shot := if_neg fun hc => hc.1 h
    rw [if_pos h, if_pos h, hr]
    rfl
  · rw [if_neg h, if_neg h, exec_bind, exec_redirectNeigh]
    cases hok : k.redirectOk with
    | false =>
      have hr : redirected k ifindex = .shot := if_neg fun hc => by simp [hok] at hc
      rw [hr]
      rfl
    | true =>
      have hr : redirected k ifindex = .redirect := if_pos ⟨h, hok⟩
      rw [hr]
      rfl

section Rewrite
variable {β : Type} {k : Kernel} {m : Machine} {P : β × Machine → Prop}

/-- The header store, on a frame whose Ethernet header is done. -/
theorem writeIpv4Header_rule {eth gap rest : List UInt8} {l4Len : UInt16} {srcV4 dstV4 : UInt32}
    {proto : UInt8} {q : Bool → Ebpf β} (hmax : l4Len.toNat ≤ MAX_L4_LEN)
    (hskb : m.skb = eth ++ (gap ++ rest)) (he : eth.length = 14) (hg : gap.length = 20)
    (ok : ∀ m', m'.skb = eth ++ ((ipv4WireHeader (l4Len + 20) srcV4 dstV4 proto).bytes ++ rest) →
      m.SameMaps m' → m.CleanTo m' → P (k.exec (q true) m'))
    (failed : ∀ m', k.Spurious → m.SameState m' → m.FaultyTo m' → P (k.exec (q false) m')) :
    P (k.exec (writeIpv4Header l4Len srcV4 dstV4 proto >>= q) m) := by
  have hmax' : l4Len.toNat ≤ 1500 := hmax
  unfold writeIpv4Header
  rw [if_pos (by rw [IPV4_HDR_LEN]; omega)]
  refine store_rule (fun m' _ hskb' maps log => ok m' ?_ maps log)
    (fun m' cause same log => failed m' (cause.resolve_right ?_) same log)
  · rw [hskb', hskb]
    exact overwrite_header he (by rw [length_ipv4WireHeader, hg])
  · rw [length_ipv4WireHeader, hskb, ETH_HDR_LEN, List.length_append, List.length_append, he, hg]
    omega

/-- A store into the transport segment. -/
theorem storeSegment_rule {eth hdr rest new : List UInt8} {n off pos : Nat} {q : Bool → Ebpf β}
    (hskb : m.skb = eth ++ (hdr ++ rest)) (hn : eth.length + hdr.length = n)
    (hin : off + new.length ≤ rest.length) (hpos : pos = n + off)
    (ok : ∀ m', m'.skb = eth ++ (hdr ++ overwrite rest off new) → m.SameMaps m' → m.CleanTo m' →
      P (k.exec (q true) m'))
    (failed : ∀ m', k.Spurious → m.SameState m' → m.FaultyTo m' → P (k.exec (q false) m')) :
    P (k.exec (store pos new >>= q) m) := by
  subst hpos
  refine store_rule (fun m' _ hskb' maps log => ok m' ?_ maps log)
    (fun m' cause same log => failed m' (cause.resolve_right ?_) same log)
  · rw [hskb', hskb, overwrite_segment hn]
  · rw [hskb, List.length_append, List.length_append]
    omega

theorem six_le_csumFieldOff (proto : UInt8) : 6 ≤ csumFieldOff proto := by
  unfold csumFieldOff
  split <;> decide

/-- The IPv4 header of either branch, the Ethernet header being done. -/
theorem fwdHeader_rule {skb : List UInt8} {extV4 : UInt32} {proto : UInt8} {q : Bool → Ebpf β}
    (base : 54 ≤ skb.length) (lenMax : (fwdL4LenAt skb).toNat ≤ MAX_L4_LEN)
    (hproto : u8At skb 20 = proto) (hskb : m.skb = ethHeader skb ETH_P_IP ++ skb.drop 34)
    (ok : ∀ m', m'.skb = ethHeader skb ETH_P_IP ++ (fwdHeader skb extV4 ++ skb.drop 54) →
      m.SameMaps m' → m.CleanTo m' → P (k.exec (q true) m'))
    (failed : ∀ m', k.Spurious → m.SameState m' → m.FaultyTo m' → P (k.exec (q false) m')) :
    P (k.exec (writeIpv4Header (fwdL4LenAt skb) extV4 (nat64EmbeddedV4Be (v6At skb 38)) proto >>= q)
      m) := by
  subst hproto
  have hgap : ((skb.drop 34).take 20).length = 20 := by
    rw [List.length_take, List.length_drop]
    omega
  have hsplit := List.take_append_drop 20 (skb.drop 34)
  rw [List.drop_drop] at hsplit
  rw [← hsplit] at hskb
  exact writeIpv4Header_rule lenMax hskb (length_ethHeader (by omega) _) hgap ok failed

/-- The source port of either branch, both headers being done. -/
theorem fwdPort_rule {skb : List UInt8} {extV4 : UInt32} {extPort : UInt16} {q : Bool → Ebpf β}
    (base : 56 ≤ skb.length)
    (hskb : m.skb = ethHeader skb ETH_P_IP ++ (fwdHeader skb extV4 ++ skb.drop 54))
    (ok : ∀ m', m'.skb = ethHeader skb ETH_P_IP ++
        (fwdHeader skb extV4 ++ overwrite (skb.drop 54) 0 (beBytes16 extPort)) →
      m.SameMaps m' → m.CleanTo m' → P (k.exec (q true) m'))
    (failed : ∀ m', k.Spurious → m.SameState m' → m.FaultyTo m' → P (k.exec (q false) m')) :
    P (k.exec (store 34 (beBytes16 extPort) >>= q) m) := by
  have hn : (ethHeader skb ETH_P_IP).length + (fwdHeader skb extV4).length = 34 := by
    rw [length_ethHeader (by omega), fwdHeader, length_ipv4WireHeader]
  have hfits : 0 + (beBytes16 extPort).length ≤ (skb.drop 54).length := by
    rw [length_beBytes16, List.length_drop]
    omega
  exact storeSegment_rule hskb hn hfits rfl ok failed

/-- The frame once its headers are translated, whatever is written into the segment. -/
theorem length_fwdHeaders {skb rest : List UInt8} (extV4 : UInt32) (base : 54 ≤ skb.length)
    (hrest : rest.length = (skb.drop 54).length) :
    (ethHeader skb ETH_P_IP ++ (fwdHeader skb extV4 ++ rest)).length + 20 = skb.length := by
  rw [List.length_append, List.length_append, length_ethHeader (by omega), fwdHeader,
    length_ipv4WireHeader, hrest, List.length_drop]
  omega

/-- The checksum update of either branch, the rest of the frame being done. -/
theorem fwdChecksum_rule {skb : List UInt8} {extV4 : UInt32} {extPort : UInt16}
    {q : Option FwdL4CsumTrace → Ebpf β} (base : 56 ≤ skb.length)
    (hskb : m.skb = ethHeader skb ETH_P_IP ++
      (fwdHeader skb extV4 ++ overwrite (skb.drop 54) 0 (beBytes16 extPort)))
    (updated : ∀ trace m' csum, fwdCsum k skb extV4 extPort = some csum →
      54 + csumFieldOff (u8At skb 20) + 2 ≤ skb.length →
      m'.skb = fwdFrame skb extV4 extPort csum → m.SameMaps m' → m.CleanTo m' →
      P (k.exec (q (some trace)) m'))
    (failed : ∀ m', (k.Spurious ∨ skb.length < 54 + csumFieldOff (u8At skb 20) + 2 ∨
      fwdCsum k skb extV4 extPort = none) → m'.skb.length = m.skb.length → m.SameMaps m' →
      m.FaultyTo m' → P (k.exec (q none) m')) :
    P (k.exec (applyL4Nat64ChecksumDeltaV6ToV4 (34 + csumFieldOff (u8At skb 20)) (fwdL4LenAt skb)
      (u8At skb 20) (v6At skb 22) (v6At skb 38) extV4 (nat64EmbeddedV4Be (v6At skb 38))
      (some (be16At skb 54, extPort)) (u8At skb 20 == IPPROTO_UDP) >>= q) m) := by
  have hoff := six_le_csumFieldOff (u8At skb 20)
  have he : (ethHeader skb ETH_P_IP).length = 14 := length_ethHeader (by omega) _
  have hn : (ethHeader skb ETH_P_IP).length + (fwdHeader skb extV4).length = 34 := by
    rw [he, fwdHeader, length_ipv4WireHeader]
  have hfield : slice m.skb (34 + csumFieldOff (u8At skb 20)) 2 =
      slice skb (54 + csumFieldOff (u8At skb 20)) 2 := by
    rw [hskb, slice_segment hn, slice_overwrite_of_disjoint (Nat.zero_le _) (.inr ?_), slice_drop]
    rw [length_beBytes16]
    omega
  have hport : 0 + (beBytes16 extPort).length ≤ (skb.drop 54).length := by
    rw [length_beBytes16, List.length_drop]
    omega
  have hlen : m.skb.length + 20 = skb.length := by
    rw [hskb, List.length_append, List.length_append, ← Nat.add_assoc, hn, length_overwrite hport,
      List.length_drop]
    omega
  have hcase := applyV6ToV4_case k m (34 + csumFieldOff (u8At skb 20)) (fwdL4LenAt skb)
    (u8At skb 20) (v6At skb 22) (v6At skb 38) extV4 (nat64EmbeddedV4Be (v6At skb 38))
    (some (be16At skb 54, extPort)) (u8At skb 20 == IPPROTO_UDP)
  rw [hfield] at hcase
  refine hcase.rule (fun a m' c answer chain within hskb' maps log => ?_)
    (fun a m' answer cause hlen' maps log => ?_)
  · obtain ⟨trace, rfl⟩ := Option.isSome_iff_exists.mp answer
    refine updated trace m' c chain (by omega) ?_ maps log
    rw [hskb', hskb, overwrite_segment hn]
    rfl
  · obtain rfl := Option.not_isSome_iff_eq_none.mp (Bool.eq_false_iff.mp answer)
    exact failed m' (cause.imp_right fun h => h.imp_left fun h => by omega) hlen' maps log

end Rewrite

theorem length_fwdFrame {skb : List UInt8} {extV4 : UInt32} {extPort csum : UInt16}
    (within : 54 + csumFieldOff (u8At skb 20) + 2 ≤ skb.length) :
    (fwdFrame skb extV4 extPort csum).length + 20 = skb.length := by
  have hport : 0 + (beBytes16 extPort).length ≤ (skb.drop 54).length := by
    rw [length_beBytes16, List.length_drop]
    omega
  have hsum : csumFieldOff (u8At skb 20) + (neBytes16 csum).length ≤
      (overwrite (skb.drop 54) 0 (beBytes16 extPort)).length := by
    rw [length_neBytes16, length_overwrite hport, List.length_drop]
    omega
  rw [fwdFrame, List.length_append, List.length_append, length_ethHeader (by omega), fwdHeader,
    length_ipv4WireHeader, length_overwrite hsum, length_overwrite hport, List.length_drop]
  omega

section Branches
variable {k : Kernel} {m m₀ : Machine} {extV4 : UInt32}

/-- The redirect that ends a translation. -/
theorem ForwardCase.redirect {m₉ : Machine} {t : UInt32 × UInt16 × UInt32} {s : Maps} {l : Calls}
    {csum : UInt16} (mapped : FwdMapped k m extV4 (some t) s l) (change : k.changeProtoOk = true)
    (within : 54 + csumFieldOff (u8At m.skb 20) + 2 ≤ m.skb.length)
    (chain : fwdCsum k m.skb t.1 t.2.1 = some csum)
    (skb : m₉.skb = fwdFrame m.skb t.1 t.2.1 csum)
    (maps : m₉.maps = if k.natInsertOk then s.setNat (natKey t.1 t.2.1 (u8At m.skb 20))
      (some (fwdNatVal (fwdKeyAt m.skb) t.2.2 k.now)) else s)
    (tcp : u8At m.skb 20 = IPPROTO_TCP → k.natInsertOk = true)
    (log : m.Spans m₉ l ((.natInsert, k.natInsertOk) ∈ ·)) :
    ForwardCase k m (redirected k (m.maps.config.getD DEFAULT_CFG).uplinkIfindex,
      if (m.maps.config.getD DEFAULT_CFG).uplinkIfindex = 0 then m₉
      else m₉.logged .redirectNeigh k.redirectOk) := by
  obtain ⟨start, rest, hlog, hclean, hmem⟩ := log
  by_cases hup : (m.maps.config.getD DEFAULT_CFG).uplinkIfindex = 0
  · rw [if_pos hup]
    exact .translated mapped change within chain skb maps tcp
      ⟨start, rest, hlog, hclean, hmem, fun h => absurd hup h⟩
  · rw [if_neg hup]
    exact .translated mapped change within chain skb maps tcp
      ⟨start, (.redirectNeigh, k.redirectOk) :: rest, congrArg (List.cons _) hlog, hclean,
        List.mem_cons_of_mem _ hmem, fun _ => List.mem_cons_self⟩

/-- Where both branches stand once the Ethernet header is rewritten. -/
theorem etherType_rule {β : Type} {P : β × Machine → Prop} {q : Bool → Ebpf β} {skb : List UInt8}
    {m₁ : Machine} (base : 54 ≤ skb.length) (hskb : m₁.skb = skb.take 14 ++ skb.drop 34)
    (ok : ∀ m', m'.skb = ethHeader skb ETH_P_IP ++ skb.drop 34 → m₁.SameMaps m' → m₁.CleanTo m' →
      P (k.exec (q true) m'))
    (failed : ∀ m', k.Spurious → m₁.SameState m' → m₁.FaultyTo m' → P (k.exec (q false) m')) :
    P (k.exec (store 12 (beBytes16 ETH_P_IP) >>= q) m₁) := by
  refine store_rule (fun m' _ hskb' maps log => ok m' ?_ maps log)
    (fun m' cause same log => failed m' (cause.resolve_right ?_) same log)
  · rw [hskb', hskb]
    exact overwrite_etherType (by omega) _
  · rw [hskb, length_beBytes16, List.length_append, List.length_take, List.length_drop]
    omega

/-! What the TCP branch reads from the shortened frame. -/

theorem be16At_shortened {skb : List UInt8} (base : 12 ≤ skb.length) (i : Nat) :
    be16At (ethHeader skb ETH_P_IP ++ skb.drop 34) (34 + i) = be16At skb (54 + i) := by
  have hoff : 34 + i = (ethHeader skb ETH_P_IP).length + (20 + i) := by
    rw [length_ethHeader base]
    omega
  rw [be16At, be16At, hoff, slice_append_right, slice_drop]
  congr 2
  omega

theorem fwdKeyAt_tcp {skb shortened : List UInt8} (base : 12 ≤ skb.length)
    (tcp : u8At skb 20 = IPPROTO_TCP) (h : shortened = ethHeader skb ETH_P_IP ++ skb.drop 34) :
    fwdNatKey (v6At skb 22) (nat64EmbeddedV4Be (v6At skb 38)) (be16At shortened 34)
      (be16At shortened (34 + 2)) IPPROTO_TCP = fwdKeyAt skb := by
  rw [h, be16At_shortened base 0, be16At_shortened base 2, fwdKeyAt, tcp]

theorem applyV6ToV4_tcp {skb shortened : List UInt8} (base : 12 ≤ skb.length)
    (tcp : u8At skb 20 = IPPROTO_TCP) (h : shortened = ethHeader skb ETH_P_IP ++ skb.drop 34)
    (extV4 : UInt32) (extPort : UInt16) :
    applyL4Nat64ChecksumDeltaV6ToV4 (34 + 16) (fwdL4LenAt skb) IPPROTO_TCP (v6At skb 22)
        (v6At skb 38) extV4 (nat64EmbeddedV4Be (v6At skb 38))
        (some (be16At shortened 34, extPort)) false =
      applyL4Nat64ChecksumDeltaV6ToV4 (34 + csumFieldOff (u8At skb 20)) (fwdL4LenAt skb)
        (u8At skb 20) (v6At skb 22) (v6At skb 38) extV4 (nat64EmbeddedV4Be (v6At skb 38))
        (some (be16At skb 54, extPort)) (u8At skb 20 == IPPROTO_UDP) := by
  rw [h, be16At_shortened base 0, tcp]
  rfl

theorem newForward_tcp {skb shortened : List UInt8} (base : 12 ≤ skb.length)
    (h : shortened = ethHeader skb ETH_P_IP ++ skb.drop 34) (generation : UInt32) (now : UInt64) :
    NatVal.newForwardWithGeneration (v6At skb 22) (be16At shortened 34)
      (nat64EmbeddedV4Be (v6At skb 38)) (be16At shortened (34 + 2)) generation now =
      fwdNatVal (fwdKeyAt skb) generation now := by
  rw [h, be16At_shortened base 0, be16At_shortened base 2]
  rfl

theorem forwardTcp_end (info : Ipv6Info) (hinfo : ipv6InfoAt 14 m.skb = info)
    (log₀ : m.CleanTo m₀) (same₀ : m.SameState m₀) (base : 54 ≤ m.skb.length)
    (etherType : be16At m.skb 12 = ETH_P_IPV6)
    (prefix96 : (v6At m.skb 38).toList.take 12 =
      (m.maps.config.getD DEFAULT_CFG).prefix96.toList)
    (tcp : u8At m.skb 20 = IPPROTO_TCP)
    (pool : selectV4FromPoolEbpf (v6At m.skb 22) (m.maps.config.getD DEFAULT_CFG) = some extV4) :
    ForwardEnd k m (k.exec (forwardTcp (m.maps.config.getD DEFAULT_CFG) info
      (nat64EmbeddedV4Bytes info.dst) (nat64EmbeddedV4Be info.dst) extV4) m₀) := by
  have hsrc : info.src = v6At m.skb 22 := by rw [← hinfo]; rfl
  have hdst : info.dst = v6At m.skb 38 := by rw [← hinfo]; rfl
  have hlen : info.payloadLen = fwdL4LenAt m.skb := by
    rw [fwdL4LenAt, if_pos tcp, ← hinfo]
    rfl
  have hoff : ETH_HDR_LEN + IPV4_HDR_LEN = 34 := rfl
  unfold forwardTcp
  rw [exec_bind, exec_withCounters]
  simp only [hsrc, hdst, hlen, hoff]
  by_cases hmax : MAX_L4_LEN < (fwdL4LenAt m.skb).toNat
  · rw [if_pos hmax]
    exact .passed (.inr fun _ h => absurd hmax (Nat.not_lt_of_le h.lenMax)) same₀
  have lenMax := Nat.le_of_not_lt hmax
  rw [if_neg hmax]
  have admitted : FwdAdmitted (m.maps.config.getD DEFAULT_CFG) m.skb extV4 :=
    ⟨base, etherType, prefix96, .inl tcp, pool, lenMax, fun udp => by
      rw [tcp] at udp
      exact absurd udp (by decide)⟩
  have hchange := changeProtoSkb_ip k.room (show 34 ≤ m₀.skb.length by rw [same₀.1]; omega)
  refine changeProto_rule hchange (fun m₁ change hskb₁ maps₁ log₁ => ?_)
    (fun m₁ change same₁ log₁ => ?_)
  swap
  · exact .passed (.inl ⟨log₀.trans_faulty log₁, .inr ⟨tcp, change⟩⟩) (same₀.trans same₁)
  rw [same₀.1] at hskb₁
  have maps₁ := Machine.SameMaps.trans same₀.2 maps₁
  have log₁ := log₀.trans log₁
  rw [if_neg (by decide), exec_bind, exec_withCounters]
  refine etherType_rule base hskb₁ (fun m₂ hskb₂ maps₂ log₂ => ?_) (fun m₂ cause same₂ log₂ => ?_)
  swap
  · have hlen₂ : m₂.skb.length + 20 = m.skb.length := by
      rw [same₂.1, hskb₁, List.length_append, List.length_take, List.length_drop]
      omega
    exact .cut admitted tcp change (.inl cause) hlen₂ (maps₁.trans same₂.2)
      (log₁.trans_faulty log₂)
  have maps₂ := maps₁.trans maps₂
  have log₂ := log₁.trans log₂
  have he : (ethHeader m.skb ETH_P_IP).length = 14 := length_ethHeader (by omega) _
  have hlen₂ : m₂.skb.length + 20 = m.skb.length := by
    rw [hskb₂, List.length_append, he, List.length_drop]
    omega
  rw [if_neg (by decide)]
  refine (reads_tcpPorts 34).rule (fun m₃ log₃ same₃ within => ?_) (fun m₃ log₃ same₃ cause => ?_)
  swap
  · exact .cut admitted tcp change (cause.imp_right fun h => by omega)
      ((congrArg (List.length · + 20) same₃.1).trans hlen₂) (maps₂.trans same₃.2)
      (log₂.trans_faulty log₃)
  have maps₃ := maps₂.trans same₃.2
  have log₃ := log₂.trans log₃
  dsimp only
  rw [exec_bind, exec_ktimeGetNs, fwdKeyAt_tcp (by omega) tcp hskb₂]
  refine mapping_rule (by rw [maps₃.1]) fun r m₄ l log₄ skb₄ mapping => ?_
  rw [maps₃.1, maps₃.2, ← tcp] at mapping
  have mapped : FwdMapped k m extV4 r m₄.maps l := ⟨admitted, fun _ => ⟨change, by omega⟩, mapping⟩
  have span : ∀ {m'} {Q : Calls → Prop} (rest : Calls), m'.log = rest ++ m₄.log → Q rest →
      m.Spans m' l Q := by
    intro m' Q rest hrest hQ
    obtain ⟨start, hstart, hclean⟩ := log₃
    exact ⟨start, rest, by rw [hrest, log₄, hstart], hclean, hQ⟩
  have hlen₄ : m₄.skb.length + 20 = m.skb.length := by rw [skb₄, same₃.1, hlen₂]
  rcases r with _ | ⟨ext, port, gen⟩
  · have hskb : if u8At m.skb 20 = IPPROTO_TCP then m₄.skb.length + 20 = m.skb.length
        else m₄.skb = m.skb := by
      rw [if_pos tcp]
      exact hlen₄
    exact .unmapped mapped rfl hskb (span [] rfl rfl)
  have dropped : ∀ m', (k.Spurious ∨ k.changeProtoOk = false ∨
        m.skb.length < 54 + csumFieldOff (u8At m.skb 20) + 2 ∨ fwdCsum k m.skb ext port = none ∨
        (u8At m.skb 20 = IPPROTO_TCP ∧ k.natInsertOk = false)) →
      m'.skb.length + 20 = m.skb.length → m₄.SameMaps m' → m₄.FaultyTo m' →
      ForwardCase k m (.pipe, m') := by
    intro m' cause hlen maps log
    obtain ⟨rest, hrest, hfaulty⟩ := log
    exact .dropped mapped maps.1 cause (by rw [if_pos change]; exact hlen) (span rest hrest hfaulty)
  have hskb₄ : m₄.skb = ethHeader m.skb ETH_P_IP ++ m.skb.drop 34 := by rw [skb₄, same₃.1, hskb₂]
  refine fwdHeader_rule base lenMax tcp hskb₄ (fun m₅ hskb₅ maps₅ log₅ => ?_)
    (fun m₅ cause same₅ log₅ => ?_)
  swap
  · exact dropped m₅ (.inl cause) (by rw [same₅.1, hlen₄]) same₅.2 log₅
  have hlen₅ : m₅.skb.length + 20 = m.skb.length := by rw [hskb₅, length_fwdHeaders _ base rfl]
  rw [if_neg (by decide), exec_bind, exec_withCounters]
  refine fwdPort_rule (by omega) hskb₅ (fun m₆ hskb₆ maps₆ log₆ => ?_)
    (fun m₆ cause same₆ log₆ => ?_)
  swap
  · exact dropped m₆ (.inl cause) (by rw [same₆.1, hlen₅]) (maps₅.trans same₆.2)
      (log₅.trans_faulty log₆)
  have maps₆ := maps₅.trans maps₆
  have log₆ := log₅.trans log₆
  have hlen₆ : m₆.skb.length + 20 = m.skb.length := by
    rw [hskb₆, length_fwdHeaders _ base (length_overwrite ?_)]
    rw [length_beBytes16, List.length_drop]
    omega
  rw [if_neg (by decide), exec_bind, exec_withCounters,
    applyV6ToV4_tcp (by omega) tcp hskb₂]
  refine fwdChecksum_rule (by omega) hskb₆ (fun trace m₇ csum chain within hskb₇ maps₇ log₇ => ?_)
    (fun m₇ cause hlen₇ maps₇ log₇ => ?_)
  swap
  · exact dropped m₇ (cause.imp_right fun h => .inr (h.imp_right .inl)) (by rw [hlen₇, hlen₆])
      (maps₆.trans maps₇) (log₆.trans_faulty log₇)
  have maps₇ := maps₆.trans maps₇
  have log₇ := log₆.trans log₇
  refine branch_rule (exec_natInsert k m₇ _ _) (fun insert => ?_) (fun insert => ?_)
  swap
  · exact dropped _ (.inr (.inr (.inr (.inr ⟨tcp, insert⟩))))
      ((congrArg (List.length · + 20) hskb₇).trans (length_fwdFrame within)) maps₇ (log₇.faulted _)
  have finish : ∀ m₉ rest, m₉.skb = m₇.skb →
      m₉.maps = m₇.maps.setNat (natKey ext port IPPROTO_TCP)
        (some (fwdNatVal (fwdKeyAt m.skb) gen k.now)) →
      m₉.log = rest ++ (.natInsert, true) :: m₇.log →
      ForwardCase k m (redirected k (m.maps.config.getD DEFAULT_CFG).uplinkIfindex,
        if (m.maps.config.getD DEFAULT_CFG).uplinkIfindex = 0 then m₉
        else m₉.logged .redirectNeigh k.redirectOk) := by
    intro m₉ rest skb₉ maps₉ log₉
    obtain ⟨l₇, hl₇, -⟩ := log₇
    refine ForwardCase.redirect mapped change within chain (skb₉.trans hskb₇) ?_ (fun _ => insert)
      (span (rest ++ (.natInsert, true) :: l₇) ?_ ?_)
    · rw [maps₉, maps₇.1, if_pos insert, tcp]
    · rw [log₉, hl₇]
      simp only [List.append_assoc, List.cons_append]
    · rw [insert]
      exact List.mem_append_right _ List.mem_cons_self
  rw [if_neg (by decide), newForward_tcp (by omega) hskb₂]
  simp only [exec_bind _ (withCounters _ _), exec_withCounters, exec_bind _ (diag _), exec_diag]
  refine (Reads.loadU16 (34 + 16)).rule (fun m₉ log₉ same₉ _ => ?_) (fun m₉ log₉ same₉ _ => ?_)
  · simp only [exec_bind, exec_diag, exec_redirectToIface, exec_pure]
    obtain ⟨rest, hlog, -⟩ := log₉
    exact finish m₉ rest same₉.1 same₉.2.1 hlog
  · simp only [exec_bind, exec_diag, exec_redirectToIface, exec_pure]
    obtain ⟨rest, hlog, -⟩ := log₉
    exact finish m₉ rest same₉.1 same₉.2.1 hlog

theorem forwardUdp_end (info : Ipv6Info) (hinfo : ipv6InfoAt 14 m.skb = info)
    (log₀ : m.CleanTo m₀) (same₀ : m.SameState m₀) (base : 54 ≤ m.skb.length)
    (etherType : be16At m.skb 12 = ETH_P_IPV6)
    (prefix96 : (v6At m.skb 38).toList.take 12 =
      (m.maps.config.getD DEFAULT_CFG).prefix96.toList)
    (udp : u8At m.skb 20 = IPPROTO_UDP)
    (pool : selectV4FromPoolEbpf (v6At m.skb 22) (m.maps.config.getD DEFAULT_CFG) = some extV4) :
    ForwardEnd k m (k.exec (forwardUdp (m.maps.config.getD DEFAULT_CFG) info
      (nat64EmbeddedV4Be info.dst) extV4) m₀) := by
  have hsrc : info.src = v6At m.skb 22 := by rw [← hinfo]; rfl
  have hdst : info.dst = v6At m.skb 38 := by rw [← hinfo]; rfl
  have hl4 : info.l4AbsOffset = 54 := by rw [← hinfo]; rfl
  have hoff : ETH_HDR_LEN + IPV4_HDR_LEN = 34 := rfl
  have notTcp : u8At m.skb 20 ≠ IPPROTO_TCP := by rw [udp]; decide
  have hlen : fwdL4LenAt m.skb = be16At m.skb 58 := if_neg notTcp
  unfold forwardUdp
  rw [exec_bind, exec_withCounters]
  simp only [hsrc, hdst, hl4, hoff]
  refine (reads_udpPortsLenCounting _ 54).rule_after log₀ same₀
    (fun m₁ log₁ same₁ within₁ => ?_) (fun m₁ log₁ same₁ cause => ?_)
  swap
  · refine .passed (cause.imp (fun h => ⟨log₁, .inl h⟩) fun h _ adm => ?_) same₁
    exact absurd (adm.udp udp).1 (by omega)
  dsimp only
  rw [← hlen]
  by_cases hmin : (fwdL4LenAt m.skb).toNat < UDP_HDR_LEN
  · rw [if_pos hmin]
    exact .passed (.inr fun _ adm => absurd hmin (Nat.not_lt_of_le (adm.udp udp).2)) same₁
  by_cases hmax : MAX_L4_LEN < (fwdL4LenAt m.skb).toNat
  · rw [if_neg hmin, if_pos hmax]
    exact .passed (.inr fun _ adm => absurd hmax (Nat.not_lt_of_le adm.lenMax)) same₁
  have lenMax := Nat.le_of_not_lt hmax
  have admitted : FwdAdmitted (m.maps.config.getD DEFAULT_CFG) m.skb extV4 :=
    ⟨base, etherType, prefix96, .inr udp, pool, lenMax, fun _ => ⟨within₁, Nat.le_of_not_lt hmin⟩⟩
  have hkey : fwdNatKey (v6At m.skb 22) (nat64EmbeddedV4Be (v6At m.skb 38)) (be16At m.skb 54)
      (be16At m.skb (54 + 2)) IPPROTO_UDP = fwdKeyAt m.skb := by
    rw [fwdKeyAt, udp]
  rw [if_neg hmin, if_neg hmax, exec_bind, exec_ktimeGetNs, hkey]
  refine mapping_rule (by rw [same₁.2.1]) fun r m₂ l log₂ skb₂ mapping => ?_
  rw [same₁.2.1, same₁.2.2, ← udp] at mapping
  have mapped : FwdMapped k m extV4 r m₂.maps l :=
    ⟨admitted, fun tcp => absurd tcp notTcp, mapping⟩
  have span : ∀ {m'} {Q : Calls → Prop} (rest : Calls), m'.log = rest ++ m₂.log → Q rest →
      m.Spans m' l Q := by
    intro m' Q rest hrest hQ
    obtain ⟨start, hstart, hclean⟩ := log₁
    exact ⟨start, rest, by rw [hrest, log₂, hstart], hclean, hQ⟩
  have skb₂ : m₂.skb = m.skb := skb₂.trans same₁.1
  rcases r with _ | ⟨ext, port, gen⟩
  · exact .unmapped mapped rfl (by rw [if_neg notTcp]; exact skb₂) (span [] rfl rfl)
  have hchange := changeProtoSkb_ip k.room (show 34 ≤ m₂.skb.length by rw [skb₂]; omega)
  refine changeProto_rule hchange (fun m₃ change hskb₃ maps₃ log₃ => ?_)
    (fun m₃ change same₃ log₃ => ?_)
  swap
  · obtain ⟨rest, hrest, hfaulty⟩ := log₃
    have hskb : if k.changeProtoOk then m₃.skb.length + 20 = m.skb.length
        else m₃.skb = m.skb := by
      rw [if_neg (by rw [change]; decide)]
      exact same₃.1.trans skb₂
    exact .dropped mapped same₃.2.1 (.inr (.inl change)) hskb (span rest hrest hfaulty)
  have dropped : ∀ m', (k.Spurious ∨ k.changeProtoOk = false ∨
        m.skb.length < 54 + csumFieldOff (u8At m.skb 20) + 2 ∨ fwdCsum k m.skb ext port = none ∨
        (u8At m.skb 20 = IPPROTO_TCP ∧ k.natInsertOk = false)) →
      m'.skb.length + 20 = m.skb.length → m₂.SameMaps m' → m₂.FaultyTo m' →
      ForwardCase k m (.pipe, m') := by
    intro m' cause hlen maps log
    obtain ⟨rest, hrest, hfaulty⟩ := log
    exact .dropped mapped maps.1 cause (by rw [if_pos change]; exact hlen) (span rest hrest hfaulty)
  rw [skb₂] at hskb₃
  have hlen₃ : m₃.skb.length + 20 = m.skb.length := by
    rw [hskb₃, List.length_append, List.length_take, List.length_drop]
    omega
  rw [if_neg (by decide), exec_bind, exec_withCounters]
  refine etherType_rule base hskb₃ (fun m₄ hskb₄ maps₄ log₄ => ?_) (fun m₄ cause same₄ log₄ => ?_)
  swap
  · exact dropped m₄ (.inl cause) (by rw [same₄.1, hlen₃]) (maps₃.trans same₄.2)
      (log₃.trans_faulty log₄)
  have maps₄ := maps₃.trans maps₄
  have log₄ := log₃.trans log₄
  have hlen₄ : m₄.skb.length + 20 = m.skb.length := by
    rw [hskb₄, List.length_append, length_ethHeader (by omega), List.length_drop]
    omega
  rw [if_neg (by decide)]
  refine fwdHeader_rule base lenMax udp hskb₄ (fun m₅ hskb₅ maps₅ log₅ => ?_)
    (fun m₅ cause same₅ log₅ => ?_)
  swap
  · exact dropped m₅ (.inl cause) (by rw [same₅.1, hlen₄]) (maps₄.trans same₅.2)
      (log₄.trans_faulty log₅)
  have maps₅ := maps₄.trans maps₅
  have log₅ := log₄.trans log₅
  have hlen₅ : m₅.skb.length + 20 = m.skb.length := by rw [hskb₅, length_fwdHeaders _ base rfl]
  rw [if_neg (by decide), exec_bind, exec_withCounters]
  refine fwdPort_rule (by omega) hskb₅ (fun m₆ hskb₆ maps₆ log₆ => ?_)
    (fun m₆ cause same₆ log₆ => ?_)
  swap
  · exact dropped m₆ (.inl cause) (by rw [same₆.1, hlen₅]) (maps₅.trans same₆.2)
      (log₅.trans_faulty log₆)
  have maps₆ := maps₅.trans maps₆
  have log₆ := log₅.trans log₆
  have hlen₆ : m₆.skb.length + 20 = m.skb.length := by
    rw [hskb₆, length_fwdHeaders _ base (length_overwrite ?_)]
    rw [length_beBytes16, List.length_drop]
    omega
  have hcsum : applyL4Nat64ChecksumDeltaV6ToV4 (34 + 6) (fwdL4LenAt m.skb) IPPROTO_UDP
      (v6At m.skb 22) (v6At m.skb 38) ext (nat64EmbeddedV4Be (v6At m.skb 38))
      (some (be16At m.skb 54, port)) true =
    applyL4Nat64ChecksumDeltaV6ToV4 (34 + csumFieldOff (u8At m.skb 20)) (fwdL4LenAt m.skb)
      (u8At m.skb 20) (v6At m.skb 22) (v6At m.skb 38) ext (nat64EmbeddedV4Be (v6At m.skb 38))
      (some (be16At m.skb 54, port)) (u8At m.skb 20 == IPPROTO_UDP) := by
    rw [udp]
    rfl
  rw [if_neg (by decide), hcsum]
  refine fwdChecksum_rule (by omega) hskb₆ (fun trace m₇ csum chain within hskb₇ maps₇ log₇ => ?_)
    (fun m₇ cause hlen₇ maps₇ log₇ => ?_)
  swap
  · exact dropped m₇ (cause.imp_right fun h => .inr (h.imp_right .inl)) (by rw [hlen₇, hlen₆])
      (maps₆.trans maps₇) (log₆.trans_faulty log₇)
  have maps₇ := maps₆.trans maps₇
  have log₇ := log₆.trans log₇
  have finish : ∀ m₉, m₉.skb = m₇.skb →
      m₉.maps = (if k.natInsertOk then m₂.maps.setNat (natKey ext port (u8At m.skb 20))
        (some (fwdNatVal (fwdKeyAt m.skb) gen k.now)) else m₂.maps) →
      m₉.log = (.natInsert, k.natInsertOk) :: m₇.log →
      ForwardCase k m (redirected k (m.maps.config.getD DEFAULT_CFG).uplinkIfindex,
        if (m.maps.config.getD DEFAULT_CFG).uplinkIfindex = 0 then m₉
        else m₉.logged .redirectNeigh k.redirectOk) := by
    intro m₉ skb₉ maps₉ log₉
    obtain ⟨l₇, hl₇, -⟩ := log₇
    exact ForwardCase.redirect mapped change within chain (skb₉.trans hskb₇) maps₉
      (fun tcp => absurd tcp notTcp)
      (span ((.natInsert, k.natInsertOk) :: l₇) (by rw [log₉, hl₇]; rfl) List.mem_cons_self)
  refine branch_rule (exec_natInsert k m₇ _ _) (fun insert => ?_) (fun insert => ?_)
  · simp only [reduceIte, exec_bind, exec_withCounters, exec_redirectToIface, exec_pure]
    refine finish _ rfl ?_ (by rw [insert]; rfl)
    rw [if_pos insert, ← maps₇.1, udp]
    rfl
  · simp only [Bool.false_eq_true, reduceIte, exec_bind, exec_withCounters, exec_redirectToIface,
      exec_pure]
    refine finish _ rfl ?_ (by rw [insert]; rfl)
    rw [if_neg (by rw [insert]; decide), ← maps₇.1]
    rfl

end Branches

theorem tryNat64Forward_end (k : Kernel) (m : Machine) :
    ForwardEnd k m (k.exec tryNat64Forward m) := by
  unfold tryNat64Forward
  rw [exec_bind, exec_withCounters]
  dsimp only
  refine (Reads.loadU16 12).rule (fun m₁ log₁ same₁ within => ?_) (fun m₁ log₁ same₁ cause => ?_)
  swap
  · exact .passed (cause.imp (fun h => ⟨log₁, .inl h⟩) fun h _ adm => absurd adm.base (by omega))
      same₁
  dsimp only
  rw [swap16_loaded within]
  by_cases etherType : be16At m.skb 12 = ETH_P_IPV6
  swap
  · rw [if_pos etherType]
    exact .passed (.inr fun _ adm => etherType adm.etherType) same₁
  rw [if_neg (not_not.mpr etherType), exec_bind, exec_withCounters]
  refine (reads_parseIpv6Base ETH_HDR_LEN).rule_after log₁ same₁
    (fun m₂ log₂ same₂ base => ?_) (fun m₂ log₂ same₂ cause => ?_)
  swap
  · exact .passed (cause.imp (fun h => ⟨log₂, .inl h⟩)
      fun h _ adm => absurd adm.base (Nat.not_le_of_lt h)) same₂
  have base : 54 ≤ m.skb.length := base
  have hdst : (ipv6InfoAt ETH_HDR_LEN m.skb).dst = v6At m.skb 38 := rfl
  have hnext : (ipv6InfoAt ETH_HDR_LEN m.skb).nextHeader = u8At m.skb 20 := rfl
  have hsrc : (ipv6InfoAt ETH_HDR_LEN m.skb).src = v6At m.skb 22 := rfl
  dsimp only
  simp only [exec_bind _ (withCounters _ _), exec_withCounters, exec_bind _ (diag _), exec_diag,
    exec_bind _ configGet, exec_configGet, same₂.2.1, hnext]
  by_cases prefix96 : (v6At m.skb 38).toList.take 12 =
      (m.maps.config.getD DEFAULT_CFG).prefix96.toList
  swap
  · rw [hdst, if_pos prefix96]
    exact .passed (.inr fun _ adm => prefix96 adm.prefix96) same₂
  rw [hdst, if_neg (not_not.mpr prefix96)]
  simp only [exec_bind _ (withCounters _ _), exec_withCounters]
  have refuse : (∀ extV4, ¬ FwdAdmitted (m.maps.config.getD DEFAULT_CFG) m.skb extV4) →
      ForwardEnd k m (.ok .pipe, m₂) := fun h => .passed (.inr h) same₂
  by_cases extension : isExtensionHeader (u8At m.skb 20) = true
  · rw [if_pos extension]
    refine refuse fun _ adm => ?_
    rcases adm.proto with h | h <;> rw [h] at extension <;> exact absurd extension (by decide)
  rw [if_neg extension]
  by_cases other : u8At m.skb 20 ≠ IPPROTO_TCP ∧ u8At m.skb 20 ≠ IPPROTO_UDP
  · rw [if_pos other]
    exact refuse fun _ adm => adm.proto.elim other.1 other.2
  rw [if_neg other, hsrc]
  cases pool : selectV4FromPoolEbpf (v6At m.skb 22) (m.maps.config.getD DEFAULT_CFG) with
  | none =>
    refine refuse fun _ adm => ?_
    rw [adm.pool] at pool
    cases pool
  | some extV4 =>
    dsimp only
    by_cases tcp : u8At m.skb 20 = IPPROTO_TCP
    · rw [if_pos tcp]
      exact forwardTcp_end _ rfl log₂ same₂ base etherType prefix96 tcp pool
    · have udp : u8At m.skb 20 = IPPROTO_UDP :=
        not_not.mp fun udp => other ⟨tcp, udp⟩
      rw [if_neg tcp]
      exact forwardUdp_end _ rfl log₂ same₂ base etherType prefix96 udp pool

theorem nat64Forward_case (k : Kernel) (m : Machine) : ForwardCase k m (k.exec nat64Forward m) := by
  have h := tryNat64Forward_end k m
  unfold nat64Forward
  rw [exec_bind]
  generalize k.exec tryNat64Forward m = z at h ⊢
  obtain ⟨r, m'⟩ := z
  cases r with
  | ok ret => exact h
  | error ret => exact h

end Natto64
