import Natto64.Dataplane
import Natto64.FrameFields

/-!
# Return packets

What the reverse classifier delivers: to which packets, with which source address, and
with how much of the transport segment that came in.
-/
namespace Natto64
open Octets

/-- A frame that is not handed back to the stack was translated. -/
theorem forward_rewritten {k : Kernel} {m : Machine} (h : (k.exec nat64Forward m).1 ≠ .pipe) :
    ∃ extV4 t s l csum, FwdMapped k m extV4 (some t) s l ∧
      54 + csumFieldOff (u8At m.skb 20) + 2 ≤ m.skb.length ∧
      (k.exec nat64Forward m).2.skb = fwdFrame m.skb t.1 t.2.1 csum ∧
      (k.exec nat64Forward m).2.maps =
        if k.natInsertOk then s.setNat (natKey t.1 t.2.1 (u8At m.skb 20))
          (some (fwdNatVal (fwdKeyAt m.skb) t.2.2 k.now)) else s := by
  have hcase := nat64Forward_case k m
  generalize k.exec nat64Forward m = z at h hcase ⊢
  cases hcase with
  | translated mapped change within chain skb maps =>
    exact ⟨_, _, _, _, _, mapped, within, skb, maps⟩
  | _ => exact absurd rfl h

theorem reverse_rewritten {k : Kernel} {m : Machine} (h : (k.exec nat64Reverse m).1 ≠ .pipe) :
    ∃ v csum, RevMatched m.maps m.skb v ∧
      34 + csumFieldOff (u8At m.skb 23) + 2 ≤ m.skb.length ∧
      (k.exec nat64Reverse m).2.skb = revFrame m.skb v csum ∧
      (k.exec nat64Reverse m).2.maps = m.maps.refresh (revKeyAt m.skb) v k.now := by
  have hcase := nat64Reverse_case k m
  generalize k.exec nat64Reverse m = z at h hcase ⊢
  cases hcase with
  | translated matched change within nonzero chain skb maps =>
    exact ⟨_, _, matched, within, skb, maps⟩
  | _ => exact absurd rfl h

theorem redirect_ne_pipe {a : TcAction} (h : a = .redirect) : a ≠ .pipe := by
  rw [h]
  decide

/-- The address of an IPv4 host under a prefix. -/
def underPrefix (prefix96 : List.Vector UInt8 12) (v4 : UInt32) : Ipv6Octets :=
  ⟨prefix96.toList ++ beBytes32 v4, by
    rw [List.length_append, List.Vector.toList_length, length_beBytes32]⟩

theorem nat64SourceV6_eq (v4 : UInt32) : nat64SourceV6 v4 = underPrefix NAT64_WKPF_PREFIX v4 := rfl

/-- The last four octets of an address give it back under its own prefix only. -/
theorem underPrefix_embedded_iff (prefix96 : List.Vector UInt8 12) (dst : Ipv6Octets) :
    underPrefix prefix96 (nat64EmbeddedV4Be dst) = dst ↔
      dst.toList.take 12 = prefix96.toList := by
  have htail : beBytes32 (nat64EmbeddedV4Be dst) = dst.toList.drop 12 := by
    have hlen : (dst.toList.drop 12).length = 4 := by
      rw [List.length_drop, List.Vector.toList_length]
    rw [nat64EmbeddedV4Be, beBytes32_ofBeBytes32 rfl, nat64EmbeddedV4Bytes_eq, slice, ← hlen,
      List.take_length]
  have hlist : (underPrefix prefix96 (nat64EmbeddedV4Be dst)).toList =
      prefix96.toList ++ dst.toList.drop 12 := by
    rw [underPrefix, List.Vector.toList_mk, htail]
  constructor
  · intro h
    rw [← h, hlist]
    exact List.take_left' prefix96.toList_length
  · intro h
    apply List.Vector.toList_injective
    rw [hlist, ← h, List.take_append_drop]

def NatVal.untimed (v : NatVal) : NatVal := { v with lastSeenNs := 0 }

/-- A packet arriving in `n` asks for the reverse entry of the flow whose translated packet
left in `m'`, and that entry is still the one of then. -/
structure Answers (m' n : Machine) : Prop where
  key : revKeyAt n.skb = natKey (ipv4TupleAt m'.skb).src (ipv4TupleAt m'.skb).sport
    (ipv4TupleAt m'.skb).proto
  entry : (n.maps.nat (revKeyAt n.skb)).map NatVal.untimed =
    (m'.maps.nat (revKeyAt n.skb)).map NatVal.untimed

/-- A reply comes from the address the client used exactly when the configured prefix is
the one the reverse classifier writes. -/
theorem reply_source_iff {cfg : Nat64Config} {k k' : Kernel} {m n : Machine}
    (hcfg : m.maps.config = some cfg) (sent : (k.exec nat64Forward m).1 = .redirect)
    (written : k.natInsertOk = true) (answer : Answers (k.exec nat64Forward m).2 n)
    (delivered : (k'.exec nat64Reverse n).1 = .redirect) :
    v6At (k'.exec nat64Reverse n).2.skb 22 = v6At m.skb 38 ↔
      cfg.prefix96 = NAT64_WKPF_PREFIX := by
  obtain ⟨extV4, t, s, l, csum, mapped, within, hskb, hmaps⟩ :=
    forward_rewritten (redirect_ne_pipe sent)
  obtain ⟨v, csum', matched, within', hskb', -⟩ := reverse_rewritten (redirect_ne_pipe delivered)
  have hprefix := mapped.admitted.prefix96
  rw [hcfg, Option.getD_some] at hprefix
  have hkey := answer.key
  rw [hskb, fwdFrame_tuple within] at hkey
  -- the entry read by the reply is the one the forward packet wrote
  have hentry := answer.entry
  rw [matched.entry, hmaps, if_pos written, hkey, Maps.setNat_self, Option.map_some,
    Option.map_some, Option.some.injEq] at hentry
  have hremote : v.remoteV4 = nat64EmbeddedV4Be (v6At m.skb 38) :=
    congrArg NatVal.remoteV4 hentry
  have hsrc : v6At (k'.exec nat64Reverse n).2.skb 22 =
      nat64SourceV6 (nat64EmbeddedV4Be (v6At m.skb 38)) := by
    rw [hskb', ← hremote, matched.remoteV4]
    exact congrArg Ipv6Tuple.src (revFrame_tuple within')
  rw [hsrc, nat64SourceV6_eq, underPrefix_embedded_iff, hprefix]
  exact List.Vector.toList_injective.eq_iff

/-- The README example with a prefix of the operator's own. -/
def privateConfig : Userspace.Nat64Config :=
  { exampleConfig with prefix96 := ⟨[0xfd, 0, 0, 0, 0, 0, 0, 0, 0, 0, 0, 0], rfl⟩ }

def privateServerV6 : Ipv6Octets :=
  ⟨privateConfig.prefix96.toList ++ beBytes32 exampleServer, rfl⟩

def privateRequest : Machine :=
  (System.initial (privateConfig.dataplaneConfig 2 3)).machine 0
    (frame6 IPPROTO_TCP exampleClient privateServerV6 (segment 4000 80 20))

def privateReply : Machine :=
  { (Kernel.exec (.ideal 1000 7) nat64Forward privateRequest).2 with skb := exampleTcp4 20001 [] }

theorem reply_source_iff_private :
    v6At (Kernel.exec (.ideal 2000 7) nat64Reverse privateReply).2.skb 22 ≠
      v6At privateRequest.skb 38 := by
  have answer : Answers (Kernel.exec (.ideal 1000 7) nat64Forward privateRequest).2 privateReply :=
    ⟨by decide, rfl⟩
  have delivered : (Kernel.exec (.ideal 2000 7) nat64Reverse privateReply).1 = .redirect := by
    decide
  have hcfg : privateRequest.maps.config = some (privateConfig.dataplaneConfig 2 3) := rfl
  exact (reply_source_iff hcfg (by decide) rfl answer delivered).not.mpr (by decide)

/-- Under a prefix of its own, a client is answered from an address it never wrote to. -/
theorem private_reply_from_other_address :
    ¬ ∀ (u : Userspace.Nat64Config) (bridge uplink : UInt32) (k k' : Kernel) (m n : Machine),
      u.validate = .ok () → m.maps.config = some (u.dataplaneConfig bridge uplink) →
      n.maps.config = m.maps.config → (k.exec nat64Forward m).1 = .redirect →
      k.natInsertOk = true → Answers (k.exec nat64Forward m).2 n →
      (k'.exec nat64Reverse n).1 = .redirect →
      v6At (k'.exec nat64Reverse n).2.skb 22 = v6At m.skb 38 := by
  intro h
  have answer : Answers (Kernel.exec (.ideal 1000 7) nat64Forward privateRequest).2 privateReply :=
    ⟨by decide, rfl⟩
  have same := h privateConfig 2 3 (.ideal 1000 7) (.ideal 2000 7) privateRequest privateReply rfl
    rfl rfl (by decide) rfl answer (by decide)
  exact absurd same (by decide)

theorem ofNeBytes16_eq_zero_iff (x y : UInt8) : ofNeBytes16 [x, y] = 0 ↔ x = 0 ∧ y = 0 := by
  rw [← UInt16.toNat_inj, toNat_ofNeBytes16 rfl, ← UInt8.toNat_inj, ← UInt8.toNat_inj]
  simp only [leNat, UInt16.toNat_zero, UInt8.toNat_zero]
  omega

theorem slice_two_eq (v : Ipv6Octets) : slice v.toList 2 2 = [v.get 2, v.get 3] := by
  obtain ⟨l, hl⟩ := v
  match l, hl with
  | [_, _, _, _, _, _, _, _, _, _, _, _, _, _, _, _], _ => rfl

/-- Without options the test loads two octets of the client's address. -/
theorem zeroTestAt_eq_zero_iff {skb : List UInt8} {v : NatVal} (h : 12 ≤ skb.length)
    (ihl : ihlAt skb = 20) : zeroTestAt skb v = 0 ↔ v.vmV6.get 2 = 0 ∧ v.vmV6.get 3 = 0 := by
  have hheader : slice (revDraft skb v) 40 2 = slice (revHeader skb v) 26 2 :=
    slice_header (length_ethHeader h _) (by rw [length_revHeader]; decide : 26 + 2 ≤ _)
  have hdst : slice (revHeader skb v) 24 16 = v.vmV6.toList := ipv6WireHeader_dstV6 _
  have hoctets : slice (revHeader skb v) 26 2 = slice v.vmV6.toList 2 2 := by
    rw [← hdst, slice_slice _ (by decide)]
  rw [zeroTestAt, ihl, hheader, hoctets, slice_two_eq]
  exact ofNeBytes16_eq_zero_iff _ _

/-- For a UDP datagram without options that the entry `v` matches, when nothing else stands
in the way, the rule of delivering nonzero checksums only holds exactly when the client's
address has zeros in octets 2 and 3 just for zero checksums. -/
theorem udp_delivered_rule_iff {k : Kernel} {m : Machine} {v : NatVal} (hk : k.SkbExact)
    (change : k.changeProtoOk = true) (redirect : k.redirectOk = true)
    (bridge : (m.maps.config.getD DEFAULT_CFG).bridgeIfindex ≠ 0)
    (matched : RevMatched m.maps m.skb v) (udp : u8At m.skb 23 = IPPROTO_UDP)
    (ihl : ihlAt m.skb = 20) (within : 42 ≤ m.skb.length) (chain : revCsum k m.skb v ≠ none) :
    ((k.exec nat64Reverse m).1 = .redirect ↔ be16At m.skb 40 ≠ 0) ↔
      (v.vmV6.get 2 = 0 ∧ v.vmV6.get 3 = 0 ↔ be16At m.skb 40 = 0) := by
  rw [← zeroTestAt_eq_zero_iff (by omega) ihl]
  have hredirect : (k.exec nat64Reverse m).1 = .redirect ↔ zeroTestAt m.skb v ≠ 0 := by
    have hcase := nat64Reverse_case k m
    generalize k.exec nat64Reverse m = z at hcase ⊢
    cases hcase with
    | passed cause same =>
        rcases cause with ⟨-, spurious⟩ | refused
        · exact absurd spurious hk.not_spurious
        · exact absurd matched (refused v)
    | kept matched' change' => exact absurd (change'.symm.trans change) (by decide)
    | @cut m' v' matched' change' cause length maps cpu =>
        obtain rfl := Option.some.inj (matched.entry.symm.trans matched'.entry)
        rcases cause with ⟨-, spurious | short | none⟩ | ⟨-, zero⟩
        · exact absurd spurious hk.not_spurious
        · rw [udp] at short
          exact absurd within (Nat.not_le_of_lt short)
        · exact absurd none chain
        · exact ⟨fun h => (nomatch h), fun h => absurd zero h⟩
    | @translated m' v' csum matched' change' within' nonzero chain' skb maps cpu log =>
        obtain rfl := Option.some.inj (matched.entry.symm.trans matched'.entry)
        exact ⟨fun _ => nonzero udp, fun _ => if_pos ⟨bridge, redirect⟩⟩
  rw [hredirect]
  exact not_iff_not

/-- The reverse entry of the example client, and an answer to it with a checksum. -/
def exampleUdpVal : NatVal := ⟨exampleClient, 4000, exampleServer, 53, 7, 1000⟩

def exampleUdpReply : Machine :=
  (exampleSystem.step (.forward 0 (exampleUdp6 4000) (.ideal 1000 7))).machine 1
    (exampleUdp4 20001 0x1234)

instance (cfg : Nat64Config) (skb : List UInt8) : Decidable (RevAdmitted cfg skb) :=
  decidable_of_iff (34 ≤ skb.length ∧ be16At skb 12 = ETH_P_IP ∧ u8At skb 14 >>> 4 = 4 ∧
    (20 ≤ ihlAt skb ∧ ihlAt skb ≤ 60) ∧ ihlAt skb ≤ totalLenAt skb ∧
    v4InPool (be32At skb 30) cfg = true ∧ be16At skb 20 &&& 0x3fff = 0 ∧
    (u8At skb 23 = IPPROTO_TCP ∨ u8At skb 23 = IPPROTO_UDP) ∧
    (u8At skb 23 = IPPROTO_TCP →
      14 + ihlAt skb + 4 ≤ skb.length ∧ totalLenAt skb - ihlAt skb ≤ MAX_L4_LEN) ∧
    (u8At skb 23 = IPPROTO_UDP → 14 + ihlAt skb + 6 ≤ skb.length ∧
      UDP_HDR_LEN ≤ (revL4LenAt skb).toNat ∧ (revL4LenAt skb).toNat ≤ MAX_L4_LEN ∧
      ihlAt skb + (revL4LenAt skb).toNat ≤ totalLenAt skb))
    ⟨fun ⟨a, b, c, d, e, f, g, h, i, j⟩ => ⟨a, b, c, d, e, f, g, h, i, j⟩,
      fun ⟨a, b, c, d, e, f, g, h, i, j⟩ => ⟨a, b, c, d, e, f, g, h, i, j⟩⟩

theorem exampleUdpReply_matched :
    RevMatched exampleUdpReply.maps exampleUdpReply.skb exampleUdpVal :=
  ⟨by decide +kernel, by decide +kernel, rfl, rfl⟩

theorem udp_delivered_rule_iff_example :
    ¬ ((Kernel.exec (.ideal 2000 7) nat64Reverse exampleUdpReply).1 = .redirect ↔
      be16At exampleUdpReply.skb 40 ≠ 0) := by
  have hk : (Kernel.ideal 2000 7).SkbExact := fun _ => rfl
  have chain : revCsum (.ideal 2000 7) exampleUdpReply.skb exampleUdpVal ≠ none := by
    decide +kernel
  exact (udp_delivered_rule_iff hk rfl rfl (by decide +kernel) exampleUdpReply_matched rfl rfl
    (by decide +kernel) chain).not.mpr (by decide +kernel)

/-- A datagram with a checksum is not delivered to a client in `fd00::/32`. -/
theorem checksummed_udp_not_delivered :
    ¬ ∀ (k : Kernel) (m : Machine) (v : NatVal), k.SkbExact → k.changeProtoOk = true →
      k.redirectOk = true → (m.maps.config.getD DEFAULT_CFG).bridgeIfindex ≠ 0 →
      RevMatched m.maps m.skb v → u8At m.skb 23 = IPPROTO_UDP → ihlAt m.skb = 20 →
      14 + totalLenAt m.skb ≤ m.skb.length → revCsum k m.skb v ≠ none →
      ((k.exec nat64Reverse m).1 = .redirect ↔ be16At m.skb 40 ≠ 0) := by
  intro h
  have chain : revCsum (.ideal 2000 7) exampleUdpReply.skb exampleUdpVal ≠ none := by
    decide +kernel
  have rule := h (.ideal 2000 7) exampleUdpReply exampleUdpVal (fun _ => rfl) rfl rfl
    (by decide +kernel) exampleUdpReply_matched rfl rfl (by decide +kernel) chain
  exact absurd rule (by decide +kernel)

/-- `out` is the IPv4 frame `skb` under an IPv6 header to the client of `v`: the segment
after the IPv4 header, with another destination port and another checksum. -/
structure Delivers (skb : List UInt8) (v : NatVal) (out : List UInt8) : Prop where
  macs : out.take 12 = skb.take 12
  etherType : be16At out 12 = ETH_P_IPV6
  version : u8At out 14 >>> 4 = 6
  dst : v6At out 38 = v.vmV6
  length : out.length - 54 = skb.length - (14 + ihlAt skb)
  dport : be16At out 56 = v.vmPort
  rest : ∀ i, i < 2 ∨ 4 ≤ i → i < csumFieldOff (u8At skb 23) ∨ csumFieldOff (u8At skb 23) + 2 ≤ i →
    out[54 + i]? = skb[14 + ihlAt skb + i]?

theorem RevAdmitted.header_within {cfg : Nat64Config} {skb : List UInt8}
    (h : RevAdmitted cfg skb) : 14 + ihlAt skb < skb.length := by
  rcases h.proto with tcp | udp
  · have := (h.tcp tcp).1
    omega
  · have := (h.udp udp).1
    omega

theorem delivers_revFrame {skb : List UInt8} {v : NatVal} {csum : UInt16}
    (within : 34 + csumFieldOff (u8At skb 23) + 2 ≤ skb.length) (ihl : ihlAt skb = 20) :
    Delivers skb v (revFrame skb v csum) := by
  have hoff := six_le_csumFieldOff (u8At skb 23)
  have h : 12 ≤ skb.length := by omega
  have hrest : csumFieldOff (u8At skb 23) + 2 ≤ (skb.drop 34).length := by
    rw [List.length_drop]
    omega
  have htuple : ipv6TupleAt (revFrame skb v csum) = _ := revFrame_tuple within
  refine ⟨take_ethHeader h _, revFrame_etherType h, ?_, congrArg Ipv6Tuple.dst htuple, ?_,
    congrArg Ipv6Tuple.dport htuple, fun i hport hcsum => ?_⟩
  · rw [revFrame_version h]
    rfl
  · rw [length_revFrame within, ihl]
    omega
  · have hn : (ethHeader skb ETH_P_IPV6).length + (revHeader skb v).length = 54 := by
      rw [length_ethHeader h, length_revHeader]
    have hseg : (revFrame skb v csum)[54 + i]? =
        (patched (skb.drop 34) 2 v.vmPort (csumFieldOff (u8At skb 23)) csum)[i]? := by
      rw [revFrame, ← List.append_assoc, List.getElem?_append_right, List.length_append, hn,
        Nat.add_sub_cancel_left]
      · rfl
      · rw [List.length_append, hn]
        omega
    rw [hseg, getElem?_patched _ _ (by omega) hrest hport hcsum, List.getElem?_drop, ihl]

/-- A redirected frame carries the segment that came in exactly when its IPv4 header has
no options. -/
theorem redirected_delivers_iff {k : Kernel} {m : Machine}
    (redirect : (k.exec nat64Reverse m).1 = .redirect) :
    ∃ v, m.maps.nat (revKeyAt m.skb) = some v ∧
      (Delivers m.skb v (k.exec nat64Reverse m).2.skb ↔ ihlAt m.skb = 20) := by
  obtain ⟨v, csum, matched, within, hskb, -⟩ := reverse_rewritten (redirect_ne_pipe redirect)
  refine ⟨v, matched.entry, fun delivers => ?_, fun ihl => hskb ▸ delivers_revFrame within ihl⟩
  have hlen := delivers.length
  have hheader := matched.admitted.header_within
  have hihl := matched.admitted.ihl.1
  rw [hskb, length_revFrame within] at hlen
  omega

/-- The answer of the server with four octets of options. -/
def exampleOptionsReply : Machine :=
  (exampleSystem.step (.forward 0 (exampleTcp6 4000 20) (.ideal 1000 7))).machine 1
    (exampleTcp4 20001 [1, 1, 1, 0])

theorem redirected_delivers_iff_options :
    ∃ v, exampleOptionsReply.maps.nat (revKeyAt exampleOptionsReply.skb) = some v ∧
      ¬ Delivers exampleOptionsReply.skb v
        (Kernel.exec (.ideal 2000 7) nat64Reverse exampleOptionsReply).2.skb := by
  have redirect : (Kernel.exec (.ideal 2000 7) nat64Reverse exampleOptionsReply).1 = .redirect := by
    decide +kernel
  obtain ⟨v, entry, iff⟩ := redirected_delivers_iff redirect
  exact ⟨v, entry, iff.not.mpr (by decide +kernel)⟩

/-- A frame with options is redirected with part of them in its segment. -/
theorem options_not_delivered :
    ¬ ∀ (k : Kernel) (m : Machine) (v : NatVal), (k.exec nat64Reverse m).1 = .redirect →
      m.maps.nat (revKeyAt m.skb) = some v → Delivers m.skb v (k.exec nat64Reverse m).2.skb := by
  intro h
  have delivers := h (.ideal 2000 7) exampleOptionsReply
    ⟨exampleClient, 4000, exampleServer, 80, 7, 1000⟩
    (by decide +kernel) rfl
  exact absurd delivers.length (by decide +kernel)

end Natto64
