import Natto64.ReverseRules

/-!
# Fields of translated frames

What a reader of an emitted frame finds in it.
-/
namespace Natto64
open Octets

/-- The part of a concatenation between two known lengths. -/
theorem slice_between {α : Type*} {a b c : List α} {off n : Nat} (ha : a.length = off)
    (hb : b.length = n) : slice (a ++ b ++ c) off n = b := by
  rw [slice, List.append_assoc, List.drop_left' ha, List.take_left' hb]

theorem slice_last {α : Type*} {a b : List α} {off n : Nat} (ha : a.length = off)
    (hb : b.length = n) : slice (a ++ b) off n = b := by
  rw [slice, List.drop_left' ha, ← hb, List.take_length]

theorem be16At_eq {skb : List UInt8} {off : Nat} {x : UInt16}
    (h : slice skb off 2 = beBytes16 x) : be16At skb off = x := by
  rw [be16At, h, ofBeBytes16_beBytes16]

theorem be32At_eq {skb : List UInt8} {off : Nat} {x : UInt32}
    (h : slice skb off 4 = beBytes32 x) : be32At skb off = x := by
  rw [be32At, h, ofBeBytes32_beBytes32]

theorem u8At_eq {skb : List UInt8} {off : Nat} {x : UInt8} (h : slice skb off 1 = [x]) :
    u8At skb off = x := by
  rw [u8At, h, leNat, leNat, Nat.mul_zero, Nat.add_zero, UInt8.ofNat_toNat]

theorem v6At_eq {skb : List UInt8} {off : Nat} {x : Ipv6Octets}
    (h : slice skb off 16 = x.toList) (hin : off + 16 ≤ skb.length) : v6At skb off = x :=
  List.Vector.toList_injective ((toList_v6At hin).trans h)

section Ethernet
variable {skb hdr rest : List UInt8} {off n : Nat}

theorem slice_header {eth : List UInt8} (he : eth.length = 14) (h : off + n ≤ hdr.length) :
    slice (eth ++ (hdr ++ rest)) (14 + off) n = slice hdr off n := by
  rw [← he, slice_append_right, slice_append_left h]

theorem slice_etherType (h : 12 ≤ skb.length) (etherType : UInt16) :
    slice (ethHeader skb etherType ++ rest) 12 2 = beBytes16 etherType := by
  rw [ethHeader]
  exact slice_between (by rw [List.length_take, min_eq_left h]) (length_beBytes16 _)

theorem take_ethHeader (h : 12 ≤ skb.length) (etherType : UInt16) :
    (ethHeader skb etherType ++ rest).take 12 = skb.take 12 := by
  rw [ethHeader, List.append_assoc]
  exact List.take_left' (by rw [List.length_take, min_eq_left h])

end Ethernet

section Segment
variable {rest : List UInt8} {pos off : Nat} (port csum : UInt16)

/-- A transport segment with a new port and a new checksum. -/
def patched (rest : List UInt8) (pos : Nat) (port : UInt16) (off : Nat) (csum : UInt16) :
    List UInt8 :=
  overwrite (overwrite rest pos (beBytes16 port)) off (neBytes16 csum)

theorem length_patched (hpos : pos + 2 ≤ off) (hoff : off + 2 ≤ rest.length) :
    (patched rest pos port off csum).length = rest.length := by
  have hport : pos + (beBytes16 port).length ≤ rest.length := by rw [length_beBytes16]; omega
  rw [patched, length_overwrite, length_overwrite hport]
  rw [length_overwrite hport, length_neBytes16]
  exact hoff

theorem patched_port (hpos : pos + 2 ≤ off) (hoff : off + 2 ≤ rest.length) :
    slice (patched rest pos port off csum) pos 2 = beBytes16 port := by
  have hport : pos + (beBytes16 port).length ≤ rest.length := by rw [length_beBytes16]; omega
  rw [patched, slice_overwrite_of_disjoint (by rw [length_overwrite hport]; omega) (.inl hpos)]
  exact slice_overwrite_self (by omega)

/-- Every other octet stays. -/
theorem getElem?_patched (hpos : pos + 2 ≤ off) (hoff : off + 2 ≤ rest.length) {i : Nat}
    (hp : i < pos ∨ pos + 2 ≤ i) (hc : i < off ∨ off + 2 ≤ i) :
    (patched rest pos port off csum)[i]? = rest[i]? := by
  have hport : pos + (beBytes16 port).length ≤ rest.length := by rw [length_beBytes16]; omega
  rw [patched, getElem?_overwrite (by rw [length_overwrite hport]; omega),
    getElem?_overwrite (by omega), length_neBytes16, length_beBytes16, if_neg (by omega),
    if_neg (by omega)]

theorem patched_slice (hpos : pos + 2 ≤ off) (hoff : off + 2 ≤ rest.length) {a n : Nat}
    (hp : a + n ≤ pos ∨ pos + 2 ≤ a) (hc : a + n ≤ off ∨ off + 2 ≤ a) :
    slice (patched rest pos port off csum) a n = slice rest a n := by
  apply List.ext_getElem?
  intro i
  rw [getElem?_slice, getElem?_slice]
  by_cases hi : i < n
  · rw [if_pos hi, if_pos hi]
    exact getElem?_patched _ _ hpos hoff (by omega) (by omega)
  · rw [if_neg hi, if_neg hi]

end Segment

theorem beBytes16_ttlProto (proto : UInt8) :
    beBytes16 (((64 : UInt16) <<< 8) ||| proto.toUInt16) = [64, proto] := by
  have hp := proto.toNat_lt
  have hor : (((64 : UInt16) <<< 8) ||| proto.toUInt16).toNat = 2 ^ 8 * 64 + proto.toNat := by
    rw [UInt16.toNat_or, UInt8.toNat_toUInt16, Nat.two_pow_add_eq_or_of_lt hp]
    rfl
  rw [beBytes16, beBytes, hor]
  simp only [leBytes, List.reverse_cons, List.reverse_nil, List.nil_append, List.cons_append]
  congr 1
  · apply UInt8.toNat_inj.mp
    rw [UInt8.toNat_ofNat']
    change _ = 64
    omega
  · congr 1
    apply UInt8.toNat_inj.mp
    rw [UInt8.toNat_ofNat']
    omega

/-- The total length, the protocol and the addresses as the stored header has them. -/
theorem ipv4WireHeader_bytes (totalLen : UInt16) (srcV4 dstV4 : UInt32) (proto : UInt8) :
    (ipv4WireHeader totalLen srcV4 dstV4 proto).bytes =
      beBytes16 0x4500 ++ beBytes16 totalLen ++ neBytes16 0 ++ neBytes16 0 ++ [64, proto] ++
        neBytes16 (ipv4WireHeader totalLen srcV4 dstV4 proto).checksumBe ++ beBytes32 srcV4 ++
          beBytes32 dstV4 := by
  rw [Ipv4WireHeader.bytes, ← beBytes16_ttlProto, ← neBytes16_swap16, ← neBytes16_swap16 totalLen,
    ← neBytes16_swap16 (_ ||| _), ← neBytes32_swap32 srcV4, ← neBytes32_swap32 dstV4]
  rfl

section Ipv4Header
variable (totalLen : UInt16) (srcV4 dstV4 : UInt32) (proto : UInt8)

theorem ipv4WireHeader_version :
    slice (ipv4WireHeader totalLen srcV4 dstV4 proto).bytes 0 1 = [0x45] := by
  rw [ipv4WireHeader_bytes]
  rfl

theorem ipv4WireHeader_proto :
    slice (ipv4WireHeader totalLen srcV4 dstV4 proto).bytes 9 1 = [proto] := by
  rw [ipv4WireHeader_bytes]
  iterate 3 rw [slice_append_left (by simp)]
  exact slice_append_right _ [64, proto] 1 1

theorem ipv4WireHeader_src :
    slice (ipv4WireHeader totalLen srcV4 dstV4 proto).bytes 12 4 = beBytes32 srcV4 := by
  rw [ipv4WireHeader_bytes]
  exact slice_between (by simp) (length_beBytes32 _)

theorem ipv4WireHeader_dst :
    slice (ipv4WireHeader totalLen srcV4 dstV4 proto).bytes 16 4 = beBytes32 dstV4 := by
  rw [ipv4WireHeader_bytes]
  exact slice_last (by simp) (length_beBytes32 _)

end Ipv4Header

/-- The addresses, ports and protocol of an IPv4 frame. -/
structure Ipv4Tuple where
  src : UInt32
  sport : UInt16
  dst : UInt32
  dport : UInt16
  proto : UInt8
  deriving DecidableEq

def ipv4TupleAt (skb : List UInt8) : Ipv4Tuple where
  src := be32At skb 26
  sport := be16At skb (14 + ihlAt skb)
  dst := be32At skb 30
  dport := be16At skb (14 + ihlAt skb + 2)
  proto := u8At skb 23

/-- The addresses, ports and protocol of an IPv6 frame without extension headers. -/
structure Ipv6Tuple where
  src : Ipv6Octets
  sport : UInt16
  dst : Ipv6Octets
  dport : UInt16
  proto : UInt8
  deriving DecidableEq

def ipv6TupleAt (skb : List UInt8) : Ipv6Tuple where
  src := v6At skb 22
  sport := be16At skb 54
  dst := v6At skb 38
  dport := be16At skb 56
  proto := u8At skb 20

section Fwd
variable {skb : List UInt8} {extV4 : UInt32} {extPort csum : UInt16}

@[simp] theorem length_fwdHeader : (fwdHeader skb extV4).length = 20 := length_ipv4WireHeader ..

/-- What is read in the IPv4 header of a translated frame. -/
theorem fwdFrame_header (h : 12 ≤ skb.length) {off n : Nat} (hin : off + n ≤ 20) :
    slice (fwdFrame skb extV4 extPort csum) (14 + off) n = slice (fwdHeader skb extV4) off n :=
  slice_header (length_ethHeader h _) (by rw [length_fwdHeader]; exact hin)

theorem fwdFrame_etherType (h : 12 ≤ skb.length) :
    be16At (fwdFrame skb extV4 extPort csum) 12 = ETH_P_IP :=
  be16At_eq (slice_etherType h _)

theorem fwdFrame_ihl (h : 12 ≤ skb.length) : ihlAt (fwdFrame skb extV4 extPort csum) = 20 := by
  have hversion : u8At (fwdFrame skb extV4 extPort csum) 14 = 0x45 :=
    u8At_eq ((fwdFrame_header h (Nat.le_of_ble_eq_true rfl)).trans (ipv4WireHeader_version ..))
  rw [ihlAt, hversion]
  rfl

/-- What is read in the segment of a translated frame. -/
theorem fwdFrame_segment (h : 12 ≤ skb.length) (off n : Nat) :
    slice (fwdFrame skb extV4 extPort csum) (34 + off) n =
      slice (patched (skb.drop 54) 0 extPort (csumFieldOff (u8At skb 20)) csum) off n :=
  slice_segment (by rw [length_ethHeader h, length_fwdHeader])

theorem fwdFrame_tuple (within : 54 + csumFieldOff (u8At skb 20) + 2 ≤ skb.length) :
    ipv4TupleAt (fwdFrame skb extV4 extPort csum) =
      ⟨extV4, extPort, nat64EmbeddedV4Be (v6At skb 38), be16At skb 56, u8At skb 20⟩ := by
  have hoff := six_le_csumFieldOff (u8At skb 20)
  have h : 12 ≤ skb.length := by omega
  have hrest : csumFieldOff (u8At skb 20) + 2 ≤ (skb.drop 54).length := by
    rw [List.length_drop]
    omega
  have hsrc : be32At (fwdFrame skb extV4 extPort csum) 26 = extV4 :=
    be32At_eq ((fwdFrame_header h (Nat.le_of_ble_eq_true rfl)).trans (ipv4WireHeader_src ..))
  have hdst : be32At (fwdFrame skb extV4 extPort csum) 30 = nat64EmbeddedV4Be (v6At skb 38) :=
    be32At_eq ((fwdFrame_header h (Nat.le_of_ble_eq_true rfl)).trans (ipv4WireHeader_dst ..))
  have hproto : u8At (fwdFrame skb extV4 extPort csum) 23 = u8At skb 20 :=
    u8At_eq ((fwdFrame_header h (Nat.le_of_ble_eq_true rfl)).trans (ipv4WireHeader_proto ..))
  have hsport : be16At (fwdFrame skb extV4 extPort csum) 34 = extPort :=
    be16At_eq ((fwdFrame_segment h 0 2).trans (patched_port _ _ (by omega) hrest))
  have hdport : be16At (fwdFrame skb extV4 extPort csum) 36 = be16At skb 56 := by
    rw [be16At, be16At, fwdFrame_segment h 2 2, patched_slice _ _ (by omega) hrest (.inr le_rfl)
      (.inl (by omega)), slice_drop]
  rw [ipv4TupleAt, fwdFrame_ihl h, hsrc, hdst, hproto]
  exact congrArg₂ (fun sport dport => Ipv4Tuple.mk _ sport _ dport _) hsport hdport

end Fwd

section Ipv6Header
variable (hdr : Ipv6WireHeader)

theorem ipv6WireHeader_version : slice hdr.bytes 0 4 = neBytes32 hdr.versionTcFlowBe := by
  rw [Ipv6WireHeader.bytes]
  iterate 3 rw [slice_append_left (by simp)]
  exact slice_between (List.length_nil) (length_neBytes32 _)

theorem ipv6WireHeader_nextHeader : slice hdr.bytes 6 1 = [hdr.nextHeader] := by
  rw [Ipv6WireHeader.bytes]
  iterate 2 rw [slice_append_left (by simp)]
  exact slice_append_right _ [hdr.nextHeader, hdr.hopLimit] 0 1

theorem ipv6WireHeader_srcV6 : slice hdr.bytes 8 16 = hdr.srcV6.toList := by
  rw [Ipv6WireHeader.bytes]
  exact slice_between (by simp) (by simp)

theorem ipv6WireHeader_dstV6 : slice hdr.bytes 24 16 = hdr.dstV6.toList := by
  rw [Ipv6WireHeader.bytes]
  exact slice_last (by simp) (by simp)

end Ipv6Header

section Rev
variable {skb : List UInt8} {v : NatVal} {csum : UInt16}

theorem length_revFrame (within : 34 + csumFieldOff (u8At skb 23) + 2 ≤ skb.length) :
    (revFrame skb v csum).length = skb.length + 20 := by
  have hoff := six_le_csumFieldOff (u8At skb 23)
  have hrest : csumFieldOff (u8At skb 23) + 2 ≤ (skb.drop 34).length := by
    rw [List.length_drop]
    omega
  have hpos : 2 + 2 ≤ csumFieldOff (u8At skb 23) := by omega
  have hseg := length_patched v.vmPort csum hpos hrest
  rw [patched, List.length_drop] at hseg
  rw [revFrame, List.length_append, List.length_append, length_ethHeader (by omega),
    length_revHeader, hseg]
  omega

theorem revFrame_header (h : 12 ≤ skb.length) {off n : Nat} (hin : off + n ≤ 40) :
    slice (revFrame skb v csum) (14 + off) n = slice (revHeader skb v) off n :=
  slice_header (length_ethHeader h _) (by rw [length_revHeader]; exact hin)

theorem revFrame_segment (h : 12 ≤ skb.length) (off n : Nat) :
    slice (revFrame skb v csum) (54 + off) n =
      slice (patched (skb.drop 34) 2 v.vmPort (csumFieldOff (u8At skb 23)) csum) off n :=
  slice_segment (by rw [length_ethHeader h, length_revHeader])

theorem revFrame_etherType (h : 12 ≤ skb.length) :
    be16At (revFrame skb v csum) 12 = ETH_P_IPV6 :=
  be16At_eq (slice_etherType h _)

theorem revFrame_version (h : 12 ≤ skb.length) : u8At (revFrame skb v csum) 14 = 0x60 := by
  have hbytes : slice (revHeader skb v) 0 4 = [0x60, 0, 0, 0] :=
    (ipv6WireHeader_version _).trans (neBytes32_swap32 0x60000000)
  refine u8At_eq ((revFrame_header h (Nat.le_of_ble_eq_true rfl) : slice _ (14 + 0) 1 = _).trans ?_)
  have hfirst : slice (revHeader skb v) 0 1 = (slice (revHeader skb v) 0 4).take 1 := by
    rw [slice, slice, List.take_take]
    rfl
  rw [hfirst, hbytes]
  rfl

theorem revFrame_tuple (within : 34 + csumFieldOff (u8At skb 23) + 2 ≤ skb.length) :
    ipv6TupleAt (revFrame skb v csum) =
      ⟨nat64SourceV6 (be32At skb 26), be16At skb 34, v.vmV6, v.vmPort, u8At skb 23⟩ := by
  have hoff := six_le_csumFieldOff (u8At skb 23)
  have h : 12 ≤ skb.length := by omega
  have hlen : (revFrame skb v csum).length = skb.length + 20 := length_revFrame within
  have hrest : csumFieldOff (u8At skb 23) + 2 ≤ (skb.drop 34).length := by
    rw [List.length_drop]
    omega
  have hsrc : v6At (revFrame skb v csum) 22 = nat64SourceV6 (be32At skb 26) :=
    v6At_eq ((revFrame_header h (Nat.le_of_ble_eq_true rfl)).trans (ipv6WireHeader_srcV6 _))
      (by omega)
  have hdst : v6At (revFrame skb v csum) 38 = v.vmV6 :=
    v6At_eq ((revFrame_header h (Nat.le_of_ble_eq_true rfl)).trans (ipv6WireHeader_dstV6 _))
      (by omega)
  have hproto : u8At (revFrame skb v csum) 20 = u8At skb 23 :=
    u8At_eq ((revFrame_header h (Nat.le_of_ble_eq_true rfl)).trans (ipv6WireHeader_nextHeader _))
  have hsport : be16At (revFrame skb v csum) 54 = be16At skb 34 := by
    have hpos : 0 + 2 ≤ 2 := le_rfl
    rw [be16At, be16At, revFrame_segment h 0 2, patched_slice _ _ (by omega) hrest (.inl hpos)
      (.inl (by omega)), slice_drop]
  have hdport : be16At (revFrame skb v csum) 56 = v.vmPort :=
    be16At_eq ((revFrame_segment h 2 2).trans (patched_port _ _ (by omega) hrest))
  rw [ipv6TupleAt, hsrc, hsport, hdst, hdport, hproto]

end Rev

end Natto64
