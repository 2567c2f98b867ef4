import Natto64.Headers
import Natto64.Rules

/-!
# Fields of a frame

The fields the classifiers read, as functions of the octets of a frame, and what the
parsing programs return in these terms.
-/
namespace Natto64
open Octets

def u8At (skb : List UInt8) (off : Nat) : UInt8 := UInt8.ofNat (leNat (slice skb off 1))
def be16At (skb : List UInt8) (off : Nat) : UInt16 := ofBeBytes16 (slice skb off 2)
def be32At (skb : List UInt8) (off : Nat) : UInt32 := ofBeBytes32 (slice skb off 4)

def v6At (skb : List UInt8) (off : Nat) : Ipv6Octets :=
  ipv6FromBeWords (be32At skb off) (be32At skb (off + 4)) (be32At skb (off + 8))
    (be32At skb (off + 12))

def ipv6InfoAt (l3Offset : Nat) (skb : List UInt8) : Ipv6Info where
  src := v6At skb (l3Offset + 8)
  dst := v6At skb (l3Offset + 24)
  nextHeader := u8At skb (l3Offset + 6)
  payloadLen := be16At skb (l3Offset + 4)
  l4AbsOffset := l3Offset + IPV6_BASE_HDR_LEN

section Fields
variable {skb : List UInt8} {off : Nat}

theorem swap16_loaded (h : off + 2 ≤ skb.length) :
    swap16 (ofNeBytes16 (slice skb off 2)) = be16At skb off :=
  swap16_ofNeBytes16 (length_slice h)

theorem swap32_loaded (h : off + 4 ≤ skb.length) :
    swap32 (ofNeBytes32 (slice skb off 4)) = be32At skb off :=
  swap32_ofNeBytes32 (length_slice h)

theorem beBytes32_be32At (h : off + 4 ≤ skb.length) :
    beBytes32 (be32At skb off) = slice skb off 4 :=
  beBytes32_ofBeBytes32 (length_slice h)

theorem toList_v6At (h : off + 16 ≤ skb.length) : (v6At skb off).toList = slice skb off 16 := by
  have h1 : off + 4 ≤ skb.length := by omega
  have h2 : off + 4 + 4 ≤ skb.length := by omega
  have h3 : off + 8 + 4 ≤ skb.length := by omega
  have h4 : off + 12 + 4 ≤ skb.length := by omega
  rw [v6At, ipv6FromBeWords, List.Vector.toList_mk, beBytes32_be32At h1, beBytes32_be32At h2,
    beBytes32_be32At h3, beBytes32_be32At h4, slice_append_slice, slice_append_slice,
    slice_append_slice]

end Fields

theorem Reads.loadBeU32 (off : Nat) :
    Reads (loadBeU32 off) (off + 4) fun skb => be32At skb off :=
  ((Reads.loadU32 off).map swap32).congr fun _ h => swap32_loaded h

theorem reads_parseIpv6Base (l3Offset : Nat) :
    Reads (parseIpv6Base l3Offset) (l3Offset + 40) (ipv6InfoAt l3Offset) := by
  intro k m
  refine ReadCase.bind (Reads.loadU16 _ k m) (by omega) (fun _ => rfl) fun m1 e1 h1 => ?_
  refine ReadCase.bind (Reads.loadU8 _ k m1) (by omega) (fun _ => rfl) fun m2 e2 h2 => ?_
  refine ReadCase.bind (Reads.loadBeU32 _ k m2) (by omega) (fun _ => rfl) fun m3 e3 h3 => ?_
  refine ReadCase.bind (Reads.loadBeU32 _ k m3) (by omega) (fun _ => rfl) fun m4 e4 h4 => ?_
  refine ReadCase.bind (Reads.loadBeU32 _ k m4) (by omega) (fun _ => rfl) fun m5 e5 h5 => ?_
  refine ReadCase.bind (Reads.loadBeU32 _ k m5) (by omega) (fun _ => rfl) fun m6 e6 h6 => ?_
  refine ReadCase.bind (Reads.loadBeU32 _ k m6) (by omega) (fun _ => rfl) fun m7 e7 h7 => ?_
  refine ReadCase.bind (Reads.loadBeU32 _ k m7) (by omega) (fun _ => rfl) fun m8 e8 h8 => ?_
  refine ReadCase.bind (Reads.loadBeU32 _ k m8) (by omega) (fun _ => rfl) fun m9 e9 h9 => ?_
  refine ReadCase.bind (Reads.loadBeU32 _ k m9) (by omega) (fun _ => rfl) fun m10 e10 h10 => ?_
  rw [e9, e8, e7, e6, e5, e4, e3, e2, e1] at h10
  have hinfo : ipv6InfoAt l3Offset m.skb = {
      src := ipv6FromBeWords (be32At m2.skb (l3Offset + 8)) (be32At m3.skb (l3Offset + 12))
        (be32At m4.skb (l3Offset + 16)) (be32At m5.skb (l3Offset + 20))
      dst := ipv6FromBeWords (be32At m6.skb (l3Offset + 24)) (be32At m7.skb (l3Offset + 28))
        (be32At m8.skb (l3Offset + 32)) (be32At m9.skb (l3Offset + 36))
      nextHeader := u8At m1.skb (l3Offset + 6)
      payloadLen := swap16 (ofNeBytes16 (slice m.skb (l3Offset + 4) 2))
      l4AbsOffset := l3Offset + IPV6_BASE_HDR_LEN } := by
    rw [e9, e8, e7, e6, e5, e4, e3, e2, e1, swap16_loaded h1]
    rfl
  rw [hinfo]
  refine .got (.refl m10) ⟨rfl, rfl, rfl⟩ ?_
  rw [e10, e9, e8, e7, e6, e5, e4, e3, e2, e1]
  exact h10

theorem reads_tcpPorts (off : Nat) :
    Reads (tcpPorts off) (off + 4) fun skb => (be16At skb off, be16At skb (off + 2)) := by
  intro k m
  refine ReadCase.bind (Reads.loadU16 _ k m) (by omega) (fun _ => rfl) fun m1 e1 h1 => ?_
  refine ReadCase.bind (Reads.loadU16 _ k m1) (by omega) (fun _ => rfl) fun m2 e2 h2 => ?_
  rw [e1] at h2
  dsimp only
  rw [e1, ← swap16_loaded h1, ← swap16_loaded h2]
  exact .got (.refl m2) ⟨rfl, rfl, rfl⟩ (by rw [e2, e1]; exact h2)

theorem reads_udpPortsLenCounting (errParse : DebugCounter) (off : Nat) :
    Reads (udpPortsLenCounting errParse off) (off + 6)
      fun skb => (be16At skb off, be16At skb (off + 2), be16At skb (off + 4)) := by
  intro k m
  refine ReadCase.bind (Reads.loadU16 _ k m) (by omega) (fun _ => rfl) fun m1 e1 h1 => ?_
  refine ReadCase.bind (Reads.loadU16 _ k m1) (by omega) (fun _ => rfl) fun m2 e2 h2 => ?_
  refine ReadCase.bind (Reads.loadU16 _ k m2) (by omega) (fun _ => rfl) fun m3 e3 h3 => ?_
  rw [e1] at h2
  rw [e2, e1] at h3
  dsimp only
  rw [e2, e1, ← swap16_loaded h1, ← swap16_loaded h2, ← swap16_loaded h3]
  exact .got (.refl m3) ⟨rfl, rfl, rfl⟩ (by rw [e3, e2, e1]; exact h3)

section Rewriting
variable {skb eth gap hdr rest new : List UInt8} {off : Nat}

theorem changeProtoSkb_ip (room : List.Vector UInt8 20) (h : 34 ≤ skb.length) :
    changeProtoSkb room ETH_P_IP_HELPER skb = some (skb.take 14 ++ skb.drop 34) := by
  rw [changeProtoSkb, if_pos rfl, if_pos h]

theorem changeProtoSkb_ipv6 (room : List.Vector UInt8 20) (h : 14 ≤ skb.length) :
    changeProtoSkb room ETH_P_IPV6_HELPER skb =
      some (skb.take 14 ++ room.toList ++ skb.drop 14) := by
  rw [changeProtoSkb, if_neg (by decide), if_pos rfl, if_pos h]

/-- The Ethernet header of a translated frame. -/
def ethHeader (skb : List UInt8) (etherType : UInt16) : List UInt8 :=
  skb.take 12 ++ beBytes16 etherType

theorem length_ethHeader (h : 12 ≤ skb.length) (etherType : UInt16) :
    (ethHeader skb etherType).length = 14 := by
  rw [ethHeader, List.length_append, List.length_take, length_beBytes16, min_eq_left h]

theorem overwrite_etherType (h : 14 ≤ skb.length) (etherType : UInt16) :
    overwrite (skb.take 14 ++ rest) 12 (beBytes16 etherType) = ethHeader skb etherType ++ rest := by
  have hlen : (skb.take 14).length = 14 := by rw [List.length_take, min_eq_left h]
  have htail : (skb.take 14 ++ rest).drop 14 = rest := List.drop_left' hlen
  rw [overwrite, length_beBytes16, htail, List.take_append_of_le_length (by omega),
    List.take_take, ethHeader]
  rfl

theorem overwrite_header (he : eth.length = 14) (hg : hdr.length = gap.length) :
    overwrite (eth ++ (gap ++ rest)) 14 hdr = eth ++ (hdr ++ rest) := by
  have h := overwrite_append_right eth (gap ++ rest) hdr 0
  rw [he, Nat.add_zero] at h
  rw [h, overwrite_prefix hg]

/-- A write into the transport segment. -/
theorem overwrite_segment {n : Nat} (h : eth.length + hdr.length = n) :
    overwrite (eth ++ (hdr ++ rest)) (n + off) new = eth ++ (hdr ++ overwrite rest off new) := by
  have hw := overwrite_append_right (eth ++ hdr) rest new off
  rw [List.length_append, h, List.append_assoc] at hw
  rw [hw, List.append_assoc]

theorem slice_segment {n p : Nat} (h : eth.length + hdr.length = n) :
    slice (eth ++ (hdr ++ rest)) (n + off) p = slice rest off p := by
  have hs := slice_append_right (eth ++ hdr) rest off p
  rw [List.length_append, h, List.append_assoc] at hs
  exact hs

end Rewriting

@[simp] theorem length_ipv4WireHeader (totalLen : UInt16) (srcV4 dstV4 : UInt32)
    (l4Proto : UInt8) : (ipv4WireHeader totalLen srcV4 dstV4 l4Proto).bytes.length = 20 := by
  simp only [Ipv4WireHeader.bytes, List.length_append, length_neBytes16, length_neBytes32]

@[simp] theorem length_ipv6WireHeader (h : Ipv6WireHeader) : h.bytes.length = 40 := by
  simp only [Ipv6WireHeader.bytes, List.length_append, length_neBytes16, length_neBytes32,
    List.Vector.toList_length, List.length_cons, List.length_nil]

end Natto64
