import Natto64.HeaderBuilders
import Natto64.TransportChecksums

/-!
# IPv6 headers

The IPv6 side of the translation and ABI crates. The header a reply leaves with is the one
their builder gives, and the parser of the program reads its fields back.
-/
namespace Natto64
open Octets

/-- Builds the 40-byte IPv6 pseudo-header used by TCP and UDP checksums. -/
def buildIpv6PseudoHeaderBytes (srcV6 dstV6 : Ipv6Octets) (l4Len : UInt16) (nextHeader : UInt8) :
    List UInt8 :=
  let pseudo := List.replicate 40 0
  let pseudo := overwrite pseudo 0 srcV6.toList
  let pseudo := overwrite pseudo 16 dstV6.toList
  let pseudo := overwrite pseudo 32 (beBytes32 l4Len.toUInt32)
  overwrite pseudo 39 [nextHeader]

namespace Xlat

/-- An IPv6 base header. The two builders differ in the next header, the parameter here. -/
def buildIpv6Header (nextHeader : UInt8) (src dst : Ipv6Octets) (payloadLen : UInt16)
    (hopLimit : UInt8) : List UInt8 :=
  let hdr := List.replicate 40 0
  let hdr := overwrite hdr 0 [0x60]
  let hdr := overwrite hdr 1 [0]
  let hdr := overwrite hdr 2 [0]
  let hdr := overwrite hdr 3 [0]
  let hdr := overwrite hdr 4 (beBytes16 payloadLen)
  let hdr := overwrite hdr 6 [nextHeader]
  let hdr := overwrite hdr 7 [hopLimit]
  let hdr := overwrite hdr 8 src.toList
  overwrite hdr 24 dst.toList

/-- Builds a 40-byte IPv6 base header for a TCP packet. -/
def buildIpv6HeaderTcp : Ipv6Octets → Ipv6Octets → UInt16 → UInt8 → List UInt8 :=
  buildIpv6Header 6

/-- Builds a 40-byte IPv6 base header for a UDP packet. -/
def buildIpv6HeaderUdp : Ipv6Octets → Ipv6Octets → UInt16 → UInt8 → List UInt8 :=
  buildIpv6Header 17

end Xlat

/-- Writing the next block into what is still blank. -/
theorem overwrite_next {α : Type} {done new : List α} {blank : α} {off n m : Nat}
    (hoff : done.length = off) (hn : new.length + m = n) :
    overwrite (done ++ List.replicate n blank) off new = done ++ new ++ List.replicate m blank := by
  subst hoff hn
  have hblank : List.replicate (new.length + m) blank =
      List.replicate new.length blank ++ List.replicate m blank := List.replicate_add ..
  have hnext := overwrite_append_right done (List.replicate (new.length + m) blank) new 0
  rw [Nat.add_zero, hblank, overwrite_prefix (by simp)] at hnext
  rw [hblank, hnext, List.append_assoc]

section Build
variable (src dst : Ipv6Octets) (nextHeader hopLimit : UInt8) (len : UInt16)

theorem buildIpv6Header_eq : Xlat.buildIpv6Header nextHeader src dst len hopLimit =
    Ipv6WireHeader.bytes {
      versionTcFlowBe := swap32 0x60000000
      payloadLenBe := swap16 len
      nextHeader := nextHeader
      hopLimit := hopLimit
      srcV6 := src
      dstV6 := dst } := by
  have blank : List.replicate 40 (0 : UInt8) = [] ++ List.replicate 40 0 := rfl
  have version : neBytes32 (swap32 0x60000000) = [0x60, 0, 0, 0] := rfl
  rw [Xlat.buildIpv6Header, blank, overwrite_next (m := 39) (by rfl) (by rfl),
    overwrite_next (m := 38) (by rfl) (by rfl), overwrite_next (m := 37) (by rfl) (by rfl),
    overwrite_next (m := 36) (by rfl) (by rfl), overwrite_next (m := 34) (by rfl) (by simp),
    overwrite_next (m := 33) (by simp) (by rfl), overwrite_next (m := 32) (by simp) (by rfl),
    overwrite_next (m := 16) (by simp) (by simp), overwrite_next (m := 0) (by simp) (by simp)]
  simp [Ipv6WireHeader.bytes, version, neBytes16_swap16]

theorem buildIpv6PseudoHeaderBytes_eq : buildIpv6PseudoHeaderBytes src dst len nextHeader =
    (Ipv6PseudoHeader.new src dst len nextHeader).bytes := by
  have blank : List.replicate 40 (0 : UInt8) = [] ++ List.replicate 40 0 := rfl
  have next : overwrite ([] ++ src.toList ++ dst.toList ++ beBytes32 len.toUInt32 ++
      List.replicate 4 0) 39 [nextHeader] =
      src.toList ++ dst.toList ++ beBytes32 len.toUInt32 ++ [0, 0, 0, nextHeader] := by
    have inside := overwrite_append_right (src.toList ++ dst.toList ++ beBytes32 len.toUInt32)
      (List.replicate 4 0) [nextHeader] 3
    have hlen : (src.toList ++ dst.toList ++ beBytes32 len.toUInt32).length + 3 = 39 := by simp
    rw [hlen] at inside
    exact inside
  rw [buildIpv6PseudoHeaderBytes, blank, overwrite_next (m := 24) (by rfl) (by simp),
    overwrite_next (m := 8) (by simp) (by simp), overwrite_next (m := 4) (by simp) (by simp), next]
  simp [Ipv6PseudoHeader.new, Ipv6PseudoHeader.bytes, neBytes32_swap32, beBytes32_toUInt32]

theorem writeIpv6Header_eq_build : writeIpv6Header len nextHeader src dst =
    store ETH_HDR_LEN (Xlat.buildIpv6Header nextHeader src dst len 64) := by
  rw [buildIpv6Header_eq]
  rfl

end Build

theorem swap16_swap16 (x : UInt16) : swap16 (swap16 x) = x := by
  rw [swap16, neBytes16_swap16, ofBeBytes16_beBytes16]

/-- What the parser finds behind the Ethernet header. -/
theorem ipv6InfoAt_bytes {eth rest : List UInt8} (heth : eth.length = 14) (hdr : Ipv6WireHeader) :
    ipv6InfoAt ETH_HDR_LEN (eth ++ (hdr.bytes ++ rest)) =
      ⟨hdr.srcV6, hdr.dstV6, hdr.nextHeader, swap16 hdr.payloadLenBe, 54⟩ := by
  have hlen := length_ipv6WireHeader hdr
  have total : 54 ≤ (eth ++ (hdr.bytes ++ rest)).length := by
    rw [List.length_append, List.length_append]
    omega
  have part {off n : Nat} (h : off + n ≤ 40) :
      slice (eth ++ (hdr.bytes ++ rest)) (14 + off) n = slice hdr.bytes off n :=
    slice_header heth (by omega)
  have hsrc : v6At (eth ++ (hdr.bytes ++ rest)) 22 = hdr.srcV6 :=
    v6At_eq ((part (by omega)).trans (ipv6WireHeader_srcV6 hdr)) (by omega)
  have hdst : v6At (eth ++ (hdr.bytes ++ rest)) 38 = hdr.dstV6 :=
    v6At_eq ((part (by omega)).trans (ipv6WireHeader_dstV6 hdr)) (by omega)
  have hnext : u8At (eth ++ (hdr.bytes ++ rest)) 20 = hdr.nextHeader :=
    u8At_eq ((part (by omega)).trans (ipv6WireHeader_nextHeader hdr))
  have hpayload : be16At (eth ++ (hdr.bytes ++ rest)) 18 = swap16 hdr.payloadLenBe := by
    have hslice := (part (by omega)).trans (ipv6WireHeader_payloadLen hdr)
    rw [← swap16_loaded (by omega), hslice, ofNeBytes16_neBytes16]
  exact (congrArg₂ (fun s d => Ipv6Info.mk s d _ _ _) hsrc hdst).trans
    (congrArg₂ (fun nh len => Ipv6Info.mk _ _ nh len _) hnext hpayload)

/-- The parser of the program reads a header back unless a load fails. -/
theorem parse_bytes {k : Kernel} (exact : k.SkbExact) {m : Machine} {eth rest : List UInt8}
    (heth : eth.length = 14) (hdr : Ipv6WireHeader) (hskb : m.skb = eth ++ (hdr.bytes ++ rest)) :
    (k.exec (parseIpv6Base ETH_HDR_LEN) m).1 =
      some ⟨hdr.srcV6, hdr.dstV6, hdr.nextHeader, swap16 hdr.payloadLenBe, 54⟩ := by
  have reads := reads_parseIpv6Base ETH_HDR_LEN k m
  have hlen := length_ipv6WireHeader hdr
  rw [hskb, ipv6InfoAt_bytes heth] at reads
  generalize k.exec (parseIpv6Base ETH_HDR_LEN) m = z at reads
  cases reads with
  | got => rfl
  | failed log same cause =>
      rcases cause with spurious | short
      · exact absurd spurious exact.not_spurious
      · rw [hskb, List.length_append, List.length_append] at short
        change _ < 14 + 40 at short
        omega

/-- The program, the translation crate and the ABI crate agree on IPv6: the writer stores the
built header, the checksum update sees the built pseudo-header, and every built header is read
back by the parser; so is the one of every reply, which names the server, the client and the
length of the segment. -/
theorem ipv6_headers_agree :
    (∀ src dst len, writeIpv6Header len IPPROTO_TCP src dst =
        store ETH_HDR_LEN (Xlat.buildIpv6HeaderTcp src dst len 64) ∧
      writeIpv6Header len IPPROTO_UDP src dst =
        store ETH_HDR_LEN (Xlat.buildIpv6HeaderUdp src dst len 64)) ∧
    (∀ src dst len nextHeader, (Ipv6PseudoHeader.new src dst len nextHeader).bytes =
      buildIpv6PseudoHeaderBytes src dst len nextHeader) ∧
    (∀ (k : Kernel) (m : Machine) eth rest nextHeader src dst len hopLimit, k.SkbExact →
      eth.length = 14 →
      m.skb = eth ++ (Xlat.buildIpv6Header nextHeader src dst len hopLimit ++ rest) →
      (k.exec (parseIpv6Base ETH_HDR_LEN) m).1 = some ⟨src, dst, nextHeader, len, 54⟩) ∧
    (∀ (k k' : Kernel) (m m' : Machine), (k.exec nat64Reverse m).1 ≠ .pipe → k'.SkbExact →
      m'.skb = (k.exec nat64Reverse m).2.skb → ∃ v, m.maps.nat (revKeyAt m.skb) = some v ∧
        (k'.exec (parseIpv6Base ETH_HDR_LEN) m').1 = some ⟨nat64SourceV6 (be32At m.skb 26),
          v.vmV6, u8At m.skb 23, revL4LenAt m.skb, 54⟩) := by
  refine ⟨fun src dst len => ⟨?_, ?_⟩, fun src dst len nextHeader => ?_, ?_, ?_⟩
  · exact writeIpv6Header_eq_build src dst IPPROTO_TCP len
  · exact writeIpv6Header_eq_build src dst IPPROTO_UDP len
  · exact (buildIpv6PseudoHeaderBytes_eq src dst nextHeader len).symm
  · intro k m eth rest nextHeader src dst len hopLimit exact heth hskb
    rw [buildIpv6Header_eq] at hskb
    rw [parse_bytes exact heth _ hskb, swap16_swap16]
  · intro k k' m m' rewritten exact hskb
    obtain ⟨v, csum, matched, within, hout, -⟩ := reverse_rewritten rewritten
    rw [hout, revFrame] at hskb
    refine ⟨v, matched.entry, ?_⟩
    have hoff := six_le_csumFieldOff (u8At m.skb 23)
    have parsed := parse_bytes exact (length_ethHeader (by omega) _) _ hskb
    rw [swap16_swap16] at parsed
    exact parsed

/-- The header of the translated answer of the example exchange. -/
theorem ipv6_headers_agree_exchange :
    ∃ v, (dataplane exampleDataplane (exampleExchange.take 1)).maps.nat
        (revKeyAt (exampleTcp4 20001 [])) = some v ∧
      (Kernel.exec (.ideal 3000 0) (parseIpv6Base ETH_HDR_LEN)
        { exampleSystem.machine 0 [] with
          skb := ((dataplane exampleDataplane (exampleExchange.take 1)).reverse 1
            (exampleTcp4 20001 []) (.ideal 2000 8)).2.skb }).1 =
        some ⟨nat64SourceV6 (be32At (exampleTcp4 20001 []) 26), v.vmV6,
          u8At (exampleTcp4 20001 []) 23, revL4LenAt (exampleTcp4 20001 []), 54⟩ :=
  ipv6_headers_agree.2.2.2 (.ideal 2000 8) (.ideal 3000 0)
    ((dataplane exampleDataplane (exampleExchange.take 1)).machine 1 (exampleTcp4 20001 [])) _
    (by decide +kernel) (fun _ => rfl) rfl

end Natto64
