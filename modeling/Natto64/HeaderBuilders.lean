import Natto64.EmittedFrames

/-!
# Header builders

The IPv4 header builders of the translation crate, which the header writer of the program
agrees with.
-/
namespace Natto64
open Octets InternetChecksum

abbrev Ipv4Octets := List.Vector UInt8 4

def v4Octets (addr : UInt32) : Ipv4Octets := ⟨beBytes32 addr, length_beBytes32 addr⟩

namespace Xlat

/-- A header without its checksum. The two builders differ in the protocol, the parameter
here. -/
def ipv4HeaderFields (proto : UInt8) (src dst : Ipv4Octets) (totalLen : UInt16) (ttl : UInt8)
    (identification : UInt16) : List UInt8 :=
  let hdr := List.replicate 20 0
  let hdr := overwrite hdr 0 [0x45]
  let hdr := overwrite hdr 1 [0]
  let hdr := overwrite hdr 2 (beBytes16 totalLen)
  let hdr := overwrite hdr 4 (beBytes16 identification)
  let hdr := overwrite hdr 6 (beBytes16 0)
  let hdr := overwrite hdr 8 [ttl]
  let hdr := overwrite hdr 9 [proto]
  let hdr := overwrite hdr 12 src.toList
  overwrite hdr 16 dst.toList

def buildIpv4Header (proto : UInt8) (src dst : Ipv4Octets) (totalLen : UInt16) (ttl : UInt8)
    (identification : UInt16) : List UInt8 :=
  let hdr := ipv4HeaderFields proto src dst totalLen ttl identification
  let checksum := ipv4HeaderChecksum20b hdr
  overwrite hdr 10 (beBytes16 checksum)

/-- Builds a checksum-complete 20-byte IPv4 header for a TCP packet. -/
def buildIpv4HeaderTcp : Ipv4Octets → Ipv4Octets → UInt16 → UInt8 → UInt16 → List UInt8 :=
  buildIpv4Header 6

/-- Builds a checksum-complete 20-byte IPv4 header for a UDP packet. -/
def buildIpv4HeaderUdp : Ipv4Octets → Ipv4Octets → UInt16 → UInt8 → UInt16 → List UInt8 :=
  buildIpv4Header 17

section Fields
variable (proto : UInt8) (src dst : Ipv4Octets) (totalLen : UInt16) (ttl : UInt8)
  (identification : UInt16)

theorem ipv4HeaderFields_eq :
    ipv4HeaderFields proto src dst totalLen ttl identification =
      beBytes16 0x4500 ++ beBytes16 totalLen ++ beBytes16 identification ++ beBytes16 0 ++
        [ttl, proto] ++ [0, 0] ++ src.toList ++ dst.toList := by
  obtain ⟨s, hs⟩ := src
  obtain ⟨d, hd⟩ := dst
  match s, hs, d, hd with
  | [_, _, _, _], _, [_, _, _, _], _ =>
      simp only [ipv4HeaderFields, overwrite, List.replicate, List.take, List.drop, List.length,
        List.nil_append, List.cons_append, beBytes16, beBytes, leBytes, List.reverse_cons,
        List.reverse_nil, Nat.zero_add, Nat.reduceAdd, List.Vector.toList]
      rfl

theorem buildIpv4Header_eq :
    buildIpv4Header proto src dst totalLen ttl identification =
      beBytes16 0x4500 ++ beBytes16 totalLen ++ beBytes16 identification ++ beBytes16 0 ++
        [ttl, proto] ++ beBytes16 (ipv4HeaderChecksum20b
          (ipv4HeaderFields proto src dst totalLen ttl identification)) ++ src.toList ++
            dst.toList := by
  rw [buildIpv4Header]
  generalize ipv4HeaderChecksum20b _ = checksum
  rw [ipv4HeaderFields_eq]
  obtain ⟨s, hs⟩ := src
  obtain ⟨d, hd⟩ := dst
  match s, hs, d, hd with
  | [_, _, _, _], _, [_, _, _, _], _ => rfl

end Fields
end Xlat

section Writer
variable (totalLen : UInt16) (srcV4 dstV4 : UInt32) (proto : UInt8)

/-- Both encoders sum the same words. -/
theorem ipv4HeaderSum_eq :
    (ipv4HeaderSum totalLen srcV4 dstV4 proto).toNat =
      wordSum (Xlat.ipv4HeaderFields proto (v4Octets srcV4) (v4Octets dstV4) totalLen 64 0) := by
  have httl : wordSum [64, proto] = (ttlProto proto).toNat := by
    rw [← beBytes16_ttlProto, wordSum_beBytes16]
    rfl
  have hzero : wordSum [0, 0] = 0 := rfl
  have hword : (0x4500 : UInt16).toNat = 0x4500 := rfl
  have hsrc : wordSum (v4Octets srcV4).toList = srcV4.toNat / 65536 + srcV4.toNat % 65536 :=
    wordSum_beBytes32 srcV4
  have hdst : wordSum (v4Octets dstV4).toList = dstV4.toNat / 65536 + dstV4.toNat % 65536 :=
    wordSum_beBytes32 dstV4
  rw [toNat_ipv4HeaderSum, Xlat.ipv4HeaderFields_eq]
  iterate 7 rw [wordSum_append (by simp [v4Octets])]
  rw [httl, hzero, hsrc, hdst, wordSum_beBytes16, wordSum_beBytes16, wordSum_beBytes16, hword,
    toNat_high, toNat_high, toNat_low, toNat_low, UInt16.toNat_zero]
  omega

theorem foldU32Fixed_eq :
    foldU32Fixed (ipv4HeaderSum totalLen srcV4 dstV4 proto) =
      Xlat.checksum16
        (Xlat.ipv4HeaderFields proto (v4Octets srcV4) (v4Octets dstV4) totalLen 64 0) := by
  have hloop := Xlat.checksum16WithSeed_wraps
    (Xlat.ipv4HeaderFields proto (v4Octets srcV4) (v4Octets dstV4) totalLen 64 0) 0
  rw [UInt32.toNat_zero, Nat.zero_add, ← ipv4HeaderSum_eq,
    Nat.mod_eq_of_lt (UInt32.toNat_lt _)] at hloop
  exact (foldU32Fixed_folds _).eq hloop

/-- The stored structure is the built header. -/
theorem ipv4WireHeader_eq_build :
    (ipv4WireHeader totalLen srcV4 dstV4 proto).bytes =
      Xlat.buildIpv4Header proto (v4Octets srcV4) (v4Octets dstV4) totalLen 64 0 := by
  have hzero : neBytes16 0 = beBytes16 0 := rfl
  rw [ipv4WireHeader_bytes, Xlat.buildIpv4Header_eq, ipv4WireHeader_checksumBe, neBytes16_swap16,
    foldU32Fixed_eq, hzero]
  rfl

theorem buildIpv4Header_verifies :
    Xlat.checksum16
      (Xlat.buildIpv4Header proto (v4Octets srcV4) (v4Octets dstV4) totalLen 64 0) = 0xffff := by
  rw [← ipv4WireHeader_eq_build]
  exact ipv4WireHeader_verifies ..

theorem writeIpv4Header_of_le {payloadLen : UInt16} (h : payloadLen.toNat ≤ 65515) :
    writeIpv4Header payloadLen srcV4 dstV4 proto =
      store ETH_HDR_LEN (Xlat.buildIpv4Header proto (v4Octets srcV4) (v4Octets dstV4)
        (payloadLen + 20) 64 0) := by
  have hfits : payloadLen.toNat + IPV4_HDR_LEN < 65536 :=
    Nat.lt_succ_of_le (Nat.add_le_add_right h 20)
  have htwenty : UInt16.ofNat IPV4_HDR_LEN = 20 := rfl
  rw [writeIpv4Header, if_pos hfits, htwenty, ← ipv4WireHeader_eq_build]

theorem writeIpv4Header_of_lt {payloadLen : UInt16} (h : 65515 < payloadLen.toNat) :
    writeIpv4Header payloadLen srcV4 dstV4 proto = return false := by
  have hlong : ¬ payloadLen.toNat + IPV4_HDR_LEN < 65536 := not_lt.mpr (Nat.add_le_add_right h 20)
  rw [writeIpv4Header, if_neg hlong]

end Writer

/-- The writer stores the built header, which verifies, or refuses a payload whose total length
does not fit and stores nothing. -/
theorem header_writer_refines (payloadLen : UInt16) (srcV4 dstV4 : UInt32) :
    (payloadLen.toNat ≤ 65515 →
      (payloadLen + 20).toNat = payloadLen.toNat + 20 ∧
      writeIpv4Header payloadLen srcV4 dstV4 IPPROTO_TCP =
        store ETH_HDR_LEN (Xlat.buildIpv4HeaderTcp (v4Octets srcV4) (v4Octets dstV4)
          (payloadLen + 20) 64 0) ∧
      Xlat.checksum16 (Xlat.buildIpv4HeaderTcp (v4Octets srcV4) (v4Octets dstV4)
        (payloadLen + 20) 64 0) = 0xffff ∧
      writeIpv4Header payloadLen srcV4 dstV4 IPPROTO_UDP =
        store ETH_HDR_LEN (Xlat.buildIpv4HeaderUdp (v4Octets srcV4) (v4Octets dstV4)
          (payloadLen + 20) 64 0) ∧
      Xlat.checksum16 (Xlat.buildIpv4HeaderUdp (v4Octets srcV4) (v4Octets dstV4)
        (payloadLen + 20) 64 0) = 0xffff) ∧
    (65515 < payloadLen.toNat → ∀ l4Proto,
      writeIpv4Header payloadLen srcV4 dstV4 l4Proto = return false) := by
  constructor
  · intro h
    have htotal : (payloadLen + 20).toNat = payloadLen.toNat + 20 := by
      have htwenty : (20 : UInt16).toNat = 20 := rfl
      rw [UInt16.toNat_add, htwenty]
      omega
    refine ⟨htotal, ?_, ?_, ?_, ?_⟩
    · exact writeIpv4Header_of_le srcV4 dstV4 IPPROTO_TCP h
    · exact buildIpv4Header_verifies (payloadLen + 20) srcV4 dstV4 IPPROTO_TCP
    · exact writeIpv4Header_of_le srcV4 dstV4 IPPROTO_UDP h
    · exact buildIpv4Header_verifies (payloadLen + 20) srcV4 dstV4 IPPROTO_UDP
  · intro h l4Proto
    exact writeIpv4Header_of_lt srcV4 dstV4 l4Proto h

/-- Both sides of the length that still fits. -/
theorem header_writer_refines_example :
    writeIpv4Header 65515 0xCB00710A 0xC6336402 IPPROTO_TCP =
      store ETH_HDR_LEN (Xlat.buildIpv4HeaderTcp (v4Octets 0xCB00710A) (v4Octets 0xC6336402)
        (65515 + 20) 64 0) ∧
    writeIpv4Header 65516 0xCB00710A 0xC6336402 IPPROTO_TCP = return false := by
  constructor
  · exact ((header_writer_refines 65515 0xCB00710A 0xC6336402).1 (by decide)).2.1
  · exact (header_writer_refines 65516 0xCB00710A 0xC6336402).2 (by decide) IPPROTO_TCP

end Natto64
