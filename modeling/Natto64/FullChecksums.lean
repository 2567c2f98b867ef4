import Natto64.TransportChecksums

/-!
# Checksums of whole segments

What the checksum functions of the translation crate fill into a segment, up to the longest
one, and where their accumulator wraps.
-/
namespace Natto64
open Octets InternetChecksum

/-- The folded sum is the one's-complement sum as long as the words fit the accumulator. -/
theorem Xlat.checksum16_eq_onesSum_iff {data : List UInt8} (h : data.length < 2 ^ 32) :
    Xlat.checksum16 data = onesSum data ↔ wordSum data < 2 ^ 32 := by
  have hle := wordSum_le data
  have hwraps := Xlat.checksum16WithSeed_wraps data 0
  rw [UInt32.toNat_zero, Nat.zero_add] at hwraps
  exact hwraps.wrapped_eq_iff (onesSum_folds data) (by omega)

/-- An octet string of even length, with a zero octet more where it needs one. -/
def padded (bs : List UInt8) : List UInt8 := bs ++ List.replicate (bs.length % 2) 0

theorem wordSum_padded (bs : List UInt8) : wordSum (padded bs) = wordSum bs := by
  induction bs using wordSum.induct with
  | case1 a b rest ih =>
      have hlen : (a :: b :: rest).length % 2 = rest.length % 2 := Nat.add_mod_right _ 2
      rw [padded] at ih ⊢
      rw [hlen, List.cons_append, List.cons_append, wordSum_cons_cons, ih, wordSum_cons_cons]
  | case2 a => rfl
  | case3 => rfl

/-- Padding changes no sum that fits the accumulator. -/
theorem Xlat.checksum16_padded {pseudo segment : List UInt8} (even : pseudo.length % 2 = 0)
    (short : pseudo.length + segment.length < 2 ^ 17)
    (h : Xlat.checksum16 (pseudo ++ segment) = 0xffff) :
    onesSum (pseudo ++ padded segment) = 0xffff ∧
      Xlat.checksum16 (pseudo ++ padded segment) = 0xffff := by
  have hsum : wordSum (pseudo ++ padded segment) = wordSum (pseudo ++ segment) := by
    rw [wordSum_append even, wordSum_padded, wordSum_append even]
  have hle := wordSum_le (pseudo ++ segment)
  rw [List.length_append] at hle
  have hfits : wordSum (pseudo ++ segment) < 2 ^ 32 := by omega
  rw [Xlat.checksum16_eq_ones_iff hfits, InternetChecksum.residue, ← hsum] at h
  exact ⟨(onesSum_folds _).eq_ones_iff.mpr h,
    (Xlat.checksum16_eq_ones_iff (by rw [hsum]; exact hfits)).mpr h⟩

/-- A segment with its checksum stored. -/
def filled (field : Nat) (checksum : UInt16) (segment : List UInt8) : List UInt8 :=
  overwrite segment field (beBytes16 checksum)

section Filled
variable {field : Nat} {segment : List UInt8}

theorem length_filled (within : field + 2 ≤ segment.length) (checksum : UInt16) :
    (filled field checksum segment).length = segment.length :=
  length_overwrite (by rw [length_beBytes16]; exact within)

theorem residue_filled (even : field % 2 = 0) (within : field + 2 ≤ segment.length)
    (checksum : UInt16) :
    residue (filled field checksum segment) =
      residue (overwrite segment field [0, 0]) + checksum.toNat := by
  have hzero : residue [0, 0] = 0 := rfl
  have hzeroed : residue (overwrite segment field [0, 0]) =
      residue segment - residue (slice segment field 2) + residue [0, 0] :=
    residue_overwrite even rfl within
  rw [filled, residue_overwrite even (by simp) (by rw [length_beBytes16]; exact within), hzeroed,
    length_beBytes16, hzero, residue_beBytes16, add_zero]

/-- The octets of the field are left out of the accumulator. -/
theorem addSegment_overwrite (even : field % 2 = 0) (within : field + 2 ≤ segment.length)
    (hi lo : UInt8) (sum : UInt32) :
    Xlat.addSegment field 0 (overwrite segment field [hi, lo]) sum =
      Xlat.addSegment field 0 segment sum := by
  have htake : (segment.take field).length = field := by
    rw [List.length_take]
    omega
  have hlen : (overwrite segment field [hi, lo]).length = segment.length := length_overwrite within
  have hhead : (overwrite segment field [hi, lo]).take field = segment.take field := by
    rw [overwrite, List.append_assoc]
    exact List.take_left' htake
  have htail : (overwrite segment field [hi, lo]).drop (field + 2) = segment.drop (field + 2) :=
    List.drop_left' (by rw [List.length_append, htake]; rfl)
  rw [Xlat.addSegment_split even (by rw [hlen]; exact within),
    Xlat.addSegment_split even within, hhead, htail]

end Filled

/-- The checksum of a segment is never zero and the same whatever its field holds; stored in
the field, it makes the sum of pseudo-header and padded segment all ones. -/
structure FillsIpv4 (srcV4Be dstV4Be : UInt32) (proto : UInt8) (field : Nat)
    (checksum : List UInt8 → UInt16) (segment : List UInt8) : Prop where
  nonzero : checksum segment ≠ 0
  independent : ∀ hi lo, checksum (overwrite segment field [hi, lo]) = checksum segment
  onesSum : onesSum (buildIpv4PseudoHeaderBytes srcV4Be dstV4Be (UInt16.ofNat segment.length)
    proto ++ padded (filled field (checksum segment) segment)) = 0xffff
  checksum16 : Xlat.checksum16 (buildIpv4PseudoHeaderBytes srcV4Be dstV4Be
    (UInt16.ofNat segment.length) proto ++ padded (filled field (checksum segment) segment)) =
      0xffff

section Ipv4
variable {field : Nat} {segment : List UInt8} {number : UInt32} {proto : UInt8}
  (srcV4Be dstV4Be : UInt32)

theorem buildIpv4PseudoHeaderBytes_eq (len : Nat) (proto : UInt8) :
    buildIpv4PseudoHeaderBytes srcV4Be dstV4Be (UInt16.ofNat len) proto =
      ipv4Pseudo srcV4Be dstV4Be proto len := rfl

theorem transportChecksumIpv4_independent (even : field % 2 = 0)
    (within : field + 2 ≤ segment.length) (hi lo : UInt8) :
    Xlat.transportChecksumIpv4 number field srcV4Be dstV4Be (overwrite segment field [hi, lo]) =
      Xlat.transportChecksumIpv4 number field srcV4Be dstV4Be segment := by
  have hlen : (overwrite segment field [hi, lo]).length = segment.length := length_overwrite within
  simp only [Xlat.transportChecksumIpv4, hlen, addSegment_overwrite even within]

/-- A filled segment verifies. -/
theorem transportChecksumIpv4_verifies (hnumber : number.toNat = proto.toNat)
    (hproto : proto ≠ 0) (even : field % 2 = 0) (within : field + 2 ≤ segment.length)
    (long : segment.length ≤ 65535) :
    VerifiesIpv4 srcV4Be dstV4Be proto
      (filled field (Xlat.transportChecksumIpv4 number field srcV4Be dstV4Be segment)
        segment) := by
  have hlen := length_filled within
    (Xlat.transportChecksumIpv4 number field srcV4Be dstV4Be segment)
  have hfull : ((Xlat.transportChecksumIpv4 number field srcV4Be dstV4Be segment).toNat :
      Residue) = _ := residue_transportChecksumIpv4 proto hnumber even within long
  rw [verifiesIpv4_iff _ _ _ hproto (by omega), hlen, residue_filled even within, hfull]
  ring

theorem fillsIpv4 (hnumber : number.toNat = proto.toNat) (hproto : proto ≠ 0)
    (even : field % 2 = 0) (within : field + 2 ≤ segment.length)
    (long : segment.length ≤ 65535) :
    FillsIpv4 srcV4Be dstV4Be proto field
      (Xlat.transportChecksumIpv4 number field srcV4Be dstV4Be) segment := by
  have hlen := length_filled within
    (Xlat.transportChecksumIpv4 number field srcV4Be dstV4Be segment)
  have hpseudo : (ipv4Pseudo srcV4Be dstV4Be proto segment.length).length % 2 = 0 := by
    simp [ipv4Pseudo]
  have verifies := transportChecksumIpv4_verifies srcV4Be dstV4Be hnumber hproto even within long
  rw [VerifiesIpv4, hlen] at verifies
  have hones := Xlat.checksum16_padded hpseudo (by simp [ipv4Pseudo]; omega) verifies
  refine ⟨Xlat.complement_ne_zero _,
    transportChecksumIpv4_independent srcV4Be dstV4Be even within, ?_, ?_⟩
  · rw [buildIpv4PseudoHeaderBytes_eq]
    exact hones.1
  · rw [buildIpv4PseudoHeaderBytes_eq]
    exact hones.2

/-- Both functions fill every segment their 16-bit length field admits. -/
theorem transport_checksums_ipv4_fill (srcV4Be dstV4Be : UInt32) {segment : List UInt8}
    (long : segment.length ≤ 65535) :
    (18 ≤ segment.length →
      FillsIpv4 srcV4Be dstV4Be IPPROTO_TCP 16 (Xlat.tcpChecksumIpv4 srcV4Be dstV4Be) segment) ∧
    (8 ≤ segment.length →
      FillsIpv4 srcV4Be dstV4Be IPPROTO_UDP 6 (Xlat.udpChecksumIpv4 srcV4Be dstV4Be) segment) := by
  constructor
  · intro within
    exact fillsIpv4 srcV4Be dstV4Be rfl (by decide) rfl within long
  · intro within
    exact fillsIpv4 srcV4Be dstV4Be rfl (by decide) rfl within long

/-- An odd segment. -/
theorem transport_checksums_ipv4_fill_example :
    FillsIpv4 0xCB00710A 0xC6336402 IPPROTO_TCP 16 (Xlat.tcpChecksumIpv4 0xCB00710A 0xC6336402)
      (List.replicate 21 0xab) := by
  have long : (List.replicate 21 (0xab : UInt8)).length ≤ 65535 := by decide
  exact (transport_checksums_ipv4_fill 0xCB00710A 0xC6336402 long).1 (by decide)

end Ipv4

/-- All that goes into the accumulator for a segment. -/
def accumulatedIpv6 (proto : UInt8) (field : Nat) (srcV6 dstV6 : Ipv6Octets)
    (segment : List UInt8) : Nat :=
  (onesSum (srcV6.toList ++ dstV6.toList)).toNat + segment.length / 65536 +
    segment.length % 65536 + proto.toNat + wordSum (overwrite segment field [0, 0])

/-- With its checksum stored, a segment and its pseudo-header sum to all ones. -/
def FillsIpv6 (srcV6 dstV6 : Ipv6Octets) (proto : UInt8) (field : Nat)
    (checksum : List UInt8 → UInt16) (segment : List UInt8) : Prop :=
  onesSum (ipv6Pseudo srcV6 dstV6 proto segment.length ++
    filled field (checksum segment) segment) = 0xffff

section Ipv6
variable {field : Nat} {segment : List UInt8} {number : UInt32} {proto : UInt8}
  (srcV6 dstV6 : Ipv6Octets)

/-- Two seeded folds are one sum. -/
theorem checksum16WithSeed_addresses :
    Xlat.checksum16WithSeed dstV6.toList (Xlat.checksum16WithSeed srcV6.toList 0).toUInt32 =
      onesSum (srcV6.toList ++ dstV6.toList) := by
  have hsrc := wordSum_le srcV6.toList
  have hdst := wordSum_le dstV6.toList
  rw [srcV6.toList_length] at hsrc
  rw [dstV6.toList_length] at hdst
  have hfirst : Folds (wordSum srcV6.toList) (Xlat.checksum16WithSeed srcV6.toList 0) := by
    have hfolds : Folds ((0 : UInt32).toNat + wordSum srcV6.toList)
        (Xlat.checksum16WithSeed srcV6.toList 0) :=
      Xlat.checksum16WithSeed_folds (by rw [UInt32.toNat_zero]; omega)
    rw [UInt32.toNat_zero, Nat.zero_add] at hfolds
    exact hfolds
  have hlt := (Xlat.checksum16WithSeed srcV6.toList 0).toNat_lt
  have hboth : Folds
      ((Xlat.checksum16WithSeed srcV6.toList 0).toUInt32.toNat + wordSum dstV6.toList)
      (Xlat.checksum16WithSeed dstV6.toList
        (Xlat.checksum16WithSeed srcV6.toList 0).toUInt32) := by
    apply Xlat.checksum16WithSeed_folds
    rw [UInt16.toNat_toUInt32]
    omega
  rw [UInt16.toNat_toUInt32] at hboth
  have hsum := onesSum_folds (srcV6.toList ++ dstV6.toList)
  rw [wordSum_append (by rw [srcV6.toList_length])] at hsum
  exact (hfirst.trans hboth).eq hsum

/-- The checksum is the complement of what the accumulator keeps. -/
theorem transportChecksumIpv6_accumulates (hnumber : number.toNat = proto.toNat)
    (even : field % 2 = 0) (within : field + 2 ≤ segment.length)
    (long : segment.length < 2 ^ 32) :
    ((Xlat.transportChecksumIpv6 number field srcV6 dstV6 segment).toNat : Residue) =
      -((accumulatedIpv6 proto field srcV6 dstV6 segment % 2 ^ 32 : Nat) : Residue) := by
  have hlen : (UInt32.ofNat segment.length).toNat = segment.length := by
    rw [UInt32.toNat_ofNat']
    omega
  have hhigh : ((UInt32.ofNat segment.length >>> 16) &&& (0xffff : UInt32)).toNat =
      segment.length / 65536 := by
    rw [toNat_low, toNat_high, hlen]
    omega
  have hlow : (UInt32.ofNat segment.length &&& (0xffff : UInt32)).toNat =
      segment.length % 65536 := by
    rw [toNat_low, hlen]
  simp only [Xlat.transportChecksumIpv6, Xlat.residue_complement]
  rw [Xlat.toNat_addSegment_zeroed even within, checksum16WithSeed_addresses, UInt32.toNat_add,
    UInt32.toNat_add, UInt32.toNat_add, hhigh, hlow, hnumber, UInt16.toNat_toUInt32]
  simp only [Nat.mod_add_mod, accumulatedIpv6]

theorem accumulatedIpv6_residue (long : segment.length < 2 ^ 32) :
    (accumulatedIpv6 proto field srcV6 dstV6 segment : Residue) =
      residue (ipv6Pseudo srcV6 dstV6 proto segment.length) +
        residue (overwrite segment field [0, 0]) := by
  have haddresses := (onesSum_folds (srcV6.toList ++ dstV6.toList)).residue
  rw [wordSum_append (by rw [srcV6.toList_length])] at haddresses
  have hlen := residue_carry segment.length
  rw [residue_ipv6Pseudo _ _ _ long, accumulatedIpv6]
  push_cast at haddresses hlen ⊢
  rw [haddresses, residue, residue, residue]
  linear_combination hlen

/-- The accumulator wraps at most `2 ^ 15` times. -/
theorem accumulatedIpv6_lt (within : field + 2 ≤ segment.length)
    (long : segment.length < 2 ^ 32) :
    accumulatedIpv6 proto field srcV6 dstV6 segment < 65535 * 2 ^ 32 := by
  have haddresses := (onesSum (srcV6.toList ++ dstV6.toList)).toNat_lt
  have hproto := proto.toNat_lt
  have hlen : (overwrite segment field [(0 : UInt8), 0]).length = segment.length :=
    length_overwrite within
  have hle := wordSum_le (overwrite segment field [0, 0])
  rw [hlen] at hle
  rw [accumulatedIpv6]
  omega

/-- A segment is filled rightly exactly if the accumulator does not wrap. -/
theorem fillsIpv6_iff (hnumber : number.toNat = proto.toNat) (hproto : proto ≠ 0)
    (even : field % 2 = 0) (within : field + 2 ≤ segment.length)
    (long : segment.length < 2 ^ 32) :
    FillsIpv6 srcV6 dstV6 proto field (Xlat.transportChecksumIpv6 number field srcV6 dstV6)
        segment ↔
      accumulatedIpv6 proto field srcV6 dstV6 segment < 2 ^ 32 := by
  have hpos : proto.toNat ≠ 0 := fun h => hproto (UInt8.toNat_inj.mp h)
  have hpseudo : (ipv6Pseudo srcV6 dstV6 proto segment.length).length % 2 = 0 := by
    simp [ipv6Pseudo]
  have hnonzero : wordSum (ipv6Pseudo srcV6 dstV6 proto segment.length) ≠ 0 := by
    intro hzero
    rw [ipv6Pseudo, wordSum_append (by simp)] at hzero
    simp only [wordSum] at hzero
    omega
  have hfull := transportChecksumIpv6_accumulates srcV6 dstV6 hnumber even within long
  have htotal : (accumulatedIpv6 proto field srcV6 dstV6 segment : Residue) = _ :=
    accumulatedIpv6_residue srcV6 dstV6 long
  have hsum : ((wordSum (ipv6Pseudo srcV6 dstV6 proto segment.length) + wordSum (filled field
      (Xlat.transportChecksumIpv6 number field srcV6 dstV6 segment) segment) : Nat) : Residue) =
      accumulatedIpv6 proto field srcV6 dstV6 segment -
        ((accumulatedIpv6 proto field srcV6 dstV6 segment % 2 ^ 32 : Nat) : Residue) := by
    have hfilled := residue_filled even within
      (Xlat.transportChecksumIpv6 number field srcV6 dstV6 segment)
    rw [hfull] at hfilled
    rw [htotal, Nat.cast_add]
    rw [residue] at hfilled ⊢
    rw [hfilled]
    ring
  rw [← residue_wrapped_iff (accumulatedIpv6_lt srcV6 dstV6 within long), FillsIpv6,
    (onesSum_folds _).eq_ones_iff, wordSum_append hpseudo, hsum, sub_eq_zero]
  constructor
  · rintro ⟨-, heq⟩
    exact heq.symm
  · intro heq
    exact ⟨by omega, heq.symm⟩

/-- The sum of a slice and both checksums are exact exactly as long as the 32-bit accumulator
does not wrap. -/
theorem checksums_exact_iff {segment : List UInt8} (long : segment.length < 2 ^ 32) :
    (Xlat.checksum16 segment = onesSum segment ↔ wordSum segment < 2 ^ 32) ∧
    (∀ srcV6 dstV6, 18 ≤ segment.length →
      (FillsIpv6 srcV6 dstV6 IPPROTO_TCP 16 (Xlat.tcpChecksumIpv6 srcV6 dstV6) segment ↔
        accumulatedIpv6 IPPROTO_TCP 16 srcV6 dstV6 segment < 2 ^ 32)) ∧
    (∀ srcV6 dstV6, 8 ≤ segment.length →
      (FillsIpv6 srcV6 dstV6 IPPROTO_UDP 6 (Xlat.udpChecksumIpv6 srcV6 dstV6) segment ↔
        accumulatedIpv6 IPPROTO_UDP 6 srcV6 dstV6 segment < 2 ^ 32)) := by
  refine ⟨Xlat.checksum16_eq_onesSum_iff long, ?_, ?_⟩
  · intro srcV6 dstV6 within
    exact fillsIpv6_iff srcV6 dstV6 rfl (by decide) rfl within long
  · intro srcV6 dstV6 within
    exact fillsIpv6_iff srcV6 dstV6 rfl (by decide) rfl within long

theorem checksums_exact_iff_example :
    Xlat.checksum16 (List.replicate 21 0xab) = onesSum (List.replicate 21 0xab) ∧
    FillsIpv6 exampleClient exampleServerV6 IPPROTO_TCP 16
      (Xlat.tcpChecksumIpv6 exampleClient exampleServerV6) (List.replicate 21 0xab) := by
  have long : (List.replicate 21 (0xab : UInt8)).length < 2 ^ 32 := by decide
  obtain ⟨slice, tcp, -⟩ := checksums_exact_iff long
  refine ⟨slice.mpr (by decide), ?_⟩
  exact (tcp exampleClient exampleServerV6 (by decide)).mpr (by decide)

theorem wordSum_replicate_ones (n : Nat) :
    wordSum (List.replicate (2 * n) 0xff) = 65535 * n := by
  induction n with
  | zero => rfl
  | succ n ih =>
      have hones : 256 * (0xff : UInt8).toNat + (0xff : UInt8).toNat = 65535 := rfl
      have hlen : 2 * (n + 1) = 2 * n + 1 + 1 := by omega
      rw [hlen, List.replicate_succ, List.replicate_succ, wordSum_cons_cons, ih, hones]
      omega

/-- A jumbo segment of all ones. -/
def exampleJumbo : List UInt8 := List.replicate (2 * 65540) 0xff

theorem wordSum_exampleJumbo : wordSum exampleJumbo = 65535 * 65540 := wordSum_replicate_ones 65540

theorem wordSum_exampleJumbo_zeroed :
    wordSum (overwrite exampleJumbo 16 [0, 0]) = 65535 * 65539 := by
  have htake : exampleJumbo.take 16 = List.replicate (2 * 8) 0xff := List.take_replicate ..
  have hdrop : exampleJumbo.drop 18 = List.replicate (2 * 65531) 0xff := List.drop_replicate ..
  have hlen : [(0 : UInt8), 0].length = 2 := rfl
  rw [overwrite, htake, hlen, hdrop, wordSum_append (by simp), wordSum_append (by simp),
    wordSum_replicate_ones, wordSum_replicate_ones]
  rfl

/-- Of this segment neither the sum nor the TCP checksum is exact. -/
theorem checksums_wrap :
    ¬ (∀ data : List UInt8, data.length < 2 ^ 32 → Xlat.checksum16 data = onesSum data) ∧
    ¬ ∀ (srcV6 dstV6 : Ipv6Octets) (segment : List UInt8), 18 ≤ segment.length →
      segment.length < 2 ^ 32 →
      FillsIpv6 srcV6 dstV6 IPPROTO_TCP 16 (Xlat.tcpChecksumIpv6 srcV6 dstV6) segment := by
  have hlen : exampleJumbo.length = 2 * 65540 := List.length_replicate
  have long : exampleJumbo.length < 2 ^ 32 := by
    rw [hlen]
    decide
  have within : 16 + 2 ≤ exampleJumbo.length := by
    rw [hlen]
    decide
  constructor
  · intro h
    have hfits := (Xlat.checksum16_eq_onesSum_iff long).mp (h _ long)
    rw [wordSum_exampleJumbo] at hfits
    exact absurd hfits (by decide)
  · intro h
    have hfits := (fillsIpv6_iff exampleClient exampleServerV6 rfl (by decide) rfl within long).mp
      (h _ _ _ within long)
    rw [accumulatedIpv6, wordSum_exampleJumbo_zeroed] at hfits
    omega

end Ipv6

end Natto64
