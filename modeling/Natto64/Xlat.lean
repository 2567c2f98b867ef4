import Natto64.Abi
import Natto64.OnesComplement

/-!
# Full checksums

The checksum functions of the translation crate, and what they compute of the words
they sum.
-/
namespace Natto64
namespace Xlat
open Octets InternetChecksum

theorem carry_lt {sum : UInt32} (h : sum >>> 16 ≠ 0) :
    ((sum &&& (0xffff : UInt32)) + (sum >>> 16)).toNat < sum.toNat := by
  have hhigh := toNat_high sum
  have hne : (sum >>> 16).toNat ≠ 0 := fun h0 => h (UInt32.toNat_inj.mp h0)
  rw [toNat_carry]
  omega

/-- Fold a 32-bit accumulator into a 16-bit one's-complement sum. -/
def foldSum (sum : UInt32) : UInt16 :=
  if sum >>> 16 ≠ 0 then foldSum ((sum &&& (0xffff : UInt32)) + (sum >>> 16))
  else sum.toUInt16
termination_by sum.toNat
decreasing_by exact carry_lt ‹_›

def checksum16WithSeed : List UInt8 → UInt32 → UInt16
  | a :: b :: rest, sum => checksum16WithSeed rest (sum + (ofBeBytes16 [a, b]).toUInt32)
  | [last], sum => foldSum (sum + (ofBeBytes16 [last, 0]).toUInt32)
  | [], sum => foldSum sum

/-- The folded sum; `0xffff` over material with a correct checksum field. -/
def checksum16 (data : List UInt8) : UInt16 := checksum16WithSeed data 0

def ipv4HeaderChecksum20b (hdr : List UInt8) : UInt16 := ~~~checksum16 hdr

/-- Adds the words of a segment from octet `i` on, with its checksum field at `field` as zero. -/
def addSegment (field : Nat) : Nat → List UInt8 → UInt32 → UInt32
  | i, a :: b :: rest, sum =>
      let hi := if i = field then 0 else a
      let lo := if i + 1 = field + 1 then 0 else b
      addSegment field (i + 2) rest (sum + (ofBeBytes16 [hi, lo]).toUInt32)
  | i, [a], sum =>
      let last := if i = field then 0 else a
      sum + (ofBeBytes16 [last, 0]).toUInt32
  | _, [], sum => sum

/-- A result of zero is sent as all ones. -/
def complement (sum : UInt32) : UInt16 :=
  let checksum := ~~~foldSum sum
  if checksum = 0 then 0xffff else checksum

/-- The TCP and UDP functions differ in the protocol number and the field they leave out. -/
def transportChecksumIpv4 (proto : UInt32) (field : Nat) (srcV4Be dstV4Be : UInt32)
    (segment : List UInt8) : UInt16 :=
  let len := UInt16.ofNat segment.length
  let sum := (checksum16WithSeed (beBytes32 srcV4Be) 0).toUInt32
  let sum := (checksum16WithSeed (beBytes32 dstV4Be) sum).toUInt32
  let sum := sum + proto
  let sum := sum + len.toUInt32
  complement (addSegment field 0 segment sum)

def transportChecksumIpv6 (proto : UInt32) (field : Nat) (srcV6 dstV6 : Ipv6Octets)
    (segment : List UInt8) : UInt16 :=
  let len := UInt32.ofNat segment.length
  let sum := (checksum16WithSeed srcV6.toList 0).toUInt32
  let sum := (checksum16WithSeed dstV6.toList sum).toUInt32
  let sum := sum + ((len >>> 16) &&& 0xffff)
  let sum := sum + (len &&& (0xffff : UInt32))
  let sum := sum + proto
  complement (addSegment field 0 segment sum)

def tcpChecksumIpv4 : UInt32 → UInt32 → List UInt8 → UInt16 := transportChecksumIpv4 6 16
def tcpChecksumIpv6 : Ipv6Octets → Ipv6Octets → List UInt8 → UInt16 := transportChecksumIpv6 6 16
def udpChecksumIpv4 : UInt32 → UInt32 → List UInt8 → UInt16 := transportChecksumIpv4 17 6
def udpChecksumIpv6 : Ipv6Octets → Ipv6Octets → List UInt8 → UInt16 := transportChecksumIpv6 17 6

theorem foldSum_folds (sum : UInt32) : Folds sum.toNat (foldSum sum) := by
  induction sum using foldSum.induct with
  | case1 sum h ih =>
      rw [foldSum, if_pos h]
      apply Folds.carry
      rw [← toNat_carry]
      exact ih
  | case2 sum h =>
      rw [foldSum, if_neg h]
      apply folds_small
      have hzero : (sum >>> 16).toNat = 0 := by
        rw [not_not.mp h]
        rfl
      rw [toNat_high] at hzero
      omega

/-- The accumulator wraps. -/
theorem toNat_add_word (sum : UInt32) (a b : UInt8) :
    (sum + (ofBeBytes16 [a, b]).toUInt32).toNat =
      (sum.toNat + (256 * a.toNat + b.toNat)) % 2 ^ 32 := by
  rw [UInt32.toNat_add, UInt16.toNat_toUInt32, toNat_word]

theorem checksum16WithSeed_wraps (data : List UInt8) (sum : UInt32) :
    Folds ((sum.toNat + wordSum data) % 2 ^ 32) (checksum16WithSeed data sum) := by
  induction data, sum using checksum16WithSeed.induct with
  | case1 a b rest sum ih =>
      rw [toNat_add_word, Nat.mod_add_mod, Nat.add_assoc] at ih
      exact ih
  | case2 last sum =>
      have hlast : wordSum [last] = 256 * last.toNat + (0 : UInt8).toNat := rfl
      rw [checksum16WithSeed, hlast, ← toNat_add_word]
      exact foldSum_folds _
  | case3 sum =>
      rw [wordSum_nil, Nat.add_zero, Nat.mod_eq_of_lt sum.toNat_lt]
      exact foldSum_folds sum

theorem checksum16WithSeed_folds {data : List UInt8} {sum : UInt32}
    (h : sum.toNat + wordSum data < 2 ^ 32) :
    Folds (sum.toNat + wordSum data) (checksum16WithSeed data sum) := by
  have hwraps := checksum16WithSeed_wraps data sum
  rw [Nat.mod_eq_of_lt h] at hwraps
  exact hwraps

theorem checksum16_eq_ones_iff {data : List UInt8} (h : wordSum data < 2 ^ 32) :
    checksum16 data = 0xffff ↔ wordSum data ≠ 0 ∧ residue data = 0 := by
  have hsum : (0 : UInt32).toNat + wordSum data = wordSum data := Nat.zero_add _
  have hfolds : Folds ((0 : UInt32).toNat + wordSum data) (checksum16 data) :=
    checksum16WithSeed_folds (by rw [hsum]; exact h)
  rw [hsum] at hfolds
  exact hfolds.eq_ones_iff

/-- Away from the checksum field, the words of a segment are added as they are. -/
theorem toNat_addSegment {field i : Nat} {segment : List UInt8} {sum : UInt32}
    (away : i + segment.length ≤ field ∨ field < i) :
    (addSegment field i segment sum).toNat = (sum.toNat + wordSum segment) % 2 ^ 32 := by
  induction i, segment, sum using addSegment.induct field with
  | case1 i a b rest sum hi lo ih =>
      rw [List.length_cons, List.length_cons] at away
      have hhi : hi = a := if_neg (by omega)
      have hlo : lo = b := if_neg (by omega)
      rw [hhi, hlo, toNat_add_word, Nat.mod_add_mod, Nat.add_assoc sum.toNat] at ih
      simp only [addSegment]
      rw [if_neg (by omega), if_neg (by omega)]
      exact ih (by omega)
  | case2 i a sum =>
      rw [List.length_singleton] at away
      simp only [addSegment]
      rw [if_neg (by omega)]
      exact toNat_add_word sum a 0
  | case3 i sum => exact (Nat.mod_eq_of_lt sum.toNat_lt).symm

theorem addSegment_append {field i : Nat} {a b : List UInt8} {sum : UInt32}
    (h : a.length % 2 = 0) :
    addSegment field i (a ++ b) sum =
      addSegment field (i + a.length) b (addSegment field i a sum) := by
  induction i, a, sum using addSegment.induct field with
  | case1 i x y rest sum hi lo ih =>
      rw [List.length_cons, List.length_cons] at h ⊢
      have hlen : i + (rest.length + 1 + 1) = i + 2 + rest.length := by omega
      rw [hlen]
      exact ih (by omega)
  | case2 i x sum => simp at h
  | case3 i sum => rfl

/-- A segment is what precedes its checksum field, the field and the rest. -/
theorem addSegment_split {field : Nat} {segment : List UInt8} {sum : UInt32}
    (even : field % 2 = 0) (within : field + 2 ≤ segment.length) :
    addSegment field 0 segment sum =
      addSegment field (field + 2) (segment.drop (field + 2))
        (addSegment field 0 (segment.take field) sum) := by
  obtain ⟨x, y, hxy⟩ : ∃ x y, slice segment field 2 = [x, y] :=
    List.length_eq_two.mp (length_slice within)
  have htake : (segment.take field).length = field := by
    rw [List.length_take]
    omega
  have hsplit : segment = segment.take field ++ ([x, y] ++ segment.drop (field + 2)) := by
    rw [← hxy, slice, ← List.drop_drop, List.take_append_drop, List.take_append_drop]
  have hfield : addSegment field field [x, y] (addSegment field 0 (segment.take field) sum) =
      addSegment field 0 (segment.take field) sum := by
    simp [addSegment, ofBeBytes16, beNat, leNat]
  conv_lhs => rw [hsplit]
  rw [addSegment_append (by rw [htake]; exact even), htake, Nat.zero_add,
    addSegment_append (by simp), hfield]
  rfl

/-- The whole segment adds its words with the field zeroed. -/
theorem toNat_addSegment_zeroed {field : Nat} {segment : List UInt8} {sum : UInt32}
    (even : field % 2 = 0) (within : field + 2 ≤ segment.length) :
    (addSegment field 0 segment sum).toNat =
      (sum.toNat + wordSum (overwrite segment field [0, 0])) % 2 ^ 32 := by
  have htake : (segment.take field).length = field := by
    rw [List.length_take]
    omega
  have hzeroed : wordSum (overwrite segment field [0, 0]) =
      wordSum (segment.take field) + wordSum (segment.drop (field + 2)) := by
    rw [overwrite, List.append_assoc, wordSum_append (by rw [htake]; exact even)]
    simp
  rw [addSegment_split even within, toNat_addSegment (.inr (by omega)),
    toNat_addSegment (.inl (by omega)), hzeroed, Nat.mod_add_mod, Nat.add_assoc]

theorem complement_ne_zero (sum : UInt32) : complement sum ≠ 0 := by
  simp only [complement]
  split
  · decide
  · assumption

@[simp] theorem residue_complement (sum : UInt32) :
    ((complement sum).toNat : Residue) = -(sum.toNat : Residue) := by
  have hfold : ((~~~foldSum sum).toNat : Residue) = -(sum.toNat : Residue) := by
    rw [residue_not16, (foldSum_folds sum).residue]
  simp only [complement]
  split
  next hzero =>
    rw [hzero] at hfold
    rw [← hfold]
    decide
  · exact hfold

/-- A seed is folded in: the result is 16 bits of the residue of all of it. -/
theorem residue_checksum16WithSeed {data : List UInt8} {sum : UInt32}
    (h : sum.toNat + wordSum data < 2 ^ 32) :
    (((checksum16WithSeed data sum).toUInt32).toNat : Residue) = sum.toNat + residue data := by
  rw [UInt16.toNat_toUInt32, (checksum16WithSeed_folds h).residue, Nat.cast_add, residue]

theorem wordSum_lt {bs : List UInt8} (h : bs.length ≤ 65535) : wordSum bs < 2 ^ 31 := by
  have hle := wordSum_le bs
  omega

section Transport
variable {proto : UInt32} {field : Nat} {segment : List UInt8}

theorem residue_addSegment {sum : UInt32} (even : field % 2 = 0)
    (within : field + 2 ≤ segment.length) (len : segment.length ≤ 65535)
    (hsum : sum.toNat < 2 ^ 31) :
    ((addSegment field 0 segment sum).toNat : Residue) =
      sum.toNat + residue (overwrite segment field [0, 0]) := by
  have hlen : (overwrite segment field [(0 : UInt8), 0]).length = segment.length :=
    length_overwrite within
  have hword : wordSum (overwrite segment field [0, 0]) < 2 ^ 31 :=
    wordSum_lt (by rw [hlen]; exact len)
  rw [toNat_addSegment_zeroed even within, Nat.mod_eq_of_lt (by omega), Nat.cast_add, residue]

/-- Two seeded sums of addresses, to which `extra` is added. -/
theorem residue_addresses (src dst : List UInt8) (hsrc : src.length ≤ 16) (hdst : dst.length ≤ 16)
    {extra : UInt32} (hextra : extra.toNat < 2 ^ 20) :
    (((checksum16WithSeed dst (checksum16WithSeed src 0).toUInt32).toUInt32 + extra).toNat :
      Residue) = residue src + residue dst + extra.toNat ∧
    ((checksum16WithSeed dst (checksum16WithSeed src 0).toUInt32).toUInt32 + extra).toNat
      < 2 ^ 21 := by
  have hwsrc := wordSum_le src
  have hwdst := wordSum_le dst
  have hseed := residue_checksum16WithSeed (show (0 : UInt32).toNat + wordSum src < 2 ^ 32 by
    rw [UInt32.toNat_zero]
    omega)
  have hfirst := (checksum16WithSeed src 0).toNat_lt
  have hfirst32 : (checksum16WithSeed src 0).toUInt32.toNat = (checksum16WithSeed src 0).toNat :=
    UInt16.toNat_toUInt32 _
  have hboth := residue_checksum16WithSeed
    (show (checksum16WithSeed src 0).toUInt32.toNat + wordSum dst < 2 ^ 32 by omega)
  generalize (checksum16WithSeed src 0).toUInt32 = first at *
  have hsecond := (checksum16WithSeed dst first).toNat_lt
  have hsecond32 : (checksum16WithSeed dst first).toUInt32.toNat =
      (checksum16WithSeed dst first).toNat := UInt16.toNat_toUInt32 _
  generalize (checksum16WithSeed dst first).toUInt32 = second at *
  have hadd : (second + extra).toNat = second.toNat + extra.toNat := by
    rw [UInt32.toNat_add]
    omega
  constructor
  · rw [hadd, Nat.cast_add, hboth, hseed, UInt32.toNat_zero]
    push_cast
    ring
  · omega

theorem transportChecksumIpv4_residue {srcV4Be dstV4Be : UInt32} (hproto : proto.toNat ≤ 255)
    (even : field % 2 = 0) (within : field + 2 ≤ segment.length) (len : segment.length ≤ 65535) :
    ((transportChecksumIpv4 proto field srcV4Be dstV4Be segment).toNat : Residue) =
      -(residue (beBytes32 srcV4Be) + residue (beBytes32 dstV4Be) + proto.toNat + segment.length +
        residue (overwrite segment field [0, 0])) := by
  have hlen : (UInt16.ofNat segment.length).toUInt32.toNat = segment.length := by
    rw [UInt16.toNat_toUInt32, UInt16.toNat_ofNat']
    omega
  have hextra : (proto + (UInt16.ofNat segment.length).toUInt32).toNat =
      proto.toNat + segment.length := by
    rw [UInt32.toNat_add, hlen]
    omega
  have hsum : (proto + (UInt16.ofNat segment.length).toUInt32).toNat < 2 ^ 20 := by omega
  obtain ⟨hresidue, hlt⟩ := residue_addresses (beBytes32 srcV4Be) (beBytes32 dstV4Be) (by simp)
    (by simp) hsum
  simp only [transportChecksumIpv4, residue_complement, UInt32.add_assoc]
  rw [residue_addSegment even within len (by omega), hresidue, hextra]
  push_cast
  ring

theorem transportChecksumIpv6_residue {srcV6 dstV6 : Ipv6Octets} (hproto : proto.toNat ≤ 255)
    (even : field % 2 = 0) (within : field + 2 ≤ segment.length) (len : segment.length ≤ 65535) :
    ((transportChecksumIpv6 proto field srcV6 dstV6 segment).toNat : Residue) =
      -(residue srcV6.toList + residue dstV6.toList + proto.toNat + segment.length +
        residue (overwrite segment field [0, 0])) := by
  have hlen : (UInt32.ofNat segment.length).toNat = segment.length := by
    rw [UInt32.toNat_ofNat']
    omega
  have hhigh : ((UInt32.ofNat segment.length >>> 16) &&& (0xffff : UInt32)).toNat = 0 := by
    have hshift : (UInt32.ofNat segment.length >>> 16).toNat = 0 := by
      rw [UInt32.toNat_shiftRight, hlen]
      exact (Nat.shiftRight_eq_div_pow segment.length 16).trans (by omega)
    rw [UInt32.toNat_and, hshift, Nat.zero_and]
  have hlow : (UInt32.ofNat segment.length &&& (0xffff : UInt32)).toNat = segment.length := by
    rw [UInt32.toNat_and, hlen]
    exact (Nat.and_two_pow_sub_one_eq_mod segment.length 16).trans (by omega)
  have hextra : (((UInt32.ofNat segment.length >>> 16) &&& (0xffff : UInt32)) +
      ((UInt32.ofNat segment.length &&& (0xffff : UInt32)) + proto)).toNat =
        proto.toNat + segment.length := by
    rw [UInt32.toNat_add, hhigh, UInt32.toNat_add, hlow]
    omega
  obtain ⟨hresidue, hlt⟩ := residue_addresses srcV6.toList dstV6.toList
    (le_of_eq srcV6.toList_length) (le_of_eq dstV6.toList_length)
    (by rw [hextra]; omega)
  simp only [transportChecksumIpv6, residue_complement, UInt32.add_assoc]
  rw [residue_addSegment even within len (by omega), hresidue, hextra]
  push_cast
  ring

end Transport

end Xlat
end Natto64
