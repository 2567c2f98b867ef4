import Natto64.ReturnPackets
import Natto64.Xlat

/-!
# Emitted frames

The frame a redirected packet leaves as: all of it in the forward direction, and in both
directions whether the lengths its headers state agree with what it carries.
-/
namespace Natto64
open Octets InternetChecksum

theorem foldU32Fixed_folds (sum : UInt32) : Folds sum.toNat (foldU32Fixed sum) := by
  have hs := sum.toNat_lt
  unfold foldU32Fixed
  apply Folds.carry
  rw [← toNat_carry]
  apply Folds.carry
  rw [← toNat_carry]
  apply Folds.carry
  rw [← toNat_carry]
  apply folds_small
  rw [toNat_carry, toNat_carry, toNat_carry]
  omega

section Header
variable (totalLen : UInt16) (srcV4 dstV4 : UInt32) (proto : UInt8)

def ttlProto (proto : UInt8) : UInt16 := ((64 : UInt16) <<< 8) ||| proto.toUInt16

/-- The words of the header without its checksum, as `write_ipv4_header` adds them. -/
def ipv4HeaderSum (totalLen : UInt16) (srcV4 dstV4 : UInt32) (proto : UInt8) : UInt32 :=
  (0x4500 : UInt32) + totalLen.toUInt32 + (ttlProto proto).toUInt32 + (srcV4 >>> 16) +
    (srcV4 &&& (0xffff : UInt32)) + (dstV4 >>> 16) + (dstV4 &&& (0xffff : UInt32))

theorem ipv4WireHeader_checksumBe :
    (ipv4WireHeader totalLen srcV4 dstV4 proto).checksumBe =
      swap16 (~~~foldU32Fixed (ipv4HeaderSum totalLen srcV4 dstV4 proto)) := rfl

theorem toNat_ipv4HeaderSum :
    (ipv4HeaderSum totalLen srcV4 dstV4 proto).toNat =
      0x4500 + totalLen.toNat + (ttlProto proto).toNat +
        ((srcV4 >>> 16).toNat + (srcV4 &&& (0xffff : UInt32)).toNat) +
        ((dstV4 >>> 16).toNat + (dstV4 &&& (0xffff : UInt32)).toNat) := by
  have htotal := totalLen.toNat_lt
  have httl := (ttlProto proto).toNat_lt
  have hsrc := srcV4.toNat_lt
  have hdst := dstV4.toNat_lt
  have hword : (0x4500 : UInt32).toNat = 0x4500 := rfl
  simp only [ipv4HeaderSum, UInt32.toNat_add, UInt16.toNat_toUInt32, toNat_low, toNat_high, hword]
  omega

/-- The stored checksum is the complement of the sum of the other words. -/
theorem ipv4WireHeader_checksum :
    ((256 * (ipv4WireHeader totalLen srcV4 dstV4 proto).checksumBe.toNat : Nat) : Residue) =
      -(((0x4500 : Nat) : Residue) + totalLen.toNat + (ttlProto proto).toNat + srcV4.toNat +
        dstV4.toNat) := by
  rw [ipv4WireHeader_checksumBe, Nat.cast_mul, toNat_swap16, residue_not16,
    (foldU32Fixed_folds _).residue, toNat_ipv4HeaderSum, ← mul_assoc]
  have hsq : ((256 : Nat) : Residue) * 256 = 1 := byteOrder_sq
  rw [hsq, one_mul]
  simp only [Nat.cast_add, residue_halves]

/-- The stored header verifies. -/
theorem ipv4WireHeader_verifies :
    Xlat.checksum16 (ipv4WireHeader totalLen srcV4 dstV4 proto).bytes = 0xffff := by
  have hlen : (ipv4WireHeader totalLen srcV4 dstV4 proto).bytes.length ≤ 65535 := by
    rw [length_ipv4WireHeader]
    decide
  have hsmall := Xlat.wordSum_lt hlen
  refine (Xlat.checksum16_eq_ones_iff (by omega)).mpr ⟨?_, ?_⟩
  · rw [ipv4WireHeader_bytes]
    simp [wordSum_append, wordSum_beBytes16]
  · have hcheck := ipv4WireHeader_checksum totalLen srcV4 dstV4 proto
    rw [Nat.cast_mul] at hcheck
    have httl : residue [64, proto] = ((ttlProto proto).toNat : Residue) := by
      rw [← beBytes16_ttlProto, residue_beBytes16]
      rfl
    have hzero : residue (neBytes16 0) = 0 := rfl
    have hversion : ((0x4500 : UInt16).toNat : Residue) = 0x4500 := rfl
    rw [ipv4WireHeader_bytes]
    iterate 7 rw [residue_append (by simp)]
    rw [residue_beBytes16, residue_beBytes16, hversion, hzero, httl, residue_neBytes16,
      residue_beBytes32, residue_beBytes32]
    linear_combination hcheck

theorem ipv4WireHeader_totalLen :
    slice (ipv4WireHeader totalLen srcV4 dstV4 proto).bytes 2 2 = beBytes16 totalLen := by
  rw [ipv4WireHeader_bytes]
  iterate 6 rw [slice_append_left (by simp)]
  exact slice_last (by simp) (by simp)

end Header

section Fwd
variable {skb : List UInt8} {extV4 : UInt32} {extPort csum : UInt16}

theorem fwdFrame_totalLen (h : 12 ≤ skb.length) (hmax : (fwdL4LenAt skb).toNat ≤ MAX_L4_LEN) :
    (be16At (fwdFrame skb extV4 extPort csum) 16).toNat = 20 + (fwdL4LenAt skb).toNat := by
  have hmax' : (fwdL4LenAt skb).toNat ≤ 1500 := hmax
  have hlen : be16At (fwdFrame skb extV4 extPort csum) 16 = fwdL4LenAt skb + 20 :=
    be16At_eq ((fwdFrame_header h (Nat.le_of_ble_eq_true rfl)).trans
      (ipv4WireHeader_totalLen ..))
  have htwenty : (20 : UInt16).toNat = 20 := rfl
  rw [hlen, UInt16.toNat_add, htwenty]
  omega

theorem fwdFrame_drop (h : 12 ≤ skb.length) :
    (fwdFrame skb extV4 extPort csum).drop 34 =
      patched (skb.drop 54) 0 extPort (csumFieldOff (u8At skb 20)) csum := by
  rw [fwdFrame, ← List.append_assoc]
  exact List.drop_left' (by rw [List.length_append, length_ethHeader h, length_fwdHeader])

end Fwd

/-- What a frame becomes on its way out: a plain IPv4 header in front of its own segment,
with another source port and another checksum. -/
structure ForwardTranslation (cfg : Nat64Config) (skb out : List UInt8) (extV4 : UInt32)
    (extPort : UInt16) : Prop where
  prefix96 : (v6At skb 38).toList.take 12 = cfg.prefix96.toList
  notExtension : isExtensionHeader (u8At skb 20) = false
  transport : u8At skb 20 = IPPROTO_TCP ∨ u8At skb 20 = IPPROTO_UDP
  within : 54 + csumFieldOff (u8At skb 20) + 2 ≤ skb.length
  macs : out.take 12 = skb.take 12
  etherType : be16At out 12 = ETH_P_IP
  version : u8At out 14 = 0x45
  totalLen : (be16At out 16).toNat = 20 + (fwdL4LenAt skb).toNat
  proto : u8At out 23 = u8At skb 20
  src : be32At out 26 = extV4
  dst : slice out 30 4 = slice skb 50 4
  checksum : Xlat.checksum16 (slice out 14 20) = 0xffff
  segment : ∃ csum, out.drop 34 =
    patched (skb.drop 54) 0 extPort (csumFieldOff (u8At skb 20)) csum

theorem FwdAdmitted.translation {cfg : Nat64Config} {skb : List UInt8} {selected : UInt32}
    (admitted : FwdAdmitted cfg skb selected)
    (within : 54 + csumFieldOff (u8At skb 20) + 2 ≤ skb.length) (extV4 : UInt32)
    (extPort csum : UInt16) :
    ForwardTranslation cfg skb (fwdFrame skb extV4 extPort csum) extV4 extPort := by
  have base := admitted.base
  have h : 12 ≤ skb.length := by omega
  have tuple : ipv4TupleAt (fwdFrame skb extV4 extPort csum) = _ := fwdFrame_tuple within
  have hdst : slice (fwdFrame skb extV4 extPort csum) 30 4 = slice skb 50 4 := by
    have hread : slice (fwdFrame skb extV4 extPort csum) 30 4 =
        beBytes32 (nat64EmbeddedV4Be (v6At skb 38)) :=
      (fwdFrame_header h (Nat.le_of_ble_eq_true rfl)).trans (ipv4WireHeader_dst ..)
    rw [hread, nat64EmbeddedV4Be, beBytes32_ofBeBytes32 rfl, nat64EmbeddedV4Bytes_eq,
      toList_v6At base, slice_slice _ (by decide)]
  have hheader : slice (fwdFrame skb extV4 extPort csum) 14 20 = fwdHeader skb extV4 :=
    (fwdFrame_header h (le_refl (0 + 20))).trans
      (slice_last List.length_nil length_fwdHeader : slice ([] ++ fwdHeader skb extV4) 0 20 = _)
  exact {
    prefix96 := admitted.prefix96
    notExtension := by rcases admitted.proto with hp | hp <;> rw [hp] <;> rfl
    transport := admitted.proto
    within := within
    macs := take_ethHeader h _
    etherType := fwdFrame_etherType h
    version :=
      u8At_eq ((fwdFrame_header h (Nat.le_of_ble_eq_true rfl)).trans (ipv4WireHeader_version ..))
    totalLen := fwdFrame_totalLen h admitted.lenMax
    proto := congrArg Ipv4Tuple.proto tuple
    src := congrArg Ipv4Tuple.src tuple
    dst := hdst
    checksum := by
      rw [hheader]
      exact ipv4WireHeader_verifies ..
    segment := ⟨csum, fwdFrame_drop h⟩ }

/-- Forward translation is exact. -/
theorem forward_translation_exact (k : Kernel) (m : Machine)
    (redirected : (k.exec nat64Forward m).1 = .redirect) :
    ∃ v, (k.exec nat64Forward m).2.maps.fwdNat (fwdKeyAt m.skb) = some v ∧
      (∀ old, m.maps.fwdNat (fwdKeyAt m.skb) = some old →
        v.extV4 = old.extV4 ∧ v.extPort = old.extPort) ∧
      ForwardTranslation (m.maps.config.getD DEFAULT_CFG) m.skb (k.exec nat64Forward m).2.skb
        v.extV4 v.extPort := by
  obtain ⟨selected, t, s, l, csum, mapped, within, hskb, hmaps⟩ :=
    forward_rewritten (redirect_ne_pipe redirected)
  obtain ⟨v, hentry, hext, hport, -⟩ := mapped.mapping.entry
  have hold : ∀ old, m.maps.fwdNat (fwdKeyAt m.skb) = some old →
      v.extV4 = old.extV4 ∧ v.extPort = old.extPort := by
    intro old before
    have tuple := mapped.mapping.tuple_of_entry before
    obtain rfl := Option.some.inj tuple
    exact ⟨hext, hport⟩
  have hkept : (k.exec nat64Forward m).2.maps.fwdNat = s.fwdNat := by
    rw [hmaps]
    split <;> rfl
  refine ⟨v, by rw [hkept, hentry], hold, ?_⟩
  rw [hskb, hext, hport]
  exact mapped.admitted.translation within t.1 t.2.1 csum

theorem forward_translation_exact_example :
    ∃ v, (exampleSystem.forward 0 (exampleTcp6 4000 20) (.ideal 1000 7)).2.maps.fwdNat
        (fwdKeyAt (exampleTcp6 4000 20)) = some v ∧
      (∀ old, exampleSystem.maps.fwdNat (fwdKeyAt (exampleTcp6 4000 20)) = some old →
        v.extV4 = old.extV4 ∧ v.extPort = old.extPort) ∧
      ForwardTranslation exampleDataplane (exampleTcp6 4000 20)
        (exampleSystem.forward 0 (exampleTcp6 4000 20) (.ideal 1000 7)).2.skb v.extV4 v.extPort :=
  forward_translation_exact (.ideal 1000 7) (exampleSystem.machine 0 (exampleTcp6 4000 20))
    (by decide +kernel)

/-- The shortest header of the transport protocol. -/
def l4HeaderLen (proto : UInt8) : Nat := if proto = IPPROTO_TCP then 20 else UDP_HDR_LEN

/-- A stated payload length is no more than what follows the header, no more than the
input stated, and enough for the transport header. -/
structure LengthsHold (stated present declared header : Nat) : Prop where
  present : stated ≤ present
  declared : stated ≤ declared
  header : header ≤ stated

/-- The lengths of an emitted IPv4 frame, the input being IPv6. -/
def FwdLengthsHold (skb out : List UInt8) : Prop :=
  LengthsHold ((be16At out 16).toNat - 20) (out.length - 34) (be16At skb 18).toNat
    (l4HeaderLen (u8At out 23))

/-- The lengths of an emitted IPv6 frame, the input being IPv4. -/
def RevLengthsHold (skb out : List UInt8) : Prop :=
  LengthsHold (be16At out 18).toNat (out.length - 54) (totalLenAt skb - ihlAt skb)
    (l4HeaderLen (u8At out 20))

/-- A TCP segment has a header and is in the frame; a UDP datagram is in its packet and in
the frame. -/
def FwdLengthsFit (skb : List UInt8) : Prop :=
  if u8At skb 20 = IPPROTO_TCP then
    20 ≤ (be16At skb 18).toNat ∧ 54 + (be16At skb 18).toNat ≤ skb.length
  else be16At skb 58 ≤ be16At skb 18 ∧ 54 + (be16At skb 58).toNat ≤ skb.length

/-- The same in the other direction, where the datagram was checked against its packet. -/
def RevLengthsFit (skb : List UInt8) : Prop :=
  if u8At skb 23 = IPPROTO_TCP then
    ihlAt skb + 20 ≤ totalLenAt skb ∧ 34 + (totalLenAt skb - ihlAt skb) ≤ skb.length
  else 34 + (be16At skb (14 + ihlAt skb + 4)).toNat ≤ skb.length

theorem fwdFrame_lengths_iff {cfg : Nat64Config} {skb : List UInt8} {selected extV4 : UInt32}
    {extPort csum : UInt16} (admitted : FwdAdmitted cfg skb selected)
    (within : 54 + csumFieldOff (u8At skb 20) + 2 ≤ skb.length) :
    FwdLengthsHold skb (fwdFrame skb extV4 extPort csum) ↔ FwdLengthsFit skb := by
  have translation := admitted.translation within extV4 extPort csum
  have hlen : (fwdFrame skb extV4 extPort csum).length + 20 = skb.length := length_fwdFrame within
  unfold FwdLengthsHold FwdLengthsFit
  rw [translation.totalLen, translation.proto, fwdL4LenAt]
  rcases admitted.proto with tcp | udp
  · rw [if_pos tcp, if_pos tcp, tcp]
    constructor
    · intro h
      have hheader := h.header
      have hpresent := h.present
      rw [l4HeaderLen, if_pos rfl] at hheader
      omega
    · rintro ⟨hheader, hpresent⟩
      refine ⟨by omega, by omega, ?_⟩
      rw [l4HeaderLen, if_pos rfl]
      omega
  · have hudp : u8At skb 20 ≠ IPPROTO_TCP := by
      rw [udp]
      decide
    have hmin := (admitted.udp udp).2
    rw [fwdL4LenAt, if_neg hudp] at hmin
    rw [if_neg hudp, if_neg hudp, UInt16.le_iff_toNat_le]
    constructor
    · intro h
      have hpresent := h.present
      have hdeclared := h.declared
      omega
    · rintro ⟨hdeclared, hpresent⟩
      refine ⟨by omega, by omega, ?_⟩
      rw [l4HeaderLen, if_neg hudp]
      omega

theorem ipv6WireHeader_payloadLen (hdr : Ipv6WireHeader) :
    slice hdr.bytes 4 2 = neBytes16 hdr.payloadLenBe := by
  rw [Ipv6WireHeader.bytes]
  iterate 3 rw [slice_append_left (by simp)]
  exact slice_last (by simp) (by simp)

section Rev
variable {skb : List UInt8} {v : NatVal} {csum : UInt16}

theorem revFrame_payloadLen (h : 12 ≤ skb.length) :
    be16At (revFrame skb v csum) 18 = revL4LenAt skb := by
  have hread : slice (revFrame skb v csum) 18 2 = neBytes16 (swap16 (revL4LenAt skb)) :=
    (revFrame_header h (Nat.le_of_ble_eq_true rfl)).trans (ipv6WireHeader_payloadLen _)
  rw [neBytes16_swap16] at hread
  exact be16At_eq hread

theorem revFrame_lengths_iff {cfg : Nat64Config} (admitted : RevAdmitted cfg skb)
    (within : 34 + csumFieldOff (u8At skb 23) + 2 ≤ skb.length) :
    RevLengthsHold skb (revFrame skb v csum) ↔ RevLengthsFit skb := by
  have base := admitted.base
  have hlen : (revFrame skb v csum).length = skb.length + 20 := length_revFrame within
  have hproto : u8At (revFrame skb v csum) 20 = u8At skb 23 :=
    congrArg Ipv6Tuple.proto (revFrame_tuple within)
  unfold RevLengthsHold RevLengthsFit
  rw [revFrame_payloadLen (by omega), hproto, revL4LenAt]
  rcases admitted.proto with tcp | udp
  · have hsmall : (UInt16.ofNat (totalLenAt skb - ihlAt skb)).toNat =
        totalLenAt skb - ihlAt skb := by
      have htotal : totalLenAt skb < 65536 := (be16At skb 16).toNat_lt
      exact UInt16.toNat_ofNat_of_lt' (by unfold UInt16.size; omega)
    rw [if_pos tcp, if_pos tcp, tcp, hsmall]
    constructor
    · intro h
      have hheader := h.header
      have hpresent := h.present
      rw [l4HeaderLen, if_pos rfl] at hheader
      omega
    · rintro ⟨hheader, hpresent⟩
      refine ⟨by omega, le_rfl, ?_⟩
      rw [l4HeaderLen, if_pos rfl]
      omega
  · have hudp : u8At skb 23 ≠ IPPROTO_TCP := by
      rw [udp]
      decide
    obtain ⟨-, hmin, -, htotal⟩ := admitted.udp udp
    rw [revL4LenAt, if_neg hudp] at hmin htotal
    rw [if_neg hudp, if_neg hudp]
    constructor
    · intro h
      have hpresent := h.present
      omega
    · intro hpresent
      refine ⟨by omega, by omega, ?_⟩
      rw [l4HeaderLen, if_neg hudp]
      exact hmin

end Rev

/-- When the lengths of a redirected packet hold. -/
theorem emitted_lengths_iff (k : Kernel) (m : Machine) :
    ((k.exec nat64Forward m).1 = .redirect →
      (FwdLengthsHold m.skb (k.exec nat64Forward m).2.skb ↔ FwdLengthsFit m.skb)) ∧
    ((k.exec nat64Reverse m).1 = .redirect →
      (RevLengthsHold m.skb (k.exec nat64Reverse m).2.skb ↔ RevLengthsFit m.skb)) := by
  constructor
  · intro redirected
    obtain ⟨selected, t, s, l, csum, mapped, within, hskb, -⟩ :=
      forward_rewritten (redirect_ne_pipe redirected)
    rw [hskb]
    exact fwdFrame_lengths_iff mapped.admitted within
  · intro redirected
    obtain ⟨v, csum, matched, within, hskb, -⟩ := reverse_rewritten (redirect_ne_pipe redirected)
    rw [hskb]
    exact revFrame_lengths_iff matched.admitted within

/-- The state after a request of the example client. -/
def exampleRequested : System :=
  exampleSystem.step (.forward 0 (exampleTcp6 4000 20) (.ideal 1000 7))

theorem emitted_lengths_example :
    FwdLengthsHold (exampleTcp6 4000 20)
        (exampleSystem.forward 0 (exampleTcp6 4000 20) (.ideal 1000 7)).2.skb ∧
      RevLengthsHold (exampleTcp4 20001 [])
        (exampleRequested.reverse 1 (exampleTcp4 20001 []) (.ideal 2000 8)).2.skb := by
  constructor
  · refine ((emitted_lengths_iff (.ideal 1000 7)
      (exampleSystem.machine 0 (exampleTcp6 4000 20))).1 (by decide +kernel)).mpr ?_
    unfold FwdLengthsFit
    decide +kernel
  · refine ((emitted_lengths_iff (.ideal 2000 8)
      (exampleRequested.machine 1 (exampleTcp4 20001 []))).2 (by decide +kernel)).mpr ?_
    unfold RevLengthsFit
    decide +kernel

/-- A datagram that states a length of 100 in a packet of 8. -/
def overlongUdp6 : List UInt8 :=
  frame6 IPPROTO_UDP exampleClient exampleServerV6
    (beBytes16 4000 ++ beBytes16 53 ++ beBytes16 100 ++ beBytes16 0x1234)

theorem overlong_datagram_redirected :
    (exampleSystem.forward 0 overlongUdp6 (.ideal 1000 7)).1 = .redirect ∧
      ¬ FwdLengthsHold overlongUdp6
        (exampleSystem.forward 0 overlongUdp6 (.ideal 1000 7)).2.skb := by
  refine ⟨by decide +kernel, fun h => ?_⟩
  exact absurd h.declared (by decide +kernel)

end Natto64
