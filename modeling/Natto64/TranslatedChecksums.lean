import Natto64.EmittedFrames
import Natto64.TransportChecksums

/-!
# Checksums of translated packets

From the frame that arrives to the frame that leaves: the ones'-complement sum over
pseudo-header and segment verifies after a translation exactly if it did before, and then the
checksum is the one that the full computation over the emitted segment gives.
-/
namespace Natto64
open Octets InternetChecksum

/-- The transport segment of an IPv6 frame, as long as the frame declares. -/
def segment6At (skb : List UInt8) : List UInt8 := slice skb 54 (fwdL4LenAt skb).toNat

/-- The transport segment of an IPv4 frame, as long as the frame declares. -/
def segment4At (skb : List UInt8) : List UInt8 :=
  slice skb (14 + ihlAt skb) (revL4LenAt skb).toNat

/-- The sum over pseudo-header and segment is that of a correct checksum. A zero UDP field is
summed as it is; that it stands for no checksum is left to its reader. -/
def SumVerifies6 (skb : List UInt8) : Prop :=
  VerifiesIpv6 (v6At skb 22) (v6At skb 38) (u8At skb 20) (segment6At skb)

def SumVerifies4 (skb : List UInt8) : Prop :=
  VerifiesIpv4 (be32At skb 26) (be32At skb 30) (u8At skb 23) (segment4At skb)

instance (skb : List UInt8) : Decidable (SumVerifies6 skb) :=
  inferInstanceAs (Decidable (VerifiesIpv6 _ _ _ _))

instance (skb : List UInt8) : Decidable (SumVerifies4 skb) :=
  inferInstanceAs (Decidable (VerifiesIpv4 _ _ _ _))

/-- The checksum of the whole segment, computed from scratch. -/
def fullChecksum6At (skb : List UInt8) : UInt16 :=
  if u8At skb 20 = IPPROTO_TCP then
    Xlat.tcpChecksumIpv6 (v6At skb 22) (v6At skb 38) (segment6At skb)
  else Xlat.udpChecksumIpv6 (v6At skb 22) (v6At skb 38) (segment6At skb)

def fullChecksum4At (skb : List UInt8) : UInt16 :=
  if u8At skb 23 = IPPROTO_TCP then
    Xlat.tcpChecksumIpv4 (be32At skb 26) (be32At skb 30) (segment4At skb)
  else Xlat.udpChecksumIpv4 (be32At skb 26) (be32At skb 30) (segment4At skb)

/-- The segment is all there, its checksum field included. -/
structure Whole6 (skb : List UInt8) : Prop where
  present : 54 + (fwdL4LenAt skb).toNat ≤ skb.length
  field : csumFieldOff (u8At skb 20) + 2 ≤ (fwdL4LenAt skb).toNat

/-- So is the one of an IPv4 packet whose header has no options. -/
structure WholePlain4 (skb : List UInt8) : Prop where
  plain : ihlAt skb = 20
  present : 34 + (revL4LenAt skb).toNat ≤ skb.length
  field : csumFieldOff (u8At skb 23) + 2 ≤ (revL4LenAt skb).toNat

theorem even_csumFieldOff (proto : UInt8) : csumFieldOff proto % 2 = 0 := by
  unfold csumFieldOff
  split <;> rfl

theorem transport_ne_zero {proto : UInt8} (h : proto = IPPROTO_TCP ∨ proto = IPPROTO_UDP) :
    proto ≠ 0 := by
  rcases h with rfl | rfl <;> decide

theorem fullChecksum4At_eq {skb : List UInt8}
    (h : u8At skb 23 = IPPROTO_TCP ∨ u8At skb 23 = IPPROTO_UDP) :
    fullChecksum4At skb = Xlat.transportChecksumIpv4 (u8At skb 23).toUInt32
      (csumFieldOff (u8At skb 23)) (be32At skb 26) (be32At skb 30) (segment4At skb) := by
  unfold fullChecksum4At
  rcases h with h | h <;> rw [h] <;> rfl

theorem fullChecksum6At_eq {skb : List UInt8}
    (h : u8At skb 20 = IPPROTO_TCP ∨ u8At skb 20 = IPPROTO_UDP) :
    fullChecksum6At skb = Xlat.transportChecksumIpv6 (u8At skb 20).toUInt32
      (csumFieldOff (u8At skb 20)) (v6At skb 22) (v6At skb 38) (segment6At skb) := by
  unfold fullChecksum6At
  rcases h with h | h <;> rw [h] <;> rfl

/-- A prefix of a rewritten segment that holds both fields. -/
theorem slice_patched {rest : List UInt8} {pos off n : Nat} (port csum : UInt16)
    (hpos : pos + 2 ≤ off) (hoff : off + 2 ≤ n) (hn : n ≤ rest.length) :
    slice (patched rest pos port off csum) 0 n = patched (slice rest 0 n) pos port off csum := by
  have hport : pos + (beBytes16 port).length ≤ rest.length := by
    rw [length_beBytes16]
    omega
  have outer : slice (overwrite (overwrite rest pos (beBytes16 port)) (0 + off) (neBytes16 csum)) 0
      n = overwrite (slice (overwrite rest pos (beBytes16 port)) 0 n) off (neBytes16 csum) :=
    slice_overwrite_within (by rw [length_neBytes16]; exact hoff)
      (by rw [length_overwrite hport]; omega)
  have inner : slice (overwrite rest (0 + pos) (beBytes16 port)) 0 n =
      overwrite (slice rest 0 n) pos (beBytes16 port) :=
    slice_overwrite_within (by rw [length_beBytes16]; omega) (by omega)
  rw [Nat.zero_add] at outer inner
  rw [patched, outer, inner]
  rfl

section Full
variable {srcV4 dstV4 : UInt32} {srcV6 dstV6 : Ipv6Octets} {proto : UInt8}
  {len portOff csumOff : Nat} {old new : List UInt8} {newPort c : UInt16}

/-- Where the old segment is correct, the new field is what a full computation gives. -/
theorem rewritten_fullIpv4
    (h : Rewritten (ipv6Pseudo srcV6 dstV6 proto len) (ipv4Pseudo srcV4 dstV4 proto len) old new
      portOff csumOff newPort c) (hproto : proto ≠ 0) (hold : old.length = len)
    (hnew : new.length = len) (long : len ≤ 65535) (even : csumOff % 2 = 0)
    (apart : portOff + 2 ≤ csumOff) (within : csumOff + 2 ≤ len)
    (correct : VerifiesIpv6 srcV6 dstV6 proto old) :
    SameOnesComplement (be16At new csumOff)
      (Xlat.transportChecksumIpv4 proto.toUInt32 csumOff srcV4 dstV4 new) := by
  subst hold
  rw [verifiesIpv6_iff _ _ _ hproto long] at correct
  have hfull : ((Xlat.transportChecksumIpv4 proto.toUInt32 csumOff srcV4 dstV4 new).toNat :
      Residue) = _ := residue_transportChecksumIpv4 proto (UInt8.toNat_toUInt32 proto) even
    (by omega) (by omega)
  rw [hnew] at hfull
  rw [SameOnesComplement, ← residue_eq_iff, h.be16At_field apart within, toNat_swap16,
    h.residue_full even apart within correct hfull]

theorem rewritten_fullIpv6
    (h : Rewritten (ipv4Pseudo srcV4 dstV4 proto len) (ipv6Pseudo srcV6 dstV6 proto len) old new
      portOff csumOff newPort c) (hproto : proto ≠ 0) (hold : old.length = len)
    (hnew : new.length = len) (long : len ≤ 65535) (even : csumOff % 2 = 0)
    (apart : portOff + 2 ≤ csumOff) (within : csumOff + 2 ≤ len)
    (correct : VerifiesIpv4 srcV4 dstV4 proto old) :
    SameOnesComplement (be16At new csumOff)
      (Xlat.transportChecksumIpv6 proto.toUInt32 csumOff srcV6 dstV6 new) := by
  subst hold
  rw [verifiesIpv4_iff _ _ _ hproto long] at correct
  have hfull : ((Xlat.transportChecksumIpv6 proto.toUInt32 csumOff srcV6 dstV6 new).toNat :
      Residue) = _ := residue_transportChecksumIpv6 proto (UInt8.toNat_toUInt32 proto) even
    (by omega) (by omega)
  rw [hnew] at hfull
  rw [SameOnesComplement, ← residue_eq_iff, h.be16At_field apart within, toNat_swap16,
    h.residue_full even apart within correct hfull]

end Full

section Forward
variable {k : Kernel} {skb : List UInt8} {extV4 : UInt32} {extPort csum : UInt16}

/-- The emitted frame declares the same segment length. -/
theorem fwdFrame_l4Len (within : 54 + csumFieldOff (u8At skb 20) + 2 ≤ skb.length)
    (transport : u8At skb 20 = IPPROTO_TCP ∨ u8At skb 20 = IPPROTO_UDP)
    (lenMax : (fwdL4LenAt skb).toNat ≤ MAX_L4_LEN) :
    revL4LenAt (fwdFrame skb extV4 extPort csum) = fwdL4LenAt skb := by
  have hoff := six_le_csumFieldOff (u8At skb 20)
  have h : 12 ≤ skb.length := by omega
  have hproto : u8At (fwdFrame skb extV4 extPort csum) 23 = u8At skb 20 :=
    congrArg Ipv4Tuple.proto (fwdFrame_tuple within)
  have hihl : ihlAt (fwdFrame skb extV4 extPort csum) = 20 := fwdFrame_ihl h
  have htotal : totalLenAt (fwdFrame skb extV4 extPort csum) = 20 + (fwdL4LenAt skb).toNat :=
    fwdFrame_totalLen h lenMax
  unfold revL4LenAt
  rw [hproto, hihl, htotal, Nat.add_sub_cancel_left, UInt16.ofNat_toNat]
  rcases transport with tcp | udp
  · rw [if_pos tcp]
  · have hlen : be16At (fwdFrame skb extV4 extPort csum) 38 = be16At skb 58 := by
      have hrest : csumFieldOff (u8At skb 20) + 2 ≤ (skb.drop 54).length := by
        rw [List.length_drop]
        omega
      rw [be16At, be16At, fwdFrame_segment h 4 2,
        patched_slice _ _ (by omega) hrest (.inr (by omega)) (.inl (by omega)), slice_drop]
    have notTcp : u8At skb 20 ≠ IPPROTO_TCP := by
      rw [udp]
      decide
    rw [if_neg notTcp, hlen, fwdL4LenAt, if_neg notTcp]

theorem fwdFrame_rewritten (sums : k.Sums) (whole : Whole6 skb)
    (transport : u8At skb 20 = IPPROTO_TCP ∨ u8At skb 20 = IPPROTO_UDP)
    (lenMax : (fwdL4LenAt skb).toNat ≤ MAX_L4_LEN)
    (chain : fwdCsum k skb extV4 extPort = some csum) :
    Rewritten
      (ipv6Pseudo (v6At skb 22) (v6At skb 38) (u8At skb 20) (fwdL4LenAt skb).toNat)
      (ipv4Pseudo extV4 (nat64EmbeddedV4Be (v6At skb 38)) (u8At skb 20) (fwdL4LenAt skb).toNat)
      (segment6At skb) (segment4At (fwdFrame skb extV4 extPort csum)) 0
      (csumFieldOff (u8At skb 20)) extPort csum := by
  have hoff := six_le_csumFieldOff (u8At skb 20)
  have present := whole.present
  have field := whole.field
  have h : 12 ≤ skb.length := by omega
  have within : 54 + csumFieldOff (u8At skb 20) + 2 ≤ skb.length := by omega
  have hlen : (segment6At skb).length = (fwdL4LenAt skb).toNat := length_slice present
  have hseg : segment4At (fwdFrame skb extV4 extPort csum) =
      patched (segment6At skb) 0 extPort (csumFieldOff (u8At skb 20)) csum := by
    have hread : slice (fwdFrame skb extV4 extPort csum) 34 (fwdL4LenAt skb).toNat =
        slice (patched (skb.drop 54) 0 extPort (csumFieldOff (u8At skb 20)) csum) 0
          (fwdL4LenAt skb).toNat := fwdFrame_segment h 0 _
    rw [segment4At, fwdFrame_l4Len within transport lenMax, fwdFrame_ihl h, hread,
      slice_patched _ _ (by omega) field (by rw [List.length_drop]; omega), slice_drop]
    rfl
  have hport : be16At (segment6At skb) 0 = be16At skb 54 := by
    rw [be16At, be16At, segment6At, slice_slice _ (by omega)]
  have hfield : slice (segment6At skb) (csumFieldOff (u8At skb 20)) 2 =
      slice skb (54 + csumFieldOff (u8At skb 20)) 2 := slice_slice _ field
  obtain ⟨c, answer, updates⟩ := csumV6ToV4_updates (fwdL4LenAt skb) (u8At skb 20) (v6At skb 22)
    (v6At skb 38) extV4 (nat64EmbeddedV4Be (v6At skb 38)) (be16At skb 54) extPort
    (ofNeBytes16 (slice skb (54 + csumFieldOff (u8At skb 20)) 2)) (u8At skb 20 == IPPROTO_UDP) sums
  obtain rfl := Option.some.inj (chain.symm.trans answer)
  have len : UInt16.ofNat (fwdL4LenAt skb).toNat = fwdL4LenAt skb := UInt16.ofNat_toNat
  rw [← len, ipv6Pseudo_eq _ _ _ (Nat.le_of_lt_succ (fwdL4LenAt skb).toNat_lt), ipv4Pseudo_eq,
    ← hport, ← hfield] at updates
  rw [hseg]
  exact rewritten_of_updates rfl (even_csumFieldOff _) (by omega) (by omega) updates

/-- The sum of a forward packet that leaves verifies exactly if it did on arrival. -/
theorem forward_checksum (sums : k.Sums) {m : Machine} (whole : Whole6 m.skb)
    (translated : (k.exec nat64Forward m).1 ≠ .pipe) :
    (SumVerifies4 (k.exec nat64Forward m).2.skb ↔ SumVerifies6 m.skb) ∧
    (SumVerifies6 m.skb → SameOnesComplement
      (be16At (segment4At (k.exec nat64Forward m).2.skb) (csumFieldOff (u8At m.skb 20)))
      (fullChecksum4At (k.exec nat64Forward m).2.skb)) := by
  have hcase := nat64Forward_case k m
  generalize k.exec nat64Forward m = z at translated hcase ⊢
  cases hcase with
  | passed | cut | unmapped | dropped => exact absurd rfl translated
  | @translated out extV4 t s l csum mapped change within chain skb =>
    have admitted := mapped.admitted
    have hnonzero := transport_ne_zero admitted.proto
    have present := whole.present
    have field := whole.field
    have hoff := six_le_csumFieldOff (u8At m.skb 20)
    have hmax := (fwdL4LenAt m.skb).toNat_lt
    have rewritten := fwdFrame_rewritten sums whole admitted.proto admitted.lenMax chain
    have hold : (segment6At m.skb).length = (fwdL4LenAt m.skb).toNat := length_slice present
    have hnew : (segment4At (fwdFrame m.skb t.1 t.2.1 csum)).length = (fwdL4LenAt m.skb).toNat := by
      rw [rewritten.length (by omega) (by omega), hold]
    have tuple : ipv4TupleAt (fwdFrame m.skb t.1 t.2.1 csum) = _ := fwdFrame_tuple within
    have hsrc : be32At out.skb 26 = t.1 := by
      rw [skb]
      exact congrArg Ipv4Tuple.src tuple
    have hdst : be32At out.skb 30 = nat64EmbeddedV4Be (v6At m.skb 38) := by
      rw [skb]
      exact congrArg Ipv4Tuple.dst tuple
    have hproto : u8At out.skb 23 = u8At m.skb 20 := by
      rw [skb]
      exact congrArg Ipv4Tuple.proto tuple
    rw [← skb] at rewritten hnew
    have verifies := rewritten_verifiesIpv4_iff rewritten hnonzero hold hnew (by omega)
    rw [SumVerifies4, SumVerifies6, hsrc, hdst, hproto]
    refine ⟨verifies, fun before => ?_⟩
    rw [fullChecksum4At_eq (by rw [hproto]; exact admitted.proto), hsrc, hdst, hproto]
    exact rewritten_fullIpv4 rewritten hnonzero hold hnew (by omega) (even_csumFieldOff _)
      (by omega) field before

end Forward

section Reverse
variable {k : Kernel} {skb : List UInt8} {v : NatVal} {csum : UInt16}

theorem revFrame_l4Len (within : 34 + csumFieldOff (u8At skb 23) + 2 ≤ skb.length)
    (plain : ihlAt skb = 20)
    (transport : u8At skb 23 = IPPROTO_TCP ∨ u8At skb 23 = IPPROTO_UDP) :
    fwdL4LenAt (revFrame skb v csum) = revL4LenAt skb := by
  have hoff := six_le_csumFieldOff (u8At skb 23)
  have h : 12 ≤ skb.length := by omega
  have hproto : u8At (revFrame skb v csum) 20 = u8At skb 23 :=
    congrArg Ipv6Tuple.proto (revFrame_tuple within)
  have hpayload : be16At (revFrame skb v csum) 18 = revL4LenAt skb := revFrame_payloadLen h
  unfold fwdL4LenAt
  rw [hproto, hpayload]
  rcases transport with tcp | udp
  · rw [if_pos tcp]
  · have hlen : be16At (revFrame skb v csum) 58 = be16At skb 38 := by
      have hrest : csumFieldOff (u8At skb 23) + 2 ≤ (skb.drop 34).length := by
        rw [List.length_drop]
        omega
      rw [be16At, be16At, revFrame_segment h 4 2,
        patched_slice _ _ (by omega) hrest (.inr le_rfl) (.inl (by omega)), slice_drop]
    have notTcp : u8At skb 23 ≠ IPPROTO_TCP := by
      rw [udp]
      decide
    rw [if_neg notTcp, hlen, revL4LenAt, if_neg notTcp, plain]

theorem revFrame_rewritten (sums : k.Sums) (whole : WholePlain4 skb)
    (transport : u8At skb 23 = IPPROTO_TCP ∨ u8At skb 23 = IPPROTO_UDP)
    (chain : revCsum k skb v = some csum) :
    Rewritten
      (ipv4Pseudo (be32At skb 26) (be32At skb 30) (u8At skb 23) (revL4LenAt skb).toNat)
      (ipv6Pseudo (nat64SourceV6 (be32At skb 26)) v.vmV6 (u8At skb 23) (revL4LenAt skb).toNat)
      (segment4At skb) (segment6At (revFrame skb v csum)) 2
      (csumFieldOff (u8At skb 23)) v.vmPort csum := by
  have hoff := six_le_csumFieldOff (u8At skb 23)
  have plain := whole.plain
  have present := whole.present
  have field := whole.field
  have h : 12 ≤ skb.length := by omega
  have within : 34 + csumFieldOff (u8At skb 23) + 2 ≤ skb.length := by omega
  have hold : segment4At skb = slice skb 34 (revL4LenAt skb).toNat := by rw [segment4At, plain]
  have hlen : (segment4At skb).length = (revL4LenAt skb).toNat := by
    rw [hold, length_slice present]
  have hseg : segment6At (revFrame skb v csum) =
      patched (segment4At skb) 2 v.vmPort (csumFieldOff (u8At skb 23)) csum := by
    have hread : slice (revFrame skb v csum) 54 (revL4LenAt skb).toNat =
        slice (patched (skb.drop 34) 2 v.vmPort (csumFieldOff (u8At skb 23)) csum) 0
          (revL4LenAt skb).toNat := revFrame_segment h 0 _
    rw [segment6At, revFrame_l4Len within plain transport, hread,
      slice_patched _ _ (by omega) field (by rw [List.length_drop]; omega), slice_drop, hold]
  have hport : be16At (segment4At skb) 2 = be16At skb (14 + ihlAt skb + 2) := by
    rw [be16At, be16At, hold, slice_slice _ (by omega), plain]
  have hfield : slice (segment4At skb) (csumFieldOff (u8At skb 23)) 2 =
      slice skb (34 + csumFieldOff (u8At skb 23)) 2 := by rw [hold, slice_slice _ field]
  obtain ⟨c, answer, updates⟩ := csumV4ToV6_updates (revL4LenAt skb) (u8At skb 23)
    (nat64SourceV6 (be32At skb 26)) v.vmV6 (be32At skb 26) (be32At skb 30)
    (be16At skb (14 + ihlAt skb + 2)) v.vmPort
    (ofNeBytes16 (slice skb (34 + csumFieldOff (u8At skb 23)) 2)) (u8At skb 23 == IPPROTO_UDP) sums
  obtain rfl := Option.some.inj (chain.symm.trans answer)
  have len : UInt16.ofNat (revL4LenAt skb).toNat = revL4LenAt skb := UInt16.ofNat_toNat
  rw [← len, ipv6Pseudo_eq _ _ _ (Nat.le_of_lt_succ (revL4LenAt skb).toNat_lt), ipv4Pseudo_eq,
    ← hport, ← hfield] at updates
  rw [hseg]
  exact rewritten_of_updates rfl (even_csumFieldOff _) (by omega) (by omega) updates

/-- The sum of a reply that is delivered verifies exactly if it did on arrival. -/
theorem reverse_checksum (sums : k.Sums) {m : Machine} (whole : WholePlain4 m.skb)
    (translated : (k.exec nat64Reverse m).1 ≠ .pipe) :
    (SumVerifies6 (k.exec nat64Reverse m).2.skb ↔ SumVerifies4 m.skb) ∧
    (SumVerifies4 m.skb → SameOnesComplement
      (be16At (segment6At (k.exec nat64Reverse m).2.skb) (csumFieldOff (u8At m.skb 23)))
      (fullChecksum6At (k.exec nat64Reverse m).2.skb)) := by
  have hcase := nat64Reverse_case k m
  generalize k.exec nat64Reverse m = z at translated hcase ⊢
  cases hcase with
  | passed | kept | cut => exact absurd rfl translated
  | @translated out v csum matched change within nonzero chain skb =>
    have transport := matched.admitted.proto
    have hnonzero := transport_ne_zero transport
    have plain := whole.plain
    have present := whole.present
    have field := whole.field
    have hoff := six_le_csumFieldOff (u8At m.skb 23)
    have hmax := (revL4LenAt m.skb).toNat_lt
    have rewritten := revFrame_rewritten sums whole transport chain
    have hold : (segment4At m.skb).length = (revL4LenAt m.skb).toNat := by
      rw [segment4At, plain, length_slice present]
    have hnew : (segment6At (revFrame m.skb v csum)).length = (revL4LenAt m.skb).toNat := by
      rw [rewritten.length (by omega) (by omega), hold]
    have tuple : ipv6TupleAt (revFrame m.skb v csum) = _ := revFrame_tuple within
    have hsrc : v6At out.skb 22 = nat64SourceV6 (be32At m.skb 26) := by
      rw [skb]
      exact congrArg Ipv6Tuple.src tuple
    have hdst : v6At out.skb 38 = v.vmV6 := by
      rw [skb]
      exact congrArg Ipv6Tuple.dst tuple
    have hproto : u8At out.skb 20 = u8At m.skb 23 := by
      rw [skb]
      exact congrArg Ipv6Tuple.proto tuple
    rw [← skb] at rewritten hnew
    have verifies := rewritten_verifiesIpv6_iff rewritten hnonzero hold hnew (by omega)
    rw [SumVerifies4, SumVerifies6, hsrc, hdst, hproto]
    refine ⟨verifies, fun before => ?_⟩
    rw [fullChecksum6At_eq (by rw [hproto]; exact transport), hsrc, hdst, hproto]
    exact rewritten_fullIpv6 rewritten hnonzero hold hnew (by omega) (even_csumFieldOff _)
      (by omega) field before

end Reverse

/-- Translation keeps whether the ones'-complement sum over pseudo-header and segment verifies, for
whole packets (of IPv4, those without options) in both directions and from any state, and where it
does the field agrees with the full computation. -/
theorem translation_keeps_checksums {k : Kernel} (sums : k.Sums) (m : Machine) :
    (Whole6 m.skb → (k.exec nat64Forward m).1 ≠ .pipe →
      (SumVerifies4 (k.exec nat64Forward m).2.skb ↔ SumVerifies6 m.skb) ∧
      (SumVerifies6 m.skb → SameOnesComplement
        (be16At (segment4At (k.exec nat64Forward m).2.skb) (csumFieldOff (u8At m.skb 20)))
        (fullChecksum4At (k.exec nat64Forward m).2.skb))) ∧
    (WholePlain4 m.skb → (k.exec nat64Reverse m).1 ≠ .pipe →
      (SumVerifies6 (k.exec nat64Reverse m).2.skb ↔ SumVerifies4 m.skb) ∧
      (SumVerifies4 m.skb → SameOnesComplement
        (be16At (segment6At (k.exec nat64Reverse m).2.skb) (csumFieldOff (u8At m.skb 23)))
        (fullChecksum6At (k.exec nat64Reverse m).2.skb))) :=
  ⟨forward_checksum sums, reverse_checksum sums⟩

/-- A TCP header with the given checksum. -/
def tcpHeader (sport dport csum : UInt16) : List UInt8 :=
  overwrite (segment sport dport 20) 16 (beBytes16 csum)

/-- A request of the example client, and the answer to it. -/
def exampleRequest : List UInt8 :=
  frame6 IPPROTO_TCP exampleClient exampleServerV6 (tcpHeader 4000 80 51390)

def exampleAnswer : List UInt8 :=
  frame4 IPPROTO_TCP exampleServer 0xCB00710A [] (tcpHeader 80 20001 19252)

theorem translation_keeps_checksums_exchange :
    SumVerifies4 (exampleSystem.forward 0 exampleRequest (.ideal 1000 7)).2.skb ∧
    SumVerifies6 ((exampleSystem.step (.forward 0 exampleRequest (.ideal 1000 7))).reverse 1
      exampleAnswer (.ideal 2000 8)).2.skb := by
  have request : SumVerifies6 exampleRequest := by decide +kernel
  have answer : SumVerifies4 exampleAnswer := by decide +kernel
  have forward := (translation_keeps_checksums (Kernel.ideal_sums 1000 7)
    (exampleSystem.machine 0 exampleRequest)).1 ⟨by decide +kernel, by decide +kernel⟩
    (by decide +kernel)
  have reverse := (translation_keeps_checksums (Kernel.ideal_sums 2000 8)
    ((exampleSystem.step (.forward 0 exampleRequest (.ideal 1000 7))).machine 1 exampleAnswer)).2
    ⟨by decide +kernel, by decide +kernel, by decide +kernel⟩ (by decide +kernel)
  exact ⟨forward.1.mpr request, reverse.1.mpr answer⟩

end Natto64
