import Natto64.ChecksumRules
import Natto64.Dataplane
import Natto64.FrameFields
import Natto64.Xlat

/-!
# Translated checksums

The two incremental updates on a whole segment: it verifies after the translation if and
only if it did before, and the field is what a full computation gives, as far as the two
zeros go.
-/
namespace Natto64
open Octets InternetChecksum

/-- The flags that the program passes to the update helper. -/
def l4CsumFlags : List UInt64 :=
  [BPF_F_PSEUDO_HDR, 2, 2 ||| InternetChecksum.BPF_F_MARK_MANGLED_0,
    2 ||| BPF_F_PSEUDO_HDR ||| InternetChecksum.BPF_F_MARK_MANGLED_0]

/-- The checksum helpers answer as documented: the difference helper with any number of
the right residue, the update helper as `l4CsumReplace` on the flags it is passed. -/
structure Kernel.Sums (k : Kernel) : Prop where
  diff : ∀ old new : List UInt8, old.length % 4 = 0 → new.length % 4 = 0 →
    ∃ d, k.csumDiff old new = some d ∧
      (d.toUInt32.toNat : Residue) = 256 * (residue new - residue old)
  replace : ∀ field old new, ∀ flags ∈ l4CsumFlags,
    k.l4Csum field old new flags = InternetChecksum.l4CsumReplace field old new flags

theorem Kernel.ideal_sums (now : UInt64) (prandom : UInt32) : (Kernel.ideal now prandom).Sums where
  diff _ _ ho hn := ⟨_, rfl, residue_csumDiff ho hn⟩
  replace _ _ _ _ _ := rfl

section Chain
variable {k : Kernel}

theorem Kernel.Sums.answers (sums : k.Sums) (field : UInt16) {old flags : UInt64}
    (passed : flags ∈ l4CsumFlags)
    (h : flags &&& BPF_F_HDR_FIELD_MASK = 0 ∧ old = 0 ∨ flags &&& BPF_F_HDR_FIELD_MASK = 2)
    (new : UInt64) :
    ∃ c, k.l4Csum field old new flags = some c ∧
      InternetChecksum.l4CsumReplace field old new flags = some c := by
  rw [sums.replace field old new flags passed]
  have hsome : (InternetChecksum.l4CsumReplace field old new flags).isSome := l4CsumReplace_isSome h
  obtain ⟨c, hc⟩ := Option.isSome_iff_exists.mp hsome
  exact ⟨c, hc, hc⟩

/-- The pseudo-header and the port are exchanged in the field. -/
theorem Kernel.Sums.exchange (sums : k.Sums) {old new : List UInt8} (ho : old.length % 4 = 0)
    (hn : new.length % 4 = 0) (field oldPort newPort : UInt16) :
    ∃ d c₁ c₂, k.csumDiff old new = some d ∧ k.l4Csum field 0 d BPF_F_PSEUDO_HDR = some c₁ ∧
      csumPort k (some (oldPort, newPort)) c₁ = some c₂ ∧
      Updates field c₂ (256 * (residue old - residue new + oldPort.toNat - newPort.toNat)) := by
  obtain ⟨d, hd, hdiff⟩ := sums.diff old new ho hn
  have pseudoSize : BPF_F_PSEUDO_HDR &&& BPF_F_HDR_FIELD_MASK = 0 := by decide
  have pseudoMark : BPF_F_PSEUDO_HDR &&& InternetChecksum.BPF_F_MARK_MANGLED_0 = 0 := by decide
  have portSize : (2 : UInt64) &&& BPF_F_HDR_FIELD_MASK = 2 := by decide
  have portMark : (2 : UInt64) &&& InternetChecksum.BPF_F_MARK_MANGLED_0 = 0 := by decide
  obtain ⟨c₁, h₁, hr₁⟩ := sums.answers field (by decide) (.inl ⟨pseudoSize, rfl⟩) d
  obtain ⟨c₂, h₂, hr₂⟩ : ∃ c, csumPort k (some (oldPort, newPort)) c₁ = some c ∧
      InternetChecksum.l4CsumReplace c₁ (swap16 oldPort).toUInt64 (swap16 newPort).toUInt64 2 =
        some c := sums.answers c₁ (by decide) (.inr portSize) _
  rw [l4CsumReplace_unmarked pseudoMark] at hr₁
  rw [l4CsumReplace_unmarked portMark] at hr₂
  have hboth := (csumReplace_diff pseudoSize hr₁).trans (csumReplace_value portSize hr₂)
  refine ⟨d, c₁, c₂, hd, h₁, h₂, ?_, hboth.ne_ones⟩
  rw [hboth.residue, hdiff, UInt16.toUInt32_toUInt64, UInt16.toUInt32_toUInt64,
    UInt16.toNat_toUInt32, UInt16.toNat_toUInt32, toNat_swap16, toNat_swap16]
  ring

/-- The last call leaves the field as it is, also where it is zero. -/
theorem Kernel.Sums.mangle (sums : k.Sums) {field : UInt16} (ones : field ≠ 0xffff)
    {old new flags : UInt64} (passed : flags ∈ l4CsumFlags)
    (size : flags &&& BPF_F_HDR_FIELD_MASK = 2)
    (mangled : flags &&& InternetChecksum.BPF_F_MARK_MANGLED_0 ≠ 0)
    (same : (old.toUInt32.toNat : Residue) = new.toUInt32.toNat) :
    k.l4Csum field old new flags = some field := by
  obtain ⟨c, hc, hreplace⟩ := sums.answers field passed (.inr size) new
  rw [hc, l4CsumReplace_mangled size mangled ones same hreplace]

variable (l4Len : UInt16) (proto : UInt8) (srcV6 dstV6 : Ipv6Octets) (srcV4 dstV4 : UInt32)
  (oldPort newPort field : UInt16) (udp : Bool)

theorem csumV6ToV4_updates (sums : k.Sums) :
    ∃ c, csumV6ToV4 k l4Len proto srcV6 dstV6 srcV4 dstV4 (some (oldPort, newPort)) udp field =
        some c ∧
      Updates field c (256 * (residue (Ipv6PseudoHeader.new srcV6 dstV6 l4Len proto).bytes -
        residue (Ipv4PseudoHeader.new srcV4 dstV4 l4Len proto).bytes + oldPort.toNat -
          newPort.toNat)) := by
  have h6 := length_ipv6Pseudo srcV6 dstV6 l4Len proto
  have h4 := length_ipv4Pseudo srcV4 dstV4 l4Len proto
  obtain ⟨d, c₁, c₂, hd, h₁, h₂, updates⟩ := sums.exchange (congrArg (· % 4) h6)
    (congrArg (· % 4) h4) field oldPort newPort
  refine ⟨c₂, ?_, updates⟩
  cases udp with
  | false => simp [csumV6ToV4, hd, h₁, h₂]
  | true =>
      have last : k.l4Csum c₂ (swap16 0).toUInt64 (swap16 0xffff).toUInt64
          (2 ||| BPF_F_MARK_MANGLED_0) = some c₂ :=
        sums.mangle updates.ne_ones (by decide) (by decide) (by decide) (by decide)
      simp [csumV6ToV4, hd, h₁, h₂, last]

theorem csumV4ToV6_updates (sums : k.Sums) :
    ∃ c, csumV4ToV6 k l4Len proto srcV4 dstV4 srcV6 dstV6 (some (oldPort, newPort)) udp field =
        some c ∧
      Updates field c (256 * (residue (Ipv4PseudoHeader.new srcV4 dstV4 l4Len proto).bytes -
        residue (Ipv6PseudoHeader.new srcV6 dstV6 l4Len proto).bytes + oldPort.toNat -
          newPort.toNat)) := by
  have h6 := length_ipv6Pseudo srcV6 dstV6 l4Len proto
  have h4 := length_ipv4Pseudo srcV4 dstV4 l4Len proto
  obtain ⟨d, c₁, c₂, hd, h₁, h₂, updates⟩ := sums.exchange (congrArg (· % 4) h4)
    (congrArg (· % 4) h6) field oldPort newPort
  refine ⟨c₂, ?_, updates⟩
  cases udp with
  | false => simp [csumV4ToV6, hd, h₁, h₂]
  | true =>
      have last : k.l4Csum c₂ 0 0 (2 ||| BPF_F_PSEUDO_HDR ||| BPF_F_MARK_MANGLED_0) = some c₂ :=
        sums.mangle updates.ne_ones (by decide) (by decide) (by decide) rfl
      simp [csumV4ToV6, hd, h₁, h₂, last]

end Chain

/-! ## Segments under their pseudo-headers -/

def ipv4Pseudo (src dst : UInt32) (proto : UInt8) (len : Nat) : List UInt8 :=
  beBytes32 src ++ beBytes32 dst ++ [0, proto] ++ beBytes16 (UInt16.ofNat len)

def ipv6Pseudo (src dst : Ipv6Octets) (proto : UInt8) (len : Nat) : List UInt8 :=
  src.toList ++ dst.toList ++ beBytes32 (UInt32.ofNat len) ++ [0, 0, 0, proto]

/-- The checksum field of the segment is filled correctly. -/
def VerifiesIpv4 (src dst : UInt32) (proto : UInt8) (segment : List UInt8) : Prop :=
  Xlat.checksum16 (ipv4Pseudo src dst proto segment.length ++ segment) = 0xffff

def VerifiesIpv6 (src dst : Ipv6Octets) (proto : UInt8) (segment : List UInt8) : Prop :=
  Xlat.checksum16 (ipv6Pseudo src dst proto segment.length ++ segment) = 0xffff

instance (src dst : UInt32) (proto : UInt8) (segment : List UInt8) :
    Decidable (VerifiesIpv4 src dst proto segment) := inferInstanceAs (Decidable (_ = _))

instance (src dst : Ipv6Octets) (proto : UInt8) (segment : List UInt8) :
    Decidable (VerifiesIpv6 src dst proto segment) := inferInstanceAs (Decidable (_ = _))

section Verifies
variable (src dst : UInt32) (srcV6 dstV6 : Ipv6Octets) (proto : UInt8)

theorem beBytes16_toUInt16 : beBytes16 proto.toUInt16 = [0, proto] := by
  have hp := proto.toNat_lt
  have hhigh : proto.toNat / 256 = 0 := by omega
  simp [beBytes16, beBytes, leBytes, hhigh]

theorem beBytes32_toUInt32 : beBytes32 proto.toUInt32 = [0, 0, 0, proto] := by
  have hp := proto.toNat_lt
  have hhigh : proto.toNat / 256 = 0 := by omega
  simp [beBytes32, beBytes, leBytes, hhigh]

/-- The pseudo-headers of the source are those of the protocols. -/
theorem ipv4Pseudo_eq (len : Nat) :
    (Ipv4PseudoHeader.new src dst (UInt16.ofNat len) proto).bytes =
      ipv4Pseudo src dst proto len := by
  simp only [Ipv4PseudoHeader.bytes, Ipv4PseudoHeader.new, neBytes32_swap32, neBytes16_swap16,
    beBytes16_toUInt16, ipv4Pseudo]

theorem ipv6Pseudo_eq {len : Nat} (h : len ≤ 65535) :
    (Ipv6PseudoHeader.new srcV6 dstV6 (UInt16.ofNat len) proto).bytes =
      ipv6Pseudo srcV6 dstV6 proto len := by
  have hlen : (UInt16.ofNat len).toUInt32 = UInt32.ofNat len := by
    apply UInt32.toNat_inj.mp
    rw [UInt16.toNat_toUInt32, UInt16.toNat_ofNat', UInt32.toNat_ofNat']
    omega
  simp only [Ipv6PseudoHeader.bytes, Ipv6PseudoHeader.new, neBytes32_swap32, hlen,
    beBytes32_toUInt32, ipv6Pseudo]

theorem residue_ipv4Pseudo {len : Nat} (h : len ≤ 65535) :
    residue (ipv4Pseudo src dst proto len) =
      residue (beBytes32 src) + residue (beBytes32 dst) + proto.toNat + len := by
  have hproto : residue [0, proto] = (proto.toNat : Residue) := by simp [residue]
  have hlen : (UInt16.ofNat len).toNat = len := by
    rw [UInt16.toNat_ofNat']
    omega
  rw [ipv4Pseudo, residue_append (by simp), residue_append (by simp), residue_append (by simp),
    hproto, residue_beBytes16, hlen]

theorem residue_ipv6Pseudo {len : Nat} (h : len < 2 ^ 32) :
    residue (ipv6Pseudo srcV6 dstV6 proto len) =
      residue srcV6.toList + residue dstV6.toList + proto.toNat + len := by
  have hproto : residue [0, 0, 0, proto] = (proto.toNat : Residue) := by simp [residue]
  have hlen : (UInt32.ofNat len).toNat = len := by
    rw [UInt32.toNat_ofNat']
    omega
  simp [ipv6Pseudo, residue_beBytes32, hproto, hlen]
  ring

/-- A whole with a nonzero pseudo-header verifies exactly if its residue is zero. -/
theorem verifies_iff {pseudo segment : List UInt8} (hlen : pseudo.length ≤ 40)
    (even : pseudo.length % 2 = 0) (nonzero : wordSum pseudo ≠ 0)
    (len : segment.length ≤ 65535) :
    Xlat.checksum16 (pseudo ++ segment) = 0xffff ↔ residue pseudo + residue segment = 0 := by
  have hsegment := Xlat.wordSum_lt len
  have hpseudo := wordSum_le pseudo
  have hsum := wordSum_append (b := segment) even
  rw [Xlat.checksum16_eq_ones_iff (by omega), residue_append even]
  constructor
  · exact fun h => h.2
  · exact fun h => ⟨by omega, h⟩

variable {segment : List UInt8}

theorem verifiesIpv4_iff (hproto : proto ≠ 0) (len : segment.length ≤ 65535) :
    VerifiesIpv4 src dst proto segment ↔
      residue (ipv4Pseudo src dst proto segment.length) + residue segment = 0 := by
  have hpos : proto.toNat ≠ 0 := fun h => hproto (UInt8.toNat_inj.mp h)
  apply verifies_iff
  · simp [ipv4Pseudo]
  · simp [ipv4Pseudo]
  · intro hzero
    rw [ipv4Pseudo, wordSum_append (by simp), wordSum_append (by simp)] at hzero
    simp only [wordSum] at hzero
    omega
  · exact len

theorem verifiesIpv6_iff (hproto : proto ≠ 0) (len : segment.length ≤ 65535) :
    VerifiesIpv6 srcV6 dstV6 proto segment ↔
      residue (ipv6Pseudo srcV6 dstV6 proto segment.length) + residue segment = 0 := by
  have hpos : proto.toNat ≠ 0 := fun h => hproto (UInt8.toNat_inj.mp h)
  apply verifies_iff
  · simp [ipv6Pseudo]
  · simp [ipv6Pseudo]
  · intro hzero
    rw [ipv6Pseudo, wordSum_append (by simp)] at hzero
    simp only [wordSum] at hzero
    omega
  · exact len

end Verifies

/-- The update of the segment at `pos` before its new source port is stored. -/
def updateV6ToV4 (pos csumOff : Nat) (l4Len : UInt16) (proto : UInt8) (srcV6 dstV6 : Ipv6Octets)
    (srcV4 dstV4 : UInt32) (oldPort newPort : UInt16) (udp : Bool) : Ebpf Bool := do
  let some _ ← applyL4Nat64ChecksumDeltaV6ToV4 (pos + csumOff) l4Len proto srcV6 dstV6 srcV4 dstV4
      (some (oldPort, newPort)) udp
    | return false
  store pos (beBytes16 newPort)

/-- The update of the segment at `pos` before its new destination port is stored. -/
def updateV4ToV6 (pos csumOff : Nat) (l4Len : UInt16) (proto : UInt8) (srcV4 dstV4 : UInt32)
    (srcV6 dstV6 : Ipv6Octets) (oldPort newPort : UInt16) (udp : Bool) : Ebpf Bool := do
  if !(← applyL4Nat64ChecksumDeltaV4ToV6 (pos + csumOff) l4Len proto srcV4 dstV4 srcV6 dstV6
      (some (oldPort, newPort)) udp) then
    return false
  store (pos + 2) (beBytes16 newPort)

/-- The segment `new` is `old` with another port and checksum, which is correct under one
pseudo-header exactly if the old one was under the other. -/
structure Rewritten (oldPseudo newPseudo old new : List UInt8) (portOff csumOff : Nat)
    (newPort c : UInt16) : Prop where
  segment : new = patched old portOff newPort csumOff c
  ne_ones : c ≠ 0xffff
  residue : residue newPseudo + residue new = residue oldPseudo + residue old

theorem rewritten_of_updates {oldPseudo newPseudo old : List UInt8} {portOff csumOff : Nat}
    {newPort c : UInt16} (hport : portOff % 2 = 0) (hcsum : csumOff % 2 = 0)
    (apart : portOff + 2 ≤ csumOff) (within : csumOff + 2 ≤ old.length)
    (updates : Updates (ofNeBytes16 (slice old csumOff 2)) c
      (256 * (residue oldPseudo - residue newPseudo + (be16At old portOff).toNat -
        newPort.toNat))) :
    Rewritten oldPseudo newPseudo old (patched old portOff newPort csumOff c) portOff csumOff
      newPort c where
  segment := rfl
  ne_ones := updates.ne_ones
  residue := by
    have hlen : (overwrite old portOff (beBytes16 newPort)).length = old.length := by
      apply length_overwrite
      rw [length_beBytes16]
      omega
    have holdPort : residue (slice old portOff 2) = ((be16At old portOff).toNat : Residue) := by
      rw [be16At, ← residue_beBytes16, beBytes16_ofBeBytes16 (length_slice (by omega))]
    have hfield : residue (slice old csumOff 2) =
        256 * ((ofNeBytes16 (slice old csumOff 2)).toNat : Residue) := by
      rw [toNat_ofNeBytes16_residue (length_slice within), ← mul_assoc, byteOrder_sq, one_mul]
    have hkept : slice (overwrite old portOff (beBytes16 newPort)) csumOff 2 =
        slice old csumOff 2 := by
      apply slice_overwrite_of_disjoint (by omega)
      rw [length_beBytes16]
      exact .inr apart
    have hnew : residue (patched old portOff newPort csumOff c) =
        residue old - (be16At old portOff).toNat + newPort.toNat -
          256 * ((ofNeBytes16 (slice old csumOff 2)).toNat : Residue) + 256 * c.toNat := by
      rw [patched, residue_overwrite hcsum (by simp) (by rw [hlen, length_neBytes16]; exact within),
        residue_overwrite hport (by simp) (by rw [length_beBytes16]; omega), length_neBytes16,
        length_beBytes16, hkept, holdPort, hfield, residue_beBytes16, residue_neBytes16]
    rw [hnew, updates.residue]
    linear_combination (residue oldPseudo - residue newPseudo + (be16At old portOff).toNat -
      newPort.toNat) * byteOrder_sq

section Update
variable {k : Kernel} {m : Machine} {pos len csumOff : Nat}

/-- The store after an update completes the segment. -/
theorem store_patched (portOff : Nat) (newPort : UInt16) {c : UInt16} {m' : Machine}
    (exact : ¬ k.Spurious)
    (within : pos + len ≤ m.skb.length) (apart : portOff + 2 ≤ csumOff) (fits : csumOff + 2 ≤ len)
    (skb : m'.skb = overwrite m.skb (pos + csumOff) (neBytes16 c)) :
    ∃ m'', k.exec (store (pos + portOff) (beBytes16 newPort)) m' = (true, m'') ∧
      slice m''.skb pos len = patched (slice m.skb pos len) portOff newPort csumOff c := by
  have hlen : m'.skb.length = m.skb.length := by
    rw [skb, length_overwrite (by rw [length_neBytes16]; omega)]
  have reaches : k.Reaches m' (pos + portOff) (beBytes16 newPort).length := by
    refine ⟨?_, ?_⟩
    · exact Bool.eq_false_iff.mpr fun h => exact ⟨_, h⟩
    · rw [length_beBytes16, hlen]
      omega
  rw [exec_store, if_pos reaches]
  refine ⟨_, rfl, ?_⟩
  have hport : portOff + (beBytes16 newPort).length ≤ (slice m.skb pos len).length := by
    rw [length_beBytes16, length_slice within]
    omega
  have hcsum : csumOff + (neBytes16 c).length ≤ (slice m.skb pos len).length := by
    rw [length_neBytes16, length_slice within]
    exact fits
  change slice (overwrite m'.skb (pos + portOff) (beBytes16 newPort)) pos len = _
  rw [slice_overwrite_within (by rw [length_beBytes16]; omega) (by rw [hlen]; exact within), skb,
    slice_overwrite_within (by rw [length_neBytes16]; exact fits) within, patched,
    overwrite_comm hport hcsum (.inl (by rw [length_beBytes16]; exact apart))]

/-- An update of a segment succeeds and rewrites it. -/
theorem updateV6ToV4_exec (sums : k.Sums) (exact : ¬ k.Spurious)
    (within : pos + len ≤ m.skb.length) (long : len ≤ 65535) (even : csumOff % 2 = 0)
    (apart : 2 ≤ csumOff) (fits : csumOff + 2 ≤ len) (proto : UInt8) (srcV6 dstV6 : Ipv6Octets)
    (srcV4 dstV4 : UInt32) (newPort : UInt16) (udp : Bool) :
    ∃ m' c, k.exec (updateV6ToV4 pos csumOff (UInt16.ofNat len) proto srcV6 dstV6 srcV4 dstV4
        (be16At (slice m.skb pos len) 0) newPort udp) m = (true, m') ∧
      Rewritten (ipv6Pseudo srcV6 dstV6 proto len) (ipv4Pseudo srcV4 dstV4 proto len)
        (slice m.skb pos len) (slice m'.skb pos len) 0 csumOff newPort c := by
  have hlen := length_slice within
  obtain ⟨c, chain, updates⟩ := csumV6ToV4_updates (UInt16.ofNat len) proto srcV6 dstV6 srcV4 dstV4
    (be16At (slice m.skb pos len) 0) newPort (ofNeBytes16 (slice m.skb (pos + csumOff) 2)) udp sums
  have hcase := applyV6ToV4_case k m (pos + csumOff) (UInt16.ofNat len) proto srcV6 dstV6 srcV4
    dstV4 (some (be16At (slice m.skb pos len) 0, newPort)) udp
  rw [chain] at hcase
  unfold updateV6ToV4
  rw [exec_bind]
  generalize k.exec (applyL4Nat64ChecksumDeltaV6ToV4 (pos + csumOff) (UInt16.ofNat len) proto srcV6
    dstV6 srcV4 dstV4 (some (be16At (slice m.skb pos len) 0, newPort)) udp) m = z at hcase ⊢
  cases hcase with
  | failed answer cause length maps log =>
      rcases cause with spurious | short | none
      · exact absurd spurious exact
      · omega
      · cases none
  | @updated a m' c' answer chain' reach skb maps log =>
      obtain rfl := Option.some.inj chain'
      obtain ⟨m'', stored, hout⟩ := store_patched 0 newPort exact within (by omega) fits skb
      obtain ⟨trace, rfl⟩ := Option.isSome_iff_exists.mp answer
      refine ⟨m'', c, stored, ?_⟩
      rw [hout]
      apply rewritten_of_updates rfl even (by omega) (by omega)
      rw [ipv6Pseudo_eq _ _ _ long, ipv4Pseudo_eq, ← slice_slice _ fits] at updates
      exact updates

theorem updateV4ToV6_exec (sums : k.Sums) (exact : ¬ k.Spurious)
    (within : pos + len ≤ m.skb.length) (long : len ≤ 65535) (even : csumOff % 2 = 0)
    (apart : 4 ≤ csumOff) (fits : csumOff + 2 ≤ len) (proto : UInt8) (srcV4 dstV4 : UInt32)
    (srcV6 dstV6 : Ipv6Octets) (newPort : UInt16) (udp : Bool) :
    ∃ m' c, k.exec (updateV4ToV6 pos csumOff (UInt16.ofNat len) proto srcV4 dstV4 srcV6 dstV6
        (be16At (slice m.skb pos len) 2) newPort udp) m = (true, m') ∧
      Rewritten (ipv4Pseudo srcV4 dstV4 proto len) (ipv6Pseudo srcV6 dstV6 proto len)
        (slice m.skb pos len) (slice m'.skb pos len) 2 csumOff newPort c := by
  have hlen := length_slice within
  obtain ⟨c, chain, updates⟩ := csumV4ToV6_updates (UInt16.ofNat len) proto srcV6 dstV6 srcV4 dstV4
    (be16At (slice m.skb pos len) 2) newPort (ofNeBytes16 (slice m.skb (pos + csumOff) 2)) udp sums
  have hcase := applyV4ToV6_case k m (pos + csumOff) (UInt16.ofNat len) proto srcV6 dstV6 srcV4
    dstV4 (some (be16At (slice m.skb pos len) 2, newPort)) udp
  rw [chain] at hcase
  unfold updateV4ToV6
  rw [exec_bind]
  generalize k.exec (applyL4Nat64ChecksumDeltaV4ToV6 (pos + csumOff) (UInt16.ofNat len) proto srcV4
    dstV4 srcV6 dstV6 (some (be16At (slice m.skb pos len) 2, newPort)) udp) m = z at hcase ⊢
  cases hcase with
  | failed answer cause length maps log =>
      rcases cause with spurious | short | none
      · exact absurd spurious exact
      · omega
      · cases none
  | @updated a m' c' answer chain' reach skb maps log =>
      obtain rfl := Option.some.inj chain'
      obtain ⟨m'', stored, hout⟩ := store_patched 2 newPort exact within apart fits skb
      obtain rfl : a = true := answer
      refine ⟨m'', c, stored, ?_⟩
      rw [hout]
      apply rewritten_of_updates rfl even (by omega) (by omega)
      rw [ipv6Pseudo_eq _ _ _ long, ipv4Pseudo_eq, ← slice_slice _ fits] at updates
      exact updates

end Update

/-! ## What a reader of the segment computes -/
section Reader
variable {oldPseudo newPseudo old new : List UInt8} {portOff csumOff : Nat} {newPort c : UInt16}

theorem Rewritten.length (h : Rewritten oldPseudo newPseudo old new portOff csumOff newPort c)
    (apart : portOff + 2 ≤ csumOff) (within : csumOff + 2 ≤ old.length) :
    new.length = old.length := by
  rw [h.segment, length_patched _ _ apart within]

theorem Rewritten.field (h : Rewritten oldPseudo newPseudo old new portOff csumOff newPort c)
    (apart : portOff + 2 ≤ csumOff) (within : csumOff + 2 ≤ old.length) :
    slice new csumOff 2 = neBytes16 c := by
  have hport : portOff + (beBytes16 newPort).length ≤ old.length := by
    rw [length_beBytes16]
    omega
  have hoff : csumOff ≤ (overwrite old portOff (beBytes16 newPort)).length := by
    rw [length_overwrite hport]
    omega
  have hself : slice (overwrite (overwrite old portOff (beBytes16 newPort)) csumOff (neBytes16 c))
      csumOff (neBytes16 c).length = neBytes16 c := slice_overwrite_self hoff
  rw [length_neBytes16] at hself
  rw [h.segment]
  exact hself

theorem Rewritten.be16At_field
    (h : Rewritten oldPseudo newPseudo old new portOff csumOff newPort c)
    (apart : portOff + 2 ≤ csumOff) (within : csumOff + 2 ≤ old.length) :
    be16At new csumOff = swap16 c := by
  rw [be16At, h.field apart within, ← swap16_ofNeBytes16 (length_neBytes16 c),
    ofNeBytes16_neBytes16]

/-- With the field left out, the sum lacks just the field. -/
theorem Rewritten.residue_zeroed
    (h : Rewritten oldPseudo newPseudo old new portOff csumOff newPort c)
    (even : csumOff % 2 = 0) (apart : portOff + 2 ≤ csumOff) (within : csumOff + 2 ≤ old.length) :
    InternetChecksum.residue (overwrite new csumOff [0, 0]) =
      InternetChecksum.residue new - 256 * c.toNat := by
  have hzero : InternetChecksum.residue [0, 0] = 0 := by decide
  rw [residue_overwrite even (by simp) (by rw [h.length apart within]; exact within),
    List.length_cons, List.length_singleton, h.field apart within, residue_neBytes16, hzero,
    add_zero]

theorem Rewritten.zeroed (h : Rewritten oldPseudo newPseudo old new portOff csumOff newPort c)
    (apart : portOff + 2 ≤ csumOff) (within : csumOff + 2 ≤ old.length) :
    overwrite new csumOff [0, 0] =
      overwrite (overwrite old portOff (beBytes16 newPort)) csumOff [0, 0] := by
  have hport : portOff + (beBytes16 newPort).length ≤ old.length := by
    rw [length_beBytes16]
    omega
  rw [h.segment, patched, overwrite_overwrite (by rw [length_overwrite hport]; omega) (by simp)]

/-- Where the segment verifies, its field has the residue of the full checksum. -/
theorem Rewritten.residue_full
    (h : Rewritten oldPseudo newPseudo old new portOff csumOff newPort c)
    (even : csumOff % 2 = 0) (apart : portOff + 2 ≤ csumOff) (within : csumOff + 2 ≤ old.length)
    (verifies : InternetChecksum.residue oldPseudo + InternetChecksum.residue old = 0)
    {full : UInt16} (hfull : (full.toNat : Residue) = -(InternetChecksum.residue newPseudo +
      InternetChecksum.residue (overwrite new csumOff [0, 0]))) :
    (full.toNat : Residue) = 256 * c.toNat := by
  rw [hfull, h.residue_zeroed even apart within]
  linear_combination (-1 : Residue) * verifies - h.residue

/-- The field is zero exactly where the full checksum is the other zero. -/
theorem Rewritten.field_eq_zero_iff
    (h : Rewritten oldPseudo newPseudo old new portOff csumOff newPort c)
    (apart : portOff + 2 ≤ csumOff) (within : csumOff + 2 ≤ old.length) {full : UInt16}
    (hfull : (full.toNat : Residue) = 256 * c.toNat) (hne : full ≠ 0) :
    be16At new csumOff = 0 ↔ full = 0xffff := by
  have hones : ((0xffff : UInt16).toNat : Residue) = 0 := by decide
  rw [h.be16At_field apart within]
  constructor
  · intro hzero
    have hc : (256 * c.toNat : Residue) = 0 := by
      rw [← toNat_swap16, hzero]
      rfl
    rcases residue_eq_iff.mp ((hfull.trans hc).trans hones.symm) with h | ⟨h, -⟩ | ⟨h, -⟩
    · exact h
    · exact absurd h hne
    · exact h
  · intro hfull'
    have hc : (c.toNat : Residue) = (0 : UInt16).toNat := by
      have hzero : (256 * c.toNat : Residue) = 0 := by rw [← hfull, hfull', hones]
      have hboth := congrArg (256 * ·) hzero
      simp only [← mul_assoc, byteOrder_sq, one_mul, mul_zero] at hboth
      rw [hboth]
      rfl
    rcases residue_eq_iff.mp hc with h0 | ⟨-, h0⟩ | ⟨h0, -⟩
    · rw [h0]
      rfl
    · cases h0
    · exact absurd h0 h.ne_ones

end Reader

section Family
variable {srcV4 dstV4 : UInt32} {srcV6 dstV6 : Ipv6Octets} {proto : UInt8}
  {len portOff csumOff : Nat}
  {old new : List UInt8} {newPort c : UInt16}

theorem rewritten_verifiesIpv4_iff
    (h : Rewritten (ipv6Pseudo srcV6 dstV6 proto len) (ipv4Pseudo srcV4 dstV4 proto len) old new
      portOff csumOff newPort c) (hproto : proto ≠ 0) (hold : old.length = len)
    (hnew : new.length = len) (long : len ≤ 65535) :
    VerifiesIpv4 srcV4 dstV4 proto new ↔ VerifiesIpv6 srcV6 dstV6 proto old := by
  rw [verifiesIpv4_iff _ _ _ hproto (by omega), verifiesIpv6_iff _ _ _ hproto (by omega), hold,
    hnew, h.residue]

theorem rewritten_verifiesIpv6_iff
    (h : Rewritten (ipv4Pseudo srcV4 dstV4 proto len) (ipv6Pseudo srcV6 dstV6 proto len) old new
      portOff csumOff newPort c) (hproto : proto ≠ 0) (hold : old.length = len)
    (hnew : new.length = len) (long : len ≤ 65535) :
    VerifiesIpv6 srcV6 dstV6 proto new ↔ VerifiesIpv4 srcV4 dstV4 proto old := by
  rw [verifiesIpv6_iff _ _ _ hproto (by omega), verifiesIpv4_iff _ _ _ hproto (by omega), hold,
    hnew, h.residue]

/-- The full computation sums the pseudo-header and the segment without its field. -/
theorem residue_transportChecksumIpv4 (proto : UInt8) {number : UInt32}
    (hnumber : number.toNat = proto.toNat)
    (even : csumOff % 2 = 0) (within : csumOff + 2 ≤ new.length) (long : new.length ≤ 65535) :
    ((Xlat.transportChecksumIpv4 number csumOff srcV4 dstV4 new).toNat : Residue) =
      -(residue (ipv4Pseudo srcV4 dstV4 proto new.length) +
        residue (overwrite new csumOff [0, 0])) := by
  have hproto := proto.toNat_lt
  rw [Xlat.transportChecksumIpv4_residue (by omega) even within long, hnumber,
    residue_ipv4Pseudo _ _ _ long]

theorem residue_transportChecksumIpv6 (proto : UInt8) {number : UInt32}
    (hnumber : number.toNat = proto.toNat)
    (even : csumOff % 2 = 0) (within : csumOff + 2 ≤ new.length) (long : new.length ≤ 65535) :
    ((Xlat.transportChecksumIpv6 number csumOff srcV6 dstV6 new).toNat : Residue) =
      -(residue (ipv6Pseudo srcV6 dstV6 proto new.length) +
        residue (overwrite new csumOff [0, 0])) := by
  have hproto := proto.toNat_lt
  rw [Xlat.transportChecksumIpv6_residue (by omega) even within long, hnumber,
    residue_ipv6Pseudo _ _ _ (by omega)]

end Family

/-! ## TCP -/

/-- The same one's-complement number. -/
def SameOnesComplement (x y : UInt16) : Prop :=
  x = y ∨ (x = 0 ∧ y = 0xffff) ∨ (x = 0xffff ∧ y = 0)

/-- Both updates of a TCP segment keep whether it verifies, and leave the checksum that the
full computation gives. -/
theorem tcp_checksum_exact {k : Kernel} {m : Machine} {pos len : Nat} (sums : k.Sums)
    (exact : ¬ k.Spurious) (within : pos + len ≤ m.skb.length) (short : 18 ≤ len)
    (long : len ≤ 1500) (srcV6 dstV6 : Ipv6Octets) (srcV4 dstV4 : UInt32) (newPort : UInt16) :
    (∃ m', k.exec (updateV6ToV4 pos 16 (UInt16.ofNat len) IPPROTO_TCP srcV6 dstV6 srcV4 dstV4
        (be16At (slice m.skb pos len) 0) newPort false) m = (true, m') ∧
      (VerifiesIpv4 srcV4 dstV4 IPPROTO_TCP (slice m'.skb pos len) ↔
        VerifiesIpv6 srcV6 dstV6 IPPROTO_TCP (slice m.skb pos len)) ∧
      (VerifiesIpv6 srcV6 dstV6 IPPROTO_TCP (slice m.skb pos len) →
        SameOnesComplement (be16At (slice m'.skb pos len) 16)
          (Xlat.tcpChecksumIpv4 srcV4 dstV4 (slice m'.skb pos len)))) ∧
    ∃ m', k.exec (updateV4ToV6 pos 16 (UInt16.ofNat len) IPPROTO_TCP srcV4 dstV4 srcV6 dstV6
        (be16At (slice m.skb pos len) 2) newPort false) m = (true, m') ∧
      (VerifiesIpv6 srcV6 dstV6 IPPROTO_TCP (slice m'.skb pos len) ↔
        VerifiesIpv4 srcV4 dstV4 IPPROTO_TCP (slice m.skb pos len)) ∧
      (VerifiesIpv4 srcV4 dstV4 IPPROTO_TCP (slice m.skb pos len) →
        SameOnesComplement (be16At (slice m'.skb pos len) 16)
          (Xlat.tcpChecksumIpv6 srcV6 dstV6 (slice m'.skb pos len))) := by
  have hold := length_slice within
  have htcp : IPPROTO_TCP ≠ 0 := by decide
  constructor
  · obtain ⟨m', c, run, rewritten⟩ := updateV6ToV4_exec sums exact within (by omega)
      (show 16 % 2 = 0 from rfl) (by omega) short IPPROTO_TCP srcV6 dstV6 srcV4 dstV4 newPort false
    have hnew : (slice m'.skb pos len).length = len := by
      rw [rewritten.length (by omega) (by omega), hold]
    refine ⟨m', run, rewritten_verifiesIpv4_iff rewritten htcp hold hnew (by omega), ?_⟩
    intro verifies
    rw [verifiesIpv6_iff _ _ _ htcp (by omega), hold] at verifies
    have hfull : ((Xlat.tcpChecksumIpv4 srcV4 dstV4 (slice m'.skb pos len)).toNat : Residue) = _ :=
      residue_transportChecksumIpv4 IPPROTO_TCP rfl rfl (by omega) (by omega)
    rw [hnew] at hfull
    rw [SameOnesComplement, ← residue_eq_iff, rewritten.be16At_field (by omega) (by omega),
      toNat_swap16, rewritten.residue_full rfl (by omega) (by omega) verifies hfull]
  · obtain ⟨m', c, run, rewritten⟩ := updateV4ToV6_exec sums exact within (by omega)
      (show 16 % 2 = 0 from rfl) (by omega) short IPPROTO_TCP srcV4 dstV4 srcV6 dstV6 newPort false
    have hnew : (slice m'.skb pos len).length = len := by
      rw [rewritten.length (by omega) (by omega), hold]
    refine ⟨m', run, rewritten_verifiesIpv6_iff rewritten htcp hold hnew (by omega), ?_⟩
    intro verifies
    rw [verifiesIpv4_iff _ _ _ htcp (by omega), hold] at verifies
    have hfull : ((Xlat.tcpChecksumIpv6 srcV6 dstV6 (slice m'.skb pos len)).toNat : Residue) = _ :=
      residue_transportChecksumIpv6 IPPROTO_TCP rfl rfl (by omega) (by omega)
    rw [hnew] at hfull
    rw [SameOnesComplement, ← residue_eq_iff, rewritten.be16At_field (by omega) (by omega),
      toNat_swap16, rewritten.residue_full rfl (by omega) (by omega) verifies hfull]

theorem Kernel.ideal_exact (now : UInt64) (prandom : UInt32) :
    ¬ (Kernel.ideal now prandom).Spurious := fun ⟨_, h⟩ => Bool.false_ne_true h

/-- A TCP header of the example client in a frame of its own. -/
def exampleSegment : Machine := (System.initial exampleDataplane).machine 0 (segment 4000 80 20)

theorem tcp_checksum_exact_example :
    ∃ m', (Kernel.ideal 1000 7).exec (updateV6ToV4 0 16 20 IPPROTO_TCP exampleClient
        exampleServerV6 0xCB00710A exampleServer 4000 20001 false) exampleSegment = (true, m') ∧
      ¬ VerifiesIpv4 0xCB00710A exampleServer IPPROTO_TCP (slice m'.skb 0 20) := by
  have exact := Kernel.ideal_exact 1000 7
  have within : 0 + 20 ≤ exampleSegment.skb.length := by decide
  obtain ⟨m', run, verifies, -⟩ := (tcp_checksum_exact (Kernel.ideal_sums 1000 7) exact within
    (by decide) (by decide) exampleClient exampleServerV6 0xCB00710A exampleServer 20001).1
  refine ⟨m', run, ?_⟩
  rw [verifies]
  decide +kernel

/-! ## UDP -/

/-- The reverse update of a datagram leaves a legal checksum, exactly if the full
computation for the client is not zero. -/
theorem udp_v6_checksum_legal_iff {k : Kernel} {m : Machine} {pos len : Nat} (sums : k.Sums)
    (exact : ¬ k.Spurious) (within : pos + len ≤ m.skb.length) (short : 8 ≤ len)
    (long : len ≤ 1500) (srcV4 dstV4 : UInt32) (srcV6 dstV6 : Ipv6Octets) (newPort : UInt16)
    (verifies : VerifiesIpv4 srcV4 dstV4 IPPROTO_UDP (slice m.skb pos len)) :
    ∃ m', k.exec (updateV4ToV6 pos 6 (UInt16.ofNat len) IPPROTO_UDP srcV4 dstV4 srcV6 dstV6
        (be16At (slice m.skb pos len) 2) newPort true) m = (true, m') ∧
      (be16At (slice m'.skb pos len) 6 ≠ 0 ∧
          VerifiesIpv6 srcV6 dstV6 IPPROTO_UDP (slice m'.skb pos len) ↔
        Xlat.udpChecksumIpv6 srcV6 dstV6
          (overwrite (slice m.skb pos len) 2 (beBytes16 newPort)) ≠ 0xffff) := by
  have hold := length_slice within
  have hudp : IPPROTO_UDP ≠ 0 := by decide
  obtain ⟨m', c, run, rewritten⟩ := updateV4ToV6_exec sums exact within (by omega)
    (show 6 % 2 = 0 from rfl) (by omega) short IPPROTO_UDP srcV4 dstV4 srcV6 dstV6 newPort true
  have hnew : (slice m'.skb pos len).length = len := by
    rw [rewritten.length (by omega) (by omega), hold]
  have hport : (overwrite (slice m.skb pos len) 2 (beBytes16 newPort)).length = len := by
    rw [length_overwrite (by rw [length_beBytes16, hold]; omega), hold]
  refine ⟨m', run, ?_⟩
  have verifies' := (rewritten_verifiesIpv6_iff rewritten hudp hold hnew (by omega)).mpr verifies
  rw [verifiesIpv4_iff _ _ _ hudp (by omega), hold] at verifies
  have hfull : ((Xlat.udpChecksumIpv6 srcV6 dstV6
      (overwrite (slice m.skb pos len) 2 (beBytes16 newPort))).toNat : Residue) = _ :=
    residue_transportChecksumIpv6 IPPROTO_UDP rfl rfl (by omega) (by omega)
  rw [hport, ← rewritten.zeroed (by omega) (by omega)] at hfull
  have hfield := rewritten.field_eq_zero_iff (by omega) (by omega)
    (rewritten.residue_full rfl (by omega) (by omega) verifies hfull) (Xlat.complement_ne_zero _)
  constructor
  · rintro ⟨nonzero, -⟩
    exact fun h => nonzero (hfield.mpr h)
  · exact fun h => ⟨fun hzero => h (hfield.mp hzero), verifies'⟩

/-- A datagram in a frame of its own. -/
def exampleDatagram (sport dport csum : UInt16) : Machine :=
  (System.initial exampleDataplane).machine 0 (datagram sport dport csum)

/-- The answer of a server at port 51463 is in order; its translation has checksum zero. -/
theorem udp_v6_checksum_illegal :
    ¬ ∀ (k : Kernel) (m : Machine) (pos len : Nat), k.Sums → ¬ k.Spurious →
      pos + len ≤ m.skb.length → 8 ≤ len → len ≤ 1500 →
      ∀ (srcV4 dstV4 : UInt32) (srcV6 dstV6 : Ipv6Octets) (newPort : UInt16),
        be16At (slice m.skb pos len) 6 ≠ 0 →
        VerifiesIpv4 srcV4 dstV4 IPPROTO_UDP (slice m.skb pos len) →
        let m' := (k.exec (updateV4ToV6 pos 6 (UInt16.ofNat len) IPPROTO_UDP srcV4 dstV4 srcV6 dstV6
          (be16At (slice m.skb pos len) 2) newPort true) m).2
        be16At (slice m'.skb pos len) 6 ≠ 0 ∧
          VerifiesIpv6 srcV6 dstV6 IPPROTO_UDP (slice m'.skb pos len) := by
  intro h
  have exact := Kernel.ideal_exact 1000 7
  have legal := h (.ideal 1000 7) (exampleDatagram 51463 20001 0x8275) 0 8
    (Kernel.ideal_sums 1000 7) exact (by decide) (by decide) (by decide) exampleServer 0xCB00710A
    exampleServerV6 exampleClient 4000 (by decide) (by decide +kernel)
  exact legal.1 (by decide +kernel)

theorem udp_v6_checksum_legal_iff_example :
    ∃ m', (Kernel.ideal 1000 7).exec (updateV4ToV6 0 6 8 IPPROTO_UDP exampleServer 0xCB00710A
        exampleServerV6 exampleClient 20001 4000 true) (exampleDatagram 51463 20001 0x8275) =
          (true, m') ∧
      ¬ (be16At (slice m'.skb 0 8) 6 ≠ 0 ∧
        VerifiesIpv6 exampleServerV6 exampleClient IPPROTO_UDP (slice m'.skb 0 8)) := by
  have exact := Kernel.ideal_exact 1000 7
  have verifies : VerifiesIpv4 exampleServer 0xCB00710A IPPROTO_UDP
      (slice (exampleDatagram 51463 20001 0x8275).skb 0 8) := by decide +kernel
  obtain ⟨m', run, legal⟩ := udp_v6_checksum_legal_iff (Kernel.ideal_sums 1000 7) exact (by decide)
    (by decide) (by decide) exampleServer 0xCB00710A exampleServerV6 exampleClient 4000 verifies
  refine ⟨m', run, ?_⟩
  rw [legal]
  decide +kernel

/-- The forward update of a datagram leaves a checksum that says more than "no checksum",
exactly if the full computation for the server is not zero. -/
theorem udp_v4_checksum_kept_iff {k : Kernel} {m : Machine} {pos len : Nat} (sums : k.Sums)
    (exact : ¬ k.Spurious) (within : pos + len ≤ m.skb.length) (short : 8 ≤ len)
    (long : len ≤ 1500) (srcV6 dstV6 : Ipv6Octets) (srcV4 dstV4 : UInt32) (newPort : UInt16)
    (verifies : VerifiesIpv6 srcV6 dstV6 IPPROTO_UDP (slice m.skb pos len)) :
    ∃ m', k.exec (updateV6ToV4 pos 6 (UInt16.ofNat len) IPPROTO_UDP srcV6 dstV6 srcV4 dstV4
        (be16At (slice m.skb pos len) 0) newPort true) m = (true, m') ∧
      (be16At (slice m'.skb pos len) 6 ≠ 0 ∧
          VerifiesIpv4 srcV4 dstV4 IPPROTO_UDP (slice m'.skb pos len) ↔
        Xlat.udpChecksumIpv4 srcV4 dstV4
          (overwrite (slice m.skb pos len) 0 (beBytes16 newPort)) ≠ 0xffff) := by
  have hold := length_slice within
  have hudp : IPPROTO_UDP ≠ 0 := by decide
  obtain ⟨m', c, run, rewritten⟩ := updateV6ToV4_exec sums exact within (by omega)
    (show 6 % 2 = 0 from rfl) (by omega) short IPPROTO_UDP srcV6 dstV6 srcV4 dstV4 newPort true
  have hnew : (slice m'.skb pos len).length = len := by
    rw [rewritten.length (by omega) (by omega), hold]
  have hport : (overwrite (slice m.skb pos len) 0 (beBytes16 newPort)).length = len := by
    rw [length_overwrite (by rw [length_beBytes16, hold]; omega), hold]
  refine ⟨m', run, ?_⟩
  have verifies' := (rewritten_verifiesIpv4_iff rewritten hudp hold hnew (by omega)).mpr verifies
  rw [verifiesIpv6_iff _ _ _ hudp (by omega), hold] at verifies
  have hfull : ((Xlat.udpChecksumIpv4 srcV4 dstV4
      (overwrite (slice m.skb pos len) 0 (beBytes16 newPort))).toNat : Residue) = _ :=
    residue_transportChecksumIpv4 IPPROTO_UDP rfl rfl (by omega) (by omega)
  rw [hport, ← rewritten.zeroed (by omega) (by omega)] at hfull
  have hfield := rewritten.field_eq_zero_iff (by omega) (by omega)
    (rewritten.residue_full rfl (by omega) (by omega) verifies hfull) (Xlat.complement_ne_zero _)
  constructor
  · rintro ⟨nonzero, -⟩
    exact fun h => nonzero (hfield.mpr h)
  · exact fun h => ⟨fun hzero => h (hfield.mp hzero), verifies'⟩

/-- A query to port 19325 is in order; its translation says "no checksum". -/
theorem udp_v4_checksum_lost :
    ¬ ∀ (k : Kernel) (m : Machine) (pos len : Nat), k.Sums → ¬ k.Spurious →
      pos + len ≤ m.skb.length → 8 ≤ len → len ≤ 1500 →
      ∀ (srcV6 dstV6 : Ipv6Octets) (srcV4 dstV4 : UInt32) (newPort : UInt16),
        be16At (slice m.skb pos len) 6 ≠ 0 →
        VerifiesIpv6 srcV6 dstV6 IPPROTO_UDP (slice m.skb pos len) →
        let m' := (k.exec (updateV6ToV4 pos 6 (UInt16.ofNat len) IPPROTO_UDP srcV6 dstV6 srcV4 dstV4
          (be16At (slice m.skb pos len) 0) newPort true) m).2
        be16At (slice m'.skb pos len) 6 ≠ 0 ∧
          VerifiesIpv4 srcV4 dstV4 IPPROTO_UDP (slice m'.skb pos len) := by
  intro h
  have exact := Kernel.ideal_exact 1000 7
  have kept := h (.ideal 1000 7) (exampleDatagram 4000 19325 0x7d8a) 0 8
    (Kernel.ideal_sums 1000 7) exact (by decide) (by decide) (by decide) exampleClient
    exampleServerV6 0xCB00710A exampleServer 20001 (by decide) (by decide +kernel)
  exact kept.1 (by decide +kernel)

theorem udp_v4_checksum_kept_iff_example :
    ∃ m', (Kernel.ideal 1000 7).exec (updateV6ToV4 0 6 8 IPPROTO_UDP exampleClient
        exampleServerV6 0xCB00710A exampleServer 4000 20001 true)
          (exampleDatagram 4000 19325 0x7d8a) = (true, m') ∧
      ¬ (be16At (slice m'.skb 0 8) 6 ≠ 0 ∧
        VerifiesIpv4 0xCB00710A exampleServer IPPROTO_UDP (slice m'.skb 0 8)) := by
  have exact := Kernel.ideal_exact 1000 7
  have verifies : VerifiesIpv6 exampleClient exampleServerV6 IPPROTO_UDP
      (slice (exampleDatagram 4000 19325 0x7d8a).skb 0 8) := by decide +kernel
  obtain ⟨m', run, kept⟩ := udp_v4_checksum_kept_iff (Kernel.ideal_sums 1000 7) exact (by decide)
    (by decide) (by decide) exampleClient exampleServerV6 0xCB00710A exampleServer 20001 verifies
  refine ⟨m', run, ?_⟩
  rw [kept]
  decide +kernel

end Natto64
