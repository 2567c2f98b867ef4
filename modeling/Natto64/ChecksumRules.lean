import Natto64.Headers
import Natto64.Rules

/-!
# Checksum updates

Both incremental updates change one transport field, to the value a chain of checksum
helper calls computes from it.
-/
namespace Natto64
open Octets

/-- The port step of an update on a checksum value. -/
def csumPort (k : Kernel) (portRewrite : Option (UInt16 × UInt16)) (field : UInt16) :
    Option UInt16 :=
  match portRewrite with
  | some (oldPort, newPort) => k.l4Csum field (swap16 oldPort).toUInt64 (swap16 newPort).toUInt64 2
  | none => some field

/-- What `apply_l4_nat64_checksum_delta_v6_to_v4` makes of a checksum value. -/
def csumV6ToV4 (k : Kernel) (l4Len : UInt16) (proto : UInt8) (oldSrcV6 oldDstV6 : Ipv6Octets)
    (newSrcV4 newDstV4 : UInt32) (portRewrite : Option (UInt16 × UInt16)) (udpIpv4 : Bool)
    (field : UInt16) : Option UInt16 :=
  (k.csumDiff (Ipv6PseudoHeader.new oldSrcV6 oldDstV6 l4Len proto).bytes
    (Ipv4PseudoHeader.new newSrcV4 newDstV4 l4Len proto).bytes).bind fun delta =>
  (k.l4Csum field 0 delta BPF_F_PSEUDO_HDR).bind fun c =>
  (csumPort k portRewrite c).bind fun c =>
  if udpIpv4 then
    k.l4Csum c (swap16 0).toUInt64 (swap16 0xffff).toUInt64 (2 ||| BPF_F_MARK_MANGLED_0)
  else some c

/-- What `apply_l4_nat64_checksum_delta_v4_to_v6` makes of a checksum value. -/
def csumV4ToV6 (k : Kernel) (l4Len : UInt16) (proto : UInt8) (oldSrcV4 oldDstV4 : UInt32)
    (newSrcV6 newDstV6 : Ipv6Octets) (portRewrite : Option (UInt16 × UInt16)) (udpV6 : Bool)
    (field : UInt16) : Option UInt16 :=
  (k.csumDiff (Ipv4PseudoHeader.new oldSrcV4 oldDstV4 l4Len proto).bytes
    (Ipv6PseudoHeader.new newSrcV6 newDstV6 l4Len proto).bytes).bind fun delta =>
  (k.l4Csum field 0 delta BPF_F_PSEUDO_HDR).bind fun c =>
  (csumPort k portRewrite c).bind fun c =>
  if udpV6 then k.l4Csum c 0 0 (2 ||| BPF_F_PSEUDO_HDR ||| BPF_F_MARK_MANGLED_0) else some c

/-- The documented helpers answer every update of the forward path. -/
theorem csumV6ToV4_ideal (now : UInt64) (prandom : UInt32) (l4Len : UInt16) (proto : UInt8)
    (oldSrcV6 oldDstV6 : Ipv6Octets) (newSrcV4 newDstV4 : UInt32)
    (portRewrite : Option (UInt16 × UInt16)) (udpIpv4 : Bool) (field : UInt16) :
    (csumV6ToV4 (.ideal now prandom) l4Len proto oldSrcV6 oldDstV6 newSrcV4 newDstV4 portRewrite
      udpIpv4 field).isSome := by
  have answers : ∀ {c : UInt16} {old new flags : UInt64},
      flags &&& InternetChecksum.BPF_F_HDR_FIELD_MASK = 0 ∧ old = 0 ∨
        flags &&& InternetChecksum.BPF_F_HDR_FIELD_MASK = 2 →
      ∃ c', (Kernel.ideal now prandom).l4Csum c old new flags = some c' :=
    fun h => Option.isSome_iff_exists.mp (InternetChecksum.l4CsumReplace_isSome h)
  have port : ∀ c, ∃ c', csumPort (.ideal now prandom) portRewrite c = some c' := by
    intro c
    cases portRewrite with
    | none => exact ⟨c, rfl⟩
    | some ports => exact answers (.inr (by decide))
  have pseudo : ∀ delta, ∃ c',
      (Kernel.ideal now prandom).l4Csum field 0 delta BPF_F_PSEUDO_HDR = some c' :=
    fun _ => answers (.inl ⟨by decide, rfl⟩)
  have diff : ∀ old new, ∃ delta, (Kernel.ideal now prandom).csumDiff old new = some delta :=
    fun _ _ => ⟨_, rfl⟩
  unfold csumV6ToV4
  obtain ⟨delta, hdelta⟩ := diff (Ipv6PseudoHeader.new oldSrcV6 oldDstV6 l4Len proto).bytes
    (Ipv4PseudoHeader.new newSrcV4 newDstV4 l4Len proto).bytes
  obtain ⟨c₁, h₁⟩ := pseudo delta
  obtain ⟨c₂, h₂⟩ := port c₁
  rw [hdelta, Option.bind_some, h₁, Option.bind_some, h₂, Option.bind_some]
  cases udpIpv4 with
  | false => rfl
  | true =>
      obtain ⟨c₃, h₃⟩ : ∃ c', (Kernel.ideal now prandom).l4Csum c₂ (swap16 0).toUInt64
          (swap16 0xffff).toUInt64 (2 ||| BPF_F_MARK_MANGLED_0) = some c' :=
        answers (.inr (by decide))
      rw [if_pos rfl, h₃]
      rfl

@[simp] theorem length_ipv6Pseudo (src dst : Ipv6Octets) (l4Len : UInt16) (proto : UInt8) :
    (Ipv6PseudoHeader.new src dst l4Len proto).bytes.length = 40 := by
  simp only [Ipv6PseudoHeader.bytes, List.length_append, List.Vector.toList_length,
    length_neBytes32]

@[simp] theorem length_ipv4Pseudo (src dst : UInt32) (l4Len : UInt16) (proto : UInt8) :
    (Ipv4PseudoHeader.new src dst l4Len proto).bytes.length = 12 := by
  simp only [Ipv4PseudoHeader.bytes, List.length_append, length_neBytes16, length_neBytes32]

/-- The end of an update of the field at `off`, whose value the chain makes `result`;
`good` tells the answer of an update that was made. -/
inductive ChecksumCase {α : Type} (good : α → Bool) (k : Kernel) (m : Machine) (off : Nat)
    (result : Option UInt16) : α × Machine → Prop
  | updated {a m' c} (answer : good a = true) (chain : result = some c)
      (within : off + 2 ≤ m.skb.length) (skb : m'.skb = overwrite m.skb off (neBytes16 c))
      (maps : m.SameMaps m') (log : m.CleanTo m') : ChecksumCase good k m off result (a, m')
  | failed {a m'} (answer : good a = false)
      (cause : k.Spurious ∨ m.skb.length < off + 2 ∨ result = none)
      (length : m'.skb.length = m.skb.length) (maps : m.SameMaps m') (log : m.FaultyTo m') :
      ChecksumCase good k m off result (a, m')

section Steps
variable {β : Type} {k : Kernel} {m : Machine} {P : β × Machine → Prop}

theorem csumDiff_words {old new : List UInt8} (ho : old.length % 4 = 0)
    (hn : new.length % 4 = 0) : csumDiff old new = bpfCsumDiff old new := by
  unfold csumDiff
  rw [if_neg (not_or.mpr ⟨not_not.mpr ho, not_not.mpr hn⟩)]

/-- The frame `s` with checksum value `c` in the field at `off`. -/
def Machine.FieldIs (m : Machine) (s : List UInt8) (off : Nat) (c : UInt16) : Prop :=
  off + 2 ≤ s.length ∧ m.skb = overwrite s off (neBytes16 c)

theorem Machine.FieldIs.length {s : List UInt8} {off : Nat} {c : UInt16}
    (h : m.FieldIs s off c) : m.skb.length = s.length := by
  rw [h.2, length_overwrite]
  rw [length_neBytes16]
  exact h.1

theorem Machine.fieldIs_self {off : Nat} (h : off + 2 ≤ m.skb.length) :
    m.FieldIs m.skb off (ofNeBytes16 (slice m.skb off 2)) := by
  refine ⟨h, ?_⟩
  rw [neBytes16_ofNeBytes16 (length_slice h), overwrite_slice h]

theorem l4CsumReplace_field {s : List UInt8} {off : Nat} {c : UInt16} {old new flags : UInt64}
    {q : Bool → Ebpf β} (h : m.FieldIs s off c)
    (ok : ∀ c' m', k.l4Csum c old new flags = some c' → m'.FieldIs s off c' →
      m.SameMaps m' → m.CleanTo m' → P (k.exec (q true) m'))
    (failed : k.l4Csum c old new flags = none →
      P (k.exec (q false) (m.logged .l4CsumReplace false))) :
    P (k.exec (l4CsumReplace off old new flags >>= q) m) := by
  have hoff : off ≤ s.length := (Nat.le_add_right off 2).trans h.1
  have hfield : ofNeBytes16 (slice m.skb off 2) = c := by
    have hs : slice (overwrite s off (neBytes16 c)) off (neBytes16 c).length = neBytes16 c :=
      slice_overwrite_self hoff
    rw [length_neBytes16] at hs
    rw [h.2, hs, ofNeBytes16_neBytes16]
  refine l4CsumReplace_rule (fun c' hc' _ => ?_) (fun hfail => ?_)
  · rw [hfield] at hc'
    refine ok c' _ hc' ⟨h.1, ?_⟩ ⟨rfl, rfl⟩ ((Machine.CleanTo.refl m).logged _)
    change overwrite m.skb off (neBytes16 c') = _
    rw [h.2, overwrite_overwrite hoff (by rw [length_neBytes16, length_neBytes16])]
  · rw [hfield, h.length] at hfail
    exact failed (hfail.resolve_right (Nat.not_lt_of_le h.1))

theorem l4CsumReplacePort_field {s : List UInt8} {off : Nat} {c : UInt16}
    {portRewrite : Option (UInt16 × UInt16)} {q : Bool → Ebpf β} (h : m.FieldIs s off c)
    (ok : ∀ c' m', csumPort k portRewrite c = some c' → m'.FieldIs s off c' →
      m.SameMaps m' → m.CleanTo m' → P (k.exec (q true) m'))
    (failed : csumPort k portRewrite c = none →
      P (k.exec (q false) (m.logged .l4CsumReplace false))) :
    P (k.exec (l4CsumReplacePort off portRewrite >>= q) m) := by
  cases portRewrite with
  | none => exact ok c m rfl h ⟨rfl, rfl⟩ (.refl m)
  | some p => exact l4CsumReplace_field h ok failed

end Steps

section Update
variable (k : Kernel) (m : Machine) (off : Nat) (l4Len : UInt16) (proto : UInt8)
  (srcV6 dstV6 : Ipv6Octets) (srcV4 dstV4 : UInt32) (portRewrite : Option (UInt16 × UInt16))

theorem applyV6ToV4_case (udpIpv4 : Bool) :
    ChecksumCase Option.isSome k m off
      (csumV6ToV4 k l4Len proto srcV6 dstV6 srcV4 dstV4 portRewrite udpIpv4
        (ofNeBytes16 (slice m.skb off 2)))
      (k.exec (applyL4Nat64ChecksumDeltaV6ToV4 off l4Len proto srcV6 dstV6 srcV4 dstV4
        portRewrite udpIpv4) m) := by
  unfold applyL4Nat64ChecksumDeltaV6ToV4
  refine (Reads.loadU16 off).rule (fun m₀ log₀ same₀ within => ?_) (fun m₁ log₁ same₁ cause => ?_)
  · dsimp only
    rw [csumDiff_words (by rw [length_ipv6Pseudo]) (by rw [length_ipv4Pseudo])]
    refine csumDiff_rule (fun delta hdelta => ?_) (fun hdelta => ?_)
    · have field : (m₀.logged .csumDiff true).FieldIs m.skb off
          (ofNeBytes16 (slice m.skb off 2)) := by
        rw [← same₀.1] at within ⊢
        exact Machine.fieldIs_self within
      have maps : m.SameMaps (m₀.logged .csumDiff true) := same₀.2
      have log := log₀.logged .csumDiff
      refine l4CsumReplace_field field (fun c₁ m₁ hc₁ field₁ maps₁ log₁ => ?_) (fun hc₁ => ?_)
      · refine (Reads.loadU16 off).rule (fun m₂ log₂ same₂ _ => ?_)
          (fun m₂ log₂ same₂ cause => ?_)
        · have field₂ : m₂.FieldIs m.skb off c₁ := ⟨within, same₂.1.trans field₁.2⟩
          have maps₂ := maps.trans (maps₁.trans same₂.2)
          have log₂ := log.trans (log₁.trans log₂)
          refine l4CsumReplacePort_field field₂ (fun c₃ m₃ hc₃ field₃ maps₃ log₃ => ?_)
            (fun hc₃ => ?_)
          · refine (Reads.loadU16 off).rule (fun m₄ log₄ same₄ _ => ?_)
              (fun m₄ log₄ same₄ cause => ?_)
            · have field₄ : m₄.FieldIs m.skb off c₃ := ⟨within, same₄.1.trans field₃.2⟩
              have maps₄ := maps₂.trans (maps₃.trans same₄.2)
              have log₄ := log₂.trans (log₃.trans log₄)
              cases udpIpv4 with
              | false =>
                  refine .updated rfl ?_ within field₄.2 maps₄ log₄
                  simp only [csumV6ToV4, hdelta, hc₁, hc₃, Option.bind_some, Bool.false_eq_true,
                    reduceIte]
              | true =>
                  refine l4CsumReplace_field field₄ (fun c₅ m₅ hc₅ field₅ maps₅ log₅ => ?_)
                    (fun hc₅ => ?_)
                  · refine .updated rfl ?_ within field₅.2 (maps₄.trans maps₅) (log₄.trans log₅)
                    simp only [csumV6ToV4, hdelta, hc₁, hc₃, hc₅, Option.bind_some, reduceIte]
                  · refine .failed rfl (.inr (.inr ?_)) field₄.length maps₄ (log₄.faulted _)
                    simp only [csumV6ToV4, hdelta, hc₁, hc₃, hc₅, Option.bind_some, reduceIte]
            · exact .failed rfl (cause.imp_right fun h => .inl (field₃.length ▸ h))
                ((congrArg _ same₄.1).trans field₃.length)
                (maps₂.trans (maps₃.trans same₄.2)) ((log₂.trans log₃).trans_faulty log₄)
          · refine .failed rfl (.inr (.inr ?_)) field₂.length maps₂ (log₂.faulted _)
            simp only [csumV6ToV4, hdelta, hc₁, hc₃, Option.bind_some, Option.bind_none]
        · exact .failed rfl (cause.imp_right fun h => .inl (field₁.length ▸ h))
            ((congrArg _ same₂.1).trans field₁.length)
            (maps.trans (maps₁.trans same₂.2)) ((log.trans log₁).trans_faulty log₂)
      · refine .failed rfl (.inr (.inr ?_)) (congrArg _ same₀.1) maps (log.faulted _)
        simp only [csumV6ToV4, hdelta, hc₁, Option.bind_some, Option.bind_none]
    · refine .failed rfl (.inr (.inr ?_)) (congrArg _ same₀.1) same₀.2 (log₀.faulted _)
      rw [csumV6ToV4, hdelta, Option.bind_none]
  · exact .failed rfl (cause.imp_right .inl) (congrArg _ same₁.1) same₁.2 log₁

theorem applyV4ToV6_case (udpV6 : Bool) :
    ChecksumCase id k m off
      (csumV4ToV6 k l4Len proto srcV4 dstV4 srcV6 dstV6 portRewrite udpV6
        (ofNeBytes16 (slice m.skb off 2)))
      (k.exec (applyL4Nat64ChecksumDeltaV4ToV6 off l4Len proto srcV4 dstV4 srcV6 dstV6
        portRewrite udpV6) m) := by
  unfold applyL4Nat64ChecksumDeltaV4ToV6
  dsimp only
  rw [csumDiff_words (by rw [length_ipv4Pseudo]) (by rw [length_ipv6Pseudo])]
  have start := Machine.CleanTo.refl m
  refine csumDiff_rule (fun delta hdelta => ?_) (fun hdelta => ?_)
  · by_cases within : off + 2 ≤ m.skb.length
    · have field : (m.logged .csumDiff true).FieldIs m.skb off (ofNeBytes16 (slice m.skb off 2)) :=
        Machine.fieldIs_self within
      refine l4CsumReplace_field field (fun c₁ m₁ hc₁ field₁ maps₁ log₁ => ?_) (fun hc₁ => ?_)
      · refine l4CsumReplacePort_field field₁ (fun c₂ m₂ hc₂ field₂ maps₂ log₂ => ?_)
          (fun hc₂ => ?_)
        · cases udpV6 with
          | false =>
              refine .updated rfl ?_ within field₂.2
                (Machine.SameMaps.trans ⟨rfl, rfl⟩ (maps₁.trans maps₂))
                ((start.logged _).trans (log₁.trans log₂))
              simp only [csumV4ToV6, hdelta, hc₁, hc₂, Option.bind_some, Bool.false_eq_true,
                reduceIte]
          | true =>
              rw [if_neg (by decide), if_pos rfl, ← bind_pure (l4CsumReplace _ _ _ _)]
              refine l4CsumReplace_field field₂ (fun c₃ m₃ hc₃ field₃ maps₃ log₃ => ?_)
                (fun hc₃ => ?_)
              · refine .updated rfl ?_ within field₃.2
                  (Machine.SameMaps.trans ⟨rfl, rfl⟩ (maps₁.trans (maps₂.trans maps₃)))
                  ((start.logged _).trans (log₁.trans (log₂.trans log₃)))
                simp only [csumV4ToV6, hdelta, hc₁, hc₂, hc₃, Option.bind_some, reduceIte]
              · refine .failed rfl (.inr (.inr ?_)) field₂.length
                  (Machine.SameMaps.trans ⟨rfl, rfl⟩ (maps₁.trans maps₂))
                  (((start.logged _).trans (log₁.trans log₂)).faulted _)
                simp only [csumV4ToV6, hdelta, hc₁, hc₂, hc₃, Option.bind_some, reduceIte]
        · refine .failed rfl (.inr (.inr ?_)) field₁.length
            (Machine.SameMaps.trans maps₁ ⟨rfl, rfl⟩)
            (((start.logged _).trans log₁).faulted _)
          simp only [csumV4ToV6, hdelta, hc₁, hc₂, Option.bind_some, Option.bind_none]
      · refine .failed rfl (.inr (.inr ?_)) rfl ⟨rfl, rfl⟩ ((start.logged _).faulted _)
        simp only [csumV4ToV6, hdelta, hc₁, Option.bind_some, Option.bind_none]
    · refine l4CsumReplace_rule (fun _ _ hin => absurd hin within) (fun _ => ?_)
      exact .failed rfl (.inr (.inl (Nat.lt_of_not_le within))) rfl ⟨rfl, rfl⟩
        ((start.logged _).faulted _)
  · refine .failed rfl (.inr (.inr ?_)) rfl ⟨rfl, rfl⟩ (start.faulted _)
    rw [csumV4ToV6, hdelta, Option.bind_none]

end Update

/-- An update in the middle of a program. -/
theorem ChecksumCase.rule {α β : Type} {good : α → Bool} {k : Kernel} {m : Machine} {off : Nat}
    {result : Option UInt16} {p : Ebpf α} {q : α → Ebpf β} {P : β × Machine → Prop}
    (h : ChecksumCase good k m off result (k.exec p m))
    (updated : ∀ a m' c, good a = true → result = some c → off + 2 ≤ m.skb.length →
      m'.skb = overwrite m.skb off (neBytes16 c) → m.SameMaps m' → m.CleanTo m' →
      P (k.exec (q a) m'))
    (failed : ∀ a m', good a = false → (k.Spurious ∨ m.skb.length < off + 2 ∨ result = none) →
      m'.skb.length = m.skb.length → m.SameMaps m' → m.FaultyTo m' → P (k.exec (q a) m')) :
    P (k.exec (p >>= q) m) := by
  rw [exec_bind]
  generalize k.exec p m = r at h ⊢
  cases h with
  | updated answer chain within skb maps log => exact updated _ _ _ answer chain within skb maps log
  | failed answer cause length maps log => exact failed _ _ answer cause length maps log

end Natto64
