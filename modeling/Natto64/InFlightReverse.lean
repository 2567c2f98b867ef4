import Natto64.InFlightForward
import Natto64.ReturnPackets

/-!
# Return packets in flight

`nat64_reverse`, the timer callback and the evictions make only permitted calls, and a packet
that is translated goes to the client of the reverse entry it saw.
-/
namespace Natto64
open Octets

/-- The frame `skb` is the reply `skb₀`, delivered to the client of `flow`. -/
structure DeliveredTo (skb₀ skb : List UInt8) (flow : FwdNatKey) : Prop where
  proto : flow.proto = u8At skb₀ 23
  remoteV4 : flow.remoteV4 = be32At skb₀ 26
  remotePort : flow.remotePort = be16At skb₀ (14 + ihlAt skb₀)
  tuple : ipv6TupleAt skb =
    ⟨nat64SourceV6 flow.remoteV4, be16At skb₀ 34, flow.vmV6, flow.vmPort, flow.proto⟩

/-- A packet that is not handed back goes to the client of the entry it saw. -/
def SentBack (skb : List UInt8) (action : TcAction) (l : TaskState) : Prop :=
  action ≠ .pipe → ∃ flow, l.stage = .read (revKeyAt skb) flow ∧ DeliveredTo skb l.skb flow

theorem sentBack_pipe {skb : List UInt8} {l : TaskState} : SentBack skb .pipe l := (absurd rfl ·)

section Local

theorem local_refuse (prod : List ProdCounter) (debug : List DebugCounter) :
    LocalCalls (do
      withCounters prod debug
      withCounters [] [.dbgRevReturnErr]
      return (.ok .pipe : Except TcAction TcAction)) :=
  (local_withCounters _ _).bind fun _ => (local_withCounters _ _).bind fun _ => local_pure _

/-- The checksum update and the redirect that end a translation. -/
theorem local_sendBack {csumOffset : Nat} {l4Len : UInt16} {proto : UInt8}
    {oldSrcV4 oldDstV4 : UInt32} {newSrcV6 newDstV6 : Ipv6Octets}
    {portRewrite : Option (UInt16 × UInt16)} {udpV6 : Bool} {ifindex : UInt32}
    {prod prodErr : List ProdCounter} {debug debugErr : List DebugCounter} :
    LocalCalls (do
      if !(← applyL4Nat64ChecksumDeltaV4ToV6 csumOffset l4Len proto oldSrcV4 oldDstV4 newSrcV6
          newDstV6 portRewrite udpV6) then
        withCounters prodErr debugErr
        withCounters [] [.dbgRevReturnErr]
        return .ok .pipe
      withCounters prod debug
      return (.ok (← redirectToIface ifindex false) : Except TcAction TcAction)) := by
  refine CallTree.Uses.bindBool (uses_applyL4Nat64ChecksumDeltaV4ToV6 local_onPacket _ _ _ _ _ _ _
    _ _) ?_ (local_refuse _ _)
  refine (local_withCounters _ _).bind fun _ => ?_
  exact (local_redirectToIface _ _).bind fun _ => local_pure _

theorem local_revRewrite {β : Type} {l4Len : UInt16} {proto : UInt8} {srcV6 dstV6 : Ipv6Octets}
    {vmPort : UInt16} {e₁ e₂ e₃ e₄ rest : Ebpf β} (h₁ : LocalCalls e₁) (h₂ : LocalCalls e₂)
    (h₃ : LocalCalls e₃) (h₄ : LocalCalls e₄) (hrest : LocalCalls rest) :
    LocalCalls (do
      if !(← changeProto ETH_P_IPV6_HELPER) then e₁ else
      if !(← store 12 (beBytes16 ETH_P_IPV6)) then e₂ else
      if !(← writeIpv6Header l4Len proto srcV6 dstV6) then e₃ else
      if !(← store (ETH_HDR_LEN + 40 + 2) (beBytes16 vmPort)) then e₄ else
      rest) := by
  refine CallTree.Uses.bindBool (local_changeProto _) ?_ h₁
  refine CallTree.Uses.bindBool (local_store _ _) ?_ h₂
  refine CallTree.Uses.bindBool (local_store _ _) ?_ h₃
  exact CallTree.Uses.bindBool (local_store _ _) hrest h₄

end Local

section Packet
variable {k : Kernel} {cfg : Nat64Config} {skb : List UInt8} {cpu : CpuMaps} {b : NatVal}

/-- What is left of the program makes only local calls. -/
theorem guarded_end {α : Type} {task : Task} {post : α → TaskState → Prop} {trail : Trail}
    {p : Ebpf α} (hp : LocalCalls p) (undone : trail.Open) {m : Machine}
    (h : Proceeds k cfg task post trail pure (k.exec p m)) :
    Guarded k cfg task post p ⟨m.invocation, trail⟩ := by
  rw [← bind_pure p] at h ⊢
  exact guarded_rule hp undone h

/-- The translated frame, whatever its redirect answers. -/
theorem sentBack_redirect {ifindex : UInt32} {csum : UInt16} {m : Machine}
    (remoteV4 : b.remoteV4 = be32At skb 26)
    (remotePort : b.remotePort = be16At skb (14 + ihlAt skb))
    (within : 34 + csumFieldOff (u8At skb 23) + 2 ≤ skb.length) (hskb : m.skb = revFrame skb b csum)
    (cfg : Nat64Config) (task : Task) :
    Proceeds k cfg task (fun r => SentBack skb (verdict r))
      (.read (revKeyAt skb) (b.flow (revKeyAt skb).proto)) pure
      (k.exec (do return .ok (← redirectToIface ifindex false)) m) := by
  have last : (k.exec (do return (.ok (← redirectToIface ifindex false) : Except TcAction TcAction))
      m).2.skb = m.skb := by
    rw [exec_bind, exec_pure, exec_redirectToIface]
    split <;> rfl
  intro _
  refine ⟨b.flow (revKeyAt skb).proto, rfl, rfl, remoteV4, remotePort, ?_⟩
  have tuple : ipv6TupleAt (revFrame skb b csum) =
      ⟨nat64SourceV6 b.remoteV4, be16At skb 34, b.vmV6, b.vmPort, u8At skb 23⟩ := by
    rw [revFrame_tuple within, remoteV4]
  rw [← hskb, ← last] at tuple
  exact tuple

theorem guarded_refuse {task : Task} {trail : Trail} {prod₁ prod₂ : List ProdCounter}
    {debug₁ debug₂ : List DebugCounter} {v : Invocation} :
    Guarded k cfg task (fun r => SentBack skb (verdict r)) (do
      withCounters prod₁ debug₁
      withCounters prod₂ debug₂
      return .ok .pipe) ⟨v, trail⟩ :=
  guarded_withCounters fun _ _ => guarded_withCounters fun _ _ => sentBack_pipe

theorem guarded_reverseTcp (tcp : u8At skb 23 = IPPROTO_TCP) (ihl : 20 ≤ ihlAt skb)
    {v : Invocation} (hskb : v.skb = skb) :
    Guarded k cfg (.reverse skb cpu) (fun r => SentBack skb (verdict r))
      (reverseTcp cfg (ihlAt skb) (totalLenAt skb) (be32At skb 26) (be32At skb 30))
      ⟨v, .fresh⟩ := by
  have hlen : revL4LenAt skb = UInt16.ofNat (totalLenAt skb - ihlAt skb) := if_pos tcp
  have fresh : Trail.fresh.Open := trivial
  unfold reverseTcp
  refine guarded_withCounters fun v₀ h₀ => ?_
  obtain ⟨m, rfl⟩ : ∃ m : Machine, m.invocation = v₀ := ⟨v₀.machine noMaps, rfl⟩
  have h₀ : m.skb = skb := h₀.trans hskb
  by_cases hmax : MAX_L4_LEN < totalLenAt skb - ihlAt skb
  · rw [if_pos hmax]
    exact guarded_refuse
  rw [if_neg hmax]
  refine guarded_rule (local_tcpPorts _) fresh ((reads_tcpPorts (ETH_HDR_LEN + ihlAt skb)).rule
    (fun m₁ _ same₁ ports => ?_) (fun m₁ _ _ _ => sentBack_pipe))
  rw [h₀] at ports ⊢
  have ports : 14 + ihlAt skb + 4 ≤ skb.length := ports
  have h₁ : m₁.skb = skb := same₁.1.trans h₀
  have hkey : natLookupKeyFromIpv4 (be32At skb 30) (be16At skb (ETH_HDR_LEN + ihlAt skb + 2))
      IPPROTO_TCP = revKeyAt skb := by
    rw [revKeyAt, tcp]
    rfl
  rw [proceeds_pure]
  dsimp only
  rw [hkey]
  refine guarded_natLookup fresh (guarded_withCounters fun _ _ => sentBack_pipe) fun b => ?_
  have seen : (Trail.read (revKeyAt skb) (b.flow (revKeyAt skb).proto)).Open := trivial
  refine guarded_withCounters fun v₂ h₂ => ?_
  cases hmatch : natTupleMatches b (be32At skb 26) (be16At skb (ETH_HDR_LEN + ihlAt skb)) with
  | false => exact guarded_withCounters fun _ _ => sentBack_pipe
  | true =>
  obtain ⟨remoteV4, remotePort⟩ := natTupleMatches_iff.mp hmatch
  rw [if_neg (by decide)]
  refine guarded_call (by trivial) fun (nowNs : UInt64) v₃ h₃ => ?_
  refine guarded_call (by trivial) fun _ v₄ h₄ => ?_
  refine guarded_withCounters fun v₅ h₅ => ?_
  obtain ⟨m₅, rfl⟩ : ∃ m : Machine, m.invocation = v₅ := ⟨v₅.machine noMaps, rfl⟩
  have h₅ : m₅.skb = skb := Eq.trans h₅ (h₄.trans (h₃.trans (Eq.trans h₂ h₁)))
  refine guarded_end ?_ seen ?_
  · exact local_revRewrite (local_refuse _ _) (local_refuse _ _) (local_refuse _ _)
      (local_refuse _ _) ((local_withCounters _ _).bind fun _ => local_sendBack)
  refine revRewrite_rule h₅ (by omega) (fun m₆ _ hskb₆ _ _ => ?_) (fun m₆ _ _ _ => sentBack_pipe)
    (fun e m₆ he _ _ _ _ _ => ?_)
  swap
  · rcases he with rfl | rfl | rfl <;> exact sentBack_pipe
  have hdraft : m₆.skb = revDraft skb b := by
    rw [hskb₆, revDraft, revHeader, tcp, hlen]
  have hcsum : applyL4Nat64ChecksumDeltaV4ToV6 (ETH_HDR_LEN + 40 + 16)
      (UInt16.ofNat (totalLenAt skb - ihlAt skb)) IPPROTO_TCP (be32At skb 26)
      (be32At skb 30) (nat64SourceV6 (be32At skb 26)) b.vmV6
      (some (be16At skb (ETH_HDR_LEN + ihlAt skb + 2), b.vmPort)) false =
    applyL4Nat64ChecksumDeltaV4ToV6 (ETH_HDR_LEN + 40 + csumFieldOff (u8At skb 23))
      (revL4LenAt skb) (u8At skb 23) (be32At skb 26) (be32At skb 30)
      (nat64SourceV6 (be32At skb 26)) b.vmV6
      (some (be16At skb (14 + ihlAt skb + 2), b.vmPort)) (u8At skb 23 == IPPROTO_UDP) := by
    rw [hlen, tcp]
    rfl
  rw [exec_bind, exec_withCounters, hcsum]
  refine revChecksum_rule (by omega) hdraft (fun m₇ csum _ within hskb₇ _ _ => ?_)
    (fun m₇ _ _ _ _ => sentBack_pipe)
  rw [if_neg (by decide), exec_bind, exec_withCounters]
  exact sentBack_redirect remoteV4 remotePort within hskb₇ cfg _

theorem guarded_reverseUdp (udp : u8At skb 23 = IPPROTO_UDP) (ihl : 20 ≤ ihlAt skb)
    {v : Invocation} (hskb : v.skb = skb) :
    Guarded k cfg (.reverse skb cpu) (fun r => SentBack skb (verdict r))
      (reverseUdp cfg (ihlAt skb) (totalLenAt skb) (be32At skb 26) (be32At skb 30))
      ⟨v, .fresh⟩ := by
  have hlen : revL4LenAt skb = be16At skb (ETH_HDR_LEN + ihlAt skb + 4) :=
    if_neg (by rw [udp]; decide)
  have fresh : Trail.fresh.Open := trivial
  unfold reverseUdp
  refine guarded_withCounters fun v₀ h₀ => ?_
  obtain ⟨m, rfl⟩ : ∃ m : Machine, m.invocation = v₀ := ⟨v₀.machine noMaps, rfl⟩
  have h₀ : m.skb = skb := h₀.trans hskb
  refine guarded_rule (uses_udpPortsLenCounting (fun _ _ => trivial) trivial _) fresh
    ((reads_udpPortsLenCounting _ (ETH_HDR_LEN + ihlAt skb)).rule
      (fun m₁ _ same₁ ports => ?_) (fun m₁ _ _ _ => sentBack_pipe))
  rw [h₀] at ports ⊢
  have ports : 14 + ihlAt skb + 6 ≤ skb.length := ports
  have h₁ : m₁.skb = skb := same₁.1.trans h₀
  rw [proceeds_pure]
  dsimp only
  rw [← hlen]
  by_cases hbad : (revL4LenAt skb).toNat < UDP_HDR_LEN ∨ MAX_L4_LEN < (revL4LenAt skb).toNat ∨
      totalLenAt skb < ihlAt skb + (revL4LenAt skb).toNat
  · rw [if_pos hbad]
    exact guarded_refuse
  have hkey : natLookupKeyFromIpv4 (be32At skb 30) (be16At skb (ETH_HDR_LEN + ihlAt skb + 2))
      IPPROTO_UDP = revKeyAt skb := by
    rw [revKeyAt, udp]
    rfl
  rw [if_neg hbad, hkey]
  refine guarded_natLookup fresh (guarded_withCounters fun _ _ => sentBack_pipe) fun b => ?_
  have seen : (Trail.read (revKeyAt skb) (b.flow (revKeyAt skb).proto)).Open := trivial
  dsimp only
  by_cases hmatch : b.remoteV4 ≠ be32At skb 26 ∨
      b.remotePort ≠ be16At skb (ETH_HDR_LEN + ihlAt skb)
  · rw [if_pos hmatch]
    exact guarded_refuse
  obtain ⟨remoteV4, remotePort⟩ := not_or.mp hmatch
  rw [if_neg hmatch]
  refine guarded_call (by trivial) fun (nowNs : UInt64) v₃ h₃ => ?_
  refine guarded_call (by trivial) fun _ v₄ h₄ => ?_
  refine guarded_withCounters fun v₅ h₅ => ?_
  obtain ⟨m₅, rfl⟩ : ∃ m : Machine, m.invocation = v₅ := ⟨v₅.machine noMaps, rfl⟩
  have h₅ : m₅.skb = skb := Eq.trans h₅ (h₄.trans (Eq.trans h₃ h₁))
  refine guarded_end ?_ seen ?_
  · refine local_revRewrite (local_refuse _ _) (local_refuse _ _) (local_refuse _ _)
      (local_refuse _ _) ?_
    refine CallTree.Uses.bindOption (local_loadU16 _) (local_pure _) fun incoming => ?_
    dsimp only
    split
    · exact local_refuse _ _
    · exact local_sendBack
  refine revRewrite_rule h₅ (by omega) (fun m₆ _ hskb₆ _ _ => ?_) (fun m₆ _ _ _ => sentBack_pipe)
    (fun e m₆ he _ _ _ _ _ => ?_)
  swap
  · rcases he with rfl | rfl | rfl <;> exact sentBack_pipe
  have hdraft : m₆.skb = revDraft skb b := by
    rw [hskb₆, revDraft, revHeader, udp]
  refine (Reads.loadU16 (ETH_HDR_LEN + ihlAt skb + 6)).rule (fun m₇ _ same₇ _ => ?_)
    (fun m₇ _ _ _ => sentBack_pipe)
  dsimp only
  split
  · exact sentBack_pipe
  have hcsum : applyL4Nat64ChecksumDeltaV4ToV6 (ETH_HDR_LEN + 40 + 6) (revL4LenAt skb)
      IPPROTO_UDP (be32At skb 26) (be32At skb 30) (nat64SourceV6 (be32At skb 26)) b.vmV6
      (some (be16At skb (ETH_HDR_LEN + ihlAt skb + 2), b.vmPort)) true =
    applyL4Nat64ChecksumDeltaV4ToV6 (ETH_HDR_LEN + 40 + csumFieldOff (u8At skb 23))
      (revL4LenAt skb) (u8At skb 23) (be32At skb 26) (be32At skb 30)
      (nat64SourceV6 (be32At skb 26)) b.vmV6
      (some (be16At skb (14 + ihlAt skb + 2), b.vmPort)) (u8At skb 23 == IPPROTO_UDP) := by
    rw [udp]
    rfl
  rw [hcsum]
  refine revChecksum_rule (by omega) (same₇.1.trans hdraft)
    (fun m₈ csum _ within hskb₈ _ _ => ?_) (fun m₈ _ _ _ _ => sentBack_pipe)
  rw [if_neg (by decide), exec_bind, exec_withCounters]
  exact sentBack_redirect (not_not.mp remoteV4) (not_not.mp remotePort) within hskb₈ cfg _

theorem guarded_tryNat64Reverse {v : Invocation} (hskb : v.skb = skb) :
    Guarded k cfg (.reverse skb cpu) (fun r => SentBack skb (verdict r)) tryNat64Reverse
      ⟨v, .fresh⟩ := by
  have fresh : Trail.fresh.Open := trivial
  unfold tryNat64Reverse
  refine guarded_withCounters fun v₀ h₀ => ?_
  obtain ⟨m, rfl⟩ : ∃ m : Machine, m.invocation = v₀ := ⟨v₀.machine noMaps, rfl⟩
  have h₀ : m.skb = skb := h₀.trans hskb
  refine guarded_rule (local_loadU16 12) fresh ((Reads.loadU16 12).rule
    (fun m₁ _ same₁ within₁ => ?_) (fun m₁ _ _ _ => sentBack_pipe))
  have h₁ : m₁.skb = skb := same₁.1.trans h₀
  rw [proceeds_pure]
  dsimp only
  split
  · exact guarded_withCounters fun _ _ => sentBack_pipe
  refine guarded_withCounters fun v₂ h₂ => ?_
  obtain ⟨m₂, rfl⟩ : ∃ m : Machine, m.invocation = v₂ := ⟨v₂.machine noMaps, rfl⟩
  have h₂ : m₂.skb = skb := Eq.trans h₂ h₁
  refine guarded_rule (uses_loadU8 (fun _ _ => trivial) _) fresh ((Reads.loadU8 ETH_HDR_LEN).rule
    (fun m₃ _ same₃ within₃ => ?_) (fun m₃ _ _ _ => sentBack_pipe))
  have h₃ : m₃.skb = skb := same₃.1.trans h₂
  rw [proceeds_pure, h₂]
  have hvihl : UInt8.ofNat (leNat (slice skb ETH_HDR_LEN 1)) = u8At skb 14 := rfl
  dsimp only
  rw [hvihl]
  split
  · exact guarded_withCounters fun _ _ => sentBack_pipe
  change Guarded k cfg _ _ (if ¬(20 ≤ ihlAt skb ∧ ihlAt skb ≤ 60) then _ else _) _
  by_cases ihl : 20 ≤ ihlAt skb ∧ ihlAt skb ≤ 60
  swap
  · rw [if_pos ihl]
    exact guarded_withCounters fun _ _ => sentBack_pipe
  rw [if_neg (not_not.mpr ihl)]
  refine guarded_rule (local_loadU16 _) fresh ((Reads.loadU16 (ETH_HDR_LEN + 2)).rule
    (fun m₄ _ same₄ within₄ => ?_) (fun m₄ _ _ _ => sentBack_pipe))
  rw [h₃] at within₄ ⊢
  have h₄ : m₄.skb = skb := same₄.1.trans h₃
  rw [proceeds_pure]
  dsimp only
  rw [swap16_loaded within₄]
  change Guarded k cfg _ _ (if totalLenAt skb < ihlAt skb then _ else _) _
  split
  · exact guarded_withCounters fun _ _ => sentBack_pipe
  refine guarded_rule (local_loadU16 _) fresh ((Reads.loadU16 (ETH_HDR_LEN + 6)).rule
    (fun m₅ _ same₅ within₅ => ?_) (fun m₅ _ _ _ => sentBack_pipe))
  have h₅ : m₅.skb = skb := same₅.1.trans h₄
  rw [proceeds_pure]
  dsimp only
  refine guarded_withCounters fun v₆ h₆ => ?_
  obtain ⟨m₆, rfl⟩ : ∃ m : Machine, m.invocation = v₆ := ⟨v₆.machine noMaps, rfl⟩
  have h₆ : m₆.skb = skb := Eq.trans h₆ h₅
  refine guarded_rule (uses_loadU8 (fun _ _ => trivial) _) fresh
    ((Reads.loadU8 (ETH_HDR_LEN + 9)).rule (fun m₇ _ same₇ within₇ => ?_)
      (fun m₇ _ _ _ => sentBack_pipe))
  have h₇ : m₇.skb = skb := same₇.1.trans h₆
  have hproto : UInt8.ofNat (leNat (slice skb (ETH_HDR_LEN + 9) 1)) = u8At skb 23 := rfl
  rw [proceeds_pure, h₆]
  dsimp only
  rw [hproto]
  refine guarded_rule (uses_loadU32 (fun _ _ => trivial) _) fresh
    ((Reads.loadU32 (ETH_HDR_LEN + 12)).rule (fun m₈ _ same₈ within₈ => ?_)
      (fun m₈ _ _ _ => sentBack_pipe))
  rw [h₇] at within₈ ⊢
  have h₈ : m₈.skb = skb := same₈.1.trans h₇
  rw [proceeds_pure]
  dsimp only
  refine guarded_rule (uses_loadU32 (fun _ _ => trivial) _) fresh
    ((Reads.loadU32 (ETH_HDR_LEN + 16)).rule (fun m₉ _ same₉ within₉ => ?_)
      (fun m₉ _ _ _ => sentBack_pipe))
  rw [h₈] at within₉ ⊢
  have h₉ : m₉.skb = skb := same₉.1.trans h₈
  rw [proceeds_pure]
  dsimp only
  rw [swap32_loaded within₈, swap32_loaded within₉]
  refine guarded_configGet ?_
  rw [Option.getD_some]
  split
  · exact guarded_withCounters fun _ _ => sentBack_pipe
  refine guarded_withCounters fun v₁₀ h₁₀ => ?_
  have h₁₀ : v₁₀.skb = skb := h₁₀.trans h₉
  split
  · exact guarded_withCounters fun _ _ => sentBack_pipe
  by_cases other : u8At skb 23 ≠ IPPROTO_TCP ∧ u8At skb 23 ≠ IPPROTO_UDP
  · rw [if_pos other]
    exact guarded_withCounters fun _ _ => sentBack_pipe
  rw [if_neg other]
  by_cases tcp : u8At skb 23 = IPPROTO_TCP
  · rw [if_pos tcp]
    exact guarded_reverseTcp tcp ihl.1 h₁₀
  · have udp : u8At skb 23 = IPPROTO_UDP := not_not.mp fun udp => other ⟨tcp, udp⟩
    rw [if_neg tcp]
    exact guarded_reverseUdp udp ihl.1 h₁₀

/-- Whatever the other tasks do to the maps between its calls. -/
theorem guarded_nat64Reverse :
    Guarded k cfg (.reverse skb cpu) (SentBack skb) nat64Reverse
      ⟨(Task.reverse skb cpu).invocation, .fresh⟩ := by
  unfold nat64Reverse
  have hskb : (Task.reverse skb cpu).invocation.skb = skb := rfl
  refine (guarded_tryNat64Reverse hskb).bind ?_
  intro r l h
  cases r with
  | ok ret => exact h
  | error ret => exact h

end Packet

end Natto64
