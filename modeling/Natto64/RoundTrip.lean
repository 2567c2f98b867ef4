import Natto64.ExternalTuples
import Natto64.ReturnPackets

/-!
# Round trips

In runs without faults a mapped flow keeps its external tuple until its session expires,
and the answers to that tuple reach the client.
-/
namespace Natto64
open EventRun Octets

/-- Every helper call of the event succeeds, and nothing is evicted. -/
def System.Flawless (s : System) (e : Event) : Prop := ¬ e.evicts ∧ Clean (s.calls e)

theorem Clean.not_mem {l : Calls} (h : Clean l) (helper : Helper) : (helper, false) ∉ l :=
  fun hmem => Bool.false_ne_true (h _ hmem)

theorem System.Flawless.faultFree {s : System} {e : Event} (h : s.Flawless e) : s.FaultFree e := by
  obtain ⟨resident, clean⟩ := h
  cases e with
  | forward cpu skb k => exact clean.not_failsAfterOpening
  | reverse cpu skb k => trivial
  | timer key k => exact ⟨clean.not_mem _, clean.not_mem _⟩
  | evictFwdNat key => exact absurd trivial resident
  | evictNat key => exact absurd trivial resident

theorem Machine.FaultyTo.not_clean {m m' : Machine} (h : m.FaultyTo m') : ¬ Clean m'.log := by
  obtain ⟨l, hlog, faulty⟩ := h
  intro clean
  rw [hlog] at clean
  exact clean.left.not_faulty faulty

theorem redirected_eq_redirect {k : Kernel} {ifindex : UInt32} (index : ifindex ≠ 0)
    (ok : k.redirectOk = true) : redirected k ifindex = .redirect := if_pos ⟨index, ok⟩

theorem redirected_index {k : Kernel} {ifindex : UInt32} (h : redirected k ifindex = .redirect) :
    ifindex ≠ 0 := by
  rintro rfl
  rw [redirected, if_neg fun hc => hc.1 rfl] at h
  cases h

/-- A translated packet leaves with the tuple of the entry of its flow. -/
theorem forward_tuple_of_entry {k : Kernel} {m : Machine} {v : TimedFwdNatVal}
    (rewritten : (k.exec nat64Forward m).1 ≠ .pipe)
    (entry : m.maps.fwdNat (fwdKeyAt m.skb) = some v) :
    ipv4TupleAt (k.exec nat64Forward m).2.skb =
      ⟨v.extV4, v.extPort, (fwdKeyAt m.skb).remoteV4, (fwdKeyAt m.skb).remotePort,
        (fwdKeyAt m.skb).proto⟩ := by
  obtain ⟨extV4, t, s, l, csum, mapped, within, hskb, -⟩ := forward_rewritten rewritten
  have ht := mapped.mapping.tuple_of_entry entry
  obtain rfl := Option.some.inj ht
  rw [hskb]
  exact fwdFrame_tuple within

/-- A packet of a mapped flow is redirected when its calls succeed. -/
theorem forward_redirects {k : Kernel} {m : Machine} {v : TimedFwdNatVal} {extV4 : UInt32}
    (admitted : FwdAdmitted (m.maps.config.getD DEFAULT_CFG) m.skb extV4)
    (entry : m.maps.fwdNat (fwdKeyAt m.skb) = some v)
    (clean : Clean (k.exec nat64Forward m).2.log)
    (uplink : (m.maps.config.getD DEFAULT_CFG).uplinkIfindex ≠ 0) :
    (k.exec nat64Forward m).1 = .redirect := by
  have h := nat64Forward_case k m
  generalize k.exec nat64Forward m = z at h clean ⊢
  cases h with
  | passed cause same =>
      rcases cause with ⟨faulty, -⟩ | refused
      · exact absurd clean faulty.not_clean
      · exact absurd admitted (refused extV4)
  | cut admitted tcp change cause length maps log => exact absurd clean log.not_clean
  | unmapped mapped =>
    exact absurd (mapped.mapping.tuple_of_entry entry) (Option.some_ne_none _).symm
  | dropped mapped maps cause skb log =>
      exact absurd clean (log.faultyTo fun _ h => h).not_clean
  | translated mapped change within chain skb maps tcp log =>
      obtain ⟨start, rest, hlog, -, -, hredirect⟩ := log
      refine redirected_eq_redirect uplink ?_
      rw [hlog] at clean
      exact clean.left _ (hredirect uplink)

/-- Only through an uplink is a packet redirected. -/
theorem forward_redirect_uplink {k : Kernel} {m : Machine}
    (redirect : (k.exec nat64Forward m).1 = .redirect) :
    (m.maps.config.getD DEFAULT_CFG).uplinkIfindex ≠ 0 := by
  have h := nat64Forward_case k m
  generalize k.exec nat64Forward m = z at h redirect
  cases h with
  | translated => exact redirected_index redirect
  | _ => cases redirect

/-- An answer to a session is redirected when its calls succeed. -/
theorem reverse_redirects {k : Kernel} {m : Machine} {v : NatVal}
    (matched : RevMatched m.maps m.skb v) (tcp : u8At m.skb 23 = IPPROTO_TCP)
    (clean : Clean (k.exec nat64Reverse m).2.log)
    (bridge : (m.maps.config.getD DEFAULT_CFG).bridgeIfindex ≠ 0) :
    (k.exec nat64Reverse m).1 = .redirect := by
  have h := nat64Reverse_case k m
  generalize k.exec nat64Reverse m = z at h clean ⊢
  cases h with
  | passed cause same =>
      rcases cause with ⟨faulty, -⟩ | refused
      · exact absurd clean faulty.not_clean
      · exact absurd matched (refused v)
  | kept matched change skb maps cpu log => exact absurd clean log.not_clean
  | cut matched change cause length maps cpu =>
      rcases cause with ⟨faulty, -⟩ | ⟨udp, -⟩
      · exact absurd clean faulty.not_clean
      · rw [tcp] at udp
        exact absurd udp (by decide)
  | translated matched change within nonzero chain skb maps cpu log =>
      exact redirected_eq_redirect bridge (clean _ (log bridge))

/-- What holds all along a run without faults. -/
structure System.Sound (cfg : Nat64Config) (s : System) : Prop where
  covered : s.Covered
  assigned : s.Assigned cfg

theorem sound_initial (cfg : Nat64Config) : (System.initial cfg).Sound cfg :=
  ⟨covered_initial cfg, rfl, fun _ _ h => absurd h (Option.some_ne_none _).symm⟩

theorem sound_step {cfg : Nat64Config} {s : System} {e : Event} (h : s.Sound cfg)
    (ok : s.FaultFree e) : (s.step e).Sound cfg :=
  ⟨covered_step h.covered ok.resident ok.completes, assigned_step h.assigned ok.completes⟩

/-- The event is flawless and leaves the flow `key` an entry. -/
def System.Keeps (key : FwdNatKey) (s : System) (e : Event) : Prop :=
  s.Flawless e ∧ (s.step e).maps.fwdNat key ≠ none

/-- The session of `key` has the external tuple `extV4`, `extPort`. -/
def System.HasTuple (key : FwdNatKey) (extV4 : UInt32) (extPort : UInt16) (s : System) : Prop :=
  ∃ v, s.maps.fwdNat key = some v ∧ v.extV4 = extV4 ∧ v.extPort = extPort

theorem hasTuple_step {key : FwdNatKey} {extV4 : UInt32} {extPort : UInt16} {s : System} {e : Event}
    (h : s.HasTuple key extV4 extPort) (keeps : s.Keeps key e) :
    (s.step e).HasTuple key extV4 extPort := by
  obtain ⟨v, entry, hext, hport⟩ := h
  obtain ⟨w, hw⟩ := Option.ne_none_iff_exists'.mp keeps.2
  rcases fwdNat_step hw keeps.1.faultFree.completes with ⟨v', old, same⟩ | ⟨new, -⟩
  · obtain rfl := Option.some.inj (entry.symm.trans old)
    exact ⟨w, hw, same.1.trans hext, same.2.1.trans hport⟩
  · rw [new] at entry
    cases entry

/-- A redirected packet leaves with the tuple of the entry its flow then has. -/
theorem hasTuple_of_forward {s : System} {cpu : Nat} {skb : List UInt8} {k : Kernel}
    (rewritten : (s.forward cpu skb k).1 ≠ .pipe) :
    (s.step (.forward cpu skb k)).HasTuple (fwdKeyAt skb)
      (ipv4TupleAt (s.forward cpu skb k).2.skb).src
      (ipv4TupleAt (s.forward cpu skb k).2.skb).sport := by
  obtain ⟨extV4, t, s', l, csum, mapped, within, hskb, hmaps⟩ := forward_rewritten rewritten
  obtain ⟨w, entry, hext, hport, -⟩ := mapped.mapping.entry
  have htuple : ipv4TupleAt (s.forward cpu skb k).2.skb = _ :=
    (congrArg ipv4TupleAt hskb).trans (fwdFrame_tuple within)
  rw [htuple]
  refine ⟨w, ?_, hext, hport⟩
  change (s.forward cpu skb k).2.maps.fwdNat (fwdKeyAt skb) = some w
  have hfwd : (s.forward cpu skb k).2.maps.fwdNat = s'.fwdNat := by
    change (k.exec nat64Forward (s.machine cpu skb)).2.maps.fwdNat = _
    rw [hmaps]
    split <;> rfl
  rw [hfwd]
  exact entry

/-- An unfragmented IPv4 TCP frame without options, with 18 to 1500 octets of TCP. -/
structure PlainTcp4 (skb : List UInt8) : Prop where
  etherType : be16At skb 12 = ETH_P_IP
  versionIhl : u8At skb 14 = 0x45
  whole : be16At skb 20 &&& 0x3fff = 0
  proto : u8At skb 23 = IPPROTO_TCP
  total : 38 ≤ totalLenAt skb ∧ totalLenAt skb ≤ 1520
  within : 14 + totalLenAt skb ≤ skb.length

theorem PlainTcp4.ihl {skb : List UInt8} (h : PlainTcp4 skb) : ihlAt skb = 20 := by
  rw [ihlAt, h.versionIhl]
  rfl

theorem PlainTcp4.admitted {skb : List UInt8} (h : PlainTcp4 skb) {cfg : Nat64Config}
    (pool : v4InPool (be32At skb 30) cfg = true) : RevAdmitted cfg skb where
  base := by have := h.total.1; have := h.within; omega
  etherType := h.etherType
  version := by rw [h.versionIhl]; decide
  ihl := by rw [h.ihl]; decide
  total := by have := h.total.1; rw [h.ihl]; omega
  pool := pool
  whole := h.whole
  proto := .inl h.proto
  tcp _ := by
    have hmax : MAX_L4_LEN = 1500 := rfl
    have := h.total
    have := h.within
    rw [h.ihl]
    omega
  udp hudp := by
    rw [h.proto] at hudp
    exact absurd hudp (by decide)

theorem selectV4FromPoolEbpf_len {vmV6 : Ipv6Octets} {cfg : Nat64Config} {ext : UInt32}
    (h : selectV4FromPoolEbpf vmV6 cfg = some ext) : cfg.v4PoolLen.toNat ≤ V4_POOL_MAX := by
  unfold selectV4FromPoolEbpf at h
  dsimp only at h
  split at h
  · cases h
  next hlen => exact Nat.le_of_not_lt fun hlt => hlen (.inr hlt)

/-- A packet of the flow is redirected if it is admitted, and then leaves with the source
`extV4`, `extPort`. -/
def System.SendsFrom (s : System) (cfg : Nat64Config) (key : FwdNatKey) (extV4 : UInt32)
    (extPort : UInt16) : Prop :=
  ∀ cpu skb k, fwdKeyAt skb = key → Clean (s.forward cpu skb k).2.log →
    ((∃ extV4, FwdAdmitted cfg skb extV4) → (s.forward cpu skb k).1 = .redirect) ∧
    ((s.forward cpu skb k).1 = .redirect → ipv4TupleAt (s.forward cpu skb k).2.skb =
      ⟨extV4, extPort, key.remoteV4, key.remotePort, key.proto⟩)

/-- A TCP packet from the remote end of the flow to `extV4`, `extPort` is redirected to the
client, with its TCP octets but for the destination port and the checksum. -/
def System.AnswersFrom (s : System) (key : FwdNatKey) (extV4 : UInt32) (extPort : UInt16) :
    Prop :=
  ∀ cpu skb k, PlainTcp4 skb →
    ipv4TupleAt skb = ⟨key.remoteV4, key.remotePort, extV4, extPort, IPPROTO_TCP⟩ →
    Clean (s.reverse cpu skb k).2.log →
    (s.reverse cpu skb k).1 = .redirect ∧
      be16At (s.reverse cpu skb k).2.skb 12 = ETH_P_IPV6 ∧
      ipv6TupleAt (s.reverse cpu skb k).2.skb =
        ⟨nat64SourceV6 key.remoteV4, key.remotePort, key.vmV6, key.vmPort, IPPROTO_TCP⟩ ∧
      (s.reverse cpu skb k).2.skb.length = skb.length + 20 ∧
      ∀ i, i < 2 ∨ 4 ≤ i → i < 16 ∨ 18 ≤ i →
        (s.reverse cpu skb k).2.skb[54 + i]? = skb[34 + i]?

theorem sendsFrom_of_hasTuple {cfg : Nat64Config} {s : System} {key : FwdNatKey} {extV4 : UInt32}
    {extPort : UInt16} (hcfg : s.maps.config = some cfg) (uplink : cfg.uplinkIfindex ≠ 0)
    (h : s.HasTuple key extV4 extPort) : s.SendsFrom cfg key extV4 extPort := by
  obtain ⟨v, entry, rfl, rfl⟩ := h
  rintro cpu skb k rfl clean
  have hget : (s.machine cpu skb).maps.config.getD DEFAULT_CFG = cfg := by
    change s.maps.config.getD DEFAULT_CFG = cfg
    rw [hcfg, Option.getD_some]
  refine ⟨fun ⟨extV4, admitted⟩ => ?_, fun redirect => ?_⟩
  · rw [← hget] at admitted uplink
    exact forward_redirects admitted entry clean uplink
  · exact forward_tuple_of_entry (redirect_ne_pipe redirect) entry

theorem answersFrom_of_hasTuple {cfg : Nat64Config} {s : System} {key : FwdNatKey}
    {extV4 : UInt32} {extPort : UInt16} (sound : s.Sound cfg) (bridge : cfg.bridgeIfindex ≠ 0)
    (len : cfg.v4PoolLen.toNat ≤ V4_POOL_MAX) (tcp : key.proto = IPPROTO_TCP)
    (h : s.HasTuple key extV4 extPort) : s.AnswersFrom key extV4 extPort := by
  obtain ⟨v, entry, rfl, rfl⟩ := h
  intro cpu skb k plain htuple clean
  have hget : (s.machine cpu skb).maps.config.getD DEFAULT_CFG = cfg := by
    change s.maps.config.getD DEFAULT_CFG = cfg
    rw [sound.assigned.1, Option.getD_some]
  simp only [ipv4TupleAt, Ipv4Tuple.mk.injEq] at htuple
  obtain ⟨hsrc, hsport, hdst, hdport, -⟩ := htuple
  obtain ⟨b, hb, hvm, hvmPort, hremote, hremotePort, -⟩ := sound.covered key v entry
  have pool : v4InPool (be32At skb 30) cfg = true := by
    rw [hdst]
    exact v4InPool_iff.mpr ⟨len, (sound.assigned.2 key v entry).1⟩
  have hkey : revKeyAt skb = natKey v.extV4 v.extPort key.proto := by
    rw [revKeyAt, hdst, hdport, plain.proto, tcp]
    rfl
  have matched : RevMatched (s.machine cpu skb).maps (s.machine cpu skb).skb b := by
    refine ⟨?_, ?_, hremote.trans hsrc.symm, hremotePort.trans hsport.symm⟩
    · rw [hget]
      exact plain.admitted pool
    · change s.maps.nat (revKeyAt skb) = some b
      rw [hkey]
      exact hb
  have redirect : (s.reverse cpu skb k).1 = .redirect :=
    reverse_redirects matched plain.proto clean (by rw [hget]; exact bridge)
  obtain ⟨b', csum, matched', within, hskb, -⟩ := reverse_rewritten (redirect_ne_pipe redirect)
  obtain rfl := Option.some.inj (matched.entry.symm.trans matched'.entry)
  have hout : (s.reverse cpu skb k).2.skb = revFrame skb b csum := hskb
  have within : 34 + csumFieldOff (u8At skb 23) + 2 ≤ skb.length := within
  have delivers : Delivers skb b (revFrame skb b csum) := delivers_revFrame within plain.ihl
  have hsport' : be16At skb 34 = key.remotePort := by
    rw [plain.ihl] at hsport
    exact hsport
  have hoff : csumFieldOff (u8At skb 23) = 16 := by
    rw [plain.proto]
    rfl
  refine ⟨redirect, ?_, ?_, ?_, fun i hport hcsum => ?_⟩
  · rw [hout]
    exact delivers.etherType
  · rw [hout, revFrame_tuple within, hsrc, hsport', hvm, hvmPort, plain.proto]
  · rw [hout]
    exact length_revFrame within
  · have hrest := delivers.rest i hport (by rw [hoff]; exact hcsum)
    rw [plain.ihl] at hrest
    rw [hout]
    exact hrest

/-- In a run without faults, let a TCP packet of a client be redirected. As long as its
session is not removed, the packets of its flow leave with the same source, and the answers
to that source reach the client. -/
theorem tcp_round_trip {cfg : Nat64Config} {past rest : List Event} {cpu : Nat}
    {skb : List UInt8} {k : Kernel}
    (before : Along System.step System.Flawless (System.initial cfg) past)
    (sent : (dataplane cfg past).Flawless (.forward cpu skb k))
    (redirect : ((dataplane cfg past).forward cpu skb k).1 = .redirect)
    (tcp : (ipv6TupleAt skb).proto = IPPROTO_TCP)
    (after : Along System.step (System.Keeps (fwdKeyAt skb))
      ((dataplane cfg past).step (.forward cpu skb k)) rest)
    (bridge : cfg.bridgeIfindex ≠ 0) :
    let out := ipv4TupleAt ((dataplane cfg past).forward cpu skb k).2.skb
    (dataplane cfg (past ++ .forward cpu skb k :: rest)).SendsFrom cfg (fwdKeyAt skb) out.src
        out.sport ∧
      (dataplane cfg (past ++ .forward cpu skb k :: rest)).AnswersFrom (fwdKeyAt skb) out.src
        out.sport := by
  intro out
  have sound₀ : (dataplane cfg past).Sound cfg :=
    invariant (fun _ _ h ok => sound_step h ok.faultFree) (sound_initial cfg) before
  have sound₁ := sound_step sound₀ sent.faultFree
  have tuple₁ := hasTuple_of_forward (redirect_ne_pipe redirect)
  have final : (dataplane cfg (past ++ .forward cpu skb k :: rest)).Sound cfg ∧
      (dataplane cfg (past ++ .forward cpu skb k :: rest)).HasTuple (fwdKeyAt skb) out.src
        out.sport := by
    rw [dataplane, run_append, run_cons]
    exact ⟨invariant (fun _ _ h ok => sound_step h ok.1.faultFree) sound₁ after,
      invariant (fun _ _ h ok => hasTuple_step h ok) tuple₁ after⟩
  obtain ⟨sound, tuple⟩ := final
  obtain ⟨_, _, _, _, _, mapped, -⟩ := forward_rewritten (redirect_ne_pipe redirect)
  have hget : ((dataplane cfg past).machine cpu skb).maps.config.getD DEFAULT_CFG = cfg := by
    change (dataplane cfg past).maps.config.getD DEFAULT_CFG = cfg
    rw [sound₀.assigned.1, Option.getD_some]
  have len := selectV4FromPoolEbpf_len mapped.admitted.pool
  rw [hget] at len
  have uplink := forward_redirect_uplink redirect
  rw [hget] at uplink
  exact ⟨sendsFrom_of_hasTuple sound.assigned.1 uplink tuple,
    answersFrom_of_hasTuple sound bridge len tcp tuple⟩

/-- Another flow of the example client and a callback of the first one, between a request and
its answer. -/
def exampleOtherFlow : List Event :=
  [.forward 1 (exampleTcp6 4001 20) (.ideal 1500 9),
    .timer (fwdKeyAt (exampleTcp6 4000 20)) (.ideal 300000001500 0)]

theorem tcp_round_trip_example :
    (Kernel.exec (.ideal 300000002000 8) nat64Reverse
      ((dataplane exampleDataplane ([] ++ .forward 0 (exampleTcp6 4000 20) (.ideal 1000 7) ::
        exampleOtherFlow)).machine 1 (exampleTcp4 20001 []))).1 = .redirect := by
  have sent : (dataplane exampleDataplane []).Flawless
      (.forward 0 (exampleTcp6 4000 20) (.ideal 1000 7)) := ⟨id, by decide +kernel⟩
  have after : Along System.step (System.Keeps (fwdKeyAt (exampleTcp6 4000 20)))
      ((dataplane exampleDataplane []).step (.forward 0 (exampleTcp6 4000 20) (.ideal 1000 7)))
      exampleOtherFlow :=
    ⟨⟨⟨id, by decide +kernel⟩, by decide +kernel⟩, ⟨⟨id, by decide +kernel⟩, by decide +kernel⟩,
      trivial⟩
  have plain : PlainTcp4 (exampleTcp4 20001 []) :=
    ⟨by decide, by decide, by decide, by decide, by decide, by decide⟩
  have before : Along System.step System.Flawless (System.initial exampleDataplane) [] := trivial
  obtain ⟨-, answers⟩ := tcp_round_trip before sent (by decide +kernel) (by decide) after
    (by decide)
  exact (answers 1 (exampleTcp4 20001 []) (.ideal 300000002000 8) plain (by decide +kernel)
    (by decide +kernel)).1

/-- Every helper call of a packet succeeds, and nothing is evicted. -/
def System.PacketsFlawless (s : System) : Event → Prop
  | .forward cpu skb k => Clean (s.forward cpu skb k).2.log
  | .reverse cpu skb k => Clean (s.reverse cpu skb k).2.log
  | .timer _ _ => True
  | .evictFwdNat _ | .evictNat _ => False

instance (s : System) : (e : Event) → Decidable (s.PacketsFlawless e)
  | .forward cpu skb k => inferInstanceAs (Decidable (Clean (s.forward cpu skb k).2.log))
  | .reverse cpu skb k => inferInstanceAs (Decidable (Clean (s.reverse cpu skb k).2.log))
  | .timer _ _ => inferInstanceAs (Decidable True)
  | .evictFwdNat _ | .evictNat _ => inferInstanceAs (Decidable False)

/-- A flow expires, but its callback fails to remove the forward entry. -/
def exampleKept : List Event :=
  [.forward 0 (exampleTcp6 4000 20) (.ideal 1000 7),
    .timer (fwdKeyAt (exampleTcp6 4000 20)) (.ideal 400000000000 0),
    .timer (fwdKeyAt (exampleTcp6 4000 20))
      { Kernel.ideal 400020000000 0 with fwdNatRemoveOk := false }]

/-- Another flow is given the tuple, then the first one goes on. -/
def exampleNewcomer : Event := .forward 1 (exampleTcp6 4001 20) (.ideal 500000000000 8)

def exampleReturner : Event := .forward 0 (exampleTcp6 4000 20) (.ideal 600000000000 9)

/-- The forward entry that was kept takes the tuple back: the answers to the newcomer go to the
first flow. -/
theorem failed_removal_takes_tuple_back :
    Along System.step System.PacketsFlawless (System.initial exampleDataplane) exampleKept ∧
      (dataplane exampleDataplane exampleKept).PacketsFlawless exampleNewcomer ∧
      ((dataplane exampleDataplane exampleKept).forward 1 (exampleTcp6 4001 20)
        (.ideal 500000000000 8)).1 = .redirect ∧
      ipv4TupleAt ((dataplane exampleDataplane exampleKept).forward 1 (exampleTcp6 4001 20)
        (.ideal 500000000000 8)).2.skb = ⟨0xCB00710A, 20001, exampleServer, 80, IPPROTO_TCP⟩ ∧
      Along System.step (fun s e => s.PacketsFlawless e ∧
          (s.step e).maps.fwdNat (fwdKeyAt (exampleTcp6 4001 20)) ≠ none)
        ((dataplane exampleDataplane exampleKept).step exampleNewcomer) [exampleReturner] ∧
      ¬ (dataplane exampleDataplane
          (exampleKept ++ exampleNewcomer :: [exampleReturner])).AnswersFrom
        (fwdKeyAt (exampleTcp6 4001 20)) 0xCB00710A 20001 := by
  refine ⟨by decide +kernel, by decide +kernel, by decide +kernel, by decide +kernel,
    by decide +kernel, fun answers => ?_⟩
  have plain : PlainTcp4 (exampleTcp4 20001 []) :=
    ⟨by decide, by decide, by decide, by decide, by decide, by decide⟩
  obtain ⟨-, -, tuple, -⟩ := answers 1 (exampleTcp4 20001 []) (.ideal 700000000000 8) plain
    (by decide +kernel) (by decide +kernel)
  revert tuple
  decide +kernel

end Natto64
