import Mathlib.Algebra.Order.BigOperators.Group.List
import Mathlib.Data.List.GetD
import Natto64.CounterBalance
import Natto64.Lifecycle
import Natto64.Metrics

/-!
# Telemetry

The production counters on their way to a metrics backend: the dataplane counts, a read copies
one word after the other while it goes on counting, and an exporter publishes the last read
that succeeded. Every exported series only grows, and a snapshot lies between the totals
at the beginning and at the end of its read.
-/
namespace Natto64.Userspace
open EventRun

def PROD_COUNTERS_MAP_NAME : String := "PROD_COUNTERS"

/-- The errors of `read_metrics`. -/
inductive MetricsError (ε : Type) where
  | missingMap (name : String)
  | readMetrics (source : AyaError ε)

/-- `Nat64::read_metrics`: whether the object has the map, whether it opens as per-CPU
counters, and what a lookup in it returns. -/
def readMetrics {ε : Type} (map : Option Bool) (get : Except ε (List ProdCounters)) :
    Except (MetricsError ε) Nat64Metrics :=
  match map with
  | none => .error (.missingMap PROD_COUNTERS_MAP_NAME)
  | some false => .error (.readMetrics .unexpectedType)
  | some true => (get.mapError fun source => .readMetrics (.other source)).map
      aggregateProdCounters

structure MetricDescriptor where
  name : String
  value : Nat64Metrics → UInt64

/-- The series of the exporter. -/
def DESCRIPTORS : List MetricDescriptor := [
  ⟨"nat64.pkts_total", fun m => m.pktsTotal⟩,
  ⟨"nat64.pkts_ipv6", fun m => m.pktsIpv6⟩,
  ⟨"nat64.pkts_ipv4", fun m => m.pktsIpv4⟩,
  ⟨"nat64.pkts_nat64_dst", fun m => m.pktsNat64Dst⟩,
  ⟨"nat64.pkts_nat64_tcp", fun m => m.pktsNat64Tcp⟩,
  ⟨"nat64.pkts_nat64_udp", fun m => m.pktsNat64Udp⟩,
  ⟨"nat64.pkts_ipv4_tcp", fun m => m.pktsIpv4Tcp⟩,
  ⟨"nat64.pkts_ipv4_udp", fun m => m.pktsIpv4Udp⟩,
  ⟨"nat64.nat64_v6_to_v4_ok", fun m => m.nat64V6ToV4Ok⟩,
  ⟨"nat64.nat64_v6_to_v4_udp_ok", fun m => m.nat64V6ToV4UdpOk⟩,
  ⟨"nat64.nat64_v6_to_v4_err_write_hdr", fun m => m.nat64V6ToV4ErrWriteHdr⟩,
  ⟨"nat64.nat64_v6_to_v4_err_csum", fun m => m.nat64V6ToV4ErrCsum⟩,
  ⟨"nat64.nat64_v4_to_v6_ok", fun m => m.nat64V4ToV6Ok⟩,
  ⟨"nat64.nat64_v4_to_v6_udp_ok", fun m => m.nat64V4ToV6UdpOk⟩,
  ⟨"nat64.nat64_v4_to_v6_err_write_hdr", fun m => m.nat64V4ToV6ErrWriteHdr⟩,
  ⟨"nat64.nat64_v4_to_v6_err_csum", fun m => m.nat64V4ToV6ErrCsum⟩,
  ⟨"nat64.nat64_v4_to_v6_udp_miss", fun m => m.nat64V4ToV6UdpMiss⟩,
  ⟨"nat64.nat64_v4_to_v6_udp_tuple_mismatch", fun m => m.nat64V4ToV6UdpTupleMismatch⟩,
  ⟨"nat64.nat_lookup_hit", fun m => m.natLookupHit⟩,
  ⟨"nat64.nat_lookup_miss", fun m => m.natLookupMiss⟩,
  ⟨"nat64.nat_lookup_tuple_mismatch", fun m => m.natLookupTupleMismatch⟩,
  ⟨"nat64.nat_hit_refresh_ok", fun m => m.natHitRefreshOk⟩,
  ⟨"nat64.nat_hit_refresh_err", fun m => m.natHitRefreshErr⟩,
  ⟨"nat64.fwd_nat_lookup_hit", fun m => m.fwdNatLookupHit⟩,
  ⟨"nat64.fwd_nat_lookup_miss", fun m => m.fwdNatLookupMiss⟩,
  ⟨"nat64.fwd_nat_insert_ok", fun m => m.fwdNatInsertOk⟩,
  ⟨"nat64.fwd_nat_insert_err", fun m => m.fwdNatInsertErr⟩,
  ⟨"nat64.fwd_nat_refresh_ok", fun m => m.fwdNatRefreshOk⟩,
  ⟨"nat64.fwd_nat_refresh_err", fun m => m.fwdNatRefreshErr⟩,
  ⟨"nat64.port_alloc_ok", fun m => m.portAllocOk⟩,
  ⟨"nat64.port_alloc_err", fun m => m.portAllocErr⟩,
  ⟨"nat64.port_alloc_exhausted", fun m => m.portAllocExhausted⟩,
  ⟨"nat64.unsupported_ipv6_extension_headers", fun m => m.unsupportedIpv6ExtensionHeaders⟩,
  ⟨"nat64.unsupported_ipv6_non_tcp_udp", fun m => m.unsupportedIpv6NonTcpUdp⟩,
  ⟨"nat64.unsupported_ipv4_fragments", fun m => m.unsupportedIpv4Fragments⟩,
  ⟨"nat64.unsupported_ipv4_non_tcp_udp", fun m => m.unsupportedIpv4NonTcpUdp⟩,
  ⟨"nat64.unsupported_ipv4_udp_zero_checksum", fun m => m.unsupportedIpv4UdpZeroChecksum⟩,
  ⟨"nat64.fwd_redirect_ok", fun m => m.fwdRedirectOk⟩,
  ⟨"nat64.fwd_redirect_err", fun m => m.fwdRedirectErr⟩,
  ⟨"nat64.rev_redirect_ok", fun m => m.revRedirectOk⟩,
  ⟨"nat64.rev_redirect_err", fun m => m.revRedirectErr⟩
]

/-- The series are the fields of a snapshot, in order. -/
theorem descriptors_value :
    DESCRIPTORS.map MetricDescriptor.value =
      (List.range 41).map fun i (m : Nat64Metrics) => m.field (.ofNat i) := rfl

/-- No two series share a name. -/
theorem descriptors_nodup : (DESCRIPTORS.map MetricDescriptor.name).Nodup := by decide +kernel

theorem descriptor_field {descriptor : MetricDescriptor} (h : descriptor ∈ DESCRIPTORS) :
    ∃ c : ProdCounter, ∀ m, descriptor.value m = m.field c := by
  have hmem := List.mem_map_of_mem (f := MetricDescriptor.value) h
  rw [descriptors_value] at hmem
  obtain ⟨i, -, hi⟩ := List.mem_map.mp hmem
  exact ⟨.ofNat i, fun m => (congrFun hi m).symm⟩

/-- The counters of a CPU as a reader finds them. -/
def prodCounters (s : System) (cpu : Nat) : ProdCounters := (s.diags cpu).prod.getD fun _ => 0

/-- The words of `ProdCounters`. -/
def prodCountersWords : Nat := 41

/-- The dataplane, what the running read has copied, and the published snapshot. -/
structure Telemetry where
  system : System
  copied : List UInt64
  metrics : Option Nat64Metrics

inductive TelemetryEvent (ε : Type) where
  | traffic (e : Event)
  /-- The running read copies its next word. -/
  | copy
  /-- A read returns: what became of the map, and an error of the lookup. -/
  | poll (map : Option Bool) (fault : Option ε)
  /-- The callback of one instrument. -/
  | observe (i : Fin DESCRIPTORS.length)

namespace Telemetry

/-- The snapshot that exists before the first read. -/
def initial (s : System) : Telemetry := ⟨s, [], none⟩

section
variable (nCpus : Nat)

/-- What the lookup returns, the counters of every possible CPU. -/
def values (t : Telemetry) : List ProdCounters :=
  (List.range nCpus).map fun cpu c => t.copied.getD (prodCountersWords * cpu + c.ctorIdx) 0

def copy (t : Telemetry) : Telemetry :=
  let i := t.copied.length
  if i < prodCountersWords * nCpus then
    { t with copied := t.copied ++
      [prodCounters t.system (i / prodCountersWords) (.ofNat (i % prodCountersWords))] }
  else t

def poll {ε : Type} (t : Telemetry) (map : Option Bool) (fault : Option ε) : Telemetry :=
  -- A lookup that does not fail returns when all words are copied.
  if map = some true ∧ fault.isNone ∧ t.copied.length < prodCountersWords * nCpus then t
  else
    match readMetrics map (fault.elim (.ok (t.values nCpus)) .error) with
    | .ok metrics => { t with copied := [], metrics := some metrics }
    | .error _ => { t with copied := [] }

def step {ε : Type} (t : Telemetry) : TelemetryEvent ε → Telemetry
  | .traffic e => { t with system := t.system.step e }
  | .copy => t.copy nCpus
  | .poll map fault => t.poll nCpus map fault
  | .observe _ => t

/-- What the callbacks of the instruments observe. -/
def observed {ε : Type} (t : Telemetry) : TelemetryEvent ε → Option (String × UInt64)
  | .observe i => t.metrics.map fun m => (DESCRIPTORS[i].name, DESCRIPTORS[i].value m)
  | _ => none

/-- The sums over all CPUs at one moment. -/
def totals (s : System) : Nat64Metrics :=
  aggregateProdCounters ((List.range nCpus).map (prodCounters s))

/-- What the running read has of a CPU, if the words it has not copied stay as they are. -/
def pending (t : Telemetry) (cpu : Nat) : ProdCounters := fun c =>
  t.copied.getD (prodCountersWords * cpu + c.ctorIdx) (prodCounters t.system cpu c)

/-- The snapshot of the running read, on the same condition. -/
def expected (t : Telemetry) : Nat64Metrics :=
  aggregateProdCounters ((List.range nCpus).map t.pending)

end

theorem aggregate_mono {values values' : Nat → ProdCounters} (cpus : List Nat)
    (h : ∀ cpu c, values cpu c ≤ values' cpu c) (c : ProdCounter) :
    (aggregateProdCounters (cpus.map values)).field c ≤
      (aggregateProdCounters (cpus.map values')).field c := by
  have hsum : (cpus.map fun cpu => (values cpu c).toNat).sum ≤
      (cpus.map fun cpu => (values' cpu c).toNat).sum :=
    List.sum_le_sum fun cpu _ => UInt64.le_iff_toNat_le.mp (h cpu c)
  rw [UInt64.le_iff_toNat_le, toNat_field_aggregate, toNat_field_aggregate, List.map_map,
    List.map_map]
  exact min_le_min_left _ hsum

/-- A copy takes the word that was pending. -/
theorem pending_copy (nCpus : Nat) (t : Telemetry) : (t.copy nCpus).pending = t.pending := by
  funext cpu c
  have hidx : c.ctorIdx < prodCountersWords := by cases c <;> decide
  unfold copy pending
  dsimp only
  split
  next room =>
    rcases Nat.lt_trichotomy (prodCountersWords * cpu + c.ctorIdx) t.copied.length with
      before | here | after
    · rw [List.getD_append _ _ _ _ before]
    · have hcpu : t.copied.length / prodCountersWords = cpu := by
        rw [← here, Nat.mul_add_div (by decide), Nat.div_eq_of_lt hidx, Nat.add_zero]
      have hc : t.copied.length % prodCountersWords = c.ctorIdx := by
        rw [← here, Nat.mul_add_mod, Nat.mod_eq_of_lt hidx]
      rw [hcpu, hc, ProdCounter.ofNat_ctorIdx, here]
      simp
    · rw [List.getD_eq_default _ _ (by simp; omega), List.getD_eq_default _ _ (by omega)]
  next => rfl

/-- A read that has copied all words returns what was pending. -/
theorem values_eq {nCpus : Nat} {t : Telemetry}
    (complete : prodCountersWords * nCpus ≤ t.copied.length) :
    aggregateProdCounters (t.values nCpus) = t.expected nCpus := by
  have hvalues : t.values nCpus = (List.range nCpus).map t.pending := by
    refine List.map_congr_left fun cpu hcpu => ?_
    funext c
    have hidx : c.ctorIdx < prodCountersWords := by cases c <;> decide
    have hlt : prodCountersWords * cpu + c.ctorIdx < t.copied.length := by
      have hmul := Nat.mul_le_mul_left prodCountersWords
        (Nat.succ_le_of_lt (List.mem_range.mp hcpu))
      rw [Nat.mul_succ] at hmul
      omega
    rw [pending, List.getD_eq_getElem _ _ hlt, List.getD_eq_getElem _ _ hlt]
  rw [hvalues, expected]

/-- A counter saturates, so it never goes down. -/
theorem prodCounters_le {cfg : Natto64.Nat64Config} {s : System}
    (config : s.maps.config = some cfg)
    (pool : ∀ vmV6, ∃ extV4, selectV4FromPoolEbpf vmV6 cfg = some extV4) {cpu : Nat}
    (available : (s.diags cpu).Available) (e : Event) (c : ProdCounter) :
    ((s.step e).diags cpu).Available ∧
      prodCounters s cpu c ≤ prodCounters (s.step e) cpu c := by
  have loads : False → s.LoadsInBounds e := False.elim
  obtain ⟨t, f, r, ht, -, -⟩ := step_accounts config pool available e loads
  have hvalue (s : System) (available : (s.diags cpu).Available) :
      (s.diags cpu).value (.prod c) = (prodCounters s cpu c).toNat := by
    obtain ⟨counters, hcounters⟩ := Option.isSome_iff_exists.mp available.prod
    rw [Diag.value, prodCounters, hcounters]
    rfl
  have hcount := ht.value (.prod c)
  have hlt := (s.diags cpu).value_lt (.prod c)
  rw [hvalue s available] at hcount hlt
  rw [hvalue (s.step e) ht.available] at hcount
  refine ⟨ht.available, ?_⟩
  rw [UInt64.le_iff_toNat_le]
  omega

/-- What holds between any two events. -/
structure Consistent (cfg : Natto64.Nat64Config) (nCpus : Nat) (t : Telemetry) : Prop where
  config : t.system.maps.config = some cfg
  available (cpu : Nat) : (t.system.diags cpu).Available
  behind (cpu : Nat) (c : ProdCounter) : t.pending cpu c ≤ prodCounters t.system cpu c
  published (m : Nat64Metrics) (h : t.metrics = some m) (c : ProdCounter) :
    m.field c ≤ (t.expected nCpus).field c

/-- What no event takes back. -/
structure Grows (t t' : Telemetry) : Prop where
  pending (cpu : Nat) (c : ProdCounter) : t.pending cpu c ≤ t'.pending cpu c
  published (m : Nat64Metrics) (h : t.metrics = some m) :
    ∃ m', t'.metrics = some m' ∧ ∀ c, m.field c ≤ m'.field c

section Runs
variable {ε : Type} {cfg : Natto64.Nat64Config} {nCpus : Nat}

theorem Grows.refl (t : Telemetry) : t.Grows t where
  pending _ _ := UInt64.le_refl _
  published m h := ⟨m, h, fun _ => UInt64.le_refl _⟩

theorem Grows.expected {t t' : Telemetry} (h : t.Grows t') (c : ProdCounter) :
    (t.expected nCpus).field c ≤ (t'.expected nCpus).field c :=
  aggregate_mono _ h.pending c

theorem consistent_traffic (pool : ∀ vmV6, ∃ extV4, selectV4FromPoolEbpf vmV6 cfg = some extV4)
    {t : Telemetry} (h : t.Consistent cfg nCpus) (e : Event) :
    Consistent cfg nCpus { t with system := t.system.step e } ∧
      t.Grows { t with system := t.system.step e } := by
  have hcounters (cpu : Nat) := prodCounters_le h.config pool (h.available cpu) e
  have hgrows : t.Grows { t with system := t.system.step e } := by
    refine ⟨fun cpu c => ?_, fun m hm => ⟨m, hm, fun _ => UInt64.le_refl _⟩⟩
    unfold pending
    by_cases copied : prodCountersWords * cpu + c.ctorIdx < t.copied.length
    · rw [List.getD_eq_getElem _ _ copied, List.getD_eq_getElem _ _ copied]
      exact UInt64.le_refl _
    · rw [List.getD_eq_default _ _ (Nat.not_lt.mp copied),
        List.getD_eq_default _ _ (Nat.not_lt.mp copied)]
      exact (hcounters cpu c).2
  refine ⟨⟨(step_config t.system e).trans h.config, fun cpu => (hcounters cpu .pktsTotal).1,
    fun cpu c => ?_, fun m hm c => UInt64.le_trans (h.published m hm c) (hgrows.expected c)⟩,
    hgrows⟩
  have hbehind := h.behind cpu c
  unfold pending at hbehind ⊢
  by_cases copied : prodCountersWords * cpu + c.ctorIdx < t.copied.length
  · rw [List.getD_eq_getElem _ _ copied] at hbehind ⊢
    exact UInt64.le_trans hbehind (hcounters cpu c).2
  · rw [List.getD_eq_default _ _ (Nat.not_lt.mp copied)]
    exact UInt64.le_refl _

theorem copy_eq (nCpus : Nat) (t : Telemetry) :
    (t.copy nCpus).system = t.system ∧ (t.copy nCpus).metrics = t.metrics := by
  unfold copy
  dsimp only
  split
  · exact ⟨rfl, rfl⟩
  · exact ⟨rfl, rfl⟩

/-- A read that returns leaves nothing copied; what it publishes was expected. -/
theorem poll_cases (nCpus : Nat) (t : Telemetry) (map : Option Bool) (fault : Option ε) :
    t.poll nCpus map fault = t ∨ t.poll nCpus map fault = { t with copied := [] } ∨
      t.poll nCpus map fault =
        { t with copied := [], metrics := some (t.expected nCpus) } := by
  unfold poll
  split
  · exact .inl rfl
  · next returns =>
    rcases map with _ | _ | _
    · exact .inr (.inl rfl)
    · exact .inr (.inl rfl)
    cases fault with
    | some fault => exact .inr (.inl rfl)
    | none =>
        have complete : prodCountersWords * nCpus ≤ t.copied.length :=
          Nat.not_lt.mp fun short => returns ⟨rfl, rfl, short⟩
        refine .inr (.inr ?_)
        rw [← values_eq complete]
        rfl

theorem Consistent.step (pool : ∀ vmV6, ∃ extV4, selectV4FromPoolEbpf vmV6 cfg = some extV4)
    {t : Telemetry} (h : t.Consistent cfg nCpus) (e : TelemetryEvent ε) :
    (t.step nCpus e).Consistent cfg nCpus ∧ t.Grows (t.step nCpus e) := by
  cases e with
  | traffic e => exact consistent_traffic pool h e
  | copy =>
      obtain ⟨hsystem, hmetrics⟩ := copy_eq nCpus t
      have hpending := pending_copy nCpus t
      change (t.copy nCpus).Consistent cfg nCpus ∧ t.Grows (t.copy nCpus)
      refine ⟨⟨?_, ?_, ?_, ?_⟩, ?_, ?_⟩
      · rw [hsystem]
        exact h.config
      · rw [hsystem]
        exact h.available
      · rw [hsystem, hpending]
        exact h.behind
      · rw [hmetrics, expected, hpending]
        exact h.published
      · rw [hpending]
        exact fun _ _ => UInt64.le_refl _
      · rw [hmetrics]
        exact (Grows.refl t).published
  | poll map fault =>
      have hdone (c : ProdCounter) : (t.expected nCpus).field c ≤
          (Telemetry.expected nCpus ⟨t.system, [], none⟩).field c :=
        aggregate_mono _ h.behind c
      change (t.poll nCpus map fault).Consistent cfg nCpus ∧ t.Grows (t.poll nCpus map fault)
      rcases t.poll_cases nCpus map fault with hpoll | hpoll | hpoll
      · rw [hpoll]
        exact ⟨h, .refl t⟩
      · rw [hpoll]
        exact ⟨⟨h.config, h.available, fun _ _ => UInt64.le_refl _,
            fun m hm c => UInt64.le_trans (h.published m hm c) (hdone c)⟩,
          h.behind, (Grows.refl t).published⟩
      · rw [hpoll]
        refine ⟨⟨h.config, h.available, fun _ _ => UInt64.le_refl _, ?_⟩, h.behind, ?_⟩
        · rintro _ ⟨rfl⟩
          exact hdone
        · intro m hm
          exact ⟨_, rfl, h.published m hm⟩
  | observe => exact ⟨h, .refl t⟩

theorem consistent_initial {s : System} (config : s.maps.config = some cfg)
    (available : ∀ cpu, (s.diags cpu).Available) : (initial s).Consistent cfg nCpus :=
  ⟨config, available, fun _ _ => UInt64.le_refl _, fun _ h => nomatch h⟩

/-- A run that starts with nothing copied: what is pending at its end has grown from the
counters at its start. -/
theorem consistent_run (pool : ∀ vmV6, ∃ extV4, selectV4FromPoolEbpf vmV6 cfg = some extV4)
    {t : Telemetry} (h : t.Consistent cfg nCpus) (es : List (TelemetryEvent ε)) :
    (run (step nCpus) t es).Consistent cfg nCpus ∧
      ∀ cpu c, t.pending cpu c ≤ (run (step nCpus) t es).pending cpu c := by
  induction es using List.reverseRecOn with
  | nil => exact ⟨h, fun _ _ => UInt64.le_refl _⟩
  | append_singleton es e ih =>
      obtain ⟨consistent, grown⟩ := ih
      obtain ⟨consistent', grows⟩ := consistent.step pool e
      rw [run_concat]
      exact ⟨consistent', fun cpu c => UInt64.le_trans (grown cpu c) (grows.pending cpu c)⟩

/-- A series has a value from now on that is not below the published one. -/
def FromNow (t : Telemetry) (sample : String × UInt64) : Prop :=
  ∀ m, t.metrics = some m → ∀ descriptor ∈ DESCRIPTORS, descriptor.name = sample.1 →
    descriptor.value m ≤ sample.2

theorem observed_cases {t : Telemetry} {e : TelemetryEvent ε} {sample : String × UInt64}
    (h : t.observed e = some sample) : (∀ nCpus, t.step nCpus e = t) ∧ ∃ m, t.metrics = some m ∧
      ∃ descriptor ∈ DESCRIPTORS, sample = (descriptor.name, descriptor.value m) := by
  cases e with
  | observe i =>
      obtain ⟨m, hm, hsample⟩ := Option.map_eq_some_iff.mp h
      exact ⟨fun _ => rfl, m, hm, _, List.getElem_mem i.isLt, hsample.symm⟩
  | traffic | copy | poll => exact nomatch h

theorem fromNow_observed {t : Telemetry} {e : TelemetryEvent ε} {sample : String × UInt64}
    (h : t.observed e = some sample) : t.FromNow sample := by
  obtain ⟨-, m, hm, descriptor, hdescriptor, rfl⟩ := observed_cases h
  rintro m' hm' descriptor' hdescriptor' hname
  obtain rfl := Option.some.inj (hm.symm.trans hm')
  rw [List.inj_on_of_nodup_map descriptors_nodup hdescriptor' hdescriptor hname]
  exact UInt64.le_refl _

theorem Grows.fromNow {t t' : Telemetry} (h : t.Grows t') {sample : String × UInt64}
    (later : t'.FromNow sample) : t.FromNow sample := by
  intro m hm descriptor hdescriptor hname
  obtain ⟨m', hm', hle⟩ := h.published m hm
  obtain ⟨c, hc⟩ := descriptor_field hdescriptor
  have hlater := later m' hm' descriptor hdescriptor hname
  rw [hc] at hlater ⊢
  exact UInt64.le_trans (hle c) hlater

end Runs
end Telemetry

open Telemetry

/-- Along every run of the dataplane and its exporter, no series of the exporter ever goes
down; and whatever is counted while a read copies, its snapshot lies between the totals at
its beginning and at its end. -/
theorem exported_series {ε : Type} (nCpus : Nat) (u : Nat64Config)
    (bridgeIfindex uplinkIfindex : UInt32) (valid : u.validate = .ok ()) (s : System)
    (config : s.maps.config = some (u.dataplaneConfig bridgeIfindex uplinkIfindex))
    (available : ∀ cpu, (s.diags cpu).Available) :
    (∀ es : List (TelemetryEvent ε),
      (outputs (step nCpus) observed (initial s) es).Pairwise fun earlier later =>
        earlier.1 = later.1 → earlier.2 ≤ later.2) ∧
    ∀ before during : List (TelemetryEvent ε),
      let t := run (step nCpus) (initial s) before
      let t' := run (step nCpus) t during
      t.copied = [] → prodCountersWords * nCpus ≤ t'.copied.length →
        ∃ m, (t'.poll nCpus (some true) (none : Option ε)).metrics = some m ∧
          ∀ c, (totals nCpus t.system).field c ≤ m.field c ∧
            m.field c ≤ (totals nCpus t'.system).field c := by
  have pool := dataplaneConfig_selects valid bridgeIfindex uplinkIfindex
  have init : (initial s).Consistent _ nCpus := consistent_initial config available
  constructor
  · refine outputs_pairwise (I := Consistent _ nCpus) (L := FromNow)
      (fun _ e h => (h.step pool e).1) (fun _ _ _ _ h => fromNow_observed h)
      (fun _ e _ h later => (h.step pool e).2.fromNow later) ?_ init
    rintro t e _ sample - hout later hname
    obtain ⟨hstep, m, hm, descriptor, hdescriptor, rfl⟩ := observed_cases hout
    rw [hstep] at later
    exact later m hm descriptor hdescriptor hname
  · intro before during t t' fresh complete
    obtain ⟨consistent, -⟩ := consistent_run pool init before
    obtain ⟨consistent', grows⟩ := consistent_run pool consistent during
    refine ⟨t'.expected nCpus, ?_, fun c => ⟨?_, aggregate_mono _ consistent'.behind c⟩⟩
    · have returns : ¬ (some true = some true ∧ (none : Option ε).isNone ∧
          t'.copied.length < prodCountersWords * nCpus) :=
        fun h => Nat.not_lt.mpr complete h.2.2
      rw [poll, if_neg returns, ← values_eq complete]
      rfl
    · have hstart : t.pending = prodCounters t.system := by
        unfold pending
        rw [fresh]
        rfl
      rw [totals, ← hstart]
      exact aggregate_mono _ grows c

/-- A read on one CPU that begins before two packets are counted. -/
def exampleRead : List (TelemetryEvent Empty) :=
  List.replicate 20 .copy ++ exampleExchange.map .traffic ++ List.replicate 21 .copy

theorem exported_series_read :
    ((outputs (step 1) observed (initial exampleSystem)
      (exampleRead ++ [.poll (some true) none, .observe ⟨0, by decide⟩, .copy,
        .observe ⟨40, by decide⟩])).Pairwise
        fun earlier later => earlier.1 = later.1 → earlier.2 ≤ later.2) ∧
    ∃ m, ((run (step 1) (initial exampleSystem) exampleRead).poll 1 (some true)
        (none : Option Empty)).metrics = some m ∧
      ∀ c, (totals 1 exampleSystem).field c ≤ m.field c ∧ m.field c ≤
        (totals 1 (run (step 1) (initial exampleSystem) exampleRead).system).field c :=
  have series := exported_series 1 exampleConfig 2 3 (by decide +kernel) exampleSystem rfl
    fun _ => ⟨rfl, rfl⟩
  ⟨series.1 _, series.2 [] exampleRead rfl (by decide +kernel)⟩

end Natto64.Userspace
