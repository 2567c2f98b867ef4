import Natto64.Tallies

/-!
# Metrics

The snapshot of the production counters that userspace reads: the counters of all CPUs,
summed field by field.
-/
namespace Natto64.Userspace

/-- The process-wide snapshot, zero by default. -/
@[ext]
structure Nat64Metrics where
  pktsTotal : UInt64 := 0
  pktsIpv6 : UInt64 := 0
  pktsIpv4 : UInt64 := 0
  pktsNat64Dst : UInt64 := 0
  pktsNat64Tcp : UInt64 := 0
  pktsNat64Udp : UInt64 := 0
  pktsIpv4Tcp : UInt64 := 0
  pktsIpv4Udp : UInt64 := 0
  nat64V6ToV4Ok : UInt64 := 0
  nat64V6ToV4UdpOk : UInt64 := 0
  nat64V6ToV4ErrWriteHdr : UInt64 := 0
  nat64V6ToV4ErrCsum : UInt64 := 0
  nat64V4ToV6Ok : UInt64 := 0
  nat64V4ToV6UdpOk : UInt64 := 0
  nat64V4ToV6ErrWriteHdr : UInt64 := 0
  nat64V4ToV6ErrCsum : UInt64 := 0
  nat64V4ToV6UdpMiss : UInt64 := 0
  nat64V4ToV6UdpTupleMismatch : UInt64 := 0
  natLookupHit : UInt64 := 0
  natLookupMiss : UInt64 := 0
  natLookupTupleMismatch : UInt64 := 0
  natHitRefreshOk : UInt64 := 0
  natHitRefreshErr : UInt64 := 0
  fwdNatLookupHit : UInt64 := 0
  fwdNatLookupMiss : UInt64 := 0
  fwdNatInsertOk : UInt64 := 0
  fwdNatInsertErr : UInt64 := 0
  fwdNatRefreshOk : UInt64 := 0
  fwdNatRefreshErr : UInt64 := 0
  portAllocOk : UInt64 := 0
  portAllocErr : UInt64 := 0
  portAllocExhausted : UInt64 := 0
  unsupportedIpv6ExtensionHeaders : UInt64 := 0
  unsupportedIpv6NonTcpUdp : UInt64 := 0
  unsupportedIpv4Fragments : UInt64 := 0
  unsupportedIpv4NonTcpUdp : UInt64 := 0
  unsupportedIpv4UdpZeroChecksum : UInt64 := 0
  fwdRedirectOk : UInt64 := 0
  fwdRedirectErr : UInt64 := 0
  revRedirectOk : UInt64 := 0
  revRedirectErr : UInt64 := 0
  deriving DecidableEq

/-- What one CPU adds to the snapshot. -/
def Nat64Metrics.addProdCounters (metrics : Nat64Metrics) (value : ProdCounters) :
    Nat64Metrics where
  pktsTotal := satAdd metrics.pktsTotal (value .pktsTotal)
  pktsIpv6 := satAdd metrics.pktsIpv6 (value .pktsIpv6)
  pktsIpv4 := satAdd metrics.pktsIpv4 (value .pktsIpv4)
  pktsNat64Dst := satAdd metrics.pktsNat64Dst (value .pktsNat64Dst)
  pktsNat64Tcp := satAdd metrics.pktsNat64Tcp (value .pktsNat64Tcp)
  pktsNat64Udp := satAdd metrics.pktsNat64Udp (value .pktsNat64Udp)
  pktsIpv4Tcp := satAdd metrics.pktsIpv4Tcp (value .pktsIpv4Tcp)
  pktsIpv4Udp := satAdd metrics.pktsIpv4Udp (value .pktsIpv4Udp)
  nat64V6ToV4Ok := satAdd metrics.nat64V6ToV4Ok (value .nat64V6ToV4Ok)
  nat64V6ToV4UdpOk := satAdd metrics.nat64V6ToV4UdpOk (value .nat64V6ToV4UdpOk)
  nat64V6ToV4ErrWriteHdr := satAdd metrics.nat64V6ToV4ErrWriteHdr (value .nat64V6ToV4ErrWriteHdr)
  nat64V6ToV4ErrCsum := satAdd metrics.nat64V6ToV4ErrCsum (value .nat64V6ToV4ErrCsum)
  nat64V4ToV6Ok := satAdd metrics.nat64V4ToV6Ok (value .nat64V4ToV6Ok)
  nat64V4ToV6UdpOk := satAdd metrics.nat64V4ToV6UdpOk (value .nat64V4ToV6UdpOk)
  nat64V4ToV6ErrWriteHdr := satAdd metrics.nat64V4ToV6ErrWriteHdr (value .nat64V4ToV6ErrWriteHdr)
  nat64V4ToV6ErrCsum := satAdd metrics.nat64V4ToV6ErrCsum (value .nat64V4ToV6ErrCsum)
  nat64V4ToV6UdpMiss := satAdd metrics.nat64V4ToV6UdpMiss (value .nat64V4ToV6UdpMiss)
  nat64V4ToV6UdpTupleMismatch :=
    satAdd metrics.nat64V4ToV6UdpTupleMismatch (value .nat64V4ToV6UdpTupleMismatch)
  natLookupHit := satAdd metrics.natLookupHit (value .natLookupHit)
  natLookupMiss := satAdd metrics.natLookupMiss (value .natLookupMiss)
  natLookupTupleMismatch := satAdd metrics.natLookupTupleMismatch (value .natLookupTupleMismatch)
  natHitRefreshOk := satAdd metrics.natHitRefreshOk (value .natHitRefreshOk)
  natHitRefreshErr := satAdd metrics.natHitRefreshErr (value .natHitRefreshErr)
  fwdNatLookupHit := satAdd metrics.fwdNatLookupHit (value .fwdNatLookupHit)
  fwdNatLookupMiss := satAdd metrics.fwdNatLookupMiss (value .fwdNatLookupMiss)
  fwdNatInsertOk := satAdd metrics.fwdNatInsertOk (value .fwdNatInsertOk)
  fwdNatInsertErr := satAdd metrics.fwdNatInsertErr (value .fwdNatInsertErr)
  fwdNatRefreshOk := satAdd metrics.fwdNatRefreshOk (value .fwdNatRefreshOk)
  fwdNatRefreshErr := satAdd metrics.fwdNatRefreshErr (value .fwdNatRefreshErr)
  portAllocOk := satAdd metrics.portAllocOk (value .portAllocOk)
  portAllocErr := satAdd metrics.portAllocErr (value .portAllocErr)
  portAllocExhausted := satAdd metrics.portAllocExhausted (value .portAllocExhausted)
  unsupportedIpv6ExtensionHeaders :=
    satAdd metrics.unsupportedIpv6ExtensionHeaders (value .unsupportedIpv6ExtensionHeaders)
  unsupportedIpv6NonTcpUdp :=
    satAdd metrics.unsupportedIpv6NonTcpUdp (value .unsupportedIpv6NonTcpUdp)
  unsupportedIpv4Fragments :=
    satAdd metrics.unsupportedIpv4Fragments (value .unsupportedIpv4Fragments)
  unsupportedIpv4NonTcpUdp :=
    satAdd metrics.unsupportedIpv4NonTcpUdp (value .unsupportedIpv4NonTcpUdp)
  unsupportedIpv4UdpZeroChecksum :=
    satAdd metrics.unsupportedIpv4UdpZeroChecksum (value .unsupportedIpv4UdpZeroChecksum)
  fwdRedirectOk := satAdd metrics.fwdRedirectOk (value .fwdRedirectOk)
  fwdRedirectErr := satAdd metrics.fwdRedirectErr (value .fwdRedirectErr)
  revRedirectOk := satAdd metrics.revRedirectOk (value .revRedirectOk)
  revRedirectErr := satAdd metrics.revRedirectErr (value .revRedirectErr)

def aggregateProdCounters (values : List ProdCounters) : Nat64Metrics :=
  values.foldl Nat64Metrics.addProdCounters {}

/-- The field of the snapshot that has the name of the counter. -/
def Nat64Metrics.field (m : Nat64Metrics) : ProdCounter → UInt64
  | .pktsTotal => m.pktsTotal
  | .pktsIpv6 => m.pktsIpv6
  | .pktsIpv4 => m.pktsIpv4
  | .pktsNat64Dst => m.pktsNat64Dst
  | .pktsNat64Tcp => m.pktsNat64Tcp
  | .pktsNat64Udp => m.pktsNat64Udp
  | .pktsIpv4Tcp => m.pktsIpv4Tcp
  | .pktsIpv4Udp => m.pktsIpv4Udp
  | .nat64V6ToV4Ok => m.nat64V6ToV4Ok
  | .nat64V6ToV4UdpOk => m.nat64V6ToV4UdpOk
  | .nat64V6ToV4ErrWriteHdr => m.nat64V6ToV4ErrWriteHdr
  | .nat64V6ToV4ErrCsum => m.nat64V6ToV4ErrCsum
  | .nat64V4ToV6Ok => m.nat64V4ToV6Ok
  | .nat64V4ToV6UdpOk => m.nat64V4ToV6UdpOk
  | .nat64V4ToV6ErrWriteHdr => m.nat64V4ToV6ErrWriteHdr
  | .nat64V4ToV6ErrCsum => m.nat64V4ToV6ErrCsum
  | .nat64V4ToV6UdpMiss => m.nat64V4ToV6UdpMiss
  | .nat64V4ToV6UdpTupleMismatch => m.nat64V4ToV6UdpTupleMismatch
  | .natLookupHit => m.natLookupHit
  | .natLookupMiss => m.natLookupMiss
  | .natLookupTupleMismatch => m.natLookupTupleMismatch
  | .natHitRefreshOk => m.natHitRefreshOk
  | .natHitRefreshErr => m.natHitRefreshErr
  | .fwdNatLookupHit => m.fwdNatLookupHit
  | .fwdNatLookupMiss => m.fwdNatLookupMiss
  | .fwdNatInsertOk => m.fwdNatInsertOk
  | .fwdNatInsertErr => m.fwdNatInsertErr
  | .fwdNatRefreshOk => m.fwdNatRefreshOk
  | .fwdNatRefreshErr => m.fwdNatRefreshErr
  | .portAllocOk => m.portAllocOk
  | .portAllocErr => m.portAllocErr
  | .portAllocExhausted => m.portAllocExhausted
  | .unsupportedIpv6ExtensionHeaders => m.unsupportedIpv6ExtensionHeaders
  | .unsupportedIpv6NonTcpUdp => m.unsupportedIpv6NonTcpUdp
  | .unsupportedIpv4Fragments => m.unsupportedIpv4Fragments
  | .unsupportedIpv4NonTcpUdp => m.unsupportedIpv4NonTcpUdp
  | .unsupportedIpv4UdpZeroChecksum => m.unsupportedIpv4UdpZeroChecksum
  | .fwdRedirectOk => m.fwdRedirectOk
  | .fwdRedirectErr => m.fwdRedirectErr
  | .revRedirectOk => m.revRedirectOk
  | .revRedirectErr => m.revRedirectErr

/-- A snapshot is its fields. -/
theorem Nat64Metrics.ext_field {a b : Nat64Metrics} (h : ∀ c, a.field c = b.field c) : a = b :=
  Nat64Metrics.ext
    (h .pktsTotal) (h .pktsIpv6) (h .pktsIpv4) (h .pktsNat64Dst) (h .pktsNat64Tcp)
    (h .pktsNat64Udp) (h .pktsIpv4Tcp) (h .pktsIpv4Udp) (h .nat64V6ToV4Ok) (h .nat64V6ToV4UdpOk)
    (h .nat64V6ToV4ErrWriteHdr) (h .nat64V6ToV4ErrCsum) (h .nat64V4ToV6Ok) (h .nat64V4ToV6UdpOk)
    (h .nat64V4ToV6ErrWriteHdr) (h .nat64V4ToV6ErrCsum) (h .nat64V4ToV6UdpMiss)
    (h .nat64V4ToV6UdpTupleMismatch) (h .natLookupHit) (h .natLookupMiss)
    (h .natLookupTupleMismatch) (h .natHitRefreshOk) (h .natHitRefreshErr) (h .fwdNatLookupHit)
    (h .fwdNatLookupMiss) (h .fwdNatInsertOk) (h .fwdNatInsertErr) (h .fwdNatRefreshOk)
    (h .fwdNatRefreshErr) (h .portAllocOk) (h .portAllocErr) (h .portAllocExhausted)
    (h .unsupportedIpv6ExtensionHeaders) (h .unsupportedIpv6NonTcpUdp)
    (h .unsupportedIpv4Fragments) (h .unsupportedIpv4NonTcpUdp) (h .unsupportedIpv4UdpZeroChecksum)
    (h .fwdRedirectOk) (h .fwdRedirectErr) (h .revRedirectOk) (h .revRedirectErr)

@[simp] theorem field_default (c : ProdCounter) : ({} : Nat64Metrics).field c = 0 := by
  cases c <;> rfl

/-- No line of the loop mixes two counters. -/
@[simp] theorem field_addProdCounters (metrics : Nat64Metrics) (value : ProdCounters)
    (c : ProdCounter) :
    (metrics.addProdCounters value).field c = satAdd (metrics.field c) (value c) := by
  cases c <;> rfl

/-- Saturating additions, one after the other, saturate the whole sum. -/
theorem toNat_foldl_satAdd (start : UInt64) (xs : List UInt64) :
    (xs.foldl satAdd start).toNat =
      min (start.toNat + (xs.map UInt64.toNat).sum) (2 ^ 64 - 1) := by
  induction xs generalizing start with
  | nil =>
      have hstart := start.toNat_lt
      rw [List.foldl_nil, List.map_nil, List.sum_nil]
      omega
  | cons x xs ih =>
      rw [List.foldl_cons, ih, toNat_satAdd, List.map_cons, List.sum_cons]
      omega

/-- Each field is aggregated on its own. -/
theorem field_foldl (metrics : Nat64Metrics) (values : List ProdCounters) (c : ProdCounter) :
    (values.foldl Nat64Metrics.addProdCounters metrics).field c =
      (values.map fun value => value c).foldl satAdd (metrics.field c) := by
  induction values generalizing metrics with
  | nil => rfl
  | cons value values ih =>
      rw [List.foldl_cons, ih, field_addProdCounters, List.map_cons, List.foldl_cons]

theorem toNat_field_aggregate (values : List ProdCounters) (c : ProdCounter) :
    ((aggregateProdCounters values).field c).toNat =
      min (2 ^ 64 - 1) (values.map fun value => (value c).toNat).sum := by
  have hzero : (0 : UInt64).toNat = 0 := rfl
  rw [aggregateProdCounters, field_foldl, toNat_foldl_satAdd, field_default, hzero, Nat.zero_add,
    List.map_map, min_comm]
  rfl

theorem aggregate_perm {values values' : List ProdCounters} (h : values.Perm values') :
    aggregateProdCounters values = aggregateProdCounters values' := by
  apply Nat64Metrics.ext_field
  intro c
  have hsum := (h.map fun value => (value c).toNat).sum_eq
  rw [← UInt64.toNat_inj, toNat_field_aggregate, toNat_field_aggregate, hsum]

theorem aggregate_append (values values' : List ProdCounters) (c : ProdCounter) :
    (aggregateProdCounters (values ++ values')).field c =
      satAdd ((aggregateProdCounters values).field c)
        ((aggregateProdCounters values').field c) := by
  rw [← UInt64.toNat_inj, toNat_satAdd, toNat_field_aggregate, toNat_field_aggregate,
    toNat_field_aggregate, List.map_append, List.sum_append]
  omega

/-- The aggregation is the sum of every field, saturated once, in whatever order the CPUs
come and however they are grouped. -/
theorem aggregate_prod_counters_exact :
    (∀ (values : List ProdCounters) (c : ProdCounter),
      ((aggregateProdCounters values).field c).toNat =
        min (2 ^ 64 - 1) (values.map fun value => (value c).toNat).sum) ∧
    (∀ values values' : List ProdCounters, values.Perm values' →
      aggregateProdCounters values = aggregateProdCounters values') ∧
    (∀ (values values' : List ProdCounters) (c : ProdCounter),
      (aggregateProdCounters (values ++ values')).field c =
        satAdd ((aggregateProdCounters values).field c)
          ((aggregateProdCounters values').field c)) :=
  ⟨toNat_field_aggregate, fun _ _ => aggregate_perm, aggregate_append⟩

/-- Counters that differ in every field. -/
def exampleCounters (base : UInt64) : ProdCounters := fun c => base + UInt64.ofNat c.ctorIdx

theorem aggregate_of_two_cpus :
    (aggregateProdCounters [exampleCounters 1, exampleCounters 100]).revRedirectErr.toNat = 181 ∧
      aggregateProdCounters [exampleCounters 1, exampleCounters 100] =
        aggregateProdCounters [exampleCounters 100, exampleCounters 1] :=
  ⟨aggregate_prod_counters_exact.1 _ .revRedirectErr,
    aggregate_prod_counters_exact.2.1 _ _ (.swap ..)⟩

end Natto64.Userspace
