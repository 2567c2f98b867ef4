import Natto64.Expiry
import Natto64.Tallies

/-!
# The enforced timeout

The timeout the dataplane enforces against the duration the user configured: rounded up
to whole seconds, and capped at the largest number of them the record can hold.
-/
namespace Natto64

namespace Userspace

/-- The length of a duration in nanoseconds. -/
def Duration.nanos (d : Duration) : Nat := d.secs.toNat * 1000000000 + d.subsecNanos.toNat

/-- `u32::MAX` seconds in nanoseconds. -/
def MAX_TIMEOUT_NS : Nat := 4294967295 * 1000000000

theorem Duration.nanos_eq_zero {d : Duration} : d.nanos = 0 ↔ d.isZero = true := by
  unfold nanos isZero
  rw [Bool.and_eq_true, beq_iff_eq, beq_iff_eq, ← UInt64.toNat_inj, ← UInt32.toNat_inj]
  change _ ↔ d.secs.toNat = 0 ∧ d.subsecNanos.toNat = 0
  omega

/-- The seconds of a duration, a part of one counted in full. -/
theorem Duration.toNat_roundedUp (d : Duration) :
    (satAdd d.secs (if d.subsecNanos ≠ 0 then 1 else 0)).toNat =
      min ((d.nanos + 999999999) / 1000000000) (2 ^ 64 - 1) := by
  have hnanos := d.nanos_lt
  have hsecs := d.secs.toNat_lt
  rw [toNat_satAdd]
  unfold nanos
  by_cases h : d.subsecNanos = 0
  · have hzero : d.subsecNanos.toNat = 0 := by
      rw [h]
      rfl
    rw [if_neg (not_not.mpr h), hzero]
    change min (d.secs.toNat + 0) _ = _
    omega
  · have hpos : d.subsecNanos.toNat ≠ 0 := fun h' => h (UInt32.toNat_inj.mp h')
    rw [if_pos h]
    change min (d.secs.toNat + 1) _ = _
    omega

theorem toNat_min_toUInt32 (a : UInt64) :
    (min a 4294967295).toUInt32.toNat = min a.toNat 4294967295 := by
  have hmax : (4294967295 : UInt64).toNat = 4294967295 := rfl
  have hmin : min a 4294967295 = if a ≤ 4294967295 then a else 4294967295 := rfl
  rw [UInt64.toNat_toUInt32, hmin]
  split
  next hle =>
    rw [UInt64.le_iff_toNat_le, hmax] at hle
    omega
  next hlt =>
    rw [UInt64.le_iff_toNat_le, hmax] at hlt
    omega

variable {c : Nat64Config}

theorem Nat64Config.toNat_sessionTimeoutSecs {timeout : Duration}
    (h : c.sessionTimeout = some timeout) :
    c.sessionTimeoutSecs.toNat = min ((timeout.nanos + 999999999) / 1000000000) 4294967295 := by
  rw [sessionTimeoutSecs, h, Option.map_some, Option.getD_some, toNat_min_toUInt32,
    timeout.toNat_roundedUp]
  omega

theorem Nat64Config.sessionTimeoutSecs_none (h : c.sessionTimeout = none) :
    c.sessionTimeoutSecs = 0 := by
  rw [sessionTimeoutSecs, h]
  rfl

/-- An accepted timeout is not zero. -/
theorem Nat64Config.nanos_pos (accepted : c.validate = .ok ()) {timeout : Duration}
    (h : c.sessionTimeout = some timeout) : 0 < timeout.nanos := by
  obtain ⟨-, -, -, nonzero⟩ := validate_ok_iff.mp accepted
  rw [h, Option.any_some] at nonzero
  refine Nat.pos_of_ne_zero fun hzero => ?_
  rw [Duration.nanos_eq_zero.mp hzero] at nonzero
  cases nonzero

end Userspace

open Userspace

section
variable {c : Userspace.Nat64Config} (bridgeIfindex uplinkIfindex : UInt32)

/-- The timeout the dataplane enforces for a duration. -/
theorem toNat_enforced {timeout : Duration} (h : c.sessionTimeout = some timeout) :
    (sessionTimeoutNs (c.dataplaneConfig bridgeIfindex uplinkIfindex)).toNat =
      min ((timeout.nanos + 999999999) / 1000000000) 4294967295 * 1000000000 := by
  rw [toNat_sessionTimeoutNs, ← Nat64Config.toNat_sessionTimeoutSecs h]
  rfl

theorem enforced_eq_zero_iff (accepted : c.validate = .ok ()) :
    sessionTimeoutNs (c.dataplaneConfig bridgeIfindex uplinkIfindex) = 0 ↔
      c.sessionTimeout = none := by
  rw [← UInt64.toNat_inj]
  cases h : c.sessionTimeout with
  | none =>
      have hsecs : (c.dataplaneConfig bridgeIfindex uplinkIfindex).sessionTimeoutSecs = 0 :=
        Nat64Config.sessionTimeoutSecs_none h
      rw [toNat_sessionTimeoutNs, hsecs]
      exact ⟨fun _ => rfl, fun _ => rfl⟩
  | some timeout =>
      have hpos := Nat64Config.nanos_pos accepted h
      rw [toNat_enforced bridgeIfindex uplinkIfindex h]
      change min ((timeout.nanos + 999999999) / 1000000000) 4294967295 * 1000000000 = 0 ↔ _
      constructor
      · intro hzero
        omega
      · intro hnone
        cases hnone

theorem enforced_covers {timeout : Duration} (h : c.sessionTimeout = some timeout)
    (small : timeout.nanos ≤ MAX_TIMEOUT_NS) :
    timeout.nanos ≤ (sessionTimeoutNs (c.dataplaneConfig bridgeIfindex uplinkIfindex)).toNat ∧
      (sessionTimeoutNs (c.dataplaneConfig bridgeIfindex uplinkIfindex)).toNat <
        timeout.nanos + 1000000000 := by
  rw [toNat_enforced bridgeIfindex uplinkIfindex h]
  unfold MAX_TIMEOUT_NS at small
  omega

theorem enforced_capped {timeout : Duration} (h : c.sessionTimeout = some timeout)
    (large : MAX_TIMEOUT_NS < timeout.nanos) :
    (sessionTimeoutNs (c.dataplaneConfig bridgeIfindex uplinkIfindex)).toNat = MAX_TIMEOUT_NS := by
  rw [toNat_enforced bridgeIfindex uplinkIfindex h]
  unfold MAX_TIMEOUT_NS at large ⊢
  omega

theorem enforced_mono {c' : Userspace.Nat64Config} {timeout timeout' : Duration}
    (h : c.sessionTimeout = some timeout) (h' : c'.sessionTimeout = some timeout')
    (hle : timeout.nanos ≤ timeout'.nanos) (bridgeIfindex' uplinkIfindex' : UInt32) :
    sessionTimeoutNs (c.dataplaneConfig bridgeIfindex uplinkIfindex) ≤
      sessionTimeoutNs (c'.dataplaneConfig bridgeIfindex' uplinkIfindex') := by
  rw [UInt64.le_iff_toNat_le, toNat_enforced bridgeIfindex uplinkIfindex h,
    toNat_enforced bridgeIfindex' uplinkIfindex' h']
  omega

end

/-- The product in `session_timeout_ns` fits its type. -/
theorem timeout_product_lt (cfg : Nat64Config) :
    cfg.sessionTimeoutSecs.toUInt64.toNat * 1000000000 < 2 ^ 64 := by
  have hsecs := cfg.sessionTimeoutSecs.toNat_lt
  rw [UInt32.toNat_toUInt64]
  omega

/-- The dataplane never enforces less than an accepted configuration asks for, up to the
cap, and less than a second more. -/
theorem session_timeout_never_undercut {c : Userspace.Nat64Config}
    (accepted : c.validate = .ok ()) (bridgeIfindex uplinkIfindex : UInt32) :
    (sessionTimeoutNs (c.dataplaneConfig bridgeIfindex uplinkIfindex) = 0 ↔
      c.sessionTimeout = none) ∧
    (∀ timeout, c.sessionTimeout = some timeout →
      if timeout.nanos ≤ MAX_TIMEOUT_NS then
        timeout.nanos ≤ (sessionTimeoutNs (c.dataplaneConfig bridgeIfindex uplinkIfindex)).toNat ∧
        (sessionTimeoutNs (c.dataplaneConfig bridgeIfindex uplinkIfindex)).toNat <
          timeout.nanos + 1000000000
      else
        (sessionTimeoutNs (c.dataplaneConfig bridgeIfindex uplinkIfindex)).toNat =
          MAX_TIMEOUT_NS) ∧
    (∀ c' : Userspace.Nat64Config, c'.validate = .ok () →
      ∀ timeout timeout', c.sessionTimeout = some timeout → c'.sessionTimeout = some timeout' →
      timeout.nanos ≤ timeout'.nanos → ∀ bridgeIfindex' uplinkIfindex',
      sessionTimeoutNs (c.dataplaneConfig bridgeIfindex uplinkIfindex) ≤
        sessionTimeoutNs (c'.dataplaneConfig bridgeIfindex' uplinkIfindex')) ∧
    (∀ cfg : Nat64Config, cfg.sessionTimeoutSecs.toUInt64.toNat * 1000000000 < 2 ^ 64 ∧
      (sessionTimeoutNs cfg).toNat = cfg.sessionTimeoutSecs.toUInt64.toNat * 1000000000) := by
  refine ⟨enforced_eq_zero_iff _ _ accepted, ?_, ?_, ?_⟩
  · intro timeout h
    split
    next small => exact enforced_covers _ _ h small
    next large => exact enforced_capped _ _ h (Nat.lt_of_not_le large)
  · intro c' _ timeout timeout' h h' hle
    exact enforced_mono _ _ h h' hle
  · intro cfg
    refine ⟨timeout_product_lt cfg, ?_⟩
    rw [toNat_sessionTimeoutNs, UInt32.toNat_toUInt64]

/-- A timeout of 1.001 seconds. -/
def exampleMillis : Userspace.Duration := ⟨1, 1000000, by decide⟩

def exampleMillisConfig : Userspace.Nat64Config :=
  { exampleConfig with sessionTimeout := some exampleMillis }

theorem session_timeout_of_millis :
    exampleMillis.nanos ≤ (sessionTimeoutNs (exampleMillisConfig.dataplaneConfig 7 9)).toNat ∧
      (sessionTimeoutNs (exampleMillisConfig.dataplaneConfig 7 9)).toNat <
        exampleMillis.nanos + 1000000000 := by
  have accepted : exampleMillisConfig.validate = .ok () := rfl
  obtain ⟨-, bounded, -⟩ := session_timeout_never_undercut accepted 7 9
  have small : exampleMillis.nanos ≤ MAX_TIMEOUT_NS := by decide +kernel
  have enforced := bounded exampleMillis rfl
  rw [if_pos small] at enforced
  exact enforced

example : (exampleMillisConfig.dataplaneConfig 7 9).sessionTimeoutSecs = 2 := by decide

end Natto64
