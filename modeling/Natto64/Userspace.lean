import Natto64.Abi
import Natto64.Diagnostics

/-!
# The userspace configuration

The policy a user builds, its validation and the record written to the `CONFIG` map.
-/
namespace Natto64.Userspace

/-- `std::time::Duration`. -/
structure Duration where
  secs : UInt64
  subsecNanos : UInt32
  nanos_lt : subsecNanos.toNat < 1000000000
  deriving DecidableEq

def Duration.isZero (d : Duration) : Bool := d.secs == 0 && d.subsecNanos == 0

/-- User-facing translation policy. -/
structure Nat64Config where
  prefix96 : List.Vector UInt8 12
  v4Pool : List UInt32
  portMin : UInt16
  portMax : UInt16
  sessionTimeout : Option Duration
  deriving DecidableEq

/-- The errors of `validate`. -/
inductive Error where
  | emptyV4Pool
  | v4PoolTooLarge (actual maximum : Nat)
  | invalidPortRange (portMin portMax : UInt16)
  | invalidSessionTimeout
  deriving DecidableEq

def Nat64Config.validate (c : Nat64Config) : Except Error Unit :=
  if c.v4Pool.isEmpty then .error .emptyV4Pool
  else if V4_POOL_MAX < c.v4Pool.length then .error (.v4PoolTooLarge c.v4Pool.length V4_POOL_MAX)
  else if c.portMin = 0 ∨ c.portMax < c.portMin then
    .error (.invalidPortRange c.portMin c.portMax)
  else if c.sessionTimeout.any Duration.isZero then .error .invalidSessionTimeout
  else .ok ()

/-- A check that rejects is passed when its condition fails. -/
theorem check_ok_iff {b : Prop} [Decidable b] {e : Error} {rest : Except Error Unit} :
    (if b then .error e else rest) = .ok () ↔ ¬ b ∧ rest = .ok () := by
  by_cases h : b
  · rw [if_pos h]
    constructor
    · intro h'
      cases h'
    · intro h'
      exact absurd h h'.1
  · rw [if_neg h]
    exact ⟨fun h' => ⟨h, h'⟩, fun h' => h'.2⟩

theorem Nat64Config.validate_ok_iff {c : Nat64Config} :
    c.validate = .ok () ↔ 0 < c.v4Pool.length ∧ c.v4Pool.length ≤ V4_POOL_MAX ∧
      (c.portMin ≠ 0 ∧ c.portMin ≤ c.portMax) ∧ c.sessionTimeout.any Duration.isZero = false := by
  rw [validate, check_ok_iff, check_ok_iff, check_ok_iff, check_ok_iff, List.isEmpty_iff,
    ← List.ne_nil_iff_length_pos, Nat.not_lt, not_or, UInt16.not_lt, Bool.not_eq_true,
    and_iff_left rfl]

/-- The whole seconds of the timeout, rounded up and capped; zero disables expiry. -/
def Nat64Config.sessionTimeoutSecs (c : Nat64Config) : UInt32 :=
  ((c.sessionTimeout.map fun timeout =>
    let roundedUp := satAdd timeout.secs (if timeout.subsecNanos ≠ 0 then 1 else 0)
    (min roundedUp 4294967295).toUInt32)).getD 0

/-- The pool slots: the addresses of the user, the rest zero. -/
def Nat64Config.poolSlots (c : Nat64Config) : List.Vector UInt32 V4_POOL_MAX :=
  ⟨(c.v4Pool ++ List.replicate V4_POOL_MAX 0).take V4_POOL_MAX, by
    rw [List.length_take, List.length_append, List.length_replicate]
    omega⟩

def Nat64Config.dataplaneConfig (c : Nat64Config) (bridgeIfindex uplinkIfindex : UInt32) :
    Natto64.Nat64Config where
  prefix96 := c.prefix96
  v4Pool := c.poolSlots
  v4PoolLen := UInt32.ofNat c.v4Pool.length
  bridgeIfindex := bridgeIfindex
  uplinkIfindex := uplinkIfindex
  portMin := c.portMin
  portMax := c.portMax
  sessionTimeoutSecs := c.sessionTimeoutSecs
  v4Policy := V4_SELECT_POLICY_HASH_VM_V6

end Natto64.Userspace
