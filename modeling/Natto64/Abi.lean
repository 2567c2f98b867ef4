import Mathlib.Data.Vector.Basic
import Natto64.Octets

/-!
# Types shared with userspace

The map keys, map values and configuration of `natto64-abi`, and its packet
helpers. Reserved padding, zero in every value the program builds, is not modelled.
-/
namespace Natto64
open Octets

/-- Addresses and pools have sixteen places, the first of them numbered zero. -/
instance neZeroSixteen : NeZero (16 : Nat) := ⟨by decide⟩

abbrev Ipv6Octets := List.Vector UInt8 16

abbrev V4_POOL_MAX : Nat := 16
abbrev COOLDOWN_SIZE : Nat := 64
def V4_SELECT_POLICY_HASH_VM_V6 : UInt8 := 0

/-- Runtime configuration shared between userspace and the dataplane. -/
structure Nat64Config where
  prefix96 : List.Vector UInt8 12
  v4Pool : List.Vector UInt32 V4_POOL_MAX
  v4PoolLen : UInt32
  bridgeIfindex : UInt32
  uplinkIfindex : UInt32
  portMin : UInt16
  portMax : UInt16
  sessionTimeoutSecs : UInt32
  v4Policy : UInt8
  deriving DecidableEq

/-- Per-CPU ring of recently allocated external ports. -/
structure PortCooldownRing where
  idx : UInt32
  ports : List.Vector UInt16 COOLDOWN_SIZE
  deriving DecidableEq

def PortCooldownRing.default : PortCooldownRing := ⟨0, List.Vector.replicate COOLDOWN_SIZE 0⟩

/-- Reverse-lookup key of a translated flow. -/
structure NatKey where
  extV4 : UInt32
  extPort : UInt16
  proto : UInt8
  deriving DecidableEq

/-- Reverse-lookup state of a translated flow. -/
structure NatVal where
  vmV6 : Ipv6Octets
  vmPort : UInt16
  remoteV4 : UInt32
  remotePort : UInt16
  generation : UInt32
  lastSeenNs : UInt64
  deriving DecidableEq

/-- Forward-flow key, the transport five-tuple. -/
structure FwdNatKey where
  vmV6 : Ipv6Octets
  remoteV4 : UInt32
  vmPort : UInt16
  remotePort : UInt16
  proto : UInt8
  deriving DecidableEq

def NatKey.newForward (extV4Be : UInt32) (extPortHost : UInt16) (proto : UInt8) : NatKey where
  extV4 := extV4Be
  extPort := extPortHost
  proto := proto

def NatVal.newForwardWithGeneration (vmV6 : Ipv6Octets) (vmPortHost : UInt16)
    (remoteV4Be : UInt32) (remotePortHost : UInt16) (generation : UInt32)
    (lastSeenNs : UInt64) : NatVal where
  vmV6 := vmV6
  vmPort := vmPortHost
  remoteV4 := remoteV4Be
  remotePort := remotePortHost
  generation := generation
  lastSeenNs := lastSeenNs

/-- Octets 12 to 15 of a NAT64 destination. -/
def nat64EmbeddedV4Bytes (dst : Ipv6Octets) : List UInt8 :=
  [dst.get 12, dst.get 13, dst.get 14, dst.get 15]

def nat64EmbeddedV4Be (dst : Ipv6Octets) : UInt32 := ofBeBytes32 (nat64EmbeddedV4Bytes dst)

/-- FNV-1a over the client address, modulo the length of the pool. -/
def poolIndex (vmV6 : Ipv6Octets) (cfg : Nat64Config) : Nat :=
  let hash : UInt32 :=
    vmV6.toList.foldl (fun hash byte => (hash ^^^ byte.toUInt32) * 0x01000193) 0x811c9dc5
  (hash % cfg.v4PoolLen).toNat

theorem poolIndex_lt (vmV6 : Ipv6Octets) {cfg : Nat64Config}
    (h : ¬ (cfg.v4PoolLen = 0 ∨ V4_POOL_MAX < cfg.v4PoolLen.toNat)) :
    poolIndex vmV6 cfg < V4_POOL_MAX := by
  obtain ⟨hpos, hmax⟩ := not_or.mp h
  rw [poolIndex, UInt32.toNat_mod]
  refine lt_of_lt_of_le (Nat.mod_lt _ (Nat.pos_of_ne_zero fun h0 => hpos ?_)) (not_lt.mp hmax)
  exact UInt32.toNat_inj.mp h0

/-- Selects an external address deterministically for an originating IPv6 address. -/
def selectV4FromPool (vmV6 : Ipv6Octets) (cfg : Nat64Config) : Option UInt32 :=
  if h : cfg.v4PoolLen = 0 ∨ V4_POOL_MAX < cfg.v4PoolLen.toNat then none
  else some (cfg.v4Pool.get ⟨poolIndex vmV6 cfg, poolIndex_lt vmV6 h⟩)

/-- Builds a reverse-lookup key from a translated destination tuple. -/
def natKey (extV4 : UInt32) (extPort : UInt16) (proto : UInt8) : NatKey :=
  NatKey.newForward extV4 extPort proto

def natLookupKeyFromIpv4 (dstV4 : UInt32) (dstPort : UInt16) (proto : UInt8) : NatKey :=
  natKey dstV4 dstPort proto

/-- Whether an IPv4 source tuple is the remote tuple the entry recorded. -/
def natTupleMatches (natVal : NatVal) (ipv4Src : UInt32) (tcpSport : UInt16) : Bool :=
  natVal.remoteV4 == ipv4Src && natVal.remotePort == tcpSport

/-- Builds the 12-byte IPv4 pseudo-header used by TCP and UDP checksums. -/
def buildIpv4PseudoHeaderBytes (srcV4Be dstV4Be : UInt32) (l4Len : UInt16) (proto : UInt8) :
    List UInt8 :=
  let pseudo := List.replicate 12 0
  let pseudo := overwrite pseudo 0 (beBytes32 srcV4Be)
  let pseudo := overwrite pseudo 4 (beBytes32 dstV4Be)
  let pseudo := overwrite pseudo 9 [proto]
  overwrite pseudo 10 (beBytes16 l4Len)

theorem natKey_inj {a a' : UInt32} {p p' : UInt16} {q q' : UInt8} :
    natKey a p q = natKey a' p' q' ↔ a = a' ∧ p = p' ∧ q = q' := by
  simp only [natKey, NatKey.newForward, NatKey.mk.injEq]

theorem natTupleMatches_iff {v : NatVal} {src : UInt32} {sport : UInt16} :
    natTupleMatches v src sport = true ↔ v.remoteV4 = src ∧ v.remotePort = sport := by
  simp only [natTupleMatches, Bool.and_eq_true, beq_iff_eq]

theorem nat64EmbeddedV4Bytes_eq (dst : Ipv6Octets) :
    nat64EmbeddedV4Bytes dst = slice dst.toList 12 4 := by
  obtain ⟨l, hl⟩ := dst
  match l, hl with
  | [_, _, _, _, _, _, _, _, _, _, _, _, _, _, _, _], _ => rfl

end Natto64
