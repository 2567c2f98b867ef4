import Natto64.Helpers

/-!
# External addresses and ports

Pool selection, the cooldown ring and the port allocator. The unrolled matches of the
source, written for the verifier, are kept.
-/
namespace Natto64

/-- FNV-1a over the octets of the client address. -/
def fnvHash (vmV6 : Ipv6Octets) : UInt32 :=
  vmV6.toList.foldl (fun hash byte => (hash ^^^ byte.toUInt32) * 0x01000193) 0x811c9dc5

def selectV4FromPoolEbpf (vmV6 : Ipv6Octets) (cfg : Nat64Config) : Option UInt32 :=
  let len := cfg.v4PoolLen
  if len = 0 ∨ V4_POOL_MAX < len.toNat then none
  else
    let idx := fnvHash vmV6 % len
    match idx.toNat with
    | 0 => some (cfg.v4Pool.get 0)
    | 1 => some (cfg.v4Pool.get 1)
    | 2 => some (cfg.v4Pool.get 2)
    | 3 => some (cfg.v4Pool.get 3)
    | 4 => some (cfg.v4Pool.get 4)
    | 5 => some (cfg.v4Pool.get 5)
    | 6 => some (cfg.v4Pool.get 6)
    | 7 => some (cfg.v4Pool.get 7)
    | 8 => some (cfg.v4Pool.get 8)
    | 9 => some (cfg.v4Pool.get 9)
    | 10 => some (cfg.v4Pool.get 10)
    | 11 => some (cfg.v4Pool.get 11)
    | 12 => some (cfg.v4Pool.get 12)
    | 13 => some (cfg.v4Pool.get 13)
    | 14 => some (cfg.v4Pool.get 14)
    | 15 => some (cfg.v4Pool.get 15)
    | _ => none

def v4InPool (v4 : UInt32) (cfg : Nat64Config) : Bool :=
  let len := cfg.v4PoolLen
  if len = 0 ∨ V4_POOL_MAX < len.toNat then false
  else
    let p0 := cfg.v4Pool.get 0
    let p1 := cfg.v4Pool.get 1
    let p2 := cfg.v4Pool.get 2
    let p3 := cfg.v4Pool.get 3
    let p4 := cfg.v4Pool.get 4
    let p5 := cfg.v4Pool.get 5
    let p6 := cfg.v4Pool.get 6
    let p7 := cfg.v4Pool.get 7
    let p8 := cfg.v4Pool.get 8
    let p9 := cfg.v4Pool.get 9
    let p10 := cfg.v4Pool.get 10
    let p11 := cfg.v4Pool.get 11
    let p12 := cfg.v4Pool.get 12
    let p13 := cfg.v4Pool.get 13
    let p14 := cfg.v4Pool.get 14
    let p15 := cfg.v4Pool.get 15
    match len.toNat with
    | 1 => v4 == p0
    | 2 => v4 == p0 || v4 == p1
    | 3 => v4 == p0 || v4 == p1 || v4 == p2
    | 4 => v4 == p0 || v4 == p1 || v4 == p2 || v4 == p3
    | 5 => v4 == p0 || v4 == p1 || v4 == p2 || v4 == p3 || v4 == p4
    | 6 => v4 == p0 || v4 == p1 || v4 == p2 || v4 == p3 || v4 == p4 || v4 == p5
    | 7 => v4 == p0 || v4 == p1 || v4 == p2 || v4 == p3 || v4 == p4 || v4 == p5 || v4 == p6
    | 8 => v4 == p0 || v4 == p1 || v4 == p2 || v4 == p3 || v4 == p4 || v4 == p5 || v4 == p6 ||
        v4 == p7
    | 9 => v4 == p0 || v4 == p1 || v4 == p2 || v4 == p3 || v4 == p4 || v4 == p5 || v4 == p6 ||
        v4 == p7 || v4 == p8
    | 10 => v4 == p0 || v4 == p1 || v4 == p2 || v4 == p3 || v4 == p4 || v4 == p5 || v4 == p6 ||
        v4 == p7 || v4 == p8 || v4 == p9
    | 11 => v4 == p0 || v4 == p1 || v4 == p2 || v4 == p3 || v4 == p4 || v4 == p5 || v4 == p6 ||
        v4 == p7 || v4 == p8 || v4 == p9 || v4 == p10
    | 12 => v4 == p0 || v4 == p1 || v4 == p2 || v4 == p3 || v4 == p4 || v4 == p5 || v4 == p6 ||
        v4 == p7 || v4 == p8 || v4 == p9 || v4 == p10 || v4 == p11
    | 13 => v4 == p0 || v4 == p1 || v4 == p2 || v4 == p3 || v4 == p4 || v4 == p5 || v4 == p6 ||
        v4 == p7 || v4 == p8 || v4 == p9 || v4 == p10 || v4 == p11 || v4 == p12
    | 14 => v4 == p0 || v4 == p1 || v4 == p2 || v4 == p3 || v4 == p4 || v4 == p5 || v4 == p6 ||
        v4 == p7 || v4 == p8 || v4 == p9 || v4 == p10 || v4 == p11 || v4 == p12 || v4 == p13
    | 15 => v4 == p0 || v4 == p1 || v4 == p2 || v4 == p3 || v4 == p4 || v4 == p5 || v4 == p6 ||
        v4 == p7 || v4 == p8 || v4 == p9 || v4 == p10 || v4 == p11 || v4 == p12 || v4 == p13 ||
        v4 == p14
    | 16 => v4 == p0 || v4 == p1 || v4 == p2 || v4 == p3 || v4 == p4 || v4 == p5 || v4 == p6 ||
        v4 == p7 || v4 == p8 || v4 == p9 || v4 == p10 || v4 == p11 || v4 == p12 || v4 == p13 ||
        v4 == p14 || v4 == p15
    | _ => false

def cooldownContains (ring : PortCooldownRing) (port : UInt16) : Bool :=
  ring.ports.get 0 == port || ring.ports.get 1 == port || ring.ports.get 2 == port ||
    ring.ports.get 3 == port || ring.ports.get 4 == port || ring.ports.get 5 == port ||
    ring.ports.get 6 == port || ring.ports.get 7 == port || ring.ports.get 8 == port ||
    ring.ports.get 9 == port || ring.ports.get 10 == port || ring.ports.get 11 == port ||
    ring.ports.get 12 == port || ring.ports.get 13 == port || ring.ports.get 14 == port ||
    ring.ports.get 15 == port || ring.ports.get 16 == port || ring.ports.get 17 == port ||
    ring.ports.get 18 == port || ring.ports.get 19 == port || ring.ports.get 20 == port ||
    ring.ports.get 21 == port || ring.ports.get 22 == port || ring.ports.get 23 == port ||
    ring.ports.get 24 == port || ring.ports.get 25 == port || ring.ports.get 26 == port ||
    ring.ports.get 27 == port || ring.ports.get 28 == port || ring.ports.get 29 == port ||
    ring.ports.get 30 == port || ring.ports.get 31 == port || ring.ports.get 32 == port ||
    ring.ports.get 33 == port || ring.ports.get 34 == port || ring.ports.get 35 == port ||
    ring.ports.get 36 == port || ring.ports.get 37 == port || ring.ports.get 38 == port ||
    ring.ports.get 39 == port || ring.ports.get 40 == port || ring.ports.get 41 == port ||
    ring.ports.get 42 == port || ring.ports.get 43 == port || ring.ports.get 44 == port ||
    ring.ports.get 45 == port || ring.ports.get 46 == port || ring.ports.get 47 == port ||
    ring.ports.get 48 == port || ring.ports.get 49 == port || ring.ports.get 50 == port ||
    ring.ports.get 51 == port || ring.ports.get 52 == port || ring.ports.get 53 == port ||
    ring.ports.get 54 == port || ring.ports.get 55 == port || ring.ports.get 56 == port ||
    ring.ports.get 57 == port || ring.ports.get 58 == port || ring.ports.get 59 == port ||
    ring.ports.get 60 == port || ring.ports.get 61 == port || ring.ports.get 62 == port ||
    ring.ports.get 63 == port

def cooldownPush (ring : PortCooldownRing) (port : UInt16) : PortCooldownRing :=
  let slot := ring.idx.toNat % COOLDOWN_SIZE
  let written : Option (List.Vector UInt16 COOLDOWN_SIZE) := match slot with
    | 0 => some (ring.ports.set 0 port)
    | 1 => some (ring.ports.set 1 port)
    | 2 => some (ring.ports.set 2 port)
    | 3 => some (ring.ports.set 3 port)
    | 4 => some (ring.ports.set 4 port)
    | 5 => some (ring.ports.set 5 port)
    | 6 => some (ring.ports.set 6 port)
    | 7 => some (ring.ports.set 7 port)
    | 8 => some (ring.ports.set 8 port)
    | 9 => some (ring.ports.set 9 port)
    | 10 => some (ring.ports.set 10 port)
    | 11 => some (ring.ports.set 11 port)
    | 12 => some (ring.ports.set 12 port)
    | 13 => some (ring.ports.set 13 port)
    | 14 => some (ring.ports.set 14 port)
    | 15 => some (ring.ports.set 15 port)
    | 16 => some (ring.ports.set 16 port)
    | 17 => some (ring.ports.set 17 port)
    | 18 => some (ring.ports.set 18 port)
    | 19 => some (ring.ports.set 19 port)
    | 20 => some (ring.ports.set 20 port)
    | 21 => some (ring.ports.set 21 port)
    | 22 => some (ring.ports.set 22 port)
    | 23 => some (ring.ports.set 23 port)
    | 24 => some (ring.ports.set 24 port)
    | 25 => some (ring.ports.set 25 port)
    | 26 => some (ring.ports.set 26 port)
    | 27 => some (ring.ports.set 27 port)
    | 28 => some (ring.ports.set 28 port)
    | 29 => some (ring.ports.set 29 port)
    | 30 => some (ring.ports.set 30 port)
    | 31 => some (ring.ports.set 31 port)
    | 32 => some (ring.ports.set 32 port)
    | 33 => some (ring.ports.set 33 port)
    | 34 => some (ring.ports.set 34 port)
    | 35 => some (ring.ports.set 35 port)
    | 36 => some (ring.ports.set 36 port)
    | 37 => some (ring.ports.set 37 port)
    | 38 => some (ring.ports.set 38 port)
    | 39 => some (ring.ports.set 39 port)
    | 40 => some (ring.ports.set 40 port)
    | 41 => some (ring.ports.set 41 port)
    | 42 => some (ring.ports.set 42 port)
    | 43 => some (ring.ports.set 43 port)
    | 44 => some (ring.ports.set 44 port)
    | 45 => some (ring.ports.set 45 port)
    | 46 => some (ring.ports.set 46 port)
    | 47 => some (ring.ports.set 47 port)
    | 48 => some (ring.ports.set 48 port)
    | 49 => some (ring.ports.set 49 port)
    | 50 => some (ring.ports.set 50 port)
    | 51 => some (ring.ports.set 51 port)
    | 52 => some (ring.ports.set 52 port)
    | 53 => some (ring.ports.set 53 port)
    | 54 => some (ring.ports.set 54 port)
    | 55 => some (ring.ports.set 55 port)
    | 56 => some (ring.ports.set 56 port)
    | 57 => some (ring.ports.set 57 port)
    | 58 => some (ring.ports.set 58 port)
    | 59 => some (ring.ports.set 59 port)
    | 60 => some (ring.ports.set 60 port)
    | 61 => some (ring.ports.set 61 port)
    | 62 => some (ring.ports.set 62 port)
    | 63 => some (ring.ports.set 63 port)
    | _ => none
  match written with
  | some ports => ⟨ring.idx + 1, ports⟩
  | none => ring

/-- The probe loop of `alloc_port`, with the iterations left and the loop variables. -/
def allocPortLoop (cfg : Nat64Config) (extV4 : UInt32) (proto : UInt8) (span : UInt32) :
    Nat → (cursor : UInt32) → (hadCooldownSkip : Bool) → Ebpf (Option UInt16)
  | 0, cursor, _ => do
      setPortCursor cursor
      withCounters [.portAllocExhausted] []
      return none
  | n + 1, cursor, hadCooldownSkip => do
      withCounters [] [.portAllocProbe]
      let cursor := cursor + 1
      let candidate := cfg.portMin.toUInt32 + cursor % span
      setPortCursor cursor
      -- `u16::try_from(candidate)`
      if 65535 < candidate.toNat then
        allocPortLoop cfg extV4 proto span n cursor hadCooldownSkip
      else
      let port := candidate.toUInt16
      if (← portCooldown).any (cooldownContains · port) then
        withCounters [] [.cooldownSkip]
        allocPortLoop cfg extV4 proto span n cursor true
      else if (← natLookup (natKey extV4 port proto)).isSome then
        withCounters [] [.portAllocCollide]
        allocPortLoop cfg extV4 proto span n cursor hadCooldownSkip
      else
      if hadCooldownSkip then
        withCounters [] [.cooldownProbeMore]
      match (← portCooldown) with
      | some ring =>
          setPortCooldown (cooldownPush ring port)
          withCounters [] [.cooldownPushOk]
      | none => withCounters [] [.cooldownPushErr]
      return some port

def allocPort (cfg : Nat64Config) (extV4 : UInt32) (proto : UInt8) : Ebpf (Option UInt16) := do
  if cfg.portMin ≥ cfg.portMax then
    return none
  let span := (cfg.portMax - cfg.portMin).toUInt32 + 1
  let some cursor ← portCursor | return none
  allocPortLoop cfg extV4 proto span 16 cursor false

end Natto64
