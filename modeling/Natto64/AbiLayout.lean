import Natto64.Headers
import Natto64.StructLayout

/-!
# Layout of the shared types

The `repr(C)` types of the program in memory. What userspace writes into a map is what the
classifiers read out of it, and the kernel, which compares keys octet by octet, tells keys
apart exactly as the program does.
-/
namespace Natto64
open Octets StructLayout

/-- The memory image of a `u64` on a little-endian machine, and back. -/
def neBytes64 (x : UInt64) : List UInt8 := leBytes 8 x.toNat
def ofNeBytes64 (bs : List UInt8) : UInt64 := UInt64.ofNat (leNat bs)

theorem ofNeBytes32_neBytes32 (x : UInt32) : ofNeBytes32 (neBytes32 x) = x := by
  apply UInt32.toNat_inj.mp
  rw [toNat_ofNeBytes32 (length_neBytes32 x), neBytes32, leNat_leBytes]
  exact Nat.mod_eq_of_lt x.toNat_lt

theorem ofNeBytes64_neBytes64 (x : UInt64) : ofNeBytes64 (neBytes64 x) = x := by
  apply UInt64.toNat_inj.mp
  have hmod : x.toNat % 256 ^ 8 = x.toNat := Nat.mod_eq_of_lt x.toNat_lt
  rw [ofNeBytes64, neBytes64, leNat_leBytes, hmod, UInt64.toNat_ofNat']
  exact Nat.mod_eq_of_lt x.toNat_lt

def u8 : Scalar UInt8 where
  size := 1
  pos := Nat.succ_pos 0
  put x := [x]
  get bs := bs.headD 0
  length_put _ := rfl
  get_put _ := rfl

def u16 : Scalar UInt16 where
  size := 2
  pos := Nat.succ_pos 1
  put := neBytes16
  get := ofNeBytes16
  length_put := length_neBytes16
  get_put := ofNeBytes16_neBytes16

def u32 : Scalar UInt32 where
  size := 4
  pos := Nat.succ_pos 3
  put := neBytes32
  get := ofNeBytes32
  length_put := length_neBytes32
  get_put := ofNeBytes32_neBytes32

def u64 : Scalar UInt64 where
  size := 8
  pos := Nat.succ_pos 7
  put := neBytes64
  get := ofNeBytes64
  length_put _ := length_leBytes _ _
  get_put := ofNeBytes64_neBytes64

@[simp] theorem u8_size : u8.size = 1 := rfl
@[simp] theorem u16_size : u16.size = 2 := rfl
@[simp] theorem u32_size : u32.size = 4 := rfl
@[simp] theorem u64_size : u64.size = 8 := rfl

def NatKey.layout : Layout NatKey where
  members k := [u32.member k.extV4, u16.member k.extPort, u8.member k.proto, u8.member 0]
  bytes := 8
  read bs := {
    extV4 := u32.read bs 0
    extPort := u16.read bs 4
    proto := u8.read bs 6 }
  aligned k := by simp [Aligned]
  size_eq k := by simp [size, extent, alignment, alignUp]
  read_eq := by
    intro k bs holds
    simp [Holds, alignUp] at holds
    obtain ⟨extV4, extPort, proto, -⟩ := holds
    rw [Scalar.read_eq extV4, Scalar.read_eq extPort, Scalar.read_eq proto]

def FwdNatKey.layout : Layout FwdNatKey where
  members k := [u8.array k.vmV6, u32.member k.remoteV4, u16.member k.vmPort,
    u16.member k.remotePort, u8.member k.proto, u8.array (List.Vector.replicate 3 0)]
  bytes := 28
  read bs := {
    vmV6 := u8.readArray 16 bs 0
    remoteV4 := u32.read bs 16
    vmPort := u16.read bs 20
    remotePort := u16.read bs 22
    proto := u8.read bs 24 }
  aligned k := by simp [Aligned]
  size_eq k := by simp [size, extent, alignment, alignUp]
  read_eq := by
    intro k bs holds
    simp [Holds, alignUp] at holds
    obtain ⟨vmV6, remoteV4, vmPort, remotePort, proto, -⟩ := holds
    rw [Scalar.readArray_eq vmV6, Scalar.read_eq remoteV4, Scalar.read_eq vmPort,
      Scalar.read_eq remotePort, Scalar.read_eq proto]

def NatVal.layout : Layout NatVal where
  members v := [u8.array v.vmV6, u16.member v.vmPort, u32.member v.remoteV4,
    u16.member v.remotePort, u16.member 0, u32.member v.generation, u64.member v.lastSeenNs]
  bytes := 40
  read bs := {
    vmV6 := u8.readArray 16 bs 0
    vmPort := u16.read bs 16
    remoteV4 := u32.read bs 20
    remotePort := u16.read bs 24
    generation := u32.read bs 28
    lastSeenNs := u64.read bs 32 }
  aligned v := by simp [Aligned]
  size_eq v := by simp [size, extent, alignment, alignUp]
  read_eq := by
    intro v bs holds
    simp [Holds, alignUp] at holds
    obtain ⟨vmV6, vmPort, remoteV4, remotePort, -, generation, lastSeenNs⟩ := holds
    rw [Scalar.readArray_eq vmV6, Scalar.read_eq vmPort, Scalar.read_eq remoteV4,
      Scalar.read_eq remotePort, Scalar.read_eq generation, Scalar.read_eq lastSeenNs]

def Nat64Config.layout : Layout Nat64Config where
  members c := [u8.array c.prefix96, u32.array c.v4Pool, u32.member c.v4PoolLen,
    u32.member c.bridgeIfindex, u32.member c.uplinkIfindex, u16.member c.portMin,
    u16.member c.portMax, u32.member c.sessionTimeoutSecs, u8.member c.v4Policy,
    u8.array (List.Vector.replicate 3 0)]
  bytes := 100
  read bs := {
    prefix96 := u8.readArray 12 bs 0
    v4Pool := u32.readArray 16 bs 12
    v4PoolLen := u32.read bs 76
    bridgeIfindex := u32.read bs 80
    uplinkIfindex := u32.read bs 84
    portMin := u16.read bs 88
    portMax := u16.read bs 90
    sessionTimeoutSecs := u32.read bs 92
    v4Policy := u8.read bs 96 }
  aligned c := by simp [Aligned]
  size_eq c := by simp [V4_POOL_MAX, size, extent, alignment, alignUp]
  read_eq := by
    intro c bs holds
    simp [V4_POOL_MAX, Holds, alignUp] at holds
    obtain ⟨prefix96, v4Pool, v4PoolLen, bridgeIfindex, uplinkIfindex, portMin, portMax,
      sessionTimeoutSecs, v4Policy, -⟩ := holds
    rw [Scalar.readArray_eq prefix96, Scalar.readArray_eq v4Pool, Scalar.read_eq v4PoolLen,
      Scalar.read_eq bridgeIfindex, Scalar.read_eq uplinkIfindex, Scalar.read_eq portMin,
      Scalar.read_eq portMax, Scalar.read_eq sessionTimeoutSecs, Scalar.read_eq v4Policy]

/-- An entry of the forward map: its octets, and when the kernel will fire the timer that
lies in them. -/
structure FwdNatOctets where
  octets : List UInt8
  armed : Option Nat

/-- `bpf_timer` is opaque to the program. -/
def TimedFwdNatVal.members (v : TimedFwdNatVal) (timer : List.Vector UInt8 16) : List Member :=
  [u32.member v.extV4, u16.member v.extPort, u16.member 0, u64.member v.lastSeenNs,
    u32.member v.generation, u32.member 0, u64.member v.observedLastSeenNs, ⟨8, timer.toList⟩]

def TimedFwdNatVal.read (e : FwdNatOctets) : TimedFwdNatVal where
  extV4 := u32.read e.octets 0
  extPort := u16.read e.octets 4
  lastSeenNs := u64.read e.octets 8
  generation := u32.read e.octets 16
  observedLastSeenNs := u64.read e.octets 24
  timer := e.armed

/-- The entry holds the value, whatever the kernel keeps in the timer. -/
def FwdNatOctets.Represents (e : FwdNatOctets) (v : TimedFwdNatVal) : Prop :=
  e.armed = v.timer ∧ ∃ timer, Image (v.members timer) e.octets

def TimedFwdNatVal.encode (v : TimedFwdNatVal) : FwdNatOctets where
  octets := image (v.members (List.Vector.replicate 16 0))
  armed := v.timer

theorem TimedFwdNatVal.aligned_members (v : TimedFwdNatVal) (timer : List.Vector UInt8 16) :
    Aligned (v.members timer) := by
  simp [members, Aligned]

namespace FwdNatOctets
variable {e : FwdNatOctets} {v : TimedFwdNatVal}

theorem represents_encode (v : TimedFwdNatVal) : v.encode.Represents v :=
  ⟨rfl, _, image_image (v.aligned_members _)⟩

theorem Represents.length (h : e.Represents v) : e.octets.length = 48 := by
  obtain ⟨-, timer, himage⟩ := h
  rw [himage.length]
  simp [TimedFwdNatVal.members, size, extent, alignment, alignUp]

theorem Represents.read (h : e.Represents v) : TimedFwdNatVal.read e = v := by
  obtain ⟨armed, timer, himage⟩ := h
  have holds := himage.holds
  simp [TimedFwdNatVal.members, Holds, alignUp] at holds
  obtain ⟨extV4, extPort, -, lastSeenNs, generation, -, observed, -⟩ := holds
  rw [TimedFwdNatVal.read, Scalar.read_eq extV4, Scalar.read_eq extPort,
    Scalar.read_eq lastSeenNs, Scalar.read_eq generation, Scalar.read_eq observed, armed]

theorem read_of_rel {a : Option FwdNatOctets} {b : Option TimedFwdNatVal}
    (h : Option.Rel Represents a b) : a.map TimedFwdNatVal.read = b := by
  cases h with
  | none => rfl
  | some h => exact congrArg some h.read

end FwdNatOctets

/-- `(*value).last_seen_ns = ns` on an entry of the return map. -/
theorem NatVal.represents_lastSeenNs {bs : List UInt8} {v : NatVal}
    (h : NatVal.layout.Represents bs v) (ns : UInt64) :
    NatVal.layout.Represents (overwrite bs 32 (neBytes64 ns)) { v with lastSeenNs := ns } :=
  Image.replace
    [u8.array v.vmV6, u16.member v.vmPort, u32.member v.remoteV4, u16.member v.remotePort,
      u16.member 0, u32.member v.generation] []
    (g := u64.member ns) (NatVal.layout.aligned v) rfl rfl (by simp [extent, alignUp]) h

namespace FwdNatOctets
variable {e : FwdNatOctets} {v : TimedFwdNatVal}

theorem Represents.lastSeenNs (h : e.Represents v) (ns : UInt64) :
    Represents { e with octets := overwrite e.octets 8 (neBytes64 ns) }
      { v with lastSeenNs := ns } := by
  obtain ⟨armed, timer, himage⟩ := h
  exact ⟨armed, timer, Image.replace
    [u32.member v.extV4, u16.member v.extPort, u16.member 0]
    [u32.member v.generation, u32.member 0, u64.member v.observedLastSeenNs, ⟨8, timer.toList⟩]
    (g := u64.member ns) (v.aligned_members timer) rfl rfl (by simp [extent, alignUp]) himage⟩

theorem Represents.observedLastSeenNs (h : e.Represents v) (ns : UInt64) :
    Represents { e with octets := overwrite e.octets 24 (neBytes64 ns) }
      { v with observedLastSeenNs := ns } := by
  obtain ⟨armed, timer, himage⟩ := h
  exact ⟨armed, timer, Image.replace
    [u32.member v.extV4, u16.member v.extPort, u16.member 0, u64.member v.lastSeenNs,
      u32.member v.generation, u32.member 0] [⟨8, timer.toList⟩]
    (g := u64.member ns) (v.aligned_members timer) rfl rfl (by simp [extent, alignUp]) himage⟩

/-- The kernel writes to the timer and to nothing else. -/
theorem Represents.timer (h : e.Represents v) (armed : Option Nat) (timer : List.Vector UInt8 16) :
    Represents ⟨overwrite e.octets 32 timer.toList, armed⟩ { v with timer := armed } := by
  obtain ⟨-, before, himage⟩ := h
  exact ⟨rfl, timer, Image.replace
    [u32.member v.extV4, u16.member v.extPort, u16.member 0, u64.member v.lastSeenNs,
      u32.member v.generation, u32.member 0, u64.member v.observedLastSeenNs] []
    (g := ⟨8, timer.toList⟩) (v.aligned_members before) rfl (by simp) (by simp [extent, alignUp])
    himage⟩

theorem Represents.unarmed (h : e.Represents v) :
    Represents { e with armed := none } { v with timer := none } := ⟨rfl, h.2⟩

theorem Represents.touched (h : e.Represents v) (timer : List.Vector UInt8 16) :
    Represents { e with octets := overwrite e.octets 32 timer.toList } v := by
  obtain ⟨octets, armed⟩ := e
  obtain rfl : armed = v.timer := h.1
  exact h.timer v.timer timer

end FwdNatOctets

theorem NatKey.packed (k : NatKey) : Packed (NatKey.layout.members k) := by
  simp [layout, Packed, size, extent, alignment, alignUp]

theorem FwdNatKey.packed (k : FwdNatKey) : Packed (FwdNatKey.layout.members k) := by
  simp [layout, Packed, size, extent, alignment, alignUp]

theorem Nat64Config.packed (c : Nat64Config) : Packed (Nat64Config.layout.members c) := by
  simp [V4_POOL_MAX, layout, Packed, size, extent, alignment, alignUp]

def Ipv4WireHeader.members (h : Ipv4WireHeader) : List Member :=
  [u16.member h.versionIhlDscpEcnBe, u16.member h.totalLenBe, u16.member h.identificationBe,
    u16.member h.flagsFragmentBe, u16.member h.ttlProtoBe, u16.member h.checksumBe,
    u32.member h.srcV4Be, u32.member h.dstV4Be]

def Ipv6WireHeader.members (h : Ipv6WireHeader) : List Member :=
  [u32.member h.versionTcFlowBe, u16.member h.payloadLenBe, u8.member h.nextHeader,
    u8.member h.hopLimit, u8.array h.srcV6, u8.array h.dstV6]

def Ipv4PseudoHeader.members (h : Ipv4PseudoHeader) : List Member :=
  [u32.member h.srcV4Be, u32.member h.dstV4Be, u16.member h.zeroProtoBe, u16.member h.l4LenBe]

def Ipv6PseudoHeader.members (h : Ipv6PseudoHeader) : List Member :=
  [u8.array h.srcV6, u8.array h.dstV6, u32.member h.l4LenBe, u32.member h.nextHeaderBe]

theorem Ipv4WireHeader.image_iff (h : Ipv4WireHeader) (bs : List UInt8) :
    Image h.members bs ↔ bs = h.bytes := by
  rw [image_iff_of_packed (by simp [members, Aligned])
    (by simp [members, Packed, size, extent, alignment, alignUp])]
  simp [members, bytes, Scalar.member, u16, u32]

theorem Ipv6WireHeader.image_iff (h : Ipv6WireHeader) (bs : List UInt8) :
    Image h.members bs ↔ bs = h.bytes := by
  rw [image_iff_of_packed (by simp [members, Aligned])
    (by simp [members, Packed, size, extent, alignment, alignUp])]
  simp [members, bytes, Scalar.member, Scalar.array, u8, u16, u32]

theorem Ipv4PseudoHeader.image_iff (h : Ipv4PseudoHeader) (bs : List UInt8) :
    Image h.members bs ↔ bs = h.bytes := by
  rw [image_iff_of_packed (by simp [members, Aligned])
    (by simp [members, Packed, size, extent, alignment, alignUp])]
  simp [members, bytes, Scalar.member, u16, u32]

theorem Ipv6PseudoHeader.image_iff (h : Ipv6PseudoHeader) (bs : List UInt8) :
    Image h.members bs ↔ bs = h.bytes := by
  rw [image_iff_of_packed (by simp [members, Aligned])
    (by simp [members, Packed, size, extent, alignment, alignUp])]
  simp [members, bytes, Scalar.member, Scalar.array, u8, u32]

/-- The gap before `remote_v4` is all that a value of the return map leaves open. -/
theorem NatVal.represents_iff (v : NatVal) (bs : List UInt8) :
    NatVal.layout.Represents bs v ↔ bs.length = 40 ∧
      ∀ i, i ≠ 18 → i ≠ 19 → bs[i]? = (NatVal.layout.encode v)[i]? := by
  have encoded := NatVal.layout.represents_encode v
  have encodedLength := encoded.length
  have holds := encoded.holds
  constructor
  · intro h
    have length := h.length
    have held := h.holds
    refine ⟨length, fun i gap gap' => ?_⟩
    simp [layout, Holds, alignUp] at held holds
    obtain ⟨vmV6, vmPort, remoteV4, remotePort, pad, generation, lastSeenNs⟩ := held
    obtain ⟨vmV6', vmPort', remoteV4', remotePort', pad', generation', lastSeenNs'⟩ := holds
    have part {off n : Nat} (same : slice bs off n = slice (NatVal.layout.encode v) off n)
        (hle : off ≤ i) (hlt : i < off + n) := slice_eq_slice_iff.mp same i hle hlt
    by_cases h16 : i < 16
    · exact part (vmV6.trans vmV6'.symm) (Nat.zero_le i) (by omega)
    by_cases h18 : i < 18
    · exact part (vmPort.trans vmPort'.symm) (by omega) (by omega)
    by_cases h24 : i < 24
    · exact part (remoteV4.trans remoteV4'.symm) (by omega) (by omega)
    by_cases h26 : i < 26
    · exact part (remotePort.trans remotePort'.symm) (by omega) (by omega)
    by_cases h28 : i < 28
    · exact part (pad.trans pad'.symm) (by omega) (by omega)
    by_cases h32 : i < 32
    · exact part (generation.trans generation'.symm) (by omega) (by omega)
    by_cases h40 : i < 40
    · exact part (lastSeenNs.trans lastSeenNs'.symm) (by omega) (by omega)
    have bytes : NatVal.layout.bytes = 40 := rfl
    rw [List.getElem?_eq_none (by omega), List.getElem?_eq_none (by omega)]
  · rintro ⟨length, same⟩
    have part {off n : Nat} (apart : off + n ≤ 18 ∨ 20 ≤ off) :
        slice bs off n = slice (NatVal.layout.encode v) off n :=
      slice_eq_slice_iff.mpr fun i _ _ => same i (by omega) (by omega)
    constructor
    · exact length.trans (NatVal.layout.size_eq v).symm
    · simp [layout, Holds, alignUp] at holds ⊢
      obtain ⟨vmV6, vmPort, remoteV4, remotePort, pad, generation, lastSeenNs⟩ := holds
      exact ⟨(part (by omega)).trans vmV6, (part (by omega)).trans vmPort,
        (part (by omega)).trans remoteV4, (part (by omega)).trans remotePort,
        (part (by omega)).trans pad, (part (by omega)).trans generation,
        (part (by omega)).trans lastSeenNs⟩

/-- The keys and the configuration are their octets; a value of the return map has two that
mean nothing; all of them, and the forward entries, are read back from memory unchanged. -/
theorem abi_images :
    (∀ (k : NatKey) bs, NatKey.layout.Represents bs k ↔ bs = NatKey.layout.encode k) ∧
    (∀ (k : FwdNatKey) bs, FwdNatKey.layout.Represents bs k ↔ bs = FwdNatKey.layout.encode k) ∧
    (∀ (c : Nat64Config) bs, Nat64Config.layout.Represents bs c ↔
      bs = Nat64Config.layout.encode c) ∧
    (∀ (v : NatVal) bs, NatVal.layout.Represents bs v ↔ bs.length = 40 ∧
      ∀ i, i ≠ 18 → i ≠ 19 → bs[i]? = (NatVal.layout.encode v)[i]?) ∧
    (∀ (v : NatVal) bs, NatVal.layout.Represents bs v → NatVal.layout.read bs = v) ∧
    (∀ (v : TimedFwdNatVal) e, FwdNatOctets.Represents e v →
      e.octets.length = 48 ∧ TimedFwdNatVal.read e = v) ∧
    (∀ k, NatKey.layout.read (NatKey.layout.encode k) = k) ∧
    (∀ k, FwdNatKey.layout.read (FwdNatKey.layout.encode k) = k) ∧
    (∀ c, Nat64Config.layout.read (Nat64Config.layout.encode c) = c) :=
  ⟨fun k _ => Layout.represents_iff k.packed, fun k _ => Layout.represents_iff k.packed,
    fun c _ => Layout.represents_iff c.packed, NatVal.represents_iff, fun _ _ h => h.read,
    fun _ _ h => ⟨h.length, h.read⟩, Layout.read_encode _, Layout.read_encode _,
    Layout.read_encode _⟩

end Natto64
