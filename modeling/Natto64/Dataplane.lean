import Natto64.EventRun
import Natto64.ReverseRules
import Natto64.Userspace

/-!
# The dataplane as a system

The maps and per-CPU state of an attached dataplane, and what one packet, timer
callback or eviction does to them. Every event brings its own kernel answers.
-/
namespace Natto64
open EventRun Octets

/-- What lives between invocations. -/
structure System where
  maps : Maps
  cpus : Nat → CpuMaps
  diags : Nat → Diag

/-- Empty maps, zeroed cursors and rings. -/
def System.initial (cfg : Nat64Config) : System where
  maps := { config := some cfg, fwdNat := fun _ => none, nat := fun _ => none }
  cpus := fun _ => { portCursor := some 0, portCooldown := some PortCooldownRing.default }
  diags := fun _ => Diag.zeroed

inductive Event where
  | forward (cpu : Nat) (skb : List UInt8) (k : Kernel)
  | reverse (cpu : Nat) (skb : List UInt8) (k : Kernel)
  | timer (key : FwdNatKey) (k : Kernel)
  | evictFwdNat (key : FwdNatKey)
  | evictNat (key : NatKey)

namespace System

/-- The state in which an invocation on a packet starts. -/
def machine (s : System) (cpu : Nat) (skb : List UInt8) : Machine :=
  { skb, maps := s.maps, cpu := s.cpus cpu, log := [] }

@[simp] theorem machine_skb (s : System) (cpu : Nat) (skb : List UInt8) :
    (s.machine cpu skb).skb = skb := rfl

@[simp] theorem machine_maps (s : System) (cpu : Nat) (skb : List UInt8) :
    (s.machine cpu skb).maps = s.maps := rfl

/-- A whole packet: the action and the state at its end. -/
def forward (s : System) (cpu : Nat) (skb : List UInt8) (k : Kernel) : TcAction × Machine :=
  k.exec nat64Forward (s.machine cpu skb)

def reverse (s : System) (cpu : Nat) (skb : List UInt8) (k : Kernel) : TcAction × Machine :=
  k.exec nat64Reverse (s.machine cpu skb)

/-- The timer of an entry has fired: it is no longer armed. -/
def unarmed (s : System) (key : FwdNatKey) : Maps :=
  s.maps.setFwdNat key ((s.maps.fwdNat key).map fun v => { v with timer := none })

/-- The state in which the callback starts; it uses neither packet nor allocator. -/
def timerMachine (s : System) (key : FwdNatKey) : Machine :=
  { skb := [], maps := s.unarmed key, cpu := ⟨none, none⟩, log := [] }

/-- A whole timer callback. -/
def timer (s : System) (key : FwdNatKey) (k : Kernel) : Machine :=
  (k.exec (sessionTimerCallback key) (s.timerMachine key)).2

/-- A packet leaves its mark on the maps and on its own CPU. -/
def commit (s : System) (cpu : Nat) (m : Machine) (d : Diag) : System where
  maps := m.maps
  cpus := Function.update s.cpus cpu m.cpu
  diags := Function.update s.diags cpu d

def step (s : System) : Event → System
  | .forward cpu skb k => s.commit cpu (s.forward cpu skb k).2
      (k.diagnose nat64Forward (s.machine cpu skb) (s.diags cpu))
  | .reverse cpu skb k => s.commit cpu (s.reverse cpu skb k).2
      (k.diagnose nat64Reverse (s.machine cpu skb) (s.diags cpu))
  | .timer key k => { s with maps := (s.timer key k).maps }
  | .evictFwdNat key => { s with maps := s.maps.setFwdNat key none }
  | .evictNat key => { s with maps := s.maps.setNat key none }

/-- The helper calls an event makes, newest first. -/
def calls (s : System) : Event → Calls
  | .forward cpu skb k => (s.forward cpu skb k).2.log
  | .reverse cpu skb k => (s.reverse cpu skb k).2.log
  | .timer key k => (s.timer key k).log
  | .evictFwdNat _ | .evictNat _ => []

end System

/-- The event is an eviction by an LRU map. -/
def Event.evicts : Event → Prop
  | .evictFwdNat _ | .evictNat _ => True
  | _ => False

/-- The state after a run from empty maps. -/
def dataplane (cfg : Nat64Config) (es : List Event) : System :=
  run System.step (System.initial cfg) es

theorem dataplane_concat (cfg : Nat64Config) (es : List Event) (e : Event) :
    dataplane cfg (es ++ [e]) = (dataplane cfg es).step e := run_concat ..

/-- The configuration of the README example. -/
def exampleConfig : Userspace.Nat64Config where
  prefix96 := NAT64_WKPF_PREFIX
  v4Pool := [0xCB00710A]
  portMin := DEFAULT_PORT_MIN
  portMax := DEFAULT_PORT_MAX
  sessionTimeout := some ⟨300, 0, by decide⟩

/-- An IPv6 frame with the given transport segment. -/
def frame6 (proto : UInt8) (src dst : Ipv6Octets) (segment : List UInt8) : List UInt8 :=
  List.replicate 12 0 ++ beBytes16 ETH_P_IPV6 ++ [0x60, 0, 0, 0] ++
    beBytes16 (UInt16.ofNat segment.length) ++ [proto, 64] ++ src.toList ++ dst.toList ++ segment

/-- An IPv4 frame with the given header options and transport segment. -/
def frame4 (proto : UInt8) (src dst : UInt32) (options segment : List UInt8) : List UInt8 :=
  List.replicate 12 0 ++ beBytes16 ETH_P_IP ++ [0x45 + UInt8.ofNat (options.length / 4), 0] ++
    beBytes16 (UInt16.ofNat (20 + options.length + segment.length)) ++
    [0, 0, 0, 0, 64, proto, 0, 0] ++
    beBytes32 src ++ beBytes32 dst ++ options ++ segment

/-- A transport segment of the given length, zero after the ports. -/
def segment (sport dport : UInt16) (length : Nat) : List UInt8 :=
  beBytes16 sport ++ beBytes16 dport ++ List.replicate (length - 4) 0

def exampleClient : Ipv6Octets := ⟨[0xfd, 0, 0, 0, 0, 0, 0, 0, 0, 0, 0, 0, 0, 0, 0, 1], rfl⟩

/-- `198.51.100.1` and its address under the prefix. -/
def exampleServer : UInt32 := 0xC6336401
def exampleServerV6 : Ipv6Octets := ⟨NAT64_WKPF_PREFIX.toList ++ beBytes32 exampleServer, rfl⟩

def exampleTcp6 (sport : UInt16) (length : Nat) : List UInt8 :=
  frame6 IPPROTO_TCP exampleClient exampleServerV6 (segment sport 80 length)

/-- What the server answers to the external tuple with the given port. -/
def exampleTcp4 (dport : UInt16) (options : List UInt8) : List UInt8 :=
  frame4 IPPROTO_TCP exampleServer 0xCB00710A options (segment 80 dport 20)

/-- A UDP datagram without payload. -/
def datagram (sport dport csum : UInt16) : List UInt8 :=
  beBytes16 sport ++ beBytes16 dport ++ beBytes16 8 ++ beBytes16 csum

def exampleUdp6 (sport : UInt16) : List UInt8 :=
  frame6 IPPROTO_UDP exampleClient exampleServerV6 (datagram sport 53 0x1234)

def exampleUdp4 (dport csum : UInt16) : List UInt8 :=
  frame4 IPPROTO_UDP exampleServer 0xCB00710A [] (datagram 53 dport csum)

/-- A request of the example client on CPU 0 and the answer on CPU 1. -/
def exampleExchange : List Event :=
  [.forward 0 (exampleTcp6 4000 20) (.ideal 1000 7),
    .reverse 1 (exampleTcp4 20001 []) (.ideal 2000 8)]

def exampleDataplane : Nat64Config := exampleConfig.dataplaneConfig 2 3

def exampleSystem : System := System.initial (exampleConfig.dataplaneConfig 2 3)

end Natto64
