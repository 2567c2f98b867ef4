import Natto64.AllOrNothing
import Natto64.PairedPooling
import Natto64.PoolSelection
import Natto64.UnsolicitedTraffic

/-!
# The builder

The entry point of the userspace crate: settings over defaults, and one call that loads,
configures and attaches. When it succeeds, the settings govern every packet the dataplane
translates from then on.
-/
namespace Natto64.Userspace
open Actions EventRun

/-- The errors of the userspace crate. -/
inductive BuildError (ε : Type) where
  | readEbpfObject (path : String) (source : ε)
  | loadEbpfObject (source : ε)
  | nat64 (error : Nat64Error ε)
  deriving DecidableEq

/-- How the system answers to the loading of an object. -/
structure LoadAnswers (ε : Type) where
  read : Except ε (List UInt8)
  load : List UInt8 → Except ε Object

variable {ε : Type}

/-- `Nat64::load`, from a path. -/
def Nat64.loadPath (path : String) (x : LoadAnswers ε) : Except (BuildError ε) Nat64 := do
  let object ← x.read.mapError (.readEbpfObject path)
  let ebpf ← (x.load object).mapError .loadEbpfObject
  return Nat64.load ebpf

/-- `64:ff9b::/96`. -/
def RFC_6052_WELL_KNOWN_PREFIX : List.Vector UInt8 12 :=
  ⟨[0x00, 0x64, 0xff, 0x9b] ++ List.replicate 8 0, rfl⟩

def DEFAULT_PORT_MIN : UInt16 := 20000
def DEFAULT_PORT_MAX : UInt16 := 60000

structure Nat64Builder where
  ebpfObject : String
  prefix96 : List.Vector UInt8 12
  v4Pool : List UInt32
  portMin : UInt16
  portMax : UInt16
  sessionTimeout : Option Duration

def builder (ebpfObject : String) : Nat64Builder where
  ebpfObject := ebpfObject
  prefix96 := RFC_6052_WELL_KNOWN_PREFIX
  v4Pool := []
  portMin := DEFAULT_PORT_MIN
  portMax := DEFAULT_PORT_MAX
  sessionTimeout := none

namespace Nat64Builder

def withPrefix96 (self : Nat64Builder) (prefix96 : List.Vector UInt8 12) : Nat64Builder :=
  { self with prefix96 }

def withV4Pool (self : Nat64Builder) (v4Pool : List UInt32) : Nat64Builder := { self with v4Pool }

def withPortMin (self : Nat64Builder) (portMin : UInt16) : Nat64Builder := { self with portMin }

def withPortMax (self : Nat64Builder) (portMax : UInt16) : Nat64Builder := { self with portMax }

def withSessionTimeouts (self : Nat64Builder) (sessionTimeout : Option Duration) : Nat64Builder :=
  { self with sessionTimeout }

def config (self : Nat64Builder) : Nat64Config where
  prefix96 := self.prefix96
  v4Pool := self.v4Pool
  portMin := self.portMin
  portMax := self.portMax
  sessionTimeout := self.sessionTimeout

end Nat64Builder

/-- A call on a dataplane that is dropped when the call fails. -/
def Nat64.orDrop (n : Nat64) (call : Action Nat64 (Nat64Error ε) Unit) :
    Except (BuildError ε) Nat64 :=
  match exec call n with
  | (.ok (), after) => .ok after
  | (.error e, _) => .error (.nat64 e)

def Nat64Builder.build (self : Nat64Builder) (x : LoadAnswers ε) :
    Except (BuildError ε) Nat64 := do
  let nat64 ← Nat64.loadPath self.ebpfObject x
  nat64.orDrop (configure self.config)

def Nat64Builder.attach (self : Nat64Builder) (bridge uplink : String) (x : LoadAnswers ε)
    (y : Answers ε) : Except (BuildError ε) Nat64 := do
  let nat64 ← self.build x
  nat64.orDrop (Userspace.attach bridge uplink y)

theorem except_bind_ok_iff {δ α β : Type} {r : Except δ α} {f : α → Except δ β} {b : β} :
    (r >>= f) = .ok b ↔ ∃ a, r = .ok a ∧ f a = .ok b := by
  cases r with
  | error e => exact iff_of_false nofun (by rintro ⟨a, h, -⟩; cases h)
  | ok a => exact ⟨fun h => ⟨a, rfl, h⟩, by rintro ⟨a', h, hf⟩; cases h; exact hf⟩

theorem mapError_ok_iff {δ δ' α : Type} {r : Except δ α} {f : δ → δ'} {a : α} :
    r.mapError f = .ok a ↔ r = .ok a := by
  cases r with
  | error e => exact iff_of_false nofun nofun
  | ok b => simp [Except.mapError]

theorem loadPath_ok_iff {path : String} {x : LoadAnswers ε} {n : Nat64} :
    Nat64.loadPath path x = .ok n ↔
      ∃ bytes object, x.read = .ok bytes ∧ x.load bytes = .ok object ∧ Nat64.load object = n := by
  rw [Nat64.loadPath, except_bind_ok_iff]
  simp only [mapError_ok_iff, except_bind_ok_iff, pure, Except.pure, Except.ok.injEq]
  constructor
  · rintro ⟨bytes, read, object, load, same⟩
    exact ⟨bytes, object, read, load, same⟩
  · rintro ⟨bytes, object, read, load, same⟩
    exact ⟨bytes, read, object, load, same⟩

theorem orDrop_ok_iff {n n' : Nat64} {call : Action Nat64 (Nat64Error ε) Unit} :
    n.orDrop call = .ok n' ↔ exec call n = (.ok (), n') := by
  rw [Nat64.orDrop]
  rcases exec call n with ⟨e | _, after⟩
  · exact iff_of_false nofun nofun
  · simp

theorem configure_ok_iff {config : Nat64Config} {object : Object} {n : Nat64} :
    exec (configure config : Action Nat64 (Nat64Error ε) Unit) (Nat64.load object) = (.ok (), n) ↔
      config.validate = .ok () ∧ { Nat64.load object with config := some config } = n := by
  rw [configure, exec_get_bind,
    if_neg (show ¬ (Nat64.load object).attached = true from Bool.false_ne_true)]
  cases valid : config.validate with
  | error e =>
      rw [Except.mapError, exec_ofExcept_error rfl]
      simp
  | ok =>
      rw [Except.mapError, exec_ofExcept_ok rfl, exec_modify]
      simp

/-- A dataplane whose policy and classifiers are in the kernel. -/
def Nat64.running (object : Object) (config : Nat64Config) (map : BpfMap) (bridge uplink : String)
    (b u : UInt32) : Nat64 :=
  { (((Nat64.load object).setConfigEntry map (config.dataplaneConfig b u)).setProgram
      FORWARD_PROGRAM_NAME ⟨true, true, some bridge⟩).setProgram
      REVERSE_PROGRAM_NAME ⟨true, true, some uplink⟩ with
    config := some config
    attached := true }

theorem running_programs (object : Object) (config : Nat64Config) (map : BpfMap)
    (bridge uplink : String) (b u : UInt32) :
    (Nat64.running object config map bridge uplink b u).ebpf.programs =
      Function.update (Function.update object.programs FORWARD_PROGRAM_NAME
        (some ⟨true, true, some bridge⟩)) REVERSE_PROGRAM_NAME (some ⟨true, true, some uplink⟩) :=
  rfl

/-- What an attach of a freshly configured dataplane needs of its surroundings. -/
structure Attachable (object : Object) (bridge uplink : String) (y : Answers ε) (map : BpfMap)
    (b u : UInt32) : Prop where
  bridgeIndex : interfaceIndex bridge y.bridgeIfindex = .ok b
  uplinkIndex : interfaceIndex uplink y.uplinkIfindex = .ok u
  mapped : object.maps CONFIG_MAP_NAME = some map
  opens : map.isConfigMap = true
  inserted : y.insert = .ok ()
  bridgeClsact : ensureClsact bridge y.bridgeClsact = .ok ()
  uplinkClsact : ensureClsact uplink y.uplinkClsact = .ok ()
  forward : object.programs FORWARD_PROGRAM_NAME = some ⟨true, false, none⟩
  reverse : object.programs REVERSE_PROGRAM_NAME = some ⟨true, false, none⟩
  forwardAttaches : y.forward = ⟨.ok (), .ok ()⟩
  reverseAttaches : y.reverse = ⟨.ok (), .ok ()⟩

/-- A program of a fresh object attaches where it is a classifier and the kernel takes it. -/
theorem attaches_fresh_iff {object : Object} {name : String} {z : ClassifierAnswers ε} :
    Attaches (object.programs name) z ↔
      object.programs name = some ⟨true, false, none⟩ ∧ z = ⟨.ok (), .ok ()⟩ := by
  obtain ⟨load, attach⟩ := z
  constructor
  · rintro ⟨⟨⟨classifier, loaded, attachedTo⟩, found, hclassifier, hloaded, hload⟩, hattach⟩
    have fresh := (object.fresh found).2
    dsimp only at hclassifier hloaded hload hattach fresh
    subst hclassifier hloaded hload hattach fresh
    exact ⟨found, rfl⟩
  · rintro ⟨found, same⟩
    cases same
    exact ⟨⟨_, found, rfl, rfl, rfl⟩, rfl⟩

section
variable {object : Object} {config : Nat64Config} {bridge uplink : String} {y : Answers ε}
  {n : Nat64}

theorem attached_running
    (h : exec (attach bridge uplink y) { Nat64.load object with config := some config } =
      (.ok (), n)) :
    ∃ map b u, Attachable object bridge uplink y map b u ∧
      n = Nat64.running object config map bridge uplink b u := by
  have case := attach_case bridge uplink y { Nat64.load object with config := some config }
  rw [h] at case
  cases case with
  | @done config' b u map m m' prepares fwd rev =>
      have kept := fwd.reverse_eq
      have reversed := rev.attaches
      rw [kept] at reversed
      obtain ⟨forward, forwardAttaches⟩ := attaches_fresh_iff.mp fwd.attaches
      obtain ⟨reverse, reverseAttaches⟩ := attaches_fresh_iff.mp reversed
      obtain rfl : config = config' := Option.some.inj prepares.configured
      refine ⟨map, b, u, ⟨prepares.bridgeIndex, prepares.uplinkIndex, prepares.mapped,
        prepares.opens, prepares.inserted, prepares.bridgeClsact, prepares.uplinkClsact, forward,
        reverse, forwardAttaches, reverseAttaches⟩, ?_⟩
      cases fwd with
      | attached hp =>
          cases Option.some.inj (hp.symm.trans forward)
          cases rev with
          | attached hq =>
              cases Option.some.inj ((hq.symm.trans kept).trans reverse)
              rfl

theorem exec_attach_configured :
    exec (attach bridge uplink y) { Nat64.load object with config := some config } =
        (.ok (), n) ↔
      ∃ map b u, Attachable object bridge uplink y map b u ∧
        n = Nat64.running object config map bridge uplink b u := by
  constructor
  · exact attached_running
  · rintro ⟨map, b, u, h, rfl⟩
    have ok : (exec (attach bridge uplink y)
        { Nat64.load object with config := some config }).1 = .ok () := by
      refine attach_ok_iff.mpr ⟨⟨config, b, u, map, rfl, rfl, h.bridgeIndex, h.uplinkIndex,
        h.mapped, h.opens, h.inserted, h.bridgeClsact, h.uplinkClsact⟩, ?_, ?_⟩
      · exact attaches_fresh_iff.mpr ⟨h.forward, h.forwardAttaches⟩
      · exact attaches_fresh_iff.mpr ⟨h.reverse, h.reverseAttaches⟩
    rcases hexec : exec (attach bridge uplink y) { Nat64.load object with config := some config }
      with ⟨r, after⟩
    rw [hexec] at ok
    obtain rfl : r = .ok () := ok
    obtain ⟨map', b', u', h', rfl⟩ := attached_running hexec
    obtain rfl : map' = map := Option.some.inj (h'.mapped.symm.trans h.mapped)
    obtain rfl : b' = b := Except.ok.inj (h'.bridgeIndex.symm.trans h.bridgeIndex)
    obtain rfl : u' = u := Except.ok.inj (h'.uplinkIndex.symm.trans h.uplinkIndex)
    rfl

end

/-- The one call of the builder succeeds exactly if the settings are valid, the object loads
with the map and both classifiers, and the system takes each step; the dataplane it returns
carries the settings in its map and a classifier on each interface. -/
theorem builder_attach_ok_iff {self : Nat64Builder} {bridge uplink : String} {x : LoadAnswers ε}
    {y : Answers ε} {n : Nat64} :
    self.attach bridge uplink x y = .ok n ↔
      self.config.validate = .ok () ∧ ∃ bytes object map b u, x.read = .ok bytes ∧
        x.load bytes = .ok object ∧ Attachable object bridge uplink y map b u ∧
        n = Nat64.running object self.config map bridge uplink b u := by
  rw [Nat64Builder.attach, Nat64Builder.build]
  simp only [except_bind_ok_iff, loadPath_ok_iff, orDrop_ok_iff]
  constructor
  · rintro ⟨_, ⟨_, ⟨bytes, object, read, load, rfl⟩, configured⟩, attached⟩
    obtain ⟨valid, rfl⟩ := configure_ok_iff.mp configured
    obtain ⟨map, b, u, attachable, same⟩ := attached_running attached
    exact ⟨valid, bytes, object, map, b, u, read, load, attachable, same⟩
  · rintro ⟨valid, bytes, object, map, b, u, read, load, attachable, same⟩
    exact ⟨_, ⟨_, ⟨bytes, object, read, load, rfl⟩, configure_ok_iff.mpr ⟨valid, rfl⟩⟩,
      exec_attach_configured.mpr ⟨map, b, u, attachable, same⟩⟩

/-- The event respects the settings: what is translated was sent to the prefix, has a source
of the pool and of the port range, and is answered there; the rest is left alone. -/
def Nat64Builder.Governs (self : Nat64Builder) (s : System) : Event → Prop
  | .forward cpu skb k =>
      ((s.forward cpu skb k).1 ≠ .pipe →
        (ipv6TupleAt skb).dst.toList.take 12 = self.prefix96.toList ∧
        (ipv4TupleAt (s.forward cpu skb k).2.skb).src ∈ self.v4Pool ∧
        self.portMin ≤ (ipv4TupleAt (s.forward cpu skb k).2.skb).sport ∧
        (ipv4TupleAt (s.forward cpu skb k).2.skb).sport ≤ self.portMax) ∧
      ((ipv6TupleAt skb).dst.toList.take 12 ≠ self.prefix96.toList →
        (s.forward cpu skb k).1 = .pipe ∧ (s.forward cpu skb k).2.skb = skb)
  | .reverse cpu skb k => (s.reverse cpu skb k).1 ≠ .pipe →
      (ipv4TupleAt skb).dst ∈ self.v4Pool ∧ self.portMin ≤ (ipv4TupleAt skb).dport ∧
        (ipv4TupleAt skb).dport ≤ self.portMax
  | _ => True

theorem governs_of_pooled {self : Nat64Builder} (valid : self.config.validate = .ok ())
    {b u : UInt32} {s : System} (h : s.Pooled (self.config.dataplaneConfig b u)) (e : Event) :
    self.Governs s e := by
  obtain ⟨-, small, -, -⟩ := Nat64Config.validate_bounds valid
  obtain ⟨-, hpool⟩ := Nat64Config.dataplaneConfig_pool small b u
  cases e with
  | forward cpu skb k =>
      have hconfig : ((s.machine cpu skb).maps.config.getD DEFAULT_CFG).prefix96 =
          self.prefix96 := by
        rw [System.machine_maps, h.config]
        rfl
      constructor
      · intro rewritten
        obtain ⟨extV4, t, s', calls, csum, mapped, -⟩ := forward_rewritten rewritten
        have sends := sends_granted h (.forward cpu skb k) rewritten
        refine ⟨mapped.admitted.prefix96.trans (congrArg _ hconfig), ?_, sends.portMin,
          sends.portMax⟩
        have mem := selectV4FromPoolEbpf_mem sends.address
        rw [hpool] at mem
        exact mem
      · intro outside
        have refused := forward_refused (k := k) (m := s.machine cpu skb) fun extV4 admitted =>
          outside (admitted.prefix96.trans (congrArg _ hconfig))
        exact ⟨refused.1, refused.2.1⟩
  | reverse cpu skb k =>
      intro rewritten
      obtain ⟨v, csum, matched, -⟩ := reverse_rewritten rewritten
      have grants := h.nat _ v matched.entry
      have mem := selectV4FromPoolEbpf_mem grants.address
      rw [hpool] at mem
      exact ⟨mem, grants.portMin, grants.portMax⟩
  | timer | evictFwdNat | evictNat => trivial

/-- Once the builder has attached, the classifiers are where it was told, and its settings
govern every packet of every run. -/
theorem policy_on_the_wire (self : Nat64Builder) (bridge uplink : String) (x : LoadAnswers ε)
    (y : Answers ε) (n : Nat64) (attached : self.attach bridge uplink x y = .ok n) :
    n.ebpf.programs FORWARD_PROGRAM_NAME = some ⟨true, true, some bridge⟩ ∧
    n.ebpf.programs REVERSE_PROGRAM_NAME = some ⟨true, true, some uplink⟩ ∧
    ∃ cfg, n.configEntry = some cfg ∧
      ∀ es, Along System.step self.Governs (System.initial cfg) es := by
  obtain ⟨valid, bytes, object, map, b, u, read, load, attachable, rfl⟩ :=
    builder_attach_ok_iff.mp attached
  refine ⟨?_, ?_, self.config.dataplaneConfig b u, ?_, fun es => ?_⟩
  · rw [running_programs, Function.update_of_ne reverse_ne_forward.symm, Function.update_self]
  · rw [running_programs, Function.update_self]
  · exact (Nat64.load object).setConfigEntry_configEntry map _
  · refine along_iff_split.mpr fun before e after _ => ?_
    exact governs_of_pooled valid (dataplane_pooled _ before) e

def exampleBuilder : Nat64Builder := (builder "libnatto64_ebpf.so").withV4Pool [0xCB00710A]

def exampleLoad : LoadAnswers Unit where
  read := .ok []
  load _ := .ok exampleObject

def exampleRunning : Nat64 :=
  Nat64.running exampleObject exampleBuilder.config ⟨true, fun _ => none⟩ "br" "eth0" 2 3

theorem exampleBuilder_attach :
    exampleBuilder.attach "br" "eth0" exampleLoad exampleRefusal.willing = .ok exampleRunning :=
  builder_attach_ok_iff.mpr ⟨by decide, [], exampleObject, ⟨true, fun _ => none⟩, 2, 3, rfl, rfl,
    ⟨by decide +kernel, by decide +kernel, rfl, rfl, rfl, rfl, rfl, rfl, rfl, rfl, rfl⟩, rfl⟩

theorem policy_on_the_wire_example :
    exampleRunning.ebpf.programs FORWARD_PROGRAM_NAME = some ⟨true, true, some "br"⟩ ∧
    exampleRunning.ebpf.programs REVERSE_PROGRAM_NAME = some ⟨true, true, some "eth0"⟩ ∧
    ∃ cfg, exampleRunning.configEntry = some cfg ∧
      ∀ es, Along System.step exampleBuilder.Governs (System.initial cfg) es :=
  policy_on_the_wire exampleBuilder "br" "eth0" exampleLoad exampleRefusal.willing exampleRunning
    exampleBuilder_attach

end Natto64.Userspace
