import Natto64.Actions
import Natto64.Userspace

/-!
# The life of a dataplane

Loading, configuring and attaching, against a kernel whose answers are given for each
call. A call that fails keeps what it has changed.
-/
namespace Natto64.Userspace
open Actions

def CONFIG_MAP_NAME : String := "CONFIG"
def FORWARD_PROGRAM_NAME : String := "nat64_forward"
def REVERSE_PROGRAM_NAME : String := "nat64_reverse"
def CONFIG_KEY : UInt32 := 0

/-- `EEXIST`, the error number of `ErrorKind::AlreadyExists`. -/
def EEXIST : Int32 := 17

inductive ParseIntError where
  | empty
  | invalidDigit
  | posOverflow
  deriving DecidableEq

/-- The errors of aya on maps and programs: two that are decided here, and the kernel's. -/
inductive AyaError (ε : Type) where
  | alreadyLoaded
  | unexpectedType
  | other (source : ε)
  deriving DecidableEq

inductive TcError (ε : Type) where
  | alreadyAttached
  | netlinkError (rawOsError : Option Int32) (source : ε)
  | other (source : ε)
  deriving DecidableEq

/-- The errors of the userspace crate from an object that is loaded. -/
inductive Nat64Error (ε : Type) where
  | policy (error : Error)
  | notConfigured
  | alreadyAttached
  | invalidInterfaceName (interface : String)
  | readInterfaceIndex (interface : String) (source : ε)
  | parseInterfaceIndex (interface : String) (source : ParseIntError)
  | missingMap (name : String)
  | configureMap (source : AyaError ε)
  | trafficControl (interface : String) (source : TcError ε)
  | missingProgram (name : String)
  | program (source : AyaError ε)
  deriving DecidableEq

/-- `char::is_whitespace`. -/
def isWhitespace (c : Char) : Bool :=
  let n := c.toNat
  (9 ≤ n && n ≤ 13) || n == 0x20 || n == 0x85 || n == 0xa0 || n == 0x1680 ||
    (0x2000 ≤ n && n ≤ 0x200a) || n == 0x2028 || n == 0x2029 || n == 0x202f || n == 0x205f ||
    n == 0x3000

def trim (s : List Char) : List Char :=
  ((s.dropWhile isWhitespace).reverse.dropWhile isWhitespace).reverse

def parseDigits : Nat → List Char → Except ParseIntError UInt32
  | n, [] => .ok (UInt32.ofNat n)
  | n, c :: cs =>
      if c.isDigit then
        let next := 10 * n + (c.toNat - '0'.toNat)
        if next < 4294967296 then parseDigits next cs else .error .posOverflow
      else .error .invalidDigit

/-- `str::parse` on `u32`: digits after at most one plus sign. -/
def parseU32 : List Char → Except ParseIntError UInt32
  | [] => .error .empty
  | ['+'] | ['-'] => .error .invalidDigit
  | '+' :: cs => parseDigits 0 cs
  | cs => parseDigits 0 cs

/-- The index of an interface, from what its `ifindex` file was read as. -/
def interfaceIndex {ε : Type} (interface : String) (read : Except ε String) :
    Except (Nat64Error ε) UInt32 :=
  if interface = "" ∨ '/' ∈ interface.toList ∨ interface = "." ∨ interface = ".." then
    .error (.invalidInterfaceName interface)
  else match read with
    | .error source => .error (.readInterfaceIndex interface source)
    | .ok value => (parseU32 (trim value.toList)).mapError (.parseInterfaceIndex interface)

/-- A map of the object, and whether it opens as the hash map of configurations. -/
structure BpfMap where
  isConfigMap : Bool
  entries : UInt32 → Option Natto64.Nat64Config

structure Program where
  isClassifier : Bool
  loaded : Bool
  attachedTo : Option String
  deriving DecidableEq

structure Ebpf where
  maps : String → Option BpfMap
  programs : String → Option Program

/-- An object as `Ebpf::load` returns it: no program is in the kernel yet. -/
structure Object extends Ebpf where
  fresh {name : String} {p : Program} (h : programs name = some p) :
    p.loaded = false ∧ p.attachedTo = none

/-- A loaded dataplane. -/
structure Nat64 where
  ebpf : Ebpf
  config : Option Nat64Config
  attached : Bool

def Nat64.load (object : Object) : Nat64 where
  ebpf := object.toEbpf
  config := none
  attached := false

/-- How the kernel answers to one classifier. -/
structure ClassifierAnswers (ε : Type) where
  load : Except ε Unit
  attach : Except ε Unit

/-- How the system answers to the operations of one `attach`. -/
structure Answers (ε : Type) where
  bridgeIfindex : Except ε String
  uplinkIfindex : Except ε String
  insert : Except ε Unit
  bridgeClsact : Except (TcError ε) Unit
  uplinkClsact : Except (TcError ε) Unit
  forward : ClassifierAnswers ε
  reverse : ClassifierAnswers ε

variable {ε : Type}

def Nat64.setProgram (name : String) (p : Program) (n : Nat64) : Nat64 :=
  { n with ebpf := { n.ebpf with programs := Function.update n.ebpf.programs name (some p) } }

def Nat64.setConfigEntry (map : BpfMap) (value : Natto64.Nat64Config) (n : Nat64) : Nat64 :=
  { n with ebpf := { n.ebpf with
      maps := Function.update n.ebpf.maps CONFIG_MAP_NAME
        (some { map with entries := Function.update map.entries CONFIG_KEY (some value) }) } }

def configure (config : Nat64Config) : Action Nat64 (Nat64Error ε) Unit := do
  let n ← get
  if n.attached then
    throw .alreadyAttached
  else
    ofExcept (config.validate.mapError .policy)
    modify fun n => { n with config := some config }

/-- The block of `attach` that writes the `CONFIG` map. -/
def writeConfig (value : Natto64.Nat64Config) (insert : Except ε Unit) :
    Action Nat64 (Nat64Error ε) Unit := do
  let n ← get
  match n.ebpf.maps CONFIG_MAP_NAME with
  | none => throw (.missingMap CONFIG_MAP_NAME)
  | some map =>
      if map.isConfigMap then
        ofExcept (insert.mapError fun source => .configureMap (.other source))
        modify (Nat64.setConfigEntry map value)
      else
        throw (.configureMap .unexpectedType)

def ensureClsact (interface : String) : Except (TcError ε) Unit → Except (Nat64Error ε) Unit
  | .ok () | .error .alreadyAttached => .ok ()
  | .error (.netlinkError rawOsError source) =>
      if rawOsError = some EEXIST then .ok ()
      else .error (.trafficControl interface (.netlinkError rawOsError source))
  | .error (.other source) => .error (.trafficControl interface (.other source))

/-- `load` fails on a program that is loaded; what it loads stays when `attach` fails. -/
def attachClassifier (name interface : String) (x : ClassifierAnswers ε) :
    Action Nat64 (Nat64Error ε) Unit := do
  let n ← get
  match n.ebpf.programs name with
  | none => throw (.missingProgram name)
  | some p =>
      if p.isClassifier then
        if p.loaded then
          throw (.program .alreadyLoaded)
        else
          ofExcept (x.load.mapError fun source => .program (.other source))
          modify (Nat64.setProgram name { p with loaded := true })
          ofExcept (x.attach.mapError fun source => .program (.other source))
          modify (Nat64.setProgram name { p with loaded := true, attachedTo := some interface })
      else
        throw (.program .unexpectedType)

def attach (bridge uplink : String) (x : Answers ε) : Action Nat64 (Nat64Error ε) Unit := do
  let n ← get
  if n.attached then
    throw .alreadyAttached
  else match n.config with
    | none => throw .notConfigured
    | some config =>
        let bridgeIfindex ← ofExcept (interfaceIndex bridge x.bridgeIfindex)
        let uplinkIfindex ← ofExcept (interfaceIndex uplink x.uplinkIfindex)
        writeConfig (config.dataplaneConfig bridgeIfindex uplinkIfindex) x.insert
        ofExcept (ensureClsact bridge x.bridgeClsact)
        ofExcept (ensureClsact uplink x.uplinkClsact)
        attachClassifier FORWARD_PROGRAM_NAME bridge x.forward
        attachClassifier REVERSE_PROGRAM_NAME uplink x.reverse
        modify fun n => { n with attached := true }

end Natto64.Userspace
