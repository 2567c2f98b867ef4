import Natto64.Allocator

/-!
# Sessions

Creation, refresh and expiry of the forward mapping and its reverse entry.
-/
namespace Natto64

def DEFAULT_V4_SRC : UInt32 := 0xCB00710A
def DEFAULT_PORT_MIN : UInt16 := 20000
def DEFAULT_PORT_MAX : UInt16 := 60000
def EXPIRY_CONFIRMATION_NS : UInt64 := 10000000

/-- Used while the `CONFIG` map holds no entry. -/
def DEFAULT_CFG : Nat64Config where
  prefix96 := NAT64_WKPF_PREFIX
  v4Pool := ⟨[DEFAULT_V4_SRC, 0, 0, 0, 0, 0, 0, 0, 0, 0, 0, 0, 0, 0, 0, 0], rfl⟩
  v4PoolLen := 1
  portMin := DEFAULT_PORT_MIN
  portMax := DEFAULT_PORT_MAX
  sessionTimeoutSecs := 0
  v4Policy := V4_SELECT_POLICY_HASH_VM_V6
  bridgeIfindex := 0
  uplinkIfindex := 0

/-- `saturating_sub` and `saturating_mul` on `u64`. -/
def satSub (a b : UInt64) : UInt64 := if a < b then 0 else a - b
def satMul (a b : UInt64) : UInt64 := UInt64.ofNat (min (a.toNat * b.toNat) (2 ^ 64 - 1))

def sessionTimeoutNs (cfg : Nat64Config) : UInt64 :=
  satMul cfg.sessionTimeoutSecs.toUInt64 1000000000

def timerRearm (key : FwdNatKey) (delayNs : UInt64) : Ebpf Bool :=
  bpfTimerStart key (max delayNs 1)

def TimedFwdNatVal.new (extV4 : UInt32) (extPort : UInt16) (generation : UInt32)
    (lastSeenNs : UInt64) : TimedFwdNatVal where
  extV4 := extV4
  extPort := extPort
  lastSeenNs := lastSeenNs
  generation := generation
  observedLastSeenNs := 0
  timer := none

/-- The `last_seen_ns` of a reverse entry of the given generation, else zero. -/
def reverseLastSeen (generation : UInt32) (reverse : Option NatVal) : UInt64 :=
  ((reverse.filter (·.generation == generation)).map (·.lastSeenNs)).getD 0

/-- The callback of the timer in the value of `key`. A value that is no longer in the
map stays readable through the pointer, as it was when last read. -/
def sessionTimerCallback (key : FwdNatKey) : Ebpf Unit := do
  let some value ← fwdNatLookup key | return ()
  let cfg := (← configGet).getD DEFAULT_CFG
  let timeoutNs := sessionTimeoutNs cfg
  if timeoutNs = 0 then
    return ()
  let generation := value.generation
  let reverseKey := natKey value.extV4 value.extPort key.proto
  let nowNs ← bpfKtimeGetNs
  let fwdLastSeen := ((← fwdNatLookup key).getD value).lastSeenNs
  let latest := max fwdLastSeen (reverseLastSeen generation (← natLookup reverseKey))
  let elapsed := satSub nowNs latest
  if elapsed < timeoutNs then
    fwdNatSetObserved key 0
    let _ ← timerRearm key (timeoutNs - elapsed)
    return ()
  -- A second callback after a short quiescence interval confirms the expiry.
  if ((← fwdNatLookup key).getD value).observedLastSeenNs ≠ latest then
    fwdNatSetObserved key latest
    let _ ← timerRearm key EXPIRY_CONFIRMATION_NS
    return ()
  let finalFwdLastSeen := ((← fwdNatLookup key).getD value).lastSeenNs
  let finalReverse ← natLookup reverseKey
  let finalLatest := max finalFwdLastSeen (reverseLastSeen generation finalReverse)
  if finalLatest ≠ latest ∨ satSub nowNs finalLatest < timeoutNs then
    fwdNatSetObserved key 0
    let delay := satSub timeoutNs (satSub nowNs finalLatest)
    let _ ← timerRearm key delay
    return ()
  if finalReverse.any (·.generation == generation) then
    let _ ← natRemove reverseKey
    let _ ← fwdNatRemove key
    return ()
  let _ ← fwdNatRemove key
  return ()

def armSessionTimer (key : FwdNatKey) : Ebpf Bool := do
  let some _ ← fwdNatLookup key | return false
  if !(← bpfTimerInit key) then
    return false
  if !(← bpfTimerSetCallback key) then
    return false
  let cfg := (← configGet).getD DEFAULT_CFG
  timerRearm key (sessionTimeoutNs cfg)

/-- The external tuple and generation of a flow, refreshed or newly allocated. -/
def lookupOrCreateMapping (cfg : Nat64Config) (key : FwdNatKey) (selectedExtV4 : UInt32)
    (proto : UInt8) (nowNs : UInt64) : Ebpf (Option (UInt32 × UInt16 × UInt32)) := do
  if let some existing ← fwdNatLookup key then
    fwdNatSetLastSeen key nowNs
    fwdNatSetObserved key 0
    withCounters [.fwdNatLookupHit, .fwdNatRefreshOk] []
    return some (existing.extV4, existing.extPort, existing.generation)
  withCounters [.fwdNatLookupMiss] []
  let some extPort ← allocPort cfg selectedExtV4 proto
    | do withCounters [.portAllocErr] []; return none
  withCounters [.portAllocOk] []
  let generation ← bpfGetPrandomU32
  let value := TimedFwdNatVal.new selectedExtV4 extPort generation nowNs
  if !(← fwdNatInsert key value) then
    withCounters [.fwdNatInsertErr] []
    return none
  -- `arm_session_timer` is only called for a nonzero timeout
  let armed ← if cfg.sessionTimeoutSecs ≠ 0 then armSessionTimer key else pure true
  if !armed then
    let _ ← fwdNatRemove key
    withCounters [.fwdNatInsertErr] []
    return none
  withCounters [.fwdNatInsertOk] []
  return some (selectedExtV4, extPort, generation)

end Natto64
