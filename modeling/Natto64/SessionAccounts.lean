import Natto64.Accounts
import Natto64.Forward

/-!
# Accounts of the shared parts

What the allocator, the session lookup and the redirect count, and the exits of the
classifiers: with a return counter, or without one.
-/
namespace Natto64

theorem silent_perform {op : Op} (h : op.Silent) :
    (CallTree.perform op : Ebpf op.Resp).Uses Op.Silent :=
  ⟨h, fun _ => trivial⟩

theorem silent_onPacket (op : Op) (h : op.OnPacket) : op.Silent := by
  cases op <;> trivial

theorem silent_withCounters {prod : List ProdCounter} {debug : List DebugCounter}
    (h : Leaves 0 0 (counted prod debug) := by decide) : (withCounters prod debug).Uses Op.Silent :=
  silent_perform (settles_withCounters h)

theorem silent_diag {update : Diag → Diag} (h : Settles update) : (diag update).Uses Op.Silent :=
  silent_perform h

/-- The invocation is left open exactly if `uncounted`, where loads fail only out of bounds. -/
def Outcome (inBounds uncounted : Prop) (forward : Bool) (f r : Nat) : Prop :=
  Closed f r ∧ ¬ uncounted ∨
    (f = forward.toNat ∧ r = (!forward).toNat) ∧ (inBounds → uncounted)

section Parts
variable {α β : Type} {k : Kernel} {inBounds : Prop} {m : Machine} {before : List Counter}
  {P : Nat → Nat → Prop}

theorem silent_coolPort (port : UInt16) :
    ((do
      match (← portCooldown) with
      | some ring =>
          setPortCooldown (cooldownPush ring port)
          withCounters [] [.cooldownPushOk]
      | none => withCounters [] [.cooldownPushErr]
      return some port) : Ebpf (Option UInt16)).Uses Op.Silent := by
  refine CallTree.Uses.bindOption ⟨trivial, fun _ => trivial⟩ ?_ fun ring => ?_
  · exact CallTree.Uses.bind silent_withCounters fun _ => trivial
  · refine CallTree.Uses.bind ⟨trivial, fun _ => trivial⟩ fun _ => ?_
    exact CallTree.Uses.bind silent_withCounters fun _ => trivial

/-- The allocator counts nothing in the balances but the exhausted range. -/
theorem allocPortLoop_rule {cfg : Nat64Config} {extV4 : UInt32} {proto : UInt8} {span : UInt32}
    {q : Option UInt16 → Ebpf β} (done : ∀ a m', Accounts k inBounds (q a) m' before P)
    (exhausted : ∀ m', Accounts k inBounds (q none) m'
      (before ++ counted [.portAllocExhausted] []) P) (n : Nat) (cursor : UInt32)
    (hadCooldownSkip : Bool) (m : Machine) :
    Accounts k inBounds (allocPortLoop cfg extV4 proto span n cursor hadCooldownSkip >>= q) m
      before P := by
  induction n generalizing cursor hadCooldownSkip m with
  | zero =>
      simp only [allocPortLoop, bind_assoc, pure_bind]
      refine Accounts.any ⟨trivial, fun _ => trivial⟩ fun _ m₁ => ?_
      exact Accounts.withCounters (exhausted m₁)
  | succ n ih =>
      simp only [allocPortLoop, bind_assoc]
      refine Accounts.any silent_withCounters fun _ m₁ => ?_
      refine Accounts.any ⟨trivial, fun _ => trivial⟩ fun _ m₂ => ?_
      split
      · exact ih _ _ m₂
      rw [bind_assoc]
      refine Accounts.any ⟨trivial, fun _ => trivial⟩ fun ring m₃ => ?_
      split
      · rw [bind_assoc]
        exact Accounts.any silent_withCounters fun _ m₄ => ih _ _ m₄
      rw [bind_assoc]
      refine Accounts.any ⟨trivial, fun _ => trivial⟩ fun entry m₄ => ?_
      split
      · rw [bind_assoc]
        exact Accounts.any silent_withCounters fun _ m₅ => ih _ _ m₅
      cases hadCooldownSkip with
      | false => exact Accounts.any (silent_coolPort _) done
      | true =>
          refine Accounts.any ?_ done
          exact CallTree.Uses.bind silent_withCounters fun _ => silent_coolPort _

theorem allocPort_rule {cfg : Nat64Config} {extV4 : UInt32} {proto : UInt8}
    {q : Option UInt16 → Ebpf β} (done : ∀ a m', Accounts k inBounds (q a) m' before P)
    (exhausted : ∀ m', Accounts k inBounds (q none) m'
      (before ++ counted [.portAllocExhausted] []) P) (m : Machine) :
    Accounts k inBounds (allocPort cfg extV4 proto >>= q) m before P := by
  unfold allocPort
  split
  · exact done none m
  rw [bind_assoc]
  refine Accounts.any ⟨trivial, fun _ => trivial⟩ fun cursor m₁ => ?_
  cases cursor with
  | none => exact done none m₁
  | some cursor => exact allocPortLoop_rule done exhausted _ _ _ m₁

theorem silent_armSessionTimer (key : FwdNatKey) : (armSessionTimer key).Uses Op.Silent := by
  unfold armSessionTimer
  refine CallTree.Uses.bindOption ⟨trivial, fun _ => trivial⟩ trivial fun value => ?_
  refine CallTree.Uses.bindBool ⟨trivial, fun _ => trivial⟩ ?_ trivial
  refine CallTree.Uses.bindBool ⟨trivial, fun _ => trivial⟩ ?_ trivial
  exact ⟨trivial, fun _ => ⟨trivial, fun _ => trivial⟩⟩

theorem lookupOrCreateMapping_accounts (cfg : Nat64Config) (key : FwdNatKey) (extV4 : UInt32)
    (proto : UInt8) (nowNs : UInt64) (m : Machine) :
    Accounts k inBounds (lookupOrCreateMapping cfg key extV4 proto nowNs) m [] Closed := by
  unfold lookupOrCreateMapping
  refine Accounts.any ⟨trivial, fun _ => trivial⟩ fun existing m₁ => ?_
  cases existing with
  | some existing =>
      refine Accounts.any ⟨trivial, fun _ => trivial⟩ fun _ m₂ => ?_
      refine Accounts.any ⟨trivial, fun _ => trivial⟩ fun _ m₃ => ?_
      exact Accounts.withCounters (.exit _ (by decide) ⟨rfl, rfl⟩)
  | none =>
      refine Accounts.withCounters (allocPort_rule (fun port m₂ => ?_) (fun m₂ => ?_) m₁)
      swap
      · exact Accounts.withCounters (.exit _ (by decide) ⟨rfl, rfl⟩)
      cases port with
      | none => exact Accounts.withCounters (.exit _ (by decide) ⟨rfl, rfl⟩)
      | some port =>
          refine Accounts.withCounters ?_
          refine Accounts.any ⟨trivial, fun _ => trivial⟩ fun generation m₃ => ?_
          refine Accounts.bool ⟨trivial, fun _ => trivial⟩ (fun _ => ?_) fun m₄ => ?_
          swap
          · exact Accounts.withCounters (.exit _ (by decide) ⟨rfl, rfl⟩)
          have finish (armed : Bool) (m' : Machine) : Accounts k inBounds (do
              if !armed then
                let _ ← fwdNatRemove key
                withCounters [.fwdNatInsertErr] []
                return none
              withCounters [.fwdNatInsertOk] []
              return some (extV4, port, generation)) m'
              ([] ++ counted [.fwdNatLookupMiss] [] ++ counted [.portAllocOk] []) Closed := by
            cases armed with
            | false =>
                refine Accounts.any ⟨trivial, fun _ => trivial⟩ fun _ m₄ => ?_
                exact Accounts.withCounters (.exit _ (by decide) ⟨rfl, rfl⟩)
            | true => exact Accounts.withCounters (.exit _ (by decide) ⟨rfl, rfl⟩)
          rw [if_neg (by decide)]
          split
          · exact Accounts.any (silent_armSessionTimer key) finish
          · exact finish true _

/-- What a redirect counts. -/
def redirectTally : (forward ok : Bool) → List Counter
  | true, true => counted [.fwdRedirectOk] [.dbgFwdReturnOk]
  | true, false => counted [.fwdRedirectErr] [.dbgFwdReturnErr]
  | false, true => counted [.revRedirectOk] [.dbgRevReturnOk]
  | false, false => counted [.revRedirectErr] [.dbgRevReturnErr]

theorem redirect_exit {ifindex : UInt32} {forward : Bool} {f r : Nat}
    (hP : P f r) (h : ∀ ok, Leaves f r (before ++ redirectTally forward ok) := by decide) :
    Accounts k inBounds ((do return .ok (← redirectToIface ifindex forward)) :
      Ebpf (Except TcAction TcAction)) m before P := by
  have failed : ∀ d : Diag, d.Available → Counted (redirectTally forward false) d
      ((if forward then Diag.countFwdRedirectErr else Diag.countRevRedirectErr) d) := by
    intro d hd
    cases forward <;> exact counted_both _ _ hd
  have redirected : ∀ d : Diag, d.Available → Counted (redirectTally forward true) d
      ((if forward then Diag.countFwdRedirectOk else Diag.countRevRedirectOk) d) := by
    intro d hd
    cases forward <;> exact counted_both _ _ hd
  unfold redirectToIface
  split
  · exact Accounts.count failed (.exit _ (h false) hP)
  rw [bind_assoc]
  refine Accounts.any ⟨trivial, fun _ => trivial⟩ fun action m₁ => ?_
  split
  · exact Accounts.count redirected (.exit _ (h true) hP)
  · exact Accounts.count failed (.exit _ (h false) hP)

/-- The exits. What has been counted on the way is a closed list, so its balance is decided. -/
theorem closed_exit {prod : List ProdCounter} {debug : List DebugCounter} (a : α)
    (h : Leaves 0 0 (before ++ counted prod debug) := by decide) :
    Accounts k inBounds (do withCounters prod debug; return a) m before Closed :=
  .withCounters (.exit a h ⟨rfl, rfl⟩)

theorem closed_outcome {uncounted : Prop} {forward : Bool} (h : ¬ uncounted) (f r : Nat)
    (closed : Closed f r) : Outcome inBounds uncounted forward f r :=
  .inl ⟨closed, h⟩

theorem counted_exit {uncounted : Prop} {forward : Bool} {prod : List ProdCounter}
    {debug : List DebugCounter} (a : α) (reached : ¬ uncounted)
    (h : Leaves 0 0 (before ++ counted prod debug) := by decide) :
    Accounts k inBounds (do withCounters prod debug; return a) m before
      (Outcome inBounds uncounted forward) :=
  (closed_exit a h).mono (closed_outcome reached)

theorem open_exit {uncounted : Prop} {forward : Bool} (a : α) (short : inBounds → uncounted)
    (h : Leaves forward.toNat (!forward).toNat before := by decide) :
    Accounts k inBounds (pure a) m before (Outcome inBounds uncounted forward) :=
  .exit a h (.inr ⟨⟨rfl, rfl⟩, short⟩)

end Parts

end Natto64
