import Natto64.FirstMapping
import Natto64.ForwardAccounts
import Natto64.ReverseAccounts
import Natto64.SessionSteps

/-!
# Balances over a run

What any run of the dataplane adds to the counters of one CPU, under a configuration
accepted by `validate`: the production counters balance after every run, the return
counters account for every invocation exactly if no frame was cut short.
-/
namespace Natto64
open EventRun Octets

/-- A packet of the CPU that its classifier leaves without an outcome. -/
def Event.Uncounted (cfg : Nat64Config) (cpu : Nat) : Event → Prop
  | .forward cpu' skb _ => cpu' = cpu ∧ FwdUncounted cfg skb
  | .reverse cpu' skb _ => cpu' = cpu ∧ RevUncounted cfg skb
  | _ => False

/-- No load of the packet's run fails inside the packet. -/
def System.LoadsInBounds (s : System) : Event → Prop
  | .forward cpu skb k => k.LoadsInBounds nat64Forward (s.machine cpu skb)
  | .reverse cpu skb k => k.LoadsInBounds nat64Reverse (s.machine cpu skb)
  | _ => True

theorem Closed.add_iff {f r f' r' : Nat} :
    Closed (f + f') (r + r') ↔ Closed f r ∧ Closed f' r' := by
  unfold Closed
  omega

/-- What a packet counts, and whether it leaves its invocation open. -/
theorem Accounts.outcome {α : Type} {k : Kernel} {inBounds uncounted : Prop} {forward : Bool}
    {p : Ebpf α} {m : Machine}
    (h : Accounts k inBounds p m [] (Outcome inBounds uncounted forward))
    (loads : inBounds → k.LoadsInBounds p m) {d : Diag} (available : d.Available) :
    ∃ t f r, Counted t d (k.diagnose p m d) ∧ Leaves f r t ∧
      (inBounds → (Closed f r ↔ ¬ uncounted)) := by
  obtain ⟨t, f, r, ht, leaves, outcome⟩ := h loads d available
  refine ⟨t, f, r, ht, leaves, fun hin => ?_⟩
  rcases outcome with ⟨closed, reached⟩ | ⟨⟨rfl, rfl⟩, short⟩
  · exact iff_of_true closed reached
  · refine iff_of_false ?_ (not_not.mpr (short hin))
    cases forward <;> decide

section Run
variable {cfg : Nat64Config} {cpu : Nat}

theorem step_accounts {inBounds : Prop} {s : System} (config : s.maps.config = some cfg)
    (pool : ∀ vmV6, ∃ extV4, selectV4FromPoolEbpf vmV6 cfg = some extV4)
    (available : (s.diags cpu).Available) (e : Event) (loads : inBounds → s.LoadsInBounds e) :
    ∃ t f r, Counted t (s.diags cpu) ((s.step e).diags cpu) ∧ Leaves f r t ∧
      (inBounds → (Closed f r ↔ ¬ e.Uncounted cfg cpu)) := by
  have idle : ∀ d' : Diag, d' = s.diags cpu → ¬ e.Uncounted cfg cpu →
      ∃ t f r, Counted t (s.diags cpu) d' ∧ Leaves f r t ∧
        (inBounds → (Closed f r ↔ ¬ e.Uncounted cfg cpu)) := by
    rintro d' rfl h
    exact ⟨[], 0, 0, .refl available, .nil, fun _ => iff_of_true ⟨rfl, rfl⟩ h⟩
  cases e with
  | forward cpu' skb k =>
      by_cases own : cpu' = cpu
      · subst own
        have hunc : Event.Uncounted cfg cpu' (.forward cpu' skb k) ↔ FwdUncounted cfg skb :=
          and_iff_right rfl
        have hdiag : (s.step (.forward cpu' skb k)).diags cpu' = _ := Function.update_self ..
        rw [hunc, hdiag]
        exact (nat64Forward_accounts config pool).outcome loads available
      · exact idle _ (Function.update_of_ne (Ne.symm own) ..) fun hunc => own hunc.1
  | reverse cpu' skb k =>
      by_cases own : cpu' = cpu
      · subst own
        have hunc : Event.Uncounted cfg cpu' (.reverse cpu' skb k) ↔ RevUncounted cfg skb :=
          and_iff_right rfl
        have hdiag : (s.step (.reverse cpu' skb k)).diags cpu' = _ := Function.update_self ..
        rw [hunc, hdiag]
        exact (nat64Reverse_accounts config).outcome loads available
      · exact idle _ (Function.update_of_ne (Ne.symm own) ..) fun hunc => own hunc.1
  | timer | evictFwdNat | evictNat => exact idle _ rfl fun hunc => hunc

theorem run_accounts (inBounds : Prop) {s : System} (config : s.maps.config = some cfg)
    (pool : ∀ vmV6, ∃ extV4, selectV4FromPoolEbpf vmV6 cfg = some extV4)
    (available : (s.diags cpu).Available) (es : List Event)
    (loads : inBounds → Along System.step System.LoadsInBounds s es) :
    ∃ t f r, Counted t (s.diags cpu) ((run System.step s es).diags cpu) ∧ Leaves f r t ∧
      (inBounds → (Closed f r ↔ ∀ e ∈ es, ¬ e.Uncounted cfg cpu)) := by
  induction es generalizing s with
  | nil => exact ⟨[], 0, 0, .refl available, .nil, fun _ => iff_of_true ⟨rfl, rfl⟩ (by simp)⟩
  | cons e es ih =>
      obtain ⟨t, f, r, ht, leaves, closed⟩ :=
        step_accounts config pool available e fun hin => (loads hin).1
      obtain ⟨u, f', r', hu, leaves', closed'⟩ :=
        ih ((step_config s e).trans config) ht.available fun hin => (loads hin).2
      refine ⟨t ++ u, f + f', r + r', ht.trans hu, leaves.append leaves', fun hin => ?_⟩
      rw [Closed.add_iff, closed hin, closed' hin, List.forall_mem_cons]

end Run

/-- Both maps as they are created. -/
def Diag.Fresh (d : Diag) : Prop := d.prod = some (fun _ => 0) ∧ d.debug = some fun _ => 0

theorem Diag.Fresh.available {d : Diag} (h : d.Fresh) : d.Available :=
  ⟨by rw [h.1]; rfl, by rw [h.2]; rfl⟩

theorem Diag.Fresh.value {d : Diag} (h : d.Fresh) (c : Counter) : d.value c = 0 := by
  cases c with
  | prod c => rw [Diag.value, h.1]; rfl
  | debug c => rw [Diag.value, h.2]; rfl

/-- A counter short of saturation shows how often it was counted. -/
theorem Counted.count_eq {t : List Counter} {d d' : Diag} (h : Counted t d d') (fresh : d.Fresh)
    {c : Counter} (unsaturated : d'.value c < 2 ^ 64 - 1) : d'.value c = t.count c := by
  have hvalue := h.value c
  rw [fresh.value] at hvalue
  omega

theorem dataplaneConfig_selects {u : Userspace.Nat64Config} (valid : u.validate = .ok ())
    (bridgeIfindex uplinkIfindex : UInt32) (vmV6 : Ipv6Octets) :
    ∃ extV4, selectV4FromPoolEbpf vmV6 (u.dataplaneConfig bridgeIfindex uplinkIfindex) =
      some extV4 := by
  obtain ⟨nonempty, small, -, -⟩ := Userspace.Nat64Config.validate_bounds valid
  obtain ⟨hlen, -⟩ :=
    Userspace.Nat64Config.dataplaneConfig_pool small bridgeIfindex uplinkIfindex
  exact selectV4FromPoolEbpf_isSome (by rw [hlen]; exact nonempty) (by rw [hlen]; exact small) vmV6

theorem forall_prodCounter {P : ProdCounter → Prop} (h : ∀ i < 41, P (.ofNat i))
    (c : ProdCounter) : P c := by
  rw [← ProdCounter.ofNat_ctorIdx c]
  exact h _ (by cases c <;> decide)

theorem forall_debugCounter {P : DebugCounter → Prop} (h : ∀ i < 72, P (.ofNat i))
    (c : DebugCounter) : P c := by
  rw [← DebugCounter.ofNat_ctorIdx c]
  exact h _ (by cases c <;> decide)

/-- Whatever the packets are and whichever helpers fail. -/
theorem prod_counters_balance (u : Userspace.Nat64Config) (bridgeIfindex uplinkIfindex : UInt32)
    (valid : u.validate = .ok ()) (s : System) (cpu : Nat)
    (config : s.maps.config = some (u.dataplaneConfig bridgeIfindex uplinkIfindex))
    (fresh : (s.diags cpu).Fresh) (es : List Event)
    (unsaturated : ∀ c, ((run System.step s es).diags cpu).value (.prod c) < 2 ^ 64 - 1) :
    ProdBalanced fun c => ((run System.step s es).diags cpu).value (.prod c) := by
  obtain ⟨t, f, r, ht, leaves, -⟩ := run_accounts False config
    (dataplaneConfig_selects valid bridgeIfindex uplinkIfindex) fresh.available es False.elim
  simp only [fun c => ht.count_eq fresh (unsaturated c)]
  exact leaves.prod

theorem prod_counters_balance_exchange :
    ProdBalanced fun c =>
      ((run System.step exampleSystem exampleExchange).diags 0).value (.prod c) :=
  prod_counters_balance exampleConfig 2 3 (by decide +kernel) exampleSystem 0 rfl ⟨rfl, rfl⟩
    exampleExchange (forall_prodCounter (by decide +kernel))

/-- The invocations of both classifiers are as many as their recorded outcomes. -/
def ReturnsBalanced (n : DebugCounter → Nat) : Prop :=
  n .dbgFwdEnter = n .dbgFwdReturnOk + n .dbgFwdReturnErr ∧
    n .dbgRevEnter = n .dbgRevReturnOk + n .dbgRevReturnErr

instance (n : DebugCounter → Nat) : Decidable (ReturnsBalanced n) :=
  inferInstanceAs (Decidable (_ ∧ _))

theorem Leaves.returnsBalanced_iff {f r : Nat} {t : List Counter} (h : Leaves f r t) :
    (ReturnsBalanced fun c => t.count (.debug c)) ↔ Closed f r := by
  have hfwd := h.fwd
  have hrev := h.rev
  unfold ReturnsBalanced Closed
  dsimp only
  omega

theorem returns_balance_iff (u : Userspace.Nat64Config) (bridgeIfindex uplinkIfindex : UInt32)
    (valid : u.validate = .ok ()) (s : System) (cpu : Nat)
    (config : s.maps.config = some (u.dataplaneConfig bridgeIfindex uplinkIfindex))
    (fresh : (s.diags cpu).Fresh) (es : List Event)
    (loads : Along System.step System.LoadsInBounds s es)
    (unsaturated : ∀ c, ((run System.step s es).diags cpu).value (.debug c) < 2 ^ 64 - 1) :
    (ReturnsBalanced fun c => ((run System.step s es).diags cpu).value (.debug c)) ↔
      ∀ e ∈ es, ¬ e.Uncounted (u.dataplaneConfig bridgeIfindex uplinkIfindex) cpu := by
  obtain ⟨t, f, r, ht, leaves, closed⟩ := run_accounts True config
    (dataplaneConfig_selects valid bridgeIfindex uplinkIfindex) fresh.available es fun _ => loads
  simp only [fun c => ht.count_eq fresh (unsaturated c)]
  exact leaves.returnsBalanced_iff.trans (closed trivial)

theorem exampleExchange_loads :
    Along System.step System.LoadsInBounds exampleSystem exampleExchange :=
  ⟨Kernel.SkbExact.loadsInBounds (fun _ => rfl) _ _,
    Kernel.SkbExact.loadsInBounds (fun _ => rfl) _ _, trivial⟩

theorem returns_balance_iff_exchange :
    (ReturnsBalanced fun c =>
      ((run System.step exampleSystem exampleExchange).diags 0).value (.debug c)) ↔
        ∀ e ∈ exampleExchange, ¬ e.Uncounted exampleDataplane 0 :=
  returns_balance_iff exampleConfig 2 3 (by decide +kernel) exampleSystem 0 rfl ⟨rfl, rfl⟩
    exampleExchange exampleExchange_loads (forall_debugCounter (by decide +kernel))

/-- A packet to the prefix whose UDP header ends after the ports. -/
def exampleCutUdp6 : List UInt8 :=
  frame6 IPPROTO_UDP exampleClient exampleServerV6 (beBytes16 4000 ++ beBytes16 53)

def exampleCutRun : List Event := [.forward 0 exampleCutUdp6 (.ideal 1000 7)]

theorem returns_unbalanced : ¬ ∀ (u : Userspace.Nat64Config) (bridgeIfindex uplinkIfindex : UInt32)
    (s : System) (cpu : Nat) (es : List Event), u.validate = .ok () →
    s.maps.config = some (u.dataplaneConfig bridgeIfindex uplinkIfindex) →
    (s.diags cpu).Fresh → Along System.step System.LoadsInBounds s es →
    (∀ c, ((run System.step s es).diags cpu).value (.debug c) < 2 ^ 64 - 1) →
    ReturnsBalanced fun c => ((run System.step s es).diags cpu).value (.debug c) := by
  intro h
  have balanced := h exampleConfig 2 3 exampleSystem 0 exampleCutRun (by decide +kernel) rfl
    ⟨rfl, rfl⟩ ⟨Kernel.SkbExact.loadsInBounds (fun _ => rfl) _ _, trivial⟩
    (forall_debugCounter (by decide +kernel))
  exact absurd balanced (by decide +kernel)

end Natto64
