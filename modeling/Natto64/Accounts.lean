import Natto64.Footprints
import Natto64.Frames
import Natto64.Tallies

/-!
# Accounts of a run

What a run of a program counts: loads that fail only outside the packet, programs that
keep the balances, and one rule for each way a program goes on.
-/
namespace Natto64

/-- If the call is a load from inside the packet, it does not fail. -/
def Kernel.LoadInBounds (k : Kernel) (m : Machine) : Op → Prop
  | .skbLoadBytes off n => off + n ≤ m.skb.length → k.skbFault m.log.length = false
  | _ => True

/-- No load of the run fails inside the packet. Stores may. -/
def Kernel.LoadsInBounds {α : Type} (k : Kernel) : Ebpf α → Machine → Prop
  | .done _, _ => True
  | .call op next, m =>
      k.LoadInBounds m op ∧ k.LoadsInBounds (next (k.answer op m).1) (k.answer op m).2

/-- The same kernel with loads and stores that fail exactly out of bounds. -/
def Kernel.unfaulted (k : Kernel) : Kernel := { k with skbFault := fun _ => false }

/-- A load, or a diagnostic update that keeps the balances. -/
def Op.Peeks : Op → Prop
  | .skbLoadBytes _ _ => True
  | .diag update => Settles update
  | _ => False

/-- Any call but a diagnostic update outside the balances. -/
def Op.Silent : Op → Prop
  | .diag update => Settles update
  | _ => True

section Loads
variable {α β : Type} {k : Kernel} {m : Machine}

theorem loadsInBounds_bind {p : Ebpf α} {f : α → Ebpf β} :
    k.LoadsInBounds (p >>= f) m ↔
      k.LoadsInBounds p m ∧ k.LoadsInBounds (f (k.exec p m).1) (k.exec p m).2 := by
  induction p generalizing m with
  | done a => exact ⟨fun h => ⟨trivial, h⟩, fun h => h.2⟩
  | call op next ih =>
      constructor
      · intro h
        obtain ⟨hnext, hrest⟩ := (ih _).mp h.2
        exact ⟨⟨h.1, hnext⟩, hrest⟩
      · intro h
        exact ⟨h.1.1, (ih _).mpr ⟨h.1.2, h.2⟩⟩

theorem Kernel.SkbExact.loadsInBounds (hk : k.SkbExact) (p : Ebpf α) (m : Machine) :
    k.LoadsInBounds p m := by
  induction p generalizing m with
  | done a => trivial
  | call op next ih =>
      have load : k.LoadInBounds m op := by
        cases op with
        | skbLoadBytes off n => exact fun _ => hk _
        | _ => trivial
      exact ⟨load, ih _ _⟩

/-- On such a run, a program that only loads cannot tell the kernels apart. -/
theorem exec_unfaulted {p : Ebpf α} (hp : p.Uses Op.Peeks) (h : k.LoadsInBounds p m) :
    k.exec p m = k.unfaulted.exec p m := by
  induction p generalizing m with
  | done a => rfl
  | call op next ih =>
      have answer : k.answer op m = k.unfaulted.answer op m := by
        cases op with
        | skbLoadBytes off n =>
            have hin : off + n ≤ m.skb.length → k.skbFault m.log.length = false := h.1
            by_cases hle : off + n ≤ m.skb.length
            · simp only [Kernel.answer, Kernel.unfaulted, hin hle, hle]
            · simp only [Kernel.answer, Kernel.unfaulted, hle, and_false]
        | diag update => rfl
        | _ => exact hp.1.elim
      change k.exec (next (k.answer op m).1) (k.answer op m).2 =
        k.unfaulted.exec (next (k.unfaulted.answer op m).1) (k.unfaulted.answer op m).2
      rw [ih _ (hp.2 _) h.2, answer]

/-- A read that fails there reaches past the end of the packet. -/
theorem Reads.short {p : Ebpf (Option α)} {need : Nat} {f : List UInt8 → α} (h : Reads p need f)
    (hp : p.Uses Op.Peeks) (hload : k.LoadsInBounds p m) (failed : (k.exec p m).1 = none) :
    m.skb.length < need := by
  have hread := h k.unfaulted m
  rw [exec_unfaulted hp hload] at failed
  generalize k.unfaulted.exec p m = z at hread failed
  cases hread with
  | got => cases failed
  | failed log same cause =>
      have bounded : k.unfaulted.SkbExact := fun _ => rfl
      exact cause.resolve_left bounded.not_spurious

end Loads

/-- What a call records. -/
def Op.record (d : Diag) : Op → Diag
  | .diag update => update d
  | _ => d

theorem diagnose_call {α : Type} (k : Kernel) (op : Op) (next : op.Resp → Ebpf α) (m : Machine)
    (d : Diag) :
    k.diagnose (.call op next) m d =
      k.diagnose (next (k.answer op m).1) (k.answer op m).2 (op.record d) := by
  cases op <;> rfl

theorem diagnose_bind {α β : Type} (k : Kernel) (p : Ebpf α) (f : α → Ebpf β) (m : Machine)
    (d : Diag) :
    k.diagnose (p >>= f) m d =
      k.diagnose (f (k.exec p m).1) (k.exec p m).2 (k.diagnose p m d) := by
  induction p generalizing m d with
  | done a => rfl
  | call op next ih =>
      change k.diagnose (.call op fun r => next r >>= f) m d = _
      rw [diagnose_call, diagnose_call, ih]
      rfl

/-- Where the counter maps are available, and loads in bounds if `inBounds`, the run counts
a list that after `before` leaves numbers of open invocations permitted by `P`. -/
def Accounts {α : Type} (k : Kernel) (inBounds : Prop) (p : Ebpf α) (m : Machine)
    (before : List Counter) (P : Nat → Nat → Prop) : Prop :=
  (inBounds → k.LoadsInBounds p m) → ∀ d : Diag, d.Available →
    ∃ t f r, Counted t d (k.diagnose p m d) ∧ Leaves f r (before ++ t) ∧ P f r

/-- Every invocation has its outcome. -/
def Closed (f r : Nat) : Prop := f = 0 ∧ r = 0

instance (f r : Nat) : Decidable (Closed f r) := inferInstanceAs (Decidable (_ ∧ _))

section Rules
variable {α β : Type} {k : Kernel} {inBounds : Prop} {m : Machine} {before : List Counter}
  {P : Nat → Nat → Prop}

theorem Accounts.exit {f r : Nat} (a : α) (h : Leaves f r before) (hP : P f r) :
    Accounts k inBounds (pure a) m before P := by
  intro _ d hd
  exact ⟨[], f, r, .refl hd, by rw [List.append_nil]; exact h, hP⟩

theorem Accounts.mono {P' : Nat → Nat → Prop} {p : Ebpf α} (h : Accounts k inBounds p m before P)
    (hP : ∀ f r, P f r → P' f r) : Accounts k inBounds p m before P' := by
  intro hload d hd
  obtain ⟨t, f, r, ht, leaves, hpost⟩ := h hload d hd
  exact ⟨t, f, r, ht, leaves, hP f r hpost⟩

/-- A part that closes what it opens. -/
theorem Accounts.settle {p : Ebpf α} {q : α → Ebpf β} (hp : Accounts k inBounds p m [] Closed)
    (h : Accounts k inBounds (q (k.exec p m).1) (k.exec p m).2 before P) :
    Accounts k inBounds (p >>= q) m before P := by
  intro hload d hd
  have hloads := fun hin => loadsInBounds_bind.mp (hload hin)
  obtain ⟨u, _, _, hu, balanced, rfl, rfl⟩ := hp (fun hin => (hloads hin).1) d hd
  obtain ⟨t, f, r, ht, leaves, hpost⟩ := h (fun hin => (hloads hin).2) _ hu.available
  rw [diagnose_bind]
  exact ⟨u ++ t, f, r, hu.trans ht, leaves.insert balanced, hpost⟩

/-- A diagnostic update that counts `t`. -/
theorem Accounts.count {update : Diag → Diag} {t : List Counter} {q : Unit → Ebpf β}
    (counts : ∀ d : Diag, d.Available → Counted t d (update d))
    (h : Accounts k inBounds (q ()) m (before ++ t) P) :
    Accounts k inBounds (diag update >>= q) m before P := by
  intro hload d hd
  obtain ⟨u, f, r, hu, leaves, hpost⟩ :=
    h (fun hin => (loadsInBounds_bind.mp (hload hin)).2) _ (counts d hd).available
  rw [diagnose_bind]
  exact ⟨t ++ u, f, r, (counts d hd).trans hu, by rw [← List.append_assoc]; exact leaves, hpost⟩

theorem Accounts.withCounters {prod : List ProdCounter} {debug : List DebugCounter}
    {q : Unit → Ebpf β} (h : Accounts k inBounds (q ()) m (before ++ counted prod debug) P) :
    Accounts k inBounds (withCounters prod debug >>= q) m before P :=
  Accounts.count (fun _ hd => counted_withCounters prod debug hd) h

/-- A silent program closes what it opens, whatever it is answered. -/
theorem accounts_silent {p : Ebpf α} (hp : p.Uses Op.Silent) :
    Accounts k inBounds p m [] Closed := by
  suffices hrun : ∀ d : Diag, d.Available →
      ∃ t, Counted t d (k.diagnose p m d) ∧ Leaves 0 0 t by
    intro _ d hd
    obtain ⟨t, ht, balanced⟩ := hrun d hd
    exact ⟨t, 0, 0, ht, balanced, rfl, rfl⟩
  induction p generalizing m with
  | done a => exact fun d hd => ⟨[], .refl hd, .nil⟩
  | call op next ih =>
      intro d hd
      have hop : ∃ t, Counted t d (op.record d) ∧ Leaves 0 0 t := by
        cases op with
        | diag update => exact hp.1 d hd
        | _ => exact ⟨[], .refl hd, .nil⟩
      obtain ⟨t, ht, balanced⟩ := hop
      obtain ⟨u, hu, balanced'⟩ := ih _ (hp.2 _) _ ht.available
      rw [diagnose_call]
      exact ⟨t ++ u, ht.trans hu, balanced.append balanced'⟩

theorem Accounts.any {p : Ebpf α} {q : α → Ebpf β} (hp : p.Uses Op.Silent)
    (h : ∀ a m', Accounts k inBounds (q a) m' before P) :
    Accounts k inBounds (p >>= q) m before P :=
  (accounts_silent hp).settle (h _ _)

theorem Accounts.diag {update : Diag → Diag} {q : Unit → Ebpf β} (hu : Settles update)
    (h : Accounts k inBounds (q ()) m before P) :
    Accounts k inBounds (diag update >>= q) m before P :=
  Accounts.settle (accounts_silent ⟨hu, fun _ => trivial⟩) h

theorem Accounts.config {q : Option Nat64Config → Ebpf β}
    (h : Accounts k inBounds (q m.maps.config) m before P) :
    Accounts k inBounds (configGet >>= q) m before P :=
  Accounts.settle (accounts_silent ⟨trivial, fun _ => trivial⟩) h

/-- A silent call that leaves the packet alone. -/
theorem Accounts.keeping {p : Ebpf α} {q : α → Ebpf β} (hp : p.Uses Op.Silent)
    (hskb : (k.exec p m).2.skb = m.skb)
    (h : ∀ a m', m'.skb = m.skb → Accounts k inBounds (q a) m' before P) :
    Accounts k inBounds (p >>= q) m before P :=
  (accounts_silent hp).settle (h _ _ hskb)

/-- A silent call that succeeds or fails. -/
theorem Accounts.bool {p : Ebpf Bool} {q : Bool → Ebpf β} (hp : p.Uses Op.Silent)
    (ok : (k.exec p m).1 = true → Accounts k inBounds (q true) (k.exec p m).2 before P)
    (failed : ∀ m', Accounts k inBounds (q false) m' before P) :
    Accounts k inBounds (p >>= q) m before P := by
  refine (accounts_silent hp).settle ?_
  cases hrun : (k.exec p m).1 with
  | true => exact ok hrun
  | false => exact failed _

theorem Accounts.option {γ : Type} {p : Ebpf (Option γ)} {q : Option γ → Ebpf β}
    (hp : Accounts k inBounds p m [] Closed)
    (some : ∀ a m', Accounts k inBounds (q (some a)) m' before P)
    (none : ∀ m', Accounts k inBounds (q none) m' before P) :
    Accounts k inBounds (p >>= q) m before P := by
  refine hp.settle ?_
  cases (k.exec p m).1 with
  | some a => exact some a _
  | none => exact none _

theorem Op.Peeks.silent (op : Op) (h : op.Peeks) : op.Silent := by
  cases op with
  | diag update => exact h
  | _ => trivial

/-- What follows only passes the result on. -/
theorem Accounts.pass {p : Ebpf α} {q : α → Ebpf β} (h : Accounts k inBounds p m before P)
    (hq : ∀ a, ∃ b, q a = pure b) : Accounts k inBounds (p >>= q) m before P := by
  intro hload d hd
  obtain ⟨t, f, r, ht, leaves, hpost⟩ :=
    h (fun hin => (loadsInBounds_bind.mp (hload hin)).1) d hd
  obtain ⟨b, hb⟩ := hq (k.exec p m).1
  rw [diagnose_bind, hb]
  exact ⟨t, f, r, ht, leaves, hpost⟩

/-- A read, which fails in bounds only if loads may. -/
theorem Accounts.read {γ : Type} {p : Ebpf (Option γ)} {need : Nat} {f : List UInt8 → γ}
    {q : Option γ → Ebpf β} {skb : List UInt8} {s : Maps} (h : Reads p need f)
    (hp : p.Uses Op.Peeks) (hskb : m.skb = skb) (hmaps : m.maps = s)
    (got : ∀ m', m'.skb = skb → m'.maps = s → need ≤ skb.length →
      Accounts k inBounds (q (some (f skb))) m' before P)
    (failed : ∀ m', (inBounds → skb.length < need) →
      Accounts k inBounds (q none) m' before P) :
    Accounts k inBounds (p >>= q) m before P := by
  subst hskb hmaps
  intro hload
  refine Accounts.settle (accounts_silent (hp.mono Op.Peeks.silent)) ?_ hload
  have hread := h k m
  have hshort : (k.exec p m).1 = none → inBounds → m.skb.length < need :=
    fun hnone hin => h.short hp (loadsInBounds_bind.mp (hload hin)).1 hnone
  generalize k.exec p m = z at hread hshort
  cases hread with
  | got log same within => exact got _ same.1 same.2.1 within
  | failed log same cause => exact failed _ (hshort rfl)

end Rules

end Natto64
