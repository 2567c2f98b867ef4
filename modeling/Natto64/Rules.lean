import Natto64.Helpers

/-!
# Rules for runs

What a call log says about a run, programs that only read the packet, and one rule
for each call that may fail: a postcondition of `call >>= f` follows from one of `f`
at each answer.
-/
namespace Natto64
open Octets

abbrev Calls := List (Helper × Bool)

def Clean (l : Calls) : Prop := ∀ c ∈ l, c.2 = true
def Faulty (l : Calls) : Prop := ∃ c ∈ l, c.2 = false

instance (l : Calls) : Decidable (Clean l) := inferInstanceAs (Decidable (∀ c ∈ l, c.2 = true))

theorem Clean.not_faulty {l : Calls} (h : Clean l) : ¬ Faulty l := by
  rintro ⟨c, hc, hf⟩
  rw [h c hc] at hf
  cases hf

theorem Clean.append {a b : Calls} (ha : Clean a) (hb : Clean b) : Clean (a ++ b) := by
  intro c hc
  rcases List.mem_append.mp hc with h | h
  · exact ha c h
  · exact hb c h

theorem Clean.left {a b : Calls} (h : Clean (a ++ b)) : Clean a :=
  fun c hc => h c (List.mem_append_left b hc)

theorem Clean.right {a b : Calls} (h : Clean (a ++ b)) : Clean b :=
  fun c hc => h c (List.mem_append_right a hc)

theorem Faulty.append_left {a b : Calls} (h : Faulty b) : Faulty (a ++ b) := by
  obtain ⟨c, hc, hf⟩ := h
  exact ⟨c, List.mem_append_right a hc, hf⟩

theorem Faulty.append_right {a b : Calls} (h : Faulty a) : Faulty (a ++ b) := by
  obtain ⟨c, hc, hf⟩ := h
  exact ⟨c, List.mem_append_left b hc, hf⟩

namespace Machine

/-- The calls made between two states all succeeded, or one of them failed. -/
def CleanTo (m m' : Machine) : Prop := ∃ l, m'.log = l ++ m.log ∧ Clean l
def FaultyTo (m m' : Machine) : Prop := ∃ l, m'.log = l ++ m.log ∧ Faulty l

theorem CleanTo.refl (m : Machine) : m.CleanTo m :=
  ⟨[], rfl, fun _ hc => absurd hc List.not_mem_nil⟩

theorem CleanTo.trans {a b c : Machine} (hab : a.CleanTo b) (hbc : b.CleanTo c) :
    a.CleanTo c := by
  obtain ⟨l, hl, cl⟩ := hab
  obtain ⟨l', hl', cl'⟩ := hbc
  exact ⟨l' ++ l, by rw [hl', hl, List.append_assoc], cl'.append cl⟩

theorem CleanTo.trans_faulty {a b c : Machine} (hab : a.CleanTo b) (hbc : b.FaultyTo c) :
    a.FaultyTo c := by
  obtain ⟨l, hl, -⟩ := hab
  obtain ⟨l', hl', fl'⟩ := hbc
  exact ⟨l' ++ l, by rw [hl', hl, List.append_assoc], fl'.append_right⟩

/-- One more call. -/
theorem CleanTo.logged {a b : Machine} (h : a.CleanTo b) (helper : Helper) :
    a.CleanTo (b.logged helper true) :=
  h.trans ⟨[(helper, true)], rfl, fun _ hc => by rw [List.mem_singleton.mp hc]⟩

theorem CleanTo.faulted {a b : Machine} (h : a.CleanTo b) (helper : Helper) :
    a.FaultyTo (b.logged helper false) :=
  h.trans_faulty ⟨[(helper, false)], rfl, _, List.mem_singleton_self _, rfl⟩

/-- The log alone decides both. -/
theorem CleanTo.of_log {a b c : Machine} (h : a.CleanTo b) (e : c.log = b.log) :
    a.CleanTo c := by
  rw [CleanTo, e]
  exact h

theorem FaultyTo.of_log {a b c : Machine} (h : a.FaultyTo b) (e : c.log = b.log) :
    a.FaultyTo c := by
  rw [FaultyTo, e]
  exact h

/-- Only the packet and the log differ. -/
def SameMaps (m m' : Machine) : Prop := m'.maps = m.maps ∧ m'.cpu = m.cpu

theorem SameMaps.trans {a b c : Machine} (hab : a.SameMaps b) (hbc : b.SameMaps c) :
    a.SameMaps c :=
  ⟨hbc.1.trans hab.1, hbc.2.trans hab.2⟩

/-- Only the log differs. -/
def SameState (m m' : Machine) : Prop := m'.skb = m.skb ∧ m.SameMaps m'

theorem SameState.trans {a b c : Machine} (hab : a.SameState b) (hbc : b.SameState c) :
    a.SameState c :=
  ⟨hbc.1.trans hab.1, hab.2.trans hbc.2⟩

end Machine

/-- Loads and stores may fail in bounds. -/
def Kernel.Spurious (k : Kernel) : Prop := ∃ n, k.skbFault n = true

/-- Loads and stores fail exactly out of bounds. -/
def Kernel.SkbExact (k : Kernel) : Prop := ∀ n, k.skbFault n = false

theorem Kernel.SkbExact.not_spurious {k : Kernel} (h : k.SkbExact) : ¬ k.Spurious := by
  rintro ⟨n, hn⟩
  rw [h n] at hn
  cases hn

theorem spurious_or_short {k : Kernel} {m : Machine} {off n : Nat} (h : ¬ k.Reaches m off n) :
    k.Spurious ∨ m.skb.length < off + n := by
  by_cases hf : k.skbFault m.log.length = false
  · exact .inr (Nat.lt_of_not_le fun hle => h ⟨hf, hle⟩)
  · exact .inl ⟨_, Bool.not_eq_false _ |>.mp hf⟩

/-- The end of a program that reads `need` octets of the packet to return `a`. -/
inductive ReadCase {α : Type} (k : Kernel) (m : Machine) (need : Nat) (a : α) :
    Option α × Machine → Prop
  | got {m'} (log : m.CleanTo m') (same : m.SameState m') (within : need ≤ m.skb.length) :
      ReadCase k m need a (some a, m')
  | failed {m'} (log : m.FaultyTo m') (same : m.SameState m')
      (cause : k.Spurious ∨ m.skb.length < need) : ReadCase k m need a (none, m')

/-- The program returns `f` of the packet, or `none`, and changes nothing. -/
def Reads {α : Type} (p : Ebpf (Option α)) (need : Nat) (f : List UInt8 → α) : Prop :=
  ∀ (k : Kernel) (m : Machine), ReadCase k m need (f m.skb) (k.exec p m)

section Reads
variable {α β : Type}

theorem Reads.loadU8 (off : Nat) :
    Reads (loadU8 off) (off + 1) fun skb => UInt8.ofNat (leNat (slice skb off 1)) := by
  intro k m
  rw [exec_loadU8]
  split
  case isTrue h => exact .got ((Machine.CleanTo.refl m).logged _) ⟨rfl, rfl, rfl⟩ h.2
  case isFalse h =>
      exact .failed ((Machine.CleanTo.refl m).faulted _) ⟨rfl, rfl, rfl⟩ (spurious_or_short h)

theorem Reads.loadU16 (off : Nat) :
    Reads (loadU16 off) (off + 2) fun skb => ofNeBytes16 (slice skb off 2) := by
  intro k m
  rw [exec_loadU16]
  split
  case isTrue h => exact .got ((Machine.CleanTo.refl m).logged _) ⟨rfl, rfl, rfl⟩ h.2
  case isFalse h =>
      exact .failed ((Machine.CleanTo.refl m).faulted _) ⟨rfl, rfl, rfl⟩ (spurious_or_short h)

theorem Reads.loadU32 (off : Nat) :
    Reads (loadU32 off) (off + 4) fun skb => ofNeBytes32 (slice skb off 4) := by
  intro k m
  rw [exec_loadU32]
  split
  case isTrue h => exact .got ((Machine.CleanTo.refl m).logged _) ⟨rfl, rfl, rfl⟩ h.2
  case isFalse h =>
      exact .failed ((Machine.CleanTo.refl m).faulted _) ⟨rfl, rfl, rfl⟩ (spurious_or_short h)

theorem Reads.map {p : Ebpf (Option α)} {need : Nat} {f : List UInt8 → α} (h : Reads p need f)
    (g : α → β) : Reads (Option.map g <$> p) need fun skb => g (f skb) := by
  intro k m
  have hp := h k m
  rw [exec_map]
  generalize k.exec p m = r at hp ⊢
  cases hp with
  | got log same within => exact .got log same within
  | failed log same cause => exact .failed log same cause

theorem Reads.congr {p : Ebpf (Option α)} {need : Nat} {f g : List UInt8 → α}
    (h : Reads p need f) (hfg : ∀ skb, need ≤ skb.length → f skb = g skb) : Reads p need g := by
  intro k m
  have hp := h k m
  generalize k.exec p m = r at hp ⊢
  cases hp with
  | got log same within => exact hfg _ within ▸ .got log same within
  | failed log same cause => exact .failed log same cause

/-- Two reads in a row, the second reaching further. -/
theorem ReadCase.bind {k : Kernel} {m : Machine} {p : Ebpf (Option α)} {need need' : Nat} {a : α}
    {b : β} {q : Option α → Ebpf (Option β)} (hp : ReadCase k m need a (k.exec p m))
    (hle : need ≤ need') (hnone : ∀ m', k.exec (q none) m' = (none, m'))
    (hsome : ∀ m', m'.skb = m.skb → need ≤ m.skb.length →
      ReadCase k m' need' b (k.exec (q (some a)) m')) :
    ReadCase k m need' b (k.exec (p >>= q) m) := by
  rw [exec_bind]
  generalize k.exec p m = r at hp ⊢
  cases hp with
  | @got m' log same within =>
      have hq := hsome m' same.1 within
      dsimp only at hq ⊢
      generalize k.exec (q (some a)) m' = r at hq ⊢
      cases hq with
      | got log' same' within' =>
          exact .got (log.trans log') (same.trans same') (same.1 ▸ within')
      | failed log' same' cause' =>
          exact .failed (log.trans_faulty log') (same.trans same') (same.1 ▸ cause')
  | @failed m' log same cause =>
      rw [hnone]
      exact .failed log same (cause.imp_right fun h => h.trans_le hle)

end Reads

section Rules
variable {α β : Type} {k : Kernel} {m : Machine} {P : β × Machine → Prop}

theorem Reads.rule {p : Ebpf (Option α)} {need : Nat} {f : List UInt8 → α} (h : Reads p need f)
    {q : Option α → Ebpf β}
    (got : ∀ m', m.CleanTo m' → m.SameState m' → need ≤ m.skb.length →
      P (k.exec (q (some (f m.skb))) m'))
    (failed : ∀ m', m.FaultyTo m' → m.SameState m' → (k.Spurious ∨ m.skb.length < need) →
      P (k.exec (q none) m')) : P (k.exec (p >>= q) m) := by
  have hp := h k m
  rw [exec_bind]
  generalize k.exec p m = r at hp ⊢
  cases hp with
  | got log same within => exact got _ log same within
  | failed log same cause => exact failed _ log same cause

/-- The same after calls that have only read. -/
theorem Reads.rule_after {m₀ : Machine} {p : Ebpf (Option α)} {need : Nat} {f : List UInt8 → α}
    (h : Reads p need f) (log₀ : m.CleanTo m₀) (same₀ : m.SameState m₀) {q : Option α → Ebpf β}
    (got : ∀ m', m.CleanTo m' → m.SameState m' → need ≤ m.skb.length →
      P (k.exec (q (some (f m.skb))) m'))
    (failed : ∀ m', m.FaultyTo m' → m.SameState m' → (k.Spurious ∨ m.skb.length < need) →
      P (k.exec (q none) m')) : P (k.exec (p >>= q) m₀) := by
  refine h.rule (fun m' log same within => ?_) (fun m' log same cause => ?_)
  · rw [same₀.1] at within ⊢
    exact got m' (log₀.trans log) (same₀.trans same) within
  · rw [same₀.1] at cause
    exact failed m' (log₀.trans_faulty log) (same₀.trans same) cause

theorem store_rule {off : Nat} {bytes : List UInt8} {q : Bool → Ebpf β}
    (ok : ∀ m', off + bytes.length ≤ m.skb.length → m'.skb = overwrite m.skb off bytes →
      m.SameMaps m' → m.CleanTo m' → P (k.exec (q true) m'))
    (failed : ∀ m', (k.Spurious ∨ m.skb.length < off + bytes.length) → m.SameState m' →
      m.FaultyTo m' → P (k.exec (q false) m')) :
    P (k.exec (store off bytes >>= q) m) := by
  rw [exec_bind, exec_store]
  by_cases h : k.Reaches m off bytes.length
  · rw [if_pos h]
    exact ok _ h.2 rfl ⟨rfl, rfl⟩ ((Machine.CleanTo.refl m).logged .skbStoreBytes)
  · rw [if_neg h]
    exact failed _ (spurious_or_short h) ⟨rfl, rfl, rfl⟩ ((Machine.CleanTo.refl m).faulted _)

theorem exec_changeProto_ok {proto : UInt16} {skb : List UInt8}
    (changed : changeProtoSkb k.room proto m.skb = some skb) (ok : k.changeProtoOk = true) :
    k.exec (changeProto proto) m = (true, (m.logged .skbChangeProto true).setSkb skb) := by
  change k.answer (.skbChangeProto proto) m = _
  rw [Kernel.answer, ok, changed]
  rfl

theorem exec_changeProto_failed (proto : UInt16) (failed : k.changeProtoOk = false) :
    k.exec (changeProto proto) m = (false, m.logged .skbChangeProto false) := by
  change k.answer (.skbChangeProto proto) m = _
  rw [Kernel.answer, failed]
  rfl

theorem changeProto_rule {proto : UInt16} {skb : List UInt8} {q : Bool → Ebpf β}
    (changed : changeProtoSkb k.room proto m.skb = some skb)
    (ok : ∀ m', k.changeProtoOk = true → m'.skb = skb → m.SameMaps m' → m.CleanTo m' →
      P (k.exec (q true) m'))
    (failed : ∀ m', k.changeProtoOk = false → m.SameState m' → m.FaultyTo m' →
      P (k.exec (q false) m')) :
    P (k.exec (changeProto proto >>= q) m) := by
  rw [exec_bind]
  cases hok : k.changeProtoOk with
  | false =>
      rw [exec_changeProto_failed proto hok]
      exact failed _ hok ⟨rfl, rfl, rfl⟩ ((Machine.CleanTo.refl m).faulted _)
  | true =>
      rw [exec_changeProto_ok changed hok]
      exact ok _ hok rfl ⟨rfl, rfl⟩ ((Machine.CleanTo.refl m).logged .skbChangeProto)

theorem csumDiff_rule {old new : List UInt8} {q : Option UInt64 → Ebpf β}
    (ok : ∀ d, k.csumDiff old new = some d →
      P (k.exec (q (some d)) (m.logged .csumDiff true)))
    (failed : k.csumDiff old new = none → P (k.exec (q none) (m.logged .csumDiff false))) :
    P (k.exec (bpfCsumDiff old new >>= q) m) := by
  have hrun : k.exec (bpfCsumDiff old new) m =
      (k.csumDiff old new, m.logged .csumDiff (k.csumDiff old new).isSome) := rfl
  rw [exec_bind, hrun]
  cases h : k.csumDiff old new with
  | none => exact failed h
  | some d => exact ok d h

theorem exec_l4CsumReplace_ok {off : Nat} {old new flags : UInt64} {field : UInt16}
    (updated : k.l4Csum (ofNeBytes16 (slice m.skb off 2)) old new flags = some field)
    (inside : off + 2 ≤ m.skb.length) :
    k.exec (l4CsumReplace off old new flags) m =
      (true, (m.logged .l4CsumReplace true).setSkb (overwrite m.skb off (neBytes16 field))) := by
  change k.answer (.l4CsumReplace off old new flags) m = _
  simp only [Kernel.answer, updated, if_pos inside]
  rfl

theorem exec_l4CsumReplace_failed {off : Nat} {old new flags : UInt64}
    (h : k.l4Csum (ofNeBytes16 (slice m.skb off 2)) old new flags = none ∨
      m.skb.length < off + 2) :
    k.exec (l4CsumReplace off old new flags) m = (false, m.logged .l4CsumReplace false) := by
  change k.answer (.l4CsumReplace off old new flags) m = _
  cases updated : k.l4Csum (ofNeBytes16 (slice m.skb off 2)) old new flags with
  | none =>
      simp only [Kernel.answer, updated]
      rfl
  | some field =>
      rw [updated] at h
      obtain h | outside := h
      · cases h
      · simp only [Kernel.answer, updated, if_neg (Nat.not_le_of_lt outside)]
        rfl

theorem l4CsumReplace_rule {off : Nat} {old new flags : UInt64} {q : Bool → Ebpf β}
    (ok : ∀ field, k.l4Csum (ofNeBytes16 (slice m.skb off 2)) old new flags = some field →
      off + 2 ≤ m.skb.length → P (k.exec (q true)
        ((m.logged .l4CsumReplace true).setSkb (overwrite m.skb off (neBytes16 field)))))
    (failed : (k.l4Csum (ofNeBytes16 (slice m.skb off 2)) old new flags = none ∨
        m.skb.length < off + 2) →
      P (k.exec (q false) (m.logged .l4CsumReplace false))) :
    P (k.exec (l4CsumReplace off old new flags >>= q) m) := by
  rw [exec_bind]
  cases h : k.l4Csum (ofNeBytes16 (slice m.skb off 2)) old new flags with
  | none =>
      rw [exec_l4CsumReplace_failed (.inl h)]
      exact failed (.inl h)
  | some field =>
      by_cases hb : off + 2 ≤ m.skb.length
      · rw [exec_l4CsumReplace_ok h hb]
        exact ok field h hb
      · have outside : m.skb.length < off + 2 := Nat.lt_of_not_le hb
        rw [exec_l4CsumReplace_failed (.inr outside)]
        exact failed (.inr outside)

/-- A call that answers a stated condition; for the map and timer calls it is one of
the kernel's answers. -/
theorem branch_rule {p : Ebpf Bool} {c : Bool} {mt mf : Machine} {q : Bool → Ebpf β}
    (run : k.exec p m = if c then (true, mt) else (false, mf))
    (ok : c = true → P (k.exec (q true) mt)) (failed : c = false → P (k.exec (q false) mf)) :
    P (k.exec (p >>= q) m) := by
  rw [exec_bind, run]
  cases c with
  | false => exact failed rfl
  | true => exact ok rfl

end Rules

end Natto64
