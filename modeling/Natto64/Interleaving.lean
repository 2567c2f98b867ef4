import Mathlib.Logic.Function.Basic
import Natto64.CallTree
import Natto64.EventRun

/-!
# Interleaved programs

Programs that run side by side. Each holds a state of its own, all share one, and a
call of one of them is a step of the whole. A program is safe when it makes only
permitted calls as long as the shared state is what it may count on.
-/
universe u
namespace Interleaving
open EventRun

variable {ι Op σ : Type*} {Resp : Op → Type*}

section Safe
variable {L : Type*} {α β : Type u} {answer : (op : Op) → L → σ → Resp op × L × σ}
  {may : L → Op → Prop}
  {knows : L → σ → Prop}

/-- Whatever the others do to the shared state between two calls, every call is permitted
and the program ends in `post`. -/
def Safe (answer : (op : Op) → L → σ → Resp op × L × σ) (may : L → Op → Prop)
    (knows : L → σ → Prop) (post : α → L → Prop) : CallTree Op Resp α → L → Prop
  | .done a, l => post a l
  | .call op next, l => may l op ∧ ∀ s, knows l s →
      Safe answer may knows post (next (answer op l s).1) (answer op l s).2.1

theorem Safe.mono {post post' : α → L → Prop} (hpost : ∀ a l, post a l → post' a l)
    {p : CallTree Op Resp α} {l : L} (h : Safe answer may knows post p l) :
    Safe answer may knows post' p l := by
  induction p generalizing l with
  | done a => exact hpost a l h
  | call op next ih => exact ⟨h.1, fun s hs => ih _ (h.2 s hs)⟩

theorem Safe.bind {post : β → L → Prop} {p : CallTree Op Resp α} {f : α → CallTree Op Resp β}
    {l : L} (h : Safe answer may knows (fun a l => Safe answer may knows post (f a) l) p l) :
    Safe answer may knows post (p >>= f) l := by
  induction p generalizing l with
  | done a => exact h
  | call op next ih => exact ⟨h.1, fun s hs => ih _ (h.2 s hs)⟩

end Safe

variable {α π : ι → Type*}

/-- What is left of each program, what it holds, and what they share. -/
structure Pool (Resp : Op → Type*) (α π : ι → Type*) (σ : Type*) where
  progs : ∀ i, CallTree Op Resp (α i)
  own : ∀ i, π i
  shared : σ

/-- The call program `i` is about to make. -/
def Pool.next (c : Pool Resp α π σ) (i : ι) : Option Op :=
  match c.progs i with
  | .done _ => none
  | .call op _ => some op

theorem Pool.next_call {c : Pool Resp α π σ} {i : ι} {op : Op}
    {next : Resp op → CallTree Op Resp (α i)} (h : c.progs i = .call op next) :
    c.next i = some op := by
  unfold Pool.next
  rw [h]

theorem Pool.call_of_next {c : Pool Resp α π σ} {i : ι} {op : Op} (h : c.next i = some op) :
    ∃ next, c.progs i = .call op next := by
  unfold Pool.next at h
  split at h
  · cases h
  · next op' next hp =>
    obtain rfl := Option.some.inj h
    exact ⟨next, hp⟩

/-- What program `i` has returned. -/
def Pool.result (c : Pool Resp α π σ) (i : ι) : Option (α i) :=
  match c.progs i with
  | .done a => some a
  | .call _ _ => none

theorem Pool.result_of_done {c : Pool Resp α π σ} {i : ι} {a : α i} (h : c.progs i = .done a) :
    c.result i = some a := by
  unfold Pool.result
  rw [h]

theorem Pool.done_of_result {c : Pool Resp α π σ} {i : ι} {a : α i} (h : c.result i = some a) :
    c.progs i = .done a := by
  unfold Pool.result at h
  split at h
  · next a' hp =>
    obtain rfl := Option.some.inj h
    exact hp
  · cases h

variable [DecidableEq ι] (answer : ∀ i (op : Op), π i → σ → Resp op × π i × σ)

/-- The next call of program `i`; a program that is done does nothing. -/
def step (c : Pool Resp α π σ) (i : ι) : Pool Resp α π σ :=
  match c.progs i with
  | .done _ => c
  | .call op next =>
      { progs := Function.update c.progs i (next (answer i op (c.own i) c.shared).1)
        own := Function.update c.own i (answer i op (c.own i) c.shared).2.1
        shared := (answer i op (c.own i) c.shared).2.2 }

variable {answer} {may : ∀ i, π i → Op → Prop} {knows : ∀ i, π i → σ → Prop}
  {post : ∀ i, α i → π i → Prop} {I : (∀ i, π i) → σ → Prop}

theorem step_done {c : Pool Resp α π σ} {i : ι} {a : α i} (h : c.progs i = .done a) :
    step answer c i = c := by
  unfold step
  rw [h]

theorem step_call {c : Pool Resp α π σ} {i : ι} {op : Op} {next : Resp op → CallTree Op Resp (α i)}
    (h : c.progs i = .call op next) :
    step answer c i =
      { progs := Function.update c.progs i (next (answer i op (c.own i) c.shared).1)
        own := Function.update c.own i (answer i op (c.own i) c.shared).2.1
        shared := (answer i op (c.own i) c.shared).2.2 } := by
  unfold step
  rw [h]

/-- The invariant holds and every program is safe from where it stands. -/
structure Sound (answer : ∀ i (op : Op), π i → σ → Resp op × π i × σ)
    (may : ∀ i, π i → Op → Prop) (knows : ∀ i, π i → σ → Prop) (post : ∀ i, α i → π i → Prop)
    (I : (∀ i, π i) → σ → Prop) (c : Pool Resp α π σ) : Prop where
  inv : I c.own c.shared
  safe : ∀ i, Safe (answer i) (may i) (knows i) (post i) (c.progs i) (c.own i)

/-- The call of a safe program that finds what it may count on leaves all programs safe: the others
hold what they held. -/
theorem safe_step {c : Pool Resp α π σ} {i : ι}
    (safe : ∀ i, Safe (answer i) (may i) (knows i) (post i) (c.progs i) (c.own i))
    (known : knows i (c.own i) c.shared) (j : ι) :
    Safe (answer j) (may j) (knows j) (post j) ((step answer c i).progs j)
      ((step answer c i).own j) := by
  cases hp : c.progs i with
  | done a =>
    rw [step_done hp]
    exact safe j
  | call op next =>
    rw [step_call hp]
    have hsafe := safe i
    rw [hp] at hsafe
    by_cases hj : j = i
    · subst hj
      simp only [Function.update_self]
      exact hsafe.2 c.shared known
    · simp only [Function.update_of_ne hj]
      exact safe j

/-- A permitted call that keeps the invariant keeps all programs safe: the invariant tells each
what it may count on. -/
theorem Sound.step {c : Pool Resp α π σ} {i : ι} (h : Sound answer may knows post I c)
    (known : ∀ own s i, I own s → knows i (own i) s)
    (preserved : ∀ op next, c.progs i = .call op next → may i (c.own i) op →
      I (Function.update c.own i (answer i op (c.own i) c.shared).2.1)
        (answer i op (c.own i) c.shared).2.2) :
    Sound answer may knows post I (step answer c i) := by
  refine ⟨?_, safe_step h.safe (known c.own c.shared i h.inv)⟩
  cases hp : c.progs i with
  | done a =>
    rw [step_done hp]
    exact h.inv
  | call op next =>
    rw [step_call hp]
    have hsafe := h.safe i
    rw [hp] at hsafe
    exact preserved op next hp hsafe.1

/-- Over a run whose steps satisfy `ok`. -/
theorem Sound.run {ok : Pool Resp α π σ → ι → Prop} {c : Pool Resp α π σ} {schedule : List ι}
    (h : Sound answer may knows post I c) (known : ∀ own s i, I own s → knows i (own i) s)
    (preserved : ∀ (c : Pool Resp α π σ) i op next, I c.own c.shared → ok c i →
      c.progs i = .call op next → may i (c.own i) op →
      I (Function.update c.own i (answer i op (c.own i) c.shared).2.1)
        (answer i op (c.own i) c.shared).2.2)
    (along : Along (Interleaving.step answer) ok c schedule) :
    Sound answer may knows post I (EventRun.run (Interleaving.step answer) c schedule) :=
  EventRun.invariant (fun c i hc hok => hc.step known fun op next =>
    preserved c i op next hc.inv hok) h along

omit [DecidableEq ι] in
theorem Sound.finished {c : Pool Resp α π σ} (h : Sound answer may knows post I c) {i : ι} {a : α i}
    (hresult : c.result i = some a) : post i a (c.own i) := by
  have hsafe := h.safe i
  rw [Pool.done_of_result hresult] at hsafe
  exact hsafe

end Interleaving
