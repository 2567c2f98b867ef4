import Mathlib.Logic.Function.Basic
import Mathlib.Tactic.Common

/-!
# Programs as trees of calls

A program that computes only through calls to its environment is the finite tree
of those calls: a node names the call, its children are indexed by the answer.
Every semantics below folds a handler over the same tree.
-/
universe u v w

/-- A program over the calls `Op`, whose call `op` is answered in `Resp op`. -/
inductive CallTree (Op : Type u) (Resp : Op → Type v) (α : Type w) : Type (max u v w)
  | done (a : α)
  | call (op : Op) (next : Resp op → CallTree Op Resp α)

namespace CallTree
variable {Op : Type u} {Resp : Op → Type v} {α β : Type w}

def bind : CallTree Op Resp α → (α → CallTree Op Resp β) → CallTree Op Resp β
  | done a, f => f a
  | call op next, f => call op fun r => bind (next r) f

instance : Monad (CallTree Op Resp) where
  pure := done
  bind := bind

theorem bind_done (p : CallTree Op Resp α) : p.bind done = p := by
  induction p with
  | done a => rfl
  | call op next ih => simp only [bind, ih]

theorem bind_assoc {γ : Type w} (p : CallTree Op Resp α) (f : α → CallTree Op Resp β)
    (g : β → CallTree Op Resp γ) : (p.bind f).bind g = p.bind fun a => (f a).bind g := by
  induction p with
  | done a => rfl
  | call op next ih => simp only [bind, ih]

instance : LawfulMonad (CallTree Op Resp) :=
  LawfulMonad.mk' _ bind_done (fun _ _ => rfl) bind_assoc

/-- The program that makes one call and returns its answer. -/
def perform {Resp : Op → Type w} (op : Op) : CallTree Op Resp (Resp op) := call op done

section Exec
variable {σ : Type w} {Resp : Op → Type w} (h : (op : Op) → σ → Resp op × σ)

/-- Each call is answered by the handler, which threads its own state. -/
def exec : CallTree Op Resp α → σ → α × σ
  | done a, s => (a, s)
  | call op next, s => exec (next (h op s).1) (h op s).2

@[simp] theorem exec_done (a : α) (s : σ) : exec h (done a) s = (a, s) := rfl

@[simp] theorem exec_pure (a : α) (s : σ) :
    exec h (pure a : CallTree Op Resp α) s = (a, s) := rfl

@[simp] theorem exec_perform (op : Op) (s : σ) : exec h (perform op) s = h op s := rfl

@[simp] theorem exec_bind (p : CallTree Op Resp α) (f : α → CallTree Op Resp β) (s : σ) :
    exec h (p >>= f) s = exec h (f (exec h p s).1) (exec h p s).2 := by
  induction p generalizing s with
  | done a => rfl
  | call op next ih => exact ih _ _

@[simp] theorem exec_map (p : CallTree Op Resp α) (f : α → β) (s : σ) :
    exec h (f <$> p) s = (f (exec h p s).1, (exec h p s).2) := by
  rw [map_eq_pure_bind, exec_bind, exec_pure]

/-- Two handlers that answer alike and keep their states related run every program alike. -/
theorem exec_related {τ : Type w} {h : (op : Op) → σ → Resp op × σ}
    {h' : (op : Op) → τ → Resp op × τ} {R : σ → τ → Prop}
    (alike : ∀ op s t, R s t → (h op s).1 = (h' op t).1 ∧ R (h op s).2 (h' op t).2)
    (p : CallTree Op Resp α) {s : σ} {t : τ} (related : R s t) :
    (exec h p s).1 = (exec h' p t).1 ∧ R (exec h p s).2 (exec h' p t).2 := by
  induction p generalizing s t with
  | done a => exact ⟨rfl, related⟩
  | call op next ih =>
      obtain ⟨answer, after⟩ := alike op s t related
      rw [exec, exec, ← answer]
      exact ih _ after

end Exec

/-- Every call of the program, whatever the earlier answers were, satisfies `A`. -/
def Uses (A : Op → Prop) : CallTree Op Resp α → Prop
  | done _ => True
  | call op next => A op ∧ ∀ r, (next r).Uses A

@[simp] theorem uses_pure (A : Op → Prop) (a : α) :
    (pure a : CallTree Op Resp α).Uses A := trivial

@[simp] theorem uses_perform {Resp : Op → Type w} (A : Op → Prop) (op : Op) :
    (perform op : CallTree Op Resp (Resp op)).Uses A ↔ A op :=
  ⟨fun h => h.1, fun h => ⟨h, fun _ => trivial⟩⟩

theorem Uses.bind {A : Op → Prop} {p : CallTree Op Resp α} {f : α → CallTree Op Resp β}
    (hp : p.Uses A) (hf : ∀ a, (f a).Uses A) : (p >>= f).Uses A := by
  induction p with
  | done a => exact hf a
  | call op next ih => exact ⟨hp.1, fun r => ih r (hp.2 r)⟩

theorem Uses.map {A : Op → Prop} {p : CallTree Op Resp α} (hp : p.Uses A) (f : α → β) :
    (f <$> p).Uses A := by
  rw [map_eq_pure_bind]
  exact hp.bind fun _ => trivial

theorem Uses.bindOption {γ : Type w} {A : Op → Prop} {p : CallTree Op Resp (Option γ)}
    {f : Option γ → CallTree Op Resp β} (hp : p.Uses A) (hnone : (f none).Uses A)
    (hsome : ∀ a, (f (some a)).Uses A) : (p >>= f).Uses A := by
  apply hp.bind
  intro a
  cases a with
  | none => exact hnone
  | some a => exact hsome a

theorem Uses.bindBool {Op : Type u} {Resp : Op → Type v} {β : Type} {A : Op → Prop}
    {p : CallTree Op Resp Bool} {f : Bool → CallTree Op Resp β} (hp : p.Uses A)
    (htrue : (f true).Uses A) (hfalse : (f false).Uses A) : (p >>= f).Uses A := by
  apply hp.bind
  intro b
  cases b with
  | false => exact hfalse
  | true => exact htrue

theorem Uses.mono {A B : Op → Prop} (hAB : ∀ op, A op → B op) {p : CallTree Op Resp α}
    (hp : p.Uses A) : p.Uses B := by
  induction p with
  | done a => trivial
  | call op next ih => exact ⟨hAB op hp.1, fun r => ih r (hp.2 r)⟩

section Ignores
variable {forget : (op : Op) → Resp op → Resp op}

/-- What follows a call does not depend on what `forget` takes from its answer. -/
def Ignores (forget : (op : Op) → Resp op → Resp op) : CallTree Op Resp α → Prop
  | done _ => True
  | call op next => ∀ r, next r = next (forget op r) ∧ (next r).Ignores forget

theorem Ignores.bind {p : CallTree Op Resp α} {f : α → CallTree Op Resp β}
    (hp : p.Ignores forget) (hf : ∀ a, (f a).Ignores forget) : (p >>= f).Ignores forget := by
  induction p with
  | done a => exact hf a
  | call op next ih =>
      intro r
      exact ⟨congrArg (fun p => p >>= f) (hp r).1, ih r (hp r).2⟩

/-- Nothing is taken from the answers of the calls it makes. -/
theorem Uses.ignores {p : CallTree Op Resp α} (hp : p.Uses fun op => ∀ r, forget op r = r) :
    p.Ignores forget := by
  induction p with
  | done a => trivial
  | call op next ih =>
      intro r
      exact ⟨by rw [hp.1 r], ih r (hp.2 r)⟩

/-- Two handlers whose answers differ in nothing the program looks at, and that keep their
states related, run it alike. -/
theorem Ignores.exec_related {σ τ : Type w} {Resp : Op → Type w}
    {forget : (op : Op) → Resp op → Resp op} {h : (op : Op) → σ → Resp op × σ}
    {h' : (op : Op) → τ → Resp op × τ} {R : σ → τ → Prop}
    (alike : ∀ op s t, R s t →
      forget op (h op s).1 = forget op (h' op t).1 ∧ R (h op s).2 (h' op t).2)
    {p : CallTree Op Resp α} (hp : p.Ignores forget) {s : σ} {t : τ} (related : R s t) :
    (exec h p s).1 = (exec h' p t).1 ∧ R (exec h p s).2 (exec h' p t).2 := by
  induction p generalizing s t with
  | done a => exact ⟨rfl, related⟩
  | call op next ih =>
      obtain ⟨answer, after⟩ := alike op s t related
      have same : next (h op s).1 = next (h' op t).1 := by
        rw [(hp _).1, answer, ← (hp _).1]
      rw [exec, exec, same]
      exact ih _ (hp _).2 after

end Ignores

end CallTree
