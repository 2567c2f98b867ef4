import Mathlib.Logic.Function.Basic
import Mathlib.Tactic.Common

/-!
# Tables of bindings

A translator binds flows to endpoints, no two flows to one. What it does is a trace of
actions on its table, and the trace alone shows what every use of a binding relies on.
-/
universe u v

/-- Some flows are bound, and an endpoint to one flow only. -/
@[ext] structure BindingTable (F : Type u) (E : Type v) where
  binding : F → Option E
  inj : ∀ f f' e, binding f = some e → binding f' = some e → f = f'

namespace BindingTable
variable {F : Type u} {E : Type v}

inductive Action (F : Type u) (E : Type v)
  | opens (f : F) (e : E)
  | sends (f : F) (e : E)
  | delivers (f : F) (e : E)
  | closes (f : F)
  deriving DecidableEq

/-- A packet passed between the flow and the endpoint, one way or the other. -/
def Action.Uses (f : F) (e : E) (a : Action F E) : Prop := a = .sends f e ∨ a = .delivers f e

def empty : BindingTable F E where
  binding := fun _ => none
  inj := fun _ _ _ h => absurd h (Option.some_ne_none _).symm

variable [DecidableEq F]

/-- A flow gets an endpoint that no flow has. -/
def assign (t : BindingTable F E) (f : F) (e : E) (free : ∀ f', t.binding f' ≠ some e) :
    BindingTable F E where
  binding := Function.update t.binding f (some e)
  inj := by
    intro f₁ f₂ e' h₁ h₂
    by_cases hf₁ : f₁ = f
    · by_cases hf₂ : f₂ = f
      · exact hf₁.trans hf₂.symm
      · subst hf₁
        rw [Function.update_self] at h₁
        rw [Function.update_of_ne hf₂] at h₂
        obtain rfl := Option.some.inj h₁
        exact absurd h₂ (free f₂)
    · rw [Function.update_of_ne hf₁] at h₁
      by_cases hf₂ : f₂ = f
      · subst hf₂
        rw [Function.update_self] at h₂
        obtain rfl := Option.some.inj h₂
        exact absurd h₁ (free f₁)
      · rw [Function.update_of_ne hf₂] at h₂
        exact t.inj f₁ f₂ e' h₁ h₂

def release (t : BindingTable F E) (f : F) : BindingTable F E where
  binding := Function.update t.binding f none
  inj := by
    intro f₁ f₂ e h₁ h₂
    have kept : ∀ f' e', Function.update t.binding f none f' = some e' →
        t.binding f' = some e' := by
      intro f' e' h'
      by_cases hf : f' = f
      · subst hf
        rw [Function.update_self] at h'
        cases h'
      · rwa [Function.update_of_ne hf] at h'
    exact t.inj f₁ f₂ e (kept f₁ e h₁) (kept f₂ e h₂)

section Binding
variable (t : BindingTable F E) (f : F) (e : E) (free : ∀ f', t.binding f' ≠ some e)

@[simp] theorem assign_self : (t.assign f e free).binding f = some e := Function.update_self ..
@[simp] theorem release_self : (t.release f).binding f = none := Function.update_self ..

theorem assign_of_ne {f' : F} (h : f' ≠ f) : (t.assign f e free).binding f' = t.binding f' :=
  Function.update_of_ne h ..

theorem release_of_ne {f' : F} (h : f' ≠ f) : (t.release f).binding f' = t.binding f' :=
  Function.update_of_ne h ..

end Binding

/-- What a translator may do. -/
inductive Step : BindingTable F E → Action F E → BindingTable F E → Prop
  | opens {t f e} (new : t.binding f = none) (free : ∀ f', t.binding f' ≠ some e) :
      Step t (.opens f e) (t.assign f e free)
  | sends {t f e} (bound : t.binding f = some e) : Step t (.sends f e) t
  | delivers {t f e} (bound : t.binding f = some e) : Step t (.delivers f e) t
  | closes {t f e} (bound : t.binding f = some e) : Step t (.closes f) (t.release f)

inductive Trace : BindingTable F E → List (Action F E) → BindingTable F E → Prop
  | nil {t} : Trace t [] t
  | cons {t t' t'' a as} (step : Step t a t') (rest : Trace t' as t'') : Trace t (a :: as) t''

variable {t t' t'' : BindingTable F E} {as bs : List (Action F E)} {a b : Action F E}
  {f f' : F} {e e' : E}

theorem Trace.append (h : Trace t as t') (h' : Trace t' bs t'') : Trace t (as ++ bs) t'' := by
  induction h with
  | nil => exact h'
  | cons step _ ih => exact .cons step (ih h')

theorem Trace.split (h : Trace t (as ++ bs) t'') : ∃ t', Trace t as t' ∧ Trace t' bs t'' := by
  induction as generalizing t with
  | nil => exact ⟨t, .nil, h⟩
  | cons a as ih =>
      cases h with
      | cons step rest =>
          obtain ⟨t', first, last⟩ := ih rest
          exact ⟨t', .cons step first, last⟩

theorem Step.bound (h : Step t a t') (use : a.Uses f e) : t.binding f = some e ∧ t' = t := by
  rcases use with rfl | rfl
  · cases h with
    | sends bound => exact ⟨bound, rfl⟩
  · cases h with
    | delivers bound => exact ⟨bound, rfl⟩

/-- A binding lasts until it is closed. -/
theorem Step.kept (h : Step t a t') (bound : t.binding f = some e) (unclosed : a ≠ .closes f) :
    t'.binding f = some e := by
  cases h with
  | @opens f' e' new free =>
      have hf : f ≠ f' := by
        rintro rfl
        rw [new] at bound
        cases bound
      exact (assign_of_ne _ _ _ _ hf).trans bound
  | sends => exact bound
  | delivers => exact bound
  | @closes f' e' bound' =>
      have hf : f ≠ f' := by
        rintro rfl
        exact unclosed rfl
      exact (release_of_ne _ _ hf).trans bound

theorem Trace.kept (h : Trace t as t') (bound : t.binding f = some e)
    (unclosed : Action.closes f ∉ as) : t'.binding f = some e := by
  induction h with
  | nil => exact bound
  | cons step rest ih =>
      refine ih (step.kept bound ?_) fun hmem => unclosed (List.mem_cons_of_mem _ hmem)
      rintro rfl
      exact unclosed List.mem_cons_self

/-- As long as neither flow is closed, two packets of one flow pass at one endpoint, and two
packets at one endpoint are of one flow. -/
theorem Trace.uses_iff (h : Trace t (a :: as ++ b :: bs) t'') (use : a.Uses f e)
    (use' : b.Uses f' e') (unclosed : Action.closes f ∉ as) : f = f' ↔ e = e' := by
  obtain ⟨t₁, first, last⟩ := h.split
  cases first with
  | cons step rest =>
      obtain ⟨bound, rfl⟩ := step.bound use
      have kept := rest.kept bound unclosed
      cases last with
      | cons step' rest' =>
          have bound' := (step'.bound use').1
          constructor
          · rintro rfl
            exact Option.some.inj (kept.symm.trans bound')
          · rintro rfl
            exact t₁.inj f f' e kept bound'

end BindingTable
