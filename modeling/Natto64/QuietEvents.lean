import Natto64.EventRun

/-!
# Quiet events

Events that an observer of the state does not notice. Without them, a run ends in a state
that looks the same and puts out the same.
-/
namespace EventRun

variable {σ ε β ω : Type*} {step : σ → ε → σ} {out : σ → ε → Option β} {quiet : σ → ε → Prop}
  {view : σ → ω}

/-- The view decides what an event does to the view and what it puts out; a quiet event does
and puts out nothing. -/
structure Quiet (step : σ → ε → σ) (out : σ → ε → Option β) (quiet : σ → ε → Prop)
    (view : σ → ω) : Prop where
  step_view : ∀ s s' e, view s = view s' → view (step s e) = view (step s' e)
  out_view : ∀ s s' e, view s = view s' → out s e = out s' e
  unseen : ∀ s e, quiet s e → view (step s e) = view s
  silent : ∀ s e, quiet s e → out s e = none

open Classical in
/-- The events of a run that are not quiet in the state they find. -/
noncomputable def loud (step : σ → ε → σ) (quiet : σ → ε → Prop) : σ → List ε → List ε
  | _, [] => []
  | s, e :: es => if quiet s e then loud step quiet (step s e) es
      else e :: loud step quiet (step s e) es

theorem loud_of_quiet {s : σ} {e : ε} (h : quiet s e) (es : List ε) :
    loud step quiet s (e :: es) = loud step quiet (step s e) es := if_pos h

theorem loud_of_loud {s : σ} {e : ε} (h : ¬ quiet s e) (es : List ε) :
    loud step quiet s (e :: es) = e :: loud step quiet (step s e) es := if_neg h

/-- Started where the view is the same, the loud events alone lead to the same view. -/
theorem Quiet.run_loud (h : Quiet step out quiet view) {s s' : σ} (same : view s' = view s)
    (es : List ε) : view (run step s' (loud step quiet s es)) = view (run step s es) := by
  induction es generalizing s s' with
  | nil => exact same
  | cons e es ih =>
      by_cases hq : quiet s e
      · rw [loud_of_quiet hq, run_cons]
        exact ih (same.trans (h.unseen s e hq).symm)
      · rw [loud_of_loud hq, run_cons, run_cons]
        exact ih (h.step_view s' s e same)

theorem Quiet.outputs_loud (h : Quiet step out quiet view) {s s' : σ} (same : view s' = view s)
    (es : List ε) : outputs step out s' (loud step quiet s es) = outputs step out s es := by
  induction es generalizing s s' with
  | nil => rfl
  | cons e es ih =>
      by_cases hq : quiet s e
      · rw [loud_of_quiet hq, outputs, h.silent s e hq]
        exact ih (same.trans (h.unseen s e hq).symm)
      · rw [loud_of_loud hq, outputs, outputs, h.out_view s' s e same]
        exact congrArg _ (ih (h.step_view s' s e same))

end EventRun
