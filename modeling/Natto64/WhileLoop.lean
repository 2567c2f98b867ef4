import Mathlib.Logic.Function.Iterate
import Mathlib.Tactic.Common

/-!
# While loops

The run of a loop as the iterates of its body: it leaves at the first of them on which
the guard fails.
-/
namespace WhileLoop

variable {σ : Type*} {guard : σ → Prop} {body : σ → σ}

/-- The loop started in `s` leaves after `n` rounds. -/
structure Exits (guard : σ → Prop) (body : σ → σ) (s : σ) (n : Nat) : Prop where
  continues : ∀ i < n, guard (body^[i] s)
  stops : ¬ guard (body^[n] s)

theorem exits_zero {s : σ} (h : ¬ guard s) : Exits guard body s 0 :=
  ⟨fun _ hi => absurd hi (Nat.not_lt_zero _), h⟩

theorem Exits.succ {s : σ} {n : Nat} (h : guard s) (rest : Exits guard body (body s) n) :
    Exits guard body s (n + 1) where
  continues := by
    intro i hi
    cases i with
    | zero => exact h
    | succ i => exact rest.continues i (Nat.lt_of_succ_lt_succ hi)
  stops := rest.stops

/-- A loop whose rounds lower a measure leaves. -/
theorem exits_of_decreasing (measure : σ → Nat)
    (decreasing : ∀ s, guard s → measure (body s) < measure s) (s : σ) :
    ∃ n, Exits guard body s n := by
  induction hm : measure s using Nat.strongRecOn generalizing s with
  | ind m ih =>
      by_cases h : guard s
      · obtain ⟨n, rest⟩ := ih (measure (body s)) (hm ▸ decreasing s h) (body s) rfl
        exact ⟨n + 1, rest.succ h⟩
      · exact ⟨0, exits_zero h⟩

/-- The loop leaves no later than any iterate on which the guard fails. -/
theorem Exits.le {s : σ} {n m : Nat} (h : Exits guard body s n) (hm : ¬ guard (body^[m] s)) :
    n ≤ m := by
  by_contra hlt
  exact hm (h.continues m (Nat.lt_of_not_le hlt))

/-- A recursion that follows the loop yields what its exit makes of the last state. -/
theorem Exits.value {ρ : Type*} {s : σ} {n : Nat} (h : Exits guard body s n) (exit : σ → ρ)
    {f : σ → ρ} (again : ∀ s, guard s → f s = f (body s)) (leave : ∀ s, ¬ guard s → f s = exit s) :
    f s = exit (body^[n] s) := by
  induction n generalizing s with
  | zero => exact leave s h.stops
  | succ n ih =>
      rw [again s (h.continues 0 (Nat.zero_lt_succ n)), Function.iterate_succ_apply]
      exact ih ⟨fun i hi => h.continues (i + 1) (Nat.succ_lt_succ hi), h.stops⟩

end WhileLoop
