import Mathlib.Tactic.Common

/-!
# Fallible actions

Actions on a state that may fail, where a failed action keeps what it has done so far.
-/
namespace Actions

variable {σ ε α β : Type}

abbrev Action (σ ε α : Type) : Type := ExceptT ε (StateM σ) α

/-- The result of an action and the state it leaves. -/
def exec (m : Action σ ε α) (s : σ) : Except ε α × σ := StateT.run (ExceptT.run m) s

@[simp] theorem exec_modify (f : σ → σ) (s : σ) :
    exec (modify f : Action σ ε PUnit) s = (.ok ⟨⟩, f s) := rfl

@[simp] theorem exec_ofExcept (r : Except ε α) (s : σ) :
    exec (ofExcept r : Action σ ε α) s = (r, s) := by
  cases r <;> rfl

@[simp] theorem exec_get_bind (f : σ → Action σ ε β) (s : σ) :
    exec (get >>= f : Action σ ε β) s = exec (f s) s := rfl

theorem exec_bind (m : Action σ ε α) (f : α → Action σ ε β) (s : σ) :
    exec (m >>= f) s = match exec m s with
      | (.ok a, s') => exec (f a) s'
      | (.error e, s') => (.error e, s') := by
  change StateT.run (ExceptT.run m >>= ExceptT.bindCont f) s = _
  rw [StateT.run_bind]
  change (match exec m s with | (r, s') => StateT.run (ExceptT.bindCont f r) s') = _
  cases exec m s with
  | mk r s' => cases r <;> rfl

/-- The rest runs on from a success. -/
theorem exec_bind_ok {m : Action σ ε α} {s s' : σ} {a : α} (h : exec m s = (.ok a, s'))
    (f : α → Action σ ε β) : exec (m >>= f) s = exec (f a) s' := by
  rw [exec_bind, h]

/-- A failure is the end. -/
theorem exec_bind_error {m : Action σ ε α} {s s' : σ} {e : ε} (h : exec m s = (.error e, s'))
    (f : α → Action σ ε β) : exec (m >>= f) s = (.error e, s') := by
  rw [exec_bind, h]

@[simp] theorem exec_modify_bind (g : σ → σ) (f : PUnit → Action σ ε β) (s : σ) :
    exec (modify g >>= f : Action σ ε β) s = exec (f ⟨⟩) (g s) :=
  exec_bind_ok (exec_modify g s) f

theorem exec_ofExcept_ok {r : Except ε α} {a : α} (h : r = .ok a) (f : α → Action σ ε β)
    (s : σ) : exec (ofExcept r >>= f : Action σ ε β) s = exec (f a) s := by
  subst h
  exact exec_bind_ok (exec_ofExcept _ s) f

theorem exec_ofExcept_error {r : Except ε α} {e : ε} (h : r = .error e) (f : α → Action σ ε β)
    (s : σ) : exec (ofExcept r >>= f : Action σ ε β) s = (.error e, s) := by
  subst h
  exact exec_bind_error (exec_ofExcept _ s) f

end Actions
