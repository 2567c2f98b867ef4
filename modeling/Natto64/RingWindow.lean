import Mathlib.Algebra.GroupWithZero.Nat
import Mathlib.Data.Fin.Basic
import Mathlib.Data.List.Basic
import Mathlib.Data.List.OfFn
import Mathlib.Data.List.Rotate
import Mathlib.Logic.Function.Basic
import Mathlib.Tactic.Common

/-!
# Ring windows

A ring of slots that is written in turn holds the most recent items of all that were ever
written to it.
-/
namespace RingWindow
variable {α : Type*} {N : Nat} [NeZero N]

/-- The last `N` items written stand in their slots. -/
def Window (slots : Fin N → α) (written : List α) : Prop :=
  ∀ j (h : j < written.length), written.length ≤ j + N → slots (Fin.ofNat N j) = written[j]

theorem window_nil (slots : Fin N → α) : Window slots [] := fun _ h => absurd h (Nat.not_lt_zero _)

theorem ofNat_ne {i j : Nat} (hlt : i < j) (hnear : j < i + N) :
    Fin.ofNat N i ≠ Fin.ofNat N j := by
  intro h
  have hmod : i % N = j % N := congrArg Fin.val h
  have hdvd : N ∣ j - i := Nat.dvd_of_mod_eq_zero (Nat.sub_mod_eq_zero_of_mod_eq hmod.symm)
  have hle : N ≤ j - i := Nat.le_of_dvd (by omega) hdvd
  omega

/-- A write replaces the item that drops out of the window. -/
theorem Window.push {slots : Fin N → α} {written : List α} (h : Window slots written) (x : α) :
    Window (Function.update slots (Fin.ofNat N written.length) x) (written ++ [x]) := by
  intro j hj hrecent
  rw [List.length_append, List.length_singleton] at hj hrecent
  by_cases hlast : j = written.length
  · subst hlast
    rw [Function.update_self, List.getElem_concat_length rfl]
  · have hlt : j < written.length := by omega
    rw [Function.update_of_ne (ofNat_ne hlt (by omega)), h j hlt (by omega),
      List.getElem_append_left hlt]

/-- An item in no slot was written a whole round ago. -/
theorem Window.distance {slots : Fin N → α} {past between : List α} {x : α}
    (h : Window slots (past ++ x :: between)) (absent : ∀ i, slots i ≠ x) :
    N ≤ between.length := by
  by_contra hnear
  have hslot := h past.length (by simp) (by simp; omega)
  rw [List.getElem_append_right (le_refl _)] at hslot
  simp only [Nat.sub_self, List.getElem_cons_zero] at hslot
  exact absent _ hslot

/-- The slots are the last items written, in some rotation, and the slots not yet written. -/
theorem Window.perm {slots : Fin N → α} {written : List α} {empty : α} (h : Window slots written)
    (untouched : ∀ i : Fin N, written.length ≤ i → slots i = empty) :
    (List.ofFn slots).Perm
      (written.drop (written.length - N) ++ List.replicate (N - written.length) empty) := by
  by_cases hfull : written.length ≤ N
  · have heq : List.ofFn slots = written ++ List.replicate (N - written.length) empty := by
      apply List.ext_getElem
      · rw [List.length_ofFn, List.length_append, List.length_replicate]
        omega
      · intro i hi hi'
        rw [List.length_ofFn] at hi
        rw [List.getElem_ofFn]
        by_cases hwritten : i < written.length
        · have hslot : (⟨i, hi⟩ : Fin N) = Fin.ofNat N i := Fin.ext (Nat.mod_eq_of_lt hi).symm
          rw [List.getElem_append_left hwritten, ← h i hwritten (by omega), ← hslot]
        · have hle : written.length ≤ i := Nat.le_of_not_lt hwritten
          rw [List.getElem_append_right hle, List.getElem_replicate]
          exact untouched ⟨i, hi⟩ hle
    rw [Nat.sub_eq_zero_of_le hfull, List.drop_zero, heq]
  · have hlong : N ≤ written.length := Nat.le_of_not_le hfull
    have heq : (List.ofFn slots).rotate written.length = written.drop (written.length - N) := by
      apply List.ext_getElem
      · rw [List.length_rotate, List.length_ofFn, List.length_drop]
        omega
      · intro i hi hi'
        rw [List.length_rotate, List.length_ofFn] at hi
        have hsum : written.length - N + i + N = i + written.length := by omega
        rw [List.getElem_rotate, List.getElem_ofFn, List.getElem_drop,
          ← h (written.length - N + i) (by omega) (by omega)]
        congr 1
        apply Fin.ext
        change (i + written.length) % (List.ofFn slots).length = (written.length - N + i) % N
        rw [List.length_ofFn, ← hsum, Nat.add_mod_right]
    rw [Nat.sub_eq_zero_of_le hlong, List.replicate_zero, List.append_nil, ← heq]
    exact (List.rotate_perm ..).symm

end RingWindow
