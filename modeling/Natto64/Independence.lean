import Mathlib.Algebra.BigOperators.Group.List.Basic
import Mathlib.Data.Finset.Max
import Mathlib.Data.List.FinRange
import Mathlib.Order.Fin.Basic
import Natto64.EventRun

/-!
# Independent turns

Agents take turns, and each turn touches one place. Two turns of different agents at different
places can change sides. So where the turns at each place follow an order of the agents, the
agents might as well have taken their turns one agent after the other.
-/
namespace EventRun

section Turns
variable {σ ι X : Type*} {step : σ → ι → σ} {place : σ → ι → Option X} {K : σ → Prop}

/-- As long as the state keeps to `K`, nobody moves the place of another's next turn, and turns
at different places commute. -/
structure Independent (step : σ → ι → σ) (place : σ → ι → Option X) (K : σ → Prop) : Prop where
  kept : ∀ s i, K s → K (step s i)
  others : ∀ s i j, K s → i ≠ j → place (step s i) j = place s j
  swap : ∀ s i j x y, K s → i ≠ j → place s i = some x → place s j = some y → x ≠ y →
    step (step s i) j = step (step s j) i

/-- The place of each turn and its agent, in order. -/
def touches (step : σ → ι → σ) (place : σ → ι → Option X) (s : σ) (l : List ι) : List (X × ι) :=
  outputs step (fun s i => (place s i).map fun x => (x, i)) s l

/-- Every turn is at a place. -/
def Busy (step : σ → ι → σ) (place : σ → ι → Option X) (s : σ) (l : List ι) : Prop :=
  Along step (fun s i => (place s i).isSome) s l

theorem touches_append (s : σ) (l r : List ι) :
    touches step place s (l ++ r) = touches step place s l ++ touches step place (run step s l) r :=
  outputs_append _ s l r

theorem touches_cons {s : σ} {i : ι} {x : X} (h : place s i = some x) (l : List ι) :
    touches step place s (i :: l) = (x, i) :: touches step place (step s i) l := by
  simp [touches, outputs, h]

theorem Busy.cons {s : σ} {i : ι} {l : List ι} (h : Busy step place s (i :: l)) :
    ∃ x, place s i = some x ∧ Busy step place (step s i) l := by
  obtain ⟨x, hx⟩ := Option.isSome_iff_exists.mp h.1
  exact ⟨x, hx, h.2⟩

theorem mem_of_touches {s : σ} {l : List ι} {a : X × ι} (h : a ∈ touches step place s l) :
    a.2 ∈ l := by
  induction l generalizing s with
  | nil => cases h
  | cons i l ih =>
      rcases List.mem_append.mp h with first | rest
      · obtain ⟨x, -, rfl⟩ := Option.map_eq_some_iff.mp (Option.mem_toList.mp first)
        exact List.mem_cons_self
      · exact List.mem_cons_of_mem i (ih rest)

namespace Independent
variable (h : Independent step place K) {s : σ} {i : ι} {x : X} {u v : List ι}
include h

theorem place_run (hs : K s) (hu : i ∉ u) : place (run step s u) i = place s i := by
  induction u generalizing s with
  | nil => rfl
  | cons j u ih =>
      simp only [List.mem_cons, not_or] at hu
      rw [run_cons, ih (h.kept s j hs) hu.2]
      exact h.others s j i hs (Ne.symm hu.1)

/-- A turn at a place that none of those before it touches might come before them all. -/
theorem front (hs : K s) (hx : place s i = some x) (hu : i ∉ u) (busy : Busy step place s u)
    (apart : ∀ a ∈ touches step place s u, a.1 ≠ x) :
    run step s (u ++ [i]) = run step (step s i) u ∧
      touches step place (step s i) u = touches step place s u ∧
      Busy step place (step s i) u := by
  induction u generalizing s with
  | nil => exact ⟨rfl, rfl, trivial⟩
  | cons j u ih =>
      simp only [List.mem_cons, not_or] at hu
      obtain ⟨y, hy, rest⟩ := busy.cons
      rw [touches_cons hy] at apart ⊢
      have hxy : x ≠ y := (apart (y, j) List.mem_cons_self).symm
      have hx' : place (step s j) i = some x := (h.others s j i hs (Ne.symm hu.1)).trans hx
      have hy' : place (step s i) j = some y := (h.others s i j hs hu.1).trans hy
      have swap := h.swap s i j x y hs hu.1 hx hy hxy
      obtain ⟨ends, touched, busy'⟩ := ih (h.kept s j hs) hx' hu.2 rest fun a ha =>
        apart a (List.mem_cons_of_mem _ ha)
      rw [← swap] at ends touched busy'
      have turn : (place (step s i) j).isSome := Option.isSome_iff_exists.mpr ⟨y, hy'⟩
      exact ⟨ends, by rw [touches_cons hy', touched], turn, busy'⟩

theorem to_front (hs : K s) (hx : place s i = some x) (hu : i ∉ u)
    (busy : Busy step place s (u ++ i :: v)) (apart : ∀ a ∈ touches step place s u, a.1 ≠ x) :
    ∃ later, touches step place s (u ++ i :: v) = touches step place s u ++ (x, i) :: later ∧
      touches step place (step s i) (u ++ v) = touches step place s u ++ later ∧
      Busy step place (step s i) (u ++ v) ∧
      run step s (u ++ i :: v) = run step (step s i) (u ++ v) := by
  obtain ⟨before, after⟩ := along_append.mp busy
  obtain ⟨ends, touched, busy'⟩ := h.front hs hx hu before apart
  have hx' : place (run step s u) i = some x := (h.place_run hs hu).trans hx
  rw [run_concat] at ends
  refine ⟨touches step place (step (run step s u) i) v, ?_, ?_, ?_, ?_⟩
  · rw [touches_append, touches_cons hx']
  · rw [touches_append, touched, ends]
  · refine along_append.mpr ⟨busy', ?_⟩
    rw [← ends]
    exact after.2
  · rw [run_append, run_append, run_cons, ends]

/-- Turns that follow an order of the agents at each place lead where the agents lead one after
the other. -/
theorem run_eq_of_sorted [LinearOrder ι] (hs : K s) {l : List ι} (busy : Busy step place s l)
    (sorted : (touches step place s l).Pairwise fun a b => a.1 = b.1 → a.2 ≤ b.2) :
    ∃ l', l'.Pairwise (· ≤ ·) ∧ l'.Perm l ∧ run step s l = run step s l' := by
  induction hn : l.length generalizing s l with
  | zero =>
      obtain rfl := List.length_eq_zero_iff.mp hn
      exact ⟨[], .nil, .nil, rfl⟩
  | succ n ih =>
      have hl : l ≠ [] := List.ne_nil_of_length_eq_add_one hn
      obtain ⟨i, hi, least⟩ : ∃ i ∈ l, ∀ j ∈ l, i ≤ j := by
        simpa using l.toFinset.exists_min_image id (by simpa using hl)
      obtain ⟨u, v, rfl, hu⟩ := List.eq_append_cons_of_mem hi
      obtain ⟨x, hx', -⟩ := Busy.cons (along_append.mp busy).2
      have hx : place s i = some x := (h.place_run hs hu).symm.trans hx'
      have apart : ∀ a ∈ touches step place s u, a.1 ≠ x := by
        intro a ha hax
        rw [touches_append, touches_cons hx'] at sorted
        have before := (List.pairwise_append.mp sorted).2.2 a ha (x, i) List.mem_cons_self hax
        have same : a.2 = i :=
          le_antisymm before (least a.2 (List.mem_append_left _ (mem_of_touches ha)))
        exact hu (same ▸ mem_of_touches ha)
      obtain ⟨later, touched, touched', rest, ends⟩ := h.to_front hs hx hu busy apart
      have sorted' : (touches step place (step s i) (u ++ v)).Pairwise
          fun a b => a.1 = b.1 → a.2 ≤ b.2 := by
        rw [touched']
        rw [touched] at sorted
        exact sorted.sublist ((List.sublist_cons_self _ _).append_left _)
      obtain ⟨l', ordered, perm, leads⟩ := ih (h.kept s i hs) rest sorted' (by simp at hn ⊢; omega)
      refine ⟨i :: l', List.pairwise_cons.mpr ⟨fun j hj => ?_, ordered⟩, ?_, ?_⟩
      · apply least
        rcases List.mem_append.mp (perm.mem_iff.mp hj) with hj | hj
        · exact List.mem_append_left _ hj
        · exact List.mem_append_right _ (List.mem_cons_of_mem i hj)
      · exact (perm.cons i).trans List.perm_middle.symm
      · rw [ends, leads, run_cons]

end Independent
end Turns

theorem count_blocks {n : Nat} (m : Fin n → Nat) (i : Fin n) :
    ((List.finRange n).flatMap fun i => List.replicate (m i) i).count i = m i := by
  rw [List.count_flatMap, List.sum_map_eq_nsmul_single i _ ?_]
  · simp [List.count_eq_one_of_mem (List.nodup_finRange n) (List.mem_finRange i)]
  · intro j hj _
    simp [List.count_replicate, hj]

/-- Ordered turns come in one piece for each agent. -/
theorem sorted_eq_blocks {n : Nat} {l : List (Fin n)} (sorted : l.Pairwise (· ≤ ·)) :
    l = (List.finRange n).flatMap fun i => List.replicate (l.count i) i := by
  have blocks : ((List.finRange n).flatMap fun i => List.replicate (l.count i) i).Pairwise
      (· ≤ ·) := by
    refine List.pairwise_flatMap.mpr ⟨fun i _ => List.pairwise_replicate.mpr (.inr le_rfl), ?_⟩
    refine (List.pairwise_lt_finRange n).imp ?_
    intro i j hij a ha b hb
    rw [List.eq_of_mem_replicate ha, List.eq_of_mem_replicate hb]
    exact hij.le
  apply List.Perm.eq_of_pairwise (fun a b _ _ => le_antisymm) sorted blocks
  rw [List.perm_iff_count]
  intro i
  exact (count_blocks (fun i => l.count i) i).symm

end EventRun
