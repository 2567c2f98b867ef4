import Natto64.Granularity
import Natto64.Independence

/-!
# The order of accesses

What programs share has places, and a call that is not hidden sees and changes one place. Calls
of two programs may overlap then: as long as the accesses to each place come in the order of the
programs, the programs might as well have run in this order.
-/
namespace Interleaving
open EventRun

section Places
variable {X σ L M R S : Type*} {V : X → Type*}

/-- The places of a state, and what is at each of them. -/
structure Places (X : Type*) (V : X → Type*) (σ : Type*) where
  get : ∀ x, σ → V x
  set : ∀ x, V x → σ → σ
  get_set_of_ne : ∀ x y v s, y ≠ x → get y (set x v s) = get y s
  set_comm : ∀ x y v w s, y ≠ x → set y w (set x v s) = set x v (set y w s)

/-- The call sees and changes nothing of the state but this place. -/
structure Places.Only (places : Places X V σ) (x : X) (call : L → σ → R × L × σ) : Prop where
  blind : ∀ l s s', places.get x s = places.get x s' → (call l s).1 = (call l s').1 ∧
    (call l s).2.1 = (call l s').2.1 ∧
    places.get x (call l s).2.2 = places.get x (call l s').2.2
  frame : ∀ l s, (call l s).2.2 = places.set x (places.get x (call l s).2.2) s

/-- Calls at different places do not notice each other. -/
theorem Places.Only.swap {places : Places X V σ} {x y : X} {a : L → σ → R × L × σ}
    {b : M → σ → S × M × σ} (ha : places.Only x a) (hb : places.Only y b) (hne : y ≠ x) (l : L)
    (m : M) (s : σ) :
    (b m (a l s).2.2).1 = (b m s).1 ∧ (b m (a l s).2.2).2.1 = (b m s).2.1 ∧
      (b m (a l s).2.2).2.2 = (a l (b m s).2.2).2.2 := by
  have seen : places.get y (a l s).2.2 = places.get y s := by
    rw [ha.frame, places.get_set_of_ne x y _ s hne]
  have seen' : places.get x (b m s).2.2 = places.get x s := by
    rw [hb.frame, places.get_set_of_ne y x _ s hne.symm]
  obtain ⟨answered, held, left⟩ := hb.blind m _ _ seen
  obtain ⟨-, -, left'⟩ := ha.blind l _ _ seen'
  refine ⟨answered, held, ?_⟩
  calc
    (b m (a l s).2.2).2.2 = places.set y (places.get y (b m s).2.2) (a l s).2.2 := by
      rw [hb.frame, left]
    _ = places.set y (places.get y (b m s).2.2) (places.set x (places.get x (a l s).2.2) s) := by
      rw [← ha.frame l s]
    _ = places.set x (places.get x (a l s).2.2) (places.set y (places.get y (b m s).2.2) s) :=
      places.set_comm x y _ _ s hne
    _ = places.set x (places.get x (a l s).2.2) (b m s).2.2 := by rw [← hb.frame m s]
    _ = (a l (b m s).2.2).2.2 := by rw [ha.frame l (b m s).2.2, left']

end Places

section Sites
variable {ι Op σ X : Type*} {V : X → Type*} {Resp : Op → Type*} {α π : ι → Type*}

/-- The place that program `i` accesses next, if its next call is not hidden. -/
def Pool.site (site : ι → Op → Option X) (c : Pool Resp α π σ) (i : ι) : Option X :=
  (c.next i).bind (site i)

/-- Calls without a place are hidden, the others see and change their place alone. -/
structure Sited (answer : ∀ i (op : Op), π i → σ → Resp op × π i × σ) (hidden : Op → Prop)
    (K : σ → Prop) (places : Places X V σ) (site : ι → Op → Option X) : Prop where
  hides : ∀ i, Hides (answer i) hidden K
  hidden_iff : ∀ i op, hidden op ↔ site i op = none
  only : ∀ i op x, site i op = some x → places.Only x (answer i op)

variable {answer : ∀ i (op : Op), π i → σ → Resp op × π i × σ} {hidden : Op → Prop}
  {K : σ → Prop} {places : Places X V σ} {site : ι → Op → Option X} {c : Pool Resp α π σ} {i : ι}

theorem site_of_place {c' : Pool Resp α π σ} (h : c.place i = c'.place i) :
    c.site site i = c'.site site i := by
  have hprogs : c.progs i = c'.progs i := congrArg Prod.fst h
  simp only [Pool.site, Pool.next, hprogs]

theorem call_of_site {x : X} (h : c.site site i = some x) :
    ∃ op next, c.progs i = .call op next ∧ site i op = some x := by
  obtain ⟨op, hop, hx⟩ := Option.bind_eq_some_iff.mp h
  obtain ⟨next, hp⟩ := Pool.call_of_next hop
  exact ⟨op, next, hp, hx⟩

variable [DecidablePred hidden]

theorem visible_eq (sited : Sited answer hidden K places site) (c : Pool Resp α π σ) (i : ι) :
    visible hidden c i = (c.site site i).map fun _ => i := by
  unfold visible Pool.site
  cases c.next i with
  | none => rfl
  | some op =>
      have hop := sited.hidden_iff i op
      cases hs : site i op with
      | none => simp [hop, hs]
      | some x => simp [hop, hs]

variable [DecidableEq ι]

section Swap
variable (sited : Sited answer hidden K places site) (keeps : K c.shared)
  (hc : settled answer hidden c = c)
include sited keeps hc

theorem place_coarse_other {j : ι} (hij : i ≠ j) :
    (coarse answer hidden c j).place i = c.place i := by
  rw [place_coarse_of_ne sited.hides keeps hij, hc]

/-- What a call makes of its program and of what is shared does not depend on whether another
call at a different place came first. -/
theorem coarse_crossed {j : ι} {x y : X} (hij : i ≠ j) (hx : c.site site i = some x)
    (hy : c.site site j = some y) (hxy : x ≠ y) :
    (coarse answer hidden (coarse answer hidden c j) i).place i =
        (coarse answer hidden c i).place i ∧
      (coarse answer hidden (coarse answer hidden c j) i).shared =
        (coarse answer hidden (coarse answer hidden c i) j).shared := by
  obtain ⟨op, next, hp, hop⟩ := call_of_site hx
  obtain ⟨op', next', hp', hop'⟩ := call_of_site hy
  have hplace := place_coarse_other sited keeps hc hij
  have hplace' := place_coarse_other sited keeps hc (Ne.symm hij)
  have hcall : (coarse answer hidden c j).progs i = .call op next :=
    (congrArg Prod.fst hplace).trans hp
  have hcall' : (coarse answer hidden c i).progs j = .call op' next' :=
    (congrArg Prod.fst hplace').trans hp'
  have hown : (coarse answer hidden c j).own i = c.own i := congrArg Prod.snd hplace
  have hown' : (coarse answer hidden c i).own j = c.own j := congrArg Prod.snd hplace'
  have hshared : (coarse answer hidden c j).shared = (answer j op' (c.own j) c.shared).2.2 :=
    shared_step hp'
  have hshared' : (coarse answer hidden c i).shared = (answer i op (c.own i) c.shared).2.2 :=
    shared_step hp
  obtain ⟨answered, held, left⟩ := (sited.only j op' y hop').swap (sited.only i op x hop) hxy
    (c.own j) (c.own i) c.shared
  have keeps' := kept_coarse sited.hides keeps j
  constructor
  · rw [place_coarse_self hcall, place_coarse_self hp, hown, hshared, answered, held]
    exact settle_congr (sited.hides i) (kept_step sited.hides keeps' i)
      (kept_step sited.hides keeps i) _ _
  · have crossed : (step answer (coarse answer hidden c j) i).shared =
        (step answer (coarse answer hidden c i) j).shared := by
      rw [shared_step hcall, shared_step hcall', hown, hown', hshared, hshared', left]
    exact crossed

theorem coarse_swap {j : ι} {x y : X} (hij : i ≠ j) (hx : c.site site i = some x)
    (hy : c.site site j = some y) (hxy : x ≠ y) :
    coarse answer hidden (coarse answer hidden c i) j =
      coarse answer hidden (coarse answer hidden c j) i := by
  have keeps₁ := kept_coarse sited.hides keeps i
  have keeps₂ := kept_coarse sited.hides keeps j
  have hc₁ : settled answer hidden (coarse answer hidden c i) = coarse answer hidden c i :=
    settled_coarse c i
  have hc₂ : settled answer hidden (coarse answer hidden c j) = coarse answer hidden c j :=
    settled_coarse c j
  obtain ⟨place₁, shared⟩ := coarse_crossed sited keeps hc hij hx hy hxy
  obtain ⟨place₂, -⟩ := coarse_crossed sited keeps hc (Ne.symm hij) hy hx (Ne.symm hxy)
  apply Pool.ext_place
  · intro k
    by_cases hki : k = i
    · subst hki
      rw [place_coarse_other sited keeps₁ hc₁ hij, place₁]
    by_cases hkj : k = j
    · subst hkj
      rw [place_coarse_other sited keeps₂ hc₂ hki, place₂]
    · rw [place_coarse_other sited keeps₁ hc₁ hkj, place_coarse_other sited keeps₂ hc₂ hki,
        place_coarse_other sited keeps hc hki, place_coarse_other sited keeps hc hkj]
  · exact shared.symm

end Swap

/-- Accesses of settled programs are independent turns. -/
theorem independent_coarse (sited : Sited answer hidden K places site) :
    Independent (coarse answer hidden) (Pool.site site)
      fun c : Pool Resp α π σ => K c.shared ∧ settled answer hidden c = c where
  kept c i hc := ⟨kept_coarse sited.hides hc.1 i, settled_coarse c i⟩
  others _ _ _ hc hij := site_of_place (place_coarse_other sited hc.1 hc.2 (Ne.symm hij))
  swap _ _ _ _ _ hc hij hx hy hxy := coarse_swap sited hc.1 hc.2 hij hx hy hxy

omit [DecidableEq ι] in
theorem starts_settled (keeps : K c.shared) : K (settled answer hidden c).shared ∧
    settled answer hidden (settled answer hidden c) = settled answer hidden c :=
  ⟨keeps, settled_settled answer hidden c⟩

/-- The accesses of a run are those of the programs that settle in between. -/
theorem touches_settled (sited : Sited answer hidden K places site) (keeps : K c.shared)
    (schedule : List ι) :
    touches (coarse answer hidden) (Pool.site site) (settled answer hidden c)
        (visibleCalls answer hidden c schedule) =
        touches (step answer) (Pool.site site) c schedule ∧
      Busy (coarse answer hidden) (Pool.site site) (settled answer hidden c)
        (visibleCalls answer hidden c schedule) := by
  induction schedule generalizing c with
  | nil => exact ⟨rfl, trivial⟩
  | cons i schedule ih =>
      obtain ⟨touched, busy⟩ := ih (kept_step sited.hides keeps i)
      have hcalls : visibleCalls answer hidden c (i :: schedule) =
          (visible hidden c i).toList ++ visibleCalls answer hidden (step answer c i) schedule :=
        rfl
      have htouches : touches (step answer) (Pool.site site) c (i :: schedule) =
          ((c.site site i).map fun x => (x, i)).toList ++
            touches (step answer) (Pool.site site) (step answer c i) schedule := rfl
      have hvisible := visible_eq sited c i
      rw [hcalls, htouches]
      cases hsite : c.site site i with
      | none =>
          rw [hsite] at hvisible
          have hsettled : settled answer hidden (step answer c i) = settled answer hidden c :=
            coarse_hidden sited.hides keeps hvisible
          rw [hvisible, ← hsettled]
          exact ⟨touched, busy⟩
      | some x =>
          rw [hsite] at hvisible
          obtain ⟨-, hcoarse⟩ := coarse_visible sited.hides keeps hvisible
          have hsettled : settled answer hidden (step answer c i) =
              coarse answer hidden (settled answer hidden c) i := hcoarse
          obtain ⟨op, next, hp, hop⟩ := call_of_site hsite
          have undone : ¬ hidden op := by
            rw [sited.hidden_iff, hop]
            nofun
          have hx : (settled answer hidden c).site site i = some x := by
            rw [← hsite]
            apply site_of_place
            rw [place_settled, place_of_call hp, settle_visible undone]
          rw [hvisible, ← touched, hsettled]
          refine ⟨touches_cons hx _, Option.isSome_iff_exists.mpr ⟨x, hx⟩, ?_⟩
          rw [← hsettled]
          exact busy

/-- A run whose accesses follow an order of the programs at each place settles as if all accesses
followed it. -/
theorem settled_run_sorted [LinearOrder ι] (sited : Sited answer hidden K places site)
    (keeps : K c.shared) {schedule : List ι}
    (sorted : (touches (step answer) (Pool.site site) c schedule).Pairwise
      fun a b => a.1 = b.1 → a.2 ≤ b.2) :
    ∃ calls : List ι, calls.Pairwise (· ≤ ·) ∧
      settled answer hidden (run (step answer) c schedule) =
        run (coarse answer hidden) (settled answer hidden c) calls := by
  obtain ⟨touched, busy⟩ := touches_settled sited keeps schedule
  rw [← touched] at sorted
  obtain ⟨calls, ordered, -, leads⟩ :=
    (independent_coarse sited).run_eq_of_sorted (starts_settled keeps) busy sorted
  exact ⟨calls, ordered, (settled_run sited.hides keeps schedule).trans leads⟩

end Sites
end Interleaving
