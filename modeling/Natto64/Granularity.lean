import Natto64.Interleaving

/-!
# Granularity

Programs that run side by side make some calls that neither see nor change what they share.
What becomes of the whole is decided by the order of the other calls alone; and when those of
no two programs overlap, each program might as well have run from its first call to its last.
-/
universe u
namespace Interleaving
open EventRun

section One
variable {Op σ L : Type*} {Resp : Op → Type*} {α : Type u}

/-- As long as the shared state keeps to `K`, a hidden call does not see it and leaves it as
it is. -/
structure Hides (answer : (op : Op) → L → σ → Resp op × L × σ) (hidden : Op → Prop)
    (K : σ → Prop) : Prop where
  kept : ∀ op l s, K s → K (answer op l s).2.2
  blind : ∀ op l s s', hidden op → K s → K s' →
    answer op l s' = ((answer op l s).1, (answer op l s).2.1, s')

variable (answer : (op : Op) → L → σ → Resp op × L × σ)

/-- The program runs from its first call to its last. -/
def alone : CallTree Op Resp α → L → σ → α × L × σ
  | .done a, l, s => (a, l, s)
  | .call op next, l, s =>
      alone (next (answer op l s).1) (answer op l s).2.1 (answer op l s).2.2

variable (hidden : Op → Prop) [DecidablePred hidden]

/-- What is left of the program after its next hidden calls, and what it holds then. -/
def settle (s : σ) : CallTree Op Resp α → L → CallTree Op Resp α × L
  | .done a, l => (.done a, l)
  | .call op next, l =>
      if hidden op then settle s (next (answer op l s).1) (answer op l s).2.1
      else (.call op next, l)

variable {answer hidden} {K : σ → Prop}

theorem settle_hidden {op : Op} (h : hidden op) (s : σ) (next : Resp op → CallTree Op Resp α)
    (l : L) : settle answer hidden s (.call op next) l =
      settle answer hidden s (next (answer op l s).1) (answer op l s).2.1 := by
  simp [settle, h]

theorem settle_visible {op : Op} (h : ¬ hidden op) (s : σ) (next : Resp op → CallTree Op Resp α)
    (l : L) : settle answer hidden s (.call op next) l = (.call op next, l) := by
  simp [settle, h]

theorem settle_congr (hides : Hides answer hidden K) {s s' : σ} (hs : K s) (hs' : K s')
    (p : CallTree Op Resp α) (l : L) :
    settle answer hidden s p l = settle answer hidden s' p l := by
  induction p generalizing l with
  | done a => rfl
  | call op next ih =>
      by_cases h : hidden op
      · simp [settle_hidden h, hides.blind op l s s' h hs hs', ih]
      · simp [settle_visible h]

theorem settle_settle (s : σ) (p : CallTree Op Resp α) (l : L) :
    settle answer hidden s (settle answer hidden s p l).1 (settle answer hidden s p l).2 =
      settle answer hidden s p l := by
  induction p generalizing l with
  | done a => rfl
  | call op next ih =>
      by_cases h : hidden op
      · simp [settle_hidden h, ih]
      · simp [settle_visible h]

theorem alone_settle (hides : Hides answer hidden K) {s : σ} (hs : K s) (p : CallTree Op Resp α)
    (l : L) :
    alone answer (settle answer hidden s p l).1 (settle answer hidden s p l).2 s =
      alone answer p l s := by
  induction p generalizing l with
  | done a => rfl
  | call op next ih =>
      by_cases h : hidden op
      · have same : (answer op l s).2.2 = s :=
          congrArg (fun z => z.2.2) (hides.blind op l s s h hs hs)
        simp [settle_hidden h, ih, alone, same]
      · simp [settle_visible h]

end One

section All
variable {ι Op σ : Type*} {Resp : Op → Type*} {α π : ι → Type*}

/-- What is left of program `i`, and what it holds. -/
def Pool.place (c : Pool Resp α π σ) (i : ι) : CallTree Op Resp (α i) × π i := (c.progs i, c.own i)

theorem Pool.ext_place {c c' : Pool Resp α π σ} (h : ∀ i, c.place i = c'.place i)
    (hshared : c.shared = c'.shared) : c = c' := by
  obtain ⟨progs, own, shared⟩ := c
  obtain ⟨progs', own', shared'⟩ := c'
  have hprogs : progs = progs' := by
    funext i
    exact congrArg Prod.fst (h i)
  have hown : own = own' := by
    funext i
    exact congrArg Prod.snd (h i)
  subst hprogs hown hshared
  rfl

section Place
variable {answer : ∀ i (op : Op), π i → σ → Resp op × π i × σ} {c : Pool Resp α π σ} {i : ι}
  {op : Op} {next : Resp op → CallTree Op Resp (α i)}

theorem place_of_call (h : c.progs i = .call op next) : c.place i = (.call op next, c.own i) := by
  simp [Pool.place, h]

theorem place_of_done {a : α i} (h : c.progs i = .done a) : c.place i = (.done a, c.own i) := by
  simp [Pool.place, h]

variable [DecidableEq ι]

theorem place_step_self (h : c.progs i = .call op next) : (step answer c i).place i =
    (next (answer i op (c.own i) c.shared).1, (answer i op (c.own i) c.shared).2.1) := by
  simp [step_call h, Pool.place]

theorem shared_step (h : c.progs i = .call op next) :
    (step answer c i).shared = (answer i op (c.own i) c.shared).2.2 := by
  simp [step_call h]

theorem place_step_of_ne {j : ι} (h : j ≠ i) : (step answer c i).place j = c.place j := by
  cases hp : c.progs i with
  | done a => rw [step_done hp]
  | call op next => simp [step_call hp, Pool.place, h]

theorem kept_step {hidden : Op → Prop} {K : σ → Prop} (hides : ∀ i, Hides (answer i) hidden K)
    (keeps : K c.shared) (i : ι) : K (step answer c i).shared := by
  cases hp : c.progs i with
  | done a =>
      rw [step_done hp]
      exact keeps
  | call op next =>
      rw [shared_step hp]
      exact (hides i).kept op (c.own i) c.shared keeps

end Place

variable (answer : ∀ i (op : Op), π i → σ → Resp op × π i × σ) (hidden : Op → Prop)
  [DecidablePred hidden]

/-- The programs after their next hidden calls. -/
def settled (c : Pool Resp α π σ) : Pool Resp α π σ where
  progs i := (settle (answer i) hidden c.shared (c.progs i) (c.own i)).1
  own i := (settle (answer i) hidden c.shared (c.progs i) (c.own i)).2
  shared := c.shared

/-- The program, if its next call is not hidden. -/
def visible (c : Pool Resp α π σ) (i : ι) : Option ι :=
  match c.next i with
  | some op => if hidden op then none else some i
  | none => none

/-- What becomes of program `i` and of the shared state if it runs alone. -/
def Pool.runsTo (c : Pool Resp α π σ) (i : ι) : α i × π i × σ :=
  alone (answer i) (c.place i).1 (c.place i).2 c.shared

theorem place_settled (c : Pool Resp α π σ) (j : ι) : (settled answer hidden c).place j =
    settle (answer j) hidden c.shared (c.place j).1 (c.place j).2 := rfl

theorem settled_settled (c : Pool Resp α π σ) :
    settled answer hidden (settled answer hidden c) = settled answer hidden c := by
  apply Pool.ext_place
  · intro j
    exact settle_settle c.shared (c.progs j) (c.own j)
  · rfl

variable [DecidableEq ι]

/-- A call of program `i`, and all hidden calls that may follow it. -/
def coarse (c : Pool Resp α π σ) (i : ι) : Pool Resp α π σ :=
  settled answer hidden (step answer c i)

/-- The programs that made the calls that are not hidden, in order. -/
def visibleCalls (c : Pool Resp α π σ) (schedule : List ι) : List ι :=
  outputs (step answer) (visible hidden) c schedule

variable {answer hidden} {K : σ → Prop} {c : Pool Resp α π σ} {i : ι}

/-- The others settle to what they did. -/
theorem place_coarse_of_ne (hides : ∀ i, Hides (answer i) hidden K) (keeps : K c.shared) {j : ι}
    (h : j ≠ i) : (coarse answer hidden c i).place j = (settled answer hidden c).place j := by
  rw [coarse, place_settled, place_settled, place_step_of_ne h]
  exact settle_congr (hides j) (kept_step hides keeps i) keeps _ _

theorem place_coarse_self {op : Op} {next : Resp op → CallTree Op Resp (α i)}
    (h : c.progs i = .call op next) : (coarse answer hidden c i).place i =
      settle (answer i) hidden (step answer c i).shared
        (next (answer i op (c.own i) c.shared).1) (answer i op (c.own i) c.shared).2.1 := by
  rw [coarse, place_settled, place_step_self h]

/-- A hidden call changes nothing that counts. -/
theorem coarse_hidden (hides : ∀ i, Hides (answer i) hidden K) (keeps : K c.shared)
    (h : visible hidden c i = none) :
    coarse answer hidden c i = settled answer hidden c := by
  cases hp : c.progs i with
  | done a => rw [coarse, step_done hp]
  | call op next =>
      have hop : hidden op := by
        by_contra hop
        simp [visible, Pool.next_call hp, hop] at h
      have hshared : (step answer c i).shared = c.shared := by
        rw [shared_step hp]
        exact congrArg (fun z => z.2.2) ((hides i).blind op (c.own i) _ _ hop keeps keeps)
      apply Pool.ext_place
      · intro j
        by_cases hj : j = i
        · subst hj
          rw [coarse, place_settled, place_settled, hshared, place_step_self hp,
            place_of_call hp, settle_hidden hop]
        · exact place_coarse_of_ne hides keeps hj
      · exact hshared

/-- Any other call finds and leaves what it would have if all had settled before. -/
theorem coarse_visible (hides : ∀ i, Hides (answer i) hidden K) (keeps : K c.shared) {j : ι}
    (h : visible hidden c i = some j) :
    j = i ∧ coarse answer hidden c i = coarse answer hidden (settled answer hidden c) i := by
  cases hp : c.progs i with
  | done a => simp [visible, Pool.next, hp] at h
  | call op next =>
      have hop : ¬ hidden op := by
        intro hop
        simp [visible, Pool.next_call hp, hop] at h
      have hji : j = i := by simpa [visible, Pool.next_call hp, hop, eq_comm] using h
      have hplace : (settled answer hidden c).place i = c.place i := by
        rw [place_settled, place_of_call hp, settle_visible hop]
      have hown : (settled answer hidden c).own i = c.own i := congrArg Prod.snd hplace
      have hp' : (settled answer hidden c).progs i = .call op next :=
        (congrArg Prod.fst hplace).trans hp
      have hshared : (step answer (settled answer hidden c) i).shared =
          (step answer c i).shared := by
        rw [shared_step hp, shared_step hp', hown]
        rfl
      refine ⟨hji, ?_⟩
      apply Pool.ext_place
      · intro k
        by_cases hk : k = i
        · subst hk
          rw [coarse, coarse, place_settled, place_settled, hshared, place_step_self hp,
            place_step_self hp', hown]
          rfl
        · have keeps' : K (settled answer hidden c).shared := keeps
          rw [place_coarse_of_ne hides keeps hk, place_coarse_of_ne hides keeps' hk,
            settled_settled]
      · exact hshared.symm

/-- A run settles to the run of its calls that are not hidden. -/
theorem settled_run (hides : ∀ i, Hides (answer i) hidden K) (keeps : K c.shared)
    (schedule : List ι) :
    settled answer hidden (run (step answer) c schedule) =
      run (coarse answer hidden) (settled answer hidden c)
        (visibleCalls answer hidden c schedule) := by
  induction schedule generalizing c with
  | nil => rfl
  | cons i schedule ih =>
      have hcalls : visibleCalls answer hidden c (i :: schedule) =
          (visible hidden c i).toList ++ visibleCalls answer hidden (step answer c i) schedule :=
        rfl
      rw [run_cons, ih (kept_step hides keeps i), hcalls, run_append]
      cases h : visible hidden c i with
      | none =>
          have hsettled : settled answer hidden (step answer c i) = settled answer hidden c :=
            coarse_hidden hides keeps h
          rw [hsettled]
          rfl
      | some j =>
          obtain ⟨rfl, hcoarse⟩ := coarse_visible hides keeps h
          have hsettled : settled answer hidden (step answer c j) =
              coarse answer hidden (settled answer hidden c) j := hcoarse
          rw [hsettled]
          rfl

/-- The order of the calls that are not hidden decides what is shared in the end, and what
the programs that are done have returned and hold. -/
theorem run_eq_of_visibleCalls (hides : ∀ i, Hides (answer i) hidden K) (keeps : K c.shared)
    {schedule schedule' : List ι}
    (same : visibleCalls answer hidden c schedule = visibleCalls answer hidden c schedule') :
    (run (step answer) c schedule).shared = (run (step answer) c schedule').shared ∧
      ∀ i a a', (run (step answer) c schedule).progs i = .done a →
        (run (step answer) c schedule').progs i = .done a' →
        (run (step answer) c schedule).place i = (run (step answer) c schedule').place i := by
  have h := settled_run hides keeps schedule
  rw [same, ← settled_run hides keeps schedule'] at h
  have hshared : (settled answer hidden (run (step answer) c schedule)).shared =
      (settled answer hidden (run (step answer) c schedule')).shared := congrArg Pool.shared h
  refine ⟨hshared, ?_⟩
  intro i a a' done done'
  have hplace := congrArg (fun c => c.place i) h
  simpa [place_settled, place_of_done done, place_of_done done', settle] using hplace

/-- The calls of a program that runs alone lead where all of it leads. -/
theorem runsTo_coarse (hides : ∀ i, Hides (answer i) hidden K) (keeps : K c.shared) :
    Pool.runsTo answer (coarse answer hidden c i) i = Pool.runsTo answer c i := by
  have hsettle : Pool.runsTo answer (coarse answer hidden c i) i =
      Pool.runsTo answer (step answer c i) i :=
    alone_settle (hides i) (kept_step hides keeps i) _ _
  rw [hsettle]
  cases hp : c.progs i with
  | done a => rw [step_done hp]
  | call op next =>
      rw [Pool.runsTo, Pool.runsTo, place_step_self hp, shared_step hp, place_of_call hp]
      rfl

theorem kept_coarse (hides : ∀ i, Hides (answer i) hidden K) (keeps : K c.shared) (i : ι) :
    K (coarse answer hidden c i).shared := kept_step hides keeps i

theorem settled_coarse (c : Pool Resp α π σ) (i : ι) :
    settled answer hidden (coarse answer hidden c i) = coarse answer hidden c i :=
  settled_settled answer hidden (step answer c i)

theorem kept_run_coarse (hides : ∀ i, Hides (answer i) hidden K) (keeps : K c.shared)
    (calls : List ι) : K (run (coarse answer hidden) c calls).shared := by
  induction calls generalizing c with
  | nil => exact keeps
  | cons i calls ih =>
      apply ih
      exact kept_coarse hides keeps i

theorem settled_run_coarse (hc : settled answer hidden c = c) (calls : List ι) :
    settled answer hidden (run (coarse answer hidden) c calls) =
      run (coarse answer hidden) c calls := by
  induction calls generalizing c with
  | nil => exact hc
  | cons i calls ih =>
      apply ih
      exact settled_coarse c i

theorem place_run_coarse (hides : ∀ i, Hides (answer i) hidden K) (keeps : K c.shared)
    (hc : settled answer hidden c = c) {calls : List ι} {j : ι} (h : j ∉ calls) :
    (run (coarse answer hidden) c calls).place j = c.place j := by
  induction calls generalizing c with
  | nil => rfl
  | cons i calls ih =>
      simp only [List.mem_cons, not_or] at h
      rw [run_cons, ih (kept_coarse hides keeps i) (settled_coarse c i) h.2,
        place_coarse_of_ne hides keeps h.1, hc]

theorem runsTo_replicate (hides : ∀ i, Hides (answer i) hidden K) (keeps : K c.shared) (n : Nat) :
    Pool.runsTo answer (run (coarse answer hidden) c (List.replicate n i)) i =
      Pool.runsTo answer c i := by
  induction n generalizing c with
  | zero => rfl
  | succ n ih =>
      rw [List.replicate_succ, run_cons, ih (kept_coarse hides keeps i),
        runsTo_coarse hides keeps]

/-- What is shared after the programs `p`, with what they hold, one after the other. -/
def inSequence (answer : ∀ i (op : Op), π i → σ → Resp op × π i × σ)
    (p : ∀ i, CallTree Op Resp (α i) × π i) (s : σ) (order : List ι) : σ :=
  order.foldl (fun s i => (alone (answer i) (p i).1 (p i).2 s).2.2) s

theorem coarse_inSequence (hides : ∀ i, Hides (answer i) hidden K) (keeps : K c.shared)
    (hc : settled answer hidden c = c) {p : ∀ i, CallTree Op Resp (α i) × π i} {order : List ι}
    (nodup : order.Nodup)
    (start : ∀ i ∈ order, ∀ s, K s → alone (answer i) (c.place i).1 (c.place i).2 s =
      alone (answer i) (p i).1 (p i).2 s) (n : ι → Nat)
    (finished : ∀ i ∈ order, ∃ a, (run (coarse answer hidden) c
      (order.flatMap fun i => List.replicate (n i) i)).progs i = .done a) :
    (run (coarse answer hidden) c (order.flatMap fun i => List.replicate (n i) i)).shared =
        inSequence answer p c.shared order ∧
      ∀ before i after, order = before ++ i :: after →
        (run (coarse answer hidden) c (order.flatMap fun i => List.replicate (n i) i)).place i =
          (.done (alone (answer i) (p i).1 (p i).2 (inSequence answer p c.shared before)).1,
            (alone (answer i) (p i).1 (p i).2 (inSequence answer p c.shared before)).2.1) := by
  induction order generalizing c with
  | nil => exact ⟨rfl, by simp⟩
  | cons i order ih =>
      obtain ⟨fresh, nodup⟩ := List.nodup_cons.mp nodup
      have absent : i ∉ order.flatMap fun i => List.replicate (n i) i := by
        intro h
        obtain ⟨j, hj, hij⟩ := List.mem_flatMap.mp h
        exact fresh (List.eq_of_mem_replicate hij ▸ hj)
      simp only [List.flatMap_cons, run_append] at finished ⊢
      have after := runsTo_replicate hides keeps (i := i) (n i)
      have keeps' := kept_run_coarse hides keeps (List.replicate (n i) i)
      have hc' := settled_run_coarse hc (List.replicate (n i) i)
      have others : ∀ j ∈ order,
          (run (coarse answer hidden) c (List.replicate (n i) i)).place j = c.place j := by
        intro j hj
        apply place_run_coarse hides keeps hc
        intro h
        exact fresh (List.eq_of_mem_replicate h ▸ hj)
      generalize run (coarse answer hidden) c (List.replicate (n i) i) = c' at *
      obtain ⟨a, done⟩ := finished i List.mem_cons_self
      have hplace := place_run_coarse hides keeps' hc' absent
      have place' : c'.place i = (.done a, c'.own i) :=
        place_of_done ((congrArg Prod.fst hplace).symm.trans done)
      rw [Pool.runsTo, Pool.runsTo, place', start i List.mem_cons_self _ keeps] at after
      have ended : alone (answer i) (p i).1 (p i).2 c.shared = (a, c'.own i, c'.shared) :=
        after.symm
      have start' : ∀ j ∈ order, ∀ s, K s → alone (answer j) (c'.place j).1 (c'.place j).2 s =
          alone (answer j) (p j).1 (p j).2 s := by
        intro j hj s hs
        rw [others j hj]
        exact start j (List.mem_cons_of_mem i hj) s hs
      obtain ⟨shared, places⟩ := ih keeps' hc' nodup start' fun j hj =>
        finished j (List.mem_cons_of_mem i hj)
      have hturn : ∀ order, inSequence answer p c.shared (i :: order) =
          inSequence answer p c'.shared order := by
        intro order
        simp [inSequence, ended]
      refine ⟨by rw [hturn, shared], ?_⟩
      intro before j rest split
      cases before with
      | nil =>
          obtain ⟨rfl, rfl⟩ := List.cons.inj split
          rw [hplace, place']
          simp [inSequence, ended]
      | cons i' before =>
          obtain ⟨rfl, rest'⟩ := List.cons.inj split
          rw [hturn, places before j rest rest']

/-- If the pool settles as if the calls of each program that are not hidden had come in one
piece, each program ends as if it had run alone, after those before it. -/
theorem run_inSequence (hides : ∀ i, Hides (answer i) hidden K) (keeps : K c.shared)
    {c' : Pool Resp α π σ} {order : List ι} (nodup : order.Nodup) (n : ι → Nat)
    (pieces : settled answer hidden c' = run (coarse answer hidden) (settled answer hidden c)
      (order.flatMap fun i => List.replicate (n i) i))
    (finished : ∀ i ∈ order, ∃ a, c'.progs i = .done a) :
    c'.shared = inSequence answer c.place c.shared order ∧
      ∀ before i after, order = before ++ i :: after →
        c'.place i =
          (.done (alone (answer i) (c.place i).1 (c.place i).2
              (inSequence answer c.place c.shared before)).1,
            (alone (answer i) (c.place i).1 (c.place i).2
              (inSequence answer c.place c.shared before)).2.1) := by
  have done : ∀ i ∈ order, (settled answer hidden c').place i = c'.place i := by
    intro i hi
    obtain ⟨a, ha⟩ := finished i hi
    rw [place_settled, place_of_done ha, settle]
  have start : ∀ i ∈ order, ∀ s, K s → alone (answer i) ((settled answer hidden c).place i).1
      ((settled answer hidden c).place i).2 s = alone (answer i) (c.place i).1 (c.place i).2 s := by
    intro i _ s hs
    rw [place_settled, settle_congr (hides i) keeps hs]
    exact alone_settle (hides i) hs _ _
  have keeps' : K (settled answer hidden c).shared := keeps
  have finished' : ∀ i ∈ order, ∃ a, (run (coarse answer hidden) (settled answer hidden c)
      (order.flatMap fun i => List.replicate (n i) i)).progs i = .done a := by
    intro i hi
    obtain ⟨a, ha⟩ := finished i hi
    rw [← pieces]
    exact ⟨a, (congrArg Prod.fst (done i hi)).trans ha⟩
  obtain ⟨shared, places⟩ := coarse_inSequence hides keeps' (settled_settled answer hidden c) nodup
    start n finished'
  rw [← pieces] at shared places
  refine ⟨shared, ?_⟩
  intro before i after split
  rw [← done i (by simp [split])]
  exact places before i after split

end All
end Interleaving
