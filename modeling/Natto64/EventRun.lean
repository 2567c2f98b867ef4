import Mathlib.Data.List.Induction
import Mathlib.Tactic.Common

/-!
# Runs of events

A system that takes events one at a time, what every event of a run satisfies, and
the invariant rules: of the state alone, and of the state with its history.
-/
namespace EventRun

variable {σ ε : Type*} {step : σ → ε → σ}

/-- The state after the events. -/
def run (step : σ → ε → σ) (s : σ) (es : List ε) : σ := es.foldl step s

/-- Every event of the run satisfies `ok` in the state it finds. -/
def Along (step : σ → ε → σ) (ok : σ → ε → Prop) : σ → List ε → Prop
  | _, [] => True
  | s, e :: es => ok s e ∧ Along step ok (step s e) es

@[simp] theorem run_nil (s : σ) : run step s [] = s := rfl

@[simp] theorem run_cons (s : σ) (e : ε) (es : List ε) :
    run step s (e :: es) = run step (step s e) es := rfl

theorem run_append (s : σ) (es fs : List ε) :
    run step s (es ++ fs) = run step (run step s es) fs := List.foldl_append ..

theorem run_concat (s : σ) (es : List ε) (e : ε) :
    run step s (es ++ [e]) = step (run step s es) e := by
  rw [run_append, run_cons, run_nil]

theorem along_append {ok : σ → ε → Prop} {s : σ} {es fs : List ε} :
    Along step ok s (es ++ fs) ↔ Along step ok s es ∧ Along step ok (run step s es) fs := by
  induction es generalizing s with
  | nil => exact ⟨fun h => ⟨trivial, h⟩, fun h => h.2⟩
  | cons e es ih =>
      constructor
      · intro h
        obtain ⟨hes, hfs⟩ := ih.mp h.2
        exact ⟨⟨h.1, hes⟩, hfs⟩
      · intro h
        exact ⟨h.1.1, ih.mpr ⟨h.1.2, h.2⟩⟩

theorem along_concat {ok : σ → ε → Prop} {s : σ} {es : List ε} {e : ε} :
    Along step ok s (es ++ [e]) ↔ Along step ok s es ∧ ok (run step s es) e := by
  rw [along_append]
  exact ⟨fun h => ⟨h.1, h.2.1⟩, fun h => ⟨h.1, h.2, trivial⟩⟩

theorem Along.mono {ok ok' : σ → ε → Prop} (hok : ∀ s e, ok s e → ok' s e) {s : σ} {es : List ε}
    (h : Along step ok s es) : Along step ok' s es := by
  induction es generalizing s with
  | nil => trivial
  | cons e es ih => exact ⟨hok _ _ h.1, ih h.2⟩

/-- What holds at the start and is kept by every permitted event holds at the end. -/
theorem invariant {I : σ → Prop} {ok : σ → ε → Prop}
    (preserved : ∀ s e, I s → ok s e → I (step s e)) {s : σ} {es : List ε} (init : I s)
    (h : Along step ok s es) : I (run step s es) := by
  induction es generalizing s with
  | nil => exact init
  | cons e es ih => exact ih (preserved s e init h.1) h.2

instance decidableAlong {ok : σ → ε → Prop} [∀ s e, Decidable (ok s e)] (s : σ) :
    (es : List ε) → Decidable (Along step ok s es)
  | [] => inferInstanceAs (Decidable True)
  | e :: es =>
      have : Decidable (Along step ok (step s e) es) := decidableAlong _ es
      inferInstanceAs (Decidable (ok s e ∧ Along step ok (step s e) es))

/-- What the events of a run put out, in order. -/
def outputs {β : Type*} (step : σ → ε → σ) (out : σ → ε → Option β) : σ → List ε → List β
  | _, [] => []
  | s, e :: es => (out s e).toList ++ outputs step out (step s e) es

theorem outputs_append {β : Type*} (out : σ → ε → Option β) (s : σ) (es fs : List ε) :
    outputs step out s (es ++ fs) =
      outputs step out s es ++ outputs step out (run step s es) fs := by
  induction es generalizing s with
  | nil => rfl
  | cons e es ih => rw [List.cons_append, outputs, outputs, ih, run_cons, List.append_assoc]

/-- What every output of a run satisfies in the state the run starts from. -/
theorem outputs_later {β : Type*} {out : σ → ε → Option β} {I : σ → Prop} {L : σ → β → Prop}
    (kept : ∀ s e, I s → I (step s e)) (now : ∀ s e b, I s → out s e = some b → L s b)
    (back : ∀ s e b, I s → L (step s e) b → L s b) {s : σ} (init : I s) (es : List ε) :
    ∀ b ∈ outputs step out s es, L s b := by
  induction es generalizing s with
  | nil => intro b hb; cases hb
  | cons e es ih =>
      intro b hb
      rcases List.mem_append.mp hb with first | rest
      · exact now s e b init (Option.mem_toList.mp first)
      · exact back s e b init (ih (kept s e init) b rest)

/-- Outputs are in relation if each is with what later outputs satisfy. -/
theorem outputs_pairwise {β : Type*} {out : σ → ε → Option β} {I : σ → Prop} {L : σ → β → Prop}
    {R : β → β → Prop} (kept : ∀ s e, I s → I (step s e))
    (now : ∀ s e b, I s → out s e = some b → L s b)
    (back : ∀ s e b, I s → L (step s e) b → L s b)
    (related : ∀ s e a b, I s → out s e = some a → L (step s e) b → R a b) {s : σ} (init : I s)
    (es : List ε) : (outputs step out s es).Pairwise R := by
  induction es generalizing s with
  | nil => exact .nil
  | cons e es ih =>
      refine List.pairwise_append.mpr ⟨?_, ih (kept s e init), fun a ha b hb => ?_⟩
      · cases out s e with
        | none => exact .nil
        | some a => exact List.pairwise_singleton R a
      · exact related s e a b init (Option.mem_toList.mp ha)
          (outputs_later kept now back (kept s e init) es b hb)

/-- A system that follows another event by event, and puts out what it does, follows its
runs. -/
theorem run_related {τ φ β : Type*} {step' : τ → φ → τ} {out : σ → ε → Option β}
    {out' : τ → φ → Option β} {R : σ → τ → Prop} {f : φ → ε}
    (follows : ∀ s t e, R s t → out s (f e) = out' t e ∧ R (step s (f e)) (step' t e)) {s : σ}
    {t : τ} (related : R s t) (es : List φ) :
    outputs step out s (es.map f) = outputs step' out' t es ∧
      R (run step s (es.map f)) (run step' t es) := by
  induction es generalizing s t with
  | nil => exact ⟨rfl, related⟩
  | cons e es ih =>
      obtain ⟨first, after⟩ := follows s t e related
      obtain ⟨rest, last⟩ := ih after
      exact ⟨by rw [List.map_cons, outputs, outputs, first, rest], last⟩

/-- Some event of the run satisfied `Q` in the state it found. -/
def Happened (step : σ → ε → σ) (Q : σ → ε → Prop) (s : σ) (es : List ε) : Prop :=
  ∃ before e after, es = before ++ e :: after ∧ Q (run step s before) e

theorem Happened.concat {Q : σ → ε → Prop} {s : σ} {es : List ε} (h : Happened step Q s es)
    (e : ε) : Happened step Q s (es ++ [e]) := by
  obtain ⟨before, e', after, rfl, hQ⟩ := h
  exact ⟨before, e', after ++ [e], by rw [List.append_assoc, List.cons_append], hQ⟩

theorem happened_last {Q : σ → ε → Prop} {s : σ} {es : List ε} {e : ε}
    (h : Q (run step s es) e) : Happened step Q s (es ++ [e]) :=
  ⟨es, e, [], rfl, h⟩

theorem Happened.mono {Q Q' : σ → ε → Prop} (hQ : ∀ s e, Q s e → Q' s e) {s : σ} {es : List ε}
    (h : Happened step Q s es) : Happened step Q' s es := by
  obtain ⟨before, e, after, hes, he⟩ := h
  exact ⟨before, e, after, hes, hQ _ _ he⟩

/-- The same for a statement about the state and the events that led to it. -/
theorem history_invariant {I : List ε → σ → Prop} {ok : σ → ε → Prop} {s : σ} (init : I [] s)
    (preserved : ∀ past e, I past (run step s past) → ok (run step s past) e →
      I (past ++ [e]) (step (run step s past) e)) {es : List ε}
    (h : Along step ok s es) : I es (run step s es) := by
  induction es using List.reverseRecOn with
  | nil => exact init
  | append_singleton es e ih =>
      obtain ⟨hes, he⟩ := along_concat.mp h
      rw [run_concat]
      exact preserved es e (ih hes) he

theorem along_of_forall {ok : σ → ε → Prop} {s : σ} {es : List ε} (h : ∀ e ∈ es, ∀ s, ok s e) :
    Along step ok s es := by
  induction es generalizing s with
  | nil => trivial
  | cons e es ih =>
      exact ⟨h e List.mem_cons_self s, ih fun e' he' => h e' (List.mem_cons_of_mem e he')⟩

theorem Along.of_split {ok : σ → ε → Prop} {s : σ} {before after : List ε} {e : ε}
    (h : Along step ok s (before ++ e :: after)) : ok (run step s before) e :=
  (along_append.mp h).2.1

theorem along_iff_split {ok : σ → ε → Prop} {s : σ} {es : List ε} :
    Along step ok s es ↔
      ∀ before e after, es = before ++ e :: after → ok (run step s before) e := by
  constructor
  · rintro h before e after rfl
    exact h.of_split
  · intro h
    induction es using List.reverseRecOn with
    | nil => trivial
    | append_singleton es e ih =>
        refine along_concat.mpr ⟨ih ?_, h es e [] rfl⟩
        rintro before e' after rfl
        exact h before e' (after ++ [e]) (by simp)

/-- The same over any run. -/
theorem run_history {I : List ε → σ → Prop} {s : σ} (init : I [] s)
    (preserved : ∀ past e, I past (run step s past) →
      I (past ++ [e]) (step (run step s past) e)) (es : List ε) : I es (run step s es) :=
  history_invariant init (fun past e h _ => preserved past e h)
    (along_of_forall fun _ _ _ => (trivial : True))

end EventRun
