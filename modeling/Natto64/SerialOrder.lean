import Natto64.ConcurrentFiltering
import Natto64.Granularity

/-!
# Serial order

What a packet does between two accesses to the session maps concerns nobody else. So the order
of these accesses decides what becomes of all invocations that are in flight; and where the
accesses of no two invocations overlap, the outcome is that of whole invocations, one after
the other, however the rest of their work was interleaved.
-/
namespace Natto64
open EventRun Interleaving

/-- The call accesses a session map. -/
def Op.onSessions : Op → Bool
  | .fwdNatLookup _ | .fwdNatSetLastSeen _ _ | .fwdNatSetObserved _ _ | .fwdNatInsert _ _
  | .fwdNatRemove _ | .timerStart _ _ | .natLookup _ | .natSetLastSeen _ _ | .natInsert _ _
  | .natRemove _ => true
  | _ => false

def Op.OffSessions (op : Op) : Prop := op.onSessions = false

instance : DecidablePred Op.OffSessions := fun _ => inferInstanceAs (Decidable (_ = false))

theorem Op.OffSessions.cases {op : Op} (h : op.OffSessions) : op.Local ∨ op = .configGet := by
  cases op <;> first | exact .inl trivial | exact .inr rfl | exact Bool.noConfusion h

theorem answer_config (k : Kernel) (op : Op) (m : Machine) :
    (k.answer op m).2.maps.config = m.maps.config := by
  cases op <;> simp only [Kernel.answer] <;> first | rfl | (split <;> first | rfl | (split <;> rfl))

/-- Calls off the session maps answer alike as long as the configuration stays. -/
theorem task_hides (k : Kernel) (cfg : Nat64Config) :
    Hides (taskAnswer k) Op.OffSessions fun s => s.config = some cfg where
  kept op l s hs := (answer_config k op (l.machine s)).trans hs
  blind := by
    rintro op ⟨v, trail⟩ s s' hop hs hs'
    rcases hop.cases with hlocal | rfl
    · rw [taskAnswer_local hlocal v trail s s', taskAnswer_local hlocal v trail s s]
    · have same : s'.config = s.config := Eq.trans hs' (Eq.symm hs)
      simp [taskAnswer, stagedAnswer, Kernel.answer, same]

/-- A task that runs alone does what its invocation does. -/
theorem alone_task {α : Type} (k : Kernel) (p : Ebpf α) (l : TaskState) (s : Maps) :
    (alone (taskAnswer k) p l s).1 = (k.exec p (l.machine s)).1 ∧
      (alone (taskAnswer k) p l s).2.1.machine (alone (taskAnswer k) p l s).2.2 =
        (k.exec p (l.machine s)).2 := by
  induction p generalizing l s with
  | done a => exact ⟨rfl, rfl⟩
  | call op next ih => exact ih _ _ _

section Runs
variable {ι : Type} (cfg : Nat64Config) (tasks : ι → Task) (k : ι → Kernel)

/-- The whole invocation of task `i` on these maps. -/
def invoked (i : ι) (s : Maps) : (tasks i).Result × Machine :=
  (k i).exec (tasks i).program ((tasks i).invocation.machine s)

/-- The maps after whole invocations, one after the other. -/
def oneByOne (order : List ι) : Maps :=
  order.foldl (fun s i => (invoked tasks k i s).2.maps) (System.initial cfg).maps

theorem inSequence_arrived (order : List ι) :
    inSequence (fun i => taskAnswer (k i)) (arrived cfg tasks).place (arrived cfg tasks).shared
      order = oneByOne cfg tasks k order := by
  have hturn : ∀ s i, (alone (taskAnswer (k i)) ((arrived cfg tasks).place i).1
      ((arrived cfg tasks).place i).2 s).2.2 = (invoked tasks k i s).2.maps := by
    intro s i
    have h := alone_task (k i) (tasks i).program ⟨(tasks i).invocation, .fresh⟩ s
    exact congrArg Machine.maps h.2
  simp only [inSequence, hturn]
  rfl

variable [DecidableEq ι]

/-- The tasks that accessed the session maps, in the order of the accesses. -/
def sessionCalls (schedule : List ι) : List ι :=
  visibleCalls (fun i => taskAnswer (k i)) Op.OffSessions (arrived cfg tasks) schedule

theorem finished_of_result {schedule : List ι} {i : ι} {r : (tasks i).Result}
    (h : (inFlight cfg tasks k schedule).result i = some r) :
    (run (step fun i => taskAnswer (k i)) (arrived cfg tasks) schedule).progs i = .done r :=
  Pool.done_of_result h

/-- The run settles as if the tasks had accessed the session maps in this order. -/
def SettlesAs (schedule calls : List ι) : Prop :=
  settled (fun i => taskAnswer (k i)) Op.OffSessions (inFlight cfg tasks k schedule) =
    run (coarse (fun i => taskAnswer (k i)) Op.OffSessions)
      (settled (fun i => taskAnswer (k i)) Op.OffSessions (arrived cfg tasks)) calls

theorem settlesAs_sessionCalls (schedule : List ι) :
    SettlesAs cfg tasks k schedule (sessionCalls cfg tasks k schedule) := by
  have keeps : (arrived cfg tasks).shared.config = some cfg := rfl
  exact settled_run (fun i => task_hides (k i) cfg) keeps schedule

/-- Where the accesses of each task come in one piece, the outcome is that of whole invocations
in this order. -/
theorem serial_outcome {schedule order : List ι} (nodup : order.Nodup) (n : ι → Nat)
    (pieces : SettlesAs cfg tasks k schedule (order.flatMap fun i => List.replicate (n i) i))
    (finished : ∀ i ∈ order, ((inFlight cfg tasks k schedule).result i).isSome) :
    (inFlight cfg tasks k schedule).shared = oneByOne cfg tasks k order ∧
      ∀ before i after, order = before ++ i :: after →
        (inFlight cfg tasks k schedule).result i =
          some (invoked tasks k i (oneByOne cfg tasks k before)).1 ∧
        ((inFlight cfg tasks k schedule).own i).toInvocation =
          (invoked tasks k i (oneByOne cfg tasks k before)).2.invocation := by
  have hides : ∀ i, Hides (taskAnswer (k i)) Op.OffSessions fun s => s.config = some cfg :=
    fun i => task_hides (k i) cfg
  have keeps : (arrived cfg tasks).shared.config = some cfg := rfl
  have done : ∀ i ∈ order, ∃ a, (inFlight cfg tasks k schedule).progs i = .done a := by
    intro i hi
    obtain ⟨r, hr⟩ := Option.isSome_iff_exists.mp (finished i hi)
    exact ⟨r, finished_of_result cfg tasks k hr⟩
  obtain ⟨shared, places⟩ := run_inSequence hides keeps nodup n pieces done
  rw [inSequence_arrived] at shared
  refine ⟨shared, ?_⟩
  intro before i after split
  have place := places before i after split
  rw [inSequence_arrived] at place
  obtain ⟨hr, hl⟩ := alone_task (k i) (tasks i).program ⟨(tasks i).invocation, .fresh⟩
    (oneByOne cfg tasks k before)
  have hprog := congrArg Prod.fst place
  have hown := congrArg Prod.snd place
  constructor
  · exact (Pool.result_of_done hprog).trans (congrArg some hr)
  · exact (congrArg (fun l => l.toInvocation) hown).trans (congrArg Machine.invocation hl)

/-- The order of the accesses to the session maps decides what is in the maps, and what every
finished task has returned and made of its packet. Where the accesses of each task come in one
piece, that is the outcome of whole invocations in this order. -/
theorem session_order_decides :
    (∀ schedule schedule',
      sessionCalls cfg tasks k schedule = sessionCalls cfg tasks k schedule' →
      (inFlight cfg tasks k schedule).shared = (inFlight cfg tasks k schedule').shared ∧
      ∀ i r r', (inFlight cfg tasks k schedule).result i = some r →
        (inFlight cfg tasks k schedule').result i = some r' →
        r = r' ∧ (inFlight cfg tasks k schedule).frame i =
          (inFlight cfg tasks k schedule').frame i) ∧
    ∀ schedule order (n : ι → Nat), order.Nodup →
      sessionCalls cfg tasks k schedule = (order.flatMap fun i => List.replicate (n i) i) →
      (∀ i ∈ order, ((inFlight cfg tasks k schedule).result i).isSome) →
      (inFlight cfg tasks k schedule).shared = oneByOne cfg tasks k order ∧
      ∀ before i after, order = before ++ i :: after →
        (inFlight cfg tasks k schedule).result i =
          some (invoked tasks k i (oneByOne cfg tasks k before)).1 ∧
        (inFlight cfg tasks k schedule).frame i =
          (invoked tasks k i (oneByOne cfg tasks k before)).2.skb := by
  have hides : ∀ i, Hides (taskAnswer (k i)) Op.OffSessions fun s => s.config = some cfg :=
    fun i => task_hides (k i) cfg
  have keeps : (arrived cfg tasks).shared.config = some cfg := rfl
  constructor
  · intro schedule schedule' same
    obtain ⟨shared, places⟩ := run_eq_of_visibleCalls hides keeps same
    refine ⟨shared, ?_⟩
    intro i r r' result result'
    have done := finished_of_result cfg tasks k result
    have done' := finished_of_result cfg tasks k result'
    have place := places i r r' done done'
    rw [place_of_done done, place_of_done done'] at place
    obtain ⟨hr, hown⟩ := Prod.mk.inj place
    exact ⟨CallTree.done.inj hr, congrArg (fun l => l.skb) hown⟩
  · intro schedule order n nodup pieces finished
    have settles := settlesAs_sessionCalls cfg tasks k schedule
    rw [pieces] at settles
    obtain ⟨shared, ends⟩ := serial_outcome cfg tasks k nodup n settles finished
    refine ⟨shared, ?_⟩
    intro before i after split
    obtain ⟨result, own⟩ := ends before i after split
    exact ⟨result, congrArg Invocation.skb own⟩

end Runs

theorem session_order_decides_overtaking :
    (inFlight exampleDataplane exampleTasks (fun _ => .ideal 1000 7) overtaking).shared =
        oneByOne exampleDataplane exampleTasks (fun _ => .ideal 1000 7) [false, true] ∧
      (inFlight exampleDataplane exampleTasks (fun _ => .ideal 1000 7) overtaking).frame true =
        (invoked exampleTasks (fun _ => .ideal 1000 7) true
          (oneByOne exampleDataplane exampleTasks (fun _ => .ideal 1000 7) [false])).2.skb := by
  have outcome := (session_order_decides exampleDataplane exampleTasks fun _ => .ideal 1000 7).2
    overtaking [false, true] (fun task => cond task 2 6) (by decide)
    (by decide +kernel) (by decide +kernel)
  exact ⟨outcome.1, (outcome.2 [false] true [] rfl).2⟩

end Natto64
