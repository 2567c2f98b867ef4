import Natto64.InFlightReverse

/-!
# Filtering under concurrency

Any number of packets, timer callbacks and evictions, on as many CPUs as one likes, in any
interleaving of their calls and whichever of these fail: a return packet is translated only if
it answers a packet of the client it is delivered to, and every external tuple is one that the
configuration grants its client.
-/
namespace Natto64
open EventRun Interleaving Octets

section Programs
variable {k : Kernel} {cfg : Nat64Config}

/-- The call writes no entry and no frame. -/
def Op.Harmless (op : Op) : Prop := op.Passive ∨ ∃ t, op = .natLookup t

theorem TaskMay.of_harmless {op : Op} (h : op.Harmless) {task : Task} {l : TaskState} :
    TaskMay cfg task l op := by
  rcases h with passive | ⟨t, rfl⟩
  · exact .of_passive passive
  · trivial

theorem guarded_harmless {α : Type} {task : Task} {p : Ebpf α} (hp : p.Uses Op.Harmless)
    (l : TaskState) : Guarded k cfg task (fun _ _ => True) p l := by
  induction p generalizing l with
  | done a => trivial
  | call op next ih => exact ⟨.of_harmless hp.1, fun s _ => ih _ (hp.2 _) _⟩

/-- The timer callback writes through pointers and removes entries. -/
def Op.OfCallback : Op → Prop
  | .configGet | .ktimeGetNs | .fwdNatLookup _ | .fwdNatSetObserved _ _ | .fwdNatRemove _
  | .timerStart _ _ | .natLookup _ | .natRemove _ => True
  | _ => False

theorem Op.OfCallback.harmless {op : Op} (h : op.OfCallback) : op.Harmless := by
  cases op <;> first | exact h.elim | exact .inl trivial | exact .inr ⟨_, rfl⟩

theorem uses_sessionTimerCallback (key : FwdNatKey) :
    (sessionTimerCallback key).Uses Op.OfCallback := by
  have call : ∀ {op : Op}, op.OfCallback →
      (CallTree.perform op : Ebpf op.Resp).Uses Op.OfCallback := fun h => ⟨h, fun _ => trivial⟩
  have postpone : ∀ observed delay, (do
      fwdNatSetObserved key observed
      let _ ← timerRearm key delay
      return () : Ebpf Unit).Uses Op.OfCallback := fun observed delay =>
    CallTree.Uses.bind (p := fwdNatSetObserved key observed) (call trivial) fun _ =>
      CallTree.Uses.bind (p := timerRearm key delay) (call trivial) fun _ => trivial
  unfold sessionTimerCallback
  refine CallTree.Uses.bindOption (p := fwdNatLookup key) (call trivial) trivial fun value => ?_
  refine CallTree.Uses.bind (p := configGet) (call trivial) fun cfg => ?_
  dsimp only
  split
  · trivial
  refine CallTree.Uses.bind (p := bpfKtimeGetNs) (call trivial) fun nowNs => ?_
  refine CallTree.Uses.bind (p := fwdNatLookup key) (call trivial) fun fwd => ?_
  refine CallTree.Uses.bind (p := natLookup _) (call trivial) fun reverse => ?_
  split
  · exact postpone _ _
  refine CallTree.Uses.bind (p := fwdNatLookup key) (call trivial) fun fwd => ?_
  split
  · exact postpone _ _
  refine CallTree.Uses.bind (p := fwdNatLookup key) (call trivial) fun fwd => ?_
  refine CallTree.Uses.bind (p := natLookup _) (call trivial) fun reverse => ?_
  split
  · exact postpone _ _
  split
  · refine CallTree.Uses.bind (p := natRemove _) (call trivial) fun _ => ?_
    exact CallTree.Uses.bind (p := fwdNatRemove key) (call trivial) fun _ => trivial
  · exact CallTree.Uses.bind (p := fwdNatRemove key) (call trivial) fun _ => trivial

end Programs

namespace Task

/-- What becomes of the packet. -/
def action : (task : Task) → task.Result → TcAction
  | .forward _ _, a | .reverse _ _, a => a
  | .timer _, _ | .evictFwdNat _, _ | .evictNat _, _ => .pipe

/-- What a finished task has done. -/
def Post (cfg : Nat64Config) : (task : Task) → task.Result → TaskState → Prop
  | .forward skb _, a => SentRewritten cfg skb a
  | .reverse skb _, a => SentBack skb a
  | .timer _, _ | .evictFwdNat _, _ | .evictNat _, _ => fun _ => True

theorem guarded (k : Kernel) (cfg : Nat64Config) (task : Task) :
    Guarded k cfg task (task.Post cfg) task.program ⟨task.invocation, .fresh⟩ := by
  cases task with
  | forward skb cpu => exact guarded_nat64Forward
  | reverse skb cpu => exact guarded_nat64Reverse
  | timer key =>
    exact guarded_harmless ((uses_sessionTimerCallback key).mono fun _ h => h.harmless) _
  | evictFwdNat key =>
    exact guarded_harmless (p := fwdNatRemove key) ⟨.inl trivial, fun _ => trivial⟩ _
  | evictNat key => exact guarded_harmless (p := natRemove key) ⟨.inl trivial, fun _ => trivial⟩ _

theorem Post.delivered {cfg : Nat64Config} {task : Task} {skb : List UInt8} {cpu : CpuMaps}
    (reply : task = .reverse skb cpu) {r : task.Result} {l : TaskState} (post : task.Post cfg r l)
    (action : task.action r ≠ .pipe) :
    ∃ flow, l.stage = .read (revKeyAt skb) flow ∧ DeliveredTo skb l.skb flow := by
  subst reply
  exact post action

theorem Post.rewritten {cfg : Nat64Config} {task : Task} {skb : List UInt8} {cpu : CpuMaps}
    (packet : task = .forward skb cpu) {r : task.Result} {l : TaskState} (post : task.Post cfg r l)
    (action : task.action r ≠ .pipe) : ∃ tuple, RewrittenAs cfg skb l.skb tuple (fwdKeyAt skb) := by
  subst packet
  exact post action

end Task

/-- Tasks that run side by side. -/
abbrev InFlight {ι : Type} (tasks : ι → Task) :=
  Pool Op.Resp (fun i => (tasks i).Result) (fun _ : ι => TaskState) Maps

section Runs
variable {ι : Type} {tasks : ι → Task}

/-- None of them has made a call, and there are no sessions. -/
def arrived (cfg : Nat64Config) (tasks : ι → Task) : InFlight tasks where
  progs i := (tasks i).program
  own i := ⟨(tasks i).invocation, .fresh⟩
  shared := (System.initial cfg).maps

/-- Task `i` is done, and its packet was translated. -/
def InFlight.Left (c : InFlight tasks) (i : ι) : Prop :=
  ∃ a ∈ (c.result i).map (tasks i).action, a ≠ .pipe

theorem InFlight.Left.result {c : InFlight tasks} {i : ι} (h : c.Left i) :
    ∃ r, c.result i = some r ∧ (tasks i).action r ≠ .pipe := by
  obtain ⟨a, ha, hne⟩ := h
  obtain ⟨r, result, rfl⟩ := Option.map_eq_some_iff.mp ha
  exact ⟨r, result, hne⟩

/-- The frame of task `i`. -/
def InFlight.frame (c : InFlight tasks) (i : ι) : List UInt8 := (c.own i).skb

theorem filtered_arrived (cfg : Nat64Config) :
    Filtered tasks cfg (arrived cfg tasks).own (arrived cfg tasks).shared where
  known := ⟨rfl, nofun⟩
  backed := nofun
  wrote := nofun
  read := nofun

variable [DecidableEq ι]

def InFlight.step (k : ι → Kernel) : InFlight tasks → ι → InFlight tasks :=
  Interleaving.step fun i => taskAnswer (k i)

/-- A run of the tasks, each with answers of its own. -/
def inFlight (cfg : Nat64Config) (tasks : ι → Task) (k : ι → Kernel) (schedule : List ι) :
    InFlight tasks := run (InFlight.step k) (arrived cfg tasks) schedule

variable {cfg : Nat64Config} {k : ι → Kernel}

theorem inFlight_sound (cfg : Nat64Config) (tasks : ι → Task) (k : ι → Kernel)
    (schedule : List ι) :
    Sound (fun i => taskAnswer (k i)) (fun i => TaskMay cfg (tasks i)) (fun _ _ => TaskKnows cfg)
      (fun i => (tasks i).Post cfg) (Filtered tasks cfg) (inFlight cfg tasks k schedule) := by
  have along : Along (InFlight.step k) (fun _ _ => True) (arrived cfg tasks) schedule :=
    along_of_forall fun _ _ _ => trivial
  refine Sound.run ⟨filtered_arrived cfg, fun i => (tasks i).guarded (k i) cfg⟩
    (fun _ _ _ h => h.known) ?_ along
  intro c i op next hinv _ _ may
  exact filtered_step hinv (task_step may hinv.known)

/-- The tuple of a frame that answers one with this tuple. -/
def Ipv4Tuple.answer (t : Ipv4Tuple) : Ipv4Tuple := ⟨t.dst, t.dport, t.src, t.sport, t.proto⟩

/-- A reply is translated only if another task translated a packet to which it is the answer,
and then it goes to the client and the port of that packet. -/
theorem concurrent_inbound_filtering (schedule : List ι) {i : ι} {skb : List UInt8} {cpu : CpuMaps}
    (reply : tasks i = .reverse skb cpu) (left : (inFlight cfg tasks k schedule).Left i) :
    ∃ j skb₀ cpu₀ extV4, tasks j = .forward skb₀ cpu₀ ∧ FwdAdmitted cfg skb₀ extV4 ∧
      ipv4TupleAt ((inFlight cfg tasks k schedule).frame j) = (ipv4TupleAt skb).answer ∧
      ipv6TupleAt ((inFlight cfg tasks k schedule).frame i) =
        ⟨nat64SourceV6 (be32At skb 26), be16At skb 34, v6At skb₀ 22, be16At skb₀ 54,
          u8At skb₀ 20⟩ := by
  have sound := inFlight_sound cfg tasks k schedule
  generalize inFlight cfg tasks k schedule = c at sound left ⊢
  obtain ⟨r, result, action⟩ := left.result
  have post := sound.finished result
  have wrote := sound.inv.wrote
  obtain ⟨flow, read, delivered⟩ := Task.Post.delivered reply post action
  obtain ⟨j, hj⟩ := sound.inv.read i _ _ read
  have rewritten := wrote j _ _ hj
  cases htask : tasks j with
  | reverse | timer | evictFwdNat | evictNat =>
    rw [htask] at rewritten
    exact rewritten.elim
  | forward skb₀ cpu₀ =>
    rw [htask] at rewritten
    obtain ⟨⟨extV4, admitted⟩, flow_eq, grants, proto, within, csum, hframe⟩ := rewritten
    refine ⟨j, skb₀, cpu₀, extV4, htask, admitted, ?_, ?_⟩
    · have tuple : ipv4TupleAt (c.frame j) =
          ⟨be32At skb 30, be16At skb (14 + ihlAt skb + 2), nat64EmbeddedV4Be (v6At skb₀ 38),
            be16At skb₀ 56, u8At skb₀ 20⟩ := by
        rw [InFlight.frame, hframe, fwdFrame_tuple within]
        rfl
      have remoteV4 := delivered.remoteV4
      have remotePort := delivered.remotePort
      have hproto := delivered.proto
      rw [flow_eq] at remoteV4 remotePort hproto
      rw [tuple, Ipv4Tuple.answer, ipv4TupleAt, ← remoteV4, ← remotePort, ← hproto]
      rfl
    · rw [InFlight.frame, delivered.tuple, delivered.remoteV4, flow_eq]
      rfl

/-- Whatever was removed or failed, the entries hold only tuples that the configuration grants
their clients, and translated packets leave with such a tuple. -/
theorem concurrent_paired_pooling (cfg : Nat64Config) (tasks : ι → Task) (k : ι → Kernel)
    (schedule : List ι) :
    (∀ key v, (inFlight cfg tasks k schedule).shared.fwdNat key = some v →
      cfg.Grants key.vmV6 (sessions.addr key v)) ∧
    (∀ t b, (inFlight cfg tasks k schedule).shared.nat t = some b → cfg.Grants b.vmV6 t) ∧
    ∀ i skb cpu, tasks i = .forward skb cpu → (inFlight cfg tasks k schedule).Left i →
      cfg.Grants (v6At skb 22) (natKey (ipv4TupleAt ((inFlight cfg tasks k schedule).frame i)).src
        (ipv4TupleAt ((inFlight cfg tasks k schedule).frame i)).sport (u8At skb 20)) := by
  have sound := inFlight_sound cfg tasks k schedule
  generalize inFlight cfg tasks k schedule = c at sound ⊢
  refine ⟨sound.inv.known.fwdNat, fun t b entry => ?_, fun i skb cpu packet left => ?_⟩
  · obtain ⟨j, hj⟩ := sound.inv.backed t b entry
    have rewritten := sound.inv.wrote j _ _ hj
    cases htask : tasks j with
    | reverse | timer | evictFwdNat | evictNat =>
      rw [htask] at rewritten
      exact rewritten.elim
    | forward skb cpu =>
      rw [htask] at rewritten
      exact rewritten.grants
  · obtain ⟨r, result, action⟩ := left.result
    obtain ⟨tuple, rewritten⟩ := Task.Post.rewritten packet (sound.finished result) action
    obtain ⟨-, -, grants, proto, within, csum, frame⟩ := rewritten
    have hproto : tuple.proto = u8At skb 20 := proto
    rw [InFlight.frame, frame, fwdFrame_tuple within, ← hproto]
    exact grants

end Runs

/-- A request, and the answer to it. -/
def exampleTasks : Bool → Task
  | false => .forward (exampleTcp6 4000 20) ⟨some 0, some .default⟩
  | true => .reverse (exampleTcp4 20001 []) ⟨none, none⟩

/-- The reply arrives first, and waits before its lookup until the request has left. -/
def overtaking : List Bool :=
  List.replicate 12 true ++ List.replicate 80 false ++ List.replicate 40 true

theorem concurrent_inbound_filtering_overtaking :
    ∃ j skb₀ cpu₀ extV4, exampleTasks j = .forward skb₀ cpu₀ ∧
      FwdAdmitted exampleDataplane skb₀ extV4 ∧
      ipv4TupleAt ((inFlight exampleDataplane exampleTasks (fun _ => .ideal 1000 7)
        overtaking).frame j) = (ipv4TupleAt (exampleTcp4 20001 [])).answer ∧
      ipv6TupleAt ((inFlight exampleDataplane exampleTasks (fun _ => .ideal 1000 7)
        overtaking).frame true) =
        ⟨nat64SourceV6 (be32At (exampleTcp4 20001 []) 26), be16At (exampleTcp4 20001 []) 34,
          v6At skb₀ 22, be16At skb₀ 54, u8At skb₀ 20⟩ := by
  have left : (inFlight exampleDataplane exampleTasks (fun _ => .ideal 1000 7)
      overtaking).Left true := by
    unfold InFlight.Left
    decide +kernel
  exact concurrent_inbound_filtering overtaking rfl left

end Natto64
