import Natto64.Attachment
import Natto64.Dataplane
import Natto64.EventRun

/-!
# All or nothing

Sequences of `configure` and `attach` on one loaded object: a failed attach leaves no
classifier behind, can be tried again, and what is attached runs with the stored policy,
exactly as long as no attach goes wrong after the forward classifier was loaded.
-/
namespace Natto64.Userspace
open Actions EventRun

variable {ε : Type}

inductive Call (ε : Type) where
  | configure (config : Nat64Config)
  | attach (bridge uplink : String) (x : Answers ε)

/-- The dataplane after a call, whatever the call returned. -/
def Nat64.step (n : Nat64) : Call ε → Nat64
  | .configure config => (exec (configure config : Action Nat64 (Nat64Error ε) Unit) n).2
  | .attach bridge uplink x => (exec (attach bridge uplink x) n).2

def Nat64.after (object : Object) (calls : List (Call ε)) : Nat64 :=
  run Nat64.step (Nat64.load object) calls

/-- The call resolves its interfaces to these indexes. -/
def Call.Resolves (b u : UInt32) : Call ε → Prop
  | .configure _ => False
  | .attach bridge uplink x =>
      interfaceIndex bridge x.bridgeIfindex = .ok b ∧ interfaceIndex uplink x.uplinkIfindex = .ok u

/-- The law of the calls on an object, at every point of the sequence. -/
structure AllOrNothing (object : Object) (calls : List (Call ε)) : Prop where
  /-- A failed attach leaves no classifier attached. -/
  clean (before : List (Call ε)) (bridge uplink : String) (x : Answers ε)
    (after : List (Call ε)) (h : calls = before ++ .attach bridge uplink x :: after)
    (ready : (Nat64.after object before).Ready)
    (failed : (exec (attach bridge uplink x) (Nat64.after object before)).1 ≠ .ok ()) :
    (exec (attach bridge uplink x) (Nat64.after object before)).2.Bare
  /-- An attach that would succeed on a fresh object succeeds. -/
  retry (before after : List (Call ε)) (h : calls = before ++ after)
    (ready : (Nat64.after object before).Ready) (bridge uplink : String) (x : Answers ε)
    (fresh : (exec (attach bridge uplink x)
      { Nat64.load object with config := (Nat64.after object before).config }).1 = .ok ()) :
    (exec (attach bridge uplink x) (Nat64.after object before)).1 = .ok ()
  /-- What is attached runs with the stored policy. -/
  consistent (before after : List (Call ε)) (h : calls = before ++ after)
    (attached : ¬ (Nat64.after object before).Bare) :
    ∃ config b u, (Nat64.after object before).config = some config ∧
      (Nat64.after object before).configEntry = some (config.dataplaneConfig b u) ∧
      ∃ call ∈ before, call.Resolves b u

/-- The object can serve as reverse classifier. -/
def HasReverse (e : Ebpf) : Prop :=
  ∃ p, e.programs REVERSE_PROGRAM_NAME = some p ∧ p.isClassifier = true

/-- The attach loads the forward classifier and then goes wrong: either it attaches it and
the reverse one fails, or it cannot attach it although a whole attach would be possible. -/
def Stumbles (n : Nat64) (bridge uplink : String) (x : Answers ε) : Prop :=
  Prepared n bridge uplink x ∧ Loads (n.ebpf.programs FORWARD_PROGRAM_NAME) x.forward ∧
    (x.forward.attach = .ok () →
      ¬ Attaches (n.ebpf.programs REVERSE_PROGRAM_NAME) x.reverse) ∧
    (x.forward.attach ≠ .ok () → HasReverse n.ebpf)

def Nat64.Safe (n : Nat64) : Call ε → Prop
  | .configure _ => True
  | .attach bridge uplink x => ¬ Stumbles n bridge uplink x

theorem step_configure (n : Nat64) (config : Nat64Config) :
    n.step (.configure config : Call ε) = n ∨
      (n.attached = false ∧
        n.step (.configure config : Call ε) = { n with config := some config }) := by
  rw [Nat64.step, configure, exec_get_bind]
  split
  next => exact .inl rfl
  next attached =>
    cases config.validate with
    | error e =>
        rw [Except.mapError, exec_ofExcept_error rfl]
        exact .inl rfl
    | ok =>
        rw [Except.mapError, exec_ofExcept_ok rfl]
        exact .inr ⟨Bool.eq_false_iff.mpr attached, rfl⟩

/-- The maps and programs are those of the object, whatever became of them. -/
structure Kinds (object : Object) (n : Nat64) : Prop where
  maps (name : String) :
    (n.ebpf.maps name).map BpfMap.isConfigMap = (object.maps name).map BpfMap.isConfigMap
  programs (name : String) :
    (n.ebpf.programs name).map Program.isClassifier =
      (object.programs name).map Program.isClassifier

theorem Kinds.setProgram {object : Object} {n : Nat64} (h : Kinds object n) {name : String}
    {p q : Program} (hp : n.ebpf.programs name = some p) (kind : q.isClassifier = p.isClassifier) :
    Kinds object (n.setProgram name q) where
  maps := h.maps
  programs := by
    intro other
    rw [Nat64.setProgram_programs, ← h.programs]
    by_cases same : other = name
    · rw [same, Function.update_self, hp, Option.map_some, Option.map_some, kind]
    · rw [Function.update_of_ne same]

theorem Kinds.setConfigEntry {object : Object} {n : Nat64} (h : Kinds object n) {map : BpfMap}
    (hmap : n.ebpf.maps CONFIG_MAP_NAME = some map) (value : Natto64.Nat64Config) :
    Kinds object (n.setConfigEntry map value) where
  maps := by
    intro name
    rw [← h.maps]
    unfold Nat64.setConfigEntry
    dsimp only
    by_cases same : name = CONFIG_MAP_NAME
    · rw [same, Function.update_self, hmap, Option.map_some, Option.map_some]
    · rw [Function.update_of_ne same]
  programs := h.programs

theorem Kinds.classifier {object : Object} {n m : Nat64} (h : Kinds object n)
    {name interface : String} {y : ClassifierAnswers ε} {r : Except (Nat64Error ε) Unit}
    (case : ClassifierCase name interface y n (r, m)) : Kinds object m := by
  cases case with
  | unloaded => exact h
  | unattached hp => exact h.setProgram hp rfl
  | attached hp => exact h.setProgram hp rfl

theorem hasReverse_iff {e : Ebpf} :
    HasReverse e ↔ (e.programs REVERSE_PROGRAM_NAME).map Program.isClassifier = some true := by
  rw [Option.map_eq_some_iff]
  rfl

theorem Kinds.hasReverse_iff {object : Object} {n : Nat64} (h : Kinds object n) :
    HasReverse n.ebpf ↔ HasReverse object.toEbpf := by
  rw [Userspace.hasReverse_iff, Userspace.hasReverse_iff, h.programs]

section
variable {name interface : String} {y : ClassifierAnswers ε} {n m : Nat64}

theorem ClassifierCase.attached_eq {r : Except (Nat64Error ε) Unit}
    (h : ClassifierCase name interface y n (r, m)) : m.attached = n.attached := by
  cases h <;> rfl

theorem ClassifierCase.config_eq {r : Except (Nat64Error ε) Unit}
    (h : ClassifierCase name interface y n (r, m)) : m.config = n.config := by
  cases h <;> rfl

theorem ClassifierCase.configEntry_eq {r : Except (Nat64Error ε) Unit}
    (h : ClassifierCase name interface y n (r, m)) : m.configEntry = n.configEntry := by
  cases h <;> rfl

/-- A classifier that fails is not attached. -/
theorem ClassifierCase.bare {e : Nat64Error ε} (h : ClassifierCase name interface y n (.error e, m))
    (bare : n.Bare) : m.Bare := by
  cases h with
  | unloaded => exact bare
  | unattached hp =>
      intro other q hq
      rw [Nat64.setProgram_programs] at hq
      by_cases same : other = name
      · rw [same, Function.update_self] at hq
        cases hq
        have unattached := bare _ _ hp
        exact unattached
      · rw [Function.update_of_ne same] at hq
        exact bare _ _ hq

/-- One that succeeds is. -/
theorem ClassifierCase.not_bare (h : ClassifierCase name interface y n (.ok (), m)) :
    ∃ p, m.ebpf.programs name = some p ∧ p.attachedTo = some interface := by
  cases h with
  | attached hp => exact ⟨_, Function.update_self .., rfl⟩

end

/-- What holds as long as no attach stumbles. -/
structure Sound (object : Object) (calls : List (Call ε)) (n : Nat64) : Prop where
  kinds : Kinds object n
  bare (idle : n.attached = false) : n.Bare
  pristine (idle : n.attached = false) (reverse : HasReverse object.toEbpf) :
    n.ebpf.programs = object.programs
  tied (attached : n.attached = true) :
    ∃ config b u, n.config = some config ∧
      n.configEntry = some (config.dataplaneConfig b u) ∧ ∃ call ∈ calls, call.Resolves b u

variable {object : Object} {calls : List (Call ε)} {n : Nat64}

theorem sound_load : Sound object ([] : List (Call ε)) (Nat64.load object) where
  kinds := ⟨fun _ => rfl, fun _ => rfl⟩
  bare _ := fun _ _ hp => (object.fresh hp).2
  pristine _ _ := rfl
  tied attached := by cases attached

theorem Sound.more (h : Sound object calls n) (call : Call ε) :
    Sound object (calls ++ [call]) n where
  kinds := h.kinds
  bare := h.bare
  pristine := h.pristine
  tied attached := by
    obtain ⟨config, b, u, stored, entry, call', past, resolves⟩ := h.tied attached
    exact ⟨config, b, u, stored, entry, call', List.mem_append_left _ past, resolves⟩

theorem Sound.configure (h : Sound object calls n) (config : Nat64Config) :
    Sound object (calls ++ [.configure config]) (n.step (.configure config : Call ε)) := by
  rcases (step_configure n config : n.step (.configure config : Call ε) = n ∨ _) with
    hstep | ⟨idle, hstep⟩
  · rw [hstep]
    exact h.more _
  · rw [hstep]
    refine ⟨⟨h.kinds.maps, h.kinds.programs⟩, fun _ => h.bare idle, fun _ => h.pristine idle, ?_⟩
    intro attached
    cases idle.symm.trans attached

theorem Sound.attach {bridge uplink : String} {x : Answers ε} (h : Sound object calls n)
    (safe : ¬ Stumbles n bridge uplink x) :
    Sound object (calls ++ [.attach bridge uplink x]) (n.step (.attach bridge uplink x)) := by
  have case := attach_case bridge uplink x n
  rw [Nat64.step]
  generalize exec (Userspace.attach bridge uplink x) n = r at case
  cases case with
  | refused => exact h.more _
  | written idle hmap =>
      refine ⟨h.kinds.setConfigEntry hmap _, fun _ => h.bare idle, fun _ => h.pristine idle, ?_⟩
      intro attached
      cases idle.symm.trans attached
  | forward prepares fwd =>
      have idle := prepares.idle
      refine ⟨(h.kinds.setConfigEntry prepares.mapped _).classifier fwd,
        fun _ => fwd.bare (h.bare idle), ?_, ?_⟩
      · intro _ reverse
        cases fwd with
        | unloaded => exact h.pristine idle reverse
        | unattached hp loads failed =>
            refine absurd ⟨⟨_, _, _, _, prepares⟩, loads, ?_, ?_⟩ safe
            · intro attaches
              exact absurd attaches failed
            · intro _
              exact h.kinds.hasReverse_iff.mpr reverse
      · intro attached
        cases (fwd.attached_eq.trans idle).symm.trans attached
  | reverse prepares fwd rev =>
      have failed := rev.not_attaches
      rw [fwd.reverse_eq] at failed
      refine absurd ⟨⟨_, _, _, _, prepares⟩, fwd.attaches.1, fun _ => failed, ?_⟩ safe
      intro unattached
      exact absurd fwd.attaches.2 unattached
  | done prepares fwd rev =>
      refine ⟨?_, nofun, nofun, ?_⟩
      · have kinds := ((h.kinds.setConfigEntry prepares.mapped _).classifier fwd).classifier rev
        exact ⟨kinds.maps, kinds.programs⟩
      · intro _
        refine ⟨_, _, _, (rev.config_eq.trans fwd.config_eq).trans prepares.configured, ?_,
          _, List.mem_append_right _ List.mem_cons_self, prepares.bridgeIndex,
          prepares.uplinkIndex⟩
        rw [← Nat64.setConfigEntry_configEntry n, ← fwd.configEntry_eq, ← rev.configEntry_eq]
        rfl

theorem sound_after (h : Along Nat64.step Nat64.Safe (Nat64.load object) calls) :
    Sound object calls (Nat64.after object calls) := by
  refine history_invariant (I := Sound object) sound_load ?_ h
  intro past call sound safe
  cases call with
  | configure config => exact sound.configure config
  | attach bridge uplink x => exact sound.attach safe

section
variable {bridge uplink : String} {x : Answers ε}

theorem Prepared.of_kinds {m : Nat64} (h : Prepared m bridge uplink x) (idle : n.attached = false)
    (config : n.config = m.config)
    (maps : (n.ebpf.maps CONFIG_MAP_NAME).map BpfMap.isConfigMap =
      (m.ebpf.maps CONFIG_MAP_NAME).map BpfMap.isConfigMap) : Prepared n bridge uplink x := by
  obtain ⟨stored, b, u, map, prepares⟩ := h
  have opens : (n.ebpf.maps CONFIG_MAP_NAME).map BpfMap.isConfigMap = some true := by
    rw [maps, prepares.mapped, Option.map_some, prepares.opens]
  obtain ⟨map', mapped, opens⟩ := Option.map_eq_some_iff.mp opens
  exact ⟨stored, b, u, map', idle, config.trans prepares.configured, prepares.bridgeIndex,
    prepares.uplinkIndex, mapped, opens, prepares.inserted, prepares.bridgeClsact,
    prepares.uplinkClsact⟩

theorem Attaches.hasReverse {e : Ebpf} {y : ClassifierAnswers ε}
    (h : Attaches (e.programs REVERSE_PROGRAM_NAME) y) : HasReverse e := by
  obtain ⟨⟨p, hp, classifier, -⟩, -⟩ := h
  exact ⟨p, hp, classifier⟩

theorem Sound.retry (h : Sound object calls n) (ready : n.Ready)
    (fresh : (exec (Userspace.attach bridge uplink x)
      { Nat64.load object with config := n.config }).1 = .ok ()) :
    (exec (Userspace.attach bridge uplink x) n).1 = .ok () := by
  obtain ⟨prepared, fwd, rev⟩ := attach_ok_iff.mp fresh
  have pristine := h.pristine ready.1 rev.hasReverse
  rw [attach_ok_iff, pristine]
  exact ⟨prepared.of_kinds ready.1 rfl (h.kinds.maps CONFIG_MAP_NAME), fwd, rev⟩

theorem Sound.clean (h : Sound object calls n) (safe : ¬ Stumbles n bridge uplink x)
    (ready : n.Ready) (failed : (exec (Userspace.attach bridge uplink x) n).1 ≠ .ok ()) :
    (exec (Userspace.attach bridge uplink x) n).2.Bare := by
  have sound := h.attach safe
  have case := attach_case bridge uplink x n
  rw [Nat64.step] at sound
  apply sound.bare
  generalize exec (Userspace.attach bridge uplink x) n = r at case failed
  cases case with
  | refused => exact ready.1
  | written idle => exact idle
  | forward prepares fwd => exact fwd.attached_eq.trans prepares.idle
  | reverse prepares fwd rev => exact (rev.attached_eq.trans fwd.attached_eq).trans prepares.idle
  | done => exact absurd rfl failed

/-- The same answers, and a kernel that takes both classifiers. -/
def Answers.willing (x : Answers ε) : Answers ε :=
  { x with forward := ⟨.ok (), .ok ()⟩, reverse := ⟨.ok (), .ok ()⟩ }

theorem Prepared.willing (h : Prepared n bridge uplink x) :
    Prepared n bridge uplink x.willing := by
  obtain ⟨config, b, u, map, prepares⟩ := h
  exact ⟨config, b, u, map, prepares.idle, prepares.configured, prepares.bridgeIndex,
    prepares.uplinkIndex, prepares.mapped, prepares.opens, prepares.inserted,
    prepares.bridgeClsact, prepares.uplinkClsact⟩

/-- A whole attach of a fresh object is possible where one could be prepared. -/
theorem Sound.attaches_fresh (h : Sound object calls n) (prepared : Prepared n bridge uplink x)
    (loads : Loads (n.ebpf.programs FORWARD_PROGRAM_NAME) x.forward)
    (reverse : HasReverse n.ebpf) :
    (exec (Userspace.attach bridge uplink x.willing)
      { Nat64.load object with config := n.config }).1 = .ok () := by
  have idle : n.attached = false := by
    obtain ⟨_, _, _, _, prepares⟩ := prepared
    exact prepares.idle
  have pristine := h.pristine idle (h.kinds.hasReverse_iff.mp reverse)
  obtain ⟨p, hp, classifier, unloaded, -⟩ := loads
  obtain ⟨q, hq, classifier'⟩ := reverse
  rw [pristine] at hp hq
  refine attach_ok_iff.mpr ⟨prepared.willing.of_kinds rfl rfl (h.kinds.maps _).symm, ?_, ?_⟩
  · exact ⟨⟨p, hp, classifier, unloaded, rfl⟩, rfl⟩
  · exact ⟨⟨q, hq, classifier', (object.fresh hq).1, rfl⟩, rfl⟩

/-- A stumble breaks the law at once, or at the next attach with better answers. -/
theorem Sound.stumbles (h : Sound object calls n) (stumbles : Stumbles n bridge uplink x) :
    (exec (Userspace.attach bridge uplink x) n).1 ≠ .ok () ∧
    (¬ (exec (Userspace.attach bridge uplink x) n).2.Bare ∨
      (exec (Userspace.attach bridge uplink x) n).2.Ready ∧
      (exec (Userspace.attach bridge uplink x.willing) { Nat64.load object with
        config := (exec (Userspace.attach bridge uplink x) n).2.config }).1 = .ok () ∧
      (exec (Userspace.attach bridge uplink x.willing)
        (exec (Userspace.attach bridge uplink x) n).2).1 ≠ .ok ()) := by
  obtain ⟨prepared, loads, unreversed, reverse⟩ := stumbles
  have case := attach_case bridge uplink x n
  generalize exec (Userspace.attach bridge uplink x) n = r at case
  cases case with
  | refused refused => exact absurd prepared refused
  | written _ _ refused => exact absurd prepared refused
  | forward prepares fwd =>
      refine ⟨nofun, .inr ⟨⟨fwd.attached_eq.trans prepares.idle, ?_⟩, ?_, ?_⟩⟩
      · rw [fwd.config_eq, Nat64.setConfigEntry_config, prepares.configured]
        rfl
      · have unattached : x.forward.attach ≠ .ok () := fun attach =>
          fwd.not_attaches ⟨loads, attach⟩
        rw [fwd.config_eq]
        exact h.attaches_fresh prepared loads (reverse unattached)
      · -- the forward classifier is loaded now, so it never loads again
        cases fwd with
        | unloaded unloads => exact absurd loads unloads
        | unattached hp =>
            rw [ne_eq, attach_ok_iff]
            rintro ⟨-, ⟨⟨q, hq, -, unloaded, -⟩, -⟩, -⟩
            rw [Nat64.setProgram_programs, Function.update_self] at hq
            cases hq
            cases unloaded
  | reverse prepares fwd rev =>
      refine ⟨nofun, .inl fun bare => ?_⟩
      obtain ⟨p, hp, attached⟩ := fwd.not_bare
      rw [← rev.other_eq reverse_ne_forward.symm] at hp
      cases attached.symm.trans (bare _ _ hp)
  | done prepares fwd rev =>
      have attaches := rev.attaches
      rw [fwd.reverse_eq] at attaches
      exact absurd attaches (unreversed fwd.attaches.2)

end

theorem AllOrNothing.of_along
    (h : Along Nat64.step Nat64.Safe (Nat64.load object) calls) : AllOrNothing object calls where
  clean := by
    rintro before bridge uplink x after rfl ready failed
    obtain ⟨past, safe, -⟩ := along_append.mp h
    exact (sound_after past).clean safe ready failed
  retry := by
    rintro before after rfl ready bridge uplink x fresh
    exact (sound_after (along_append.mp h).1).retry ready fresh
  consistent := by
    rintro before after rfl attached
    have sound := sound_after (along_append.mp h).1
    apply sound.tied
    rw [← Bool.not_eq_false]
    intro idle
    exact attached (sound.bare idle)

theorem AllOrNothing.before {before after : List (Call ε)}
    (h : AllOrNothing object (before ++ after)) : AllOrNothing object before where
  clean := by
    rintro past bridge uplink x rest rfl
    exact h.clean past bridge uplink x (rest ++ after) (by simp)
  retry := by
    rintro past rest rfl
    exact h.retry past (rest ++ after) (List.append_assoc ..)
  consistent := by
    rintro past rest rfl
    exact h.consistent past (rest ++ after) (List.append_assoc ..)

theorem AllOrNothing.along (h : AllOrNothing object calls) :
    Along Nat64.step Nat64.Safe (Nat64.load object) calls := by
  induction calls using List.reverseRecOn with
  | nil => trivial
  | append_singleton past call ih =>
      have along := ih h.before
      refine along_concat.mpr ⟨along, ?_⟩
      cases call with
      | configure config => trivial
      | attach bridge uplink x =>
          intro stumbles
          have ready : (Nat64.after object past).Ready := by
            obtain ⟨config, _, _, _, prepares⟩ := stumbles.1
            exact ⟨prepares.idle, by rw [Nat64.after, prepares.configured]; rfl⟩
          obtain ⟨failed, attached | ⟨ready', fresh, stuck⟩⟩ :=
            (sound_after along).stumbles stumbles
          · exact attached (h.clean past bridge uplink x [] rfl ready failed)
          · have hafter : Nat64.after object (past ++ [.attach bridge uplink x]) =
                (exec (Userspace.attach bridge uplink x) (Nat64.after object past)).2 :=
              run_concat ..
            rw [← hafter] at ready' fresh stuck
            exact stuck (h.retry _ [] (List.append_nil _).symm ready' bridge uplink _ fresh)

/-- The calls keep to the law exactly when no attach among them goes wrong once the forward
classifier is loaded. -/
theorem attach_all_or_nothing_iff (object : Object) (calls : List (Call ε)) :
    AllOrNothing object calls ↔ Along Nat64.step Nat64.Safe (Nat64.load object) calls :=
  ⟨AllOrNothing.along, AllOrNothing.of_along⟩

/-- An object with the map and both classifiers. -/
def exampleObject : Object where
  maps name := if name = CONFIG_MAP_NAME then some ⟨true, fun _ => none⟩ else none
  programs name :=
    if name = FORWARD_PROGRAM_NAME ∨ name = REVERSE_PROGRAM_NAME then some ⟨true, false, none⟩
    else none
  fresh := by
    intro name p h
    split at h
    · cases h
      exact ⟨rfl, rfl⟩
    · cases h

/-- The kernel refuses to attach the reverse classifier. -/
def exampleRefusal : Answers Unit where
  bridgeIfindex := .ok "2\n"
  uplinkIfindex := .ok "3\n"
  insert := .ok ()
  bridgeClsact := .ok ()
  uplinkClsact := .error (.netlinkError (some EEXIST) ())
  forward := ⟨.ok (), .ok ()⟩
  reverse := ⟨.ok (), .error ()⟩

def exampleCalls : List (Call Unit) :=
  [.configure exampleConfig, .attach "br" "eth0" exampleRefusal]

/-- The failed attach leaves the forward classifier attached; the next attach cannot succeed,
and a new policy is accepted while the classifier runs with the old one. -/
theorem failed_attach_leaves_forward :
    ¬ AllOrNothing exampleObject exampleCalls ∧
    (Nat64.after exampleObject exampleCalls).ebpf.programs FORWARD_PROGRAM_NAME =
      some ⟨true, true, some "br"⟩ ∧
    (exec (attach "br" "eth0" exampleRefusal.willing)
      (Nat64.after exampleObject exampleCalls)).1 = .error (.program .alreadyLoaded) ∧
    (Nat64.after exampleObject
      (exampleCalls ++ [.configure { exampleConfig with portMin := 30000 }])).config =
      some { exampleConfig with portMin := 30000 } ∧
    (Nat64.after exampleObject
      (exampleCalls ++ [.configure { exampleConfig with portMin := 30000 }])).configEntry =
      some (exampleConfig.dataplaneConfig 2 3) := by
  have attached : (Nat64.after exampleObject exampleCalls).ebpf.programs FORWARD_PROGRAM_NAME =
      some ⟨true, true, some "br"⟩ := by decide +kernel
  refine ⟨fun law => ?_, attached, by decide +kernel, by decide +kernel, by decide +kernel⟩
  have ready : (Nat64.after exampleObject [(.configure exampleConfig : Call Unit)]).Ready := by
    constructor <;> decide +kernel
  have failed : (exec (attach "br" "eth0" exampleRefusal) (Nat64.after exampleObject
      [(.configure exampleConfig : Call Unit)])).1 = .error (.program (.other ())) := by
    decide +kernel
  have bare := law.clean [.configure exampleConfig] "br" "eth0" exampleRefusal [] rfl ready
    (by rw [failed]; exact nofun)
  cases bare _ _ attached

end Natto64.Userspace
