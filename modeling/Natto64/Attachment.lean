import Natto64.Lifecycle

/-!
# Attachment

What one `attach` can do to a dataplane, operation by operation, and when it succeeds.
-/
namespace Natto64.Userspace
open Actions

variable {ε : Type}

namespace Nat64

@[simp] theorem setProgram_programs (n : Nat64) (name : String) (p : Program) :
    (n.setProgram name p).ebpf.programs = Function.update n.ebpf.programs name (some p) := rfl

@[simp] theorem setConfigEntry_config (n : Nat64) (map : BpfMap) (value : Natto64.Nat64Config) :
    (n.setConfigEntry map value).config = n.config := rfl

@[simp] theorem setConfigEntry_programs (n : Nat64) (map : BpfMap)
    (value : Natto64.Nat64Config) :
    (n.setConfigEntry map value).ebpf.programs = n.ebpf.programs := rfl

/-- The entry the classifiers read. -/
def configEntry (n : Nat64) : Option Natto64.Nat64Config :=
  (n.ebpf.maps CONFIG_MAP_NAME).bind fun map => map.entries CONFIG_KEY

@[simp] theorem setConfigEntry_configEntry (n : Nat64) (map : BpfMap)
    (value : Natto64.Nat64Config) : (n.setConfigEntry map value).configEntry = some value := by
  unfold configEntry setConfigEntry
  dsimp only
  rw [Function.update_self, Option.bind_some]
  exact Function.update_self CONFIG_KEY (some value) map.entries

/-- No classifier is attached. -/
def Bare (n : Nat64) : Prop :=
  ∀ name p, n.ebpf.programs name = some p → p.attachedTo = none

/-- Configured, and not attached as far as the flag says. -/
def Ready (n : Nat64) : Prop := n.attached = false ∧ n.config.isSome

end Nat64

/-- The program is there and can be loaded. -/
def Loads (p : Option Program) (x : ClassifierAnswers ε) : Prop :=
  ∃ q, p = some q ∧ q.isClassifier = true ∧ q.loaded = false ∧ x.load = .ok ()

/-- Everything `attach_classifier` can do. -/
inductive ClassifierCase (name interface : String) (x : ClassifierAnswers ε) (n : Nat64) :
    Except (Nat64Error ε) Unit × Nat64 → Prop where
  | unloaded {e : Nat64Error ε} (h : ¬ Loads (n.ebpf.programs name) x) :
      ClassifierCase name interface x n (.error e, n)
  | unattached {e : Nat64Error ε} {p : Program} (hp : n.ebpf.programs name = some p)
      (loads : Loads (n.ebpf.programs name) x) (h : x.attach ≠ .ok ()) :
      ClassifierCase name interface x n (.error e, n.setProgram name { p with loaded := true })
  | attached {p : Program} (hp : n.ebpf.programs name = some p)
      (loads : Loads (n.ebpf.programs name) x) (h : x.attach = .ok ()) :
      ClassifierCase name interface x n
        (.ok (), n.setProgram name { p with loaded := true, attachedTo := some interface })

theorem attachClassifier_case (name interface : String) (x : ClassifierAnswers ε) (n : Nat64) :
    ClassifierCase name interface x n (exec (attachClassifier name interface x) n) := by
  rw [attachClassifier, exec_get_bind]
  cases hp : n.ebpf.programs name with
  | none =>
      refine .unloaded ?_
      rw [hp]
      rintro ⟨q, h, -⟩
      cases h
  | some p =>
      dsimp only
      split
      next classifier =>
        split
        next loaded =>
          refine .unloaded ?_
          rw [hp]
          rintro ⟨q, h, -, unloaded, -⟩
          cases h
          rw [loaded] at unloaded
          cases unloaded
        next unloaded =>
          cases hload : x.load with
          | error source =>
              rw [Except.mapError, exec_ofExcept_error rfl]
              refine .unloaded ?_
              rintro ⟨-, -, -, -, h⟩
              rw [hload] at h
              cases h
          | ok =>
              have loads : Loads (n.ebpf.programs name) x :=
                ⟨p, hp, classifier, Bool.eq_false_iff.mpr unloaded, hload⟩
              rw [Except.mapError, exec_ofExcept_ok rfl, exec_modify_bind]
              cases hattach : x.attach with
              | error source =>
                  rw [Except.mapError, exec_ofExcept_error rfl]
                  refine .unattached hp loads ?_
                  rw [hattach]
                  intro h
                  cases h
              | ok =>
                  rw [Except.mapError, exec_ofExcept_ok rfl, exec_modify]
                  have hset : (n.setProgram name { p with loaded := true }).setProgram name
                      { p with loaded := true, attachedTo := some interface } =
                      n.setProgram name
                        { p with loaded := true, attachedTo := some interface } := by
                    unfold Nat64.setProgram
                    dsimp only
                    rw [Function.update_idem]
                  rw [hset]
                  exact .attached hp loads hattach
      next other =>
        refine .unloaded ?_
        rw [hp]
        rintro ⟨q, h, classifier, -⟩
        cases h
        exact other classifier

/-- Everything before the classifiers succeeds, with these indexes and this map. -/
structure Prepares (n : Nat64) (bridge uplink : String) (x : Answers ε) (config : Nat64Config)
    (b u : UInt32) (map : BpfMap) : Prop where
  idle : n.attached = false
  configured : n.config = some config
  bridgeIndex : interfaceIndex bridge x.bridgeIfindex = .ok b
  uplinkIndex : interfaceIndex uplink x.uplinkIfindex = .ok u
  mapped : n.ebpf.maps CONFIG_MAP_NAME = some map
  opens : map.isConfigMap = true
  inserted : x.insert = .ok ()
  bridgeClsact : ensureClsact bridge x.bridgeClsact = .ok ()
  uplinkClsact : ensureClsact uplink x.uplinkClsact = .ok ()

def Prepared (n : Nat64) (bridge uplink : String) (x : Answers ε) : Prop :=
  ∃ config b u map, Prepares n bridge uplink x config b u map

/-- Everything `attach` can do. -/
inductive AttachCase (bridge uplink : String) (x : Answers ε) (n : Nat64) :
    Except (Nat64Error ε) Unit × Nat64 → Prop where
  | refused {e : Nat64Error ε} (h : ¬ Prepared n bridge uplink x) :
      AttachCase bridge uplink x n (.error e, n)
  | written {e : Nat64Error ε} {map : BpfMap} {value : Natto64.Nat64Config}
      (idle : n.attached = false) (hmap : n.ebpf.maps CONFIG_MAP_NAME = some map)
      (h : ¬ Prepared n bridge uplink x) :
      AttachCase bridge uplink x n (.error e, n.setConfigEntry map value)
  | forward {e : Nat64Error ε} {config : Nat64Config} {b u : UInt32} {map : BpfMap} {m : Nat64}
      (prepares : Prepares n bridge uplink x config b u map)
      (fwd : ClassifierCase FORWARD_PROGRAM_NAME bridge x.forward
        (n.setConfigEntry map (config.dataplaneConfig b u)) (.error e, m)) :
      AttachCase bridge uplink x n (.error e, m)
  | reverse {e : Nat64Error ε} {config : Nat64Config} {b u : UInt32} {map : BpfMap} {m m' : Nat64}
      (prepares : Prepares n bridge uplink x config b u map)
      (fwd : ClassifierCase FORWARD_PROGRAM_NAME bridge x.forward
        (n.setConfigEntry map (config.dataplaneConfig b u)) (.ok (), m))
      (rev : ClassifierCase REVERSE_PROGRAM_NAME uplink x.reverse m (.error e, m')) :
      AttachCase bridge uplink x n (.error e, m')
  | done {config : Nat64Config} {b u : UInt32} {map : BpfMap} {m m' : Nat64}
      (prepares : Prepares n bridge uplink x config b u map)
      (fwd : ClassifierCase FORWARD_PROGRAM_NAME bridge x.forward
        (n.setConfigEntry map (config.dataplaneConfig b u)) (.ok (), m))
      (rev : ClassifierCase REVERSE_PROGRAM_NAME uplink x.reverse m (.ok (), m')) :
      AttachCase bridge uplink x n (.ok (), { m' with attached := true })

theorem exec_writeConfig_ok {n : Nat64} {map : BpfMap} {insert : Except ε Unit}
    (mapped : n.ebpf.maps CONFIG_MAP_NAME = some map) (opens : map.isConfigMap = true)
    (inserted : insert = .ok ()) (value : Natto64.Nat64Config) :
    exec (writeConfig value insert) n = (.ok (), n.setConfigEntry map value) := by
  rw [writeConfig, exec_get_bind, mapped]
  dsimp only
  rw [if_pos opens, inserted, Except.mapError, exec_ofExcept_ok rfl, exec_modify]

theorem exec_writeConfig_error {n : Nat64} {insert : Except ε Unit}
    (h : ∀ map, n.ebpf.maps CONFIG_MAP_NAME = some map → map.isConfigMap = true →
      insert ≠ .ok ()) (value : Natto64.Nat64Config) :
    ∃ e, exec (writeConfig value insert) n = (.error e, n) := by
  rw [writeConfig, exec_get_bind]
  cases mapped : n.ebpf.maps CONFIG_MAP_NAME with
  | none => exact ⟨_, rfl⟩
  | some map =>
      dsimp only
      split
      next opens =>
        cases inserted : insert with
        | error source =>
            rw [Except.mapError, exec_ofExcept_error rfl]
            exact ⟨_, rfl⟩
        | ok => exact absurd inserted (h map mapped opens)
      next => exact ⟨_, rfl⟩

section
variable {bridge uplink : String} {x : Answers ε} {n : Nat64}

/-- Once everything is prepared, the classifiers decide. -/
theorem exec_attach_prepared {config : Nat64Config} {b u : UInt32} {map : BpfMap}
    (h : Prepares n bridge uplink x config b u map) :
    exec (attach bridge uplink x) n =
      exec (do
        attachClassifier FORWARD_PROGRAM_NAME bridge x.forward
        attachClassifier REVERSE_PROGRAM_NAME uplink x.reverse
        modify fun n => { n with attached := true })
      (n.setConfigEntry map (config.dataplaneConfig b u)) := by
  have idle : ¬ n.attached = true := Bool.eq_false_iff.mp h.idle
  rw [attach, exec_get_bind, if_neg idle, h.configured]
  dsimp only
  rw [exec_ofExcept_ok h.bridgeIndex, exec_ofExcept_ok h.uplinkIndex,
    exec_bind_ok (exec_writeConfig_ok h.mapped h.opens h.inserted _),
    exec_ofExcept_ok h.bridgeClsact, exec_ofExcept_ok h.uplinkClsact]

/-- What fails before the classifiers has at most written the entry. -/
theorem attach_unprepared (h : ¬ Prepared n bridge uplink x) :
    AttachCase bridge uplink x n (exec (attach bridge uplink x) n) := by
  rw [attach, exec_get_bind]
  split
  next => exact .refused h
  next attached =>
    have idle : n.attached = false := Bool.eq_false_iff.mpr attached
    cases configured : n.config with
    | none => exact .refused h
    | some config =>
        dsimp only
        cases bridgeIndex : interfaceIndex bridge x.bridgeIfindex with
        | error e =>
            rw [exec_ofExcept_error rfl]
            exact .refused h
        | ok b =>
            rw [exec_ofExcept_ok rfl]
            cases uplinkIndex : interfaceIndex uplink x.uplinkIfindex with
            | error e =>
                rw [exec_ofExcept_error rfl]
                exact .refused h
            | ok u =>
                rw [exec_ofExcept_ok rfl]
                by_cases writable : ∃ map, n.ebpf.maps CONFIG_MAP_NAME = some map ∧
                    map.isConfigMap = true ∧ x.insert = .ok ()
                · obtain ⟨map, mapped, opens, inserted⟩ := writable
                  rw [exec_bind_ok (exec_writeConfig_ok mapped opens inserted _)]
                  cases bridgeClsact : ensureClsact bridge x.bridgeClsact with
                  | error e =>
                      rw [exec_ofExcept_error rfl]
                      exact .written idle mapped h
                  | ok =>
                      rw [exec_ofExcept_ok rfl]
                      cases uplinkClsact : ensureClsact uplink x.uplinkClsact with
                      | error e =>
                          rw [exec_ofExcept_error rfl]
                          exact .written idle mapped h
                      | ok =>
                          exact absurd ⟨config, b, u, map, idle, configured, bridgeIndex,
                            uplinkIndex, mapped, opens, inserted, bridgeClsact, uplinkClsact⟩ h
                · obtain ⟨e, failed⟩ := exec_writeConfig_error
                    (fun map mapped opens inserted => writable ⟨map, mapped, opens, inserted⟩)
                    (config.dataplaneConfig b u)
                  rw [exec_bind_error failed]
                  exact .refused h

variable (bridge uplink x n) in
theorem attach_case : AttachCase bridge uplink x n (exec (attach bridge uplink x) n) := by
  by_cases h : Prepared n bridge uplink x
  · obtain ⟨config, b, u, map, prepares⟩ := h
    rw [exec_attach_prepared prepares]
    have fwd := attachClassifier_case FORWARD_PROGRAM_NAME bridge x.forward
      (n.setConfigEntry map (config.dataplaneConfig b u))
    rcases hfwd : exec (attachClassifier FORWARD_PROGRAM_NAME bridge x.forward)
      (n.setConfigEntry map (config.dataplaneConfig b u)) with ⟨e | _, m⟩
    · rw [hfwd] at fwd
      rw [exec_bind_error hfwd]
      exact .forward prepares fwd
    · rw [hfwd] at fwd
      rw [exec_bind_ok hfwd]
      have rev := attachClassifier_case REVERSE_PROGRAM_NAME uplink x.reverse m
      rcases hrev : exec (attachClassifier REVERSE_PROGRAM_NAME uplink x.reverse) m with
        ⟨e | _, m'⟩
      · rw [hrev] at rev
        rw [exec_bind_error hrev]
        exact .reverse prepares fwd rev
      · rw [hrev] at rev
        rw [exec_bind_ok hrev, exec_modify]
        exact .done prepares fwd rev
  · exact attach_unprepared h

theorem reverse_ne_forward : REVERSE_PROGRAM_NAME ≠ FORWARD_PROGRAM_NAME := by decide

/-- Work on one program leaves the others as they were. -/
theorem ClassifierCase.other_eq {name other interface : String} {y : ClassifierAnswers ε}
    {r : Except (Nat64Error ε) Unit} {m : Nat64} (h : ClassifierCase name interface y n (r, m))
    (hne : other ≠ name) : m.ebpf.programs other = n.ebpf.programs other := by
  cases h with
  | unloaded => rfl
  | unattached =>
      rw [Nat64.setProgram_programs]
      exact Function.update_of_ne hne _ _
  | attached =>
      rw [Nat64.setProgram_programs]
      exact Function.update_of_ne hne _ _

/-- Neither the entry nor the forward classifier touches the reverse program. -/
theorem ClassifierCase.reverse_eq {interface : String} {y : ClassifierAnswers ε}
    {r : Except (Nat64Error ε) Unit} {m : Nat64} {map : BpfMap} {value : Natto64.Nat64Config}
    (h : ClassifierCase FORWARD_PROGRAM_NAME interface y (n.setConfigEntry map value) (r, m)) :
    m.ebpf.programs REVERSE_PROGRAM_NAME = n.ebpf.programs REVERSE_PROGRAM_NAME := by
  rw [h.other_eq reverse_ne_forward, Nat64.setConfigEntry_programs]

/-- The program loads, and attaches. -/
def Attaches (p : Option Program) (y : ClassifierAnswers ε) : Prop :=
  Loads p y ∧ y.attach = .ok ()

theorem ClassifierCase.attaches {name interface : String} {y : ClassifierAnswers ε} {m : Nat64}
    (h : ClassifierCase name interface y n (.ok (), m)) :
    Attaches (n.ebpf.programs name) y := by
  cases h with
  | attached hp loads attach => exact ⟨loads, attach⟩

theorem ClassifierCase.not_attaches {name interface : String} {y : ClassifierAnswers ε}
    {e : Nat64Error ε} {m : Nat64} (h : ClassifierCase name interface y n (.error e, m)) :
    ¬ Attaches (n.ebpf.programs name) y := by
  rintro ⟨loads, attach⟩
  cases h with
  | unloaded h => exact h loads
  | unattached _ _ h => exact h attach

theorem attach_ok_iff :
    (exec (attach bridge uplink x) n).1 = .ok () ↔ Prepared n bridge uplink x ∧
      Attaches (n.ebpf.programs FORWARD_PROGRAM_NAME) x.forward ∧
      Attaches (n.ebpf.programs REVERSE_PROGRAM_NAME) x.reverse := by
  have h := attach_case bridge uplink x n
  generalize exec (attach bridge uplink x) n = r at h
  cases h with
  | refused h => exact iff_of_false nofun fun ok => h ok.1
  | written _ _ h => exact iff_of_false nofun fun ok => h ok.1
  | forward prepares fwd => exact iff_of_false nofun fun ok => fwd.not_attaches ok.2.1
  | reverse prepares fwd rev =>
      have failed := rev.not_attaches
      rw [fwd.reverse_eq] at failed
      exact iff_of_false nofun fun ok => failed ok.2.2
  | done prepares fwd rev =>
      have reversed := rev.attaches
      rw [fwd.reverse_eq] at reversed
      exact ⟨fun _ => ⟨⟨_, _, _, _, prepares⟩, fwd.attaches, reversed⟩, fun _ => rfl⟩

end

end Natto64.Userspace
