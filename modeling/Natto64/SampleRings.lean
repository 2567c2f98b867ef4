import Natto64.EventRun
import Natto64.RingWindow
import Natto64.Tallies

/-!
# Sample rings

What the three diagnostic rings of a CPU hold after any run of recordings, and how far
their sequence numbers go.
-/
namespace Natto64
open EventRun RingWindow

/-- What a classifier does to the diagnostic maps of its CPU. -/
inductive Diagnosis where
  | counters (prod : List ProdCounter) (debug : List DebugCounter)
  | prodCounters (fields : List ProdCounter)
  | debugCounters (fields : List DebugCounter)
  | fwdDstSample (dst : Ipv6Octets)
  | fwdTcpSample (dst6 : Ipv6Octets) (dst4 : List UInt8) (dst4Be src4Be : UInt32)
      (tcpSport tcpDport : UInt16) (natInsertOk adjustRoomOk : Bool)
  | fwdTcpCsumSample (trace : FwdL4CsumTrace) (finalCheckBe oldSportBe newSportBe : UInt16)
      (srcV4 dstV4 : UInt32)

def Diag.diagnose (d : Diag) : Diagnosis → Diag
  | .counters prod debug => d.withCounters prod debug
  | .prodCounters fields => d.withProdCounters fields
  | .debugCounters fields => d.withDebugCounters fields
  | .fwdDstSample dst => d.recordFwdDstSample dst
  | .fwdTcpSample dst6 dst4 dst4Be src4Be tcpSport tcpDport natInsertOk adjustRoomOk =>
      d.recordFwdTcpSample dst6 dst4 dst4Be src4Be tcpSport tcpDport natInsertOk adjustRoomOk
  | .fwdTcpCsumSample trace finalCheckBe oldSportBe newSportBe srcV4 dstV4 =>
      d.recordFwdTcpCsumSample trace finalCheckBe oldSportBe newSportBe srcV4 dstV4

/-- The diagnostics of a CPU whose maps were zero when the run began. -/
def diagnosed (es : List Diagnosis) : Diag := run Diag.diagnose .zeroed es

/-- A sample ring: its maps, and what a recording that finds a cursor stores. The conventions
differ in the slot of the first recording and in what the number adds to the cursor. -/
structure SampleRing (α : Type) where
  cursor : Diag → Option UInt32
  slots : Diag → List α
  seq : α → UInt64
  empty : α
  sample : Diagnosis → Option (UInt32 → α)
  first : UInt32
  extra : Nat
  cursor_zeroed : cursor .zeroed = some 0
  slots_zeroed : slots .zeroed = List.replicate 8 empty
  seq_empty : seq empty = 0
  seq_sample : ∀ {e f}, sample e = some f → ∀ c, (seq (f c)).toNat = (c + first).toNat + extra
  record : ∀ {d e f c}, sample e = some f → cursor d = some c → (slots d).length = 8 →
    cursor (d.diagnose e) = some (c + 1) ∧
      slots (d.diagnose e) = (slots d).set ((c + first) % 8).toNat (f c)
  frame : ∀ {d e}, sample e = none →
    cursor (d.diagnose e) = cursor d ∧ slots (d.diagnose e) = slots d

namespace SampleRing
variable {α : Type} (r : SampleRing α)

/-- The sample an event stores. -/
def stored (d : Diag) (e : Diagnosis) : Option α := do
  let f ← r.sample e
  let c ← r.cursor d
  return f c

/-- All samples ever stored in a run, oldest first. -/
def written (es : List Diagnosis) : List α := outputs Diag.diagnose r.stored .zeroed es

/-- The slots in the order of their first use. -/
def ring (d : Diag) (i : Fin 8) : α := (r.slots d).getD ((i + r.first.toNat) % 8) r.empty

/-- The cursor counts the samples, the slots hold the newest, and each has its number. -/
structure Recorded (written : List α) (d : Diag) : Prop where
  cursor : r.cursor d = some (UInt32.ofNat written.length)
  length : (r.slots d).length = 8
  window : Window (r.ring d) written
  untouched (i : Fin 8) (h : written.length ≤ i) : r.ring d i = r.empty
  seq (j : Nat) (h : j < written.length) :
    (r.seq written[j]).toNat = (j + r.first.toNat) % 2 ^ 32 + r.extra

variable {r}

/-- The slot of a cursor, in the order of first use. -/
theorem toNat_slot (n : Nat) :
    ((UInt32.ofNat n + r.first) % 8).toNat = (n + r.first.toNat) % 8 := by
  rw [UInt32.toNat_mod, UInt32.toNat_add, UInt32.toNat_ofNat']
  change (n % 2 ^ 32 + r.first.toNat) % 2 ^ 32 % 8 = _
  omega

theorem ring_set {d d' : Diag} {n : Nat} {x : α} (hlen : (r.slots d).length = 8)
    (h : r.slots d' = (r.slots d).set ((UInt32.ofNat n + r.first) % 8).toNat x) :
    r.ring d' = Function.update (r.ring d) (Fin.ofNat 8 n) x := by
  funext i
  have hslot : (n + r.first.toNat) % 8 < (r.slots d).length := by omega
  unfold ring
  rw [h, toNat_slot]
  by_cases hi : i = Fin.ofNat 8 n
  · have hsame : (i.val + r.first.toNat) % 8 = (n + r.first.toNat) % 8 := by
      rw [hi]
      change (n % 8 + r.first.toNat) % 8 = _
      omega
    rw [hi, Function.update_self, ← hi, hsame, List.getD_eq_getElem?_getD,
      List.getElem?_set_self hslot, Option.getD_some]
  · have hne : i.val ≠ n % 8 := fun h' => hi (Fin.ext h')
    have hother : (n + r.first.toNat) % 8 ≠ (i.val + r.first.toNat) % 8 := by omega
    rw [Function.update_of_ne hi, List.getD_eq_getElem?_getD, List.getElem?_set_ne hother,
      List.getD_eq_getElem?_getD]

theorem recorded_zeroed : r.Recorded [] .zeroed where
  cursor := r.cursor_zeroed
  length := by rw [r.slots_zeroed, List.length_replicate]
  window := window_nil _
  untouched i _ := by
    unfold ring
    rw [r.slots_zeroed, List.getD_eq_getElem?_getD, List.getElem?_replicate_of_lt (by omega),
      Option.getD_some]
  seq _ h := absurd h (Nat.not_lt_zero _)

theorem Recorded.push {written : List α} {d : Diag} {e : Diagnosis} {f : UInt32 → α}
    (h : r.Recorded written d) (he : r.sample e = some f) :
    r.Recorded (written ++ [f (UInt32.ofNat written.length)]) (d.diagnose e) := by
  obtain ⟨hcursor, hslots⟩ := r.record he h.cursor h.length
  have hring := ring_set h.length hslots
  constructor
  · rw [hcursor, List.length_append, List.length_singleton, UInt32.ofNat_add]
    rfl
  · rw [hslots, List.length_set, h.length]
  · rw [hring]
    exact h.window.push _
  · intro i hi
    rw [List.length_append, List.length_singleton] at hi
    have hne : i ≠ Fin.ofNat 8 written.length := by
      intro h'
      have hval : i.val = written.length % 8 := congrArg Fin.val h'
      omega
    rw [hring, Function.update_of_ne hne]
    exact h.untouched i (by omega)
  · intro j hj
    rw [List.length_append, List.length_singleton] at hj
    by_cases hlast : j = written.length
    · subst hlast
      rw [List.getElem_concat_length rfl, r.seq_sample he, UInt32.toNat_add, UInt32.toNat_ofNat',
        Nat.mod_add_mod]
    · rw [List.getElem_append_left (by omega)]
      exact h.seq j (by omega)

theorem Recorded.keep {written : List α} {d : Diag} {e : Diagnosis} (h : r.Recorded written d)
    (he : r.sample e = none) : r.Recorded written (d.diagnose e) := by
  obtain ⟨hcursor, hslots⟩ := r.frame he
  have hring : r.ring (d.diagnose e) = r.ring d := by
    unfold ring
    rw [hslots]
  exact ⟨by rw [hcursor, h.cursor], by rw [hslots, h.length], by rw [hring]; exact h.window,
    by rw [hring]; exact h.untouched, h.seq⟩

/-- Every event of a run either stores the next sample or leaves the ring alone. -/
theorem recorded_run (es : List Diagnosis) : r.Recorded (r.written es) (diagnosed es) := by
  refine run_history (I := fun es d => r.Recorded (r.written es) d) recorded_zeroed ?_ es
  intro past e h
  have hwritten : r.written (past ++ [e]) =
      r.written past ++ (r.stored (run Diag.diagnose .zeroed past) e).toList := by
    rw [written, outputs_append, outputs, outputs, List.append_nil]
    rfl
  rw [hwritten, stored]
  cases he : r.sample e with
  | none =>
      rw [Option.bind_eq_bind, Option.bind_none, Option.toList_none, List.append_nil]
      exact h.keep he
  | some f =>
      rw [h.cursor]
      exact h.push he

/-! ## The law of a ring -/

variable (r) in
/-- The slots hold the last samples and nothing else, slots never written keep the number
zero, and every sample has a larger number than those before it. -/
structure KeepsNewest (es : List Diagnosis) : Prop where
  held : (r.slots (diagnosed es)).Perm
    ((r.written es).drop ((r.written es).length - 8) ++
      List.replicate (8 - (r.written es).length) r.empty)
  unwritten (i : Nat) (h : i < 8)
    (never : ∀ j < (r.written es).length, ((UInt32.ofNat j + r.first) % 8).toNat ≠ i) :
    ∃ x, (r.slots (diagnosed es))[i]? = some x ∧ r.seq x = 0
  increasing : (r.written es).Pairwise fun a b => r.seq a < r.seq b

variable (r) in
/-- How many recordings a run has for the ring. -/
def count (es : List Diagnosis) : Nat := es.countP fun e => (r.sample e).isSome

theorem length_written (es : List Diagnosis) : (r.written es).length = r.count es := by
  induction es using List.reverseRecOn with
  | nil => rfl
  | append_singleton es e ih =>
      have hcursor := (recorded_run (r := r) es).cursor
      change r.cursor (run Diag.diagnose .zeroed es) = _ at hcursor
      have hlast : (r.stored (run Diag.diagnose .zeroed es) e).toList.length =
          if (r.sample e).isSome then 1 else 0 := by
        unfold stored
        rw [hcursor]
        cases r.sample e with
        | none => rfl
        | some f => rfl
      rw [written, outputs_append, List.length_append, outputs, outputs, List.append_nil, hlast,
        count, List.countP_append, List.countP_singleton]
      exact congrArg (· + _) ih

theorem Recorded.held {written : List α} {d : Diag} (h : r.Recorded written d) :
    (r.slots d).Perm
      (written.drop (written.length - 8) ++ List.replicate (8 - written.length) r.empty) := by
  have hrotate : (r.slots d).rotate r.first.toNat = List.ofFn (r.ring d) := by
    apply List.ext_getElem
    · rw [List.length_rotate, h.length, List.length_ofFn]
    · intro i hi hi'
      rw [List.length_ofFn] at hi'
      have hslot : (i + r.first.toNat) % 8 < (r.slots d).length := by
        rw [h.length]
        omega
      rw [List.getElem_rotate, List.getElem_ofFn]
      unfold ring
      rw [List.getD_eq_getElem?_getD, List.getElem?_eq_getElem hslot, Option.getD_some]
      congr 1
      rw [h.length]
  refine (List.rotate_perm _ r.first.toNat).symm.trans ?_
  rw [hrotate]
  exact h.window.perm h.untouched

theorem Recorded.unwritten {written : List α} {d : Diag} (h : r.Recorded written d) {i : Nat}
    (hi : i < 8)
    (never : ∀ j < written.length, ((UInt32.ofNat j + r.first) % 8).toNat ≠ i) :
    (r.slots d)[i]? = some r.empty := by
  -- the recording that would be the first to use slot `i`
  obtain ⟨k, hk, hslot⟩ : ∃ k < 8, (k + r.first.toNat) % 8 = i :=
    ⟨(i + 8 - r.first.toNat % 8) % 8, by omega, by omega⟩
  have hlate : written.length ≤ k := by
    by_contra hearly
    exact never k (Nat.lt_of_not_le hearly) ((toNat_slot k).trans hslot)
  have hempty : r.ring d ⟨k, hk⟩ = r.empty := h.untouched ⟨k, hk⟩ hlate
  have hlen : i < (r.slots d).length := by rw [h.length]; exact hi
  unfold ring at hempty
  rw [hslot, List.getD_eq_getElem?_getD, List.getElem?_eq_getElem hlen, Option.getD_some] at hempty
  rw [List.getElem?_eq_getElem hlen, hempty]

/-- The numbers start over when the cursor wraps. -/
theorem Recorded.increasing_iff {written : List α} {d : Diag} (h : r.Recorded written d) :
    (written.Pairwise fun a b => r.seq a < r.seq b) ↔
      written.length + r.first.toNat ≤ 2 ^ 32 := by
  have hfirst := r.first.toNat_lt
  rw [List.pairwise_iff_getElem]
  constructor
  · intro increasing
    by_contra hwrap
    -- the recording after the wrap, which is not the first
    have hlast : 2 ^ 32 - r.first.toNat < written.length := by omega
    have hlt := increasing 0 (2 ^ 32 - r.first.toNat) (by omega) hlast (by omega)
    rw [UInt64.lt_iff_toNat_lt, h.seq, h.seq] at hlt
    omega
  · intro small i j hi hj hlt
    rw [UInt64.lt_iff_toNat_lt, h.seq, h.seq, Nat.mod_eq_of_lt (by omega),
      Nat.mod_eq_of_lt (by omega)]
    omega

theorem keepsNewest_iff (es : List Diagnosis) :
    r.KeepsNewest es ↔ r.count es + r.first.toNat ≤ 2 ^ 32 := by
  have recorded := recorded_run (r := r) es
  have hincreasing := recorded.increasing_iff
  rw [length_written] at hincreasing
  constructor
  · intro h
    exact hincreasing.mp h.increasing
  · intro h
    exact ⟨recorded.held, fun i hi never => ⟨r.empty, recorded.unwritten hi never, r.seq_empty⟩,
      hincreasing.mpr h⟩

end SampleRing

namespace Diag
variable (d : Diag)

theorem withCounters_eq (prod : List ProdCounter) (debug : List DebugCounter) :
    ∃ p q, d.withCounters prod debug = { d with prod := p, debug := q } := by
  unfold withCounters
  split
  · exact ⟨_, _, rfl⟩
  · exact ⟨d.prod, d.debug, rfl⟩

theorem recordFwdDstSample_eq (dst : Ipv6Octets) :
    ∃ c s, d.recordFwdDstSample dst = { d with fwdDstSampleCursor := c, fwdDstSamples := s } := by
  unfold recordFwdDstSample
  split
  · exact ⟨d.fwdDstSampleCursor, d.fwdDstSamples, rfl⟩
  · exact ⟨_, _, rfl⟩

theorem recordFwdTcpSample_eq (dst6 : Ipv6Octets) (dst4 : List UInt8) (dst4Be src4Be : UInt32)
    (tcpSport tcpDport : UInt16) (natInsertOk adjustRoomOk : Bool) :
    ∃ c s, d.recordFwdTcpSample dst6 dst4 dst4Be src4Be tcpSport tcpDport natInsertOk adjustRoomOk =
      { d with fwdTcpSampleCursor := c, fwdTcpSamples := s } := by
  unfold recordFwdTcpSample
  split
  · exact ⟨d.fwdTcpSampleCursor, d.fwdTcpSamples, rfl⟩
  · exact ⟨_, _, rfl⟩

/-- Only the counters are written besides the ring. -/
theorem recordFwdTcpCsumSample_eq (trace : FwdL4CsumTrace)
    (finalCheckBe oldSportBe newSportBe : UInt16) (srcV4 dstV4 : UInt32) :
    ∃ p q c s, d.recordFwdTcpCsumSample trace finalCheckBe oldSportBe newSportBe srcV4 dstV4 =
      { d with prod := p, debug := q, fwdTcpCsumSampleCursor := c, fwdTcpCsumSamples := s } := by
  obtain ⟨p, q, attempt⟩ := d.withCounters_eq [] [.dbgFwdTcpCsumSampleAttempt]
  unfold recordFwdTcpCsumSample
  dsimp only
  rw [attempt]
  have counted : ∀ (c : Option UInt32) (s : List DbgFwdTcpCsumSample) (debug : List DebugCounter),
      ∃ p' q' c' s', ({ d with
        prod := p, debug := q, fwdTcpCsumSampleCursor := c, fwdTcpCsumSamples := s } :
          Diag).withCounters [] debug = { d with
        prod := p', debug := q', fwdTcpCsumSampleCursor := c', fwdTcpCsumSamples := s' } := by
    intro c s debug
    obtain ⟨p', q', h⟩ := withCounters_eq _ [] debug
    exact ⟨p', q', c, s, h⟩
  split
  · exact counted d.fwdTcpCsumSampleCursor d.fwdTcpCsumSamples _
  · split
    · exact counted _ _ _
    · exact counted _ d.fwdTcpCsumSamples _

/-- What a recording that finds its cursor writes to the ring. -/
theorem recordFwdTcpCsumSample_ring (trace : FwdL4CsumTrace)
    (finalCheckBe oldSportBe newSportBe : UInt16) (srcV4 dstV4 : UInt32) {c : UInt32}
    (hc : d.fwdTcpCsumSampleCursor = some c) (hlen : d.fwdTcpCsumSamples.length = 8) :
    (d.recordFwdTcpCsumSample trace finalCheckBe oldSportBe newSportBe srcV4
        dstV4).fwdTcpCsumSampleCursor = some (c + 1) ∧
      (d.recordFwdTcpCsumSample trace finalCheckBe oldSportBe newSportBe srcV4
        dstV4).fwdTcpCsumSamples = d.fwdTcpCsumSamples.set ((c + 1) % 8).toNat
          ⟨(c + 1).toUInt64, trace.oldCheckBe, trace.afterPseudoBe, trace.afterPortBe,
            finalCheckBe, oldSportBe, newSportBe, srcV4, dstV4⟩ := by
  obtain ⟨p, q, attempt⟩ := d.withCounters_eq [] [.dbgFwdTcpCsumSampleAttempt]
  have hslot : ((c + 1) % DBG_FWD_TCP_CSUM_SAMPLE_SLOTS).toNat < d.fwdTcpCsumSamples.length := by
    rw [hlen, UInt32.toNat_mod]
    exact Nat.mod_lt _ (by decide)
  unfold recordFwdTcpCsumSample
  dsimp only
  rw [attempt, hc]
  dsimp only
  rw [if_pos hslot]
  generalize hstored : ({ d with
    prod := p, debug := q, fwdTcpCsumSampleCursor := some (c + 1),
    fwdTcpCsumSamples := d.fwdTcpCsumSamples.set _ _ } : Diag) = stored
  obtain ⟨p', q', ok⟩ := stored.withCounters_eq [] [.dbgFwdTcpCsumSampleOk]
  rw [ok, ← hstored]
  exact ⟨rfl, rfl⟩

/-- An update writes no ring but its own. -/
theorem diagnose_frame (e : Diagnosis) :
    ((∀ dst, e ≠ .fwdDstSample dst) →
      (d.diagnose e).fwdDstSampleCursor = d.fwdDstSampleCursor ∧
      (d.diagnose e).fwdDstSamples = d.fwdDstSamples) ∧
    ((∀ dst6 dst4 dst4Be src4Be sport dport inserted adjusted,
      e ≠ .fwdTcpSample dst6 dst4 dst4Be src4Be sport dport inserted adjusted) →
      (d.diagnose e).fwdTcpSampleCursor = d.fwdTcpSampleCursor ∧
      (d.diagnose e).fwdTcpSamples = d.fwdTcpSamples) ∧
    ((∀ trace final old new src dst, e ≠ .fwdTcpCsumSample trace final old new src dst) →
      (d.diagnose e).fwdTcpCsumSampleCursor = d.fwdTcpCsumSampleCursor ∧
      (d.diagnose e).fwdTcpCsumSamples = d.fwdTcpCsumSamples) := by
  cases e with
  | counters prod debug =>
      obtain ⟨p, q, h⟩ := d.withCounters_eq prod debug
      rw [diagnose, h]
      exact ⟨fun _ => ⟨rfl, rfl⟩, fun _ => ⟨rfl, rfl⟩, fun _ => ⟨rfl, rfl⟩⟩
  | prodCounters fields => exact ⟨fun _ => ⟨rfl, rfl⟩, fun _ => ⟨rfl, rfl⟩, fun _ => ⟨rfl, rfl⟩⟩
  | debugCounters fields => exact ⟨fun _ => ⟨rfl, rfl⟩, fun _ => ⟨rfl, rfl⟩, fun _ => ⟨rfl, rfl⟩⟩
  | fwdDstSample dst =>
      obtain ⟨c, s, h⟩ := d.recordFwdDstSample_eq dst
      rw [diagnose, h]
      exact ⟨fun other => (other _ rfl).elim, fun _ => ⟨rfl, rfl⟩, fun _ => ⟨rfl, rfl⟩⟩
  | fwdTcpSample dst6 dst4 dst4Be src4Be sport dport inserted adjusted =>
      obtain ⟨c, s, h⟩ :=
        d.recordFwdTcpSample_eq dst6 dst4 dst4Be src4Be sport dport inserted adjusted
      rw [diagnose, h]
      exact ⟨fun _ => ⟨rfl, rfl⟩, fun other => (other _ _ _ _ _ _ _ _ rfl).elim,
        fun _ => ⟨rfl, rfl⟩⟩
  | fwdTcpCsumSample trace final old new src dst =>
      obtain ⟨p, q, c, s, h⟩ := d.recordFwdTcpCsumSample_eq trace final old new src dst
      rw [diagnose, h]
      exact ⟨fun _ => ⟨rfl, rfl⟩, fun _ => ⟨rfl, rfl⟩,
        fun other => (other _ _ _ _ _ _ rfl).elim⟩

end Diag

/-! ## The three rings -/

/-- `record_fwd_dst_sample`: the slot of the cursor, and a number one above it. -/
def fwdDstRing : SampleRing DbgIpv6Sample where
  cursor := Diag.fwdDstSampleCursor
  slots := Diag.fwdDstSamples
  seq := DbgIpv6Sample.seq
  empty := ⟨0, List.Vector.replicate 16 0⟩
  sample
    | .fwdDstSample dst => some fun cursor => ⟨satAdd cursor.toUInt64 1, dst⟩
    | _ => none
  first := 0
  extra := 1
  cursor_zeroed := rfl
  slots_zeroed := rfl
  seq_empty := rfl
  seq_sample := by
    intro e f he c
    cases e with
    | fwdDstSample dst =>
        cases he
        have hc := c.toNat_lt
        change (satAdd c.toUInt64 1).toNat = _
        rw [toNat_satAdd, UInt32.toNat_toUInt64, UInt32.add_zero]
        change min (c.toNat + 1) _ = _
        omega
    | _ => cases he
  record := by
    intro d e f c he hc hlen
    cases e with
    | fwdDstSample dst =>
        cases he
        rw [Diag.diagnose, Diag.recordFwdDstSample, hc, UInt32.add_zero]
        exact ⟨rfl, rfl⟩
    | _ => cases he
  frame := by
    intro d e he
    apply (d.diagnose_frame e).1
    rintro dst rfl
    cases he

/-- `record_fwd_tcp_sample`: the cursor is advanced first, and gives slot and number. -/
def fwdTcpRing : SampleRing DbgFwdTcpSample where
  cursor := Diag.fwdTcpSampleCursor
  slots := Diag.fwdTcpSamples
  seq := DbgFwdTcpSample.seq
  empty := ⟨0, List.Vector.replicate 16 0, [0, 0, 0, 0], 0, 0, 0, 0, false, false⟩
  sample
    | .fwdTcpSample dst6 dst4 dst4Be src4Be tcpSport tcpDport natInsertOk adjustRoomOk =>
        some fun cursor => ⟨(cursor + 1).toUInt64, dst6, dst4, dst4Be, src4Be, tcpSport, tcpDport,
          natInsertOk, adjustRoomOk⟩
    | _ => none
  first := 1
  extra := 0
  cursor_zeroed := rfl
  slots_zeroed := rfl
  seq_empty := rfl
  seq_sample := by
    intro e f he c
    cases e with
    | fwdTcpSample dst6 dst4 dst4Be src4Be sport dport inserted adjusted =>
        cases he
        exact UInt32.toNat_toUInt64 _
    | _ => cases he
  record := by
    intro d e f c he hc hlen
    cases e with
    | fwdTcpSample dst6 dst4 dst4Be src4Be sport dport inserted adjusted =>
        cases he
        rw [Diag.diagnose, Diag.recordFwdTcpSample, hc]
        exact ⟨rfl, rfl⟩
    | _ => cases he
  frame := by
    intro d e he
    apply (d.diagnose_frame e).2.1
    rintro dst6 dst4 dst4Be src4Be sport dport inserted adjusted rfl
    cases he

/-- `record_fwd_tcp_csum_sample`: the same, between two counters. -/
def fwdTcpCsumRing : SampleRing DbgFwdTcpCsumSample where
  cursor := Diag.fwdTcpCsumSampleCursor
  slots := Diag.fwdTcpCsumSamples
  seq := DbgFwdTcpCsumSample.seq
  empty := ⟨0, 0, 0, 0, 0, 0, 0, 0, 0⟩
  sample
    | .fwdTcpCsumSample trace finalCheckBe oldSportBe newSportBe srcV4 dstV4 =>
        some fun cursor => ⟨(cursor + 1).toUInt64, trace.oldCheckBe, trace.afterPseudoBe,
          trace.afterPortBe, finalCheckBe, oldSportBe, newSportBe, srcV4, dstV4⟩
    | _ => none
  first := 1
  extra := 0
  cursor_zeroed := rfl
  slots_zeroed := rfl
  seq_empty := rfl
  seq_sample := by
    intro e f he c
    cases e with
    | fwdTcpCsumSample trace final old new src dst =>
        cases he
        exact UInt32.toNat_toUInt64 _
    | _ => cases he
  record := by
    intro d e f c he hc hlen
    cases e with
    | fwdTcpCsumSample trace final old new src dst =>
        cases he
        exact d.recordFwdTcpCsumSample_ring trace final old new src dst hc hlen
    | _ => cases he
  frame := by
    intro d e he
    apply (d.diagnose_frame e).2.2
    rintro trace final old new src dst rfl
    cases he

/-- Each ring keeps to its law until its cursor wraps: the destination ring for `2 ^ 32`
recordings, the other two for one less. -/
theorem sample_rings_keep_newest_iff (es : List Diagnosis) :
    (fwdDstRing.KeepsNewest es ↔ fwdDstRing.count es ≤ 2 ^ 32) ∧
    (fwdTcpRing.KeepsNewest es ↔ fwdTcpRing.count es < 2 ^ 32) ∧
    (fwdTcpCsumRing.KeepsNewest es ↔ fwdTcpCsumRing.count es < 2 ^ 32) :=
  ⟨SampleRing.keepsNewest_iff es, SampleRing.keepsNewest_iff es, SampleRing.keepsNewest_iff es⟩

theorem SampleRing.count_replicate {α : Type} {r : SampleRing α} {e : Diagnosis}
    (h : (r.sample e).isSome) (n : Nat) : r.count (List.replicate n e) = n := by
  rw [count, List.countP_replicate, if_pos h]

theorem SampleRing.not_keepsNewest_replicate {α : Type} {r : SampleRing α} {e : Diagnosis}
    (h : (r.sample e).isSome) {n : Nat} (wrapped : 2 ^ 32 < n + r.first.toNat) :
    ¬ r.KeepsNewest (List.replicate n e) := by
  intro keeps
  have hcount := (keepsNewest_iff _).mp keeps
  rw [count_replicate h] at hcount
  exact absurd hcount (Nat.not_le_of_lt wrapped)

def exampleDstSample : Diagnosis := .fwdDstSample (List.Vector.replicate 16 0)

def exampleTcpSample : Diagnosis :=
  .fwdTcpSample (List.Vector.replicate 16 0) [0, 0, 0, 0] 0 0 0 0 true true

def exampleTcpCsumSample : Diagnosis := .fwdTcpCsumSample ⟨0, 0, 0⟩ 0 0 0 0 0

/-- The number is one again after `2 ^ 32` destinations, and zero at the last 32-bit cursor
of the other rings. -/
theorem sample_numbers_start_over :
    ¬ fwdDstRing.KeepsNewest (List.replicate (2 ^ 32 + 1) exampleDstSample) ∧
    ¬ fwdTcpRing.KeepsNewest (List.replicate (2 ^ 32) exampleTcpSample) ∧
    ¬ fwdTcpCsumRing.KeepsNewest (List.replicate (2 ^ 32) exampleTcpCsumSample) := by
  refine ⟨?_, ?_, ?_⟩
  · exact SampleRing.not_keepsNewest_replicate rfl (by decide)
  · exact SampleRing.not_keepsNewest_replicate rfl (by decide)
  · exact SampleRing.not_keepsNewest_replicate rfl (by decide)

example : (diagnosed (List.replicate 9 exampleTcpSample)).fwdTcpSamples.map DbgFwdTcpSample.seq =
    [8, 9, 2, 3, 4, 5, 6, 7] := by decide

end Natto64
