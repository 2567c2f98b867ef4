import Natto64.SerialRuns
import Natto64.SharedPlaces

/-!
# Overlapping runs

The events of a run as invocations whose calls overlap, on the allocator slots that their CPUs
have at the time. As long as the accesses to each shared place come in the order of the run,
nothing tells them from the run of whole events.
-/
namespace Natto64
open EventRun Interleaving

namespace Event

def Result : Event → Type
  | .forward _ _ _ | .reverse _ _ _ => TcAction
  | .timer _ _ => Unit
  | .evictFwdNat _ | .evictNat _ => Bool

def program : (e : Event) → Ebpf e.Result
  | .forward _ _ _ => nat64Forward
  | .reverse _ _ _ => nat64Reverse
  | .timer key _ => sessionTimerCallback key
  | .evictFwdNat key => fwdNatRemove key
  | .evictNat key => natRemove key

/-- What the invocation holds before its first call. -/
def held : Event → Held
  | .forward _ skb _ | .reverse _ skb _ => ⟨skb, []⟩
  | .timer _ _ | .evictFwdNat _ | .evictNat _ => ⟨[], []⟩

/-- The CPU of a packet; a callback or an eviction happens on any. -/
def home (elsewhere : Nat) (e : Event) : Nat := e.cpu.getD elsewhere

/-- The whole event as an invocation on this CPU. -/
def live (e : Event) (cpu : Nat) (s : Live) : e.Result × Machine :=
  e.kernel.exec e.program (e.held.machine cpu s)

/-- The action on a packet and its frame. -/
def outcome : (e : Event) → e.Result → List UInt8 → Option (TcAction × List UInt8)
  | .forward _ _ _, a, skb | .reverse _ _ _, a, skb => some (a, skb)
  | .timer _ _, _, _ | .evictFwdNat _, _, _ | .evictNat _, _, _ => none

end Event

theorem Op.OfCallback.offSlots {op : Op} (h : op.OfCallback) : op.OffSlots := by
  cases op <;> first | rfl | exact h.elim

/-- What is shared is what the run leaves, but for the times at which timers expire. -/
structure Live.Follows (s : Live) (t : System) : Prop where
  maps : s.maps.SameButTimers t.maps
  slots : s.slots = t.cpus

/-- An invocation does to what is shared, and to its packet, what the event does. -/
theorem live_event {s : Live} {t : System} (h : s.Follows t) (e : Event) (elsewhere : Nat) :
    (s.leave (e.home elsewhere) (e.live (e.home elsewhere) s).2).Follows (t.step e) ∧
      e.outcome (e.live (e.home elsewhere) s).1 (e.live (e.home elsewhere) s).2.skb =
        t.packet e := by
  obtain ⟨maps, slots⟩ := s
  obtain ⟨same, rfl⟩ := h
  obtain ⟨follows, packet, cpus⟩ := invoked_event same e
  cases e with
  | forward cpu skb k =>
      refine ⟨⟨follows, ?_⟩, packet⟩
      have left : ((Event.forward cpu skb k).invoked t.cpus maps).2.cpu =
          (t.forward cpu skb k).2.cpu := (cpus cpu rfl).trans (Function.update_self ..)
      exact congrArg (Function.update t.cpus cpu) left
  | reverse cpu skb k =>
      refine ⟨⟨follows, ?_⟩, packet⟩
      have left : ((Event.reverse cpu skb k).invoked t.cpus maps).2.cpu =
          (t.reverse cpu skb k).2.cpu := (cpus cpu rfl).trans (Function.update_self ..)
      exact congrArg (Function.update t.cpus cpu) left
  | timer key k =>
      -- the callback runs on slots that it does not use
      have blind := exec_offSlots ((uses_sessionTimerCallback key).mono fun _ h => h.offSlots) k
        (Invocation.machine ⟨[], ⟨none, none⟩, []⟩ maps) (t.cpus elsewhere)
      have runs : (Event.timer key k).live elsewhere ⟨maps, t.cpus⟩ = _ := blind
      refine ⟨⟨?_, ?_⟩, rfl⟩
      · change Maps.SameButTimers ((Event.timer key k).live elsewhere ⟨maps, t.cpus⟩).2.maps _
        rw [runs]
        exact follows
      · change Function.update t.cpus elsewhere
          ((Event.timer key k).live elsewhere ⟨maps, t.cpus⟩).2.cpu = t.cpus
        rw [runs]
        exact Function.update_eq_self elsewhere t.cpus
  | evictFwdNat key => exact ⟨⟨follows, Function.update_eq_self elsewhere t.cpus⟩, rfl⟩
  | evictNat key => exact ⟨⟨follows, Function.update_eq_self elsewhere t.cpus⟩, rfl⟩

section Runs
variable (cfg : Nat64Config) (es : List Event) (elsewhere : Fin es.length → Nat)

/-- Events that are in flight together. -/
abbrev LiveEvents := Pool Op.Resp (fun i : Fin es.length => (es.get i).Result) (fun _ => Held) Live

/-- What a finished event made of its packet. -/
def LiveEvents.packet {es : List Event} (c : LiveEvents es) (i : Fin es.length) :
    Option (TcAction × List UInt8) :=
  (c.result i).bind fun r => (es.get i).outcome r (c.own i).skb

theorem packet_of_place {es : List Event} {c : LiveEvents es} {i : Fin es.length}
    {r : (es.get i).Result} {l : Held} (h : c.place i = (.done r, l)) :
    c.packet i = (es.get i).outcome r l.skb := by
  have result : c.result i = some r := Pool.result_of_done (congrArg Prod.fst h)
  have own : c.own i = l := congrArg Prod.snd h
  rw [LiveEvents.packet, result, own]
  rfl

/-- None of the events has made a call. -/
def arrivals : LiveEvents es where
  progs i := (es.get i).program
  own i := (es.get i).held
  shared := { maps := (System.initial cfg).maps, slots := (System.initial cfg).cpus }

/-- The CPU of each event. -/
def eventCpu (i : Fin es.length) : Nat := (es.get i).home (elsewhere i)

def eventAnswer (i : Fin es.length) : (op : Op) → Held → Live → op.Resp × Held × Live :=
  liveAnswer (es.get i).kernel (eventCpu es elsewhere i)

def overlapping (schedule : List (Fin es.length)) : LiveEvents es :=
  run (step (eventAnswer es elsewhere)) (arrivals cfg es) schedule

/-- The places that were accessed, each with the event that accessed it, in order. -/
def placeCalls (schedule : List (Fin es.length)) : List (Place × Fin es.length) :=
  touches (step (eventAnswer es elsewhere))
    (Pool.site fun i => Op.place (eventCpu es elsewhere i)) (arrivals cfg es) schedule

theorem alone_arrivals (i : Fin es.length) (s : Live) :
    alone (eventAnswer es elsewhere i) ((arrivals cfg es).place i).1 ((arrivals cfg es).place i).2
      s = (((es.get i).live (eventCpu es elsewhere i) s).1,
        ((es.get i).live (eventCpu es elsewhere i) s).2.held,
        s.leave (eventCpu es elsewhere i) ((es.get i).live (eventCpu es elsewhere i) s).2) :=
  alone_live (es.get i).kernel (eventCpu es elsewhere i) (es.get i).program (es.get i).held s

/-- What is shared after the first `n` events, whole and one after the other. -/
def wholeEvents (n : Nat) : Live :=
  inSequence (eventAnswer es elsewhere) (arrivals cfg es).place (arrivals cfg es).shared
    ((List.finRange es.length).take n)

theorem whole_follows (n : Nat) :
    (wholeEvents cfg es elsewhere n).Follows (dataplane cfg (es.take n)) := by
  induction n with
  | zero => exact ⟨.refl _, rfl⟩
  | succ n ih =>
      by_cases hn : n < es.length
      · have hevents : es.take (n + 1) = es.take n ++ [es[n]] := List.take_succ_eq_append_getElem hn
        rw [wholeEvents, finRange_take_succ hn, hevents, dataplane_concat, inSequence,
          List.foldl_append, List.foldl_cons, List.foldl_nil, alone_arrivals]
        exact (live_event ih es[n] (elsewhere ⟨n, hn⟩)).1
      · have hlen : es.length ≤ n := Nat.le_of_not_lt hn
        rw [wholeEvents, List.take_of_length_le (by simpa using hlen),
          List.take_of_length_le hlen] at ih
        rw [wholeEvents, List.take_of_length_le (by simp; omega),
          List.take_of_length_le (by omega)]
        exact ih

end Runs

/-- Two requests on two CPUs, over TCP and over UDP, that take turns call by call. -/
def exampleRequests : List Event :=
  [.forward 0 (exampleTcp6 4000 20) (.ideal 1000 7), .forward 1 (exampleUdp6 4001) (.ideal 1000 8)]

def exampleTurns : List (Fin 2) := (List.replicate 80 (List.finRange 2)).flatten

end Natto64
