import Natto64.BindingTable
import Natto64.RoundTrip

/-!
# The dataplane as a table of bindings

A flow is bound to an external tuple while it has a forward entry. In runs without faults
after a session is opened, what the frames and the expiries show is a trace of the table.
-/
namespace Natto64
open EventRun BindingTable Octets

abbrev FlowAction := Action FwdNatKey NatKey

/-- The source of a translated packet. -/
def sentFrom (out : List UInt8) : NatKey :=
  natKey (ipv4TupleAt out).src (ipv4TupleAt out).sport (ipv4TupleAt out).proto

/-- The flow of a delivered packet: the client it is emitted to, the remote end it came from. -/
def deliveredFlow (skb out : List UInt8) : FwdNatKey :=
  fwdNatKey (ipv6TupleAt out).dst (be32At skb 26) (ipv6TupleAt out).dport
    (be16At skb (14 + ihlAt skb)) (ipv6TupleAt out).proto

namespace System

/-- The flow got a forward entry. -/
def opening (s : System) (key : FwdNatKey) (s' : Maps) : List FlowAction :=
  match s.maps.fwdNat key, s'.fwdNat key with
  | none, some v => [.opens key (sessions.addr key v)]
  | _, _ => []

/-- The flow lost its forward entry. -/
def closing (s : System) (key : FwdNatKey) (s' : Maps) : List FlowAction :=
  match s.maps.fwdNat key, s'.fwdNat key with
  | some _, none => [.closes key]
  | _, _ => []

/-- What an event shows: a translated packet by the frames before and after. -/
def actions (s : System) : Event → List FlowAction
  | .forward cpu skb k => s.opening (fwdKeyAt skb) (s.forward cpu skb k).2.maps ++
      if (s.forward cpu skb k).1 = .pipe then []
      else [.sends (fwdKeyAt skb) (sentFrom (s.forward cpu skb k).2.skb)]
  | .reverse cpu skb k =>
      if (s.reverse cpu skb k).1 = .pipe then []
      else [.delivers (deliveredFlow skb (s.reverse cpu skb k).2.skb) (revKeyAt skb)]
  | .timer key k => s.closing key (s.timer key k).maps
  | .evictFwdNat _ | .evictNat _ => []

theorem actions_reverse_piped {s : System} {cpu : Nat} {skb : List UInt8} {k : Kernel}
    (h : (s.reverse cpu skb k).1 = .pipe) : s.actions (.reverse cpu skb k) = [] := if_pos h

theorem actions_reverse {s : System} {cpu : Nat} {skb : List UInt8} {k : Kernel}
    (h : (s.reverse cpu skb k).1 ≠ .pipe) : s.actions (.reverse cpu skb k) =
      [.delivers (deliveredFlow skb (s.reverse cpu skb k).2.skb) (revKeyAt skb)] := if_neg h

end System

/-- What a run shows. -/
def shown (s : System) (es : List Event) : List FlowAction :=
  (outputs System.step (fun s e => some (s.actions e)) s es).flatten

theorem shown_cons (s : System) (e : Event) (es : List Event) :
    shown s (e :: es) = s.actions e ++ shown (s.step e) es := rfl

theorem shown_append (s : System) (es fs : List Event) :
    shown s (es ++ fs) = shown s es ++ shown (run System.step s es) fs := by
  rw [shown, outputs_append, List.flatten_append]
  rfl

def Maps.binding (m : Maps) (key : FwdNatKey) : Option NatKey :=
  (m.fwdNat key).map (sessions.addr key)

/-- The table shows the forward entries. -/
def Shows (t : BindingTable FwdNatKey NatKey) (m : Maps) : Prop := t.binding = m.binding

theorem binding_eq_some {m : Maps} {key : FwdNatKey} {l : NatKey} :
    m.binding key = some l ↔ ∃ v, m.fwdNat key = some v ∧ sessions.addr key v = l :=
  Option.map_eq_some_iff

theorem binding_of_entry {m : Maps} {key : FwdNatKey} {v : TimedFwdNatVal}
    (entry : m.fwdNat key = some v) : m.binding key = some (sessions.addr key v) := by
  rw [Maps.binding, entry, Option.map_some]

theorem binding_congr {m m' : Maps} (h : m'.fwdNat = m.fwdNat) : m'.binding = m.binding := by
  funext key
  rw [Maps.binding, h, Maps.binding]

theorem binding_set (m : Maps) (key : FwdNatKey) (v : Option TimedFwdNatVal) :
    (m.setFwdNat key v).binding =
      Function.update m.binding key (v.map (sessions.addr key)) := by
  funext key'
  by_cases hkey : key' = key
  · subst hkey
    rw [Maps.binding, Maps.setFwdNat_self, Function.update_self]
  · rw [Maps.binding, Maps.setFwdNat_of_ne _ _ _ hkey, Function.update_of_ne hkey, Maps.binding]

/-- An entry that keeps its tuple does not show. -/
theorem binding_touch {m : Maps} {key : FwdNatKey} {v w : TimedFwdNatVal}
    (entry : m.fwdNat key = some v) (same : v.SameTuple w) :
    (m.setFwdNat key (some w)).binding = m.binding := by
  rw [binding_set, Option.map_some, same.addr, ← binding_of_entry entry, Function.update_eq_self]

section Steps
variable {s : System} {t : BindingTable FwdNatKey NatKey}

/-- No flow is bound to a tuple without a reverse entry. -/
theorem free_of_absent (h : s.Covered) (hshow : Shows t s.maps) {l : NatKey}
    (absent : s.maps.nat l = none) (key : FwdNatKey) : t.binding key ≠ some l := by
  intro bound
  rw [hshow] at bound
  obtain ⟨v, entry, rfl⟩ := binding_eq_some.mp bound
  obtain ⟨b, hb, -⟩ := h key v entry
  rw [absent] at hb
  cases hb

/-- Nothing shows that a flow changed. -/
theorem hshowsame (hshow : Shows t s.maps) {m : Maps} (same : m.binding = s.maps.binding) :
    Shows t m := hshow.trans same.symm

theorem opening_of_same {m : Maps} (same : m.binding = s.maps.binding) (key : FwdNatKey) :
    s.opening key m = [] := by
  have hkey := congrFun same key
  rw [Maps.binding, Maps.binding] at hkey
  unfold System.opening
  cases hold : s.maps.fwdNat key with
  | some v => cases m.fwdNat key <;> rfl
  | none =>
      rw [hold, Option.map_none, Option.map_eq_none_iff] at hkey
      rw [hkey]

theorem closing_of_same {m : Maps} (same : m.binding = s.maps.binding) (key : FwdNatKey) :
    s.closing key m = [] := by
  have hkey := congrFun same key
  rw [Maps.binding, Maps.binding] at hkey
  unfold System.closing
  cases hnew : m.fwdNat key with
  | some v => cases s.maps.fwdNat key <;> rfl
  | none =>
      rw [hnew, Option.map_none] at hkey
      rw [Option.map_eq_none_iff.mp hkey.symm]

/-- A session is opened at a tuple without a reverse entry. -/
theorem opening_traced (h : s.Covered) (hshow : Shows t s.maps) {key : FwdNatKey}
    {v : TimedFwdNatVal} {m : Maps} (new : s.maps.fwdNat key = none)
    (absent : s.maps.nat (sessions.addr key v) = none)
    (maps : m.fwdNat = (s.maps.setFwdNat key (some v)).fwdNat) :
    ∃ t', Trace t (s.opening key m) t' ∧ Shows t' m := by
  have hm : m.fwdNat key = some v := by rw [maps, Maps.setFwdNat_self]
  have opened : s.opening key m = [.opens key (sessions.addr key v)] := by
    rw [System.opening, new, hm]
  have unbound : t.binding key = none := by
    rw [hshow, Maps.binding, new, Option.map_none]
  have free := free_of_absent h hshow absent
  refine ⟨t.assign key _ free, ?_, ?_⟩
  · rw [opened]
    exact .cons (.opens unbound free) .nil
  · change Function.update t.binding key _ = m.binding
    rw [hshow, binding_congr maps, binding_set, Option.map_some]

/-- A session whose entry is removed is closed. -/
theorem closing_traced (hshow : Shows t s.maps) {key : FwdNatKey} {v : TimedFwdNatVal} {m : Maps}
    (entry : s.maps.fwdNat key = some v) (maps : m.fwdNat = (s.maps.setFwdNat key none).fwdNat) :
    ∃ t', Trace t (s.closing key m) t' ∧ Shows t' m := by
  have hm : m.fwdNat key = none := by rw [maps, Maps.setFwdNat_self]
  have closed : s.closing key m = [.closes key] := by rw [System.closing, entry, hm]
  have bound : t.binding key = some (sessions.addr key v) := by
    rw [hshow, binding_of_entry entry]
  refine ⟨t.release key, ?_, ?_⟩
  · rw [closed]
    exact .cons (.closes bound) .nil
  · change Function.update t.binding key none = m.binding
    rw [hshow, binding_congr maps, binding_set, Option.map_none]

/-- A forward packet opens its flow at most. -/
theorem forward_opens (h : s.Covered) (hshow : Shows t s.maps) {cpu : Nat} {skb : List UInt8}
    {k : Kernel} (ok : s.FaultFree (.forward cpu skb k)) :
    ∃ t', Trace t (s.opening (fwdKeyAt skb) (s.forward cpu skb k).2.maps) t' ∧
      Shows t' (s.forward cpu skb k).2.maps := by
  have unchanged : (s.forward cpu skb k).2.maps.binding = s.maps.binding →
      ∃ t', Trace t (s.opening (fwdKeyAt skb) (s.forward cpu skb k).2.maps) t' ∧
        Shows t' (s.forward cpu skb k).2.maps := by
    intro same
    rw [opening_of_same same]
    exact ⟨t, .nil, hshowsame hshow same⟩
  cases s.forward_maps cpu skb k with
  | idle maps => exact unchanged (congrArg Maps.binding maps)
  | @touched v old maps log =>
      refine unchanged ?_
      rw [maps]
      exact binding_touch old (v.sameTuple_seen k.now)
  | @recorded v old maps =>
      refine unchanged ?_
      rw [maps]
      exact (binding_congr rfl).trans (binding_touch old (v.sameTuple_seen k.now))
  | @opened extV4 extPort new pool port maps =>
      have fresh := (portFor_spec port).2.2
      exact opening_traced h hshow (v := openedVal k _ extV4 extPort) new fresh
        (by rw [maps]; rfl)
  | orphaned maps incomplete log => exact absurd (failsAfterOpening_of_log log) ok

/-- A translated forward packet leaves from the tuple its flow is bound to. -/
theorem forward_sends {cpu : Nat} {skb : List UInt8} {k : Kernel}
    (hshow : Shows t (s.forward cpu skb k).2.maps)
    (rewritten : (s.forward cpu skb k).1 ≠ .pipe) :
    t.binding (fwdKeyAt skb) = some (sentFrom (s.forward cpu skb k).2.skb) := by
  obtain ⟨w, entry, hext, hport⟩ := hasTuple_of_forward rewritten
  have hbound := binding_of_entry entry
  obtain ⟨extV4, u, s', l, csum, mapped, within, hskb, -⟩ := forward_rewritten rewritten
  have hproto : (ipv4TupleAt (s.forward cpu skb k).2.skb).proto = (fwdKeyAt skb).proto :=
    congrArg Ipv4Tuple.proto ((congrArg ipv4TupleAt hskb).trans (fwdFrame_tuple within))
  rw [hshow, sentFrom, hproto, ← hext, ← hport]
  exact hbound

/-- A delivered packet came to the tuple its flow is bound to. -/
theorem reverse_delivers (h : s.Mirror) (hshow : Shows t s.maps) {cpu : Nat} {skb : List UInt8}
    {k : Kernel} (rewritten : (s.reverse cpu skb k).1 ≠ .pipe) :
    t.binding (deliveredFlow skb (s.reverse cpu skb k).2.skb) = some (revKeyAt skb) := by
  obtain ⟨v, csum, matched, within, hskb, -⟩ := reverse_rewritten rewritten
  have htuple : ipv6TupleAt (s.reverse cpu skb k).2.skb = _ :=
    (congrArg ipv6TupleAt hskb).trans (revFrame_tuple within)
  obtain ⟨key, a, entry, haddr, hclient, hport, hremote, hremotePort, -⟩ := h.2 _ _ matched.entry
  have hproto : key.proto = u8At skb 23 := congrArg NatKey.proto haddr
  have hflow : deliveredFlow skb (s.reverse cpu skb k).2.skb = key := by
    have hremoteV4 : v.remoteV4 = be32At skb 26 := matched.remoteV4
    have hremoteP : v.remotePort = be16At skb (14 + ihlAt skb) := matched.remotePort
    rw [deliveredFlow, htuple, ← hremoteV4, ← hremoteP, hclient, hport, hremote, hremotePort]
    obtain ⟨vmV6, remoteV4, vmPort, remotePort, proto⟩ := key
    exact congrArg (FwdNatKey.mk vmV6 remoteV4 vmPort remotePort) hproto.symm
  rw [hflow, hshow, binding_of_entry entry, haddr]
  rfl

/-- Every event is traced by the table of the state it finds, and ends with the table of the
state it leaves. -/
theorem step_traced (h : s.Mirror) (hshow : Shows t s.maps) {e : Event} (ok : s.FaultFree e) :
    ∃ t', Trace t (s.actions e) t' ∧ Shows t' (s.step e).maps := by
  have covered : s.Covered := h.1
  cases e with
  | forward cpu skb k =>
      obtain ⟨t', opened, shows'⟩ := forward_opens covered hshow ok
      change ∃ t', Trace t (_ ++ _) t' ∧ Shows t' (s.forward cpu skb k).2.maps
      by_cases piped : (s.forward cpu skb k).1 = .pipe
      · rw [if_pos piped, List.append_nil]
        exact ⟨t', opened, shows'⟩
      · rw [if_neg piped]
        exact ⟨t', opened.append (.cons (.sends (forward_sends shows' piped)) .nil), shows'⟩
  | reverse cpu skb k =>
      have hfwd : (s.reverse cpu skb k).2.maps.fwdNat = s.maps.fwdNat := by
        cases s.reverse_maps cpu skb k with
        | idle maps | refreshed _ maps => exact (congrArg Maps.fwdNat maps).trans rfl
      refine ⟨t, ?_, hshowsame hshow (binding_congr hfwd)⟩
      by_cases piped : (s.reverse cpu skb k).1 = .pipe
      · rw [System.actions_reverse_piped piped]
        exact .nil
      · rw [System.actions_reverse piped]
        exact .cons (.delivers (reverse_delivers h hshow piped)) .nil
  | timer key k =>
      have unchanged : (s.timer key k).maps.binding = s.maps.binding →
          ∃ t', Trace t (s.closing key (s.timer key k).maps) t' ∧
            Shows t' (s.timer key k).maps := by
        intro same
        rw [closing_of_same same]
        exact ⟨t, .nil, hshowsame hshow same⟩
      change ∃ t', Trace t (s.closing key (s.timer key k).maps) t' ∧ Shows t' (s.timer key k).maps
      cases timer_maps s key k with
      | idle maps => exact unchanged (congrArg Maps.binding maps)
      | kept entry same maps =>
          refine unchanged ?_
          rw [maps]
          exact binding_touch entry same
      | forgotten entry maps | erased entry maps =>
          exact closing_traced hshow entry ((congrArg Maps.fwdNat maps).trans rfl)
      | severed entry maps insert remove log => exact absurd log ok.1
  | evictFwdNat key => exact ok.elim
  | evictNat key => exact ok.elim

theorem run_traced (h : s.Mirror) (hshow : Shows t s.maps) {es : List Event}
    (ok : Along System.step System.FaultFree s es) :
    ∃ t', Trace t (shown s es) t' ∧ Shows t' (run System.step s es).maps := by
  induction es generalizing s t with
  | nil => exact ⟨t, .nil, hshow⟩
  | cons e es ih =>
      obtain ⟨t₁, first, shows₁⟩ := step_traced h hshow ok.1
      obtain ⟨t₂, rest, shows₂⟩ := ih (mirror_step h ok.1) shows₁ ok.2
      exact ⟨t₂, first.append rest, shows₂⟩

end Steps

theorem exampleExchange_faultFree :
    Along System.step System.FaultFree (System.initial exampleDataplane) exampleExchange := by
  have clean : Clean ((System.initial exampleDataplane).forward 0 (exampleTcp6 4000 20)
      (.ideal 1000 7)).2.log := by
    decide +kernel
  exact ⟨clean.not_failsAfterOpening, trivial, trivial⟩

theorem exampleExchange_entry :
    (dataplane exampleDataplane exampleExchange).maps.fwdNat (fwdKeyAt (exampleTcp6 4000 20)) =
      some (openedVal (.ideal 1000 7) exampleDataplane 0xCB00710A 20001) := by decide +kernel

theorem shows_initial (cfg : Nat64Config) : Shows empty (System.initial cfg).maps := rfl

/-- What a run without faults shows is a trace of the table of bindings, from the empty table
to the one of its forward entries. -/
theorem dataplane_refines_table {cfg : Nat64Config} {es : List Event}
    (run : Along System.step System.FaultFree (System.initial cfg) es) :
    ∃ t, Trace empty (shown (System.initial cfg) es) t ∧
      ∀ key, t.binding key =
        ((dataplane cfg es).maps.fwdNat key).map fun v => natKey v.extV4 v.extPort key.proto := by
  have mirror : (System.initial cfg).Mirror := sessions.mirror_empty
  obtain ⟨t, trace, hshow⟩ := run_traced mirror (shows_initial cfg) run
  exact ⟨t, trace, congrFun hshow⟩

theorem dataplane_refines_table_exchange :
    ∃ t, Trace empty (shown (System.initial exampleDataplane) exampleExchange) t ∧
      t.binding (fwdKeyAt (exampleTcp6 4000 20)) = some (natKey 0xCB00710A 20001 IPPROTO_TCP) := by
  obtain ⟨t, trace, binding⟩ := dataplane_refines_table exampleExchange_faultFree
  refine ⟨t, trace, (binding _).trans ?_⟩
  rw [exampleExchange_entry]
  rfl

/-- The event translates a packet of the flow at the external tuple, one way or the other. -/
def System.Passes (s : System) (e : Event) (f : FwdNatKey) (l : NatKey) : Prop :=
  .sends f l ∈ s.actions e ∨ .delivers f l ∈ s.actions e

theorem not_closes_opening (s : System) (key f : FwdNatKey) (m : Maps) :
    Action.closes f ∉ s.opening key m := by
  unfold System.opening
  split <;> simp

/-- Only callbacks close a flow, and they translate nothing. -/
theorem System.Passes.not_closes {s : System} {e : Event} {f : FwdNatKey} {l : NatKey}
    (h : s.Passes e f l) (f' : FwdNatKey) : Action.closes f' ∉ s.actions e := by
  cases e with
  | forward cpu skb k =>
      intro hmem
      rcases List.mem_append.mp hmem with hopen | hsend
      · exact not_closes_opening _ _ _ _ hopen
      · split at hsend <;> simp at hsend
  | reverse cpu skb k =>
      by_cases piped : (s.reverse cpu skb k).1 = .pipe
      · rw [System.actions_reverse_piped piped]
        exact List.not_mem_nil
      · rw [System.actions_reverse piped]
        simp
  | timer key k =>
      have hpass : ∀ a, a ∈ s.closing key (s.timer key k).maps → a = .closes key := by
        intro a ha
        unfold System.closing at ha
        split at ha <;> simp at ha
        exact ha
      rcases h with hmem | hmem
      · cases hpass _ hmem
      · cases hpass _ hmem
  | evictFwdNat key => exact List.not_mem_nil
  | evictNat key => exact List.not_mem_nil

theorem System.Passes.uses {s : System} {e : Event} {f : FwdNatKey} {l : NatKey}
    (h : s.Passes e f l) : ∃ a ∈ s.actions e, a.Uses f l :=
  h.elim (fun hmem => ⟨_, hmem, .inl rfl⟩) fun hmem => ⟨_, hmem, .inr rfl⟩

/-- In a run without faults, two packets translated at different times are of one flow exactly
when they use one external tuple, unless the flow of the first was closed in between. -/
theorem flow_iff_tuple {cfg : Nat64Config} {past mid : List Event} {e e' : Event}
    (run : Along System.step System.FaultFree (System.initial cfg) (past ++ e :: mid ++ [e']))
    {f f' : FwdNatKey} {l l' : NatKey} (first : (dataplane cfg past).Passes e f l)
    (second : (dataplane cfg (past ++ e :: mid)).Passes e' f' l')
    (unclosed : Action.closes f ∉ shown (dataplane cfg (past ++ [e])) mid) : f = f' ↔ l = l' := by
  have mirror : (System.initial cfg).Mirror := sessions.mirror_empty
  obtain ⟨t, trace, -⟩ := run_traced mirror (shows_initial cfg) run
  obtain ⟨a, ha, use⟩ := first.uses
  obtain ⟨b, hb, use'⟩ := second.uses
  obtain ⟨before, between, hsplit⟩ := List.append_of_mem ha
  obtain ⟨between', after, hsplit'⟩ := List.append_of_mem hb
  have hmid : shown (dataplane cfg past) (e :: mid) =
      before ++ a :: (between ++ shown (dataplane cfg (past ++ [e])) mid) := by
    rw [shown_cons, hsplit, dataplane_concat, List.append_assoc, List.cons_append]
  have hall : shown (System.initial cfg) (past ++ e :: mid ++ [e']) =
      (shown (System.initial cfg) past ++ before) ++
        (a :: (between ++ shown (dataplane cfg (past ++ [e])) mid ++ between') ++ b :: after) := by
    rw [shown_append, shown_append]
    change shown _ past ++ shown (dataplane cfg past) (e :: mid) ++
      shown (dataplane cfg (past ++ e :: mid)) [e'] = _
    rw [hmid, shown_cons, hsplit']
    simp [shown, outputs]
  rw [hall] at trace
  obtain ⟨t₁, -, rest⟩ := trace.split
  refine rest.uses_iff use use' fun hmem => ?_
  rcases List.mem_append.mp hmem with hmem | hmem
  · rcases List.mem_append.mp hmem with hmem | hmem
    · exact first.not_closes f (hsplit ▸ List.mem_append_right _ (List.mem_cons_of_mem _ hmem))
    · exact unclosed hmem
  · exact second.not_closes f (hsplit' ▸ List.mem_append_left _ hmem)

/-- After the request of the example client. -/
def exampleAsked : System := dataplane exampleDataplane (exampleExchange.take 1)

def exampleDelivered : List UInt8 :=
  (exampleAsked.reverse 1 (exampleTcp4 20001 []) (.ideal 2000 8)).2.skb

/-- The answer is delivered to the flow that sent from its destination. -/
theorem flow_iff_tuple_exchange :
    fwdKeyAt (exampleTcp6 4000 20) = deliveredFlow (exampleTcp4 20001 []) exampleDelivered := by
  have first : (dataplane exampleDataplane []).Passes
      (.forward 0 (exampleTcp6 4000 20) (.ideal 1000 7)) (fwdKeyAt (exampleTcp6 4000 20))
      (natKey 0xCB00710A 20001 IPPROTO_TCP) := .inl (by decide +kernel)
  have piped : (exampleAsked.reverse 1 (exampleTcp4 20001 []) (.ideal 2000 8)).1 ≠ .pipe := by
    decide +kernel
  have second : exampleAsked.Passes (.reverse 1 (exampleTcp4 20001 []) (.ideal 2000 8))
      (deliveredFlow (exampleTcp4 20001 []) exampleDelivered)
      (revKeyAt (exampleTcp4 20001 [])) := by
    refine .inr ?_
    rw [System.actions_reverse piped]
    exact List.mem_singleton_self _
  have tuple : natKey 0xCB00710A 20001 IPPROTO_TCP = revKeyAt (exampleTcp4 20001 []) := by
    decide +kernel
  have iff := @flow_iff_tuple exampleDataplane [] [] _ _ exampleExchange_faultFree _ _ _ _ first
    second List.not_mem_nil
  exact iff.mpr tuple

end Natto64
