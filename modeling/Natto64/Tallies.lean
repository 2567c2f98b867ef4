import Mathlib.Data.List.Count
import Natto64.Diagnostics

/-!
# Tallies

What a diagnostic update adds to the counters, as the list of the counters it counts,
and the balances between the counters as relations on such lists.
-/
namespace Natto64

/-- A counter of either map. -/
inductive Counter where
  | prod (c : ProdCounter)
  | debug (c : DebugCounter)
  deriving DecidableEq

/-- What one `with_counters` call counts. -/
def counted (prod : List ProdCounter) (debug : List DebugCounter) : List Counter :=
  prod.map .prod ++ debug.map .debug

/-- Both counter maps are available. -/
structure Diag.Available (d : Diag) : Prop where
  prod : d.prod.isSome
  debug : d.debug.isSome

/-- The value of a counter, zero while its map is missing. -/
def Diag.value (d : Diag) : Counter → Nat
  | .prod c => d.prod.elim 0 fun counters => (counters c).toNat
  | .debug c => d.debug.elim 0 fun counters => (counters c).toNat

theorem Diag.value_lt (d : Diag) (c : Counter) : d.value c < 2 ^ 64 := by
  cases c with
  | prod c =>
      rw [Diag.value]
      cases d.prod with
      | none => exact Nat.two_pow_pos 64
      | some counters => exact (counters c).toNat_lt
  | debug c =>
      rw [Diag.value]
      cases d.debug with
      | none => exact Nat.two_pow_pos 64
      | some counters => exact (counters c).toNat_lt

/-- Each counter has gained its occurrences in `t`, saturating. -/
structure Counted (t : List Counter) (d d' : Diag) : Prop where
  available : d'.Available
  value (c : Counter) : d'.value c = min (d.value c + t.count c) (2 ^ 64 - 1)

theorem Counted.trans {t u : List Counter} {a b c : Diag} (h : Counted t a b)
    (h' : Counted u b c) : Counted (t ++ u) a c where
  available := h'.available
  value x := by
    rw [h'.value, h.value, List.count_append]
    omega

/-- The counters themselves are as before. -/
theorem Counted.of_eq {d d' : Diag} (h : d.Available) (prod : d'.prod = d.prod)
    (debug : d'.debug = d.debug) : Counted [] d d' where
  available := ⟨by rw [prod]; exact h.prod, by rw [debug]; exact h.debug⟩
  value x := by
    have hvalue : d'.value x = d.value x := by
      cases x with
      | prod c => rw [Diag.value, Diag.value, prod]
      | debug c => rw [Diag.value, Diag.value, debug]
    have hlt := d.value_lt x
    rw [hvalue, List.count_nil]
    omega

theorem Counted.refl {d : Diag} (h : d.Available) : Counted [] d d := .of_eq h rfl rfl

theorem toNat_satAdd (a b : UInt64) :
    (satAdd a b).toNat = min (a.toNat + b.toNat) (2 ^ 64 - 1) := by
  have ha := a.toNat_lt
  have hb := b.toNat_lt
  have hsum : (a + b).toNat = (a.toNat + b.toNat) % 2 ^ 64 := UInt64.toNat_add a b
  unfold satAdd
  split
  next h =>
    have hlt := UInt64.lt_iff_toNat_lt.mp h
    have hmax : (18446744073709551615 : UInt64).toNat = 2 ^ 64 - 1 := rfl
    omega
  next h =>
    have hle := UInt64.not_lt.mp h
    rw [UInt64.le_iff_toNat_le] at hle
    omega

theorem toNat_bump {F : Type} [DecidableEq F] (fields : List F) (c : F → UInt64) (f : F) :
    (bump fields c f).toNat = min ((c f).toNat + fields.count f) (2 ^ 64 - 1) := by
  induction fields generalizing c with
  | nil =>
      have hlt := (c f).toNat_lt
      rw [List.count_nil]
      change (c f).toNat = _
      omega
  | cons g fields ih =>
      change (bump fields (Function.update c g (satAdd (c g) 1)) f).toNat = _
      rw [ih, List.count_cons]
      by_cases h : g = f
      · subst h
        rw [Function.update_self, toNat_satAdd, if_pos (beq_self_eq_true g)]
        change min (min ((c g).toNat + 1) _ + _) _ = _
        omega
      · rw [Function.update_of_ne (Ne.symm h), if_neg (by simpa using h), Nat.add_zero]

section
variable (prod : List ProdCounter) (debug : List DebugCounter)

theorem count_counted_prod (c : ProdCounter) :
    (counted prod debug).count (.prod c) = prod.count c := by
  have hdebug : (debug.map Counter.debug).count (.prod c) = 0 := List.count_eq_zero.mpr (by simp)
  rw [counted, List.count_append, hdebug, Nat.add_zero]
  exact List.count_map_of_injective prod Counter.prod (fun _ _ => Counter.prod.inj) c

theorem count_counted_debug (c : DebugCounter) :
    (counted prod debug).count (.debug c) = debug.count c := by
  have hprod : (prod.map Counter.prod).count (.debug c) = 0 := List.count_eq_zero.mpr (by simp)
  rw [counted, List.count_append, hprod, Nat.zero_add]
  exact List.count_map_of_injective debug Counter.debug (fun _ _ => Counter.debug.inj) c

/-- The two writes of a `count_*` function, which takes the maps one by one. -/
theorem counted_both {d : Diag} (h : d.Available) :
    Counted (counted prod debug) d ((d.withProdCounters prod).withDebugCounters debug) := by
  obtain ⟨p, hp⟩ := Option.isSome_iff_exists.mp h.prod
  obtain ⟨q, hq⟩ := Option.isSome_iff_exists.mp h.debug
  have hprod : ((d.withProdCounters prod).withDebugCounters debug).prod = some (bump prod p) := by
    change d.prod.map (bump prod) = _
    rw [hp, Option.map_some]
  have hdebug : ((d.withProdCounters prod).withDebugCounters debug).debug =
      some (bump debug q) := by
    change d.debug.map (bump debug) = _
    rw [hq, Option.map_some]
  refine ⟨⟨by rw [hprod]; rfl, by rw [hdebug]; rfl⟩, fun x => ?_⟩
  cases x with
  | prod c =>
      rw [count_counted_prod, Diag.value, Diag.value, hprod, hp]
      exact toNat_bump prod p c
  | debug c =>
      rw [count_counted_debug, Diag.value, Diag.value, hdebug, hq]
      exact toNat_bump debug q c

theorem counted_withCounters {d : Diag} (h : d.Available) :
    Counted (counted prod debug) d (d.withCounters prod debug) := by
  have hboth : (d.prod.isSome && d.debug.isSome) = true := by rw [h.prod, h.debug]; rfl
  rw [Diag.withCounters, if_pos hboth]
  exact counted_both prod debug h

end

/-- The relations between the production counters. -/
structure ProdBalanced (n : ProdCounter → Nat) : Prop where
  destinations : n .pktsNat64Dst = n .unsupportedIpv6ExtensionHeaders +
    n .unsupportedIpv6NonTcpUdp + n .pktsNat64Tcp + n .pktsNat64Udp
  hits : n .fwdNatLookupHit = n .fwdNatRefreshOk
  misses : n .fwdNatLookupMiss = n .portAllocOk + n .portAllocErr
  allocations : n .portAllocOk = n .fwdNatInsertOk + n .fwdNatInsertErr
  exhausted : n .portAllocExhausted ≤ n .portAllocErr
  forwarded : n .nat64V6ToV4Ok + n .nat64V6ToV4UdpOk = n .fwdRedirectOk + n .fwdRedirectErr
  returned : n .nat64V4ToV6Ok + n .nat64V4ToV6UdpOk = n .revRedirectOk + n .revRedirectErr

/-- The counts leave `f` forward and `r` reverse invocations without an outcome. -/
structure Leaves (f r : Nat) (t : List Counter) : Prop where
  prod : ProdBalanced fun c => t.count (.prod c)
  fwd : t.count (.debug .dbgFwdEnter) =
    t.count (.debug .dbgFwdReturnOk) + t.count (.debug .dbgFwdReturnErr) + f
  rev : t.count (.debug .dbgRevEnter) =
    t.count (.debug .dbgRevReturnOk) + t.count (.debug .dbgRevReturnErr) + r

instance (n : ProdCounter → Nat) : Decidable (ProdBalanced n) :=
  decidable_of_iff (_ ∧ _ ∧ _ ∧ _ ∧ _ ∧ _ ∧ _)
    ⟨fun ⟨h₁, h₂, h₃, h₄, h₅, h₆, h₇⟩ => ⟨h₁, h₂, h₃, h₄, h₅, h₆, h₇⟩,
      fun h => ⟨h.destinations, h.hits, h.misses, h.allocations, h.exhausted, h.forwarded,
        h.returned⟩⟩

instance (f r : Nat) (t : List Counter) : Decidable (Leaves f r t) :=
  decidable_of_iff (_ ∧ _ ∧ _) ⟨fun ⟨h₁, h₂, h₃⟩ => ⟨h₁, h₂, h₃⟩, fun h => ⟨h.prod, h.fwd, h.rev⟩⟩

theorem ProdBalanced.add {n n' : ProdCounter → Nat} (h : ProdBalanced n) (h' : ProdBalanced n') :
    ProdBalanced fun c => n c + n' c where
  destinations := by have := h.destinations; have := h'.destinations; omega
  hits := by rw [h.hits, h'.hits]
  misses := by have := h.misses; have := h'.misses; omega
  allocations := by have := h.allocations; have := h'.allocations; omega
  exhausted := Nat.add_le_add h.exhausted h'.exhausted
  forwarded := by have := h.forwarded; have := h'.forwarded; omega
  returned := by have := h.returned; have := h'.returned; omega

theorem Leaves.append {f r f' r' : Nat} {t u : List Counter} (h : Leaves f r t)
    (h' : Leaves f' r' u) : Leaves (f + f') (r + r') (t ++ u) where
  prod := by
    simp only [List.count_append]
    exact h.prod.add h'.prod
  fwd := by
    have hfwd := h.fwd
    have hfwd' := h'.fwd
    simp only [List.count_append]
    omega
  rev := by
    have hrev := h.rev
    have hrev' := h'.rev
    simp only [List.count_append]
    omega

/-- Balanced counts in between change nothing. -/
theorem Leaves.insert {f r : Nat} {before t u : List Counter} (h : Leaves f r (before ++ t))
    (hu : Leaves 0 0 u) : Leaves f r (before ++ (u ++ t)) := by
  have hsum := h.append hu
  have hcount : ∀ c, (before ++ (u ++ t)).count c = (before ++ t ++ u).count c := by
    intro c
    simp only [List.count_append]
    omega
  exact ⟨by simp only [hcount]; exact hsum.prod, by simp only [hcount]; exact hsum.fwd,
    by simp only [hcount]; exact hsum.rev⟩

theorem Leaves.nil : Leaves 0 0 [] := by decide

/-- The update counts a list of counters that is balanced in itself. -/
def Settles (update : Diag → Diag) : Prop :=
  ∀ d, d.Available → ∃ t, Counted t d (update d) ∧ Leaves 0 0 t

theorem settles_withCounters {prod : List ProdCounter} {debug : List DebugCounter}
    (h : Leaves 0 0 (counted prod debug) := by decide) : Settles (Diag.withCounters prod debug) :=
  fun _ hd => ⟨_, counted_withCounters prod debug hd, h⟩

theorem settles_of_eq {update : Diag → Diag} (prod : ∀ d, (update d).prod = d.prod)
    (debug : ∀ d, (update d).debug = d.debug) : Settles update :=
  fun d hd => ⟨[], .of_eq hd (prod d) (debug d), .nil⟩

/-- The counters are as in `d` when the update begins. -/
theorem Settles.after {update : Diag → Diag} (h : Settles update) {d d' : Diag}
    (hd : d.Available) (prod : d'.prod = d.prod) (debug : d'.debug = d.debug) :
    ∃ t, Counted t d (update d') ∧ Leaves 0 0 t := by
  have kept := Counted.of_eq hd prod debug
  obtain ⟨t, ht, balanced⟩ := h d' kept.available
  exact ⟨[] ++ t, kept.trans ht, balanced⟩

/-- The counter of a destination class is in no balance. -/
theorem settles_classifyFwdDst (dst : Ipv6Octets) :
    Settles (Diag.withCounters [] [classifyFwdDst dst]) := by
  apply settles_withCounters
  unfold classifyFwdDst
  split_ifs <;> decide

theorem settles_recordFwdDstSample (dst : Ipv6Octets) : Settles (Diag.recordFwdDstSample dst) := by
  apply settles_of_eq
  all_goals
    intro d
    unfold Diag.recordFwdDstSample
    split <;> rfl

theorem settles_recordFwdTcpSample (dst6 : Ipv6Octets) (dst4 : List UInt8) (dst4Be src4Be : UInt32)
    (tcpSport tcpDport : UInt16) (natInsertOk adjustRoomOk : Bool) :
    Settles (Diag.recordFwdTcpSample dst6 dst4 dst4Be src4Be tcpSport tcpDport natInsertOk
      adjustRoomOk) := by
  apply settles_of_eq
  all_goals
    intro d
    unfold Diag.recordFwdTcpSample
    split <;> rfl

theorem settles_recordFwdTcpCsumSample (trace : FwdL4CsumTrace)
    (finalCheckBe oldSportBe newSportBe : UInt16) (srcV4 dstV4 : UInt32) :
    Settles (Diag.recordFwdTcpCsumSample trace finalCheckBe oldSportBe newSportBe srcV4 dstV4) := by
  have attempt : Settles (Diag.withCounters [] [.dbgFwdTcpCsumSampleAttempt]) :=
    settles_withCounters
  have failed : Settles (Diag.withCounters [] [.dbgFwdTcpCsumSampleErr]) :=
    settles_withCounters
  have recorded : Settles (Diag.withCounters [] [.dbgFwdTcpCsumSampleOk]) :=
    settles_withCounters
  intro d hd
  obtain ⟨t, ht, balanced⟩ := attempt d hd
  have rest : ∃ u, Counted u (d.withCounters [] [.dbgFwdTcpCsumSampleAttempt])
      (d.recordFwdTcpCsumSample trace finalCheckBe oldSportBe newSportBe srcV4 dstV4) ∧
        Leaves 0 0 u := by
    unfold Diag.recordFwdTcpCsumSample
    dsimp only
    split
    · exact failed _ ht.available
    · split
      · exact recorded.after ht.available rfl rfl
      · exact failed.after ht.available rfl rfl
  obtain ⟨u, hu, balanced'⟩ := rest
  exact ⟨t ++ u, ht.trans hu, balanced.append balanced'⟩

end Natto64
