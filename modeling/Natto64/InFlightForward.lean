import Natto64.ForwardSafety
import Natto64.InFlight

/-!
# Forward packets in flight

`nat64_forward` makes only permitted calls, whatever the maps hold when it makes them and
whichever of its calls fail, and a packet it translates leaves with a tuple of its client.
-/
namespace Natto64
open Octets

/-- The program makes only permitted calls. -/
def Guarded {α : Type} (k : Kernel) (cfg : Nat64Config) (task : Task)
    (post : α → TaskState → Prop) (p : Ebpf α) (l : TaskState) : Prop :=
  Interleaving.Safe (taskAnswer k) (TaskMay cfg task) (fun _ => TaskKnows cfg) post p l

section Rules
variable {α β : Type} {k : Kernel} {cfg : Nat64Config} {task : Task} {post : β → TaskState → Prop}
  {v : Invocation} {trail : Trail}

theorem Guarded.bind {post' : α → TaskState → Prop} {p : Ebpf α} {q : α → Ebpf β}
    {l : TaskState} (hp : Guarded k cfg task post' p l)
    (hq : ∀ a l', post' a l' → Guarded k cfg task post (q a) l') :
    Guarded k cfg task post (p >>= q) l :=
  Interleaving.Safe.bind (Interleaving.Safe.mono hq hp)

theorem TaskMay.of_passive {op : Op} (h : op.Passive) {l : TaskState} : TaskMay cfg task l op := by
  cases op <;> first | exact h.elim | trivial

theorem TaskMay.of_local {op : Op} (h : op.Local) {l : TaskState} (undone : l.stage.Open) :
    TaskMay cfg task l op := by
  cases op <;> first | exact h.elim | exact undone | trivial

/-- Passive calls may answer anything. -/
theorem guarded_passive {p : Ebpf α} (hp : p.Uses Op.Passive) {q : α → Ebpf β}
    (h : ∀ a v', v'.skb = v.skb → Guarded k cfg task post (q a) ⟨v', trail⟩) :
    Guarded k cfg task post (p >>= q) ⟨v, trail⟩ := by
  induction p generalizing v with
  | done a => exact h a v rfl
  | call op next ih =>
    refine ⟨.of_passive hp.1, fun s _ => ?_⟩
    obtain ⟨htrail, hskb⟩ := taskAnswer_passive k v trail s hp.1
    generalize taskAnswer k op ⟨v, trail⟩ s = z at htrail hskb ⊢
    obtain ⟨r, ⟨v', trail'⟩, s'⟩ := z
    obtain rfl : trail' = trail := htrail
    exact ih r (hp.2 r) fun a v'' hskb' => h a v'' (hskb'.trans hskb)

/-- A single passive call. -/
theorem guarded_call {op : Op} (hop : op.Passive) {q : op.Resp → Ebpf β}
    (h : ∀ a v', v'.skb = v.skb → Guarded k cfg task post (q a) ⟨v', trail⟩) :
    Guarded k cfg task post (CallTree.perform op >>= q) ⟨v, trail⟩ :=
  guarded_passive (p := CallTree.perform op) ⟨hop, fun _ => trivial⟩ h

theorem guarded_withCounters {prod : List ProdCounter} {debug : List DebugCounter}
    {q : Unit → Ebpf β}
    (h : ∀ v', v'.skb = v.skb → Guarded k cfg task post (q ()) ⟨v', trail⟩) :
    Guarded k cfg task post (withCounters prod debug >>= q) ⟨v, trail⟩ :=
  guarded_call (by trivial) fun _ => h

/-- A local program runs as it does alone, on whatever maps. -/
theorem guarded_local {p : Ebpf α} (hp : LocalCalls p) (undone : trail.Open) (s : Maps)
    {q : α → Ebpf β} (h : Guarded k cfg task post (q (k.exec p (v.machine s)).1)
      ⟨(k.exec p (v.machine s)).2.invocation, trail⟩) :
    Guarded k cfg task post (p >>= q) ⟨v, trail⟩ := by
  induction p generalizing v with
  | done a => exact h
  | call op next ih =>
    refine ⟨.of_local hp.1 undone, fun s' _ => ?_⟩
    rw [taskAnswer_local hp.1 v trail s s']
    have hstate : (k.answer op (v.machine s)).2 =
        (k.answer op (v.machine s)).2.invocation.machine s :=
      congrArg Prod.snd (answer_local hp.1 k v s s)
    apply ih _ (hp.2 _)
    rw [← hstate]
    exact h

/-- What is left of a program where its local part stopped. -/
def Proceeds (k : Kernel) (cfg : Nat64Config) (task : Task) (post : β → TaskState → Prop)
    (trail : Trail) (q : α → Ebpf β) (z : α × Machine) : Prop :=
  Guarded k cfg task post (q z.1) ⟨z.2.invocation, trail⟩

/-- The rules for a single run apply to the local parts. -/
theorem guarded_rule {p : Ebpf α} (hp : LocalCalls p) (undone : trail.Open) {q : α → Ebpf β}
    {m : Machine} (h : Proceeds k cfg task post trail q (k.exec (p >>= pure) m)) :
    Guarded k cfg task post (p >>= q) ⟨m.invocation, trail⟩ := by
  rw [bind_pure] at h
  exact guarded_local hp undone m.maps h

theorem proceeds_pure (a : α) {q : α → Ebpf β} (m : Machine) :
    Proceeds k cfg task post trail q (k.exec (pure a) m) =
      Guarded k cfg task post (q a) ⟨m.invocation, trail⟩ := rfl

theorem guarded_configGet {q : Option Nat64Config → Ebpf β}
    (h : Guarded k cfg task post (q (some cfg)) ⟨v, trail⟩) :
    Guarded k cfg task post (configGet >>= q) ⟨v, trail⟩ := by
  refine ⟨trivial, fun s hs => ?_⟩
  have htrail : trail.next .configGet s.config = trail := by cases trail <;> rfl
  change Guarded k cfg task post (q s.config) ⟨v, trail.next .configGet s.config⟩
  rw [htrail, hs.config]
  exact h

theorem guarded_fwdNatLookup {key : FwdNatKey} {q : Option TimedFwdNatVal → Ebpf β}
    (missed : Guarded k cfg task post (q none) ⟨v, trail⟩)
    (found : ∀ w, cfg.Grants key.vmV6 (sessions.addr key w) →
      Guarded k cfg task post (q (some w)) ⟨v, trail⟩) :
    Guarded k cfg task post (fwdNatLookup key >>= q) ⟨v, trail⟩ := by
  refine ⟨trivial, fun s hs => ?_⟩
  have htrail : trail.next (.fwdNatLookup key) (s.fwdNat key) = trail := by cases trail <;> rfl
  change Guarded k cfg task post (q (s.fwdNat key))
    ⟨v, trail.next (.fwdNatLookup key) (s.fwdNat key)⟩
  rw [htrail]
  cases hw : s.fwdNat key with
  | none => exact missed
  | some w => exact found w (hs.fwdNat key w hw)

theorem guarded_natLookup {t : NatKey} {q : Option NatVal → Ebpf β} (undone : trail.Open)
    (missed : Guarded k cfg task post (q none) ⟨v, trail⟩)
    (found : ∀ b, Guarded k cfg task post (q (some b)) ⟨v, .read t (b.flow t.proto)⟩) :
    Guarded k cfg task post (natLookup t >>= q) ⟨v, trail⟩ := by
  refine ⟨trivial, fun s _ => ?_⟩
  change Guarded k cfg task post (q (s.nat t)) ⟨v, trail.next (.natLookup t) (s.nat t)⟩
  cases s.nat t with
  | none =>
    have htrail : trail.next (.natLookup t) none = trail := by cases trail <;> rfl
    rw [htrail]
    exact missed
  | some b =>
    have htrail : trail.next (.natLookup t) (some b) = .read t (b.flow t.proto) := by
      cases trail <;> first | exact undone.elim | rfl
    rw [htrail]
    exact found b

theorem guarded_fwdNatInsert {key : FwdNatKey} {w : TimedFwdNatVal} {q : Bool → Ebpf β}
    (grants : cfg.Grants key.vmV6 (sessions.addr key w))
    (h : ∀ ok v', v'.skb = v.skb → Guarded k cfg task post (q ok) ⟨v', trail⟩) :
    Guarded k cfg task post (fwdNatInsert key w >>= q) ⟨v, trail⟩ := by
  refine ⟨grants, fun s _ => ?_⟩
  obtain ⟨v', hskb, hanswer⟩ := stagedAnswer_fwdNatInsert Trail.next k ⟨v, trail⟩ s key w
  have inserted : trail.next (.fwdNatInsert key w) true = trail := by cases trail <;> rfl
  have failed : trail.next (.fwdNatInsert key w) false = trail := by cases trail <;> rfl
  rw [taskAnswer, hanswer]
  split
  · change Guarded k cfg task post (q true) ⟨v', trail.next (.fwdNatInsert key w) true⟩
    rw [inserted]
    exact h true v' hskb
  · change Guarded k cfg task post (q false) ⟨v', trail.next (.fwdNatInsert key w) false⟩
    rw [failed]
    exact h false v' hskb

theorem guarded_natInsert {t : NatKey} {b : NatVal} {q : Bool → Ebpf β} (undone : trail.Open)
    (wrote : task.Wrote cfg v.skb t (b.flow t.proto))
    (h : ∀ ok v' trail', v'.skb = v.skb → Guarded k cfg task post (q ok) ⟨v', trail'⟩) :
    Guarded k cfg task post (natInsert t b >>= q) ⟨v, trail⟩ := by
  refine ⟨⟨undone, wrote⟩, fun s _ => ?_⟩
  obtain ⟨v', hskb, hanswer⟩ := stagedAnswer_natInsert Trail.next k ⟨v, trail⟩ s t b
  rw [taskAnswer, hanswer]
  split
  · exact h true v' _ hskb
  · exact h false v' _ hskb

end Rules

section Mapping
variable {k : Kernel} {cfg : Nat64Config} {task : Task} {key : FwdNatKey} {extV4 : UInt32}

/-- The frame is untouched, no reverse entry is written and a returned port is of the range. -/
def PortGranted (cfg : Nat64Config) (skb : List UInt8) (r : Option UInt16) (l : TaskState) : Prop :=
  l.skb = skb ∧ l.stage.Open ∧ ∀ port, r = some port → cfg.portMin ≤ port ∧ port ≤ cfg.portMax

theorem candidatePort_range (h : cfg.portMin < cfg.portMax) (cursor : UInt32) :
    cfg.portMin ≤ (candidatePort cfg cursor).toUInt16 ∧
      (candidatePort cfg cursor).toUInt16 ≤ cfg.portMax := by
  have hlt : cfg.portMin.toNat < cfg.portMax.toNat := UInt16.lt_iff_toNat_lt.mp h
  have hmax := cfg.portMax.toNat_lt
  have hval := candidatePort_toNat h cursor
  have hmod : cursor.toNat % (cfg.portMax.toNat - cfg.portMin.toNat + 1) <
      cfg.portMax.toNat - cfg.portMin.toNat + 1 := Nat.mod_lt _ (Nat.succ_pos _)
  have hport : (candidatePort cfg cursor).toUInt16.toNat = (candidatePort cfg cursor).toNat := by
    rw [UInt32.toNat_toUInt16]
    exact Nat.mod_eq_of_lt (by omega)
  constructor
  · exact UInt16.le_iff_toNat_le.mpr (by omega)
  · exact UInt16.le_iff_toNat_le.mpr (by omega)

/-- The port is found: it cools down and is returned. -/
theorem guarded_coolPort {post : Option UInt16 → TaskState → Prop} {port : UInt16}
    {v : Invocation} {trail : Trail} (h : ∀ v', v'.skb = v.skb → post (some port) ⟨v', trail⟩) :
    Guarded k cfg task post (do
      match (← portCooldown) with
      | some ring =>
          setPortCooldown (cooldownPush ring port)
          withCounters [] [.cooldownPushOk]
      | none => withCounters [] [.cooldownPushErr]
      return some port) ⟨v, trail⟩ := by
  refine guarded_call (by trivial) fun ring v₁ h₁ => ?_
  cases ring with
  | none => exact guarded_withCounters fun v₂ h₂ => h v₂ (h₂.trans h₁)
  | some ring =>
    refine guarded_call (by trivial) fun _ v₂ h₂ => ?_
    exact guarded_withCounters fun v₃ h₃ => h v₃ (h₃.trans (h₂.trans h₁))

theorem guarded_allocPortLoop (range : cfg.portMin < cfg.portMax) (proto : UInt8) (n : Nat)
    (cursor : UInt32) (hadCooldownSkip : Bool) (v : Invocation) (trail : Trail)
    (undone : trail.Open) :
    Guarded k cfg task (PortGranted cfg v.skb)
      (allocPortLoop cfg extV4 proto (portSpan cfg) n cursor hadCooldownSkip) ⟨v, trail⟩ := by
  induction n generalizing cursor hadCooldownSkip v trail with
  | zero =>
    unfold allocPortLoop
    refine guarded_call (by trivial) fun _ v₁ h₁ => ?_
    refine guarded_withCounters fun v₂ h₂ => ⟨h₂.trans h₁, undone, ?_⟩
    rintro port ⟨⟩
  | succ n ih =>
    have again : ∀ (skip : Bool) (v' : Invocation) (trail' : Trail), v'.skb = v.skb →
        trail'.Open → Guarded k cfg task (PortGranted cfg v.skb)
          (allocPortLoop cfg extV4 proto (portSpan cfg) n (cursor + 1) skip) ⟨v', trail'⟩ := by
      intro skip v' trail' hskb undone'
      rw [← hskb]
      exact ih (cursor + 1) skip v' trail' undone'
    unfold allocPortLoop
    refine guarded_withCounters fun v₁ h₁ => ?_
    refine guarded_call (by trivial) fun _ v₂ h₂ => ?_
    have h₂ := h₂.trans h₁
    split
    · exact again _ _ _ h₂ undone
    refine guarded_call (by trivial) fun ring v₃ h₃ => ?_
    have h₃ := h₃.trans h₂
    split
    · exact guarded_withCounters fun v₄ h₄ => again _ _ _ (h₄.trans h₃) undone
    have granted : ∀ v' : Invocation, v'.skb = v.skb →
        PortGranted cfg v.skb (some (candidatePort cfg (cursor + 1)).toUInt16) ⟨v', trail⟩ := by
      intro v' h'
      refine ⟨h', undone, ?_⟩
      rintro port ⟨⟩
      exact candidatePort_range range _
    refine guarded_natLookup undone ?_ fun b => ?_
    · cases hadCooldownSkip with
      | false => exact guarded_coolPort fun v₄ h₄ => granted v₄ (h₄.trans h₃)
      | true =>
        refine guarded_withCounters fun v₄ h₄ => guarded_coolPort fun v₅ h₅ => ?_
        exact granted v₅ (h₅.trans (h₄.trans h₃))
    · exact guarded_withCounters fun v₄ h₄ => again _ _ _ (h₄.trans h₃) trivial

theorem guarded_allocPort (proto : UInt8) (v : Invocation) (trail : Trail) (undone : trail.Open) :
    Guarded k cfg task (PortGranted cfg v.skb) (allocPort cfg extV4 proto) ⟨v, trail⟩ := by
  unfold allocPort
  by_cases range : cfg.portMin ≥ cfg.portMax
  · rw [if_pos range]
    exact ⟨rfl, undone, nofun⟩
  rw [if_neg range]
  refine guarded_call (by trivial) fun cursor v₁ h₁ => ?_
  cases cursor with
  | none => exact ⟨h₁, undone, nofun⟩
  | some cursor =>
    rw [← h₁]
    exact guarded_allocPortLoop (UInt16.not_le.mp range) proto 16 cursor false v₁ trail undone

theorem uses_armSessionTimer (key : FwdNatKey) : (armSessionTimer key).Uses Op.Passive := by
  have single : ∀ {op : Op}, op.Passive → (CallTree.perform op : Ebpf op.Resp).Uses Op.Passive :=
    fun h => ⟨h, fun _ => trivial⟩
  unfold armSessionTimer
  refine CallTree.Uses.bindOption (single trivial) trivial fun w => ?_
  refine CallTree.Uses.bindBool (single trivial) ?_ trivial
  refine CallTree.Uses.bindBool (single trivial) ?_ trivial
  exact CallTree.Uses.bind (single trivial) fun c => single trivial

/-- The frame is untouched, no reverse entry is written and a returned tuple is the client's. -/
def TupleGranted (cfg : Nat64Config) (key : FwdNatKey) (skb : List UInt8)
    (r : Option (UInt32 × UInt16 × UInt32)) (l : TaskState) : Prop :=
  l.skb = skb ∧ l.stage.Open ∧
    ∀ t, r = some t → cfg.Grants key.vmV6 (natKey t.1 t.2.1 key.proto)

theorem guarded_lookupOrCreateMapping {proto : UInt8} (hproto : key.proto = proto)
    (transport : key.proto = IPPROTO_TCP ∨ key.proto = IPPROTO_UDP)
    (pool : selectV4FromPoolEbpf key.vmV6 cfg = some extV4) (nowNs : UInt64) (v : Invocation)
    (trail : Trail) (undone : trail.Open) :
    Guarded k cfg task (TupleGranted cfg key v.skb)
      (lookupOrCreateMapping cfg key extV4 proto nowNs) ⟨v, trail⟩ := by
  subst hproto
  have refuse : ∀ {v' : Invocation} {trail' : Trail}, v'.skb = v.skb → trail'.Open →
      TupleGranted cfg key v.skb none ⟨v', trail'⟩ := fun hskb undone => ⟨hskb, undone, nofun⟩
  unfold lookupOrCreateMapping
  refine guarded_fwdNatLookup ?_ fun w grants => ?_
  swap
  · refine guarded_call (by trivial) fun _ v₁ h₁ => ?_
    refine guarded_call (by trivial) fun _ v₂ h₂ => ?_
    refine guarded_withCounters fun v₃ h₃ => ⟨h₃.trans (h₂.trans h₁), undone, ?_⟩
    rintro t ⟨⟩
    exact grants
  refine guarded_withCounters fun v₁ h₁ => ?_
  refine (guarded_allocPort key.proto v₁ trail undone).bind ?_
  rintro port ⟨v₂, trail₂⟩ ⟨h₂, undone₂, range⟩
  have h₂ : v₂.skb = v.skb := Eq.trans h₂ h₁
  cases port with
  | none => exact guarded_withCounters fun v₃ h₃ => refuse (h₃.trans h₂) undone₂
  | some port =>
    have grants : cfg.Grants key.vmV6 (natKey extV4 port key.proto) :=
      ⟨pool, (range port rfl).1, (range port rfl).2, transport⟩
    refine guarded_withCounters fun v₃ h₃ => ?_
    refine guarded_call (by trivial) fun generation v₄ h₄ => ?_
    have h₄ := h₄.trans (h₃.trans h₂)
    refine guarded_fwdNatInsert grants fun inserted v₅ h₅ => ?_
    have h₅ := h₅.trans h₄
    cases inserted with
    | false => exact guarded_withCounters fun v₆ h₆ => refuse (h₆.trans h₅) undone₂
    | true =>
      rw [if_neg (by decide)]
      have finish : ∀ (armed : Bool) (v' : Invocation), v'.skb = v.skb →
          Guarded k cfg task (TupleGranted cfg key v.skb) (do
            if !armed then
              let _ ← fwdNatRemove key
              withCounters [.fwdNatInsertErr] []
              return none
            withCounters [.fwdNatInsertOk] []
            return some (extV4, port, generation)) ⟨v', trail₂⟩ := by
        intro armed v' h'
        cases armed with
        | false =>
          refine guarded_call (by trivial) fun _ v₇ h₇ => ?_
          exact guarded_withCounters fun v₈ h₈ => refuse (h₈.trans (h₇.trans h')) undone₂
        | true =>
          refine guarded_withCounters fun v₇ h₇ => ⟨h₇.trans h', undone₂, ?_⟩
          rintro t ⟨⟩
          exact grants
      split
      · exact guarded_passive (uses_armSessionTimer key) fun armed v₆ h₆ =>
          finish armed v₆ (h₆.trans h₅)
      · exact finish true v₅ h₅

end Mapping

section Packet
variable {k : Kernel} {cfg : Nat64Config} {skb : List UInt8} {cpu : CpuMaps}

/-- A packet that is not handed back is rewritten with a tuple of its client. -/
def SentRewritten (cfg : Nat64Config) (skb : List UInt8) (action : TcAction) (l : TaskState) :
    Prop :=
  action ≠ .pipe → ∃ tuple, RewrittenAs cfg skb l.skb tuple (fwdKeyAt skb)

theorem sentRewritten_pipe {l : TaskState} : SentRewritten cfg skb .pipe l := (absurd rfl ·)

theorem uses_redirectToIface (ifindex : UInt32) (forward : Bool) :
    (redirectToIface ifindex forward).Uses Op.Passive := by
  have answer (action : TcAction) (update : Diag → Diag) :
      (do diag update; return action : Ebpf TcAction).Uses Op.Passive :=
    CallTree.Uses.bind (p := diag update) ⟨trivial, fun _ => trivial⟩ fun _ => trivial
  unfold redirectToIface
  split
  · exact answer _ _
  refine CallTree.Uses.bind (p := bpfRedirectNeigh ifindex) ⟨trivial, fun _ => trivial⟩
    fun action => ?_
  split
  · exact answer _ _
  · exact answer _ _

/-- A packet that starts its redirect is done. -/
theorem guarded_redirect {task : Task} {v : Invocation} {trail : Trail} {ifindex : UInt32}
    {tuple : NatKey} (rewritten : RewrittenAs cfg skb v.skb tuple (fwdKeyAt skb)) :
    Guarded k cfg task (fun r => SentRewritten cfg skb (verdict r))
      (do return .ok (← redirectToIface ifindex true)) ⟨v, trail⟩ := by
  refine guarded_passive (uses_redirectToIface ifindex true) fun action v₁ h₁ => ?_
  intro _
  refine ⟨tuple, ?_⟩
  change RewrittenAs cfg skb v₁.skb tuple _
  rw [h₁]
  exact rewritten

theorem guarded_forwardTcp {extV4 : UInt32} (tcp : u8At skb 20 = IPPROTO_TCP)
    (base : 54 ≤ skb.length)
    (admitted : (fwdL4LenAt skb).toNat ≤ MAX_L4_LEN → FwdAdmitted cfg skb extV4)
    {v : Invocation} (hskb : v.skb = skb) :
    Guarded k cfg (.forward skb cpu) (fun r => SentRewritten cfg skb (verdict r))
      (forwardTcp cfg (ipv6InfoAt 14 skb) (nat64EmbeddedV4Bytes (v6At skb 38))
        (nat64EmbeddedV4Be (v6At skb 38)) extV4) ⟨v, .fresh⟩ := by
  have hsrc : (ipv6InfoAt 14 skb).src = v6At skb 22 := rfl
  have hdst : (ipv6InfoAt 14 skb).dst = v6At skb 38 := rfl
  have hlen : (ipv6InfoAt 14 skb).payloadLen = fwdL4LenAt skb := by
    rw [fwdL4LenAt, if_pos tcp]
    rfl
  have hoff : ETH_HDR_LEN + IPV4_HDR_LEN = 34 := rfl
  have fresh : Trail.fresh.Open := trivial
  unfold forwardTcp
  refine guarded_withCounters fun v₀ h₀ => ?_
  obtain ⟨m, rfl⟩ : ∃ m : Machine, m.invocation = v₀ := ⟨v₀.machine noMaps, rfl⟩
  have h₀ : m.skb = skb := h₀.trans hskb
  simp only [hsrc, hdst, hlen, hoff]
  by_cases hmax : MAX_L4_LEN < (fwdL4LenAt skb).toNat
  · rw [if_pos hmax]
    exact guarded_withCounters fun _ _ => sentRewritten_pipe
  have lenMax := Nat.le_of_not_lt hmax
  have admitted := admitted lenMax
  rw [if_neg hmax]
  have hchange := changeProtoSkb_ip k.room (show 34 ≤ m.skb.length by rw [h₀]; omega)
  refine guarded_rule (local_changeProto _) fresh (changeProto_rule hchange
    (fun m₁ _ hskb₁ _ _ => ?_) (fun m₁ _ _ _ => ?_))
  swap
  · exact guarded_withCounters fun _ _ => sentRewritten_pipe
  rw [h₀] at hskb₁
  rw [proceeds_pure, if_neg (by decide)]
  refine guarded_local (local_withCounters _ _) fresh m₁.maps ?_
  refine guarded_rule (local_store _ _) fresh (etherType_rule base hskb₁
    (fun m₂ hskb₂ _ _ => ?_) (fun m₂ _ _ _ => ?_))
  swap
  · exact guarded_withCounters fun _ _ => sentRewritten_pipe
  have he : (ethHeader skb ETH_P_IP).length = 14 := length_ethHeader (by omega) _
  rw [proceeds_pure, if_neg (by decide)]
  refine guarded_rule (local_tcpPorts _) fresh ((reads_tcpPorts 34).rule
    (fun m₃ _ same₃ within => ?_) (fun m₃ _ _ _ => ?_))
  swap
  · exact guarded_withCounters fun _ _ => sentRewritten_pipe
  rw [proceeds_pure]
  dsimp only
  have proto : (fwdKeyAt skb).proto = IPPROTO_TCP := tcp
  refine guarded_call (by trivial) fun (nowNs : UInt64) v₃ h₃ => ?_
  have h₃ : v₃.skb = m₃.skb := h₃
  rw [fwdKeyAt_tcp (by omega) tcp hskb₂]
  refine (guarded_lookupOrCreateMapping proto admitted.proto admitted.pool nowNs v₃ .fresh
    fresh).bind ?_
  rintro r ⟨v₄, trail⟩ ⟨hskb₄, undone, granted⟩
  obtain ⟨m₄, rfl⟩ : ∃ m : Machine, m.invocation = v₄ := ⟨v₄.machine noMaps, rfl⟩
  have hskb₄ : m₄.skb = v₃.skb := hskb₄
  have undone : trail.Open := undone
  rcases r with _ | ⟨ext, port, gen⟩
  · exact guarded_withCounters fun _ _ => sentRewritten_pipe
  have grants := granted _ rfl
  have base₂ : 58 ≤ skb.length := by
    rw [hskb₂, List.length_append, he, List.length_drop] at within
    omega
  have hskb₄ : m₄.skb = ethHeader skb ETH_P_IP ++ skb.drop 34 := by
    rw [hskb₄, h₃, same₃.1, hskb₂]
  refine guarded_rule (local_writeIpv4Header _ _ _ _) undone (fwdHeader_rule base lenMax tcp hskb₄
    (fun m₅ hskb₅ _ _ => ?_) (fun m₅ _ _ _ => ?_))
  swap
  · exact guarded_withCounters fun _ _ => sentRewritten_pipe
  rw [proceeds_pure, if_neg (by decide)]
  refine guarded_local (local_withCounters _ _) undone m₅.maps ?_
  refine guarded_rule (local_store _ _) undone (fwdPort_rule (by omega) hskb₅
    (fun m₆ hskb₆ _ _ => ?_) (fun m₆ _ _ _ => ?_))
  swap
  · exact guarded_withCounters fun _ _ => sentRewritten_pipe
  rw [proceeds_pure, if_neg (by decide)]
  refine guarded_local (local_withCounters _ _) undone m₆.maps ?_
  rw [applyV6ToV4_tcp (by omega) tcp hskb₂]
  refine guarded_rule (local_applyL4Nat64ChecksumDeltaV6ToV4 _ _ _ _ _ _ _ _ _) undone
    (fwdChecksum_rule (by omega) hskb₆ (fun trace m₇ csum _ within hskb₇ _ _ => ?_)
      (fun m₇ _ _ _ _ => ?_))
  swap
  · exact guarded_withCounters fun _ _ => sentRewritten_pipe
  rw [proceeds_pure]
  dsimp only
  have rewritten : ∀ v' : Invocation, v'.skb = m₇.skb →
      RewrittenAs cfg skb v'.skb (natKey ext port (u8At skb 20)) (fwdKeyAt skb) :=
    fun v' h' => ⟨⟨extV4, admitted⟩, rfl, grants, rfl, within, csum, h'.trans hskb₇⟩
  rw [newForward_tcp (by omega) hskb₂, ← tcp]
  refine guarded_natInsert undone (rewritten _ rfl) fun inserted v₈ trail₈ h₈ => ?_
  have h₈ : v₈.skb = m₇.skb := h₈
  cases inserted with
  | false => exact guarded_withCounters fun _ _ => sentRewritten_pipe
  | true =>
    rw [if_neg (by decide)]
    refine guarded_withCounters fun v₉ h₉ => ?_
    refine guarded_call (by trivial) fun _ v₁₀ h₁₀ => ?_
    refine guarded_withCounters fun v₁₁ h₁₁ => ?_
    refine guarded_passive (uses_loadU16 (fun _ _ => trivial) _) fun check v₁₂ h₁₂ => ?_
    refine guarded_call (by trivial) fun _ v₁₃ h₁₃ => ?_
    exact guarded_redirect (rewritten v₁₃
      (h₁₃.trans (h₁₂.trans (h₁₁.trans (h₁₀.trans (h₉.trans h₈))))))

theorem guarded_forwardUdp {extV4 : UInt32} (udp : u8At skb 20 = IPPROTO_UDP)
    (base : 54 ≤ skb.length)
    (admitted : (fwdL4LenAt skb).toNat ≤ MAX_L4_LEN → 60 ≤ skb.length →
      UDP_HDR_LEN ≤ (fwdL4LenAt skb).toNat → FwdAdmitted cfg skb extV4)
    {v : Invocation} (hskb : v.skb = skb) :
    Guarded k cfg (.forward skb cpu) (fun r => SentRewritten cfg skb (verdict r))
      (forwardUdp cfg (ipv6InfoAt 14 skb) (nat64EmbeddedV4Be (v6At skb 38)) extV4)
      ⟨v, .fresh⟩ := by
  have hsrc : (ipv6InfoAt 14 skb).src = v6At skb 22 := rfl
  have hdst : (ipv6InfoAt 14 skb).dst = v6At skb 38 := rfl
  have hl4 : (ipv6InfoAt 14 skb).l4AbsOffset = 54 := rfl
  have hlen : fwdL4LenAt skb = be16At skb 58 := if_neg (by rw [udp]; decide)
  have hoff : ETH_HDR_LEN + IPV4_HDR_LEN = 34 := rfl
  have fresh : Trail.fresh.Open := trivial
  have refuse : ∀ (prod : List ProdCounter) (debug : List DebugCounter) (v : Invocation)
      (trail : Trail), Guarded k cfg (.forward skb cpu) (fun r => SentRewritten cfg skb (verdict r))
        (do
          withCounters prod debug
          withCounters [] [.dbgFwdReturnErr]
          return .ok .pipe) ⟨v, trail⟩ := fun _ _ _ _ =>
    guarded_withCounters fun _ _ => guarded_withCounters fun _ _ => sentRewritten_pipe
  unfold forwardUdp
  refine guarded_withCounters fun v₀ h₀ => ?_
  obtain ⟨m, rfl⟩ : ∃ m : Machine, m.invocation = v₀ := ⟨v₀.machine noMaps, rfl⟩
  have hskb : m.skb = skb := h₀.trans hskb
  simp only [hsrc, hdst, hl4, hoff]
  refine guarded_rule (local_udpPortsLen _) fresh ((reads_udpPortsLenCounting _ 54).rule
    (fun m₁ _ same₁ within => ?_) (fun m₁ _ _ _ => sentRewritten_pipe))
  rw [hskb] at within ⊢
  have within : 60 ≤ skb.length := within
  rw [proceeds_pure]
  dsimp only
  rw [← hlen]
  by_cases hmin : (fwdL4LenAt skb).toNat < UDP_HDR_LEN
  · rw [if_pos hmin]
    exact refuse _ _ _ _
  by_cases hmax : MAX_L4_LEN < (fwdL4LenAt skb).toNat
  · rw [if_neg hmin, if_pos hmax]
    exact refuse _ _ _ _
  have lenMax := Nat.le_of_not_lt hmax
  have admitted := admitted lenMax within (Nat.le_of_not_lt hmin)
  have hkey : fwdNatKey (v6At skb 22) (nat64EmbeddedV4Be (v6At skb 38)) (be16At skb 54)
      (be16At skb (54 + 2)) IPPROTO_UDP = fwdKeyAt skb := by
    rw [fwdKeyAt, udp]
  have proto : (fwdKeyAt skb).proto = IPPROTO_UDP := udp
  rw [if_neg hmin, if_neg hmax]
  refine guarded_call (by trivial) fun (nowNs : UInt64) v₁ h₁ => ?_
  have h₁ : v₁.skb = m₁.skb := h₁
  rw [hkey]
  refine (guarded_lookupOrCreateMapping proto admitted.proto admitted.pool nowNs v₁ .fresh
    fresh).bind ?_
  rintro r ⟨v₂, trail⟩ ⟨hskb₂, undone, granted⟩
  obtain ⟨m₂, rfl⟩ : ∃ m : Machine, m.invocation = v₂ := ⟨v₂.machine noMaps, rfl⟩
  have undone : trail.Open := undone
  have hskb₂ : m₂.skb = skb := Eq.trans hskb₂ (h₁.trans (same₁.1.trans hskb))
  rcases r with _ | ⟨ext, port, gen⟩
  · exact guarded_withCounters fun _ _ => sentRewritten_pipe
  have grants := granted _ rfl
  have hchange := changeProtoSkb_ip k.room (show 34 ≤ m₂.skb.length by rw [hskb₂]; omega)
  refine guarded_rule (local_changeProto _) undone (changeProto_rule hchange
    (fun m₃ _ hskb₃ _ _ => ?_) (fun m₃ _ _ _ => refuse _ _ _ _))
  rw [hskb₂] at hskb₃
  rw [proceeds_pure, if_neg (by decide)]
  refine guarded_local (local_withCounters _ _) undone m₃.maps ?_
  refine guarded_rule (local_store _ _) undone (etherType_rule base hskb₃
    (fun m₄ hskb₄ _ _ => ?_) (fun m₄ _ _ _ => refuse _ _ _ _))
  rw [proceeds_pure, if_neg (by decide)]
  refine guarded_rule (local_writeIpv4Header _ _ _ _) undone (fwdHeader_rule base lenMax udp hskb₄
    (fun m₅ hskb₅ _ _ => ?_) (fun m₅ _ _ _ => refuse _ _ _ _))
  rw [proceeds_pure, if_neg (by decide)]
  refine guarded_local (local_withCounters _ _) undone m₅.maps ?_
  refine guarded_rule (local_store _ _) undone (fwdPort_rule (by omega) hskb₅
    (fun m₆ hskb₆ _ _ => ?_) (fun m₆ _ _ _ => refuse _ _ _ _))
  have hcsum : applyL4Nat64ChecksumDeltaV6ToV4 (34 + 6) (fwdL4LenAt skb) IPPROTO_UDP
      (v6At skb 22) (v6At skb 38) ext (nat64EmbeddedV4Be (v6At skb 38))
      (some (be16At skb 54, port)) true =
    applyL4Nat64ChecksumDeltaV6ToV4 (34 + csumFieldOff (u8At skb 20)) (fwdL4LenAt skb)
      (u8At skb 20) (v6At skb 22) (v6At skb 38) ext (nat64EmbeddedV4Be (v6At skb 38))
      (some (be16At skb 54, port)) (u8At skb 20 == IPPROTO_UDP) := by
    rw [udp]
    rfl
  rw [proceeds_pure, if_neg (by decide), hcsum]
  refine guarded_rule (local_applyL4Nat64ChecksumDeltaV6ToV4 _ _ _ _ _ _ _ _ _) undone
    (fwdChecksum_rule (by omega) hskb₆ (fun trace m₇ csum _ within hskb₇ _ _ => ?_)
      (fun m₇ _ _ _ _ => refuse _ _ _ _))
  rw [proceeds_pure]
  dsimp only
  have rewritten : ∀ v' : Invocation, v'.skb = m₇.skb →
      RewrittenAs cfg skb v'.skb (natKey ext port (u8At skb 20)) (fwdKeyAt skb) :=
    fun v' h' => ⟨⟨extV4, admitted⟩, rfl, grants, rfl, within, csum, h'.trans hskb₇⟩
  rw [← udp]
  refine guarded_natInsert undone (rewritten _ rfl) fun inserted v₈ trail₈ h₈ => ?_
  have h₈ : v₈.skb = m₇.skb := h₈
  cases inserted with
  | false =>
    refine guarded_withCounters fun v₉ h₉ => guarded_withCounters fun v₁₀ h₁₀ => ?_
    exact guarded_redirect (rewritten v₁₀ (h₁₀.trans (h₉.trans h₈)))
  | true =>
    refine guarded_withCounters fun v₉ h₉ => guarded_withCounters fun v₁₀ h₁₀ => ?_
    exact guarded_redirect (rewritten v₁₀ (h₁₀.trans (h₉.trans h₈)))

/-- The packet parses as one to translate, and its client owns an external address. -/
theorem guarded_tryNat64Forward {v : Invocation} (hskb : v.skb = skb) :
    Guarded k cfg (.forward skb cpu) (fun r => SentRewritten cfg skb (verdict r)) tryNat64Forward
      ⟨v, .fresh⟩ := by
  have fresh : Trail.fresh.Open := trivial
  unfold tryNat64Forward
  refine guarded_withCounters fun v₀ h₀ => ?_
  obtain ⟨m, rfl⟩ : ∃ m : Machine, m.invocation = v₀ := ⟨v₀.machine noMaps, rfl⟩
  have h₀ : m.skb = skb := h₀.trans hskb
  refine guarded_rule (local_loadU16 12) fresh ((Reads.loadU16 12).rule
    (fun m₁ _ same₁ within => ?_) (fun m₁ _ _ _ => sentRewritten_pipe))
  rw [proceeds_pure]
  dsimp only
  rw [swap16_loaded within, h₀]
  by_cases etherType : be16At skb 12 = ETH_P_IPV6
  swap
  · rw [if_pos etherType]
    exact guarded_withCounters fun _ _ => sentRewritten_pipe
  rw [if_neg (not_not.mpr etherType)]
  refine guarded_withCounters fun v₂ h₂ => ?_
  obtain ⟨m₂, rfl⟩ : ∃ m : Machine, m.invocation = v₂ := ⟨v₂.machine noMaps, rfl⟩
  have h₂ : m₂.skb = skb := Eq.trans h₂ (same₁.1.trans h₀)
  refine guarded_rule (local_parseIpv6Base _) fresh ((reads_parseIpv6Base ETH_HDR_LEN).rule
    (fun m₃ _ same₃ base => ?_) (fun m₃ _ _ _ => sentRewritten_pipe))
  rw [h₂] at base ⊢
  have h₃ : m₃.skb = skb := same₃.1.trans h₂
  have base : 54 ≤ skb.length := base
  have hdst : (ipv6InfoAt ETH_HDR_LEN skb).dst = v6At skb 38 := rfl
  have hnext : (ipv6InfoAt ETH_HDR_LEN skb).nextHeader = u8At skb 20 := rfl
  have hsrc : (ipv6InfoAt ETH_HDR_LEN skb).src = v6At skb 22 := rfl
  rw [proceeds_pure]
  dsimp only
  rw [hdst, hnext, hsrc]
  refine guarded_withCounters fun v₄ h₄ => ?_
  refine guarded_withCounters fun v₅ h₅ => ?_
  refine guarded_call (by trivial) fun _ v₆ h₆ => ?_
  refine guarded_withCounters fun v₇ h₇ => guarded_configGet ?_
  have h₇ : v₇.skb = skb := h₇.trans (h₆.trans (h₅.trans (Eq.trans h₄ h₃)))
  rw [Option.getD_some]
  by_cases prefix96 : (v6At skb 38).toList.take 12 = cfg.prefix96.toList
  swap
  · rw [if_pos prefix96]
    exact guarded_withCounters fun _ _ => sentRewritten_pipe
  rw [if_neg (not_not.mpr prefix96)]
  refine guarded_withCounters fun v₈ h₈ => ?_
  have h₈ : v₈.skb = skb := h₈.trans h₇
  by_cases extension : isExtensionHeader (u8At skb 20) = true
  · rw [if_pos extension]
    exact guarded_withCounters fun _ _ => sentRewritten_pipe
  rw [if_neg extension]
  by_cases other : u8At skb 20 ≠ IPPROTO_TCP ∧ u8At skb 20 ≠ IPPROTO_UDP
  · rw [if_pos other]
    exact guarded_withCounters fun _ _ => sentRewritten_pipe
  rw [if_neg other]
  cases pool : selectV4FromPoolEbpf (v6At skb 22) cfg with
  | none => exact sentRewritten_pipe
  | some extV4 =>
    dsimp only
    by_cases tcp : u8At skb 20 = IPPROTO_TCP
    · rw [if_pos tcp]
      exact guarded_forwardTcp tcp base (fun lenMax => ⟨base, etherType, prefix96, .inl tcp, pool,
        lenMax, fun udp => absurd (tcp.symm.trans udp) (by decide)⟩) h₈
    · have udp : u8At skb 20 = IPPROTO_UDP := not_not.mp fun udp => other ⟨tcp, udp⟩
      rw [if_neg tcp]
      exact guarded_forwardUdp udp base (fun lenMax within len => ⟨base, etherType, prefix96,
        .inr udp, pool, lenMax, fun _ => ⟨within, len⟩⟩) h₈

/-- Whatever the other tasks do to the maps between its calls. -/
theorem guarded_nat64Forward :
    Guarded k cfg (.forward skb cpu) (SentRewritten cfg skb) nat64Forward
      ⟨(Task.forward skb cpu).invocation, .fresh⟩ := by
  unfold nat64Forward
  have hskb : (Task.forward skb cpu).invocation.skb = skb := rfl
  refine (guarded_tryNat64Forward hskb).bind ?_
  intro r l h
  cases r with
  | ok ret => exact h
  | error ret => exact h

end Packet

end Natto64
