import Mathlib.Logic.Function.Basic
import Mathlib.Tactic.Common

/-!
# Two indexes of one set of sessions

A map from keys to sessions and a map from the addresses of the sessions to records
of them. `Covered` says that every session is recorded at its address, `Mirror` that
nothing else is.
-/
universe u v

/-- Where a session is recorded, and whether a record is its. A record tells the key. -/
structure Pairing (K A L B : Type*) where
  addr : K → A → L
  Agrees : K → A → B → Prop
  inj : ∀ {k k' a a' b}, addr k a = addr k' a' → Agrees k a b → Agrees k' a' b → k = k'

namespace Pairing

variable {K A L B : Type*} (P : Pairing K A L B) {f : K → Option A} {g : L → Option B}

def Covered (f : K → Option A) (g : L → Option B) : Prop :=
  ∀ k a, f k = some a → ∃ b, g (P.addr k a) = some b ∧ P.Agrees k a b

/-- Every record is the record of a session. -/
def Backed (f : K → Option A) (g : L → Option B) : Prop :=
  ∀ l b, g l = some b → ∃ k a, f k = some a ∧ P.addr k a = l ∧ P.Agrees k a b

def Mirror (f : K → Option A) (g : L → Option B) : Prop := P.Covered f g ∧ P.Backed f g

theorem mirror_empty : P.Mirror (fun _ => none) (fun _ => none) :=
  ⟨fun _ _ h => absurd h (Option.some_ne_none _).symm,
    fun _ _ h => absurd h (Option.some_ne_none _).symm⟩

variable {P}

/-- No two sessions share an address. -/
theorem Covered.addr_inj (h : P.Covered f g) {k k' : K} {a a' : A} (hk : f k = some a)
    (hk' : f k' = some a') (haddr : P.addr k a = P.addr k' a') : k = k' := by
  obtain ⟨b, hb, hab⟩ := h k a hk
  obtain ⟨b', hb', hab'⟩ := h k' a' hk'
  rw [haddr, hb'] at hb
  obtain rfl := Option.some.inj hb
  exact P.inj haddr hab hab'

/-- The session of a record is the only one. -/
theorem Mirror.existsUnique (h : P.Mirror f g) {l : L} {b : B} (hb : g l = some b) :
    ∃! k, ∃ a, f k = some a ∧ P.addr k a = l ∧ P.Agrees k a b := by
  obtain ⟨k, a, hk, haddr, hab⟩ := h.2 l b hb
  refine ⟨k, ⟨a, hk, haddr, hab⟩, ?_⟩
  rintro k' ⟨a', hk', haddr', -⟩
  exact h.1.addr_inj hk' hk (haddr'.trans haddr.symm)

section Sessions
variable [DecidableEq K] {k : K} {a a' : A}

/-- The session changes in ways its record does not show. -/
theorem Covered.touch (h : P.Covered f g) (hk : f k = some a) (haddr : P.addr k a' = P.addr k a)
    (hagree : ∀ b, P.Agrees k a b → P.Agrees k a' b) :
    P.Covered (Function.update f k (some a')) g := by
  intro k₁ a₁ h₁
  by_cases hkk : k₁ = k
  · subst hkk
    rw [Function.update_self] at h₁
    obtain rfl := Option.some.inj h₁
    obtain ⟨b, hb, hab⟩ := h k₁ a hk
    exact ⟨b, by rw [haddr, hb], hagree b hab⟩
  · rw [Function.update_of_ne hkk] at h₁
    exact h k₁ a₁ h₁

theorem Backed.touch (h : P.Backed f g) (hk : f k = some a) (haddr : P.addr k a' = P.addr k a)
    (hagree : ∀ b, P.Agrees k a b → P.Agrees k a' b) :
    P.Backed (Function.update f k (some a')) g := by
  intro l b hb
  obtain ⟨k₁, a₁, h₁, haddr₁, hab₁⟩ := h l b hb
  by_cases hkk : k₁ = k
  · subst hkk
    rw [hk] at h₁
    obtain rfl := Option.some.inj h₁
    exact ⟨k₁, a', Function.update_self .., haddr.trans haddr₁, hagree b hab₁⟩
  · exact ⟨k₁, a₁, (Function.update_of_ne hkk _ _).trans h₁, haddr₁, hab₁⟩

/-- A session goes; whether its record goes too does not matter to the others. -/
theorem Covered.erase (h : P.Covered f g) : P.Covered (Function.update f k none) g := by
  intro k₁ a₁ h₁
  by_cases hkk : k₁ = k
  · subst hkk
    rw [Function.update_self] at h₁
    cases h₁
  · rw [Function.update_of_ne hkk] at h₁
    exact h k₁ a₁ h₁

/-- A session is opened, and not recorded yet. -/
theorem Backed.admit (h : P.Backed f g) (new : f k = none) :
    P.Backed (Function.update f k (some a)) g := by
  intro l b hb
  obtain ⟨k₁, a₁, h₁, haddr₁, hab₁⟩ := h l b hb
  have hkk : k₁ ≠ k := by
    rintro rfl
    rw [new] at h₁
    cases h₁
  exact ⟨k₁, a₁, (Function.update_of_ne hkk _ _).trans h₁, haddr₁, hab₁⟩

/-- A session goes that has no record. -/
theorem Backed.erase (h : P.Backed f g)
    (bare : ∀ a b, f k = some a → g (P.addr k a) = some b → ¬ P.Agrees k a b) :
    P.Backed (Function.update f k none) g := by
  intro l b hb
  obtain ⟨k₁, a₁, h₁, haddr₁, hab₁⟩ := h l b hb
  have hkk : k₁ ≠ k := by
    rintro rfl
    rw [← haddr₁] at hb
    exact bare a₁ b h₁ hb hab₁
  exact ⟨k₁, a₁, (Function.update_of_ne hkk _ _).trans h₁, haddr₁, hab₁⟩

end Sessions

section Records
variable [DecidableEq L] {k : K} {a : A} {b : B}

/-- The record of a session is replaced by another of the same session. -/
theorem Covered.record (h : P.Covered f g) (hk : f k = some a) (hab : P.Agrees k a b) :
    P.Covered f (Function.update g (P.addr k a) (some b)) := by
  intro k₁ a₁ h₁
  by_cases haddr : P.addr k₁ a₁ = P.addr k a
  · have hkk := h.addr_inj h₁ hk haddr
    subst hkk
    rw [hk] at h₁
    obtain rfl := Option.some.inj h₁
    exact ⟨b, Function.update_self .., hab⟩
  · rw [Function.update_of_ne haddr]
    exact h k₁ a₁ h₁

theorem Backed.record (h : P.Backed f g) (hk : f k = some a) (hab : P.Agrees k a b) :
    P.Backed f (Function.update g (P.addr k a) (some b)) := by
  intro l b₁ hb
  by_cases hl : l = P.addr k a
  · subst hl
    rw [Function.update_self] at hb
    obtain rfl := Option.some.inj hb
    exact ⟨k, a, hk, rfl, hab⟩
  · rw [Function.update_of_ne hl] at hb
    exact h l b₁ hb

theorem Backed.forget (h : P.Backed f g) {l : L} : P.Backed f (Function.update g l none) := by
  intro l₁ b₁ hb
  by_cases hl : l₁ = l
  · subst hl
    rw [Function.update_self] at hb
    cases hb
  · rw [Function.update_of_ne hl] at hb
    exact h l₁ b₁ hb

end Records

section Both
variable [DecidableEq K] [DecidableEq L] {k : K} {a : A} {b : B}

/-- A new session is recorded at an address nothing is recorded at. -/
theorem Covered.insert (h : P.Covered f g) (fresh : g (P.addr k a) = none)
    (hab : P.Agrees k a b) :
    P.Covered (Function.update f k (some a)) (Function.update g (P.addr k a) (some b)) := by
  intro k₁ a₁ h₁
  by_cases hkk : k₁ = k
  · subst hkk
    rw [Function.update_self] at h₁
    obtain rfl := Option.some.inj h₁
    exact ⟨b, Function.update_self .., hab⟩
  · rw [Function.update_of_ne hkk] at h₁
    obtain ⟨b₁, hb₁, hab₁⟩ := h k₁ a₁ h₁
    have haddr : P.addr k₁ a₁ ≠ P.addr k a := by
      intro haddr
      rw [haddr, fresh] at hb₁
      cases hb₁
    exact ⟨b₁, (Function.update_of_ne haddr _ _).trans hb₁, hab₁⟩

theorem Backed.insert (h : P.Backed f g) (new : f k = none) (hab : P.Agrees k a b) :
    P.Backed (Function.update f k (some a)) (Function.update g (P.addr k a) (some b)) := by
  intro l b₁ hb
  by_cases hl : l = P.addr k a
  · subst hl
    rw [Function.update_self] at hb
    obtain rfl := Option.some.inj hb
    exact ⟨k, a, Function.update_self .., rfl, hab⟩
  · rw [Function.update_of_ne hl] at hb
    obtain ⟨k₁, a₁, h₁, haddr₁, hab₁⟩ := h l b₁ hb
    have hkk : k₁ ≠ k := by
      rintro rfl
      rw [new] at h₁
      cases h₁
    exact ⟨k₁, a₁, (Function.update_of_ne hkk _ _).trans h₁, haddr₁, hab₁⟩

theorem Covered.remove (h : P.Covered f g) (hk : f k = some a) :
    P.Covered (Function.update f k none) (Function.update g (P.addr k a) none) := by
  intro k₁ a₁ h₁
  by_cases hkk : k₁ = k
  · subst hkk
    rw [Function.update_self] at h₁
    cases h₁
  · rw [Function.update_of_ne hkk] at h₁
    have haddr : P.addr k₁ a₁ ≠ P.addr k a := fun haddr => hkk (h.addr_inj h₁ hk haddr)
    rw [Function.update_of_ne haddr]
    exact h k₁ a₁ h₁

theorem Mirror.remove (h : P.Mirror f g) (hk : f k = some a) :
    P.Mirror (Function.update f k none) (Function.update g (P.addr k a) none) := by
  refine ⟨h.1.remove hk, ?_⟩
  intro l b hb
  by_cases hl : l = P.addr k a
  · subst hl
    rw [Function.update_self] at hb
    cases hb
  · rw [Function.update_of_ne hl] at hb
    obtain ⟨k₁, a₁, h₁, haddr₁, hab₁⟩ := h.2 l b hb
    have hkk : k₁ ≠ k := by
      rintro rfl
      rw [hk] at h₁
      obtain rfl := Option.some.inj h₁
      exact hl haddr₁.symm
    exact ⟨k₁, a₁, (Function.update_of_ne hkk _ _).trans h₁, haddr₁, hab₁⟩

end Both

/-- Records change in ways no session shows. -/
theorem Covered.refresh (h : P.Covered f g) {g' : L → Option B}
    (hg : ∀ l b, g l = some b → ∃ b', g' l = some b' ∧ ∀ k a, P.Agrees k a b → P.Agrees k a b') :
    P.Covered f g' := by
  intro k a hk
  obtain ⟨b, hb, hab⟩ := h k a hk
  obtain ⟨b', hb', hagree⟩ := hg _ b hb
  exact ⟨b', hb', hagree k a hab⟩

theorem Backed.refresh (h : P.Backed f g) {g' : L → Option B}
    (hg : ∀ l b', g' l = some b' → ∃ b, g l = some b ∧ ∀ k a, P.Agrees k a b → P.Agrees k a b') :
    P.Backed f g' := by
  intro l b' hb'
  obtain ⟨b, hb, hagree⟩ := hg l b' hb'
  obtain ⟨k, a, hk, haddr, hab⟩ := h l b hb
  exact ⟨k, a, hk, haddr, hagree k a hab⟩

end Pairing
