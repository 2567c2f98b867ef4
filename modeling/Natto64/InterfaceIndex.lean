import Mathlib.Data.List.TakeWhile
import Natto64.Lifecycle

/-!
# Reading an interface index

Which contents of an `ifindex` file are read as which index: a decimal numeral, with at most
one plus sign, between white space. What the kernel writes there is read back.
-/
namespace Natto64.Userspace

/-- A numeral of `n`. -/
def Spells (cs : List Char) (n : Nat) : Prop :=
  ∃ ds, (cs = ds ∨ cs = '+' :: ds) ∧ ds ≠ [] ∧ (∀ c ∈ ds, c.isDigit = true) ∧
    Nat.ofDigitChars 10 ds 0 = n

theorem le_ofDigitChars (cs : List Char) (n : Nat) : n ≤ Nat.ofDigitChars 10 cs n := by
  induction cs generalizing n with
  | nil => rw [Nat.ofDigitChars_nil]
  | cons c cs ih =>
      rw [Nat.ofDigitChars_cons]
      exact le_trans (by omega) (ih _)

theorem parseDigits_ok_iff {cs : List Char} {n : Nat} {v : UInt32} (h : n < 2 ^ 32) :
    parseDigits n cs = .ok v ↔
      (∀ c ∈ cs, c.isDigit = true) ∧ Nat.ofDigitChars 10 cs n = v.toNat := by
  induction cs generalizing n with
  | nil =>
      rw [parseDigits, Except.ok.injEq, Nat.ofDigitChars_nil, ← UInt32.toNat_inj,
        UInt32.toNat_ofNat', Nat.mod_eq_of_lt h]
      simp
  | cons c cs ih =>
      rw [parseDigits, Nat.ofDigitChars_cons, List.forall_mem_cons]
      by_cases digit : c.isDigit = true
      · rw [if_pos digit]
        by_cases small : 10 * n + (c.toNat - '0'.toNat) < 4294967296
        · rw [if_pos small, ih small]
          simp [digit]
        · rw [if_neg small]
          refine iff_of_false nofun ?_
          rintro ⟨-, value⟩
          have hle := le_ofDigitChars cs (10 * n + (c.toNat - '0'.toNat))
          have hlt := v.toNat_lt
          omega
      · rw [if_neg digit]
        exact iff_of_false nofun fun spelled => digit spelled.1.1

theorem parseU32_ok_iff {cs : List Char} {v : UInt32} :
    parseU32 cs = .ok v ↔ Spells cs v.toNat := by
  have zero : 0 < 2 ^ 32 := Nat.two_pow_pos 32
  constructor
  · intro h
    unfold parseU32 at h
    split at h
    · cases h
    · cases h
    · cases h
    next ds alone =>
      obtain ⟨digits, value⟩ := (parseDigits_ok_iff zero).mp h
      exact ⟨ds, .inr rfl, fun empty => alone (by rw [empty]), digits, value⟩
    next nonempty _ _ _ =>
      obtain ⟨digits, value⟩ := (parseDigits_ok_iff zero).mp h
      exact ⟨cs, .inl rfl, nonempty, digits, value⟩
  · rintro ⟨ds, spelled, nonempty, digits, value⟩
    have parsed : parseDigits 0 ds = .ok v := (parseDigits_ok_iff zero).mpr ⟨digits, value⟩
    have first (c : Char) (cs : List Char) (h : ds = c :: cs) : c.isDigit = true :=
      digits c (h ▸ List.mem_cons_self)
    rcases spelled with rfl | rfl
    · unfold parseU32
      split
      · exact absurd rfl nonempty
      · exact absurd (first '+' [] rfl) (by decide)
      · exact absurd (first '-' [] rfl) (by decide)
      next cs _ => exact absurd (first '+' cs rfl) (by decide)
      · exact parsed
    · cases ds with
      | nil => exact absurd rfl nonempty
      | cons d ds => exact parsed

theorem Spells.ne_nil {cs : List Char} {n : Nat} (h : Spells cs n) : cs ≠ [] := by
  obtain ⟨ds, rfl | rfl, nonempty, -⟩ := h
  · exact nonempty
  · exact List.cons_ne_nil _ _

/-- No white space in a numeral. -/
theorem Spells.not_isWhitespace {cs : List Char} {n : Nat} (h : Spells cs n) :
    ∀ c ∈ cs, isWhitespace c = false := by
  have digit (c : Char) (hc : c.isDigit = true) : isWhitespace c = false := by
    have hle : 48 ≤ c.toNat ∧ c.toNat ≤ 57 := by
      simp only [Char.isDigit, Bool.and_eq_true, decide_eq_true_eq, ge_iff_le,
        UInt32.le_iff_toNat_le] at hc
      exact hc
    unfold isWhitespace
    generalize c.toNat = n at hle
    simp only [Bool.or_eq_false_iff, Bool.and_eq_false_iff, decide_eq_false_iff_not,
      beq_eq_false_iff_ne]
    omega
  obtain ⟨ds, rfl | rfl, -, digits, -⟩ := h
  · exact fun c hc => digit c (digits c hc)
  · rw [List.forall_mem_cons]
    exact ⟨by decide, fun c hc => digit c (digits c hc)⟩

theorem trim_spec (s : List Char) : ∃ before after, s = before ++ trim s ++ after ∧
    (∀ c ∈ before, isWhitespace c = true) ∧ ∀ c ∈ after, isWhitespace c = true := by
  refine ⟨s.takeWhile isWhitespace,
    ((s.dropWhile isWhitespace).reverse.takeWhile isWhitespace).reverse, ?_, ?_, ?_⟩
  · rw [trim, List.append_assoc, ← List.reverse_append, List.takeWhile_append_dropWhile,
      List.reverse_reverse, List.takeWhile_append_dropWhile]
  · exact fun c hc => List.mem_takeWhile_imp hc
  · intro c hc
    exact List.mem_takeWhile_imp (List.mem_reverse.mp hc)

theorem dropWhile_core {p : Char → Bool} {before core : List Char}
    (hbefore : ∀ c ∈ before, p c = true) (hcore : ∀ c ∈ core, p c = false) (after : List Char)
    (nonempty : core ≠ []) : (before ++ (core ++ after)).dropWhile p = core ++ after := by
  rw [List.dropWhile_append_of_pos hbefore]
  cases core with
  | nil => exact absurd rfl nonempty
  | cons c core => exact List.dropWhile_cons_of_neg (by simp [hcore c List.mem_cons_self])

theorem trim_core {before core after : List Char} (nonempty : core ≠ [])
    (hbefore : ∀ c ∈ before, isWhitespace c = true)
    (hcore : ∀ c ∈ core, isWhitespace c = false)
    (hafter : ∀ c ∈ after, isWhitespace c = true) : trim (before ++ core ++ after) = core := by
  have hback : (after.reverse ++ (core.reverse ++ [])).dropWhile isWhitespace =
      core.reverse ++ [] :=
    dropWhile_core (by simpa using hafter) (by simpa using hcore) [] (by simpa using nonempty)
  rw [trim, List.append_assoc, dropWhile_core hbefore hcore after nonempty, List.reverse_append]
  rw [List.append_nil] at hback
  rw [hback, List.reverse_reverse]

/-- A name that `interface_index` looks up. -/
def ValidInterfaceName (interface : String) : Prop :=
  interface ≠ "" ∧ '/' ∉ interface.toList ∧ interface ≠ "." ∧ interface ≠ ".."

instance (interface : String) : Decidable (ValidInterfaceName interface) :=
  inferInstanceAs (Decidable (_ ∧ _))

theorem interfaceIndex_ok_iff {ε : Type} {interface value : String} {n : UInt32} :
    interfaceIndex interface (.ok value : Except ε String) = .ok n ↔
      ValidInterfaceName interface ∧ Spells (trim value.toList) n.toNat := by
  rw [interfaceIndex, ValidInterfaceName]
  split
  next invalid =>
    refine iff_of_false nofun fun valid => ?_
    obtain ⟨named, noSlash, noDot, noDots⟩ := valid.1
    exact invalid.elim named (Or.elim · noSlash (Or.elim · noDot noDots))
  next valid =>
    simp only [not_or] at valid
    rw [and_iff_right valid, ← parseU32_ok_iff]
    cases parseU32 (trim value.toList) with
    | error e => exact iff_of_false nofun nofun
    | ok v => simp [Except.mapError]

/-- An index is read exactly from a numeral of it between white space, under a name that can
be a file name; and what the kernel writes is read as what it meant. -/
theorem interface_index_reads {ε : Type} :
    (∀ (interface value : String) (n : UInt32),
      interfaceIndex interface (.ok value : Except ε String) = .ok n ↔
        ValidInterfaceName interface ∧ ∃ before numeral after,
          value.toList = before ++ numeral ++ after ∧ Spells numeral n.toNat ∧
          (∀ c ∈ before, isWhitespace c = true) ∧ ∀ c ∈ after, isWhitespace c = true) ∧
    (∀ (interface : String) (n : UInt32), ValidInterfaceName interface →
      interfaceIndex interface (.ok (toString n.toNat ++ "\n") : Except ε String) = .ok n) := by
  have reads (interface value : String) (n : UInt32) :
      interfaceIndex interface (.ok value : Except ε String) = .ok n ↔
        ValidInterfaceName interface ∧ ∃ before numeral after,
          value.toList = before ++ numeral ++ after ∧ Spells numeral n.toNat ∧
          (∀ c ∈ before, isWhitespace c = true) ∧ ∀ c ∈ after, isWhitespace c = true := by
    rw [interfaceIndex_ok_iff]
    refine and_congr_right fun _ => ⟨fun spelled => ?_, ?_⟩
    · obtain ⟨before, after, split, hbefore, hafter⟩ := trim_spec value.toList
      exact ⟨before, _, after, split, spelled, hbefore, hafter⟩
    · rintro ⟨before, numeral, after, split, spelled, hbefore, hafter⟩
      rw [split, trim_core spelled.ne_nil hbefore spelled.not_isWhitespace hafter]
      exact spelled
  refine ⟨reads, fun interface n valid => (reads ..).mpr ⟨valid, [], Nat.toDigits 10 n.toNat,
    ['\n'], ?_, ⟨_, .inl rfl, ?_, ?_, ?_⟩, nofun, ?_⟩⟩
  · rw [String.toList_append, Nat.toString_eq_repr, Nat.toList_repr]
    rfl
  · exact Nat.toDigits_ne_nil
  · exact fun c hc => Nat.isDigit_of_mem_toDigits (by decide) (by decide) hc
  · exact Nat.ofDigitChars_ten_toDigits
  · simp only [List.mem_singleton, forall_eq]
    decide

/-- What `/sys/class/net/eth0/ifindex` holds for index 3, read back and taken apart. -/
theorem interface_index_reads_eth0 :
    interfaceIndex "eth0" (.ok (toString (3 : UInt32).toNat ++ "\n") : Except Unit String) = .ok 3 ∧
      ∃ before numeral after, "3\n".toList = before ++ numeral ++ after ∧ Spells numeral 3 ∧
        (∀ c ∈ before, isWhitespace c = true) ∧ ∀ c ∈ after, isWhitespace c = true := by
  obtain ⟨iff, written⟩ := interface_index_reads (ε := Unit)
  exact ⟨written "eth0" 3 (by decide), ((iff "eth0" "3\n" 3).mp (by decide)).2⟩

end Natto64.Userspace
