import Mathlib.Data.ZMod.Basic
import Mathlib.Tactic.LinearCombination
import Natto64.InternetChecksum

/-!
# Residues of one's-complement sums

A one's-complement sum is known by its residue modulo `2 ^ 16 - 1` and by whether it is
zero. The checksum helpers are exact on residues, in either byte order.
-/
namespace InternetChecksum
open Octets

/-- The sum of the big-endian 16-bit words of an octet string, a last odd octet padded. -/
def wordSum : List UInt8 → Nat
  | a :: b :: rest => (256 * a.toNat + b.toNat) + wordSum rest
  | [a] => 256 * a.toNat
  | [] => 0

/-- One's-complement addition: the carry out of the word is added back in. -/
def onesAdd (x y : UInt16) : UInt16 :=
  if x.toNat + y.toNat < 65536 then x + y else x + y + 1

/-- The one's-complement sum of the same words. -/
def onesSum : List UInt8 → UInt16
  | a :: b :: rest => onesAdd (ofBeBytes16 [a, b]) (onesSum rest)
  | [a] => ofBeBytes16 [a, 0]
  | [] => 0

abbrev Residue : Type := ZMod 65535

def residue (bs : List UInt8) : Residue := (wordSum bs : Residue)

@[simp] theorem wordSum_nil : wordSum [] = 0 := rfl

@[simp] theorem wordSum_cons_cons (a b : UInt8) (rest : List UInt8) :
    wordSum (a :: b :: rest) = (256 * a.toNat + b.toNat) + wordSum rest := rfl

theorem wordSum_append {a b : List UInt8} (h : a.length % 2 = 0) :
    wordSum (a ++ b) = wordSum a + wordSum b := by
  induction a using wordSum.induct with
  | case1 x y rest ih =>
      simp only [List.length_cons] at h
      simp only [List.cons_append, wordSum_cons_cons]
      rw [ih (by omega)]
      omega
  | case2 x => simp at h
  | case3 => simp

theorem wordSum_le (bs : List UInt8) : wordSum bs ≤ 65535 * ((bs.length + 1) / 2) := by
  induction bs using wordSum.induct with
  | case1 a b rest ih =>
      have ha := a.toNat_lt
      have hb := b.toNat_lt
      simp only [wordSum_cons_cons, List.length_cons]
      omega
  | case2 a =>
      have ha := a.toNat_lt
      simp only [wordSum, List.length_cons, List.length_nil]
      omega
  | case3 => simp

@[simp] theorem residue_append {a b : List UInt8} (h : a.length % 2 = 0) :
    residue (a ++ b) = residue a + residue b := by
  simp [residue, wordSum_append h]

/-- A write of whole words at a word boundary exchanges their share of the sum. -/
theorem residue_overwrite {bs new : List UInt8} {off : Nat} (heven : off % 2 = 0)
    (hnew : new.length % 2 = 0) (hin : off + new.length ≤ bs.length) :
    residue (overwrite bs off new) =
      residue bs - residue (slice bs off new.length) + residue new := by
  have htake : (bs.take off).length % 2 = 0 := by
    rw [List.length_take, min_eq_left (by omega)]
    exact heven
  have hslice : (slice bs off new.length).length % 2 = 0 := by
    rw [length_slice hin]
    exact hnew
  have hbs : bs = bs.take off ++ (slice bs off new.length ++ bs.drop (off + new.length)) := by
    rw [slice, ← List.drop_drop, List.take_append_drop, List.take_append_drop]
  have hsum : residue bs = residue (bs.take off) +
      (residue (slice bs off new.length) + residue (bs.drop (off + new.length))) := by
    conv_lhs => rw [hbs]
    rw [residue_append htake, residue_append hslice]
  rw [overwrite, List.append_assoc, residue_append htake, residue_append hnew, hsum]
  ring

theorem wordSum_beBytes16 (x : UInt16) : wordSum (beBytes16 x) = x.toNat := by
  have hx := x.toNat_lt
  simp [beBytes16, beBytes, leBytes]
  omega

theorem wordSum_beBytes32 (x : UInt32) :
    wordSum (beBytes32 x) = x.toNat / 65536 + x.toNat % 65536 := by
  have hx := x.toNat_lt
  simp [beBytes32, beBytes, leBytes]
  omega

@[simp] theorem residue_beBytes16 (x : UInt16) : residue (beBytes16 x) = (x.toNat : Residue) := by
  rw [residue, wordSum_beBytes16]

theorem residue_beBytes32 (x : UInt32) : residue (beBytes32 x) = (x.toNat : Residue) := by
  rw [residue, wordSum_beBytes32]
  conv_rhs => rw [← Nat.div_add_mod x.toNat 65536]
  push_cast
  have hcarry : (65536 : Residue) = 1 := by decide
  rw [hcarry, one_mul]

/-- The two byte orders differ by a factor whose square is one. -/
theorem byteOrder_sq : (256 : Residue) * 256 = 1 := by decide

theorem leNat_residue_two (a b : UInt8) :
    (leNat [a, b] : Residue) = 256 * residue [a, b] := by
  simp only [leNat, residue, wordSum]
  push_cast
  linear_combination (- (a.toNat : Residue)) * byteOrder_sq

theorem leNat_residue_four (a b c d : UInt8) :
    (leNat [a, b, c, d] : Residue) = 256 * residue [a, b, c, d] := by
  simp only [leNat, residue, wordSum]
  push_cast
  linear_combination (- (a.toNat : Residue) + d.toNat * 256) * byteOrder_sq

@[simp] theorem residue_neBytes16 (x : UInt16) :
    residue (neBytes16 x) = 256 * (x.toNat : Residue) := by
  have hx : (leNat (neBytes16 x) : Residue) = 256 * residue (neBytes16 x) :=
    leNat_residue_two ..
  have hx2 : x.toNat < 256 ^ 2 := x.toNat_lt
  rw [neBytes16, leNat_leBytes, Nat.mod_eq_of_lt hx2] at hx
  rw [hx, ← mul_assoc, byteOrder_sq, one_mul, neBytes16]

theorem toNat_ofNeBytes16_residue {bs : List UInt8} (h : bs.length = 2) :
    ((ofNeBytes16 bs).toNat : Residue) = 256 * residue bs := by
  rw [toNat_ofNeBytes16 h]
  match bs, h with
  | [a, b], _ => exact leNat_residue_two a b

@[simp] theorem toNat_swap16 (x : UInt16) : ((swap16 x).toNat : Residue) = 256 * x.toNat := by
  have h := residue_neBytes16 (swap16 x)
  rw [neBytes16_swap16, residue_beBytes16] at h
  rw [h, ← mul_assoc, byteOrder_sq, one_mul]

theorem toNat_csumAdd (a b : UInt32) :
    (csumAdd a b).toNat =
      if a.toNat + b.toNat < 2 ^ 32 then a.toNat + b.toNat else a.toNat + b.toNat + 1 - 2 ^ 32 := by
  have ha := a.toNat_lt
  have hb := b.toNat_lt
  have hadd : (a + b).toNat = (a.toNat + b.toNat) % 2 ^ 32 := UInt32.toNat_add a b
  unfold csumAdd
  by_cases h : a.toNat + b.toNat < 2 ^ 32
  · rw [Nat.mod_eq_of_lt h] at hadd
    rw [if_neg (by rw [UInt32.lt_iff_toNat_lt]; omega), if_pos h, hadd]
  · rw [if_pos (by rw [UInt32.lt_iff_toNat_lt]; omega), if_neg h, UInt32.toNat_add, hadd]
    change (_ + 1) % 2 ^ 32 = _
    omega

@[simp] theorem residue_csumAdd (a b : UInt32) :
    ((csumAdd a b).toNat : Residue) = a.toNat + b.toNat := by
  rw [toNat_csumAdd]
  split
  · push_cast
    ring
  next h =>
    have hsum : a.toNat + b.toNat + 1 - 2 ^ 32 + 65537 * 65535 = a.toNat + b.toNat := by omega
    have hcast := congrArg (Nat.cast (R := Residue)) hsum
    have hzero : ((65535 : Nat) : Residue) = 0 := by decide
    rw [Nat.cast_add, Nat.cast_mul, hzero, mul_zero, add_zero, Nat.cast_add] at hcast
    exact hcast

/-- A sum is zero only if both numbers are. -/
theorem csumAdd_ne_zero {a b : UInt32} (h : a ≠ 0 ∨ b ≠ 0) : csumAdd a b ≠ 0 := by
  have ha : a ≠ 0 ↔ a.toNat ≠ 0 := by simp [← UInt32.toNat_inj]
  have hb : b ≠ 0 ↔ b.toNat ≠ 0 := by simp [← UInt32.toNat_inj]
  intro hzero
  have hadd := toNat_csumAdd a b
  rw [hzero] at hadd
  rw [UInt32.toNat_zero] at hadd
  rw [ha, hb] at h
  split at hadd <;> omega

@[simp] theorem residue_not (x : UInt32) : ((~~~x).toNat : Residue) = -(x.toNat : Residue) := by
  have hx := x.toNat_lt
  have hsum : (~~~x).toNat + x.toNat = 65537 * 65535 := by
    rw [UInt32.toNat_not, UInt32.size]
    omega
  have hcast := congrArg (Nat.cast (R := Residue)) hsum
  have hzero : ((65535 : Nat) : Residue) = 0 := by decide
  rw [Nat.cast_mul, hzero, mul_zero, Nat.cast_add] at hcast
  exact eq_neg_of_add_eq_zero_left hcast

theorem residue_not16 (x : UInt16) : ((~~~x).toNat : Residue) = -(x.toNat : Residue) := by
  have hx := x.toNat_lt
  have hsum : (~~~x).toNat + x.toNat = 65535 := by
    rw [UInt16.toNat_not, UInt16.size]
    omega
  have hcast := congrArg (Nat.cast (R := Residue)) hsum
  have hzero : ((65535 : Nat) : Residue) = 0 := by decide
  rw [hzero, Nat.cast_add] at hcast
  exact eq_neg_of_add_eq_zero_left hcast

theorem toNat_low (s : UInt32) : (s &&& (0xffff : UInt32)).toNat = s.toNat % 65536 := by
  rw [UInt32.toNat_and]
  exact Nat.and_two_pow_sub_one_eq_mod s.toNat 16

theorem toNat_high (s : UInt32) : (s >>> 16).toNat = s.toNat / 65536 := by
  rw [UInt32.toNat_shiftRight]
  exact Nat.shiftRight_eq_div_pow s.toNat 16

/-- One round of carrying the upper half of a sum into the lower. -/
theorem toNat_carry (s : UInt32) :
    ((s &&& (0xffff : UInt32)) + (s >>> 16)).toNat = s.toNat % 65536 + s.toNat / 65536 := by
  have hs := s.toNat_lt
  rw [UInt32.toNat_add, toNat_low, toNat_high]
  omega

theorem residue_carry (n : Nat) : ((n % 65536 + n / 65536 : Nat) : Residue) = n := by
  have hcarry : (65536 : Residue) = 1 := by decide
  conv_rhs => rw [← Nat.div_add_mod n 65536]
  push_cast
  rw [hcarry]
  ring

theorem residue_halves (x : UInt32) :
    ((x >>> 16).toNat : Residue) + (x &&& (0xffff : UInt32)).toNat = x.toNat := by
  rw [toNat_low, toNat_high, add_comm, ← Nat.cast_add]
  exact residue_carry x.toNat

/-- A folded sum: 16 bits of the residue of the sum, zero only for zero. -/
structure Folds (n : Nat) (x : UInt16) : Prop where
  residue : (x.toNat : Residue) = n
  eq_zero : x = 0 ↔ n = 0

theorem Folds.carry {n : Nat} {x : UInt16} (h : Folds (n % 65536 + n / 65536) x) : Folds n x where
  residue := by rw [h.residue, residue_carry]
  eq_zero := by
    rw [h.eq_zero]
    omega

theorem folds_small {s : UInt32} (h : s.toNat < 65536) : Folds s.toNat s.toUInt16 := by
  have hs : s.toUInt16.toNat = s.toNat := by
    rw [UInt32.toNat_toUInt16]
    exact Nat.mod_eq_of_lt h
  constructor
  · rw [hs]
  · rw [← hs, ← UInt16.toNat_inj]
    rfl

theorem residue_eq_iff {x y : UInt16} :
    (x.toNat : Residue) = y.toNat ↔ x = y ∨ (x = 0 ∧ y = 0xffff) ∨ (x = 0xffff ∧ y = 0) := by
  have hx := x.toNat_lt
  have hy := y.toNat_lt
  have hx0 : x = 0 ↔ x.toNat = 0 := by simp [← UInt16.toNat_inj]
  have hy0 : y = 0 ↔ y.toNat = 0 := by simp [← UInt16.toNat_inj]
  have hxf : x = 0xffff ↔ x.toNat = 65535 := by simp [← UInt16.toNat_inj]
  have hyf : y = 0xffff ↔ y.toNat = 65535 := by simp [← UInt16.toNat_inj]
  rw [ZMod.natCast_eq_natCast_iff', hx0, hy0, hxf, hyf, ← UInt16.toNat_inj]
  omega

/-- A folded sum is all ones exactly if the sum is a nonzero multiple. -/
theorem Folds.eq_ones_iff {n : Nat} {x : UInt16} (h : Folds n x) :
    x = 0xffff ↔ n ≠ 0 ∧ (n : Residue) = 0 := by
  have hones : ((0xffff : UInt16).toNat : Residue) = 0 := by decide
  constructor
  · rintro rfl
    refine ⟨fun hn => ?_, by rw [← h.residue, hones]⟩
    exact absurd (h.eq_zero.mpr hn) (by decide)
  · rintro ⟨hne, hzero⟩
    have hx : (x.toNat : Residue) = (0xffff : UInt16).toNat := by rw [h.residue, hzero, hones]
    rcases residue_eq_iff.mp hx with hx | ⟨hx, -⟩ | ⟨hx, -⟩
    · exact hx
    · exact absurd (h.eq_zero.mp hx) hne
    · exact hx

theorem Folds.eq {n : Nat} {x y : UInt16} (hx : Folds n x) (hy : Folds n y) : x = y := by
  have hsame : (x.toNat : Residue) = y.toNat := by rw [hx.residue, hy.residue]
  rcases residue_eq_iff.mp hsame with h | ⟨h, h'⟩ | ⟨h, h'⟩
  · exact h
  · rw [h, hy.eq_zero.mpr (hx.eq_zero.mp h)]
  · rw [h', hx.eq_zero.mpr (hy.eq_zero.mp h')]

theorem folds_self (x : UInt16) : Folds x.toNat x where
  residue := rfl
  eq_zero := by
    rw [← UInt16.toNat_inj]
    rfl

/-- A part of a sum may be folded first. -/
theorem Folds.trans {a b : Nat} {x y : UInt16} (hx : Folds a x) (hy : Folds (x.toNat + b) y) :
    Folds (a + b) y where
  residue := by rw [hy.residue, Nat.cast_add, hx.residue, Nat.cast_add]
  eq_zero := by
    have hzero : x.toNat = 0 ↔ a = 0 := by
      rw [← hx.eq_zero, ← UInt16.toNat_inj]
      rfl
    rw [hy.eq_zero, Nat.add_eq_zero_iff, Nat.add_eq_zero_iff, hzero]

theorem toNat_onesAdd (x y : UInt16) :
    (onesAdd x y).toNat =
      if x.toNat + y.toNat < 65536 then x.toNat + y.toNat else x.toNat + y.toNat - 65535 := by
  have hx := x.toNat_lt
  have hy := y.toNat_lt
  have hone : (1 : UInt16).toNat = 1 := rfl
  unfold onesAdd
  split
  · rw [UInt16.toNat_add]
    omega
  · rw [UInt16.toNat_add, UInt16.toNat_add, hone]
    omega

theorem Folds.onesAdd {a b : Nat} {x y : UInt16} (hx : Folds a x) (hy : Folds b y) :
    Folds (a + b) (onesAdd x y) := by
  have hsum : Folds (x.toNat + y.toNat) (InternetChecksum.onesAdd x y) := by
    have hadd := toNat_onesAdd x y
    constructor
    · rw [hadd]
      split
      · rfl
      next h =>
        have hcarry : x.toNat + y.toNat - 65535 + 65535 = x.toNat + y.toNat := by omega
        have hcast := congrArg (Nat.cast (R := Residue)) hcarry
        have hzero : ((65535 : Nat) : Residue) = 0 := by decide
        rw [Nat.cast_add, hzero, add_zero] at hcast
        exact hcast
    · rw [← UInt16.toNat_inj, hadd, UInt16.toNat_zero]
      split <;> omega
  have hfirst : Folds (a + y.toNat) (InternetChecksum.onesAdd x y) := hx.trans hsum
  rw [Nat.add_comm] at hfirst ⊢
  exact hy.trans hfirst

theorem toNat_word (a b : UInt8) : (ofBeBytes16 [a, b]).toNat = 256 * a.toNat + b.toNat := by
  rw [toNat_ofBeBytes16 rfl]
  simp [beNat, leNat]
  omega

theorem onesSum_folds (bs : List UInt8) : Folds (wordSum bs) (onesSum bs) := by
  induction bs using wordSum.induct with
  | case1 a b rest ih =>
      rw [wordSum_cons_cons, ← toNat_word]
      exact (folds_self _).onesAdd ih
  | case2 a =>
      have hword : wordSum [a] = (ofBeBytes16 [a, 0]).toNat := (toNat_word a 0).symm
      rw [hword]
      exact folds_self _
  | case3 => exact folds_self 0

/-- A sum that was kept modulo `2 ^ 32` is folded right exactly if it did not wrap, as long as
it cannot wrap a multiple of `2 ^ 16 - 1` times. -/
theorem residue_wrapped_iff {n : Nat} (h : n < 65535 * 2 ^ 32) :
    ((n % 2 ^ 32 : Nat) : Residue) = n ↔ n < 2 ^ 32 := by
  rw [ZMod.natCast_eq_natCast_iff']
  omega

theorem Folds.wrapped_eq_iff {n : Nat} {x y : UInt16} (hx : Folds (n % 2 ^ 32) x) (hy : Folds n y)
    (h : n < 65535 * 2 ^ 32) : x = y ↔ n < 2 ^ 32 := by
  constructor
  · intro heq
    rw [← residue_wrapped_iff h, ← hx.residue, heq, hy.residue]
  · intro hlt
    rw [Nat.mod_eq_of_lt hlt] at hx
    exact hx.eq hy

theorem csumFold_folds (sum : UInt32) : ∃ x, Folds sum.toNat x ∧ csumFold sum = ~~~x := by
  have hs := sum.toNat_lt
  refine ⟨_, ?_, rfl⟩
  apply Folds.carry
  rw [← toNat_carry]
  apply Folds.carry
  rw [← toNat_carry]
  apply folds_small
  rw [toNat_carry, toNat_carry]
  omega

theorem residue_csumFold (sum : UInt32) :
    ((csumFold sum).toNat : Residue) = -(sum.toNat : Residue) := by
  obtain ⟨x, hx, heq⟩ := csumFold_folds sum
  rw [heq, residue_not16, hx.residue]

/-- Only the complement of zero is all ones. -/
theorem csumFold_ne_ones {sum : UInt32} (h : sum ≠ 0) : csumFold sum ≠ 0xffff := by
  obtain ⟨x, hx, heq⟩ := csumFold_folds sum
  intro hones
  have hzero : x = 0 := by
    rw [heq] at hones
    have hnot : ~~~(~~~x) = ~~~(0xffff : UInt16) := congrArg (~~~·) hones
    rw [UInt16.not_not] at hnot
    exact hnot
  apply h
  apply UInt32.toNat_inj.mp
  exact hx.eq_zero.mp hzero

theorem residue_csumPartial {bs : List UInt8} (h : bs.length % 4 = 0) (sum : UInt32) :
    ((csumPartial bs sum).toNat : Residue) = sum.toNat + 256 * residue bs := by
  induction bs, sum using csumPartial.induct with
  | case1 a b c d rest sum ih =>
      simp only [List.length_cons] at h
      have hword : ((ofNeBytes32 [a, b, c, d]).toNat : Residue) = 256 * residue [a, b, c, d] := by
        rw [toNat_ofNeBytes32 rfl]
        exact leNat_residue_four a b c d
      have happend : residue (a :: b :: c :: d :: rest) = residue [a, b, c, d] + residue rest :=
        residue_append (a := [a, b, c, d]) (by simp)
      rw [csumPartial, ih (by omega), residue_csumAdd, hword, happend]
      ring
  | case2 bs sum other =>
      match bs, h with
      | [], _ => simp [csumPartial, residue]
      | a :: b :: c :: d :: rest, _ => exact absurd rfl (other a b c d rest)

/-- The difference helper is exact. -/
theorem residue_csumDiff {old new : List UInt8} (ho : old.length % 4 = 0)
    (hn : new.length % 4 = 0) :
    ((csumDiff old new).toUInt32.toNat : Residue) = 256 * (residue new - residue old) := by
  have hzero : ((0 : UInt32).toNat : Residue) = 0 := rfl
  rw [csumDiff, UInt32.toUInt32_toUInt64, residue_csumAdd, residue_not, residue_csumPartial hn,
    residue_csumPartial ho, hzero]
  ring

theorem not_toUInt32_ne_zero (field : UInt16) : ~~~field.toUInt32 ≠ 0 := by
  intro h
  have hnot : ~~~(~~~field.toUInt32) = ~~~(0 : UInt32) := congrArg (~~~·) h
  rw [UInt32.not_not] at hnot
  have hnat := congrArg UInt32.toNat hnot
  have hfield := field.toNat_lt
  rw [UInt16.toNat_toUInt32] at hnat
  change field.toNat = 4294967295 at hnat
  omega

/-- An updated field has the residue of the change, and zero is never all ones. -/
structure Updates (field c : UInt16) (change : Residue) : Prop where
  residue : (c.toNat : Residue) = field.toNat + change
  ne_ones : c ≠ 0xffff

theorem Updates.trans {a b c : UInt16} {x y : Residue} (hab : Updates a b x) (hbc : Updates b c y) :
    Updates a c (x + y) where
  residue := by
    rw [hbc.residue, hab.residue]
    ring
  ne_ones := hbc.ne_ones

theorem csumReplace_diff {field c : UInt16} {diff flags : UInt64}
    (size : flags &&& BPF_F_HDR_FIELD_MASK = 0) (h : csumReplace field 0 diff flags = some c) :
    Updates field c (-(diff.toUInt32.toNat : Residue)) := by
  rw [csumReplace, if_pos size, if_pos rfl] at h
  obtain rfl := Option.some.inj h
  constructor
  · rw [residue_csumFold, residue_csumAdd, residue_not, UInt16.toNat_toUInt32]
    ring
  · exact csumFold_ne_ones (csumAdd_ne_zero (.inr (not_toUInt32_ne_zero field)))

theorem csumReplace_value {field c : UInt16} {old new flags : UInt64}
    (size : flags &&& BPF_F_HDR_FIELD_MASK = 2) (h : csumReplace field old new flags = some c) :
    Updates field c ((old.toUInt32.toNat : Residue) - new.toUInt32.toNat) := by
  rw [csumReplace, size, if_neg (by decide), if_pos rfl] at h
  obtain rfl := Option.some.inj h
  constructor
  · simp only [residue_csumFold, residue_csumAdd, residue_not, UInt16.toNat_toUInt32]
    ring
  · apply csumFold_ne_ones
    exact csumAdd_ne_zero (.inl (csumAdd_ne_zero (.inl (not_toUInt32_ne_zero field))))

/-- Marking a zero result does nothing to a field that is not all ones: a zero field stays,
and no other becomes zero. -/
theorem l4CsumReplace_mangled {field c : UInt16} {old new flags : UInt64}
    (size : flags &&& BPF_F_HDR_FIELD_MASK = 2) (mangled : flags &&& BPF_F_MARK_MANGLED_0 ≠ 0)
    (ones : field ≠ 0xffff) (same : (old.toUInt32.toNat : Residue) = new.toUInt32.toNat)
    (h : l4CsumReplace field old new flags = some c) : c = field := by
  rw [l4CsumReplace, if_pos mangled] at h
  by_cases hzero : field = 0
  · rw [if_pos hzero] at h
    exact (Option.some.inj h).symm
  · rw [if_neg hzero] at h
    obtain ⟨c', hc', rfl⟩ := Option.map_eq_some_iff.mp h
    obtain ⟨hresidue, hones⟩ := csumReplace_value size hc'
    rw [same, sub_self, add_zero] at hresidue
    have heq : c' = field := by
      rcases residue_eq_iff.mp hresidue with heq | ⟨-, hf⟩ | ⟨hc, -⟩
      · exact heq
      · exact absurd hf ones
      · exact absurd hc hones
    rw [heq, if_neg hzero]

end InternetChecksum
