import Natto64.EmittedFrames
import Natto64.WhileLoop
import Natto64.Xlat

/-!
# The two folds

The loop of the translation crate and the three fixed steps of the classifier fold a sum
to the same 16 bits.
-/
namespace Natto64
open InternetChecksum WhileLoop

/-- A round of the loop, and each of the fixed steps. -/
def foldStep (sum : UInt32) : UInt32 := (sum &&& (0xffff : UInt32)) + (sum >>> 16)

theorem toNat_foldStep (sum : UInt32) :
    (foldStep sum).toNat = sum.toNat % 65536 + sum.toNat / 65536 := toNat_carry sum

/-- The addition of a step stays far below the width of the word. -/
theorem foldStep_operands (sum : UInt32) :
    (sum &&& (0xffff : UInt32)).toNat + (sum >>> 16).toNat < 2 ^ 32 := by
  have hs := sum.toNat_lt
  rw [toNat_low, toNat_high]
  omega

/-- Two steps leave nothing in the upper half. -/
theorem foldStep_twice (sum : UInt32) : foldStep^[2] sum >>> 16 = 0 := by
  have hs := sum.toNat_lt
  have htwice : (foldStep^[2] sum).toNat < 65536 := by
    change (foldStep (foldStep sum)).toNat < 65536
    rw [toNat_foldStep, toNat_foldStep]
    omega
  rw [← UInt32.toNat_inj, toNat_high]
  exact Nat.div_eq_of_lt htwice

theorem foldU32Fixed_iterate (sum : UInt32) :
    foldU32Fixed sum = (foldStep^[3] sum).toUInt16 := rfl

/-- The loop is the iteration of the step, and leaves within two rounds. -/
theorem foldSum_exits (sum : UInt32) :
    ∃ n ≤ 2, Exits (fun s : UInt32 => s >>> 16 ≠ 0) foldStep sum n ∧
      Xlat.foldSum sum = (foldStep^[n] sum).toUInt16 := by
  obtain ⟨n, exits⟩ : ∃ n, Exits (fun s : UInt32 => s >>> 16 ≠ 0) foldStep sum n :=
    exits_of_decreasing UInt32.toNat (fun _ => Xlat.carry_lt) sum
  refine ⟨n, exits.le (not_not.mpr (foldStep_twice sum)), exits, ?_⟩
  apply exits.value UInt32.toUInt16
  · intro s h
    rw [Xlat.foldSum, if_pos h]
    rfl
  · intro s h
    rw [Xlat.foldSum, if_neg h]

/-- Both folds of any sum end, agree and are exact. -/
theorem checksum_folds_agree (sum : UInt32) :
    (∃ n ≤ 2, Exits (fun s : UInt32 => s >>> 16 ≠ 0) foldStep sum n ∧
      Xlat.foldSum sum = (foldStep^[n] sum).toUInt16) ∧
    foldU32Fixed sum = (foldStep^[3] sum).toUInt16 ∧
    (∀ i, (foldStep^[i] sum &&& (0xffff : UInt32)).toNat + (foldStep^[i] sum >>> 16).toNat <
      2 ^ 32) ∧
    Xlat.foldSum sum = foldU32Fixed sum ∧
    (Xlat.foldSum sum).toNat % 65535 = sum.toNat % 65535 ∧
    (Xlat.foldSum sum = 0 ↔ sum = 0) := by
  have folds := Xlat.foldSum_folds sum
  refine ⟨foldSum_exits sum, foldU32Fixed_iterate sum, fun i => foldStep_operands _,
    folds.eq (foldU32Fixed_folds sum), ?_, ?_⟩
  · exact (ZMod.natCast_eq_natCast_iff' _ _ 65535).mp folds.residue
  · rw [folds.eq_zero, ← UInt32.toNat_inj]
    rfl

end Natto64
