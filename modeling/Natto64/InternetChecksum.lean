import Natto64.Octets

/-!
# One's-complement checksums

The 32-bit partial sums of the Internet checksum and the two helpers that update a
checksum field with them, in native byte order.
-/
namespace InternetChecksum
open Octets

/-- Addition with end-around carry. -/
def csumAdd (a b : UInt32) : UInt32 := if a + b < a then a + b + 1 else a + b

def csumPartial : List UInt8 → UInt32 → UInt32
  | a :: b :: c :: d :: rest, sum => csumPartial rest (csumAdd sum (ofNeBytes32 [a, b, c, d]))
  | _, sum => sum

def csumFold (sum : UInt32) : UInt16 :=
  let sum : UInt32 := (sum &&& (0xffff : UInt32)) + (sum >>> 16)
  let sum : UInt32 := (sum &&& (0xffff : UInt32)) + (sum >>> 16)
  ~~~sum.toUInt16

/-- The checksum difference of two buffers of whole words. -/
def csumDiff (old new : List UInt8) : UInt64 :=
  (csumAdd (csumPartial new 0) (~~~csumPartial old 0)).toUInt64

def BPF_F_MARK_MANGLED_0 : UInt64 := 0x20
def BPF_F_HDR_FIELD_MASK : UInt64 := 0xf

/-- Update of a field by a precomputed difference, or by a replaced 2-byte value. The helper also
replaces 4 bytes; nothing here asks it to, and `none` stands for that as for its errors. -/
def csumReplace (field : UInt16) (old new flags : UInt64) : Option UInt16 :=
  if flags &&& BPF_F_HDR_FIELD_MASK = 0 then
    if old = 0 then some (csumFold (csumAdd new.toUInt32 (~~~field.toUInt32))) else none
  else if flags &&& BPF_F_HDR_FIELD_MASK = 2 then
    some (csumFold (csumAdd (csumAdd (~~~field.toUInt32) (~~~old.toUInt32)) new.toUInt32))
  else none

/-- `bpf_l4_csum_replace` on a field in reach: a zero field may be left alone, and a zero
result stored as `0xffff`. Without `BPF_F_MARK_ENFORCE`, which is never passed. -/
def l4CsumReplace (field : UInt16) (old new flags : UInt64) : Option UInt16 :=
  if flags &&& BPF_F_MARK_MANGLED_0 ≠ 0 then
    if field = 0 then some field
    else (csumReplace field old new flags).map fun c => if c = 0 then 0xffff else c
  else csumReplace field old new flags

/-- Without the mark, zero is not treated in any other way. -/
theorem l4CsumReplace_unmarked {field : UInt16} {old new flags : UInt64}
    (h : flags &&& BPF_F_MARK_MANGLED_0 = 0) :
    l4CsumReplace field old new flags = csumReplace field old new flags := by
  rw [l4CsumReplace, if_neg (not_not.mpr h)]

/-- Updates of both sizes are answered. -/
theorem csumReplace_isSome {field : UInt16} {old new flags : UInt64}
    (h : flags &&& BPF_F_HDR_FIELD_MASK = 0 ∧ old = 0 ∨ flags &&& BPF_F_HDR_FIELD_MASK = 2) :
    (csumReplace field old new flags).isSome := by
  unfold csumReplace
  rcases h with ⟨hsize, hold⟩ | hsize
  · rw [if_pos hsize, if_pos hold]
    rfl
  · rw [hsize, if_neg (by decide), if_pos rfl]
    rfl

theorem l4CsumReplace_isSome {field : UInt16} {old new flags : UInt64}
    (h : flags &&& BPF_F_HDR_FIELD_MASK = 0 ∧ old = 0 ∨ flags &&& BPF_F_HDR_FIELD_MASK = 2) :
    (l4CsumReplace field old new flags).isSome := by
  have hreplace : (csumReplace field old new flags).isSome := csumReplace_isSome h
  unfold l4CsumReplace
  split
  · split
    · rfl
    · rw [Option.isSome_map]
      exact hreplace
  · exact hreplace

end InternetChecksum
