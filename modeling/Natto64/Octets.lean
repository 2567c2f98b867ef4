import Mathlib.Data.List.Basic
import Mathlib.Tactic.Common
import Mathlib.Tactic.Ring

/-!
# Octet strings

Fixed-width integers as octet strings in both byte orders, and writing a block
of octets over part of a buffer.
-/
namespace Octets

/-- The number an octet string spells, least significant octet first. -/
def leNat : List UInt8 → Nat
  | [] => 0
  | b :: bs => b.toNat + 256 * leNat bs

/-- The low `w` octets of a number, least significant first. -/
def leBytes : Nat → Nat → List UInt8
  | 0, _ => []
  | w + 1, n => UInt8.ofNat n :: leBytes w (n / 256)

/-- The number an octet string spells, most significant octet first. -/
def beNat (bs : List UInt8) : Nat := leNat bs.reverse

/-- The low `w` octets of a number, most significant first. -/
def beBytes (w n : Nat) : List UInt8 := (leBytes w n).reverse

@[simp] theorem length_leBytes (w n : Nat) : (leBytes w n).length = w := by
  induction w generalizing n with
  | zero => rfl
  | succ w ih => simp only [leBytes, List.length_cons, ih]

@[simp] theorem length_beBytes (w n : Nat) : (beBytes w n).length = w := by
  simp only [beBytes, List.length_reverse, length_leBytes]

theorem leNat_lt (bs : List UInt8) : leNat bs < 256 ^ bs.length := by
  induction bs with
  | nil => decide
  | cons b bs ih =>
      have hb := b.toNat_lt
      simp only [leNat, List.length_cons, Nat.pow_succ]
      omega

theorem beNat_lt (bs : List UInt8) : beNat bs < 256 ^ bs.length := by
  simpa only [beNat, List.length_reverse] using leNat_lt bs.reverse

theorem leBytes_leNat (bs : List UInt8) : leBytes bs.length (leNat bs) = bs := by
  induction bs with
  | nil => rfl
  | cons b bs ih =>
      have hb := b.toNat_lt
      have hq : (b.toNat + 256 * leNat bs) / 256 = leNat bs := by omega
      simp only [List.length_cons, leBytes, leNat, hq, ih]
      congr 1
      apply UInt8.toNat_inj.mp
      rw [UInt8.toNat_ofNat']
      omega

theorem leNat_leBytes (w n : Nat) : leNat (leBytes w n) = n % 256 ^ w := by
  induction w generalizing n with
  | zero => simp only [leBytes, leNat, Nat.pow_zero, Nat.mod_one]
  | succ w ih =>
      have hb : (UInt8.ofNat n).toNat = n % 256 := UInt8.toNat_ofNat'
      rw [leBytes, leNat, ih, hb, Nat.pow_succ, Nat.mul_comm (256 ^ w) 256, Nat.mod_mul]

theorem beBytes_beNat (bs : List UInt8) : beBytes bs.length (beNat bs) = bs := by
  have h := leBytes_leNat bs.reverse
  rw [List.length_reverse] at h
  rw [beBytes, beNat, h, List.reverse_reverse]

theorem beNat_beBytes (w n : Nat) : beNat (beBytes w n) = n % 256 ^ w := by
  rw [beNat, beBytes, List.reverse_reverse, leNat_leBytes]

/-- `u16::to_be_bytes`, `u32::to_be_bytes`. -/
def beBytes16 (x : UInt16) : List UInt8 := beBytes 2 x.toNat
def beBytes32 (x : UInt32) : List UInt8 := beBytes 4 x.toNat

/-- `u16::from_be_bytes`, `u32::from_be_bytes`. -/
def ofBeBytes16 (bs : List UInt8) : UInt16 := UInt16.ofNat (beNat bs)
def ofBeBytes32 (bs : List UInt8) : UInt32 := UInt32.ofNat (beNat bs)

/-- The memory image of a native integer on a little-endian machine, and back. -/
def neBytes16 (x : UInt16) : List UInt8 := leBytes 2 x.toNat
def neBytes32 (x : UInt32) : List UInt8 := leBytes 4 x.toNat
def ofNeBytes16 (bs : List UInt8) : UInt16 := UInt16.ofNat (leNat bs)
def ofNeBytes32 (bs : List UInt8) : UInt32 := UInt32.ofNat (leNat bs)

/-- `to_be` and `from_be`, one byte swap on a little-endian machine. -/
def swap16 (x : UInt16) : UInt16 := ofBeBytes16 (neBytes16 x)
def swap32 (x : UInt32) : UInt32 := ofBeBytes32 (neBytes32 x)

@[simp] theorem length_beBytes16 (x : UInt16) : (beBytes16 x).length = 2 := length_beBytes _ _
@[simp] theorem length_beBytes32 (x : UInt32) : (beBytes32 x).length = 4 := length_beBytes _ _
@[simp] theorem length_neBytes16 (x : UInt16) : (neBytes16 x).length = 2 := length_leBytes _ _
@[simp] theorem length_neBytes32 (x : UInt32) : (neBytes32 x).length = 4 := length_leBytes _ _

theorem toNat_ofNeBytes16 {bs : List UInt8} (h : bs.length = 2) :
    (ofNeBytes16 bs).toNat = leNat bs := by
  have hl := leNat_lt bs
  rw [h] at hl
  rw [ofNeBytes16, UInt16.toNat_ofNat']
  exact Nat.mod_eq_of_lt hl

theorem toNat_ofNeBytes32 {bs : List UInt8} (h : bs.length = 4) :
    (ofNeBytes32 bs).toNat = leNat bs := by
  have hl := leNat_lt bs
  rw [h] at hl
  rw [ofNeBytes32, UInt32.toNat_ofNat']
  exact Nat.mod_eq_of_lt hl

theorem toNat_ofBeBytes16 {bs : List UInt8} (h : bs.length = 2) :
    (ofBeBytes16 bs).toNat = beNat bs := by
  have hl := beNat_lt bs
  rw [h] at hl
  rw [ofBeBytes16, UInt16.toNat_ofNat']
  exact Nat.mod_eq_of_lt hl

theorem toNat_ofBeBytes32 {bs : List UInt8} (h : bs.length = 4) :
    (ofBeBytes32 bs).toNat = beNat bs := by
  have hl := beNat_lt bs
  rw [h] at hl
  rw [ofBeBytes32, UInt32.toNat_ofNat']
  exact Nat.mod_eq_of_lt hl

/-- Reading a network-order field natively and swapping reads it big-endian. -/
theorem swap16_ofNeBytes16 {bs : List UInt8} (h : bs.length = 2) :
    swap16 (ofNeBytes16 bs) = ofBeBytes16 bs := by
  rw [swap16, neBytes16, toNat_ofNeBytes16 h, ← h, leBytes_leNat]

theorem swap32_ofNeBytes32 {bs : List UInt8} (h : bs.length = 4) :
    swap32 (ofNeBytes32 bs) = ofBeBytes32 bs := by
  rw [swap32, neBytes32, toNat_ofNeBytes32 h, ← h, leBytes_leNat]

/-- A swapped integer is stored in network order. -/
theorem neBytes16_swap16 (x : UInt16) : neBytes16 (swap16 x) = beBytes16 x := by
  have h : (swap16 x).toNat = leNat (neBytes16 x).reverse :=
    toNat_ofBeBytes16 (length_neBytes16 x)
  have h2 : (neBytes16 x).reverse.length = 2 := by simp
  rw [neBytes16, h, ← h2, leBytes_leNat]
  rfl

theorem neBytes32_swap32 (x : UInt32) : neBytes32 (swap32 x) = beBytes32 x := by
  have h : (swap32 x).toNat = leNat (neBytes32 x).reverse :=
    toNat_ofBeBytes32 (length_neBytes32 x)
  have h4 : (neBytes32 x).reverse.length = 4 := by simp
  rw [neBytes32, h, ← h4, leBytes_leNat]
  rfl

theorem beBytes16_ofBeBytes16 {bs : List UInt8} (h : bs.length = 2) :
    beBytes16 (ofBeBytes16 bs) = bs := by
  rw [beBytes16, toNat_ofBeBytes16 h, ← h, beBytes_beNat]

theorem beBytes32_ofBeBytes32 {bs : List UInt8} (h : bs.length = 4) :
    beBytes32 (ofBeBytes32 bs) = bs := by
  rw [beBytes32, toNat_ofBeBytes32 h, ← h, beBytes_beNat]

theorem ofBeBytes16_beBytes16 (x : UInt16) : ofBeBytes16 (beBytes16 x) = x := by
  apply UInt16.toNat_inj.mp
  rw [toNat_ofBeBytes16 (length_beBytes16 x), beBytes16, beNat_beBytes]
  exact Nat.mod_eq_of_lt x.toNat_lt

theorem ofBeBytes32_beBytes32 (x : UInt32) : ofBeBytes32 (beBytes32 x) = x := by
  apply UInt32.toNat_inj.mp
  rw [toNat_ofBeBytes32 (length_beBytes32 x), beBytes32, beNat_beBytes]
  exact Nat.mod_eq_of_lt x.toNat_lt

theorem neBytes16_ofNeBytes16 {bs : List UInt8} (h : bs.length = 2) :
    neBytes16 (ofNeBytes16 bs) = bs := by
  rw [neBytes16, toNat_ofNeBytes16 h, ← h, leBytes_leNat]

theorem ofNeBytes16_neBytes16 (x : UInt16) : ofNeBytes16 (neBytes16 x) = x := by
  apply UInt16.toNat_inj.mp
  rw [toNat_ofNeBytes16 (length_neBytes16 x), neBytes16, leNat_leBytes]
  exact Nat.mod_eq_of_lt x.toNat_lt

variable {α : Type*}

/-- The `n` elements from `off` on. -/
def slice (bs : List α) (off n : Nat) : List α := (bs.drop off).take n

/-- The buffer with `new` written over it at `off`. -/
def overwrite (bs : List α) (off : Nat) (new : List α) : List α :=
  bs.take off ++ new ++ bs.drop (off + new.length)

theorem length_slice {bs : List α} {off n : Nat} (h : off + n ≤ bs.length) :
    (slice bs off n).length = n := by
  simp only [slice, List.length_take, List.length_drop]
  omega

theorem length_overwrite {bs new : List α} {off : Nat} (h : off + new.length ≤ bs.length) :
    (overwrite bs off new).length = bs.length := by
  simp only [overwrite, List.length_append, List.length_take, List.length_drop]
  omega

theorem getElem?_slice (bs : List α) (off n i : Nat) :
    (slice bs off n)[i]? = if i < n then bs[off + i]? else none := by
  rw [slice, List.getElem?_take, List.getElem?_drop]

theorem getElem?_overwrite {bs new : List α} {off : Nat} (h : off ≤ bs.length) (i : Nat) :
    (overwrite bs off new)[i]? =
      if off ≤ i ∧ i < off + new.length then new[i - off]? else bs[i]? := by
  simp only [overwrite, List.getElem?_append, List.getElem?_take, List.getElem?_drop,
    List.length_append, List.length_take]
  grind

theorem slice_append_slice (bs : List α) (off n p : Nat) :
    slice bs off n ++ slice bs (off + n) p = slice bs off (n + p) := by
  simp only [slice, List.take_add, List.drop_drop]

theorem slice_overwrite_self {bs new : List α} {off : Nat} (h : off ≤ bs.length) :
    slice (overwrite bs off new) off new.length = new := by
  apply List.ext_getElem?
  intro i
  rw [getElem?_slice, getElem?_overwrite h]
  grind

/-- Writing back what is there changes nothing. -/
theorem overwrite_slice {bs : List α} {off n : Nat} (h : off + n ≤ bs.length) :
    overwrite bs off (slice bs off n) = bs := by
  rw [overwrite, length_slice h, slice, List.append_assoc, ← List.drop_drop,
    List.take_append_drop, List.take_append_drop]

/-- A write leaves every part of the buffer it does not overlap. -/
theorem slice_overwrite_of_disjoint {bs new : List α} {off a n : Nat} (h : off ≤ bs.length)
    (hd : a + n ≤ off ∨ off + new.length ≤ a) :
    slice (overwrite bs off new) a n = slice bs a n := by
  apply List.ext_getElem?
  intro i
  rw [getElem?_slice, getElem?_slice, getElem?_overwrite h]
  grind

theorem overwrite_overwrite {bs a b : List α} {off : Nat} (h : off ≤ bs.length)
    (hab : a.length = b.length) : overwrite (overwrite bs off a) off b = overwrite bs off b := by
  have ho : off ≤ (overwrite bs off a).length := by
    simp only [overwrite, List.length_append, List.length_take, List.length_drop]
    omega
  apply List.ext_getElem?
  intro i
  rw [getElem?_overwrite ho, getElem?_overwrite h, getElem?_overwrite h]
  grind

/-- Writes to separate places may be made in either order. -/
theorem overwrite_comm {bs a b : List α} {i j : Nat} (ha : i + a.length ≤ bs.length)
    (hb : j + b.length ≤ bs.length) (hd : i + a.length ≤ j ∨ j + b.length ≤ i) :
    overwrite (overwrite bs i a) j b = overwrite (overwrite bs j b) i a := by
  have hla : j ≤ (overwrite bs i a).length := by
    rw [length_overwrite ha]
    omega
  have hlb : i ≤ (overwrite bs j b).length := by
    rw [length_overwrite hb]
    omega
  apply List.ext_getElem?
  intro n
  rw [getElem?_overwrite hla, getElem?_overwrite (by omega), getElem?_overwrite hlb,
    getElem?_overwrite (by omega)]
  grind

/-- A write inside a part of the buffer is a write to that part. -/
theorem slice_overwrite_within {bs new : List α} {pos len off : Nat}
    (h : off + new.length ≤ len) (hin : pos + len ≤ bs.length) :
    slice (overwrite bs (pos + off) new) pos len = overwrite (slice bs pos len) off new := by
  have hlen : off ≤ (slice bs pos len).length := by
    rw [length_slice hin]
    omega
  apply List.ext_getElem?
  intro i
  rw [getElem?_slice, getElem?_overwrite (by omega), getElem?_overwrite hlen, getElem?_slice]
  grind

/-- Two buffers have the same part where they have the same elements. -/
theorem slice_eq_slice_iff {bs cs : List α} {off n : Nat} :
    slice bs off n = slice cs off n ↔ ∀ i, off ≤ i → i < off + n → bs[i]? = cs[i]? := by
  constructor
  · intro h i hle hlt
    have hget := congrArg (fun l => l[i - off]?) h
    simp only [getElem?_slice] at hget
    rw [if_pos (by omega), if_pos (by omega), Nat.add_sub_cancel' hle] at hget
    exact hget
  · intro h
    apply List.ext_getElem?
    intro i
    rw [getElem?_slice, getElem?_slice]
    split
    · exact h (off + i) (Nat.le_add_right off i) (by omega)
    · rfl

/-- A write past a prefix is a write into the rest. -/
theorem overwrite_append_right (a b new : List α) (off : Nat) :
    overwrite (a ++ b) (a.length + off) new = a ++ overwrite b off new := by
  simp only [overwrite, Nat.add_assoc, List.take_length_add_append, List.drop_length_add_append,
    List.append_assoc]

theorem slice_append_right (a b : List α) (off n : Nat) :
    slice (a ++ b) (a.length + off) n = slice b off n := by
  rw [slice, slice, List.drop_length_add_append]

theorem slice_append_left {a b : List α} {off n : Nat} (h : off + n ≤ a.length) :
    slice (a ++ b) off n = slice a off n := by
  rw [slice, slice, List.drop_append_of_le_length (by omega),
    List.take_append_of_le_length (by rw [List.length_drop]; omega)]

theorem slice_drop (bs : List α) (a off n : Nat) :
    slice (bs.drop a) off n = slice bs (a + off) n := by
  rw [slice, slice, List.drop_drop]

theorem slice_slice (bs : List α) {a n b p : Nat} (h : b + p ≤ n) :
    slice (slice bs a n) b p = slice bs (a + b) p := by
  rw [slice, slice, slice, List.drop_take, List.drop_drop, List.take_take, min_eq_left (by omega)]

/-- A write over exactly a prefix replaces it. -/
theorem overwrite_prefix {a b new : List α} (h : new.length = a.length) :
    overwrite (a ++ b) 0 new = new ++ b := by
  simp only [overwrite, List.take_zero, List.nil_append, Nat.zero_add, h, List.drop_left]

end Octets
