import Mathlib.Data.Vector.Basic
import Natto64.Octets

/-!
# Memory images of structs

A struct in C layout: every member stands at the first multiple of its alignment after the
member before it, and the size is the first multiple of the largest alignment. What lies
between the members is not determined.
-/
namespace StructLayout
open Octets

/-- The first multiple of `a` that is not below `n`. -/
def alignUp (a n : Nat) : Nat := (n + (a - 1)) / a * a

theorem le_alignUp {a : Nat} (ha : 0 < a) (n : Nat) : n ≤ alignUp a n := by
  have hdiv := Nat.div_add_mod (n + (a - 1)) a
  have hmod := Nat.mod_lt (n + (a - 1)) ha
  rw [alignUp, Nat.mul_comm]
  omega

/-- A member of a struct: its alignment and its bytes. -/
structure Member where
  align : Nat
  bytes : List UInt8

/-- Where the members end, placed from `pos` on. -/
def extent : Nat → List Member → Nat
  | pos, [] => pos
  | pos, f :: fs => extent (alignUp f.align pos + f.bytes.length) fs

def alignment (fs : List Member) : Nat := (fs.map Member.align).foldr max 1

def size (fs : List Member) : Nat := alignUp (alignment fs) (extent 0 fs)

/-- The members stand in `bs`, placed from `pos` on. -/
def Holds (bs : List UInt8) : Nat → List Member → Prop
  | _, [] => True
  | pos, f :: fs => slice bs (alignUp f.align pos) f.bytes.length = f.bytes ∧
      Holds bs (alignUp f.align pos + f.bytes.length) fs

/-- The bytes `bs` may be the struct in memory. -/
structure Image (fs : List Member) (bs : List UInt8) : Prop where
  length : bs.length = size fs
  holds : Holds bs 0 fs

/-- The members placed from `pos` on, with zeros between them. -/
def fill : Nat → List Member → List UInt8
  | _, [] => []
  | pos, f :: fs => List.replicate (alignUp f.align pos - pos) 0 ++ f.bytes ++
      fill (alignUp f.align pos + f.bytes.length) fs

/-- The image with zeros where nothing is determined. -/
def image (fs : List Member) : List UInt8 :=
  fill 0 fs ++ List.replicate (size fs - extent 0 fs) 0

/-- Nothing in the struct is undetermined. -/
def Packed (fs : List Member) : Prop := size fs = (fs.map fun f => f.bytes.length).sum

instance (fs : List Member) : Decidable (Packed fs) := inferInstanceAs (Decidable (_ = _))

/-- Every member has an alignment. -/
def Aligned (fs : List Member) : Prop := ∀ f ∈ fs, 0 < f.align

section Placement
variable {fs : List Member} {pos : Nat}

theorem Aligned.tail {f : Member} (h : Aligned (f :: fs)) : Aligned fs :=
  fun g hg => h g (List.mem_cons_of_mem f hg)

theorem alignment_pos (fs : List Member) : 0 < alignment fs := by
  unfold alignment
  induction fs with
  | nil => exact Nat.one_pos
  | cons f fs ih => exact Nat.lt_of_lt_of_le ih (Nat.le_max_right _ _)

theorem extent_le_size (fs : List Member) : extent 0 fs ≤ size fs :=
  le_alignUp (alignment_pos fs) _

theorem le_extent (h : Aligned fs) :
    pos + (fs.map fun f => f.bytes.length).sum ≤ extent pos fs := by
  induction fs generalizing pos with
  | nil => exact Nat.le_refl pos
  | cons f fs ih =>
    have hpos := le_alignUp (h f List.mem_cons_self) pos
    have hrest : alignUp f.align pos + f.bytes.length + _ ≤ _ := ih h.tail
    rw [List.map_cons, List.sum_cons, extent]
    omega

theorem length_fill (h : Aligned fs) : (fill pos fs).length = extent pos fs - pos := by
  induction fs generalizing pos with
  | nil => simp [fill, extent]
  | cons f fs ih =>
    have hpos := le_alignUp (h f List.mem_cons_self) pos
    have hrest : alignUp f.align pos + f.bytes.length + _ ≤ _ := le_extent h.tail
    rw [fill, List.length_append, List.length_append, List.length_replicate, ih h.tail, extent]
    omega

theorem holds_fill (h : Aligned fs) (before after : List UInt8) (hbefore : before.length = pos) :
    Holds (before ++ (fill pos fs ++ after)) pos fs := by
  induction fs generalizing pos before with
  | nil => trivial
  | cons f fs ih =>
    have hpos := le_alignUp (h f List.mem_cons_self) pos
    have hgap : (before ++ List.replicate (alignUp f.align pos - pos) (0 : UInt8)).length =
        alignUp f.align pos := by
      rw [List.length_append, List.length_replicate]
      omega
    have hall : before ++ (fill pos (f :: fs) ++ after) =
        (before ++ List.replicate (alignUp f.align pos - pos) 0) ++
          (f.bytes ++ (fill (alignUp f.align pos + f.bytes.length) fs ++ after)) := by
      simp only [fill, List.append_assoc]
    constructor
    · have hslice := slice_append_right (before ++ List.replicate (alignUp f.align pos - pos) 0)
        (f.bytes ++ (fill (alignUp f.align pos + f.bytes.length) fs ++ after)) 0 f.bytes.length
      rw [hgap, Nat.add_zero] at hslice
      rw [hall, hslice, slice_append_left (by omega)]
      exact List.take_length
    · have hrest := ih h.tail ((before ++ List.replicate (alignUp f.align pos - pos) 0) ++ f.bytes)
        (by rw [List.length_append, hgap])
      rw [hall, ← List.append_assoc _ f.bytes]
      exact hrest

/-- A struct has an image. -/
theorem image_image (h : Aligned fs) : Image fs (image fs) where
  length := by
    have hle := extent_le_size fs
    rw [image, List.length_append, length_fill h, List.length_replicate]
    omega
  holds := holds_fill h [] _ rfl

/-- Members that fill their extent stand one after the other. -/
theorem Holds.flatMap {bs : List UInt8} (h : Aligned fs)
    (dense : extent pos fs = pos + (fs.map fun f => f.bytes.length).sum) (holds : Holds bs pos fs) :
    slice bs pos (fs.map fun f => f.bytes.length).sum = fs.flatMap Member.bytes := by
  induction fs generalizing pos with
  | nil => exact List.take_zero
  | cons f fs ih =>
    have hpos := le_alignUp (h f List.mem_cons_self) pos
    have hrest : alignUp f.align pos + f.bytes.length + _ ≤ _ := le_extent h.tail
    rw [List.map_cons, List.sum_cons] at dense ⊢
    rw [extent] at dense
    have hexact : alignUp f.align pos = pos := by omega
    obtain ⟨first, rest⟩ := holds
    rw [hexact] at first rest dense
    rw [List.flatMap_cons, ← ih h.tail (by omega) rest, ← slice_append_slice, first]

/-- A dense struct has one image. -/
theorem Image.eq_flatMap {bs : List UInt8} (h : Aligned fs) (dense : Packed fs)
    (himage : Image fs bs) : bs = fs.flatMap Member.bytes := by
  have hextent := extent_le_size fs
  have hsum : 0 + _ ≤ _ := le_extent h
  have hlen := himage.length
  rw [Packed] at dense
  have hflat := himage.holds.flatMap h (by omega)
  rw [← hflat, ← dense, ← hlen]
  exact (List.take_length).symm

theorem image_iff_of_packed {bs : List UInt8} (h : Aligned fs) (dense : Packed fs) :
    Image fs bs ↔ bs = fs.flatMap Member.bytes := by
  constructor
  · exact Image.eq_flatMap h dense
  · rintro rfl
    rw [← (image_image h).eq_flatMap h dense]
    exact image_image h

@[simp] theorem extent_append (pos : Nat) (fs gs : List Member) :
    extent pos (fs ++ gs) = extent (extent pos fs) gs := by
  induction fs generalizing pos with
  | nil => rfl
  | cons f fs ih => exact ih _

theorem holds_append {bs : List UInt8} {gs : List Member} :
    Holds bs pos (fs ++ gs) ↔ Holds bs pos fs ∧ Holds bs (extent pos fs) gs := by
  induction fs generalizing pos with
  | nil => exact ⟨fun h => ⟨trivial, h⟩, fun h => h.2⟩
  | cons f fs ih =>
    rw [List.cons_append, Holds, ih, Holds, extent, and_assoc]

/-- A write elsewhere leaves the members in their places. -/
theorem Holds.overwrite {bs new : List UInt8} {off : Nat} (h : Aligned fs) (hoff : off ≤ bs.length)
    (apart : off + new.length ≤ pos ∨ extent pos fs ≤ off) (holds : Holds bs pos fs) :
    Holds (overwrite bs off new) pos fs := by
  induction fs generalizing pos with
  | nil => trivial
  | cons f fs ih =>
    have hpos := le_alignUp (h f List.mem_cons_self) pos
    have hrest : alignUp f.align pos + f.bytes.length + _ ≤ _ := le_extent h.tail
    rw [extent] at apart
    obtain ⟨first, rest⟩ := holds
    constructor
    · rw [slice_overwrite_of_disjoint hoff (by omega)]
      exact first
    · exact ih h.tail (by omega) rest

/-- A member written over by another of its size and alignment. -/
theorem Image.replace {bs : List UInt8} {off : Nat} (before after : List Member) {f g : Member}
    (h : Aligned (before ++ f :: after)) (halign : g.align = f.align)
    (hlength : g.bytes.length = f.bytes.length) (hoff : alignUp f.align (extent 0 before) = off)
    (himage : Image (before ++ f :: after) bs) :
    Image (before ++ g :: after) (Octets.overwrite bs off g.bytes) := by
  have hsize : size (before ++ g :: after) = size (before ++ f :: after) := by
    simp only [size, alignment, extent_append, extent, List.map_append, List.map_cons, halign,
      hlength]
  have hbefore : Aligned before := fun m hm => h m (List.mem_append_left _ hm)
  have htail : Aligned (f :: after) := fun m hm => h m (List.mem_append_right _ hm)
  have hpos := le_alignUp (htail f List.mem_cons_self) (extent 0 before)
  have hextent := extent_le_size (before ++ f :: after)
  have hrest : alignUp f.align (extent 0 before) + f.bytes.length + _ ≤ _ := le_extent htail.tail
  have hlen := himage.length
  rw [extent_append, extent] at hextent
  subst hoff
  obtain ⟨first, rest⟩ := holds_append.mp himage.holds
  constructor
  · rw [hsize, ← hlen, length_overwrite]
    omega
  · apply holds_append.mpr
    constructor
    · exact first.overwrite hbefore (by omega) (.inr hpos)
    · constructor
      · rw [halign]
        exact slice_overwrite_self (by omega)
      · rw [halign, hlength]
        exact rest.2.overwrite htail.tail (by omega) (.inl (by omega))

end Placement

/-- The structs of a type: every value has one size, and is read back from each of its
images. -/
structure Layout (α : Type) where
  members : α → List Member
  bytes : Nat
  read : List UInt8 → α
  aligned : ∀ x, Aligned (members x)
  size_eq : ∀ x, size (members x) = bytes
  read_eq : ∀ {x bs}, Holds bs 0 (members x) → read bs = x

namespace Layout
variable {α : Type} {L : Layout α} {x y : α} {bs cs : List UInt8}

/-- The octets may be the value in memory. -/
def Represents (L : Layout α) (bs : List UInt8) (x : α) : Prop := Image (L.members x) bs

def encode (L : Layout α) (x : α) : List UInt8 := image (L.members x)

theorem represents_encode (L : Layout α) (x : α) : L.Represents (L.encode x) x :=
  image_image (L.aligned x)

theorem Represents.length (h : L.Represents bs x) : bs.length = L.bytes :=
  (Image.length h).trans (L.size_eq x)

theorem Represents.read (h : L.Represents bs x) : L.read bs = x := L.read_eq h.holds

@[simp] theorem read_encode (L : Layout α) (x : α) : L.read (L.encode x) = x :=
  (L.represents_encode x).read

theorem encode_injective (L : Layout α) : Function.Injective L.encode :=
  Function.LeftInverse.injective L.read_encode

/-- A value of a dense struct is its octets. -/
theorem eq_iff (dense : Packed (L.members x)) (h : L.Represents bs x) (h' : L.Represents cs y) :
    bs = cs ↔ x = y := by
  constructor
  · rintro rfl
    rw [← h.read, h'.read]
  · rintro rfl
    rw [Image.eq_flatMap (L.aligned x) dense h, Image.eq_flatMap (L.aligned x) dense h']

/-- A dense struct has no other octets than its encoding. -/
theorem represents_iff (dense : Packed (L.members x)) : L.Represents bs x ↔ bs = L.encode x := by
  constructor
  · intro h
    exact (eq_iff dense h (L.represents_encode x)).mpr rfl
  · rintro rfl
    exact L.represents_encode x

theorem read_of_rel {a : Option (List UInt8)} {b : Option α} (h : Option.Rel L.Represents a b) :
    a.map L.read = b := by
  cases h with
  | none => rfl
  | some h => exact congrArg some h.read

/-- The table of representations holds what the table of values does, under the octets of the
keys, and nothing else. -/
structure TableRel {β ν : Type} (K : Layout α) (P : β → ν → Prop) (t : List UInt8 → Option β)
    (s : α → Option ν) : Prop where
  entry : ∀ key, Option.Rel P (t (K.encode key)) (s key)
  key : ∀ bs e, t bs = some e → ∃ key, bs = K.encode key

theorem tableRel_empty {β ν : Type} (K : Layout α) (P : β → ν → Prop) :
    TableRel K P (fun _ => none) (fun _ => none) where
  entry _ := .none
  key := nofun

theorem TableRel.update [DecidableEq α] {β ν : Type} {P : β → ν → Prop}
    {t : List UInt8 → Option β} {s : α → Option ν} (h : TableRel L P t s) (key : α)
    {a : Option β} {b : Option ν} (hab : Option.Rel P a b) :
    TableRel L P (Function.update t (L.encode key) a) (Function.update s key b) where
  entry key' := by
    by_cases same : key' = key
    · subst same
      rw [Function.update_self, Function.update_self]
      exact hab
    · rw [Function.update_of_ne same, Function.update_of_ne (L.encode_injective.ne same)]
      exact h.entry key'
  key bs e found := by
    by_cases same : bs = L.encode key
    · exact ⟨key, same⟩
    · rw [Function.update_of_ne same] at found
      exact h.key bs e found

end Layout

theorem rel_map {α β γ δ : Type} {P : α → β → Prop} {Q : γ → δ → Prop} {f : α → γ}
    {g : β → δ} (hfg : ∀ a b, P a b → Q (f a) (g b)) {a : Option α} {b : Option β}
    (h : Option.Rel P a b) : Option.Rel Q (a.map f) (b.map g) := by
  cases h with
  | none => exact .none
  | some h => exact .some (hfg _ _ h)

/-- A scalar type with its bytes: as in C, it is aligned to its size. -/
structure Scalar (α : Type) where
  size : Nat
  pos : 0 < size
  put : α → List UInt8
  get : List UInt8 → α
  length_put : ∀ x, (put x).length = size
  get_put : ∀ x, get (put x) = x

namespace Scalar
variable {α : Type} {n : Nat} (c : Scalar α)

attribute [simp] length_put

def member (x : α) : Member := ⟨c.size, c.put x⟩

def array (v : List.Vector α n) : Member := ⟨c.size, v.toList.flatMap c.put⟩

/-- The scalar at an offset. -/
def read (bs : List UInt8) (off : Nat) : α := c.get (slice bs off c.size)

def readArray (n : Nat) (bs : List UInt8) (off : Nat) : List.Vector α n :=
  List.Vector.ofFn fun i => c.read bs (off + c.size * i)

@[simp] theorem align_member (x : α) : (c.member x).align = c.size := rfl
@[simp] theorem align_array (v : List.Vector α n) : (c.array v).align = c.size := rfl
@[simp] theorem length_member (x : α) : (c.member x).bytes.length = c.size := c.length_put x

@[simp] theorem length_flatMap_put (xs : List α) :
    (xs.flatMap c.put).length = c.size * xs.length := by
  induction xs with
  | nil => rfl
  | cons x xs ih =>
    rw [List.flatMap_cons, List.length_append, ih, c.length_put, List.length_cons, Nat.mul_succ,
      Nat.add_comm]

@[simp] theorem length_array (v : List.Vector α n) : (c.array v).bytes.length = c.size * n := by
  rw [array, length_flatMap_put, List.Vector.toList_length]

theorem slice_flatMap_put (xs : List α) (i : Nat) (h : i < xs.length) :
    slice (xs.flatMap c.put) (c.size * i) c.size = c.put xs[i] := by
  induction xs generalizing i with
  | nil => exact absurd h (Nat.not_lt_zero i)
  | cons x xs ih =>
    rw [List.flatMap_cons]
    cases i with
    | zero =>
      have hx := c.length_put x
      rw [Nat.mul_zero, slice_append_left (by omega), slice, List.drop_zero, ← hx,
        List.take_length]
      rfl
    | succ i =>
      have hnext := slice_append_right (c.put x) (xs.flatMap c.put) (c.size * i) c.size
      rw [c.length_put, Nat.add_comm, ← Nat.mul_succ] at hnext
      rw [hnext]
      exact ih i (Nat.lt_of_succ_lt_succ h)

variable {c} {bs : List UInt8} {off : Nat}

theorem read_eq {x : α} (h : slice bs off c.size = (c.member x).bytes) : c.read bs off = x := by
  rw [read, h]
  exact c.get_put x

theorem readArray_eq {v : List.Vector α n} (h : slice bs off (c.size * n) = (c.array v).bytes) :
    c.readArray n bs off = v := by
  apply List.Vector.ext
  intro i
  have hi : i.val < v.toList.length := by
    rw [List.Vector.toList_length]
    exact i.isLt
  have hin : c.size * i.val + c.size ≤ c.size * n := by
    rw [← Nat.mul_succ]
    exact Nat.mul_le_mul_left _ i.isLt
  have helem : slice (slice bs off (c.size * n)) (c.size * i.val) c.size =
      c.put v.toList[i.val] := by
    rw [h]
    exact c.slice_flatMap_put v.toList i hi
  rw [slice_slice _ hin] at helem
  rw [readArray, List.Vector.get_ofFn, read, helem, c.get_put, List.Vector.get_eq_get_toList]
  rfl

end Scalar

end StructLayout
