import WebXEngine.Foundations.LittleEndian
import Mathlib.Data.List.Basic

/-! # Aligned fields in a block of memory

A record laid out in memory one field after the other, a fixed-width number being moved up to the
next multiple of its own width and a byte string being placed where the previous field ends.

* **`Field`** — a number of a given width, or a byte string; `Field.start` and `Field.stop` say
  where it lies when the previous field ends at a given offset.
* **`Holds mem off fs`** — the memory holds the fields `fs` from offset `off` on.
* **`place mem off fs`** — the memory after the fields were written; `holds_place` says that they
  can be found again, `slice_place` that nothing before `off` changed.
* **`extent off fs`** — where the last field ends. -/

namespace AlignedFields

/-! ## Slices of memory -/

/-- The `n` bytes of `mem` from offset `off` on (fewer when the memory ends before). -/
def slice (mem : List UInt8) (off n : ℕ) : List UInt8 := (mem.drop off).take n

/-- `mem` with `bs` written over it from offset `off` on. -/
def overwrite (mem : List UInt8) (off : ℕ) (bs : List UInt8) : List UInt8 :=
  mem.take off ++ bs ++ mem.drop (off + bs.length)

/-- A slice inside the memory has the length asked for. -/
theorem length_slice {mem : List UInt8} {off n : ℕ} (h : off + n ≤ mem.length) :
    (slice mem off n).length = n := by
  rw [slice, List.length_take, List.length_drop]
  omega

/-- A slice of the first part of a memory does not see the second part. -/
theorem slice_append_left {mem rest : List UInt8} {off n : ℕ} (h : off + n ≤ mem.length) :
    slice (mem ++ rest) off n = slice mem off n := by
  rw [slice, slice, List.drop_append_of_le_length (by omega),
    List.take_append_of_le_length (by rw [List.length_drop]; omega)]

/-- The slice of the middle part of a memory is that part. -/
theorem slice_append_middle (front bs rest : List UInt8) :
    slice (front ++ (bs ++ rest)) front.length bs.length = bs := by
  rw [slice, List.drop_left, List.take_left]

/-- Writing inside the memory does not change its length. -/
theorem length_overwrite {mem bs : List UInt8} {off : ℕ} (h : off + bs.length ≤ mem.length) :
    (overwrite mem off bs).length = mem.length := by
  rw [overwrite, List.length_append, List.length_append, List.length_take, List.length_drop]
  omega

/-- What was written is read back. -/
theorem slice_overwrite_self {mem bs : List UInt8} {off : ℕ} (h : off + bs.length ≤ mem.length) :
    slice (overwrite mem off bs) off bs.length = bs := by
  have hfront : (mem.take off).length = off := by rw [List.length_take]; omega
  have hmiddle := slice_append_middle (mem.take off) bs (mem.drop (off + bs.length))
  rwa [hfront, ← List.append_assoc] at hmiddle

/-- Writing at `off` leaves every slice that ends at or before `off` alone. -/
theorem slice_overwrite_before {mem bs : List UInt8} {off o n : ℕ} (hon : o + n ≤ off)
    (h : off ≤ mem.length) : slice (overwrite mem off bs) o n = slice mem o n := by
  have hfront : (mem.take off).length = off := by rw [List.length_take]; omega
  calc slice (overwrite mem off bs) o n
      = slice (mem.take off ++ (bs ++ mem.drop (off + bs.length))) o n := by
        rw [overwrite, List.append_assoc]
    _ = slice (mem.take off) o n := slice_append_left (by omega)
    _ = slice (mem.take off ++ mem.drop off) o n := (slice_append_left (by omega)).symm
    _ = slice mem o n := by rw [List.take_append_drop]

/-! ## Fields -/

/-- The first multiple of `size` at or above `off`. -/
def alignUp (off size : ℕ) : ℕ :=
  off + if off % size > 0 then size - off % size else 0

/-- A field of a record: a number on a fixed number of bytes, or a byte string. -/
inductive Field
  | scalar (size value : ℕ)
  | raw (bs : List UInt8)
  deriving DecidableEq, Repr

namespace Field

/-- The bytes of a field. -/
def bytes : Field → List UInt8
  | scalar size value => LittleEndian.bytes size value
  | raw bs => bs

/-- Where a field begins when the previous one ends at `off`. -/
def start (off : ℕ) : Field → ℕ
  | scalar size _ => alignUp off size
  | raw _ => off

/-- Where a field ends when the previous one ends at `off`. -/
def stop (off : ℕ) (f : Field) : ℕ := f.start off + f.bytes.length

@[simp] theorem bytes_scalar (size value : ℕ) :
    (scalar size value).bytes = LittleEndian.bytes size value := rfl

@[simp] theorem bytes_raw (bs : List UInt8) : (raw bs).bytes = bs := rfl

@[simp] theorem start_scalar (off size value : ℕ) :
    (scalar size value).start off = alignUp off size := rfl

@[simp] theorem start_raw (off : ℕ) (bs : List UInt8) : (raw bs).start off = off := rfl

@[simp] theorem stop_scalar (off size value : ℕ) :
    (scalar size value).stop off = alignUp off size + size := by
  rw [stop, start_scalar, bytes_scalar, LittleEndian.length_bytes]

@[simp] theorem stop_raw (off : ℕ) (bs : List UInt8) :
    (raw bs).stop off = off + bs.length := rfl

/-- A field begins at the offset or behind it. -/
theorem le_start (off : ℕ) (f : Field) : off ≤ f.start off := by
  cases f with
  | scalar size value => exact Nat.le_add_right _ _
  | raw bs => exact le_refl off

/-- A field ends at the offset or behind it. -/
theorem le_stop (off : ℕ) (f : Field) : off ≤ f.stop off :=
  (le_start off f).trans (Nat.le_add_right _ _)

end Field

/-- An offset that is a multiple of the width stays where it is. -/
theorem alignUp_of_mod_eq_zero {off size : ℕ} (h : off % size = 0) : alignUp off size = off := by
  rw [alignUp, h, if_neg (lt_irrefl 0), Nat.add_zero]

/-- Alignment does not move an offset back. -/
theorem le_alignUp (off size : ℕ) : off ≤ alignUp off size := Nat.le_add_right _ _

/-! ## Records -/

/-- Where the last of the fields ends when the first may begin at `off`. -/
def extent : ℕ → List Field → ℕ
  | off, [] => off
  | off, f :: fs => extent (f.stop off) fs

@[simp] theorem extent_nil (off : ℕ) : extent off [] = off := rfl

@[simp] theorem extent_cons (off : ℕ) (f : Field) (fs : List Field) :
    extent off (f :: fs) = extent (f.stop off) fs := rfl

/-- Fields begin where those before them end. -/
theorem extent_append (off : ℕ) (fs gs : List Field) :
    extent off (fs ++ gs) = extent (extent off fs) gs := by
  induction fs generalizing off with
  | nil => rfl
  | cons f fs ih => exact ih (f.stop off)

/-- Fields end at the offset or behind it. -/
theorem le_extent (off : ℕ) (fs : List Field) : off ≤ extent off fs := by
  induction fs generalizing off with
  | nil => exact le_refl off
  | cons f fs ih => exact (f.le_stop off).trans (ih _)

/-- The memory holds the fields, one after the other, from offset `off` on. -/
def Holds (mem : List UInt8) : ℕ → List Field → Prop
  | _, [] => True
  | off, f :: fs =>
      f.stop off ≤ mem.length ∧ slice mem (f.start off) f.bytes.length = f.bytes ∧
        Holds mem (f.stop off) fs

@[simp] theorem holds_nil (mem : List UInt8) (off : ℕ) : Holds mem off [] := trivial

/-- The first field is held, and the others from its end on. -/
theorem holds_cons {mem : List UInt8} {off : ℕ} {f : Field} {fs : List Field} :
    Holds mem off (f :: fs) ↔
      f.stop off ≤ mem.length ∧ slice mem (f.start off) f.bytes.length = f.bytes ∧
        Holds mem (f.stop off) fs := Iff.rfl

/-- Fields are held, and more of them from their end on. -/
theorem holds_append {mem : List UInt8} {off : ℕ} {fs gs : List Field} :
    Holds mem off (fs ++ gs) ↔ Holds mem off fs ∧ Holds mem (extent off fs) gs := by
  induction fs generalizing off with
  | nil => exact ⟨fun h => ⟨trivial, h⟩, fun h => h.2⟩
  | cons f fs ih => rw [List.cons_append, holds_cons, holds_cons, ih, extent_cons]; tauto

/-- Whether fields are held depends only on the bytes before their end. -/
theorem Holds.congr {mem mem' : List UInt8} {off : ℕ} {fs : List Field} (h : Holds mem off fs)
    (bound : ℕ) (hbound : extent off fs ≤ bound) (hlen : bound ≤ mem'.length)
    (hslice : ∀ o n, o + n ≤ bound → slice mem' o n = slice mem o n) : Holds mem' off fs := by
  induction fs generalizing off with
  | nil => trivial
  | cons f fs ih =>
      have hstop : f.stop off ≤ bound := (le_extent _ fs).trans hbound
      refine ⟨hstop.trans hlen, ?_, ih h.2.2 hbound⟩
      rw [hslice _ _ hstop]
      exact h.2.1

/-- The memory after the fields were written one after the other from offset `off` on. -/
def place (mem : List UInt8) : ℕ → List Field → List UInt8
  | _, [] => mem
  | off, f :: fs => place (overwrite mem (f.start off) f.bytes) (f.stop off) fs

@[simp] theorem place_nil (mem : List UInt8) (off : ℕ) : place mem off [] = mem := rfl

@[simp] theorem place_cons (mem : List UInt8) (off : ℕ) (f : Field) (fs : List Field) :
    place mem off (f :: fs) = place (overwrite mem (f.start off) f.bytes) (f.stop off) fs := rfl

/-- Fields are placed, and more of them from their end on. -/
theorem place_append (mem : List UInt8) (off : ℕ) (fs gs : List Field) :
    place mem off (fs ++ gs) = place (place mem off fs) (extent off fs) gs := by
  induction fs generalizing mem off with
  | nil => rfl
  | cons f fs ih => exact ih _ _

/-- Fields that fit in the memory still do after the first one is written. -/
theorem extent_le_length_overwrite {mem : List UInt8} {off : ℕ} {f : Field} {fs : List Field}
    (h : extent off (f :: fs) ≤ mem.length) :
    extent (f.stop off) fs ≤ (overwrite mem (f.start off) f.bytes).length := by
  rw [length_overwrite ((le_extent _ fs).trans h)]
  exact h

/-- Writing fields that fit does not change the length of the memory. -/
theorem length_place {mem : List UInt8} {off : ℕ} {fs : List Field}
    (h : extent off fs ≤ mem.length) : (place mem off fs).length = mem.length := by
  induction fs generalizing mem off with
  | nil => rfl
  | cons f fs ih =>
      rw [place_cons, ih (extent_le_length_overwrite h)]
      exact length_overwrite ((le_extent _ fs).trans h)

/-- Writing fields from offset `off` on leaves the bytes before `off` alone. -/
theorem slice_place {mem : List UInt8} {off o n : ℕ} {fs : List Field} (hon : o + n ≤ off)
    (h : extent off fs ≤ mem.length) : slice (place mem off fs) o n = slice mem o n := by
  induction fs generalizing mem off with
  | nil => rfl
  | cons f fs ih =>
      have hstop : f.stop off ≤ mem.length := (le_extent _ fs).trans h
      rw [place_cons, ih (hon.trans (f.le_stop off)) (extent_le_length_overwrite h)]
      exact slice_overwrite_before (hon.trans (f.le_start off)) (by
        have := f.le_stop off
        rw [Field.stop] at hstop
        omega)

/-- **What was placed is held**: fields that fit in the memory can be found again. -/
theorem holds_place {mem : List UInt8} {off : ℕ} {fs : List Field}
    (h : extent off fs ≤ mem.length) : Holds (place mem off fs) off fs := by
  induction fs generalizing mem off with
  | nil => trivial
  | cons f fs ih =>
      have hstop : f.stop off ≤ mem.length := (le_extent _ fs).trans h
      have hfit := extent_le_length_overwrite h
      refine ⟨?_, ?_, ih hfit⟩
      · rw [place_cons, length_place hfit, length_overwrite hstop]
        exact hstop
      · have hself : f.start off + f.bytes.length ≤ f.stop off := le_refl _
        rw [place_cons, slice_place hself hfit]
        exact slice_overwrite_self hstop

/-! ## Contiguous records

A layout that needs no padding is the concatenation of its fields. -/

/-- Every field begins exactly where the previous one ends. -/
def Contiguous : ℕ → List Field → Prop
  | _, [] => True
  | off, f :: fs => f.start off = off ∧ Contiguous (f.stop off) fs

/-- The concatenation of the fields. -/
def concat (fs : List Field) : List UInt8 := (fs.map Field.bytes).flatten

@[simp] theorem concat_nil : concat [] = [] := rfl

@[simp] theorem concat_cons (f : Field) (fs : List Field) : concat (f :: fs) = f.bytes ++ concat fs :=
  rfl

/-- The bytes of fields follow each other. -/
theorem concat_append (fs gs : List Field) : concat (fs ++ gs) = concat fs ++ concat gs := by
  rw [concat, List.map_append, List.flatten_append, concat, concat]

/-- **A contiguous record is held where it is concatenated**, whatever follows it. -/
theorem Contiguous.holds_concat {fs : List Field} (front rest : List UInt8)
    (h : Contiguous front.length fs) :
    Holds (front ++ (concat fs ++ rest)) front.length fs := by
  induction fs generalizing front with
  | nil => trivial
  | cons f fs ih =>
      have hnext : f.stop front.length = (front ++ f.bytes).length := by
        rw [Field.stop, h.1, List.length_append]
      have hmem : front ++ (concat (f :: fs) ++ rest)
          = (front ++ f.bytes) ++ (concat fs ++ rest) := by
        rw [concat_cons, List.append_assoc, List.append_assoc]
      refine ⟨?_, ?_, ?_⟩
      · rw [hnext, hmem]
        exact (List.prefix_append (front ++ f.bytes) _).length_le
      · rw [h.1, concat_cons, List.append_assoc]
        exact slice_append_middle _ _ _
      · rw [hmem, hnext]
        refine ih _ ?_
        rw [← hnext]
        exact h.2

end AlignedFields
