import WebXEngine.Foundations.AlignedFields

/-! # Reading aligned fields

A reader takes the fields of a record one after the other: it moves to the next multiple of the
width before a number and stays where it is before a byte string.

* **`FieldReader α`** — a program over a memory and an offset.
* **`Reads r fs a`** — wherever the fields `fs` are held, `r` returns `a` and stops behind them. -/

namespace AlignedFields

/-- A reader of a memory from an offset on; it fails when it would leave the memory. -/
def FieldReader (α : Type) : Type := List UInt8 → ℕ → Option (α × ℕ)

namespace FieldReader

variable {α β : Type}

instance : Monad FieldReader where
  pure a := fun _ off => some (a, off)
  bind r f := fun mem off => (r mem off).bind fun next => f next.1 mem next.2

/-- Reads a number at the next multiple of its width. -/
def scalar (size : ℕ) : FieldReader ℕ := fun mem off =>
  if alignUp off size + size ≤ mem.length then
    some (LittleEndian.value (slice mem (alignUp off size) size), alignUp off size + size)
  else
    none

/-- Reads a byte string of a given length. -/
def raw (n : ℕ) : FieldReader (List UInt8) := fun mem off =>
  if off + n ≤ mem.length then some (slice mem off n, off + n) else none

/-- Reads a record several times. -/
def many (r : FieldReader α) : ℕ → FieldReader (List α)
  | 0 => pure []
  | n + 1 => do return (← r) :: (← many r n)

end FieldReader

open FieldReader

variable {α β : Type}

/-- Wherever the fields `fs` are held, the reader returns `a` and stops where they end. -/
def Reads (r : FieldReader α) (fs : List Field) (a : α) : Prop :=
  ∀ mem off, Holds mem off fs → r mem off = some (a, extent off fs)

/-- A reader that reads nothing. -/
theorem Reads.pure (a : α) : Reads (Pure.pure a : FieldReader α) [] a := fun _ _ _ => rfl

/-- A reader followed by another reads the fields of both. -/
theorem Reads.bind {r : FieldReader α} {f : α → FieldReader β} {fs gs : List Field} {a : α} {b : β}
    (hr : Reads r fs a) (hf : Reads (f a) gs b) : Reads (r >>= f) (fs ++ gs) b := by
  intro mem off h
  obtain ⟨hfs, hgs⟩ := holds_append.mp h
  show (r mem off).bind _ = _
  rw [hr mem off hfs, Option.bind_some, hf mem _ hgs, extent_append]

/-- A reader of one field followed by another reader. -/
theorem Reads.cons {r : FieldReader α} {f : α → FieldReader β} {g : Field} {gs : List Field} {a : α}
    {b : β} (hr : Reads r [g] a) (hf : Reads (f a) gs b) : Reads (r >>= f) (g :: gs) b :=
  hr.bind hf

/-- A number is read modulo the range of its width. -/
theorem reads_scalar (n v : ℕ) : Reads (scalar n) [.scalar n v] (v % 256 ^ n) := by
  intro mem off h
  obtain ⟨hfit, hslice, -⟩ := holds_cons.mp h
  rw [Field.stop_scalar] at hfit
  rw [Field.bytes_scalar, LittleEndian.length_bytes, Field.start_scalar] at hslice
  rw [scalar, if_pos hfit, hslice, LittleEndian.value_bytes, extent_cons, extent_nil,
    Field.stop_scalar]

/-- A byte string is read when its length is known. -/
theorem reads_raw (bs : List UInt8) : Reads (raw bs.length) [.raw bs] bs := by
  intro mem off h
  obtain ⟨hfit, hslice, -⟩ := holds_cons.mp h
  rw [Field.stop_raw] at hfit
  rw [Field.bytes_raw, Field.start_raw] at hslice
  rw [raw, if_pos hfit, hslice]
  rfl

/-- As many records are read as there are. -/
theorem reads_many {γ : Type} {r : FieldReader α} {fields : γ → List Field} {view : γ → α}
    {l : List γ} (h : ∀ c ∈ l, Reads r (fields c) (view c)) :
    Reads (many r l.length) (l.flatMap fields) (l.map view) := by
  induction l with
  | nil => exact .pure []
  | cons c l ih =>
      have hrest := ih fun d hd => h d (List.mem_cons_of_mem c hd)
      rw [List.flatMap_cons]
      refine (h c List.mem_cons_self).bind ?_
      rw [← List.append_nil (l.flatMap fields)]
      exact hrest.bind (.pure _)

end AlignedFields
