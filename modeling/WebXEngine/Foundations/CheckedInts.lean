import Mathlib.Algebra.Group.Int.Defs
import Mathlib.Algebra.Group.Nat.Defs
import Mathlib.Data.Int.Notation
import Mathlib.Data.Nat.Notation
import Mathlib.Tactic.Common

/-! # Signed integers of 32 bits

A calculation with signed integers of 32 bits has no defined value when its result does not fit. A
number that is not negative is the same in the unsigned types of 32 and 64 bits.

* **`ofResult x`** — the result `x` of a calculation, if it fits.
* **`ofResult_eq_some_iff`** — a result that has a value is the exact one.
* **`exists_ofResult_iff`** — it has a value exactly when it is in the range.
* **`WrappingInt`** — a sum as it is compiled, with a mark for the overflows on the way; `is_add_iff`
  says when it stays the exact sum. -/

namespace WebXEngine

namespace CheckedInt

/-- The result of a calculation; no value when it overflows. -/
def ofResult (x : ℤ) : Option Int32 :=
  if -2 ^ 31 ≤ x ∧ x < 2 ^ 31 then some (.ofInt x) else none

/-- A result that fits is the value. -/
theorem ofResult_of_mem {x : ℤ} (hlow : -2 ^ 31 ≤ x) (hhigh : x < 2 ^ 31) :
    ofResult x = some (.ofInt x) := if_pos ⟨hlow, hhigh⟩

/-- **A result that has a value is the exact one.** -/
theorem ofResult_eq_some_iff {x : ℤ} {y : Int32} : ofResult x = some y ↔ y.toInt = x := by
  constructor
  · intro h
    rw [ofResult] at h
    split_ifs at h with hrange
    cases h
    exact Int32.toInt_ofInt_of_le hrange.1 hrange.2
  · rintro rfl
    rw [ofResult_of_mem y.le_toInt y.toInt_lt, Int32.ofInt_toInt]

/-- **A result has a value exactly when it is in the range.** -/
theorem exists_ofResult_iff {x : ℤ} :
    (∃ y, ofResult x = some y) ↔ -2 ^ 31 ≤ x ∧ x < 2 ^ 31 := by
  constructor
  · rintro ⟨y, h⟩
    obtain rfl := ofResult_eq_some_iff.mp h
    exact ⟨y.le_toInt, y.toInt_lt⟩
  · rintro ⟨hlow, hhigh⟩
    exact ⟨_, ofResult_of_mem hlow hhigh⟩

/-! ## Conversions -/

/-- An unsigned number that is not too large is the same as a signed one. -/
theorem toInt_toInt32 {x : UInt32} (h : x.toNat < 2 ^ 31) : x.toInt32.toInt = x.toNat :=
  BitVec.toInt_eq_toNat_of_lt (show 2 * x.toNat < 2 ^ 32 by omega)

/-- A number that is not negative is the same as an unsigned one. -/
theorem toNat_toUInt32 {x : Int32} (h : 0 ≤ x.toInt) : (x.toUInt32.toNat : ℤ) = x.toInt := by
  rw [Int32.toNat_toUInt32_of_le (Int32.le_iff_toInt_le.mpr h), Int32.toNatClampNeg,
    Int.toNat_of_nonneg h]

/-- It is the same as an unsigned one of 64 bits. -/
theorem toNat_toUInt64 {x : Int32} (h : 0 ≤ x.toInt) :
    (x.toInt64.toUInt64.toNat : ℤ) = x.toInt := by
  have hsame : x.toInt64.toInt = x.toInt := Int32.toInt_toInt64 x
  have hnonneg : 0 ≤ x.toInt64 := by
    rw [Int64.le_iff_toInt_le, hsame]
    exact h
  rw [Int64.toNat_toUInt64_of_le hnonneg, Int64.toNatClampNeg, hsame, Int.toNat_of_nonneg h]

/-- A negative number is a large unsigned one. -/
theorem le_toNat_toUInt64 {x : Int32} (h : x.toInt < 0) : 2 ^ 63 ≤ x.toInt64.toUInt64.toNat := by
  have hneg : x.toInt64.toBitVec.toInt < 0 := by
    rw [Int64.toInt_toBitVec, Int32.toInt_toInt64]
    exact h
  have hlarge := BitVec.toInt_neg_iff.mp hneg
  have hsame : x.toInt64.toUInt64.toNat = x.toInt64.toBitVec.toNat := rfl
  omega

end CheckedInt

/-- A sum of 32 bits as it is compiled, where a value wraps around; and whether a term or a sum did not
fit on the way. -/
structure WrappingInt where
  value : Int32
  overflow : Bool
  deriving DecidableEq, Repr

namespace WrappingInt

/-- A number is one of 32 bits. -/
def Fits (x : ℤ) : Prop := -2 ^ 31 ≤ x ∧ x < 2 ^ 31

instance (x : ℤ) : Decidable (Fits x) := inferInstanceAs (Decidable (_ ∧ _))

/-- The start of a sum. -/
def zero : WrappingInt := ⟨0, false⟩

variable {sum : WrappingInt} {x y : ℤ}

/-- Adds a term. -/
def add (sum : WrappingInt) (x : ℤ) : WrappingInt where
  value := sum.value + .ofInt x
  overflow := sum.overflow || !(decide (Fits x)) || !(decide (Fits (sum.value.toInt + x)))

/-- The sum is a number, and nothing overflowed. -/
def Is (sum : WrappingInt) (x : ℤ) : Prop := sum.overflow = false ∧ sum.value.toInt = x

/-- A sum without terms is zero. -/
theorem is_zero : zero.Is 0 := ⟨rfl, rfl⟩

/-- An overflow stays marked. -/
theorem overflow_of_add (h : (sum.add x).overflow = false) : sum.overflow = false := by
  simp only [add, Bool.or_eq_false_iff] at h
  exact h.1.1

/-- The value of a sum that fits. -/
theorem toInt_value_add (h : Fits (sum.value.toInt + x)) :
    (sum.add x).value.toInt = sum.value.toInt + x := by
  have hwrap : sum.value + .ofInt x = Int32.ofInt (sum.value.toInt + x) := by
    rw [Int32.ofInt_add, Int32.ofInt_toInt]
  rw [add, hwrap, Int32.toInt_ofInt_of_le h.1 h.2]

/-- **A sum stays exact** exactly when the term and the sum fit. -/
theorem is_add_iff (h : sum.Is y) : (sum.add x).Is (y + x) ↔ Fits x ∧ Fits (y + x) := by
  obtain ⟨hflag, rfl⟩ := h
  constructor
  · rintro ⟨hadded, -⟩
    simpa [add, hflag] using hadded
  · rintro ⟨hterm, hsum⟩
    exact ⟨by simp [add, hflag, hterm, hsum], toInt_value_add hsum⟩

/-- Without an overflow a sum stays exact. -/
theorem is_add_of_overflow (h : sum.Is y) (hflag : (sum.add x).overflow = false) :
    (sum.add x).Is (y + x) := by
  obtain ⟨-, rfl⟩ := h
  have hfits : Fits (sum.value.toInt + x) := by
    simp only [add, Bool.or_eq_false_iff, Bool.not_eq_false', decide_eq_true_eq] at hflag
    exact hflag.2
  exact ⟨hflag, toInt_value_add hfits⟩

end WrappingInt

end WebXEngine
