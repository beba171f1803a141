import Mathlib.Algebra.Order.Ring.Nat
import Mathlib.Tactic.Ring

/-! # Little-endian numbers

Fixed-width natural numbers as byte lists, least significant byte first.

* **`LittleEndian.bytes n v`** — the `n` bytes of `v`, bits above `8 * n` dropped.
* **`LittleEndian.value bs`** — the number a byte list denotes.
* **`value_bytes`** — what is written can be read, up to the width. -/

namespace LittleEndian

/-- The `n` little-endian bytes of `v`; what does not fit in `n` bytes is dropped. -/
def bytes : ℕ → ℕ → List UInt8
  | 0, _ => []
  | n + 1, v => UInt8.ofNat v :: bytes n (v / 256)

/-- The number denoted by a byte list, the first byte being the least significant. -/
def value : List UInt8 → ℕ
  | [] => 0
  | b :: bs => b.toNat + 256 * value bs

@[simp] theorem bytes_zero (v : ℕ) : bytes 0 v = [] := rfl

/-- The lowest byte comes first. -/
theorem bytes_succ (n v : ℕ) : bytes (n + 1) v = UInt8.ofNat v :: bytes n (v / 256) := rfl

@[simp] theorem value_nil : value [] = 0 := rfl

@[simp] theorem value_cons (b : UInt8) (bs : List UInt8) :
    value (b :: bs) = b.toNat + 256 * value bs := rfl

/-- A number written on `n` bytes takes `n` bytes. -/
@[simp] theorem length_bytes (n v : ℕ) : (bytes n v).length = n := by
  induction n generalizing v with
  | zero => rfl
  | succ n ih => rw [bytes_succ, List.length_cons, ih]

/-- Reading back `n` bytes gives the number modulo `256 ^ n`. -/
theorem value_bytes (n v : ℕ) : value (bytes n v) = v % 256 ^ n := by
  induction n generalizing v with
  | zero => rw [bytes_zero, value_nil, pow_zero, Nat.mod_one]
  | succ n ih =>
      have hdigit : (UInt8.ofNat v).toNat = v % 256 := UInt8.toNat_ofNat'
      rw [bytes_succ, value_cons, ih, hdigit, pow_succ', Nat.mod_mul]

/-- A number that fits in `n` bytes is read back exactly. -/
theorem value_bytes_of_lt {n v : ℕ} (h : v < 256 ^ n) : value (bytes n v) = v := by
  rw [value_bytes, Nat.mod_eq_of_lt h]

end LittleEndian
