import Mathlib.Algebra.Order.Ring.Nat
import Mathlib.Tactic.Common

/-! # Values on another scale

A value of a scale from 0 to `m`, at the nearest value of a scale from 0 to `n`.

* **`rescale m n x`** — the nearest value.
* **`rescale_bounds`** — how near it is.
* **`rescale_rescale`** — nothing is lost on a scale that is not coarser. -/

namespace ScaledRounding

/-- The value on another scale, halves being rounded up. -/
def rescale (m n x : ℕ) : ℕ := (x * n + m / 2) / m

variable {m n : ℕ}

/-- **The value is the nearest one.** -/
theorem rescale_bounds (hm : 0 < m) (n x : ℕ) :
    m * rescale m n x ≤ x * n + m / 2 ∧ x * n + m / 2 < m * rescale m n x + m := by
  have hdiv : m * rescale m n x + (x * n + m / 2) % m = x * n + m / 2 := Nat.div_add_mod _ _
  have hmod : (x * n + m / 2) % m < m := Nat.mod_lt _ hm
  omega

/-- The scale is not left. -/
theorem rescale_le {x : ℕ} (hx : x ≤ m) : rescale m n x ≤ n := by
  rcases Nat.eq_zero_or_pos m with rfl | hm
  · rw [rescale, Nat.div_zero]
    exact n.zero_le
  · have hmul : x * n ≤ m * n := Nat.mul_le_mul_right n hx
    have hlow : m * rescale m n x ≤ x * n + m / 2 := (rescale_bounds hm n x).1
    have hhalf : m / 2 < m := Nat.div_lt_self hm (by decide)
    have hlt : m * rescale m n x < m * (n + 1) := by
      rw [Nat.mul_succ]
      omega
    exact Nat.lt_succ_iff.mp (Nat.lt_of_mul_lt_mul_left hlt)

/-- A scale is not changed into itself. -/
theorem rescale_self (hm : 0 < m) (x : ℕ) : rescale m m x = x := by
  have hhalf : m / 2 < m := Nat.div_lt_self hm (by decide)
  rw [rescale, Nat.add_comm, Nat.add_mul_div_right _ _ hm, Nat.div_eq_of_lt hhalf, Nat.zero_add]

/-- **Nothing is lost on a scale that is not coarser.** -/
theorem rescale_rescale (hm : 0 < m) (hmn : m ≤ n) (x : ℕ) :
    rescale n m (rescale m n x) = x := by
  rcases hmn.eq_or_lt with rfl | hlt
  · rw [rescale_self hm, rescale_self hm]
  · obtain ⟨hlow, hhigh⟩ := rescale_bounds hm n x
    have hcomm : rescale m n x * m = m * rescale m n x := Nat.mul_comm _ _
    -- the value is off by half a step of the coarser scale, which is less than half of the finer one
    have hfirst : x * n ≤ rescale m n x * m + n / 2 := by omega
    have hnext : rescale m n x * m + n / 2 < (x + 1) * n := by
      rw [Nat.succ_mul]
      omega
    exact Nat.div_eq_of_lt_le hfirst hnext

end ScaledRounding
