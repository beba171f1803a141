import Mathlib.Analysis.Real.Sqrt
import Mathlib.Tactic.Linarith
import Mathlib.Tactic.Ring

/-! # Means and standard deviations

The mean and the standard deviation of some samples, as real numbers.

* **`mean`**, **`deviation`** — the mean and the standard deviation.
* **`deviation_le_mean_iff`** — when the deviation of samples that are not negative is not greater than
  their mean. -/

namespace WebXEngine

/-- The mean of samples. -/
noncomputable def mean (samples : List ℝ) : ℝ := samples.sum / samples.length

/-- The sum of the squares of the differences to a number. -/
def sumSquaredDiffs (samples : List ℝ) (m : ℝ) : ℝ :=
  (samples.map fun x => (x - m) * (x - m)).sum

/-- The standard deviation of samples. -/
noncomputable def deviation (samples : List ℝ) : ℝ :=
  √(sumSquaredDiffs samples (mean samples) / samples.length)

variable {samples : List ℝ}

/-- A number of samples that can be divided by. -/
theorem length_pos_of_ne_nil (h : samples ≠ []) : (0 : ℝ) < samples.length :=
  Nat.cast_pos.mpr (List.length_pos_iff.mpr h)

/-- The mean is not greater than a bound of the samples. -/
theorem mean_le (h : samples ≠ []) {bound : ℝ} (hle : ∀ x ∈ samples, x ≤ bound) :
    mean samples ≤ bound := by
  have hsum := List.sum_le_card_nsmul samples bound hle
  rw [nsmul_eq_mul] at hsum
  rw [mean, div_le_iff₀ (length_pos_of_ne_nil h), mul_comm]
  exact hsum

/-- The squared differences, by the sum of the samples and that of their squares. -/
theorem sumSquaredDiffs_eq (samples : List ℝ) (m : ℝ) :
    sumSquaredDiffs samples m =
      (samples.map fun x => x ^ 2).sum - 2 * m * samples.sum + samples.length * m ^ 2 := by
  induction samples with
  | nil => simp [sumSquaredDiffs]
  | cons x samples ih =>
    rw [sumSquaredDiffs] at ih ⊢
    rw [List.map_cons, List.sum_cons, ih, List.map_cons, List.sum_cons, List.sum_cons,
      List.length_cons, Nat.cast_succ]
    ring

/-- The standard deviation is not greater than the mean exactly when the mean of the squares is at
most twice the square of the mean. -/
theorem deviation_le_mean_iff (h : samples ≠ []) (hnonneg : ∀ x ∈ samples, 0 ≤ x) :
    deviation samples ≤ mean samples ↔
      samples.length * (samples.map fun x => x ^ 2).sum ≤ 2 * samples.sum ^ 2 := by
  have hlength := length_pos_of_ne_nil h
  have hmean : 0 ≤ mean samples := div_nonneg (List.sum_nonneg hnonneg) hlength.le
  have hsum : samples.sum = mean samples * samples.length := by
    rw [mean, div_mul_cancel₀ _ hlength.ne']
  rw [deviation, Real.sqrt_le_left hmean, div_le_iff₀ hlength, sumSquaredDiffs_eq, hsum]
  generalize (samples.map fun x => x ^ 2).sum = squares
  generalize mean samples = m
  constructor
  · intro hle
    have hscaled := mul_le_mul_of_nonneg_left hle hlength.le
    linarith
  · intro hle
    refine le_of_mul_le_mul_left ?_ hlength
    linarith

end WebXEngine
