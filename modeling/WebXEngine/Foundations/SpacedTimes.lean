import Mathlib.Data.List.Basic
import Mathlib.Tactic.Linarith

/-! # Spaced times

Times of which each is later than all those before it by more than a gap.

* **`Spaced`** — the times of a list are spaced by a gap.
* **`Spaced.length_le`** — there are only so many of them in a period. -/

/-- Each time is later by more than a gap than all those before it. -/
def Spaced (gap : ℤ) (times : List ℤ) : Prop := times.Pairwise fun t u => t + gap < u

namespace Spaced

variable {gap first last : ℤ} {times : List ℤ}

/-- Some of the times. -/
theorem sublist {times' : List ℤ} (h : Spaced gap times) (hsub : times'.Sublist times) :
    Spaced gap times' :=
  List.Pairwise.sublist hsub h

/-- The gaps between the times of a period fit into it. -/
theorem length_mul_le (h : Spaced gap times)
    (hperiod : ∀ t ∈ times, first ≤ t ∧ t ≤ last) (hfirst : first ≤ last + gap) :
    times.length * gap ≤ last - first + gap := by
  induction times generalizing first with
  | nil =>
      rw [List.length_nil, Nat.cast_zero, zero_mul]
      omega
  | cons t times ih =>
      rw [Spaced, List.pairwise_cons] at h
      rw [List.forall_mem_cons] at hperiod
      obtain ⟨⟨hstart, hend⟩, hothers⟩ := hperiod
      -- the other times are in the period that starts with a gap
      have hrest : times.length * gap ≤ last - (t + gap) + gap :=
        ih h.2 (fun u hu => ⟨(h.1 u hu).le, (hothers u hu).2⟩) (by omega)
      rw [List.length_cons, Nat.cast_succ, add_mul, one_mul]
      omega

/-- **A period has only so many of the times.** -/
theorem length_le (hgap : 0 < gap) (h : Spaced gap times)
    (hperiod : ∀ t ∈ times, first ≤ t ∧ t ≤ last) (hfirst : first ≤ last) :
    (times.length : ℤ) ≤ (last - first) / gap + 1 := by
  have hmul := h.length_mul_le hperiod (by omega)
  have hdiv : ((times.length : ℤ) - 1) * gap ≤ last - first := by
    rw [sub_mul, one_mul]
    omega
  have := (Int.le_ediv_iff_mul_le hgap).mpr hdiv
  omega

end Spaced
