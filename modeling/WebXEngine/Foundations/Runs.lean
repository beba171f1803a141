import Mathlib.Data.List.Basic

/-! # Runs of a transition function

A system that takes one action after another, when a step may fail and some actions may not be
allowed in some states.

* **`Run step allowed`** — the runs made of allowed steps that do not fail.
* **`Run.invariant`** — what every step keeps holds after every run.
* **`Run.exists_of_rank`** — what can be come closer to can be reached.
* **`foldlM_of_invariant`** — steps that never fail under an invariant make runs that never fail. -/

namespace WebXEngine

variable {S A E : Type*}

/-- The runs of a transition function: each action is allowed in the state it is taken in, and its
step does not fail. -/
inductive Run (step : S → A → Except E S) (allowed : S → A → Prop) : S → List A → S → Prop
  | nil (s : S) : Run step allowed s [] s
  | cons {s t u : S} {a : A} {as : List A} (ha : allowed s a) (hstep : step s a = .ok t)
      (hrun : Run step allowed t as u) : Run step allowed s (a :: as) u

namespace Run

variable {step : S → A → Except E S} {allowed : S → A → Prop} {s t u : S} {as bs : List A}

/-- The run of one step. -/
theorem single {a : A} (ha : allowed s a) (hstep : step s a = .ok t) :
    Run step allowed s [a] t := .cons ha hstep (.nil t)

/-- Fewer actions are allowed, fewer runs are possible. -/
theorem mono {allowed' : S → A → Prop} (himp : ∀ s a, allowed s a → allowed' s a)
    (h : Run step allowed s as t) : Run step allowed' s as t := by
  induction h with
  | nil s => exact .nil s
  | cons ha hstep _ ih => exact .cons (himp _ _ ha) hstep ih

/-- The actions of a run are those of a list. -/
theorem restrict {Q : A → Prop} (h : Run step allowed s as t) (hall : ∀ a ∈ as, Q a) :
    Run step (fun s a => Q a ∧ allowed s a) s as t := by
  induction h with
  | nil s => exact .nil s
  | cons ha hstep _ ih =>
      rw [List.forall_mem_cons] at hall
      exact .cons ⟨hall.1, ha⟩ hstep (ih hall.2)

/-- **The invariant rule.** What the allowed steps keep, the runs keep. -/
theorem invariant {P : S → Prop}
    (hkeep : ∀ s a t, P s → allowed s a → step s a = .ok t → P t)
    (h : Run step allowed s as t) (hs : P s) : P t := by
  induction h with
  | nil s => exact hs
  | cons ha hstep _ ih => exact ih (hkeep _ _ _ hs ha hstep)

/-- **The progress rule.** When a rank can be made smaller until a property holds, some run leads to
it. -/
theorem exists_of_rank {P Inv : S → Prop} (rank : S → ℕ)
    (hprogress : ∀ s, Inv s → ¬ P s →
      ∃ a t, allowed s a ∧ step s a = .ok t ∧ Inv t ∧ rank t < rank s) :
    ∀ s, Inv s → ∃ as t, Run step allowed s as t ∧ P t := by
  intro s
  induction hrank : rank s using Nat.strongRecOn generalizing s with
  | ind n ih =>
      intro hs
      by_cases hP : P s
      · exact ⟨[], s, .nil s, hP⟩
      · obtain ⟨a, t, ha, hstep, ht, hlt⟩ := hprogress s hs hP
        obtain ⟨as, u, hrun, hu⟩ := ih (rank t) (hrank ▸ hlt) t rfl ht
        exact ⟨a :: as, u, .cons ha hstep hrun, hu⟩

end Run

/-- A sequence that does not fail, by its two parts. -/
theorem exists_of_bind_eq_ok {T : Type _} {x : Except E S} {f : S → Except E T} {t : T}
    (h : x >>= f = .ok t) : ∃ s, x = .ok s ∧ f s = .ok t := by
  cases x with
  | error e => cases h
  | ok s => exact ⟨s, rfl, h⟩

/-- A change of a result that does not fail. -/
theorem exists_of_map_eq_ok {x : Except E S} {f : S → A} {a : A} (h : x.map f = .ok a) :
    ∃ s, x = .ok s ∧ f s = a := by
  cases x with
  | error e => cases h
  | ok s =>
      cases h
      exact ⟨s, rfl, rfl⟩

/-- When a sequence does not fail. -/
theorem bind_eq_ok_iff {T : Type _} {x : Except E S} {f : S → Except E T} {t : T} :
    x >>= f = .ok t ↔ ∃ s, x = .ok s ∧ f s = .ok t := by
  refine ⟨exists_of_bind_eq_ok, ?_⟩
  rintro ⟨s, rfl, h⟩
  exact h

/-- An execution that does not fail is a run. -/
theorem Run.of_foldlM {step : S → A → Except E S} {as : List A} :
    ∀ {s t : S}, as.foldlM step s = .ok t → Run step (fun _ _ => True) s as t := by
  induction as with
  | nil =>
      intro s t h
      rw [List.foldlM_nil] at h
      cases h
      exact .nil s
  | cons a as ih =>
      intro s t h
      rw [List.foldlM_cons] at h
      cases hstep : step s a with
      | error e =>
          rw [hstep] at h
          exact nomatch h
      | ok u =>
          rw [hstep] at h
          exact .cons trivial hstep (ih h)

/-- Steps that never fail, and keep what makes them so, make executions that never fail. -/
theorem foldlM_of_invariant {step : S → A → Except E S} {P : S → Prop}
    (hkeep : ∀ s a, P s → ∃ t, step s a = .ok t ∧ P t) (as : List A) :
    ∀ {s : S}, P s → ∃ t, as.foldlM step s = .ok t ∧ P t := by
  induction as with
  | nil => exact fun hs => ⟨_, rfl, hs⟩
  | cons a as ih =>
      intro s hs
      obtain ⟨t, hstep, ht⟩ := hkeep s a hs
      obtain ⟨u, hexec, hu⟩ := ih ht
      exact ⟨u, by rw [List.foldlM_cons, hstep]; exact hexec, hu⟩

/-! ## Two programs that agree -/

/-- Two results agree: both fail in the same way, or both succeed with related values. -/
inductive ResultsAgree {E S T : Type*} (R : S → T → Prop) : Except E S → Except E T → Prop
  | error (e : E) : ResultsAgree R (.error e) (.error e)
  | ok {s : S} {t : T} (h : R s t) : ResultsAgree R (.ok s) (.ok t)

/-- Programs that agree one after the other agree. -/
theorem ResultsAgree.bind.{u} {E S T S' T' : Type u} {R : S → T → Prop} {R' : S' → T' → Prop}
    {x : Except E S} {y : Except E T} {f : S → Except E S'} {g : T → Except E T'}
    (h : ResultsAgree R x y) (hnext : ∀ s t, R s t → ResultsAgree R' (f s) (g t)) :
    ResultsAgree R' (x >>= f) (y >>= g) := by
  cases h with
  | error e => exact .error e
  | ok h => exact hnext _ _ h

/-- A choice that both programs make. -/
theorem ResultsAgree.ite {E S T : Type*} {R : S → T → Prop} {c : Prop} [Decidable c]
    {x x' : Except E S} {y y' : Except E T} (h : ResultsAgree R x y) (h' : ResultsAgree R x' y') :
    ResultsAgree R (if c then x else x') (if c then y else y') := by
  split_ifs
  · exact h
  · exact h'

end WebXEngine
