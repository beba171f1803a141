import Mathlib.Data.Finset.Card

/-! # Condition variables

The threads that wait for something under a lock. A thread that sleeps is woken up by a notification, or
for no reason; it runs again when it has the lock.

* **`Sleepers`** — the threads that sleep, and those that have been woken up and have not run since.
* **`Sleepers.Served`** — no wake-up is lost: when a thread sleeps, each thing that has arrived has its
  own thread that is woken up. -/

/-- The threads of a condition variable. -/
structure Sleepers (T : Type*) where
  asleep : Finset T
  woken : Finset T
  disjoint : Disjoint asleep woken

namespace Sleepers

variable {T : Type*} [DecidableEq T]

/-- No thread. -/
def nobody : Sleepers T := ⟨∅, ∅, Finset.disjoint_empty_left ∅⟩

/-- A thread goes to sleep. -/
def sleep (s : Sleepers T) (t : T) : Sleepers T where
  asleep := insert t s.asleep
  woken := s.woken.erase t
  disjoint := Finset.disjoint_insert_left.mpr
    ⟨Finset.notMem_erase t s.woken, s.disjoint.mono_right (Finset.erase_subset t s.woken)⟩

/-- A thread goes on with something else. -/
def leave (s : Sleepers T) (t : T) : Sleepers T where
  asleep := s.asleep
  woken := s.woken.erase t
  disjoint := s.disjoint.mono_right (Finset.erase_subset t s.woken)

/-- A thread is woken up. -/
def wake (s : Sleepers T) (t : T) : Sleepers T where
  asleep := s.asleep.erase t
  woken := insert t s.woken
  disjoint := Finset.disjoint_insert_right.mpr
    ⟨Finset.notMem_erase t s.asleep, s.disjoint.mono_left (Finset.erase_subset t s.asleep)⟩

/-- All threads are woken up. -/
def notifyAll (s : Sleepers T) : Sleepers T := ⟨∅, s.asleep ∪ s.woken, Finset.disjoint_empty_left _⟩

/-- The thread that a notification wakes up, if any sleeps. -/
def CanNotify (s : Sleepers T) : Option T → Prop
  | none => s.asleep = ∅
  | some t => t ∈ s.asleep

instance (s : Sleepers T) : ∀ choice, Decidable (s.CanNotify choice)
  | none => inferInstanceAs (Decidable (s.asleep = ∅))
  | some t => inferInstanceAs (Decidable (t ∈ s.asleep))

/-- One thread is woken up. -/
def notifyOne (s : Sleepers T) (choice : Option T) : Sleepers T := choice.elim s s.wake

/-- No wake-up is lost: when a thread sleeps, as many threads are woken up as things have arrived. -/
def Served (s : Sleepers T) (things : ℕ) : Prop := s.asleep.Nonempty → things ≤ s.woken.card

variable {s : Sleepers T} {things : ℕ} {t : T}

omit [DecidableEq T] in
/-- Nothing is lost when nothing has arrived. -/
theorem served_zero : s.Served 0 := fun _ => Nat.zero_le _

omit [DecidableEq T] in
/-- Nothing is lost when nobody sleeps. -/
theorem served_of_asleep_eq_empty (h : s.asleep = ∅) : s.Served things := by
  intro hsome
  rw [h] at hsome
  exact absurd hsome Finset.not_nonempty_empty

/-- A thread that wakes up is one more that is awake. -/
theorem card_woken_wake (h : t ∈ s.asleep) : (s.wake t).woken.card = s.woken.card + 1 :=
  Finset.card_insert_of_notMem (Finset.disjoint_left.mp s.disjoint h)

/-- A thread that wakes up for no reason takes nothing from the others. -/
theorem Served.wake (hserved : s.Served things) (h : t ∈ s.asleep) : (s.wake t).Served things := by
  intro _
  rw [card_woken_wake h]
  exact Nat.le_succ_of_le (hserved ⟨t, h⟩)

/-- **A thing that arrives with a notification** has its thread. -/
theorem Served.notifyOne (hserved : s.Served things) {choice : Option T} (h : s.CanNotify choice) :
    (s.notifyOne choice).Served (things + 1) := by
  cases choice with
  | none => exact served_of_asleep_eq_empty h
  | some t =>
      intro _
      show things + 1 ≤ (s.wake t).woken.card
      rw [card_woken_wake h]
      exact Nat.succ_le_succ (hserved ⟨t, h⟩)

/-- **A thread that goes on takes one thing**, whether it had been woken up or not. -/
theorem Served.leave (hserved : s.Served (things + 1)) : (s.leave t).Served things := by
  intro hsome
  have hle := hserved hsome
  have hcard := Finset.pred_card_le_card_erase (s := s.woken) (a := t)
  show things ≤ (s.woken.erase t).card
  omega

end Sleepers
