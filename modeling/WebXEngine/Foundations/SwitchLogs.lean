import Mathlib.Data.List.Basic
import Mathlib.Tactic.SplitIfs

/-! # Logs of switches

A log of switches that are turned on and off, each one off at the start.

* **`SwitchLog.isOn`** — the state in which the log leaves a switch.
* **`SwitchLog.Alternates`** — every entry changes its switch.
* **`Alternates.append`** — entries that change different switches can be added. -/

namespace SwitchLog

variable {K : Type*} [DecidableEq K]

/-- The states that a switch has had. -/
def statesOf (key : K) (log : List (K × Bool)) : List Bool :=
  (log.filter fun entry => entry.1 = key).map Prod.snd

/-- The state of a switch. -/
def isOn (log : List (K × Bool)) (key : K) : Bool := (statesOf key log).getLastD false

/-- States that change with each of them, after a first one. -/
def Changes : Bool → List Bool → Prop
  | _, [] => True
  | before, on :: states => on = !before ∧ Changes on states

/-- Every entry of a log changes its switch. -/
def Alternates (log : List (K × Bool)) : Prop := ∀ key, Changes false (statesOf key log)

/-- The states of a switch follow each other. -/
theorem statesOf_append (key : K) (log log' : List (K × Bool)) :
    statesOf key (log ++ log') = statesOf key log ++ statesOf key log' := by
  rw [statesOf, List.filter_append, List.map_append]
  rfl

/-- A switch without an entry. -/
theorem statesOf_of_notMem {log : List (K × Bool)} {key : K} (h : key ∉ log.map Prod.fst) :
    statesOf key log = [] := by
  have hnone : log.filter (fun entry => entry.1 = key) = [] := by
    refine List.filter_eq_nil_iff.mpr fun entry hentry hkey => h ?_
    rw [← of_decide_eq_true hkey]
    exact List.mem_map_of_mem hentry
  rw [statesOf, hnone, List.map_nil]

/-- A switch with one entry. -/
theorem statesOf_of_mem {log : List (K × Bool)} (hnodup : (log.map Prod.fst).Nodup) {key : K}
    {on : Bool} (h : (key, on) ∈ log) : statesOf key log = [on] := by
  induction log with
  | nil => cases h
  | cons entry log ih =>
      rw [List.map_cons, List.nodup_cons] at hnodup
      rcases List.mem_cons.mp h with rfl | hlater
      · -- the others have other switches
        have hothers : statesOf key log = [] := statesOf_of_notMem hnodup.1
        rw [statesOf, List.filter_cons_of_pos (by simp), List.map_cons, ← statesOf, hothers]
      · have hkey : ¬ entry.1 = key := fun hkey =>
          hnodup.1 (hkey ▸ List.mem_map_of_mem hlater)
        rw [statesOf, List.filter_cons_of_neg (by simpa using hkey)]
        exact ih hnodup.2 hlater

/-- One more change. -/
theorem Changes.concat {before : Bool} {states : List Bool} (h : Changes before states) :
    Changes before (states ++ [!states.getLastD before]) := by
  induction states generalizing before with
  | nil => exact ⟨rfl, trivial⟩
  | cons on states ih =>
      rw [List.getLastD_cons]
      exact ⟨h.1, ih h.2⟩

/-- The state of a switch after other entries. -/
theorem isOn_append {log changes : List (K × Bool)} (hnodup : (changes.map Prod.fst).Nodup)
    (key : K) :
    isOn (log ++ changes) key =
      if (key, true) ∈ changes then true
      else if (key, false) ∈ changes then false
      else isOn log key := by
  rw [isOn, statesOf_append]
  split_ifs with hon hoff
  · rw [statesOf_of_mem hnodup hon, List.getLastD_concat]
  · rw [statesOf_of_mem hnodup hoff, List.getLastD_concat]
  · have hkey : key ∉ changes.map Prod.fst := by
      rintro hkey
      obtain ⟨⟨key, on⟩, hentry, rfl⟩ := List.mem_map.mp hkey
      cases on
      · exact hoff hentry
      · exact hon hentry
    rw [statesOf_of_notMem hkey, List.append_nil]
    rfl

/-- **Entries that change different switches** can be added to a log. -/
theorem Alternates.append {log changes : List (K × Bool)} (h : Alternates log)
    (hnodup : (changes.map Prod.fst).Nodup)
    (hchange : ∀ key on, (key, on) ∈ changes → on = !isOn log key) : Alternates (log ++ changes) := by
  intro key
  rw [statesOf_append]
  by_cases hkey : key ∈ changes.map Prod.fst
  · obtain ⟨⟨key, on⟩, hentry, rfl⟩ := List.mem_map.mp hkey
    rw [statesOf_of_mem hnodup hentry, hchange key on hentry]
    exact (h key).concat
  · rw [statesOf_of_notMem hkey, List.append_nil]
    exact h key

end SwitchLog
