import Mathlib.Data.List.Induction
import Mathlib.Data.List.Sort

/-! # Stable priority queues

The things that wait, in the order of their arrival, and the one that is served next: the first one of
those with the smallest key. A list to which each thing is added before the first one with a greater
key has that one at its head.

* **`IsNext key waiting x others`** — what is served next, and what waits after it.
* **`arrange key waiting`** — the things that wait, each one added before those with a greater key.
* **`isNext_of_arrange`** — the head of the arranged list is what is served next. -/

namespace WebXEngine

variable {α β : Type*} [LinearOrder β] {key : α → β}

/-- The first one with the smallest key, and the other ones that wait. -/
def IsNext (key : α → β) (waiting : List α) (x : α) (others : List α) : Prop :=
  ∃ before after, waiting = before ++ x :: after ∧ others = before ++ after ∧
    (∀ y ∈ before, key x < key y) ∧ ∀ y ∈ after, key x ≤ key y

/-- No thing is lost when one is served. -/
theorem IsNext.perm {waiting others : List α} {x : α} (h : IsNext key waiting x others) :
    waiting.Perm (x :: others) := by
  obtain ⟨before, after, rfl, rfl, -, -⟩ := h
  exact List.perm_middle

/-- What is served next has the smallest key. -/
theorem IsNext.le {waiting others : List α} {x : α} (h : IsNext key waiting x others) :
    ∀ y ∈ waiting, key x ≤ key y := by
  obtain ⟨before, after, rfl, -, hbefore, hafter⟩ := h
  intro y hy
  rcases List.mem_append.mp hy with hy | hy
  · exact (hbefore y hy).le
  · rcases List.mem_cons.mp hy with rfl | hy
    · exact le_rfl
    · exact hafter y hy

/-- Another arrival with a key that is not smaller waits. -/
theorem IsNext.concat_of_le {waiting others : List α} {x y : α} (h : IsNext key waiting x others)
    (hle : key x ≤ key y) : IsNext key (waiting ++ [y]) x (others ++ [y]) := by
  obtain ⟨before, after, rfl, rfl, hbefore, hafter⟩ := h
  refine ⟨before, after ++ [y], by simp, by simp, hbefore, fun z hz => ?_⟩
  rcases List.mem_append.mp hz with hz | hz
  · exact hafter z hz
  · rwa [List.mem_singleton.mp hz]

/-- An arrival with a key that is smaller is served next. -/
theorem IsNext.concat_of_lt {waiting others : List α} {x y : α} (h : IsNext key waiting x others)
    (hlt : key y < key x) : IsNext key (waiting ++ [y]) y waiting :=
  ⟨waiting, [], rfl, (List.append_nil _).symm, fun z hz => hlt.trans_le (h.le z hz), by simp⟩

/-! ## Insertion -/

/-- A thing before the first one with a greater key. -/
def insertByKey (key : α → β) (x : α) (queue : List α) : List α :=
  queue.orderedInsert (fun y z => key y < key z) x

/-- A thing comes before the first one with a greater key. -/
theorem insertByKey_cons_of_lt {x y : α} (h : key x < key y) (queue : List α) :
    insertByKey key x (y :: queue) = x :: y :: queue :=
  List.orderedInsert_cons_of_le _ queue h

/-- A thing comes behind those whose key is not greater. -/
theorem insertByKey_cons_of_le {x y : α} (h : key y ≤ key x) (queue : List α) :
    insertByKey key x (y :: queue) = y :: insertByKey key x queue :=
  List.orderedInsert_of_not_le _ queue h.not_gt

/-- A thing is added at the end if no other one has a greater key. -/
theorem insertByKey_eq_concat {x : α} {queue : List α} (h : ∀ y ∈ queue, key y ≤ key x) :
    insertByKey key x queue = queue ++ [x] := by
  induction queue with
  | nil => rfl
  | cons y queue ih =>
    rw [insertByKey_cons_of_le (h y (List.mem_cons_self ..)),
      ih fun z hz => h z (List.mem_cons_of_mem y hz), List.cons_append]

/-- The things that wait, in the order in which they are served. -/
def arrange (key : α → β) (waiting : List α) : List α :=
  waiting.foldl (fun queue x => insertByKey key x queue) []

/-- The last thing is inserted last. -/
theorem arrange_concat (waiting : List α) (x : α) :
    arrange key (waiting ++ [x]) = insertByKey key x (arrange key waiting) :=
  List.foldl_concat ..

/-- Arranging loses nothing and adds nothing. -/
theorem arrange_perm (waiting : List α) : (arrange key waiting).Perm waiting := by
  induction waiting using List.reverseRecOn with
  | nil => exact .refl []
  | append_singleton waiting x ih =>
    rw [arrange_concat]
    exact (List.perm_orderedInsert _ x _).trans
      ((ih.cons x).trans (List.perm_append_singleton x waiting).symm)

/-- **The head of the arranged list is what is served next**, and its tail is the arranged list of the
other ones. -/
theorem isNext_of_arrange {waiting queue : List α} {x : α} (h : arrange key waiting = x :: queue) :
    ∃ others, IsNext key waiting x others ∧ arrange key others = queue := by
  induction waiting using List.reverseRecOn generalizing x queue with
  | nil => exact nomatch h
  | append_singleton waiting y ih =>
    rw [arrange_concat] at h
    rcases hwaiting : arrange key waiting with _ | ⟨z, rest⟩
    · -- nothing was waiting
      have hnil : waiting = [] := List.perm_nil.mp (hwaiting ▸ (arrange_perm waiting).symm)
      rw [hwaiting] at h
      obtain ⟨rfl, rfl⟩ := List.cons.inj h
      exact ⟨[], ⟨[], [], by rw [hnil], rfl, by simp, by simp⟩, rfl⟩
    · obtain ⟨others, hnext, hrest⟩ := ih hwaiting
      rw [hwaiting] at h
      rcases lt_or_ge (key y) (key z) with hlt | hle
      · rw [insertByKey_cons_of_lt hlt] at h
        obtain ⟨rfl, rfl⟩ := List.cons.inj h
        exact ⟨waiting, hnext.concat_of_lt hlt, hwaiting⟩
      · rw [insertByKey_cons_of_le hle] at h
        obtain ⟨rfl, rfl⟩ := List.cons.inj h
        exact ⟨others ++ [y], hnext.concat_of_le hle, by rw [arrange_concat, hrest]⟩

end WebXEngine
