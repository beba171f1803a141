import Mathlib.Data.List.Basic
import Mathlib.Data.List.Nodup

/-! # Changing the first element that is found

A program that looks for an object in a vector and then changes that object in place, or erases it,
changes the first element that satisfies a test.

* **`updateFirst p f`** — the first element that satisfies `p` becomes `f` of it, or is deleted.
* **`updateFirst_eq_append`** — the list around the element that is found does not change. -/

namespace WebXEngine

variable {α β : Type*}

/-- Changes the first element that satisfies `p`; no new value deletes it. -/
def updateFirst (p : α → Bool) (f : α → Option α) : List α → List α
  | [] => []
  | a :: as => if p a then (f a).toList ++ as else a :: updateFirst p f as

@[simp] theorem updateFirst_nil (p : α → Bool) (f : α → Option α) : updateFirst p f [] = [] := rfl

/-- The first element is the one. -/
theorem updateFirst_cons_of_pos {p : α → Bool} (f : α → Option α) {a : α} (as : List α)
    (h : p a = true) : updateFirst p f (a :: as) = (f a).toList ++ as := if_pos h

/-- The first element is not the one. -/
theorem updateFirst_cons_of_neg {p : α → Bool} (f : α → Option α) {a : α} (as : List α)
    (h : ¬ p a = true) : updateFirst p f (a :: as) = a :: updateFirst p f as := if_neg h

/-- Nothing changes when nothing is found. -/
theorem updateFirst_of_find?_eq_none {p : α → Bool} {f : α → Option α} {as : List α}
    (h : as.find? p = none) : updateFirst p f as = as := by
  induction as with
  | nil => rfl
  | cons a as ih =>
      rw [List.find?_eq_none, List.forall_mem_cons] at h
      rw [updateFirst_cons_of_neg f as h.1, ih (List.find?_eq_none.mpr h.2)]

/-- A list in which nothing is found does not change in front of another. -/
theorem updateFirst_append_of_find?_eq_none {p : α → Bool} {f : α → Option α} {as : List α}
    (bs : List α) (h : as.find? p = none) :
    updateFirst p f (as ++ bs) = as ++ updateFirst p f bs := by
  induction as with
  | nil => rfl
  | cons a as ih =>
      rw [List.find?_eq_none, List.forall_mem_cons] at h
      rw [List.cons_append, updateFirst_cons_of_neg f _ h.1, ih (List.find?_eq_none.mpr h.2),
        List.cons_append]

/-- What surrounds the element that is found does not change. -/
theorem updateFirst_eq_append {p : α → Bool} (f : α → Option α) {as : List α} {a : α}
    (h : as.find? p = some a) :
    ∃ before after, as = before ++ a :: after ∧ p a = true ∧ (∀ b ∈ before, ¬ p b = true) ∧
      updateFirst p f as = before ++ ((f a).toList ++ after) := by
  induction as with
  | nil => exact nomatch h
  | cons b as ih =>
      by_cases hb : p b = true
      · rw [List.find?_cons_of_pos hb, Option.some.injEq] at h
        subst h
        exact ⟨[], as, rfl, hb, by simp, updateFirst_cons_of_pos f as hb⟩
      · rw [List.find?_cons_of_neg hb] at h
        obtain ⟨before, after, rfl, ha, hbefore, heq⟩ := ih h
        refine ⟨b :: before, after, rfl, ha, ?_, ?_⟩
        · rw [List.forall_mem_cons]
          exact ⟨hb, hbefore⟩
        · rw [updateFirst_cons_of_neg f _ hb, heq, List.cons_append]

/-- A change that marks the element it finds is undone where the mark is found. -/
theorem updateFirst_updateFirst_cancel {p q : α → Bool} {f g : α → Option α} {as : List α} {a b : α}
    (hfind : as.find? p = some a) (hf : f a = some b) (hq : ∀ c ∈ as, ¬ q c = true) (hb : q b = true)
    (hg : g b = some a) : updateFirst q g (updateFirst p f as) = as := by
  obtain ⟨before, after, rfl, -, -, heq⟩ := updateFirst_eq_append f hfind
  have hbefore : before.find? q = none :=
    List.find?_eq_none.mpr fun c hc => hq c (List.mem_append_left _ hc)
  rw [heq, hf, Option.toList_some, List.singleton_append,
    updateFirst_append_of_find?_eq_none _ hbefore, updateFirst_cons_of_pos g after hb, hg]
  rfl

/-- An element that was added at the end is deleted where it alone is found. -/
theorem updateFirst_concat_cancel {q : α → Bool} {g : α → Option α} {as : List α} {b : α}
    (hq : ∀ c ∈ as, ¬ q c = true) (hb : q b = true) (hg : g b = none) :
    updateFirst q g (as ++ [b]) = as := by
  rw [updateFirst_append_of_find?_eq_none _ (List.find?_eq_none.mpr hq),
    updateFirst_cons_of_pos g [] hb, hg]
  simp

/-- An element of the changed list was there before, or is the new value of the element that was
found. -/
theorem mem_updateFirst {p : α → Bool} {f : α → Option α} {as : List α} {b : α}
    (h : b ∈ updateFirst p f as) : b ∈ as ∨ ∃ a, as.find? p = some a ∧ f a = some b := by
  cases hfind : as.find? p with
  | none => exact .inl (updateFirst_of_find?_eq_none (f := f) hfind ▸ h)
  | some a =>
      obtain ⟨before, after, rfl, -, -, heq⟩ := updateFirst_eq_append f hfind
      rw [heq, List.mem_append, List.mem_append, Option.mem_toList] at h
      rcases h with h | h | h
      · exact .inl (List.mem_append_left _ h)
      · exact .inr ⟨a, rfl, h⟩
      · exact .inl (List.mem_append_right _ (List.mem_cons_of_mem _ h))

/-- A search is not affected by a change that keeps what is searched, and does not delete it; an
image of what is found stays the same when the change keeps it. -/
theorem map_find?_updateFirst {p q : α → Bool} {f : α → Option α} (g : α → β) {as : List α}
    (hkeep : ∀ a, as.find? p = some a →
      (f a = none → q a = false) ∧ ∀ b, f a = some b → q b = q a ∧ (q a = true → g b = g a)) :
    ((updateFirst p f as).find? q).map g = (as.find? q).map g := by
  induction as with
  | nil => rfl
  | cons a as ih =>
      by_cases hp : p a = true
      · rw [updateFirst_cons_of_pos f as hp]
        -- this is the element that is changed; it was not looked for, or looks the same
        obtain ⟨hdeleted, hchanged⟩ := hkeep a (List.find?_cons_of_pos hp)
        cases hf : f a with
        | none => simp [hdeleted hf]
        | some b =>
            obtain ⟨hq, hg⟩ := hchanged b hf
            cases hqa : q a with
            | false => simp [hq, hqa]
            | true => simp [hq, hqa, hg hqa]
      · rw [updateFirst_cons_of_neg f as hp, List.find?_cons, List.find?_cons]
        rw [List.find?_cons_of_neg hp] at hkeep
        cases q a with
        | false => exact ih hkeep
        | true => rfl

/-- What only the changed element satisfies is found there. -/
theorem find?_updateFirst_of_find?_eq_none {p q : α → Bool} {f : α → Option α} {as : List α}
    (hnone : as.find? q = none)
    (hchanged : ∀ a, as.find? p = some a → ∃ b, f a = some b ∧ q b = true) :
    (updateFirst p f as).find? q = (as.find? p).bind f := by
  induction as with
  | nil => rfl
  | cons a as ih =>
      rw [List.find?_eq_none, List.forall_mem_cons] at hnone
      by_cases hp : p a = true
      · obtain ⟨b, hf, hq⟩ := hchanged a (List.find?_cons_of_pos hp)
        rw [updateFirst_cons_of_pos f as hp, List.find?_cons_of_pos hp, hf]
        simp [hq, hf]
      · rw [List.find?_cons_of_neg hp] at hchanged ⊢
        rw [updateFirst_cons_of_neg f as hp, List.find?_cons_of_neg hnone.1]
        exact ih (List.find?_eq_none.mpr hnone.2) hchanged

/-- A change that keeps an image of the elements keeps the list of the images. -/
theorem map_updateFirst {p : α → Bool} {f : α → Option α} (g : α → β)
    (hkeep : ∀ a, p a = true → (f a).map g = some (g a)) (as : List α) :
    (updateFirst p f as).map g = as.map g := by
  induction as with
  | nil => rfl
  | cons a as ih =>
      by_cases ha : p a = true
      · obtain ⟨b, hb, hg⟩ := Option.map_eq_some_iff.mp (hkeep a ha)
        rw [updateFirst_cons_of_pos f as ha, hb]
        simp [hg]
      · rw [updateFirst_cons_of_neg f as ha, List.map_cons, List.map_cons, ih]

/-- When the elements have different keys, changing the one with a key changes no other. -/
theorem updateFirst_eq_map [DecidableEq β] {key : α → β} (k : β) (f : α → α) {as : List α}
    (hnodup : (as.map key).Nodup) :
    updateFirst (fun a => key a = k) (fun a => some (f a)) as =
      as.map fun a => if key a = k then f a else a := by
  induction as with
  | nil => rfl
  | cons a as ih =>
      rw [List.map_cons, List.nodup_cons] at hnodup
      by_cases ha : key a = k
      · -- no other element has the key
        have hothers : as.map (fun a => if key a = k then f a else a) = as := by
          refine (List.map_congr_left fun b hb => if_neg ?_).trans (List.map_id' as)
          rintro rfl
          exact hnodup.1 (ha ▸ List.mem_map_of_mem hb)
        rw [updateFirst_cons_of_pos _ as (decide_eq_true ha), List.map_cons, if_pos ha, hothers]
        rfl
      · rw [updateFirst_cons_of_neg _ as (by simpa using ha), List.map_cons, if_neg ha, ih hnodup.2]

end WebXEngine
