import Mathlib.Data.List.Nodup
import Mathlib.Logic.Relation

/-! # Forests of linked nodes

Nodes that know their parent and the list of their children, in a table. The links go both ways, and
a program that changes them has to change both ends.

* **`Forest`** — the links of the nodes of a table.
* **`Linked`** — the two directions agree and no child is listed twice.
* **`link`**, **`unlink`**, **`delete`** — the changes, with what makes each of them keep `Linked`;
  **`removeLeaf`** and **`move`** are made of them.
* **`Pruned f w f'`** — from `f` to `f'`, everything below `w` has been deleted; `Pruning.step` and
  `Pruning.pruned` build it from the deletion of one child after the other. -/

namespace WebXEngine

open Relation (TransGen ReflTransGen)

variable {ι : Type*}

/-- The links of a node. -/
structure Links (ι : Type*) where
  parent : Option ι
  children : List ι
  deriving DecidableEq, Repr

/-- The links of the nodes that are in a table. -/
abbrev Forest (ι : Type*) := ι → Option (Links ι)

namespace Forest

/-- A node lists another among its children. -/
def IsChild (f : Forest ι) (p c : ι) : Prop := ∃ l, f p = some l ∧ c ∈ l.children

/-- Parents and children agree with each other. -/
structure Linked (f : Forest ι) : Prop where
  child : ∀ {p c : ι}, IsChild f p c → ∃ l, f c = some l ∧ l.parent = some p
  parent : ∀ {p c : ι} {l : Links ι}, f c = some l → l.parent = some p → IsChild f p c
  nodup : ∀ {p : ι} {l : Links ι}, f p = some l → l.children.Nodup

variable {f f' : Forest ι} {p c w x : ι}

/-- A node has one parent. -/
theorem Linked.parent_unique (hf : Linked f) {p q : ι} (hp : IsChild f p c) (hq : IsChild f q c) :
    p = q := by
  obtain ⟨l, hl, hparent⟩ := hf.child hp
  obtain ⟨l', hl', hparent'⟩ := hf.child hq
  rw [hl, Option.some.injEq] at hl'
  subst hl'
  exact Option.some.inj (hparent.symm.trans hparent')

section Changes

variable [DecidableEq ι]

/-- A child is added to a parent. -/
def link (f : Forest ι) (p c : ι) : Forest ι := fun x =>
  (f x).map fun l =>
    ⟨if x = c then some p else l.parent, if x = p then l.children ++ [c] else l.children⟩

/-- A child is removed from a parent. -/
def unlink (f : Forest ι) (p c : ι) : Forest ι := fun x =>
  (f x).map fun l =>
    ⟨if x = c then none else l.parent, if x = p then l.children.erase c else l.children⟩

/-- A node leaves the table. -/
def delete (f : Forest ι) (c : ι) : Forest ι := fun x => if x = c then none else f x

/-- A node without links enters the table. -/
def create (f : Forest ι) (c : ι) : Forest ι := fun x => if x = c then some ⟨none, []⟩ else f x

/-! ## The children after a change -/

/-- A node that is created is no parent and no child. -/
theorem isChild_create (hc : f c = none) : IsChild (f.create c) p x ↔ IsChild f p x := by
  unfold IsChild Forest.create
  by_cases hp : p = c
  · subst hp
    simp [hc]
  · simp [hp]

/-- A link adds one child. -/
theorem isChild_link {q : ι} (hp : (f p).isSome = true) :
    IsChild (f.link p c) q x ↔ IsChild f q x ∨ q = p ∧ x = c := by
  obtain ⟨lp, hlp⟩ := Option.isSome_iff_exists.mp hp
  unfold IsChild Forest.link
  by_cases hq : q = p
  · subst hq
    simp [hlp]
  · simp [hq]

/-- A child that is unlinked is a child of no node. -/
theorem isChild_unlink (hf : Linked f) (hchild : IsChild f p c) {q : ι} :
    IsChild (f.unlink p c) q x ↔ IsChild f q x ∧ x ≠ c := by
  constructor
  · rintro ⟨l', hl', hx⟩
    obtain ⟨l, hl, rfl⟩ := Option.map_eq_some_iff.mp hl'
    dsimp only at hx
    split_ifs at hx with hq
    · obtain ⟨hne, hmem⟩ := (hf.nodup hl).mem_erase_iff.mp hx
      exact ⟨⟨l, hl, hmem⟩, hne⟩
    · refine ⟨⟨l, hl, hx⟩, ?_⟩
      rintro rfl
      exact hq (hf.parent_unique ⟨l, hl, hx⟩ hchild)
  · rintro ⟨⟨l, hl, hx⟩, hne⟩
    refine ⟨_, by rw [Forest.unlink, hl]; rfl, ?_⟩
    dsimp only
    split_ifs
    · exact (List.mem_erase_of_ne hne).mpr hx
    · exact hx

/-- A leaf has no children that could be lost. -/
theorem isChild_delete {l : Links ι} (hc : f c = some l) (hleaf : l.children = []) :
    IsChild (f.delete c) p x ↔ IsChild f p x := by
  unfold IsChild Forest.delete
  by_cases hp : p = c
  · subst hp
    simp [hc, hleaf]
  · simp [hp]

/-! ## What keeps the links in agreement -/

/-- A node without links does not disturb the others. -/
theorem Linked.create (hf : Linked f) (hc : f c = none) : Linked (f.create c) where
  child := by
    rintro p x ⟨l, hl, hx⟩
    by_cases hp : p = c
    · rw [Forest.create, if_pos hp, Option.some.injEq] at hl
      subst hl
      exact nomatch hx
    · rw [Forest.create, if_neg hp] at hl
      obtain ⟨l', hl', hparent⟩ := hf.child ⟨l, hl, hx⟩
      -- a child has links, and so it is not the node that is created
      have hxc : x ≠ c := by
        rintro rfl
        exact nomatch hc.symm.trans hl'
      exact ⟨l', by rw [Forest.create, if_neg hxc, hl'], hparent⟩
  parent := by
    intro p x l hl hparent
    by_cases hx : x = c
    · rw [Forest.create, if_pos hx, Option.some.injEq] at hl
      subst hl
      exact nomatch hparent
    · rw [Forest.create, if_neg hx] at hl
      obtain ⟨l', hl', hmem⟩ := hf.parent hl hparent
      have hpc : p ≠ c := by
        rintro rfl
        exact nomatch hc.symm.trans hl'
      exact ⟨l', by rw [Forest.create, if_neg hpc, hl'], hmem⟩
  nodup := by
    intro p l hl
    by_cases hp : p = c
    · rw [Forest.create, if_pos hp, Option.some.injEq] at hl
      subst hl
      exact .nil
    · rw [Forest.create, if_neg hp] at hl
      exact hf.nodup hl

/-- **A node without a parent may become a child.** -/
theorem Linked.link (hf : Linked f) {lp lc : Links ι} (hp : f p = some lp) (hc : f c = some lc)
    (hparent : lc.parent = none) : Linked (f.link p c) where
  child := by
    rintro q x ⟨l', hl', hx⟩
    obtain ⟨l, hl, rfl⟩ := Option.map_eq_some_iff.mp hl'
    dsimp only at hx
    by_cases hold : x ∈ l.children
    · -- a child that was there before is not the new one, which has no parent
      obtain ⟨lx, hlx, hlxp⟩ := hf.child ⟨l, hl, hold⟩
      have hxc : x ≠ c := by
        rintro rfl
        rw [hc, Option.some.injEq] at hlx
        rw [← hlx, hparent] at hlxp
        exact nomatch hlxp
      exact ⟨_, by rw [Forest.link, hlx]; rfl, by simp [hxc, hlxp]⟩
    · split_ifs at hx with hq
      · obtain rfl := List.mem_singleton.mp ((List.mem_append.mp hx).resolve_left hold)
        exact ⟨_, by rw [Forest.link, hc]; rfl, by simp [hq]⟩
      · exact absurd hx hold
  parent := by
    intro q x l' hl' hq
    obtain ⟨l, hl, rfl⟩ := Option.map_eq_some_iff.mp hl'
    dsimp only at hq
    split_ifs at hq with hxc
    · obtain rfl := Option.some.inj hq
      exact ⟨_, by rw [Forest.link, hp]; rfl, by simp [hxc]⟩
    · obtain ⟨lq, hlq, hmem⟩ := hf.parent hl hq
      refine ⟨_, by rw [Forest.link, hlq]; rfl, ?_⟩
      dsimp only
      split_ifs
      · exact List.mem_append_left _ hmem
      · exact hmem
  nodup := by
    intro q l' hl'
    obtain ⟨l, hl, rfl⟩ := Option.map_eq_some_iff.mp hl'
    dsimp only
    split_ifs
    · have hnew : c ∉ l.children := by
        intro hmem
        obtain ⟨lx, hlx, hlxp⟩ := hf.child ⟨l, hl, hmem⟩
        rw [hc, Option.some.injEq] at hlx
        rw [← hlx, hparent] at hlxp
        exact nomatch hlxp
      rw [List.nodup_append]
      refine ⟨hf.nodup hl, List.nodup_singleton c, ?_⟩
      intro y hy z hz
      rw [List.mem_singleton] at hz
      rintro rfl
      exact hnew (hz ▸ hy)
    · exact hf.nodup hl

/-- A child may be taken from its parent. -/
theorem Linked.unlink (hf : Linked f) (hchild : IsChild f p c) : Linked (f.unlink p c) where
  child := by
    rintro q x ⟨l', hl', hx⟩
    obtain ⟨l, hl, rfl⟩ := Option.map_eq_some_iff.mp hl'
    dsimp only at hx
    have hold : x ∈ l.children := by
      split_ifs at hx
      · exact List.mem_of_mem_erase hx
      · exact hx
    obtain ⟨lx, hlx, hlxp⟩ := hf.child ⟨l, hl, hold⟩
    -- the child that was erased occurs only once, and has no other parent
    have hxc : x ≠ c := by
      rintro rfl
      obtain rfl := hf.parent_unique hchild ⟨l, hl, hold⟩
      rw [if_pos rfl] at hx
      exact (hf.nodup hl).not_mem_erase hx
    exact ⟨_, by rw [Forest.unlink, hlx]; rfl, by simp [hxc, hlxp]⟩
  parent := by
    intro q x l' hl' hq
    obtain ⟨l, hl, rfl⟩ := Option.map_eq_some_iff.mp hl'
    dsimp only at hq
    split_ifs at hq with hxc
    obtain ⟨lq, hlq, hmem⟩ := hf.parent hl hq
    refine ⟨_, by rw [Forest.unlink, hlq]; rfl, ?_⟩
    dsimp only
    split_ifs
    · exact (List.mem_erase_of_ne hxc).mpr hmem
    · exact hmem
  nodup := by
    intro q l' hl'
    obtain ⟨l, hl, rfl⟩ := Option.map_eq_some_iff.mp hl'
    dsimp only
    split_ifs
    · exact (hf.nodup hl).erase c
    · exact hf.nodup hl

/-- A node without any links may leave the table. -/
theorem Linked.delete (hf : Linked f) (hc : f c = some ⟨none, []⟩) : Linked (f.delete c) where
  child := by
    rintro q x ⟨l, hl, hx⟩
    rw [Forest.delete] at hl
    split_ifs at hl with hq
    obtain ⟨lx, hlx, hlxp⟩ := hf.child ⟨l, hl, hx⟩
    -- the node that is deleted has no parent
    have hxc : x ≠ c := by
      rintro rfl
      rw [hc, Option.some.injEq] at hlx
      subst hlx
      exact nomatch hlxp
    exact ⟨lx, by rw [Forest.delete, if_neg hxc, hlx], hlxp⟩
  parent := by
    intro q x l hl hq
    rw [Forest.delete] at hl
    split_ifs at hl with hxc
    obtain ⟨lq, hlq, hmem⟩ := hf.parent hl hq
    -- the node that is deleted has no children
    have hqc : q ≠ c := by
      rintro rfl
      rw [hc, Option.some.injEq] at hlq
      subst hlq
      exact nomatch hmem
    exact ⟨lq, by rw [Forest.delete, if_neg hqc, hlq], hmem⟩
  nodup := by
    intro q l hl
    rw [Forest.delete] at hl
    split_ifs at hl
    exact hf.nodup hl

/-! ## Leaves that leave, and nodes that move -/

/-- A leaf leaves its parent and the table. -/
def removeLeaf (f : Forest ι) (p c : ι) : Forest ι := (f.unlink p c).delete c

/-- A child of one parent becomes the child of another. -/
def move (f : Forest ι) (p q c : ι) : Forest ι := (f.unlink p c).link q c

/-- No node leaves the table. -/
theorem isSome_unlink {p c x : ι} : (f.unlink p c x).isSome = (f x).isSome := Option.isSome_map

/-- No node leaves the table. -/
theorem isSome_move {q : ι} : (f.move p q c x).isSome = (f x).isSome :=
  Option.isSome_map.trans isSome_unlink

/-- One node leaves the table. -/
theorem isSome_removeLeaf : (f.removeLeaf p c x).isSome = true ↔ (f x).isSome = true ∧ x ≠ c := by
  rw [removeLeaf, Forest.delete]
  by_cases hx : x = c
  · simp [hx]
  · simp [hx, isSome_unlink]

/-- A leaf has no links once its parent does not list it. -/
theorem unlink_leaf (hleaf : f c = some ⟨some p, []⟩) : f.unlink p c c = some ⟨none, []⟩ := by
  simp [Forest.unlink, hleaf]

/-- A leaf that is removed is a child of no node. -/
theorem isChild_removeLeaf (hf : Linked f) (hleaf : f c = some ⟨some p, []⟩) {q : ι} :
    IsChild (f.removeLeaf p c) q x ↔ IsChild f q x ∧ x ≠ c := by
  rw [removeLeaf, isChild_delete (unlink_leaf hleaf) rfl]
  exact isChild_unlink hf (hf.parent hleaf rfl)

/-- A leaf may be removed. -/
theorem Linked.removeLeaf (hf : Linked f) (hleaf : f c = some ⟨some p, []⟩) :
    Linked (f.removeLeaf p c) :=
  (hf.unlink (hf.parent hleaf rfl)).delete (unlink_leaf hleaf)

/-- A node that moves is a child of its new parent only. -/
theorem isChild_move (hf : Linked f) (hchild : IsChild f p c) {q r : ι}
    (hq : (f q).isSome = true) :
    IsChild (f.move p q c) r x ↔ IsChild f r x ∧ x ≠ c ∨ r = q ∧ x = c := by
  rw [move, isChild_link (isSome_unlink.trans hq), isChild_unlink hf hchild]

/-- A node may move to any node, also to one below it. -/
theorem Linked.move (hf : Linked f) (hchild : IsChild f p c) {q : ι} (hq : (f q).isSome = true) :
    Linked (f.move p q c) := by
  obtain ⟨lq, hlq⟩ := Option.isSome_iff_exists.mp (isSome_unlink.trans hq)
  obtain ⟨l, hl, -⟩ := hf.child hchild
  have hc : f.unlink p c c = some ⟨none, if c = p then l.children.erase c else l.children⟩ := by
    simp [Forest.unlink, hl]
  exact (hf.unlink hchild).link hlq hc rfl

end Changes

/-! ## Deleting what is below a node -/

/-- Everything below `w` has been deleted, and nothing else has changed. In a forest with cycles this
cannot be done below a node of a cycle. -/
structure Pruned (f : Forest ι) (w : ι) (f' : Forest ι) : Prop where
  linked : Linked f'
  acyclic : ¬ TransGen (IsChild f) w w
  leaf : ∃ l, f w = some l ∧ f' w = some ⟨l.parent, []⟩
  entry : ∀ {x : ι} {l : Links ι}, x ≠ w → f' x = some l → f x = some l
  kept : ∀ {x : ι}, ¬ TransGen (IsChild f) w x → (f x).isSome = true → (f' x).isSome = true

/-- The children that are left were children before. -/
theorem Pruned.isChild (h : Pruned f w f') (hchild : IsChild f' p c) : IsChild f p c := by
  obtain ⟨l, hl, hc⟩ := hchild
  by_cases hp : p = w
  · subst hp
    obtain ⟨l₀, -, hleaf⟩ := h.leaf
    rw [hleaf, Option.some.injEq] at hl
    subst hl
    exact nomatch hc
  · exact ⟨l, h.entry hp hl, hc⟩

/-- The nodes that are left were there before. -/
theorem Pruned.isSome (h : Pruned f w f') (hx : (f' x).isSome = true) : (f x).isSome = true := by
  by_cases hxw : x = w
  · obtain ⟨l, hl, -⟩ := h.leaf
    rw [hxw, hl]
    rfl
  · obtain ⟨l, hl⟩ := Option.isSome_iff_exists.mp hx
    rw [h.entry hxw hl]
    rfl

/-- The nodes that are left still have their parent. -/
theorem Pruned.isChild_of_isSome (hf : Linked f) (h : Pruned f w f') (hxw : x ≠ w)
    (hx : (f' x).isSome = true) (hchild : IsChild f p x) : IsChild f' p x := by
  obtain ⟨l, hl⟩ := Option.isSome_iff_exists.mp hx
  obtain ⟨l', hl', hparent⟩ := hf.child hchild
  rw [h.entry hxw hl, Option.some.injEq] at hl'
  exact h.linked.parent hl (hl' ▸ hparent)

/-- The children of `w` listed before `rest` have been deleted, with everything below them. -/
structure Pruning (f : Forest ι) (w : ι) (f' : Forest ι) (rest : List ι) : Prop where
  linked : Linked f'
  node : ∃ l done, f w = some l ∧ l.children = done ++ rest ∧ f' w = some ⟨l.parent, rest⟩ ∧
    (∀ c ∈ done, ¬ ReflTransGen (IsChild f) c w) ∧
    ∀ x, (∀ c ∈ done, ¬ ReflTransGen (IsChild f) c x) → (f x).isSome = true → (f' x).isSome = true
  entry : ∀ {x : ι} {l : Links ι}, x ≠ w → f' x = some l → f x = some l

/-- The beginning. -/
theorem Pruning.start (hf : Linked f) {l : Links ι} (hw : f w = some l) :
    Pruning f w f l.children where
  linked := hf
  node := ⟨l, [], hw, rfl, hw, by simp, fun _ _ h => h⟩
  entry := fun _ h => h

/-- The children that are left were children at the beginning. -/
theorem Pruning.isChild {rest : List ι} (h : Pruning f w f' rest) {p c : ι}
    (hchild : IsChild f' p c) : IsChild f p c := by
  obtain ⟨l, done, hw, hchildren, hw', -, -⟩ := h.node
  obtain ⟨lp, hlp, hmem⟩ := hchild
  by_cases hp : p = w
  · subst hp
    rw [hw', Option.some.injEq] at hlp
    subst hlp
    exact ⟨l, hw, hchildren ▸ List.mem_append_right _ hmem⟩
  · exact ⟨lp, h.entry hp hlp, hmem⟩

/-- The paths to the node are still there: a node of a path was not below a child that is deleted. -/
theorem Pruning.path {rest : List ι} (h : Pruning f w f' rest) {x : ι}
    (hpath : ReflTransGen (IsChild f) x w) : ReflTransGen (IsChild f') x w := by
  obtain ⟨-, done, -, -, -, hdone, hkept⟩ := h.node
  induction hpath using ReflTransGen.head_induction_on with
  | refl => exact .refl
  | @head y z hyz hzw ih =>
      by_cases hy : y = w
      · exact hy ▸ .refl
      · obtain ⟨l, hl, hmem⟩ := hyz
        have hsome : (f' y).isSome = true :=
          hkept y (fun e he hey => hdone e he (hey.trans (.head ⟨l, hl, hmem⟩ hzw)))
            (by rw [hl]; rfl)
        obtain ⟨l', hl'⟩ := Option.isSome_iff_exists.mp hsome
        rw [h.entry hy hl', Option.some.injEq] at hl
        exact .head ⟨l', hl', hl ▸ hmem⟩ ih

/-- The end. -/
theorem Pruning.pruned (h : Pruning f w f' []) : Pruned f w f' := by
  obtain ⟨l, done, hw, hchildren, hw', hdone, hkept⟩ := h.node
  rw [List.append_nil] at hchildren
  refine ⟨h.linked, ?_, ⟨l, hw, hw'⟩, h.entry, ?_⟩
  · intro hcycle
    obtain ⟨c, ⟨lw, hlw, hc⟩, hback⟩ := TransGen.head'_iff.mp hcycle
    rw [hw, Option.some.injEq] at hlw
    exact hdone c (hchildren ▸ hlw ▸ hc) hback
  · intro x hx hsome
    refine hkept x (fun c hc hpath => hx (TransGen.head' ⟨l, hw, hchildren ▸ hc⟩ hpath)) hsome

/-- **One more child is deleted.** -/
theorem Pruning.step [DecidableEq ι] {c : ι} {rest : List ι} (h : Pruning f w f' (c :: rest)) {f₁ : Forest ι}
    (hc : Pruned f' c f₁) :
    (f₁ w).isSome = true ∧ Pruning f w ((f₁.unlink w c).delete c) rest := by
  obtain ⟨l, done, hw, hchildren, hw', hdone, hkept⟩ := h.node
  have hedge : IsChild f' w c := ⟨_, hw', List.mem_cons_self⟩
  have hwc : w ≠ c := by
    rintro rfl
    exact hc.acyclic (.single hedge)
  -- the node is not below its own child
  have hw₁ : f₁ w = some ⟨l.parent, c :: rest⟩ := by
    have hsome : (f₁ w).isSome = true :=
      hc.kept (fun hpath => hc.acyclic (hpath.tail hedge)) (by rw [hw']; rfl)
    obtain ⟨l₁, hl₁⟩ := Option.isSome_iff_exists.mp hsome
    rw [hl₁, ← hc.entry hwc hl₁, hw']
  have hc₁ : f₁ c = some ⟨some w, []⟩ := by
    obtain ⟨lc, hlc, hleaf⟩ := hc.leaf
    obtain ⟨lc', hlc', hparent⟩ := h.linked.child hedge
    rw [hlc, Option.some.injEq] at hlc'
    rw [hleaf, hlc', hparent]
  have hedge₁ : IsChild f₁ w c := ⟨_, hw₁, List.mem_cons_self⟩
  have hunlinked := hc.linked.unlink hedge₁
  have hother {x : ι} (hx : x ≠ w) (hxc : x ≠ c) :
      ((f₁.unlink w c).delete c) x = f₁ x := by
    simp [Forest.delete, Forest.unlink, hx, hxc]
  have hrest : ((f₁.unlink w c).delete c) w = some ⟨l.parent, rest⟩ := by
    simp [Forest.delete, Forest.unlink, hwc, hw₁]
  refine ⟨by rw [hw₁]; rfl, ?_, ⟨l, done ++ [c], hw, by simp [hchildren], hrest, ?_, ?_⟩, ?_⟩
  · exact hunlinked.delete (by simp [Forest.unlink, hc₁, hwc.symm])
  · intro d hd
    rw [List.mem_append, List.mem_singleton] at hd
    rcases hd with hd | rfl
    · exact hdone d hd
    · -- a path from the child to the node would still be there, and close a cycle
      intro hpath
      exact hc.acyclic (TransGen.tail' (h.path hpath) hedge)
  · intro x hx hsome
    have hxw : x ≠ c := by
      rintro rfl
      exact hx x (List.mem_append_right _ (List.mem_singleton_self x)) .refl
    by_cases hxw' : x = w
    · rw [hxw', hrest]
      rfl
    · rw [hother hxw' hxw]
      refine hc.kept (fun hpath => ?_)
        (hkept x (fun e he => hx e (List.mem_append_left _ he)) hsome)
      refine hx c (List.mem_append_right _ (List.mem_singleton_self c)) ?_
      exact (TransGen.mono (fun _ _ => h.isChild) _ _ hpath).to_reflTransGen
  · intro x lx hxw hlx
    have hxc : x ≠ c := by
      rintro rfl
      simp [Forest.delete] at hlx
    rw [hother hxw hxc] at hlx
    exact h.entry hxw (hc.entry hxc hlx)

end Forest

end WebXEngine
