import Mathlib
import WebXEngine.Foundations.Runs
import WebXEngine.Models.WindowDamage
import WebXEngine.Utils.Fault

/-! # The damaged areas

The areas of a damage are the bounding boxes of the rectangles that were merged. They are merged in one
pass over the areas, while the combined area grows: it may come to meet an area that was passed by.

* **`WebXRectangle.IsBoundingBox`** — the smallest rectangle that contains some rectangles.
* **`addedAreas_merged`** — the areas are the bounding boxes of the classes of a partition of what was
  added.
* **`WebXWindowDamage.PassesClear`** — the combined area meets no area that was passed by.
* **`staysSeparate`** — the areas stay apart when this is so, and the damaged area counts their pixels
  while these fit into 32 bits. -/

namespace WebXEngine

namespace WebXRectangle

variable {r s box box' : WebXRectangle}

/-! ## Bounding boxes -/

/-- The smallest rectangle that contains some rectangles, with a position and a size that agree with its
edges. -/
structure IsBoundingBox (box : WebXRectangle) (rectangles : List WebXRectangle) : Prop where
  contains : ∀ r ∈ rectangles, box.contains r = true
  left : ∃ r ∈ rectangles, r.left = box.left
  right : ∃ r ∈ rectangles, r.right = box.right
  top : ∃ r ∈ rectangles, r.top = box.top
  bottom : ∃ r ∈ rectangles, r.bottom = box.bottom
  position : box.x = box.left ∧ box.y = box.bottom
  size : box.size.width = box.right - box.left ∧ box.size.height = box.top - box.bottom

/-- A rectangle bounds itself. -/
theorem isBoundingBox_singleton (r : WebXRectangle) : r.IsBoundingBox [r] where
  contains := by simp [contains_iff]
  left := ⟨r, List.mem_singleton_self r, rfl⟩
  right := ⟨r, List.mem_singleton_self r, rfl⟩
  top := ⟨r, List.mem_singleton_self r, rfl⟩
  bottom := ⟨r, List.mem_singleton_self r, rfl⟩
  position := ⟨r.left_eq.symm, r.bottom_eq.symm⟩
  size := by
    have := r.left_eq
    have := r.right_eq
    have := r.top_eq
    have := r.bottom_eq
    omega

/-- The edges of a combined rectangle. -/
theorem edges_add (r s : WebXRectangle) :
    (r.add s).left = min r.left s.left ∧ (r.add s).right = max r.right s.right ∧
      (r.add s).top = max r.top s.top ∧ (r.add s).bottom = min r.bottom s.bottom := by
  rw [add]
  dsimp only
  split_ifs <;> omega

/-- A rectangle that holds one of two edges, the smaller or the larger one. -/
theorem exists_edge {edge : WebXRectangle → ℤ} {rectangles rectangles' : List WebXRectangle}
    {a b c : ℤ} (hc : c = a ∨ c = b) (ha : ∃ r ∈ rectangles, edge r = a)
    (hb : ∃ r ∈ rectangles', edge r = b) : ∃ r ∈ rectangles ++ rectangles', edge r = c := by
  obtain ⟨r, hr, hra⟩ := ha
  obtain ⟨s, hs, hsb⟩ := hb
  rcases hc with rfl | rfl
  · exact ⟨r, List.mem_append_left _ hr, hra⟩
  · exact ⟨s, List.mem_append_right _ hs, hsb⟩

/-- **Combining two bounding boxes** gives that of all the rectangles. -/
theorem IsBoundingBox.add {rectangles rectangles' : List WebXRectangle}
    (h : box.IsBoundingBox rectangles) (h' : box'.IsBoundingBox rectangles') :
    (box.add box').IsBoundingBox (rectangles ++ rectangles') := by
  obtain ⟨hleft, hright, htop, hbottom⟩ := edges_add box box'
  refine ⟨fun r hr => ?_, ?_, ?_, ?_, ?_, (isBoundingBox_singleton _).position,
    (isBoundingBox_singleton _).size⟩
  · rw [contains_iff, hleft, hright, htop, hbottom]
    rcases List.mem_append.mp hr with hr | hr
    · have hedges := contains_iff.mp (h.contains r hr)
      omega
    · have hedges := contains_iff.mp (h'.contains r hr)
      omega
  · exact exists_edge (hleft ▸ min_choice _ _) h.left h'.left
  · exact exists_edge (hright ▸ max_choice _ _) h.right h'.right
  · exact exists_edge (htop ▸ max_choice _ _) h.top h'.top
  · exact exists_edge (hbottom ▸ min_choice _ _) h.bottom h'.bottom

/-- The pixels of a rectangle that is contained. -/
theorem pixels_subset_of_contains (h : r.contains s = true) : s.pixels ⊆ r.pixels := by
  intro p hp
  rw [contains_iff] at h
  rw [mem_pixels] at hp ⊢
  omega

end WebXRectangle

open WebXRectangle (IsBoundingBox isBoundingBox_singleton)

/-- What happens to a damage. -/
inductive DamageAction
  | add (windowDamage : WebXWindowDamage)
  | reset

namespace WebXWindowDamage

/-- One action. -/
def step (damage : WebXWindowDamage) : DamageAction → WebXWindowDamage
  | .add windowDamage => damage.add windowDamage
  | .reset => damage.reset

/-- The damages that were added since the last reset. -/
def addedSinceReset (actions : List DamageAction) : List WebXWindowDamage :=
  actions.foldl (fun added action =>
    match action with
    | .add windowDamage => added ++ [windowDamage]
    | .reset => []) []

/-- The rectangles of some damages. -/
def addedAreas (added : List WebXWindowDamage) : List WebXRectangle := added.flatMap damageAreas

/-! ## A partition of what was added -/

/-- The areas are the bounding boxes of the classes of a partition of some rectangles. -/
def Merged (areas rectangles : List WebXRectangle) : Prop :=
  ∃ classes : List (List WebXRectangle), classes.flatten.Perm rectangles ∧
    List.Forall₂ IsBoundingBox areas classes

/-- A pass over the areas makes some classes one. -/
theorem merged_mergeAreas {areas : List WebXRectangle} {classes : List (List WebXRectangle)}
    (h : List.Forall₂ IsBoundingBox areas classes) :
    ∀ {combined : WebXRectangle} {rectangles : List WebXRectangle},
      combined.IsBoundingBox rectangles →
      ∃ classes' rectangles', List.Forall₂ IsBoundingBox (mergeAreas areas combined).1 classes' ∧
        (mergeAreas areas combined).2.IsBoundingBox rectangles' ∧
        (classes'.flatten ++ rectangles').Perm (classes.flatten ++ rectangles) := by
  induction h with
  | nil => exact fun {_ rectangles} hbox => ⟨[], rectangles, .nil, hbox, List.Perm.refl _⟩
  | @cons existing rectangles₁ areas classes hexisting _ ih =>
      intro combined rectangles hbox
      rw [mergeAreas]
      split_ifs
      · -- the class of the existing area joins that of the combined one
        obtain ⟨classes', rectangles', hclasses, hbox', hperm⟩ := ih (hbox.add hexisting)
        refine ⟨classes', rectangles', hclasses, hbox', hperm.trans ?_⟩
        rw [List.flatten_cons, ← List.append_assoc]
        exact (List.perm_append_comm).trans (by rw [← List.append_assoc])
      · obtain ⟨classes', rectangles', hclasses, hbox', hperm⟩ := ih hbox
        refine ⟨rectangles₁ :: classes', rectangles', .cons hexisting hclasses, hbox', ?_⟩
        rw [List.flatten_cons, List.flatten_cons, List.append_assoc, List.append_assoc]
        exact hperm.append_left rectangles₁

variable {damage : WebXWindowDamage} {rectangles : List WebXRectangle}

/-- A rectangle is added to the ones that were merged. -/
theorem Merged.addDamageRecange (h : Merged damage.damageAreas rectangles)
    (hfull : damage.isFullWindow = false) (damageArea : WebXRectangle) :
    Merged (damage.addDamageRecange damageArea).damageAreas (rectangles ++ [damageArea]) := by
  obtain ⟨classes, hperm, hclasses⟩ := h
  obtain ⟨classes', rectangles', hclasses', hbox, hmerged⟩ :=
    merged_mergeAreas hclasses (isBoundingBox_singleton damageArea)
  rw [WebXWindowDamage.addDamageRecange, if_neg (by rw [hfull]; decide)]
  refine ⟨classes' ++ [rectangles'], ?_, ?_⟩
  · rw [List.flatten_append, List.flatten_singleton]
    exact hmerged.trans (hperm.append_right [damageArea])
  · exact List.rel_append hclasses' (.cons hbox .nil)

/-- Adding a rectangle does not make a damage full. -/
theorem isFullWindow_addDamageRecange (damage : WebXWindowDamage) (damageArea : WebXRectangle) :
    (damage.addDamageRecange damageArea).isFullWindow = damage.isFullWindow := by
  rw [addDamageRecange]
  split_ifs <;> rfl

/-- Rectangles are added one after the other. -/
theorem Merged.foldl {areas : List WebXRectangle} : ∀ {damage : WebXWindowDamage}
    {rectangles : List WebXRectangle}, Merged damage.damageAreas rectangles →
    damage.isFullWindow = false →
    Merged (areas.foldl WebXWindowDamage.addDamageRecange damage).damageAreas (rectangles ++ areas) ∧
      (areas.foldl WebXWindowDamage.addDamageRecange damage).isFullWindow = false := by
  induction areas with
  | nil => exact fun h hfull => ⟨by rwa [List.append_nil], hfull⟩
  | cons area areas ih =>
      intro damage rectangles h hfull
      have hnext := ih (h.addDamageRecange hfull area)
        ((isFullWindow_addDamageRecange damage area).trans hfull)
      rw [List.append_assoc] at hnext
      exact hnext

/-- What was added since the last reset: a damage that is full when one of them was, and otherwise areas
that were merged from all of them. -/
structure Holds (added : List WebXWindowDamage) (damage : WebXWindowDamage) : Prop where
  full : (∃ windowDamage ∈ added, windowDamage.isFullWindow = true) → damage.isFullWindow = true
  merged : (∀ windowDamage ∈ added, windowDamage.isFullWindow = false) →
    damage.isFullWindow = false ∧ Merged damage.damageAreas (addedAreas added)

/-- A damage without areas holds nothing. -/
theorem holds_nil (hareas : damage.damageAreas = []) (hfull : damage.isFullWindow = false) :
    Holds [] damage where
  full := fun ⟨_, hmem, _⟩ => by cases hmem
  merged := fun _ => ⟨hfull, [], .refl _, by rw [hareas]; exact .nil⟩

/-- One more damage is added. -/
theorem Holds.add {added : List WebXWindowDamage} (h : Holds added damage)
    (windowDamage : WebXWindowDamage) : Holds (added ++ [windowDamage]) (damage.add windowDamage) := by
  rw [WebXWindowDamage.add]
  constructor
  · -- a full damage stays full, and a damage that is added makes it full
    rintro ⟨other, hmem, hother⟩
    split_ifs with hfull hadded
    · exact hfull
    · rfl
    · rcases List.mem_append.mp hmem with hmem | hmem
      · exact absurd (h.full ⟨other, hmem, hother⟩) hfull
      · rw [List.mem_singleton.mp hmem] at hother
        exact absurd hother hadded
  · intro hall
    rw [List.forall_mem_append, List.forall_mem_singleton] at hall
    obtain ⟨hfull, hmerged⟩ := h.merged hall.1
    rw [if_neg (by rw [hfull]; decide), if_neg (by rw [hall.2]; decide), addedAreas,
      List.flatMap_append, List.flatMap_singleton]
    exact (hmerged.foldl hfull).symm

/-- What a damage holds after some actions. -/
theorem holds_foldl (actions : List DamageAction) (x11Window : UInt32) :
    Holds (addedSinceReset actions) (actions.foldl step (.empty x11Window)) := by
  induction actions using List.reverseRecOn with
  | nil => exact holds_nil rfl rfl
  | append_singleton actions action ih =>
      rw [addedSinceReset, List.foldl_append, List.foldl_append]
      cases action with
      | add windowDamage => exact ih.add windowDamage
      | reset => exact holds_nil rfl rfl

/-- An area contains the rectangles of its class. -/
theorem Merged.exists_contains {areas : List WebXRectangle} (h : Merged areas rectangles)
    {r : WebXRectangle} (hr : r ∈ rectangles) : ∃ area ∈ areas, area.contains r = true := by
  obtain ⟨classes, hperm, hclasses⟩ := h
  obtain ⟨cls, hcls, hmem⟩ := List.mem_flatten.mp (hperm.mem_iff.mpr hr)
  obtain ⟨i, hi, rfl⟩ := List.mem_iff_getElem.mp hcls
  have hi' : i < areas.length := hclasses.length_eq ▸ hi
  exact ⟨areas[i], List.getElem_mem hi', (hclasses.get hi' hi).contains r hmem⟩

end WebXWindowDamage

open WebXWindowDamage

/-- **Merging loses nothing and invents little.** Without a full damage, the areas are the bounding boxes
of the classes of a partition of the rectangles that were added since the last reset, and every one of
these is in an area; with one the damage is full. -/
theorem addedAreas_merged (x11Window : UInt32) (actions : List DamageAction) :
    let damage := actions.foldl step (.empty x11Window)
    let added := addedSinceReset actions
    ((∀ windowDamage ∈ added, windowDamage.isFullWindow = false) →
      damage.isFullWindow = false ∧ Merged damage.damageAreas (addedAreas added) ∧
        ∀ r ∈ addedAreas added, ∃ area ∈ damage.damageAreas,
          area.contains r = true ∧ r.pixels ⊆ area.pixels) ∧
      ((∃ windowDamage ∈ added, windowDamage.isFullWindow = true) → damage.isFullWindow = true) := by
  intro damage added
  have hholds : Holds added damage := holds_foldl actions x11Window
  refine ⟨fun hall => ?_, hholds.full⟩
  obtain ⟨hfull, hmerged⟩ := hholds.merged hall
  refine ⟨hfull, hmerged, fun r hr => ?_⟩
  obtain ⟨area, harea, hcontains⟩ := hmerged.exists_contains hr
  exact ⟨area, harea, hcontains, WebXRectangle.pixels_subset_of_contains hcontains⟩

namespace WebXRectangle

variable {r s t : WebXRectangle}

/-! ## Rectangles that do not meet -/

/-- Rectangles that overlap or touch, by their sides. -/
theorem overlapOrTouching_iff : r.overlapOrTouching s = true ↔
    r.left ≤ s.right ∧ s.left ≤ r.right ∧ s.bottom ≤ r.top ∧ r.bottom ≤ s.top := by
  rw [overlapOrTouching]
  simp only [Bool.and_eq_true, decide_eq_true_eq]
  omega

/-- What a rectangle meets, it still meets when it grows. -/
theorem overlapOrTouching_add (h : r.overlapOrTouching s = true) (t : WebXRectangle) :
    r.overlapOrTouching (s.add t) = true := by
  obtain ⟨hleft, hright, htop, hbottom⟩ := edges_add s t
  rw [overlapOrTouching_iff] at h ⊢
  omega

/-- Rectangles that do not meet share no pixel. -/
theorem disjoint_pixels (h : r.overlapOrTouching s = false) : Disjoint r.pixels s.pixels := by
  rw [Set.disjoint_left]
  intro p hr hs
  rw [mem_pixels] at hr hs
  refine Bool.eq_false_iff.mp h (overlapOrTouching_iff.mpr ?_)
  omega

/-- A rectangle of positive width and height. -/
def Positive (r : WebXRectangle) : Prop := 0 < r.size.width ∧ 0 < r.size.height

instance (r : WebXRectangle) : Decidable r.Positive := inferInstanceAs (Decidable (_ ∧ _))

/-- A rectangle that grows stays one. -/
theorem Positive.add (hr : r.Positive) (s : WebXRectangle) : (r.add s).Positive := by
  obtain ⟨hleft, hright, htop, hbottom⟩ := edges_add r s
  have hadd := (isBoundingBox_singleton (r.add s)).size
  have hsize := (isBoundingBox_singleton r).size
  rw [Positive] at hr ⊢
  omega

/-- The pixels of a rectangle, which are finitely many. -/
noncomputable def pixelFinset (r : WebXRectangle) : Finset (ℤ × ℤ) :=
  Finset.Ico r.left r.right ×ˢ Finset.Ico r.bottom r.top

/-- The finite set of the pixels is the set of the pixels. -/
theorem coe_pixelFinset (r : WebXRectangle) : (r.pixelFinset : Set (ℤ × ℤ)) = r.pixels := by
  ext p
  simp [pixelFinset, mem_pixels, and_assoc]

/-- The width and the height count the pixels. -/
theorem ncard_pixels (h : r.Positive) : (r.pixels.ncard : ℤ) = r.size.width * r.size.height := by
  have hsize := (isBoundingBox_singleton r).size
  rw [← coe_pixelFinset, Set.ncard_coe_finset, pixelFinset, Finset.card_product, Int.card_Ico,
    Int.card_Ico, Nat.cast_mul, Int.toNat_of_nonneg (by have := h.1; omega),
    Int.toNat_of_nonneg (by have := h.2; omega), hsize.1, hsize.2]

end WebXRectangle

/-- The rectangles that are added have positive sizes. -/
def DamageAction.Positive : DamageAction → Prop
  | .add windowDamage => ∀ area ∈ windowDamage.damageAreas, area.Positive
  | .reset => True

namespace WebXWindowDamage

variable {damage : WebXWindowDamage}

/-! ## Areas that stay apart -/

/-- In a pass over the areas, the combined area does not come to meet an area that was passed by. -/
def PassesClear (passed : List WebXRectangle) : List WebXRectangle → WebXRectangle → Prop
  | [], _ => True
  | existing :: areas, combined =>
      if existing.overlapOrTouching combined then
        (∀ r ∈ passed, r.overlapOrTouching (combined.add existing) = false) ∧
          PassesClear passed areas (combined.add existing)
      else
        PassesClear (existing :: passed) areas combined

/-- A pass over given areas can be tested. -/
instance decidablePassesClear : ∀ (passed areas : List WebXRectangle) (combined : WebXRectangle),
    Decidable (PassesClear passed areas combined)
  | _, [], _ => inferInstanceAs (Decidable True)
  | passed, existing :: areas, combined =>
      have := decidablePassesClear passed areas (combined.add existing)
      have := decidablePassesClear (existing :: passed) areas combined
      inferInstanceAs (Decidable (if existing.overlapOrTouching combined then _ else _))

/-- The same for rectangles that are added one after the other. -/
def AddsClear : WebXWindowDamage → List WebXRectangle → Prop
  | _, [] => True
  | damage, area :: areas =>
      PassesClear [] damage.damageAreas area ∧ AddsClear (damage.addDamageRecange area) areas

instance decidableAddsClear : ∀ (damage : WebXWindowDamage) (areas : List WebXRectangle),
    Decidable (damage.AddsClear areas)
  | _, [] => inferInstanceAs (Decidable True)
  | damage, area :: areas =>
      have := decidableAddsClear (damage.addDamageRecange area) areas
      inferInstanceAs (Decidable (_ ∧ _))

/-- The pixels of the areas can be counted together in 32 bits. -/
def AreasFit (damage : WebXWindowDamage) : Prop :=
  (damage.damageAreas.map fun area => area.size.width * area.size.height).sum < 2 ^ 31

instance (damage : WebXWindowDamage) : Decidable damage.AreasFit := inferInstanceAs (Decidable (_ < _))

/-- Without areas, no area is too large. -/
theorem areasFit_of_damageAreas_eq_nil {damage : WebXWindowDamage} (h : damage.damageAreas = []) :
    damage.AreasFit := by
  rw [AreasFit, h]
  decide

/-- Nothing is merged, or no pass comes to meet an area that it passed by, and the areas that come out
of it can be counted. -/
def MergesClear (damage : WebXWindowDamage) : DamageAction → Prop
  | .add windowDamage => damage.isFullWindow = true ∨ windowDamage.isFullWindow = true ∨
      damage.AddsClear windowDamage.damageAreas ∧ (damage.add windowDamage).AreasFit
  | .reset => True

instance (damage : WebXWindowDamage) : ∀ action, Decidable (damage.MergesClear action)
  | .add _ => inferInstanceAs (Decidable (_ ∨ _ ∨ _))
  | .reset => inferInstanceAs (Decidable True)

/-- The areas do not meet, no pixel is in two of them, and the sum of their sizes counts the pixels. -/
structure Separate (damage : WebXWindowDamage) : Prop where
  apart : damage.damageAreas.Pairwise fun r s => r.overlapOrTouching s = false
  once : damage.damageAreas.Pairwise fun r s => Disjoint r.pixels s.pixels
  area_eq : damage.getDamagedArea.toInt = damage.pixels.ncard

/-- In all runs of additions and resets, the areas of a damage that is not full stay apart. -/
def StaysSeparate (x11Window : UInt32) (condition : WebXWindowDamage → DamageAction → Prop) : Prop :=
  ∀ actions damage,
    Run (E := Fault) (fun damage action => .ok (step damage action))
      (fun damage action => action.Positive ∧ condition damage action) (.empty x11Window) actions damage →
    damage.isFullWindow = false → damage.Separate

/-- The combined area grows in a pass, and meets at its end what it met before. -/
theorem overlapOrTouching_mergeAreas {r : WebXRectangle} (areas : List WebXRectangle) :
    ∀ {combined : WebXRectangle}, r.overlapOrTouching combined = true →
      r.overlapOrTouching (mergeAreas areas combined).2 = true := by
  induction areas with
  | nil => exact id
  | cons existing areas ih =>
      intro combined h
      rw [mergeAreas]
      split_ifs
      · exact ih (WebXRectangle.overlapOrTouching_add h existing)
      · exact ih h

/-- A pass keeps some of the areas. -/
theorem mergeAreas_sublist (areas : List WebXRectangle) :
    ∀ combined : WebXRectangle, (mergeAreas areas combined).1.Sublist areas := by
  induction areas with
  | nil => exact fun _ => .slnil
  | cons existing areas ih =>
      intro combined
      rw [mergeAreas]
      split_ifs
      · exact (ih _).cons existing
      · exact (ih combined).cons_cons existing

/-- A pass that comes to meet nothing that it passed by is one whose result meets nothing that is kept. -/
theorem passesClear_iff (areas : List WebXRectangle) :
    ∀ {passed : List WebXRectangle} {combined : WebXRectangle},
      (∀ r ∈ passed, r.overlapOrTouching combined = false) →
      (PassesClear passed areas combined ↔ ∀ r ∈ passed ++ (mergeAreas areas combined).1,
        r.overlapOrTouching (mergeAreas areas combined).2 = false) := by
  induction areas with
  | nil =>
      intro passed combined hpassed
      rw [mergeAreas, List.append_nil]
      exact iff_of_true trivial hpassed
  | cons existing areas ih =>
      intro passed combined hpassed
      rw [PassesClear, mergeAreas]
      split_ifs with hmeets
      · constructor
        · rintro ⟨hclear, hpasses⟩
          exact (ih hclear).mp hpasses
        · -- what is met at some time is met at the end
          intro hall
          have hclear : ∀ r ∈ passed, r.overlapOrTouching (combined.add existing) = false := by
            intro r hr
            refine Bool.eq_false_iff.mpr fun hmeet => ?_
            have hend := hall r (List.mem_append_left _ hr)
            rw [overlapOrTouching_mergeAreas areas hmeet] at hend
            cases hend
          exact ⟨hclear, (ih hclear).mpr hall⟩
      · rw [ih (List.forall_mem_cons.mpr ⟨Bool.eq_false_iff.mpr hmeets, hpassed⟩)]
        refine forall_congr' fun r => ?_
        simp only [List.mem_append, List.mem_cons]
        rw [or_assoc, or_left_comm]

/-- **When areas stay apart**: exactly when the pass for the new one comes to meet nothing that it passed
by. -/
theorem apart_addDamageRecange_iff (hfull : damage.isFullWindow = false)
    (h : damage.damageAreas.Pairwise fun r s => r.overlapOrTouching s = false)
    (damageArea : WebXRectangle) :
    ((damage.addDamageRecange damageArea).damageAreas.Pairwise
      fun r s => r.overlapOrTouching s = false) ↔ PassesClear [] damage.damageAreas damageArea := by
  rw [addDamageRecange, if_neg (by rw [hfull]; decide), passesClear_iff _ (List.forall_mem_nil _),
    List.pairwise_append, List.nil_append]
  have hkept := h.sublist (mergeAreas_sublist damage.damageAreas damageArea)
  constructor
  · rintro ⟨-, -, hlast⟩ r hr
    exact hlast r hr _ (List.mem_singleton_self _)
  · intro hlast
    refine ⟨hkept, List.pairwise_singleton _ _, fun r hr s hs => ?_⟩
    rw [List.mem_singleton.mp hs]
    exact hlast r hr

/-- A combined area is not empty when the new one is not. -/
theorem positive_addDamageRecange (h : ∀ area ∈ damage.damageAreas, area.Positive)
    {damageArea : WebXRectangle} (hpositive : damageArea.Positive) :
    ∀ area ∈ (damage.addDamageRecange damageArea).damageAreas, area.Positive := by
  have hmerged (areas : List WebXRectangle) : ∀ {combined : WebXRectangle}, combined.Positive →
      (mergeAreas areas combined).2.Positive := by
    induction areas with
    | nil => exact id
    | cons existing areas ih =>
        intro combined hcombined
        rw [mergeAreas]
        split_ifs
        · exact ih (hcombined.add existing)
        · exact ih hcombined
  rw [addDamageRecange]
  split_ifs
  · exact h
  · rw [List.forall_mem_append, List.forall_mem_singleton]
    exact ⟨fun area harea => h area ((mergeAreas_sublist _ _).subset harea), hmerged _ hpositive⟩

/-- The sum in 32 bits is that of the sizes, which wraps around. -/
theorem foldl_area_eq (areas : List WebXRectangle) (n : ℤ) :
    areas.foldl (fun area damageArea => area + damageArea.area) (Int32.ofInt n) =
      .ofInt (n + (areas.map fun area => area.size.width * area.size.height).sum) := by
  induction areas generalizing n with
  | nil => simp
  | cons r areas ih =>
      rw [List.foldl_cons, WebXRectangle.area, WebXSize.area, ← Int32.ofInt_mul, ← Int32.ofInt_add, ih,
        List.map_cons, List.sum_cons, add_assoc]

/-- The sum of the sizes of areas that share no pixel counts their pixels. -/
theorem sum_sizes_eq {areas : List WebXRectangle} (hpositive : ∀ area ∈ areas, area.Positive)
    (honce : areas.Pairwise fun r s => Disjoint r.pixels s.pixels) :
    (areas.map fun area => area.size.width * area.size.height).sum =
        ({p | ∃ area ∈ areas, p ∈ area.pixels} : Set (ℤ × ℤ)).ncard ∧
      ({p | ∃ area ∈ areas, p ∈ area.pixels} : Set (ℤ × ℤ)).Finite := by
  induction areas with
  | nil => simp
  | cons r areas ih =>
      rw [List.forall_mem_cons] at hpositive
      rw [List.pairwise_cons] at honce
      obtain ⟨hsum, hfinite⟩ := ih hpositive.2 honce.2
      have hr : r.pixels.Finite := r.coe_pixelFinset ▸ r.pixelFinset.finite_toSet
      -- the pixels of the first area, which no other one has
      have hunion : {p | ∃ area ∈ r :: areas, p ∈ area.pixels} =
          r.pixels ∪ {p | ∃ area ∈ areas, p ∈ area.pixels} := by
        ext p
        simp
      have hdisjoint : Disjoint r.pixels {p | ∃ area ∈ areas, p ∈ area.pixels} := by
        rw [Set.disjoint_left]
        rintro p hp ⟨area, harea, hp'⟩
        exact Set.disjoint_left.mp (honce.1 area harea) hp hp'
      rw [hunion]
      refine ⟨?_, hr.union hfinite⟩
      rw [List.map_cons, List.sum_cons, hsum, Set.ncard_union_eq hdisjoint hr hfinite, Nat.cast_add,
        WebXRectangle.ncard_pixels hpositive.1]

/-- **The damaged area** of areas that share no pixel counts their pixels exactly when they fit. -/
theorem getDamagedArea_eq_iff (hpositive : ∀ area ∈ damage.damageAreas, area.Positive)
    (honce : damage.damageAreas.Pairwise fun r s => Disjoint r.pixels s.pixels) :
    damage.getDamagedArea.toInt = damage.pixels.ncard ↔ damage.AreasFit := by
  have hsum : (damage.damageAreas.map fun area => area.size.width * area.size.height).sum =
      damage.pixels.ncard := (sum_sizes_eq hpositive honce).1
  have hwrap : damage.getDamagedArea = .ofInt damage.pixels.ncard := by
    rw [← hsum, ← zero_add (List.sum _)]
    exact foldl_area_eq damage.damageAreas 0
  rw [AreasFit, hsum, hwrap]
  constructor
  · intro h
    rw [← h]
    exact Int32.toInt_lt _
  · exact fun h => Int32.toInt_ofInt_of_le (by omega) h

/-- Areas that do not meet and fit are separate. -/
theorem separate_of_apart (hpositive : ∀ area ∈ damage.damageAreas, area.Positive)
    (h : damage.damageAreas.Pairwise fun r s => r.overlapOrTouching s = false)
    (hfit : damage.AreasFit) : damage.Separate := by
  have honce := h.imp fun hapart => WebXRectangle.disjoint_pixels hapart
  exact ⟨h, honce, (getDamagedArea_eq_iff hpositive honce).mpr hfit⟩

/-- Areas that are not empty and do not meet, unless the damage is full. -/
structure Clear (damage : WebXWindowDamage) : Prop where
  positive : damage.isFullWindow = false → ∀ area ∈ damage.damageAreas, area.Positive
  apart : damage.isFullWindow = false →
    damage.damageAreas.Pairwise fun r s => r.overlapOrTouching s = false

/-- Rectangles that are added one after the other stay apart. -/
theorem Clear.foldl {areas : List WebXRectangle} : ∀ {damage : WebXWindowDamage},
    damage.Clear → damage.isFullWindow = false → (∀ area ∈ areas, area.Positive) →
    damage.AddsClear areas → (areas.foldl addDamageRecange damage).Clear := by
  induction areas with
  | nil => exact fun h _ _ _ => h
  | cons area areas ih =>
      intro damage h hfull hpositive hadds
      rw [List.forall_mem_cons] at hpositive
      have hfull' := (isFullWindow_addDamageRecange damage area).trans hfull
      have hclear : (damage.addDamageRecange area).Clear :=
        ⟨fun _ => positive_addDamageRecange (h.positive hfull) hpositive.1,
          fun _ => (apart_addDamageRecange_iff hfull (h.apart hfull) area).mpr hadds.1⟩
      exact ih hclear hfull' hpositive.2 hadds.2

/-- **An action keeps the areas apart.** -/
theorem Clear.step (h : damage.Clear) {action : DamageAction} (hpositive : action.Positive)
    (hclear : damage.MergesClear action) : (damage.step action).Clear := by
  cases action with
  | reset => exact ⟨fun _ _ harea => (by cases harea), fun _ => .nil⟩
  | add windowDamage =>
      rw [WebXWindowDamage.step, WebXWindowDamage.add]
      split_ifs with hfull hadded
      · exact h
      · exact ⟨fun _ _ harea => (by cases harea), fun _ => .nil⟩
      · have hadds := (hclear.resolve_left hfull).resolve_left hadded
        exact h.foldl (Bool.eq_false_iff.mpr hfull) hpositive hadds.1

/-- **The areas fit** after an action whose condition says so. -/
theorem areasFit_step (h : damage.isFullWindow = false → damage.AreasFit) {action : DamageAction}
    (hclear : damage.MergesClear action) :
    (damage.step action).isFullWindow = false → (damage.step action).AreasFit := by
  intro hfull
  cases action with
  | reset => exact areasFit_of_damageAreas_eq_nil rfl
  | add windowDamage =>
      rw [WebXWindowDamage.step] at hfull ⊢
      rcases hclear with hold | hnew | ⟨-, hfit⟩
      · rw [WebXWindowDamage.add, if_pos hold, hold] at hfull
        cases hfull
      · rw [WebXWindowDamage.add] at hfull ⊢
        split_ifs at hfull ⊢ with hold
        exact h hfull
      · exact hfit

end WebXWindowDamage

/-- **The areas of a damage stay apart**, as long as no pass comes to meet an area that it passed by and
the areas can be counted. -/
theorem staysSeparate (x11Window : UInt32) : StaysSeparate x11Window MergesClear := by
  intro actions damage hrun hfull
  obtain ⟨hclear, hfit⟩ : damage.Clear ∧ (damage.isFullWindow = false → damage.AreasFit) := by
    refine hrun.invariant (P := fun damage => damage.Clear ∧
      (damage.isFullWindow = false → damage.AreasFit)) (fun d action d' h hallowed hstep => ?_) ?_
    · cases hstep
      exact ⟨h.1.step hallowed.1 hallowed.2, areasFit_step h.2 hallowed.2⟩
    · exact ⟨⟨fun _ _ harea => (by cases harea), fun _ => .nil⟩,
        fun _ => areasFit_of_damageAreas_eq_nil rfl⟩
  exact separate_of_apart (hclear.positive hfull) (hclear.apart hfull) (hfit hfull)

namespace WebXWindowDamage

/-- Two rectangles that do not meet are added, and one that meets the first. -/
def meetsFirst : List DamageAction :=
  [.ofSize 0 0 10 10, .ofSize 20 0 10 10, .ofSize 5 5 10 10].map fun r => .add (.ofArea 1 r false)

/-- The last rectangle is merged with the one that it meets, and is apart from the other. -/
theorem staysSeparate_meetsFirst : ∃ damage : WebXWindowDamage,
    damage.damageAreas = [.ofSize 20 0 10 10, .ofSize 0 0 15 15] ∧ damage.Separate :=
  ⟨meetsFirst.foldl step (.empty 1), by decide, staysSeparate 1 meetsFirst _
    (.cons ⟨List.forall_mem_singleton.mpr (by decide), by decide⟩ rfl
      (.cons ⟨List.forall_mem_singleton.mpr (by decide), by decide⟩ rfl
        (.cons ⟨List.forall_mem_singleton.mpr (by decide), by decide⟩ rfl (.nil _)))) rfl⟩

/-- The second rectangle does not meet the first. The third one meets the second only, and grows over
the first. -/
def threeRectangles : List WebXRectangle :=
  [.ofSize 0 0 10 10, .ofSize 100 5 10 10, .ofSize 0 15 110 10]

/-- The three rectangles are added one after the other. -/
def addThree : List DamageAction := threeRectangles.map fun r => .add (.ofArea 1 r false)

/-- The areas meet in the end. -/
theorem not_staysSeparate : ¬ StaysSeparate 1 fun _ _ => True := by
  intro h
  have hpositive : ∀ action ∈ addThree, action.Positive := by
    intro action haction
    obtain ⟨r, hr, rfl⟩ := List.mem_map.mp haction
    have hall : ∀ r ∈ threeRectangles, r.Positive := by decide
    exact List.forall_mem_singleton.mpr (hall r hr)
  have hrun : Run (E := Fault) (fun damage action => .ok (step damage action)) (fun _ _ => True)
      (.empty 1) addThree (addThree.foldl step (.empty 1)) := Run.of_foldlM rfl
  have hseparate := h addThree _ (hrun.restrict hpositive) rfl
  exact absurd hseparate.apart (by decide)

end WebXWindowDamage

end WebXEngine
