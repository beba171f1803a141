import WebXEngine.Models.Geometry
import Mathlib.Data.List.Basic

/-! # Window damage

The parts of a window that have changed since it was last sent: some rectangles, merged when they
overlap or touch, or the full window.

* **`WebXWindowDamage`** — the damage of a window.
* **`WebXWindowDamage.add`** — the accumulation of damage.
* **`WebXWindowDamage.Covers`** — a damage contains another; `covers_add_left` and
  `covers_add_right` say that accumulating loses nothing. -/

namespace WebXEngine

/-- The damage of a window. -/
structure WebXWindowDamage where
  x11Window : UInt32
  damageAreas : List WebXRectangle
  isFullWindow : Bool
  deriving DecidableEq, Repr

namespace WebXWindowDamage

/-- No damage. -/
def empty (x11Window : UInt32) : WebXWindowDamage := ⟨x11Window, [], false⟩

/-- One damaged rectangle. -/
def ofArea (x11Window : UInt32) (damageArea : WebXRectangle) (fullWindow : Bool) :
    WebXWindowDamage := ⟨x11Window, [damageArea], fullWindow⟩

/-- The loop of `addDamageRecange`: the areas that the combined area meets are removed and combined
with it as they are found. -/
def mergeAreas : List WebXRectangle → WebXRectangle → List WebXRectangle × WebXRectangle
  | [], combined => ([], combined)
  | existing :: areas, combined =>
      if existing.overlapOrTouching combined then
        mergeAreas areas (combined.add existing)
      else
        let merged := mergeAreas areas combined
        (existing :: merged.1, merged.2)

/-- Adds a damaged area. -/
def addDamageRecange (damage : WebXWindowDamage) (damageArea : WebXRectangle) : WebXWindowDamage :=
  if damage.isFullWindow then
    damage
  else
    let merged := mergeAreas damage.damageAreas damageArea
    { damage with damageAreas := merged.1 ++ [merged.2] }

/-- Adds a damage to another. -/
def add (damage windowDamage : WebXWindowDamage) : WebXWindowDamage :=
  if damage.isFullWindow then
    damage
  else if windowDamage.isFullWindow then
    { damage with damageAreas := [], isFullWindow := true }
  else
    windowDamage.damageAreas.foldl addDamageRecange damage

/-- The damage is the full window: it was reported so, or its only area has the size of the
window. -/
def isFullWindowOf (damage : WebXWindowDamage) (windowSize : WebXSize) : Bool :=
  if damage.isFullWindow then
    true
  else
    match damage.damageAreas with
    | [damageArea] => damageArea.size.width = windowSize.width
        && damageArea.size.height = windowSize.height
    | _ => false

/-- The sum of the damaged areas, in 32 bits. -/
def getDamagedArea (damage : WebXWindowDamage) : Int32 :=
  damage.damageAreas.foldl (fun area damageArea => area + damageArea.area) 0

/-- There is some damage. -/
def hasDamage (damage : WebXWindowDamage) : Bool :=
  damage.isFullWindow || damage.damageAreas.length > 0

/-- Forgets the damage. -/
def reset (damage : WebXWindowDamage) : WebXWindowDamage :=
  { damage with isFullWindow := false, damageAreas := [] }

/-! ## What a damage contains -/

/-- The pixels of the damaged areas. -/
def pixels (damage : WebXWindowDamage) : Set (ℤ × ℤ) :=
  {p | ∃ area ∈ damage.damageAreas, p ∈ area.pixels}

/-- A damage contains another: it is full, or neither is full and it has all the pixels of the
other. -/
def Covers (damage other : WebXWindowDamage) : Prop :=
  damage.isFullWindow = true ∨ other.isFullWindow = false ∧ other.pixels ⊆ damage.pixels

/-- A damage covers itself. -/
theorem covers_refl (damage : WebXWindowDamage) : damage.Covers damage := by
  cases h : damage.isFullWindow with
  | true => exact .inl h
  | false => exact .inr ⟨h, subset_rfl⟩

/-- Covering is transitive. -/
theorem Covers.trans {d e f : WebXWindowDamage} (hde : d.Covers e) (hef : e.Covers f) :
    d.Covers f := by
  rcases hde with hd | ⟨he, hde⟩
  · exact .inl hd
  · rcases hef with hfull | ⟨hf, hef⟩
    · rw [hfull] at he
      exact nomatch he
    · exact .inr ⟨hf, hef.trans hde⟩

/-- Any damage contains no damage. -/
theorem covers_empty (damage : WebXWindowDamage) (x11Window : UInt32) :
    damage.Covers (empty x11Window) := by
  refine .inr ⟨rfl, ?_⟩
  rintro p ⟨area, harea, -⟩
  exact nomatch harea

/-- Merging keeps the pixels of the areas and of the new area. -/
theorem mem_mergeAreas {areas : List WebXRectangle} {combined : WebXRectangle} {p : ℤ × ℤ}
    (h : (∃ area ∈ areas, p ∈ area.pixels) ∨ p ∈ combined.pixels) :
    (∃ area ∈ (mergeAreas areas combined).1, p ∈ area.pixels) ∨
      p ∈ (mergeAreas areas combined).2.pixels := by
  induction areas generalizing combined with
  | nil => simpa [mergeAreas] using h
  | cons existing areas ih =>
      rw [List.exists_mem_cons_iff] at h
      rw [mergeAreas]
      split_ifs with hmeets
      · -- the existing area is absorbed by the combined one
        refine ih ?_
        rcases h with (hexisting | hareas) | hcombined
        · exact .inr (WebXRectangle.pixels_subset_add_right _ _ hexisting)
        · exact .inl hareas
        · exact .inr (WebXRectangle.pixels_subset_add_left _ _ hcombined)
      · rw [List.exists_mem_cons_iff]
        rcases h with (hexisting | hareas) | hcombined
        · exact .inl (.inl hexisting)
        · exact (ih (.inl hareas)).imp_left .inr
        · exact (ih (.inr hcombined)).imp_left .inr

/-- Adding an area keeps the damage and the area. -/
theorem covers_addDamageRecange (damage : WebXWindowDamage) (area : WebXRectangle) :
    (damage.addDamageRecange area).Covers damage ∧
      ((damage.addDamageRecange area).isFullWindow = true ∨
        area.pixels ⊆ (damage.addDamageRecange area).pixels) := by
  rw [addDamageRecange]
  cases hfull : damage.isFullWindow with
  | true => exact ⟨.inl hfull, .inl hfull⟩
  | false =>
      have hmem {p : ℤ × ℤ} (h : (∃ area ∈ damage.damageAreas, p ∈ area.pixels) ∨ p ∈ area.pixels) :
          ∃ a ∈ (mergeAreas damage.damageAreas area).1 ++ [(mergeAreas damage.damageAreas area).2],
            p ∈ a.pixels := by
        rcases mem_mergeAreas h with ⟨a, ha, hp⟩ | hp
        · exact ⟨a, List.mem_append_left _ ha, hp⟩
        · exact ⟨_, List.mem_append_right _ (List.mem_singleton_self _), hp⟩
      exact ⟨.inr ⟨hfull, fun p hp => hmem (.inl hp)⟩, .inr fun p hp => hmem (.inr hp)⟩

/-- Adding areas keeps the damage and the areas. -/
theorem covers_foldl (areas : List WebXRectangle) (damage : WebXWindowDamage) :
    (areas.foldl addDamageRecange damage).Covers damage ∧
      ((areas.foldl addDamageRecange damage).isFullWindow = true ∨
        ∀ area ∈ areas, area.pixels ⊆ (areas.foldl addDamageRecange damage).pixels) := by
  induction areas generalizing damage with
  | nil => exact ⟨covers_refl _, .inr (by simp)⟩
  | cons area areas ih =>
      obtain ⟨hdamage, harea⟩ := covers_addDamageRecange damage area
      obtain ⟨hnext, hareas⟩ := ih (damage.addDamageRecange area)
      refine ⟨hnext.trans hdamage, ?_⟩
      rcases hnext with hfull | ⟨hnotFull, hsubset⟩
      · exact .inl hfull
      · rw [hnotFull] at harea
        refine hareas.imp_right fun hareas => ?_
        rw [List.forall_mem_cons]
        exact ⟨(harea.resolve_left Bool.false_ne_true).trans hsubset, hareas⟩

/-- **Accumulating keeps the earlier damage.** -/
theorem covers_add_left (damage windowDamage : WebXWindowDamage) :
    (damage.add windowDamage).Covers damage := by
  rw [add]
  split_ifs with hfull hother
  · exact covers_refl damage
  · exact .inl rfl
  · exact (covers_foldl _ _).1

/-- **Accumulating keeps the new damage.** -/
theorem covers_add_right (damage windowDamage : WebXWindowDamage) :
    (damage.add windowDamage).Covers windowDamage := by
  rw [add]
  split_ifs with hfull hother
  · exact .inl hfull
  · exact .inl rfl
  · rcases (covers_foldl windowDamage.damageAreas damage).2 with h | h
    · exact .inl h
    · refine .inr ⟨Bool.eq_false_iff.mpr hother, ?_⟩
      rintro p ⟨area, harea, hp⟩
      exact h area harea hp

end WebXWindowDamage

end WebXEngine
