import Mathlib
import WebXEngine.Models.WindowCoverage

/-! # The cells of a window that are covered

The area that the sweep adds up is compared with the number of the cells of the base that are covered.
The two are the same, column by column, when no interval ends too early for the loop over them, and in
32 bits when the base has fewer than 2^31 cells.

* **`coveredCells`** — the cells of the base that are in a covering rectangle.
* **`NotInside`** — no covering rectangle hides a part of another from the loop.
* **`coverageExact_iff`** — the coverage is exact for these rectangles and bases, and only for them. -/

namespace WebXEngine

namespace WebXWindowCoverage

variable {base : WebXRectangle} {coveringRectangles : List WebXRectangle}

/-- The cells of the base that are covered. -/
noncomputable def coveredCells (base : WebXRectangle) (coveringRectangles : List WebXRectangle) :
    Finset (ℤ × ℤ) :=
  (Finset.Ico base.left base.right ×ˢ Finset.Ico base.bottom base.top).filter fun cell =>
    ∃ rect ∈ coveringRectangles, cell ∈ rect.pixels

/-- A cell of the base is covered when it is one of some rectangle. -/
theorem mem_coveredCells {cell : ℤ × ℤ} :
    cell ∈ coveredCells base coveringRectangles ↔
      cell ∈ base.pixels ∧ ∃ rect ∈ coveringRectangles, cell ∈ rect.pixels := by
  simp [coveredCells, WebXRectangle.mem_pixels, and_assoc]

/-! ## Columns -/

/-- The cells of a column that are covered are those of its intervals. -/
theorem mem_coveredCells_iff {c y : ℤ} :
    (c, y) ∈ coveredCells base coveringRectangles ↔
      y ∈ intervalUnion (columnIntervals base coveringRectangles c) := by
  rw [mem_coveredCells, mem_intervalUnion]
  constructor
  · rintro ⟨hbase, rect, hrect, hcell⟩
    rw [WebXRectangle.mem_pixels] at hbase hcell
    -- a rectangle with a cell of the base overlaps it, and so is one of those that are swept
    have hoverlap : base.overlap rect = true := by
      rw [overlap_iff]
      dsimp only at hbase hcell
      omega
    refine ⟨_, mem_columnIntervals.mpr ⟨clippedSpan base rect,
      mem_clippedSpans.mpr ⟨rect, hrect, hoverlap, rfl⟩, ?_, ?_, rfl⟩, ?_, ?_⟩
    · exact max_le hcell.1 hbase.1
    · exact lt_min hcell.2.1 hbase.2.1
    · exact max_le hcell.2.2.1 hbase.2.2.1
    · exact lt_min hcell.2.2.2 hbase.2.2.2
  · rintro ⟨interval, hinterval, hy⟩
    obtain ⟨span, hspan, hlower, hupper, rfl⟩ := mem_columnIntervals.mp hinterval
    obtain ⟨rect, hrect, -, rfl⟩ := mem_clippedSpans.mp hspan
    simp only [clippedSpan, max_le_iff, lt_min_iff] at hlower hupper hy
    exact ⟨⟨hlower.2, hupper.2, hy.1.2, hy.2.2⟩, rect, hrect, hlower.1, hupper.1, hy.1.1, hy.2.1⟩

/-- Sorting the intervals of a column does not change their union. -/
theorem intervalUnion_sortedColumn (c : ℤ) :
    intervalUnion (sortedColumn base coveringRectangles c) =
      intervalUnion (columnIntervals base coveringRectangles c) := by
  ext y
  rw [mem_intervalUnion, mem_intervalUnion]
  simp only [sortedColumn, List.mem_insertionSort]

/-- The covered cells are counted column by column. -/
theorem card_coveredCells (base : WebXRectangle) (coveringRectangles : List WebXRectangle) :
    (coveredCells base coveringRectangles).card =
      ∑ c ∈ Finset.Ico base.left base.right,
        (intervalUnion (sortedColumn base coveringRectangles c)).card := by
  have hcolumns : ∀ cell ∈ coveredCells base coveringRectangles,
      cell.1 ∈ Finset.Ico base.left base.right := by
    intro cell hcell
    have hbase := (mem_coveredCells.mp hcell).1
    exact Finset.mem_Ico.mpr ⟨hbase.1, hbase.2.1⟩
  -- the cells are counted column by column
  rw [Finset.card_eq_sum_card_fiberwise hcolumns]
  refine Finset.sum_congr rfl fun c _ => ?_
  have hcells : (coveredCells base coveringRectangles).filter (fun cell => cell.1 = c) =
      (intervalUnion (sortedColumn base coveringRectangles c)).map
        ⟨Prod.mk c, Prod.mk_right_injective c⟩ := by
    ext ⟨x, y⟩
    rw [Finset.mem_filter, Finset.mem_map, intervalUnion_sortedColumn]
    constructor
    · rintro ⟨hcell, rfl⟩
      exact ⟨y, mem_coveredCells_iff.mp hcell, rfl⟩
    · rintro ⟨z, hz, heq⟩
      cases heq
      exact ⟨mem_coveredCells_iff.mpr hz, rfl⟩
  rw [hcells, Finset.card_map]

/-! ## The area -/

/-- No rectangle reaches a column that is not swept at the end. -/
theorem columnIntervals_eq_nil {mouseX mouseY : ℤ} {done : List SweepLineEvent} {state : SweepState}
    (hend : Swept mouseX mouseY base coveringRectangles done [] state) {c : ℤ}
    (hc : c ∈ Finset.Ico base.left base.right) (hswept : c ∉ Finset.Ico base.left state.prevX) :
    columnIntervals base coveringRectangles c = [] := by
  refine List.eq_nil_iff_forall_not_mem.mpr fun interval hinterval => hswept ?_
  obtain ⟨span, hspan, -, hupper, -⟩ := mem_columnIntervals.mp hinterval
  obtain ⟨e, he, hx, -⟩ := hend.exists_end hspan
  rw [Finset.mem_Ico] at hc ⊢
  exact ⟨hc.1, hupper.trans_le (hx ▸ hend.done_le e he)⟩

/-- The area that the sweep adds up is that of all columns of the base, unless it overflows. -/
theorem coveredArea_spec (sort : SweepLineSort) (hbase : base.left < base.right)
    (hrects : ∀ rect ∈ coveringRectangles, 0 < rect.size.width ∧ 0 < rect.size.height)
    (mouseX mouseY : ℤ) :
    ∃ state, sweep mouseX mouseY sort base coveringRectangles = .ok state ∧
      (state.coveredArea.overflow = false →
        state.coveredArea.Is (columnsLength base coveringRectangles base.left base.right)) ∧
      ((∀ c ∈ Finset.Ico base.left base.right,
          0 ≤ scanLength 0 (sortedColumn base coveringRectangles c)) →
        columnsLength base coveringRectangles base.left base.right < 2 ^ 31 →
          state.coveredArea.overflow = false) := by
  have hstart := @Swept.start base coveringRectangles mouseX mouseY sort hbase.le
  obtain ⟨state, hrun, -⟩ := hstart.exists_run hrects hbase
  have hend := Swept.run hrects _ hstart hrun
  rw [List.nil_append] at hend
  have hall : columnsLength base coveringRectangles base.left state.prevX =
      columnsLength base coveringRectangles base.left base.right := by
    refine Finset.sum_subset (Finset.Ico_subset_Ico_right hend.le_right) fun c hc hswept => ?_
    rw [sortedColumn, columnIntervals_eq_nil hend hc hswept]
    rfl
  rw [← hall]
  exact ⟨state, hrun, hend.area, hall ▸ hend.fits⟩

/-! ## When the area is exact -/

/-- No covering rectangle is hidden from the loop: inside the base, none begins below 0, and none is,
in a column that it shares with another, strictly inside the rows of the other. -/
structure NotInside (base : WebXRectangle) (coveringRectangles : List WebXRectangle) : Prop where
  nonneg : ∀ rect ∈ coveringRectangles, base.overlap rect = true → 0 ≤ max rect.bottom base.bottom
  not_inside : ∀ r ∈ coveringRectangles, ∀ s ∈ coveringRectangles,
    base.overlap r = true → base.overlap s = true →
    ∀ c, base.left ≤ c → c < base.right → r.left ≤ c → c < r.right → s.left ≤ c → c < s.right →
      ¬ (max r.bottom base.bottom < max s.bottom base.bottom ∧
        min s.top base.top < min r.top base.top)

/-- Fewer rectangles hide fewer others. -/
theorem NotInside.subset {fewer : List WebXRectangle} (h : NotInside base coveringRectangles)
    (hsubset : fewer ⊆ coveringRectangles) : NotInside base fewer :=
  ⟨fun rect hrect => h.nonneg rect (hsubset hrect),
    fun r hr s hs => h.not_inside r (hsubset hr) s (hsubset hs)⟩

/-- The intervals of a column are those of the rectangles over it, cut to the base. -/
theorem mem_sortedColumn {c : ℤ} {interval : ℤ × ℤ} :
    interval ∈ sortedColumn base coveringRectangles c ↔
      ∃ rect ∈ coveringRectangles, base.overlap rect = true ∧
        (rect.left ≤ c ∧ base.left ≤ c) ∧ (c < rect.right ∧ c < base.right) ∧
        interval = (max rect.bottom base.bottom, min rect.top base.top) := by
  rw [sortedColumn, List.mem_insertionSort, mem_columnIntervals]
  constructor
  · rintro ⟨span, hspan, hlower, hupper, rfl⟩
    obtain ⟨rect, hrect, hoverlap, rfl⟩ := mem_clippedSpans.mp hspan
    exact ⟨rect, hrect, hoverlap, max_le_iff.mp hlower, lt_min_iff.mp hupper, rfl⟩
  · rintro ⟨rect, hrect, hoverlap, hlower, hupper, rfl⟩
    exact ⟨_, mem_clippedSpans.mpr ⟨rect, hrect, hoverlap, rfl⟩, max_le_iff.mpr hlower,
      lt_min_iff.mpr hupper, rfl⟩

/-- The condition, column by column. -/
theorem notInside_iff (hbase : base.left < base.right)
    (hrects : ∀ rect ∈ coveringRectangles, 0 < rect.size.width ∧ 0 < rect.size.height) :
    NotInside base coveringRectangles ↔ ∀ c ∈ Finset.Ico base.left base.right,
      (∀ i ∈ sortedColumn base coveringRectangles c, 0 ≤ i.1) ∧
        ∀ i ∈ sortedColumn base coveringRectangles c,
          ∀ j ∈ sortedColumn base coveringRectangles c, ¬ (i.1 < j.1 ∧ j.2 < i.2) := by
  constructor
  · intro h c hc
    rw [Finset.mem_Ico] at hc
    constructor
    · intro i hi
      obtain ⟨rect, hrect, hoverlap, -, -, rfl⟩ := mem_sortedColumn.mp hi
      exact h.nonneg rect hrect hoverlap
    · intro i hi j hj
      obtain ⟨r, hr, hroverlap, hrlower, hrupper, rfl⟩ := mem_sortedColumn.mp hi
      obtain ⟨s, hs, hsoverlap, hslower, hsupper, rfl⟩ := mem_sortedColumn.mp hj
      exact h.not_inside r hr s hs hroverlap hsoverlap c hc.1 hc.2 hrlower.1 hrupper.1 hslower.1
        hsupper.1
  · intro h
    refine ⟨fun rect hrect hoverlap => ?_, ?_⟩
    · -- the rectangle has a column in the base
      have hspan := lower_lt_upper hbase hrects _
        (mem_clippedSpans.mpr ⟨rect, hrect, hoverlap, rfl⟩)
      obtain ⟨hleft, hright⟩ := lt_min_iff.mp hspan
      have hcolumn : max rect.left base.left ∈ Finset.Ico base.left base.right :=
        Finset.mem_Ico.mpr ⟨le_max_right _ _, hright⟩
      exact (h _ hcolumn).1 _ (mem_sortedColumn.mpr ⟨rect, hrect, hoverlap,
        ⟨le_max_left _ _, le_max_right _ _⟩, ⟨hleft, hright⟩, rfl⟩)
    · intro r hr s hs hroverlap hsoverlap c hleft hright hrlower hrupper hslower hsupper
      exact (h c (Finset.mem_Ico.mpr ⟨hleft, hright⟩)).2 _
        (mem_sortedColumn.mpr ⟨r, hr, hroverlap, ⟨hrlower, hleft⟩, ⟨hrupper, hright⟩, rfl⟩) _
        (mem_sortedColumn.mpr ⟨s, hs, hsoverlap, ⟨hslower, hleft⟩, ⟨hsupper, hright⟩, rfl⟩)

/-- No rectangle is hidden when the pass over each column gives the length of its union. -/
theorem notInside_iff_scanLength (hbase : base.left < base.right)
    (hrects : ∀ rect ∈ coveringRectangles, 0 < rect.size.width ∧ 0 < rect.size.height)
    (hheight : base.bottom < base.top) :
    NotInside base coveringRectangles ↔ ∀ c ∈ Finset.Ico base.left base.right,
      scanLength 0 (sortedColumn base coveringRectangles c) =
        (intervalUnion (sortedColumn base coveringRectangles c)).card := by
  have hlt (c : ℤ) : ∀ i ∈ sortedColumn base coveringRectangles c, i.1 < i.2 := by
    intro i hi
    obtain ⟨rect, hrect, hoverlap, -, -, rfl⟩ := mem_sortedColumn.mp hi
    rw [overlap_iff] at hoverlap
    have hsize := hrects rect hrect
    have htop := rect.top_eq
    have hbottom := rect.bottom_eq
    refine max_lt (lt_min ?_ ?_) (lt_min ?_ ?_) <;> omega
  rw [notInside_iff hbase hrects]
  exact forall₂_congr fun c _ =>
    (scanLength_eq_iff (List.pairwise_insertionSort _ _) (hlt c) 0).symm

/-- **The area of the columns is the number of cells exactly when no rectangle is hidden.** -/
theorem columnsLength_eq_iff (hbase : base.left < base.right)
    (hrects : ∀ rect ∈ coveringRectangles, 0 < rect.size.width ∧ 0 < rect.size.height)
    (hheight : base.bottom < base.top) :
    columnsLength base coveringRectangles base.left base.right =
        (coveredCells base coveringRectangles).card ↔
      NotInside base coveringRectangles := by
  have hsorted (c : ℤ) : (sortedColumn base coveringRectangles c).Pairwise IntervalLe :=
    List.pairwise_insertionSort _ _
  rw [columnsLength, card_coveredCells, Nat.cast_sum, notInside_iff_scanLength hbase hrects hheight,
    Finset.sum_eq_sum_iff_of_le fun c _ => scanLength_le (hsorted c) 0]

/-! ## The coverage -/

/-- The coverage of a base is exact: the area is the number of the cells that are covered, and that of
the base the number of its cells, without an overflow. So the coverage is between 0 and 1, does not
depend on the order of the rectangles, and is not smaller than that of fewer rectangles. -/
structure CoverageExact (base : WebXRectangle) (coveringRectangles : List WebXRectangle) : Prop where
  area : ∀ sort mouseX mouseY, ∃ state,
    sweep mouseX mouseY sort base coveringRectangles = .ok state ∧
      state.coveredArea.Is (coveredCells base coveringRectangles).card
  base_area : base.area.toInt = base.size.width * base.size.height
  bounds : ∀ sort mouseX mouseY coverage,
    overlapCalc mouseX mouseY sort base coveringRectangles = .ok coverage →
      0 ≤ coverage.coverage ∧ coverage.coverage ≤ 1
  order : ∀ sort mouseX mouseY coverage sort' others mouseX' mouseY' coverage',
    others.Perm coveringRectangles →
    overlapCalc mouseX mouseY sort base coveringRectangles = .ok coverage →
    overlapCalc mouseX' mouseY' sort' base others = .ok coverage' →
      coverage'.coverage = coverage.coverage
  monotone : ∀ sort mouseX mouseY coverage sort' fewer mouseX' mouseY' coverage',
    fewer ⊆ coveringRectangles →
    overlapCalc mouseX mouseY sort base coveringRectangles = .ok coverage →
    overlapCalc mouseX' mouseY' sort' base fewer = .ok coverage' →
      coverage'.coverage ≤ coverage.coverage

/-- The cells of some rectangles are covered by more rectangles too. -/
theorem coveredCells_subset {fewer : List WebXRectangle} (h : fewer ⊆ coveringRectangles) :
    coveredCells base fewer ⊆ coveredCells base coveringRectangles := by
  intro cell hcell
  obtain ⟨hbase, rect, hrect, hpixels⟩ := mem_coveredCells.mp hcell
  exact mem_coveredCells.mpr ⟨hbase, rect, h hrect, hpixels⟩

/-- There are at most as many cells as the base has. -/
theorem card_coveredCells_le (hwidth : 0 < base.size.width) (hheight : 0 < base.size.height) :
    ((coveredCells base coveringRectangles).card : ℤ) ≤ base.size.width * base.size.height := by
  have hcells : (coveredCells base coveringRectangles).card ≤
      (Finset.Ico base.left base.right ×ˢ Finset.Ico base.bottom base.top).card :=
    Finset.card_filter_le _ _
  have hright : base.right - base.left = base.size.width := by
    have hleft := base.left_eq
    have hright := base.right_eq
    omega
  have htop : base.top - base.bottom = base.size.height := by
    have hbottom := base.bottom_eq
    have htop := base.top_eq
    omega
  rw [Finset.card_product, Int.card_Ico, Int.card_Ico, hright, htop] at hcells
  calc ((coveredCells base coveringRectangles).card : ℤ)
      ≤ ((base.size.width.toNat * base.size.height.toNat : ℕ) : ℤ) := by exact_mod_cast hcells
    _ = base.size.width * base.size.height := by
        rw [Nat.cast_mul, Int.toNat_of_nonneg hwidth.le, Int.toNat_of_nonneg hheight.le]

section

variable (hwidth : 0 < base.size.width) (hheight : 0 < base.size.height)
  (hrects : ∀ rect ∈ coveringRectangles, 0 < rect.size.width ∧ 0 < rect.size.height)
include hwidth hheight hrects

/-- The area that the sweep gives is the number of the cells only when no rectangle is hidden. -/
theorem notInside_of_coveredArea {sort : SweepLineSort} {mouseX mouseY : ℤ}
    (h : ∃ state, sweep mouseX mouseY sort base coveringRectangles = .ok state ∧
      state.coveredArea.Is (coveredCells base coveringRectangles).card) :
    NotInside base coveringRectangles := by
  have hleft := base.left_eq
  have hright := base.right_eq
  have hbottom := base.bottom_eq
  have htop := base.top_eq
  have hlt : base.left < base.right := by omega
  obtain ⟨state, hsweep, hcells⟩ := h
  obtain ⟨state', hsweep', harea, -⟩ := coveredArea_spec sort hlt hrects mouseX mouseY
  cases hsweep.symm.trans hsweep'
  exact (columnsLength_eq_iff hlt hrects (by omega)).mp ((harea hcells.1).2.symm.trans hcells.2)

/-- It is the number of the cells when no rectangle is hidden and the cells of the base can be
counted. -/
theorem coveredArea_of_notInside (hcells : base.size.width * base.size.height < 2 ^ 31)
    (h : NotInside base coveringRectangles) (sort : SweepLineSort) (mouseX mouseY : ℤ) :
    ∃ state, sweep mouseX mouseY sort base coveringRectangles = .ok state ∧
      state.coveredArea.Is (coveredCells base coveringRectangles).card := by
  have hleft := base.left_eq
  have hright := base.right_eq
  have hbottom := base.bottom_eq
  have htop := base.top_eq
  have hlt : base.left < base.right := by omega
  have hheights : base.bottom < base.top := by omega
  obtain ⟨state, hsweep, harea, hfits⟩ := coveredArea_spec sort hlt hrects mouseX mouseY
  have hlength := (columnsLength_eq_iff hlt hrects hheights).mpr h
  have hcolumns := (notInside_iff_scanLength hlt hrects hheights).mp h
  -- no column takes something away, and all columns have at most the cells of the base
  have hflag := hfits (fun c hc => by rw [hcolumns c hc]; exact Int.natCast_nonneg _)
    (by rw [hlength]; exact (card_coveredCells_le hwidth hheight).trans_lt hcells)
  exact ⟨state, hsweep, hlength ▸ harea hflag⟩

/-- The coverage when no rectangle is hidden. -/
theorem coverage_eq (hcells : base.size.width * base.size.height < 2 ^ 31)
    (h : NotInside base coveringRectangles) {sort : SweepLineSort} {mouseX mouseY : ℤ}
    {coverage : WebXWindowCoverage}
    (hcalc : overlapCalc mouseX mouseY sort base coveringRectangles = .ok coverage) :
    coverage.coverage =
      (coveredCells base coveringRectangles).card / ((base.size.width * base.size.height : ℤ) : ℚ) := by
  obtain ⟨state, hsweep, -, harea⟩ :=
    coveredArea_of_notInside hwidth hheight hrects hcells h sort mouseX mouseY
  have hbase := (WebXSize.toInt_area_eq_iff ⟨hwidth, hheight⟩).mpr hcells
  rw [overlapCalc, hsweep] at hcalc
  cases hcalc
  dsimp only
  rw [harea, WebXRectangle.area, hbase, Int.cast_natCast]

end

end WebXWindowCoverage

open WebXWindowCoverage in
/-- **The coverage is exact exactly when the cells of the base can be counted and no rectangle is hidden
from the loop** over the intervals. -/
theorem coverageExact_iff (base : WebXRectangle) (coveringRectangles : List WebXRectangle)
    (hbase : 0 < base.size.width ∧ 0 < base.size.height)
    (hrects : ∀ rect ∈ coveringRectangles, 0 < rect.size.width ∧ 0 < rect.size.height) :
    CoverageExact base coveringRectangles ↔
      base.size.width * base.size.height < 2 ^ 31 ∧ NotInside base coveringRectangles := by
  obtain ⟨hwidth, hheight⟩ := hbase
  have hpos : (0 : ℚ) < ((base.size.width * base.size.height : ℤ) : ℚ) := by
    exact_mod_cast mul_pos hwidth hheight
  constructor
  · intro h
    exact ⟨(WebXSize.toInt_area_eq_iff ⟨hwidth, hheight⟩).mp h.base_area,
      notInside_of_coveredArea hwidth hheight hrects (h.area .stable 0 0)⟩
  · rintro ⟨hcells, h⟩
    have hsubset {fewer : List WebXRectangle} (hfewer : fewer ⊆ coveringRectangles)
        {sort : SweepLineSort} {mouseX mouseY : ℤ} {coverage : WebXWindowCoverage}
        (hcalc : overlapCalc mouseX mouseY sort base fewer = .ok coverage) :=
      coverage_eq hwidth hheight (fun rect hrect => hrects rect (hfewer hrect)) hcells (h.subset hfewer)
        hcalc
    -- the coverage is a count of cells over the area: each part is a fact about the cells
    refine ⟨?_, ?_, ?_, ?_, ?_⟩
    · exact coveredArea_of_notInside hwidth hheight hrects hcells h
    · exact (WebXSize.toInt_area_eq_iff ⟨hwidth, hheight⟩).mpr hcells
    · intro sort mouseX mouseY coverage hcalc
      rw [hsubset (List.Subset.refl _) hcalc]
      refine ⟨div_nonneg (Nat.cast_nonneg _) hpos.le, div_le_one_of_le₀ ?_ hpos.le⟩
      exact_mod_cast card_coveredCells_le hwidth hheight
    · intro sort mouseX mouseY coverage sort' others mouseX' mouseY' coverage' hperm hcalc hcalc'
      have hcells : coveredCells base others = coveredCells base coveringRectangles :=
        (coveredCells_subset hperm.subset).antisymm (coveredCells_subset hperm.symm.subset)
      rw [hsubset hperm.subset hcalc', hsubset (List.Subset.refl _) hcalc, hcells]
    · intro sort mouseX mouseY coverage sort' fewer mouseX' mouseY' coverage' hfewer hcalc hcalc'
      rw [hsubset hfewer hcalc', hsubset (List.Subset.refl _) hcalc]
      refine div_le_div_of_nonneg_right ?_ hpos.le
      exact_mod_cast Finset.card_le_card (coveredCells_subset hfewer)

/-- A window of which one other covers a part. -/
theorem coverageExact_iff_one :
    WebXWindowCoverage.CoverageExact (.ofSize 0 0 10 10) [.ofSize 5 5 10 10] := by
  refine (coverageExact_iff (.ofSize 0 0 10 10) [.ofSize 5 5 10 10] (by decide) (by decide)).mpr ?_
  refine ⟨by decide, by decide, ?_⟩
  intro r hr s hs _ _ c _ _ _ _ _ _
  rw [List.mem_singleton] at hr hs
  subst hr hs
  exact fun hinside => lt_irrefl _ hinside.1

/-- A window that is covered as a whole, and in its middle by another: the sweep gives 8 of 9 cells. -/
theorem WebXWindowCoverage.not_coverageExact :
    ¬ CoverageExact (.ofSize 0 0 3 3) [.ofSize 0 0 3 3, .ofSize 1 1 1 1] := by
  intro h
  obtain ⟨state, hsweep, harea⟩ := h.area .stable 0 0
  have hstate : sweep 0 0 .stable (.ofSize 0 0 3 3) [.ofSize 0 0 3 3, .ofSize 1 1 1 1] =
      .ok ⟨3, ⟨8, false⟩, [], false⟩ := by decide +kernel
  rw [hstate] at hsweep
  cases hsweep
  exact absurd harea.2 (by decide +kernel)

end WebXEngine
