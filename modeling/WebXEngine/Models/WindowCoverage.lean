import Mathlib
import WebXEngine.Foundations.CheckedInts
import WebXEngine.Foundations.IntervalUnions
import WebXEngine.Foundations.SpanSweep
import WebXEngine.Models.WindowUpdate
import WebXEngine.Utils.Fault

/-! # The coverage of a window

How much of a window is covered by those above it is measured by a line that sweeps over it from left
to right. The edges of the covering rectangles are its events; between two events, the line is covered
by the same intervals, whose lengths are added up. The mouse is over the window unless it is met on an
interval. The area is a sum of 32 bits that wraps around. The heights of its terms are integers, which
gives the same value.

* **`overlapCalc`** — the sweep, from the edges in the order of their places.
* **`Swept`** — what is known in the middle of the sweep; `Swept.step` is its invariant. -/

namespace WebXEngine

/-- An edge of a covering rectangle, where the rectangle begins (type 1) or ends (type -1). -/
structure SweepLineEvent where
  x : ℤ
  y1 : ℤ
  y2 : ℤ
  type : ℤ
  deriving DecidableEq, Repr

/-- A sort of the events. Events of the same place may come in any order. -/
structure SweepLineSort where
  sort : List SweepLineEvent → List SweepLineEvent
  perm : ∀ events, (sort events).Perm events
  sorted : ∀ events, (sort events).Pairwise fun e f => e.x ≤ f.x

/-- The sort that keeps events of the same place in their order. -/
def SweepLineSort.stable : SweepLineSort where
  sort := List.insertionSort fun e f => e.x ≤ f.x
  perm := List.perm_insertionSort _
  sorted := List.pairwise_insertionSort _

/-- The sweep: the place of the last event, the area so far and the intervals in their order. -/
structure SweepState where
  prevX : ℤ
  coveredArea : WrappingInt
  activeIntervals : List (ℤ × ℤ)
  mouseOver : Bool
  deriving DecidableEq, Repr

/-- The loop over the intervals: the height so far and the largest upper end. -/
structure IntervalScan where
  coveredHeight : ℤ
  lastY : ℤ
  mouseOver : Bool
  deriving DecidableEq, Repr

namespace WebXWindowCoverage

/-- The edges of the covering rectangles that overlap the base, inside it. -/
def sweepLineEvents (base : WebXRectangle) (coveringRectangles : List WebXRectangle) :
    List SweepLineEvent :=
  (coveringRectangles.filter fun rect => base.overlap rect).flatMap fun rect =>
    [⟨max rect.left base.left, max rect.bottom base.bottom, min rect.top base.top, 1⟩,
      ⟨min rect.right base.right, max rect.bottom base.bottom, min rect.top base.top, -1⟩]

section

variable (mouseX mouseY : ℤ)

/-- One interval of the loop, between the places of two events. -/
def scanInterval (prevX currentX : ℤ) (scan : IntervalScan) (interval : ℤ × ℤ) : IntervalScan :=
  let lowerY := if scan.lastY < interval.1 then interval.1 else scan.lastY
  { coveredHeight := scan.coveredHeight + (interval.2 - lowerY)
    lastY := max scan.lastY interval.2
    mouseOver :=
      if currentX ≥ mouseX ∧ prevX ≤ mouseX ∧ interval.2 ≥ mouseY ∧ lowerY ≤ mouseY then false
      else scan.mouseOver }

/-- The sweep goes on to an event. An interval that is removed has to be there. -/
def handleEvent (state : SweepState) (event : SweepLineEvent) : Except Fault SweepState :=
  let scan := state.activeIntervals.foldl (scanInterval mouseX mouseY state.prevX event.x)
    ⟨0, 0, state.mouseOver⟩
  let state : SweepState :=
    { state with
      coveredArea := state.coveredArea.add (scan.coveredHeight * (event.x - state.prevX))
      prevX := event.x
      mouseOver := scan.mouseOver }
  let interval := (event.y1, event.y2)
  if event.type = 1 then
    .ok { state with
      activeIntervals := state.activeIntervals.orderedInsert IntervalLe interval }
  else if interval ∈ state.activeIntervals then
    .ok { state with activeIntervals := state.activeIntervals.erase interval }
  else
    .error .outOfBounds

/-- The start of the sweep at the left edge of the base. -/
def sweepStart (base : WebXRectangle) : SweepState where
  prevX := base.left
  coveredArea := .zero
  activeIntervals := []
  mouseOver := base.right ≥ mouseX && base.left ≤ mouseX && base.top ≥ mouseY && base.bottom ≤ mouseY

/-- The sweep over all events. -/
def sweep (sort : SweepLineSort) (base : WebXRectangle) (coveringRectangles : List WebXRectangle) :
    Except Fault SweepState :=
  (sort.sort (sweepLineEvents base coveringRectangles)).foldlM (handleEvent mouseX mouseY)
    (sweepStart mouseX mouseY base)

/-- The part of the base that is covered, and whether the mouse is over what is not. -/
def overlapCalc (sort : SweepLineSort) (base : WebXRectangle)
    (coveringRectangles : List WebXRectangle) : Except Fault WebXWindowCoverage :=
  (sweep mouseX mouseY sort base coveringRectangles).map fun state =>
    ⟨state.coveredArea.value.toInt / base.area.toInt, state.mouseOver⟩

end

/-! ## The loop over the intervals -/

section

variable {mouseX mouseY prevX currentX : ℤ}

/-- The heights are added up as in a pass over the intervals. -/
theorem coveredHeight_foldl (intervals : List (ℤ × ℤ)) :
    ∀ scan : IntervalScan,
      (intervals.foldl (scanInterval mouseX mouseY prevX currentX) scan).coveredHeight =
        scan.coveredHeight + scanLength scan.lastY intervals := by
  induction intervals with
  | nil => exact fun scan => (add_zero _).symm
  | cons interval intervals ih =>
      intro scan
      rw [List.foldl_cons, ih, scanLength]
      dsimp only [scanInterval]
      rw [← max_def_lt, add_assoc]

/-- The mouse that is not over the window stays so. -/
theorem mouseOver_foldl_of_false (intervals : List (ℤ × ℤ)) :
    ∀ scan : IntervalScan, scan.mouseOver = false →
      (intervals.foldl (scanInterval mouseX mouseY prevX currentX) scan).mouseOver = false := by
  induction intervals with
  | nil => exact fun _ h => h
  | cons interval intervals ih =>
      intro scan h
      refine ih _ ?_
      dsimp only [scanInterval]
      rw [h, ite_self]

/-- The mouse is met on an interval, between the two places. -/
theorem exists_of_mouseOver_foldl (intervals : List (ℤ × ℤ)) :
    ∀ scan : IntervalScan,
      (intervals.foldl (scanInterval mouseX mouseY prevX currentX) scan).mouseOver = false →
        scan.mouseOver = false ∨ prevX ≤ mouseX ∧ mouseX ≤ currentX ∧
          ∃ interval ∈ intervals, interval.1 ≤ mouseY ∧ mouseY ≤ interval.2 := by
  induction intervals with
  | nil => exact fun _ h => .inl h
  | cons interval intervals ih =>
      intro scan h
      rcases ih _ h with hnow | ⟨hprev, hcurrent, other, hother, hcontains⟩
      · dsimp only [scanInterval] at hnow
        rw [← max_def_lt] at hnow
        split_ifs at hnow with hmet
        · exact .inr ⟨hmet.2.1, hmet.1, interval, List.mem_cons_self,
            (le_max_right _ _).trans hmet.2.2.2, hmet.2.2.1⟩
        · exact .inl hnow
      · exact .inr ⟨hprev, hcurrent, other, List.mem_cons_of_mem _ hother, hcontains⟩

/-- The mouse on an interval is met: no interval before the first one that it is on ends above it. -/
theorem mouseOver_foldl_of_mem (hprev : prevX ≤ mouseX) (hcurrent : mouseX ≤ currentX)
    {intervals : List (ℤ × ℤ)} (hsorted : intervals.Pairwise fun i j => i.1 ≤ j.1) :
    ∀ scan : IntervalScan, scan.lastY ≤ mouseY →
      (∃ interval ∈ intervals, interval.1 ≤ mouseY ∧ mouseY ≤ interval.2) →
        (intervals.foldl (scanInterval mouseX mouseY prevX currentX) scan).mouseOver = false := by
  induction intervals with
  | nil => rintro scan - ⟨interval, hinterval, -⟩; cases hinterval
  | cons interval intervals ih =>
      rintro scan hlast ⟨other, hother, hlower, hupper⟩
      rw [List.pairwise_cons] at hsorted
      rw [List.foldl_cons]
      by_cases hmet : interval.1 ≤ mouseY ∧ mouseY ≤ interval.2
      · refine mouseOver_foldl_of_false intervals _ ?_
        dsimp only [scanInterval]
        rw [← max_def_lt]
        exact if_pos ⟨hcurrent, hprev, hmet.2, max_le hlast hmet.1⟩
      · rcases List.mem_cons.mp hother with rfl | hother
        · exact absurd ⟨hlower, hupper⟩ hmet
        -- the scan has not gone past the mouse yet, as the intervals are in order
        · have hbelow : interval.2 ≤ mouseY := by
            have hfirst := hsorted.1 other hother
            omega
          exact ih hsorted.2 _ (max_le hlast hbelow) ⟨other, hother, hlower, hupper⟩

/-- **What the sweep does at an event.** -/
theorem handleEvent_cases {state state' : SweepState} {event : SweepLineEvent}
    (h : handleEvent mouseX mouseY state event = .ok state') :
    state'.prevX = event.x ∧
      state'.coveredArea = state.coveredArea.add
        (scanLength 0 state.activeIntervals * (event.x - state.prevX)) ∧
      state'.mouseOver = (state.activeIntervals.foldl
        (scanInterval mouseX mouseY state.prevX event.x) ⟨0, 0, state.mouseOver⟩).mouseOver ∧
      (event.type = 1 ∧ state'.activeIntervals =
          state.activeIntervals.orderedInsert IntervalLe (event.y1, event.y2) ∨
        event.type ≠ 1 ∧ (event.y1, event.y2) ∈ state.activeIntervals ∧
          state'.activeIntervals = state.activeIntervals.erase (event.y1, event.y2)) := by
  rw [handleEvent] at h
  have hheight := @coveredHeight_foldl mouseX mouseY state.prevX event.x state.activeIntervals
    ⟨0, 0, state.mouseOver⟩
  rw [zero_add] at hheight
  dsimp only at h
  -- the interval opens, or closes when it is there, or is used although it is not there
  split_ifs at h with htype hmem
  · cases h
    exact ⟨rfl, by rw [hheight], rfl, .inl ⟨htype, rfl⟩⟩
  · cases h
    exact ⟨rfl, by rw [hheight], rfl, .inr ⟨htype, hmem, rfl⟩⟩

end

/-! ## Spans -/

/-- A covering rectangle as the sweep meets it: the part that is inside the base. -/
def clippedSpan (base rect : WebXRectangle) : Span (ℤ × ℤ) :=
  ⟨max rect.left base.left, min rect.right base.right,
    (max rect.bottom base.bottom, min rect.top base.top)⟩

/-- The covering rectangles that the sweep meets. -/
def clippedSpans (base : WebXRectangle) (coveringRectangles : List WebXRectangle) :
    List (Span (ℤ × ℤ)) :=
  (coveringRectangles.filter fun rect => base.overlap rect).map (clippedSpan base)

end WebXWindowCoverage

/-- An event, as one of a sweep over spans. -/
def SweepLineEvent.toSpanEvent (event : SweepLineEvent) : SpanEvent (ℤ × ℤ) :=
  ⟨event.x, event.type = 1, (event.y1, event.y2)⟩

namespace WebXWindowCoverage

variable {base : WebXRectangle} {coveringRectangles : List WebXRectangle}

/-- Rectangles that overlap, by their sides. -/
theorem overlap_iff {r s : WebXRectangle} : r.overlap s = true ↔
    r.left < s.right ∧ s.left < r.right ∧ s.bottom < r.top ∧ r.bottom < s.top := by
  simp [WebXRectangle.overlap, and_assoc]

/-- The spans are those of the rectangles that overlap the base. -/
theorem mem_clippedSpans {span : Span (ℤ × ℤ)} :
    span ∈ clippedSpans base coveringRectangles ↔
      ∃ rect ∈ coveringRectangles, base.overlap rect = true ∧ clippedSpan base rect = span := by
  simp [clippedSpans, and_assoc]

/-- **The sorted events are a sweep over the spans.** -/
theorem sweep_sort (sort : SweepLineSort) (base : WebXRectangle)
    (coveringRectangles : List WebXRectangle) :
    SpanEvent.Sweep (clippedSpans base coveringRectangles)
      ((sort.sort (sweepLineEvents base coveringRectangles)).map SweepLineEvent.toSpanEvent) where
  perm := by
    refine ((sort.perm _).map _).trans (.of_eq ?_)
    rw [sweepLineEvents, clippedSpans, List.map_flatMap, List.flatMap_map]
    rfl
  sorted := List.pairwise_map.mpr (sort.sorted _)

/-- A rectangle of positive size that overlaps a base of positive width has a positive width in it. -/
theorem lower_lt_upper (hbase : base.left < base.right)
    (hrects : ∀ rect ∈ coveringRectangles, 0 < rect.size.width ∧ 0 < rect.size.height) :
    ∀ span ∈ clippedSpans base coveringRectangles, span.lower < span.upper := by
  intro span hspan
  obtain ⟨rect, hrect, hoverlap, rfl⟩ := mem_clippedSpans.mp hspan
  rw [overlap_iff] at hoverlap
  have hsize := hrects rect hrect
  have hleft := rect.left_eq
  have hright := rect.right_eq
  refine max_lt (lt_min ?_ ?_) (lt_min ?_ ?_) <;> omega

/-- The events are inside the base. -/
theorem place_mem (hbase : base.left ≤ base.right) {events : List (SpanEvent (ℤ × ℤ))}
    (hsweep : SpanEvent.Sweep (clippedSpans base coveringRectangles) events) :
    ∀ e ∈ events, base.left ≤ e.place ∧ e.place ≤ base.right := by
  intro e he
  obtain ⟨span, hspan, hevent⟩ := List.mem_flatMap.mp (hsweep.perm.mem_iff.mp he)
  obtain ⟨rect, -, hoverlap, rfl⟩ := mem_clippedSpans.mp hspan
  rw [overlap_iff] at hoverlap
  simp only [Span.events, clippedSpan, List.mem_cons, List.not_mem_nil, or_false] at hevent
  rcases hevent with rfl | rfl
  · exact ⟨le_max_right _ _, max_le hoverlap.2.1.le hbase⟩
  · exact ⟨le_min hoverlap.1.le hbase, min_le_right _ _⟩

/-! ## Columns -/

/-- The intervals that cover a column of the base. -/
def columnIntervals (base : WebXRectangle) (coveringRectangles : List WebXRectangle) (c : ℤ) :
    List (ℤ × ℤ) :=
  ((clippedSpans base coveringRectangles).filter fun span =>
    span.lower ≤ c ∧ c < span.upper).map Span.tag

/-- The intervals of a column are those of the spans that are open there. -/
theorem mem_columnIntervals {c : ℤ} {interval : ℤ × ℤ} :
    interval ∈ columnIntervals base coveringRectangles c ↔
      ∃ span ∈ clippedSpans base coveringRectangles, span.lower ≤ c ∧ c < span.upper ∧
        span.tag = interval := by
  simp [columnIntervals, and_assoc]

/-- The intervals of a column in the order in which the sweep goes through them. -/
def sortedColumn (base : WebXRectangle) (coveringRectangles : List WebXRectangle) (c : ℤ) :
    List (ℤ × ℤ) := (columnIntervals base coveringRectangles c).insertionSort IntervalLe

/-- The lengths that the pass gives in some columns, together. -/
noncomputable def columnsLength (base : WebXRectangle) (coveringRectangles : List WebXRectangle)
    (lower upper : ℤ) : ℤ :=
  ∑ c ∈ Finset.Ico lower upper, scanLength 0 (sortedColumn base coveringRectangles c)

/-- Columns side by side. -/
theorem columnsLength_add {lower middle upper : ℤ} (hlower : lower ≤ middle) (hupper : middle ≤ upper) :
    columnsLength base coveringRectangles lower middle +
        columnsLength base coveringRectangles middle upper =
      columnsLength base coveringRectangles lower upper := by
  rw [columnsLength, columnsLength, columnsLength,
    ← Finset.sum_union (Finset.Ico_disjoint_Ico_consecutive _ _ _),
    Finset.Ico_union_Ico_eq_Ico hlower hupper]

/-- Columns of the base take nothing away when none of them does. -/
theorem columnsLength_nonneg
    (h : ∀ c ∈ Finset.Ico base.left base.right, 0 ≤ scanLength 0 (sortedColumn base coveringRectangles c))
    {lower upper : ℤ} (hlower : base.left ≤ lower) (hupper : upper ≤ base.right) :
    0 ≤ columnsLength base coveringRectangles lower upper :=
  Finset.sum_nonneg fun c hc => h c (Finset.Ico_subset_Ico hlower hupper hc)

/-- The mouse is on an interval; both ends count. -/
def OnInterval (mouseY : ℤ) (interval : ℤ × ℤ) : Prop :=
  interval.1 ≤ mouseY ∧ mouseY ≤ interval.2

/-- The mouse is on the base. -/
def OnBase (mouseX mouseY : ℤ) (rect : WebXRectangle) : Prop :=
  rect.left ≤ mouseX ∧ mouseX ≤ rect.right ∧ rect.bottom ≤ mouseY ∧ mouseY ≤ rect.top

/-! ## The invariant -/

/-- In the middle of the sweep: the events that were handled, and those to come. -/
structure Swept (mouseX mouseY : ℤ) (base : WebXRectangle) (coveringRectangles : List WebXRectangle)
    (done todo : List SweepLineEvent) (state : SweepState) : Prop where
  events : SpanEvent.Sweep (clippedSpans base coveringRectangles)
    (done.map SweepLineEvent.toSpanEvent ++ todo.map SweepLineEvent.toSpanEvent)
  opened : SpanEvent.Open (done.map SweepLineEvent.toSpanEvent) state.activeIntervals
  sorted : state.activeIntervals.Pairwise IntervalLe
  left_le : base.left ≤ state.prevX
  le_right : state.prevX ≤ base.right
  done_le : ∀ e ∈ done, e.x ≤ state.prevX
  le_todo : ∀ e ∈ todo, state.prevX ≤ e.x
  /-- The area is that of the columns that were swept, unless it overflowed. -/
  area : state.coveredArea.overflow = false →
    state.coveredArea.Is (columnsLength base coveringRectangles base.left state.prevX)
  /-- It does not overflow when no column takes something away and all columns together fit. -/
  fits : (∀ c ∈ Finset.Ico base.left base.right,
      0 ≤ scanLength 0 (sortedColumn base coveringRectangles c)) →
    columnsLength base coveringRectangles base.left base.right < 2 ^ 31 →
    state.coveredArea.overflow = false
  /-- The mouse was met on a rectangle, or was not on the base. -/
  met : state.mouseOver = false → OnBase mouseX mouseY base →
    ∃ span ∈ clippedSpans base coveringRectangles, span.lower ≤ mouseX ∧ mouseX ≤ span.upper ∧
      OnInterval mouseY span.tag
  onBase : state.mouseOver = true → OnBase mouseX mouseY base
  /-- The mouse is not on its column, when that was swept. -/
  column : 0 ≤ mouseY → state.mouseOver = true → base.left ≤ mouseX → mouseX < state.prevX →
    ∀ interval ∈ columnIntervals base coveringRectangles mouseX, ¬ OnInterval mouseY interval
  /-- Nor is it on the right edge of a rectangle. -/
  edge : 0 ≤ mouseY → state.mouseOver = true → ∀ e ∈ done, e.type ≠ 1 → e.x = mouseX →
    ¬ OnInterval mouseY (e.y1, e.y2)

namespace Swept

variable {mouseX mouseY : ℤ} {done todo : List SweepLineEvent} {state state' : SweepState}
  {event : SweepLineEvent}

/-- The start of the sweep. -/
theorem start (sort : SweepLineSort) (hbase : base.left ≤ base.right) :
    Swept mouseX mouseY base coveringRectangles []
      (sort.sort (sweepLineEvents base coveringRectangles)) (sweepStart mouseX mouseY base) where
  events := sweep_sort sort base coveringRectangles
  opened := .nil
  sorted := .nil
  left_le := le_rfl
  le_right := hbase
  done_le := fun e he => by cases he
  le_todo := by
    intro e he
    exact (place_mem hbase (sweep_sort sort base coveringRectangles) e.toSpanEvent
      (List.mem_map_of_mem he)).1
  area := fun _ => by simpa [sweepStart, columnsLength] using WrappingInt.is_zero
  fits := fun _ _ => rfl
  met := by
    -- at the start, the mouse is over exactly when it is on the base
    intro hfalse hbase
    rw [sweepStart, OnBase] at *
    simp at hfalse
    omega
  onBase := by
    intro htrue
    rw [sweepStart] at htrue
    simp at htrue
    rw [OnBase]
    omega
  column := fun _ _ hleft hlt => absurd hlt (not_lt.mpr hleft)
  edge := fun _ _ e he => by cases he

/-- The events to come are sorted. -/
theorem sorted_todo (h : Swept mouseX mouseY base coveringRectangles done (event :: todo) state) :
    ∀ e ∈ todo, event.x ≤ e.x := by
  have hsorted := (List.pairwise_append.mp h.events.sorted).2.1
  rw [List.pairwise_map] at hsorted
  exact (List.pairwise_cons.mp hsorted).1

/-- The next event is inside the base. -/
theorem next_le_right (h : Swept mouseX mouseY base coveringRectangles done (event :: todo) state) :
    event.x ≤ base.right :=
  (place_mem (h.left_le.trans h.le_right) h.events event.toSpanEvent (by simp)).2

/-- The intervals that are kept are those of the columns up to the next event. -/
theorem activeIntervals_eq
    (h : Swept mouseX mouseY base coveringRectangles done (event :: todo) state)
    (hrects : ∀ rect ∈ coveringRectangles, 0 < rect.size.width ∧ 0 < rect.size.height)
    {c : ℤ} (hprev : state.prevX ≤ c) (hnext : c < event.x) :
    state.activeIntervals = sortedColumn base coveringRectangles c := by
  have hlt : base.left < base.right :=
    ((h.left_le.trans hprev).trans_lt hnext).trans_le h.next_le_right
  have hperm : state.activeIntervals.Perm (columnIntervals base coveringRectangles c) := by
    refine h.opened.perm_over h.events (lower_lt_upper hlt hrects) ?_ ?_
    · exact List.forall_mem_map.mpr fun e he => (h.done_le e he).trans hprev
    · refine List.forall_mem_map.mpr (List.forall_mem_cons.mpr ⟨hnext, ?_⟩)
      exact fun e he => hnext.trans_le (h.sorted_todo e he)
  exact (hperm.trans (List.perm_insertionSort _ _).symm).eq_of_pairwise' h.sorted
    (List.pairwise_insertionSort _ _)

/-- The term that is added for the columns up to the next event. -/
theorem columnsLength_todo (h : Swept mouseX mouseY base coveringRectangles done (event :: todo) state)
    (hrects : ∀ rect ∈ coveringRectangles, 0 < rect.size.width ∧ 0 < rect.size.height) :
    columnsLength base coveringRectangles state.prevX event.x =
      scanLength 0 state.activeIntervals * (event.x - state.prevX) := by
  have hnext : state.prevX ≤ event.x := h.le_todo event List.mem_cons_self
  have hcolumns : ∀ c ∈ Finset.Ico state.prevX event.x,
      scanLength 0 (sortedColumn base coveringRectangles c) =
        scanLength 0 state.activeIntervals := by
    intro c hc
    rw [Finset.mem_Ico] at hc
    rw [h.activeIntervals_eq hrects hc.1 hc.2]
  rw [columnsLength, Finset.sum_congr rfl hcolumns, Finset.sum_const, Int.card_Ico, nsmul_eq_mul,
    mul_comm, Int.toNat_of_nonneg (sub_nonneg.mpr hnext)]

/-- **The area goes on to the next event**: it is that of the columns up to there, unless it overflows,
which it does not when all columns fit. -/
theorem area_step (h : Swept mouseX mouseY base coveringRectangles done (event :: todo) state)
    (hrects : ∀ rect ∈ coveringRectangles, 0 < rect.size.width ∧ 0 < rect.size.height)
    (hstep : handleEvent mouseX mouseY state event = .ok state') :
    (state'.coveredArea.overflow = false →
      state'.coveredArea.Is (columnsLength base coveringRectangles base.left event.x)) ∧
    ((∀ c ∈ Finset.Ico base.left base.right,
        0 ≤ scanLength 0 (sortedColumn base coveringRectangles c)) →
      columnsLength base coveringRectangles base.left base.right < 2 ^ 31 →
        state'.coveredArea.overflow = false) := by
  obtain ⟨-, harea, -, -⟩ := handleEvent_cases hstep
  have hnext : state.prevX ≤ event.x := h.le_todo event List.mem_cons_self
  rw [harea, ← h.columnsLength_todo hrects, ← columnsLength_add h.left_le hnext]
  refine ⟨fun hflag => ?_, fun hnonneg htotal => ?_⟩
  · exact WrappingInt.is_add_of_overflow (h.area (WrappingInt.overflow_of_add hflag)) hflag
  · -- what was swept, the term and what is to come are parts of the columns of the base
    have hswept := columnsLength_nonneg hnonneg le_rfl h.le_right
    have hterm := columnsLength_nonneg hnonneg h.left_le h.next_le_right
    have hrest := columnsLength_nonneg hnonneg (h.left_le.trans hnext) (le_refl base.right)
    have hfirst := @columnsLength_add base coveringRectangles _ _ _ h.left_le hnext
    have hsum := @columnsLength_add base coveringRectangles _ _ _ (h.left_le.trans hnext) h.next_le_right
    refine ((WrappingInt.is_add_iff (h.area (h.fits hnonneg htotal))).mpr ⟨?_, ?_⟩).1 <;>
      rw [WrappingInt.Fits] <;> omega

/-- The intervals after an event. -/
theorem opened_step (h : Swept mouseX mouseY base coveringRectangles done (event :: todo) state)
    (hstep : handleEvent mouseX mouseY state event = .ok state') :
    SpanEvent.Open ((done ++ [event]).map SweepLineEvent.toSpanEvent) state'.activeIntervals ∧
      state'.activeIntervals.Pairwise IntervalLe := by
  obtain ⟨-, -, -, ⟨htype, hactive⟩ | ⟨htype, hmem, hactive⟩⟩ := handleEvent_cases hstep
  · rw [hactive, List.map_append]
    exact ⟨h.opened.concat_opens (decide_eq_true htype) (List.perm_orderedInsert _ _ _),
      h.sorted.orderedInsert _ _⟩
  · rw [hactive, List.map_append]
    exact ⟨h.opened.concat_closes (decide_eq_false htype) (List.perm_cons_erase hmem),
      h.sorted.sublist List.erase_sublist⟩

/-- A mouse that is met is on a rectangle. -/
theorem met_step (h : Swept mouseX mouseY base coveringRectangles done (event :: todo) state)
    (hstep : handleEvent mouseX mouseY state event = .ok state')
    (hfalse : state'.mouseOver = false) (honBase : OnBase mouseX mouseY base) :
    ∃ span ∈ clippedSpans base coveringRectangles, span.lower ≤ mouseX ∧ mouseX ≤ span.upper ∧
      OnInterval mouseY span.tag := by
  obtain ⟨-, -, hmouse, -⟩ := handleEvent_cases hstep
  rw [hmouse] at hfalse
  rcases exists_of_mouseOver_foldl _ _ hfalse with hbefore | ⟨hprev, hnext, interval, hmem, hon⟩
  · exact h.met hbefore honBase
  · obtain ⟨span, hspan, rfl, hlower, hupper⟩ := h.opened.exists_span h.events hmem (p := mouseX)
      (List.forall_mem_map.mpr fun e he => (h.done_le e he).trans hprev)
      (List.forall_mem_map.mpr (List.forall_mem_cons.mpr
        ⟨hnext, fun e he => hnext.trans (h.sorted_todo e he)⟩))
    exact ⟨span, hspan, hlower, hupper, hon⟩

/-- A mouse that is not met on the way to an event is on none of the intervals. -/
theorem not_onInterval (h : Swept mouseX mouseY base coveringRectangles done (event :: todo) state)
    (hmouseY : 0 ≤ mouseY) (hstep : handleEvent mouseX mouseY state event = .ok state')
    (htrue : state'.mouseOver = true) (hprev : state.prevX ≤ mouseX) (hnext : mouseX ≤ event.x) :
    ∀ interval ∈ state.activeIntervals, ¬ OnInterval mouseY interval := by
  intro interval hmem hon
  obtain ⟨-, -, hmouse, -⟩ := handleEvent_cases hstep
  have hlower := h.sorted.imp IntervalLe.lower_le
  have hmet := mouseOver_foldl_of_mem hprev hnext hlower ⟨0, 0, state.mouseOver⟩ hmouseY
    ⟨interval, hmem, hon⟩
  rw [hmouse, hmet] at htrue
  cases htrue

/-- The mouse was not met before when it is not met now. -/
theorem mouseOver_of_step (hstep : handleEvent mouseX mouseY state event = .ok state')
    (htrue : state'.mouseOver = true) : state.mouseOver = true := by
  obtain ⟨-, -, hmouse, -⟩ := handleEvent_cases hstep
  by_contra hfalse
  rw [hmouse, mouseOver_foldl_of_false _ _ (Bool.not_eq_true _ ▸ hfalse)] at htrue
  cases htrue

/-- **Every event keeps the invariant.** -/
theorem step (h : Swept mouseX mouseY base coveringRectangles done (event :: todo) state)
    (hrects : ∀ rect ∈ coveringRectangles, 0 < rect.size.width ∧ 0 < rect.size.height)
    (hstep : handleEvent mouseX mouseY state event = .ok state') :
    Swept mouseX mouseY base coveringRectangles (done ++ [event]) todo state' := by
  obtain ⟨hprevX, -, -, hactive⟩ := handleEvent_cases hstep
  obtain ⟨harea, hfits⟩ := h.area_step hrects hstep
  obtain ⟨hopened, hsorted⟩ := h.opened_step hstep
  have hnext : state.prevX ≤ event.x := h.le_todo event List.mem_cons_self
  refine ⟨?_, hopened, hsorted, ?_, ?_, ?_, ?_, ?_, hfits, h.met_step hstep, ?_, ?_, ?_⟩
  · simpa using h.events
  · exact hprevX ▸ h.left_le.trans hnext
  · exact hprevX ▸ h.next_le_right
  · intro e he
    rw [hprevX]
    rcases List.mem_append.mp he with he | he
    · exact (h.done_le e he).trans hnext
    · exact (List.mem_singleton.mp he) ▸ le_rfl
  · exact hprevX ▸ h.sorted_todo
  · rw [hprevX]
    exact harea
  · exact fun htrue => h.onBase (mouseOver_of_step hstep htrue)
  · intro hmouseY htrue hleft hlt interval hinterval
    rw [hprevX] at hlt
    by_cases hbefore : mouseX < state.prevX
    · exact h.column hmouseY (mouseOver_of_step hstep htrue) hleft hbefore interval hinterval
    · -- the column of the mouse is swept now
      have hprev := not_lt.mp hbefore
      refine h.not_onInterval hmouseY hstep htrue hprev hlt.le interval ?_
      rw [h.activeIntervals_eq hrects hprev hlt]
      exact (List.mem_insertionSort _).mpr hinterval
  · intro hmouseY htrue e he htype hx
    rcases List.mem_append.mp he with he | he
    · exact h.edge hmouseY (mouseOver_of_step hstep htrue) e he htype hx
    · obtain rfl := List.mem_singleton.mp he
      -- the interval that ends is still kept on the way to its end
      rcases hactive with ⟨hopens, -⟩ | ⟨-, hmem, -⟩
      · exact absurd hopens htype
      · exact h.not_onInterval hmouseY hstep htrue (hx ▸ hnext) hx.ge _ hmem

/-- **No event fails** on a base of positive width. -/
theorem exists_step (h : Swept mouseX mouseY base coveringRectangles done (event :: todo) state)
    (hrects : ∀ rect ∈ coveringRectangles, 0 < rect.size.width ∧ 0 < rect.size.height)
    (hbase : base.left < base.right) :
    ∃ state', handleEvent mouseX mouseY state event = .ok state' := by
  rw [handleEvent]
  dsimp only
  split_ifs with htype hmem
  · exact ⟨_, rfl⟩
  · exact ⟨_, rfl⟩
  · have hevents := h.events
    rw [List.map_cons] at hevents
    exact absurd (h.opened.mem_of_closes hevents (lower_lt_upper hbase hrects)
      (decide_eq_false htype)) hmem

/-! ## Runs -/

/-- The invariant holds at the end of a sweep that does not fail. -/
theorem run (hrects : ∀ rect ∈ coveringRectangles, 0 < rect.size.width ∧ 0 < rect.size.height)
    (todo : List SweepLineEvent) :
    ∀ {done : List SweepLineEvent} {state : SweepState},
      Swept mouseX mouseY base coveringRectangles done todo state →
        todo.foldlM (handleEvent mouseX mouseY) state = .ok state' →
          Swept mouseX mouseY base coveringRectangles (done ++ todo) [] state' := by
  induction todo with
  | nil =>
      rintro done state h ⟨⟩
      rwa [List.append_nil]
  | cons event todo ih =>
      intro done state h hrun
      rw [List.foldlM_cons] at hrun
      cases hstep : handleEvent mouseX mouseY state event with
      | error fault =>
          rw [hstep] at hrun
          cases hrun
      | ok next =>
          rw [hstep] at hrun
          -- the event that was handled is the last one that is done
          have hdone := ih (h.step hrects hstep) hrun
          rwa [List.append_assoc] at hdone

/-- Over a base of positive width, the sweep reaches each of its events. -/
theorem exists_run_append
    (hrects : ∀ rect ∈ coveringRectangles, 0 < rect.size.width ∧ 0 < rect.size.height)
    (hbase : base.left < base.right) (first : List SweepLineEvent) :
    ∀ {done : List SweepLineEvent} {state : SweepState},
      Swept mouseX mouseY base coveringRectangles done (first ++ todo) state →
        ∃ state', first.foldlM (handleEvent mouseX mouseY) state = .ok state' ∧
          Swept mouseX mouseY base coveringRectangles (done ++ first) todo state' := by
  induction first with
  | nil =>
      intro done state h
      exact ⟨state, rfl, by rwa [List.append_nil]⟩
  | cons event first ih =>
      intro done state h
      obtain ⟨next, hstep⟩ := h.exists_step hrects hbase
      obtain ⟨state', hrun, hswept⟩ := ih (h.step hrects hstep)
      rw [List.append_assoc] at hswept
      exact ⟨state', by rw [List.foldlM_cons, hstep]; exact hrun, hswept⟩

/-- A sweep over a base of positive width does not fail. -/
theorem exists_run (hrects : ∀ rect ∈ coveringRectangles, 0 < rect.size.width ∧ 0 < rect.size.height)
    (hbase : base.left < base.right) {todo done : List SweepLineEvent} {state : SweepState}
    (h : Swept mouseX mouseY base coveringRectangles done todo state) :
    ∃ state', todo.foldlM (handleEvent mouseX mouseY) state = .ok state' ∧
      Swept mouseX mouseY base coveringRectangles (done ++ todo) [] state' :=
  exists_run_append hrects hbase todo (by rwa [List.append_nil])

/-- The event at the right edge of a rectangle was handled at the end. -/
theorem exists_end (h : Swept mouseX mouseY base coveringRectangles done [] state)
    {span : Span (ℤ × ℤ)} (hspan : span ∈ clippedSpans base coveringRectangles) :
    ∃ e ∈ done, e.x = span.upper ∧ e.type ≠ 1 ∧ (e.y1, e.y2) = span.tag := by
  have hevents := h.events.perm
  rw [List.map_nil, List.append_nil] at hevents
  have hend : (⟨span.upper, false, span.tag⟩ : SpanEvent (ℤ × ℤ)) ∈
      done.map SweepLineEvent.toSpanEvent :=
    hevents.mem_iff.mpr (List.mem_flatMap.mpr ⟨span, hspan, by simp [Span.events]⟩)
  obtain ⟨e, he, heq⟩ := List.mem_map.mp hend
  exact ⟨e, he, congrArg SpanEvent.place heq, of_decide_eq_false (congrArg SpanEvent.opens heq),
    congrArg SpanEvent.tag heq⟩

/-- **At the end, the mouse is over the window when it is on the base and on no rectangle.** -/
theorem mouseOver_iff (h : Swept mouseX mouseY base coveringRectangles done [] state)
    (hmouseY : 0 ≤ mouseY) :
    state.mouseOver = true ↔ OnBase mouseX mouseY base ∧
      ∀ span ∈ clippedSpans base coveringRectangles,
        ¬ (span.lower ≤ mouseX ∧ mouseX ≤ span.upper ∧ OnInterval mouseY span.tag) := by
  constructor
  · rintro htrue
    refine ⟨h.onBase htrue, ?_⟩
    rintro span hspan ⟨hlower, hupper, hon⟩
    obtain ⟨e, he, hx, htype, htag⟩ := h.exists_end hspan
    rcases hupper.eq_or_lt with hsame | hlt
    · exact h.edge hmouseY htrue e he htype (hx.trans hsame.symm) (htag ▸ hon)
    · have hswept : mouseX < state.prevX := hlt.trans_le (hx ▸ h.done_le e he)
      exact h.column hmouseY htrue (h.onBase htrue).1 hswept span.tag
        (mem_columnIntervals.mpr ⟨span, hspan, hlower, hlt, rfl⟩) hon
  · rintro ⟨honBase, hnone⟩
    by_contra hfalse
    obtain ⟨span, hspan, hon⟩ := h.met (Bool.not_eq_true _ ▸ hfalse) honBase
    exact hnone span hspan hon

end Swept

/-- The mouse that is not on the base is never over the window. -/
theorem mouseOver_foldlM_of_false {mouseX mouseY : ℤ} (events : List SweepLineEvent) :
    ∀ {state state' : SweepState}, state.mouseOver = false →
      events.foldlM (handleEvent mouseX mouseY) state = .ok state' → state'.mouseOver = false := by
  induction events with
  | nil =>
      rintro state state' h ⟨⟩
      exact h
  | cons event events ih =>
      intro state state' h hrun
      rw [List.foldlM_cons] at hrun
      cases hstep : handleEvent mouseX mouseY state event with
      | error fault =>
          rw [hstep] at hrun
          cases hrun
      | ok next =>
          rw [hstep] at hrun
          refine ih ?_ hrun
          obtain ⟨-, -, hmouse, -⟩ := handleEvent_cases hstep
          rw [hmouse]
          exact mouseOver_foldl_of_false _ _ h

/-- A mouse on the base is on a rectangle when it is on the part inside the base. -/
theorem onClippedSpan_iff {mouseX mouseY : ℤ} (hbase : OnBase mouseX mouseY base)
    (rect : WebXRectangle) :
    (clippedSpan base rect).lower ≤ mouseX ∧ mouseX ≤ (clippedSpan base rect).upper ∧
        OnInterval mouseY (clippedSpan base rect).tag ↔ OnBase mouseX mouseY rect := by
  rw [OnBase] at hbase
  simp only [clippedSpan, OnInterval, OnBase, max_le_iff, le_min_iff]
  omega

end WebXWindowCoverage

open WebXWindowCoverage in
/-- **The mouse is over a window exactly when it is on it and on none of the windows that overlap it**,
edges included, in whatever order the events of one place come; and the calculation does not fail for
a window of positive width. -/
theorem mouseOver_iff_onBase (sort : SweepLineSort) (base : WebXRectangle)
    (coveringRectangles : List WebXRectangle)
    (hrects : ∀ rect ∈ coveringRectangles, 0 < rect.size.width ∧ 0 < rect.size.height)
    (mouseX mouseY : ℤ) (hmouseY : 0 ≤ mouseY) :
    (0 < base.size.width →
      ∃ coverage, overlapCalc mouseX mouseY sort base coveringRectangles = .ok coverage) ∧
    ∀ coverage, overlapCalc mouseX mouseY sort base coveringRectangles = .ok coverage →
      (coverage.mouseOver = true ↔ OnBase mouseX mouseY base ∧
        ∀ rect ∈ coveringRectangles, base.overlap rect = true → ¬ OnBase mouseX mouseY rect) := by
  have hleft := base.left_eq
  have hright := base.right_eq
  constructor
  · intro hwidth
    -- a base with columns: the sweep from its left side reaches its right side
    have hlt : base.left < base.right := by omega
    have hstart := @Swept.start base coveringRectangles mouseX mouseY sort hlt.le
    obtain ⟨state, hrun, -⟩ := hstart.exists_run hrects hlt
    exact ⟨_, by rw [overlapCalc, sweep, hrun]; rfl⟩
  · intro coverage hcalc
    rw [overlapCalc] at hcalc
    cases hrun : sweep mouseX mouseY sort base coveringRectangles with
    | error fault =>
        rw [hrun] at hcalc
        cases hcalc
    | ok state =>
        rw [hrun] at hcalc
        cases hcalc
        by_cases hbase : OnBase mouseX mouseY base
        · -- the pointer is on the base: the clipped spans under it are the rectangles that cover it
          have hle : base.left ≤ base.right := hbase.1.trans hbase.2.1
          have hend := Swept.run hrects _ (Swept.start sort hle) hrun
          refine (hend.mouseOver_iff hmouseY).trans (and_congr_right fun _ => ?_)
          constructor
          · intro hnone rect hrect hoverlap hon
            exact hnone _ (mem_clippedSpans.mpr ⟨rect, hrect, hoverlap, rfl⟩)
              ((onClippedSpan_iff hbase rect).mpr hon)
          · intro hnone span hspan hon
            obtain ⟨rect, hrect, hoverlap, rfl⟩ := mem_clippedSpans.mp hspan
            exact hnone rect hrect hoverlap ((onClippedSpan_iff hbase rect).mp hon)
        · -- the pointer is not on the base: the sweep starts with `false`, and keeps it
          refine iff_of_false ?_ fun h => hbase h.1
          have hstart : (sweepStart mouseX mouseY base).mouseOver = false := by
            rw [OnBase] at hbase
            simp only [sweepStart, Bool.and_eq_false_iff, decide_eq_false_iff_not]
            omega
          dsimp only
          rw [mouseOver_foldlM_of_false _ hstart hrun]
          exact Bool.false_ne_true

/-- The mouse is on a part of a window that another one does not cover. -/
theorem mouseOver_iff_onBase_corner :
    ∃ coverage, WebXWindowCoverage.overlapCalc 2 2 .stable (.ofSize 0 0 10 10) [.ofSize 5 5 10 10] =
        .ok coverage ∧ coverage.mouseOver = true := by
  have hmouse := mouseOver_iff_onBase .stable (.ofSize 0 0 10 10) [.ofSize 5 5 10 10] (by decide) 2 2
    (by decide)
  obtain ⟨coverage, hcalc⟩ := hmouse.1 (by decide)
  refine ⟨coverage, hcalc, (hmouse.2 coverage hcalc).mpr ⟨by unfold WebXWindowCoverage.OnBase; decide, ?_⟩⟩
  intro rect hrect _
  rw [List.mem_singleton] at hrect
  subst hrect
  unfold WebXWindowCoverage.OnBase
  decide

open WebXWindowCoverage in
/-- **No interval is removed that is not there**: over a base of positive size, in whatever order the
events of one place come, the sweep reaches each event, an event that ends a rectangle finds its
interval, and no interval is left after the last event. -/
theorem sweep_removes_present (sort : SweepLineSort) (base : WebXRectangle)
    (coveringRectangles : List WebXRectangle)
    (hbase : 0 < base.size.width ∧ 0 < base.size.height)
    (hrects : ∀ rect ∈ coveringRectangles, 0 < rect.size.width ∧ 0 < rect.size.height)
    (mouseX mouseY : ℤ) :
    (∀ done event todo, sort.sort (sweepLineEvents base coveringRectangles) = done ++ event :: todo →
      ∃ state, done.foldlM (handleEvent mouseX mouseY) (sweepStart mouseX mouseY base) = .ok state ∧
        (event.type ≠ 1 → (event.y1, event.y2) ∈ state.activeIntervals)) ∧
    ∃ state, sweep mouseX mouseY sort base coveringRectangles = .ok state ∧
      state.activeIntervals = [] := by
  have hleft := base.left_eq
  have hright := base.right_eq
  have hlt : base.left < base.right := by omega
  have hstart := @Swept.start base coveringRectangles mouseX mouseY sort hlt.le
  constructor
  · intro done event todo hsplit
    -- the events before it have opened the rectangles that are not closed yet
    rw [hsplit] at hstart
    obtain ⟨state, hrun, hswept⟩ := hstart.exists_run_append hrects hlt
    refine ⟨state, hrun, fun hends => ?_⟩
    exact hswept.opened.mem_of_closes hswept.events (lower_lt_upper hlt hrects)
      (decide_eq_false hends)
  · obtain ⟨state, hrun, hswept⟩ := hstart.exists_run hrects hlt
    -- all events have been handled: each rectangle that was opened is closed
    have hevents := hswept.events
    rw [List.map_nil, List.append_nil] at hevents
    exact ⟨state, hrun, hswept.opened.eq_nil hevents⟩

/-- Two rectangles that begin and end with the base. -/
theorem sweep_removes_present_twice :
    ∃ state, WebXWindowCoverage.sweep 0 0 .stable (.ofSize 0 0 4 4) [.ofSize 0 0 4 4, .ofSize 0 0 4 4] =
        .ok state ∧ state.activeIntervals = [] :=
  (sweep_removes_present .stable (.ofSize 0 0 4 4) [.ofSize 0 0 4 4, .ofSize 0 0 4 4] (by decide)
    (by decide) 0 0).2

end WebXEngine
