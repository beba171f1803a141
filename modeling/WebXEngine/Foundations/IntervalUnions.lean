import Mathlib

/-! # The length of a union of intervals

The length of the union of some intervals can be found in one pass, when they come in the order of
their lower ends: each adds what it has above the largest upper end so far.

* **`intervalUnion`** — the integers that are in an interval of a list; the upper ends do not count.
* **`scanLength`** — the pass, which adds a negative length for an interval that ends too early.
* **`scanLength_le`**, **`scanLength_eq_iff`** — it gives at most the length of the union, and exactly
  that when no interval ends too early. -/

namespace WebXEngine

/-- The integers of some intervals. -/
noncomputable def intervalUnion (intervals : List (ℤ × ℤ)) : Finset ℤ :=
  intervals.foldr (fun interval union => Finset.Ico interval.1 interval.2 ∪ union) ∅

/-- A number is in the union when it is in one of the intervals. -/
theorem mem_intervalUnion {intervals : List (ℤ × ℤ)} {y : ℤ} :
    y ∈ intervalUnion intervals ↔ ∃ interval ∈ intervals, interval.1 ≤ y ∧ y < interval.2 := by
  induction intervals with
  | nil => simp [intervalUnion]
  | cons interval intervals ih =>
      rw [intervalUnion, List.foldr_cons, Finset.mem_union, ← intervalUnion, ih, Finset.mem_Ico,
        List.exists_mem_cons_iff]

/-- The pass over the intervals; `last` is the largest upper end so far. -/
def scanLength (last : ℤ) : List (ℤ × ℤ) → ℤ
  | [] => 0
  | interval :: intervals =>
      (interval.2 - max last interval.1) + scanLength (max last interval.2) intervals

/-- The order of the intervals, by their lower and then by their upper ends. -/
def IntervalLe (first second : ℤ × ℤ) : Prop :=
  first.1 < second.1 ∨ first.1 = second.1 ∧ first.2 ≤ second.2

instance : DecidableRel IntervalLe := fun first second =>
  inferInstanceAs (Decidable (first.1 < second.1 ∨ first.1 = second.1 ∧ first.2 ≤ second.2))

instance : Std.Total IntervalLe where
  total first second := by
    simp only [IntervalLe]
    omega

instance : IsTrans (ℤ × ℤ) IntervalLe where
  trans first second third := by
    simp only [IntervalLe]
    omega

instance : Std.Antisymm IntervalLe where
  antisymm first second := by
    simp only [IntervalLe, Prod.ext_iff]
    omega

/-- The intervals are ordered by where they begin. -/
theorem IntervalLe.lower_le {first second : ℤ × ℤ} (h : IntervalLe first second) :
    first.1 ≤ second.1 := h.elim le_of_lt fun h => h.1.le

/-! ## What one interval adds -/

/-- The part of a union from a number on. -/
noncomputable def unionFrom (last : ℤ) (intervals : List (ℤ × ℤ)) : Finset ℤ :=
  (intervalUnion intervals).filter fun y => last ≤ y

/-- The first interval adds what it has above the number; what the others add begins above it. -/
theorem card_unionFrom_cons {interval : ℤ × ℤ} {intervals : List (ℤ × ℤ)}
    (hsorted : ∀ other ∈ intervals, interval.1 ≤ other.1) (last : ℤ) :
    ((unionFrom last (interval :: intervals)).card : ℤ) =
      max 0 (interval.2 - max last interval.1) +
        (unionFrom (max last interval.2) intervals).card := by
  have hsplit : unionFrom last (interval :: intervals) =
      Finset.Ico (max last interval.1) interval.2 ∪ unionFrom (max last interval.2) intervals := by
    ext y
    simp only [unionFrom, Finset.mem_filter, Finset.mem_union, mem_intervalUnion, Finset.mem_Ico,
      List.exists_mem_cons_iff, max_le_iff]
    constructor
    · rintro ⟨hy | ⟨other, hother, hy⟩, hlast⟩
      · exact .inl ⟨⟨hlast, hy.1⟩, hy.2⟩
      · -- an integer of another interval is in this one when it is below its upper end
        by_cases hupper : y < interval.2
        · exact .inl ⟨⟨hlast, (hsorted other hother).trans hy.1⟩, hupper⟩
        · exact .inr ⟨⟨other, hother, hy⟩, hlast, not_lt.mp hupper⟩
    · rintro (⟨⟨hlast, hlower⟩, hupper⟩ | ⟨hother, hlast, -⟩)
      · exact ⟨.inl ⟨hlower, hupper⟩, hlast⟩
      · exact ⟨.inr hother, hlast⟩
  have hdisjoint : Disjoint (Finset.Ico (max last interval.1) interval.2)
      (unionFrom (max last interval.2) intervals) := by
    refine Finset.disjoint_left.mpr fun y hy hother => ?_
    rw [Finset.mem_Ico] at hy
    rw [unionFrom, Finset.mem_filter, max_le_iff] at hother
    exact absurd hother.2.2 (not_le.mpr hy.2)
  rw [hsplit, Finset.card_union_of_disjoint hdisjoint, Int.card_Ico, Nat.cast_add,
    Int.toNat_eq_max, max_comm]

/-! ## The pass -/

variable {intervals : List (ℤ × ℤ)}

/-- The pass gives at most what the union has from a number on. -/
theorem scanLength_le_unionFrom (hsorted : intervals.Pairwise fun i j => i.1 ≤ j.1) :
    ∀ last, scanLength last intervals ≤ (unionFrom last intervals).card := by
  induction intervals with
  | nil => exact fun last => by simp [scanLength]
  | cons interval intervals ih =>
      intro last
      rw [List.pairwise_cons] at hsorted
      rw [card_unionFrom_cons hsorted.1, scanLength]
      exact add_le_add (le_max_right _ _) (ih hsorted.2 _)

/-- It gives exactly that when each interval ends above the number and the upper ends so far. -/
theorem scanLength_eq_unionFrom_iff (hsorted : intervals.Pairwise fun i j => i.1 ≤ j.1)
    (hlt : ∀ interval ∈ intervals, interval.1 < interval.2) :
    ∀ last, scanLength last intervals = (unionFrom last intervals).card ↔
      (∀ interval ∈ intervals, last ≤ interval.2) ∧ intervals.Pairwise fun i j => i.2 ≤ j.2 := by
  induction intervals with
  | nil => exact fun last => by simp [scanLength, unionFrom, intervalUnion]
  | cons interval intervals ih =>
      intro last
      rw [List.pairwise_cons] at hsorted
      rw [List.forall_mem_cons] at hlt
      have hle := scanLength_le_unionFrom hsorted.2 (max last interval.2)
      have hih := ih hsorted.2 hlt.2 (max last interval.2)
      rw [card_unionFrom_cons hsorted.1, scanLength, List.forall_mem_cons, List.pairwise_cons]
      -- both terms are at most the right ones, so both are equal
      have hterms : interval.2 - max last interval.1 + scanLength (max last interval.2) intervals =
          max 0 (interval.2 - max last interval.1) +
            (unionFrom (max last interval.2) intervals).card ↔
          last ≤ interval.2 ∧ scanLength (max last interval.2) intervals =
            (unionFrom (max last interval.2) intervals).card := by
        omega
      rw [hterms, hih]
      constructor
      · rintro ⟨hlast, hupper, hpairwise⟩
        exact ⟨⟨hlast, fun other hother => (le_max_left _ _).trans (hupper other hother)⟩,
          fun other hother => (le_max_right _ _).trans (hupper other hother), hpairwise⟩
      · rintro ⟨⟨hlast, hupper⟩, hfirst, hpairwise⟩
        exact ⟨hlast, fun other hother => max_le (hupper other hother) (hfirst other hother),
          hpairwise⟩

/-- In sorted intervals, the upper ends are sorted when no interval is strictly inside another. -/
theorem pairwise_upper_iff (hsorted : intervals.Pairwise IntervalLe) :
    (intervals.Pairwise fun i j => i.2 ≤ j.2) ↔
      ∀ i ∈ intervals, ∀ j ∈ intervals, ¬ (i.1 < j.1 ∧ j.2 < i.2) := by
  constructor
  · intro hupper i hi j hj hinside
    have hboth := hsorted.and hupper
    obtain ⟨m, hm, rfl⟩ := List.getElem_of_mem hi
    obtain ⟨n, hn, rfl⟩ := List.getElem_of_mem hj
    rw [List.pairwise_iff_getElem] at hboth
    rcases lt_trichotomy m n with hlt | rfl | hlt
    · exact absurd (hboth m n hm hn hlt).2 (not_le.mpr hinside.2)
    · exact lt_irrefl _ hinside.1
    · exact absurd (hboth n m hn hm hlt).1.lower_le (not_le.mpr hinside.1)
  · intro hinside
    refine hsorted.imp_of_mem fun {i j} hi hj hle => ?_
    rcases hle with hlower | ⟨-, hupper⟩
    · exact not_lt.mp fun hlt => hinside i hi j hj ⟨hlower, hlt⟩
    · exact hupper

/-- **The pass gives at most the length of the union.** -/
theorem scanLength_le (hsorted : intervals.Pairwise IntervalLe) (last : ℤ) :
    scanLength last intervals ≤ (intervalUnion intervals).card := by
  refine (scanLength_le_unionFrom (hsorted.imp IntervalLe.lower_le) last).trans ?_
  exact_mod_cast Finset.card_filter_le _ _

/-- **The pass gives the length of the union** exactly when all intervals are above the number that it
starts from, and none is strictly inside another. -/
theorem scanLength_eq_iff (hsorted : intervals.Pairwise IntervalLe)
    (hlt : ∀ interval ∈ intervals, interval.1 < interval.2) (last : ℤ) :
    scanLength last intervals = (intervalUnion intervals).card ↔
      (∀ interval ∈ intervals, last ≤ interval.1) ∧
        ∀ i ∈ intervals, ∀ j ∈ intervals, ¬ (i.1 < j.1 ∧ j.2 < i.2) := by
  have hle := scanLength_le_unionFrom (hsorted.imp IntervalLe.lower_le) last
  have hsubset : unionFrom last intervals ⊆ intervalUnion intervals := Finset.filter_subset _ _
  have hcard : ((unionFrom last intervals).card : ℤ) ≤ (intervalUnion intervals).card := by
    exact_mod_cast Finset.card_le_card hsubset
  -- the union is above the number when all lower ends are
  have hfrom : ((unionFrom last intervals).card : ℤ) = (intervalUnion intervals).card ↔
      ∀ interval ∈ intervals, last ≤ interval.1 := by
    rw [Nat.cast_inj, unionFrom, Finset.card_filter_eq_iff]
    constructor
    · intro hall interval hinterval
      exact hall _ (mem_intervalUnion.mpr ⟨interval, hinterval, le_rfl, hlt interval hinterval⟩)
    · intro hall y hy
      obtain ⟨interval, hinterval, hlower, -⟩ := mem_intervalUnion.mp hy
      exact (hall interval hinterval).trans hlower
  have hscan := scanLength_eq_unionFrom_iff (hsorted.imp IntervalLe.lower_le) hlt last
  rw [pairwise_upper_iff hsorted] at hscan
  have hboth : scanLength last intervals = (intervalUnion intervals).card ↔
      scanLength last intervals = (unionFrom last intervals).card ∧
        ((unionFrom last intervals).card : ℤ) = (intervalUnion intervals).card := by
    omega
  rw [hboth, hscan, hfrom]
  constructor
  · rintro ⟨⟨-, hinside⟩, hlower⟩
    exact ⟨hlower, hinside⟩
  · rintro ⟨hlower, hinside⟩
    exact ⟨⟨fun interval h => (hlower interval h).trans (hlt interval h).le, hinside⟩, hlower⟩

end WebXEngine
