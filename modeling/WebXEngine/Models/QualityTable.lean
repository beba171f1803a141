import WebXEngine.Foundations.CheckedInts
import WebXEngine.Models.Quality

/-! # The accesses of the quality table

The table of the qualities is accessed without a check. The functions that look a quality up bring their
indices into a range, which is in a static variable, and calculate with signed and unsigned integers
of 32 bits. Coverages and rates are exact rational numbers.

* **`WebXQuality.qualityForIndex`** and the functions after it — the lookups, with the integers of the
  source.
* **`RuntimeMaxQuality.HeldIn`** — the static variable holds the largest index of an allowed range.
* **`AccessesInRange`** — no access leaves the table, and each lookup gives a quality of the range. -/

namespace WebXEngine

open CheckedInt

/-! ## The lookups -/

namespace WebXQuality

/-- The largest index that is allowed before the settings are read. -/
def initialMaxRuntimeQualityIndex : Int32 := .ofNat maxQualityIndex

/-- Sets the largest index that is allowed. -/
def setRuntimeMaxQualityIndex (maxRuntimeQualityIndex : Int32) : Int32 :=
  if maxRuntimeQualityIndex < 1 then
    1
  else if maxRuntimeQualityIndex > .ofNat maxQualityIndex then
    .ofNat maxQualityIndex
  else
    maxRuntimeQualityIndex

/-- An access to the table; no value outside it. -/
def qualitySettingsAt (position : UInt64) : Option WebXQuality := qualitySettings[position.toNat]?

/-- The access for a signed index: one is subtracted, and the sign is extended to 64 bits. -/
def qualityOfIndex (qualityIndex : Int32) : Option WebXQuality := do
  -- the subtraction is done with signed integers, before the conversion
  let position ← ofResult (qualityIndex.toInt - 1)
  qualitySettingsAt position.toInt64.toUInt64

section Lookups

variable (maxRuntimeQualityIndex : Int32)

/-- The best quality that is allowed. -/
def maxQuality : Option WebXQuality := qualityOfIndex maxRuntimeQualityIndex

/-- The quality of an index, which is compared with the largest one as an unsigned number. -/
def qualityForIndex (qualityIndex : UInt32) : Option WebXQuality :=
  let qualityIndex :=
    -- the signed bound is converted: a negative one would be larger than every index
    if qualityIndex < 1 ∨ qualityIndex > maxRuntimeQualityIndex.toUInt32 then
      if qualityIndex < 1 then 1 else maxRuntimeQualityIndex.toUInt32
    else
      qualityIndex
  qualitySettingsAt (qualityIndex - 1).toUInt64

/-- The quality for a fraction, whose index is rounded up to a signed integer. -/
def qualityForFraction (fraction : ℚ) : Option WebXQuality := do
  let qualityIndex ← ofResult
    ⌈(maxRuntimeQualityIndex.toInt : ℚ) - ((maxRuntimeQualityIndex.toInt : ℚ) - 1 / 100) * fraction⌉
  qualityOfIndex qualityIndex

/-- The quality for the covered fraction of a window. -/
def qualityForImageCoverageLinear (coverage : ℚ) : Option WebXQuality :=
  let coverage := RuntimeMaxQuality.clampCoverage coverage
  qualityForFraction maxRuntimeQualityIndex coverage

/-- The quality for the covered fraction of a window, higher for small fractions. -/
def qualityForImageCoverageQuadratic (coverage : ℚ) : Option WebXQuality :=
  let coverage := RuntimeMaxQuality.clampCoverage coverage
  qualityForFraction maxRuntimeQualityIndex (coverage * coverage)

/-- The data rate below which a quality is raised: the limit of the quality before it. -/
def lowerBoundImageMbps (desiredQuality : WebXQuality) : Option ℚ :=
  if desiredQuality.index > 1 then do
    let index ← ofResult (desiredQuality.index - 1)
    let quality ← qualityForIndex maxRuntimeQualityIndex index.toUInt32
    some quality.maxMbps.toRat
  else
    some (4 / 5 * desiredQuality.maxMbps.toRat)

/-- The next quality for a data rate. The lower bound is looked up in any case. -/
def qualityForImageMbps (imageMbps : ℚ) (desiredQuality currentQuality : WebXQuality) :
    Option WebXQuality := do
  let lowerBoundImageMbps ← lowerBoundImageMbps maxRuntimeQualityIndex desiredQuality
  if imageMbps > desiredQuality.maxMbps.toRat ∧ currentQuality.index > 1 then do
    let index ← ofResult (currentQuality.index - 1)
    qualityForIndex maxRuntimeQualityIndex index.toUInt32
  else if imageMbps < lowerBoundImageMbps ∧
      (currentQuality.index : ℤ) < maxRuntimeQualityIndex.toInt then do
    let index ← ofResult (currentQuality.index + 1)
    qualityForIndex maxRuntimeQualityIndex index.toUInt32
  else
    some currentQuality

end Lookups

/-! ## What is safe -/

/-- An entry of the table with an index from 1 to the largest one that is allowed. -/
structure InTable (maxRuntimeQualityIndex : Int32) (quality : WebXQuality) : Prop where
  mem : quality ∈ qualitySettings
  pos : 1 ≤ quality.index
  le : (quality.index : ℤ) ≤ maxRuntimeQualityIndex.toInt

/-- A rate is below the lower bound of a quality: the limit of the entry before it, or four fifths of
its own limit when it is the first one. -/
def IsBelowLowerBound (imageMbps : ℚ) (quality : WebXQuality) : Prop :=
  (∃ previous ∈ qualitySettings, previous.index + 1 = quality.index ∧
    imageMbps < previous.maxMbps.toRat) ∨
  quality.index = 1 ∧ imageMbps < 4 / 5 * quality.maxMbps.toRat

/-- A step from one quality to the next one for a rate: by one index at most, down only when the rate
is over the limit of the desired quality, and up only when it is below its lower bound. -/
structure RateStep (imageMbps : ℚ) (desiredQuality currentQuality quality : WebXQuality) : Prop where
  down_le : currentQuality.index ≤ quality.index + 1
  up_le : quality.index ≤ currentQuality.index + 1
  down : quality.index < currentQuality.index → imageMbps > desiredQuality.maxMbps.toRat
  up : currentQuality.index < quality.index → IsBelowLowerBound imageMbps desiredQuality

end WebXQuality

open WebXQuality in
/-- **All accesses of the table are in range**: the bound is within the table, and for every index, every
coverage, and every rate with qualities of the range, the lookups give an entry of the range. The
functions of the coverage fall, the quadratic one never below the linear one. -/
structure AccessesInRange (maxRuntimeQualityIndex : Int32) : Prop where
  bound : 1 ≤ maxRuntimeQualityIndex.toInt ∧ maxRuntimeQualityIndex.toInt ≤ maxQualityIndex
  max : ∃ quality, maxQuality maxRuntimeQualityIndex = some quality ∧
    InTable maxRuntimeQualityIndex quality
  index : ∀ qualityIndex, ∃ quality,
    qualityForIndex maxRuntimeQualityIndex qualityIndex = some quality ∧
      InTable maxRuntimeQualityIndex quality
  linear : ∀ coverage, ∃ quality,
    qualityForImageCoverageLinear maxRuntimeQualityIndex coverage = some quality ∧
      InTable maxRuntimeQualityIndex quality
  quadratic : ∀ coverage, ∃ quality,
    qualityForImageCoverageQuadratic maxRuntimeQualityIndex coverage = some quality ∧
      InTable maxRuntimeQualityIndex quality
  mbps : ∀ imageMbps desiredQuality currentQuality, InTable maxRuntimeQualityIndex desiredQuality →
    InTable maxRuntimeQualityIndex currentQuality → ∃ quality,
      qualityForImageMbps maxRuntimeQualityIndex imageMbps desiredQuality currentQuality =
          some quality ∧
        InTable maxRuntimeQualityIndex quality ∧
        RateStep imageMbps desiredQuality currentQuality quality
  linear_antitone : ∀ coverage coverage' quality quality', coverage ≤ coverage' →
    qualityForImageCoverageLinear maxRuntimeQualityIndex coverage = some quality →
    qualityForImageCoverageLinear maxRuntimeQualityIndex coverage' = some quality' →
      quality'.index ≤ quality.index
  quadratic_antitone : ∀ coverage coverage' quality quality', coverage ≤ coverage' →
    qualityForImageCoverageQuadratic maxRuntimeQualityIndex coverage = some quality →
    qualityForImageCoverageQuadratic maxRuntimeQualityIndex coverage' = some quality' →
      quality'.index ≤ quality.index
  linear_le_quadratic : ∀ coverage quality quality',
    qualityForImageCoverageLinear maxRuntimeQualityIndex coverage = some quality →
    qualityForImageCoverageQuadratic maxRuntimeQualityIndex coverage = some quality' →
      quality.index ≤ quality'.index

/-! ## The lookups of an allowed range -/

namespace RuntimeMaxQuality

open WebXQuality (InTable IsBelowLowerBound RateStep)

/-- The static variable holds the largest index of the range. -/
def HeldIn (max : RuntimeMaxQuality) (maxRuntimeQualityIndex : Int32) : Prop :=
  maxRuntimeQualityIndex.toInt = max.index

/-- What is set is the bound of a range. -/
theorem heldIn_setRuntimeMaxQualityIndex (maxRuntimeQualityIndex : Int32) :
    (setRuntimeMaxQualityIndex maxRuntimeQualityIndex.toInt).HeldIn
      (WebXQuality.setRuntimeMaxQualityIndex maxRuntimeQualityIndex) := by
  have hone : (1 : Int32).toInt = 1 := rfl
  have hlargest : (Int32.ofNat WebXQuality.maxQualityIndex).toInt =
    (WebXQuality.maxQualityIndex : ℤ) := rfl
  rw [HeldIn, WebXQuality.setRuntimeMaxQualityIndex, setRuntimeMaxQualityIndex]
  simp only [gt_iff_lt, Int32.lt_iff_toInt_lt, hone, hlargest]
  -- both functions make the same comparisons
  split_ifs with hlow hhigh
  · rfl
  · rfl
  · exact (Int.toNat_of_nonneg (by omega)).symm

variable {max : RuntimeMaxQuality}

/-- An access at a position of the range. -/
theorem qualitySettingsAt_eq {position : UInt64} {index : ℕ} (hposition : position.toNat + 1 = index)
    (hpos : 0 < index) (hle : index ≤ max.index) :
    WebXQuality.qualitySettingsAt position = some (max.qualityAt index hpos hle) := by
  subst hposition
  have hlt : position.toNat < WebXQuality.maxQualityIndex := hle.trans max.le
  exact getElem?_pos WebXQuality.qualitySettings position.toNat hlt

/-- The access for a signed index of the range. -/
theorem qualityOfIndex_eq {qualityIndex : Int32} {index : ℕ} (hindex : qualityIndex.toInt = index)
    (hpos : 0 < index) (hle : index ≤ max.index) :
    WebXQuality.qualityOfIndex qualityIndex = some (max.qualityAt index hpos hle) := by
  have hlt := qualityIndex.toInt_lt
  obtain ⟨position, hposition⟩ := exists_ofResult_iff.mpr
    (show -2 ^ 31 ≤ qualityIndex.toInt - 1 ∧ qualityIndex.toInt - 1 < 2 ^ 31 by omega)
  have hvalue := ofResult_eq_some_iff.mp hposition
  -- the place is not negative, so that the conversion keeps it
  have hsame := toNat_toUInt64 (x := position) (by omega)
  rw [WebXQuality.qualityOfIndex, hposition]
  exact qualitySettingsAt_eq (by omega) hpos hle

namespace HeldIn

variable {maxRuntimeQualityIndex : Int32} (h : max.HeldIn maxRuntimeQualityIndex)

include h

/-- As an unsigned number, the bound is the same. -/
theorem toNat_toUInt32 : maxRuntimeQualityIndex.toUInt32.toNat = max.index := by
  have hsame := CheckedInt.toNat_toUInt32 (x := maxRuntimeQualityIndex) (h.ge.trans' (by omega))
  rw [h] at hsame
  exact_mod_cast hsame

/-- The largest quality is that of the bound. -/
theorem maxQuality : WebXQuality.maxQuality maxRuntimeQualityIndex = some max.maxQuality :=
  qualityOfIndex_eq h max.pos le_rfl

/-- **An index is looked up in the range**: it is never the one before the first entry. -/
theorem qualityForIndex (qualityIndex : UInt32) :
    WebXQuality.qualityForIndex maxRuntimeQualityIndex qualityIndex =
      some (max.qualityForIndex qualityIndex.toNat) := by
  have hbound := h.toNat_toUInt32
  have hpos := max.pos
  have hone : (1 : UInt32).toNat = 1 := rfl
  rw [WebXQuality.qualityForIndex, RuntimeMaxQuality.qualityForIndex]
  simp only [gt_iff_lt, UInt32.lt_iff_toNat_lt, hone, hbound]
  by_cases hlow : qualityIndex.toNat < 1
  -- the first entry, for 0
  · rw [if_pos (.inl hlow), if_pos hlow, dif_pos hlow]
    exact qualitySettingsAt_eq rfl _ _
  · rw [if_neg hlow, dif_neg hlow]
    by_cases hhigh : max.index < qualityIndex.toNat
    -- the last entry that is allowed
    · rw [if_pos (.inr hhigh), dif_pos hhigh]
      refine qualitySettingsAt_eq ?_ _ _
      rw [UInt32.toNat_toUInt64, UInt32.toNat_sub_of_le _ _ (UInt32.le_iff_toNat_le.mpr (by omega))]
      omega
    · rw [if_neg (by omega), dif_neg hhigh]
      refine qualitySettingsAt_eq ?_ _ _
      rw [UInt32.toNat_toUInt64, UInt32.toNat_sub_of_le _ _ (UInt32.le_iff_toNat_le.mpr (by omega))]
      omega

/-- The index that was rounded up fits, and is in the range. -/
theorem qualityForFraction {fraction : ℚ} (hmem : 0 < (max.indexForFraction fraction).toNat ∧
    (max.indexForFraction fraction).toNat ≤ max.index) :
    WebXQuality.qualityForFraction maxRuntimeQualityIndex fraction =
      some (max.qualityForIndex (max.indexForFraction fraction).toNat) := by
  obtain ⟨hpos, hle⟩ := hmem
  have hlargest : max.index ≤ 12 := max.le
  -- the number that is rounded up is at most 12, so that it fits
  obtain ⟨qualityIndex, hresult⟩ := exists_ofResult_iff.mpr
    (show -2 ^ 31 ≤ max.indexForFraction fraction ∧ max.indexForFraction fraction < 2 ^ 31 by omega)
  have hvalue := ofResult_eq_some_iff.mp hresult
  have hindex : qualityIndex.toInt = ((max.indexForFraction fraction).toNat : ℤ) := by omega
  have hbound : (maxRuntimeQualityIndex.toInt : ℚ) = max.index := by
    rw [h]
    rfl
  rw [indexForFraction] at hresult
  rw [WebXQuality.qualityForFraction, hbound, hresult, max.qualityForIndex_eq_qualityAt hpos hle]
  exact qualityOfIndex_eq hindex hpos hle

/-- **Every coverage is looked up in the range**, also one that is not between 0 and 1. -/
theorem qualityForImageCoverageLinear (coverage : ℚ) :
    WebXQuality.qualityForImageCoverageLinear maxRuntimeQualityIndex coverage =
      some (max.qualityForImageCoverageLinear coverage) := by
  rw [qualityForImageCoverageLinear_eq]
  exact h.qualityForFraction (max.indexForFraction_clampCoverage_mem coverage)

/-- **Every coverage is looked up in the range** by the quadratic function, too. -/
theorem qualityForImageCoverageQuadratic (coverage : ℚ) :
    WebXQuality.qualityForImageCoverageQuadratic maxRuntimeQualityIndex coverage =
      some (max.qualityForImageCoverageQuadratic coverage) := by
  rw [qualityForImageCoverageQuadratic_eq]
  exact h.qualityForFraction (max.indexForFraction_clampCoverage_sq_mem coverage)

/-- The lookup for an index next to the one of a quality. -/
theorem qualityForIndex_ofResult {x : ℤ} {index : ℕ} (hx : x = index) (hlt : index < 2 ^ 31) :
    (do
      let qualityIndex ← ofResult x
      WebXQuality.qualityForIndex maxRuntimeQualityIndex qualityIndex.toUInt32) =
      some (max.qualityForIndex index) := by
  subst hx
  obtain ⟨qualityIndex, hresult⟩ := exists_ofResult_iff.mpr
    (show -2 ^ 31 ≤ (index : ℤ) ∧ (index : ℤ) < 2 ^ 31 by omega)
  have hvalue := ofResult_eq_some_iff.mp hresult
  have hsame := CheckedInt.toNat_toUInt32 (x := qualityIndex) (by omega)
  have hindex : qualityIndex.toUInt32.toNat = index := by omega
  rw [hresult]
  exact (h.qualityForIndex _).trans (by rw [hindex])

/-- The lower bound is looked up in the range, or calculated for the first entry. -/
theorem lowerBoundImageMbps (desiredQuality : WebXQuality) :
    WebXQuality.lowerBoundImageMbps maxRuntimeQualityIndex desiredQuality =
      some (if desiredQuality.index > 1 then
        (max.qualityForIndex (desiredQuality.index - 1)).maxMbps.toRat
      else
        4 / 5 * desiredQuality.maxMbps.toRat) := by
  have hlt := desiredQuality.index_lt
  rw [WebXQuality.lowerBoundImageMbps]
  by_cases hfirst : desiredQuality.index > 1
  · have hprevious : (desiredQuality.index : ℤ) - 1 = (desiredQuality.index - 1 : ℕ) := by omega
    rw [if_pos hfirst, if_pos hfirst, ← bind_assoc,
      h.qualityForIndex_ofResult hprevious (by omega)]
    rfl
  · rw [if_neg hfirst, if_neg hfirst]

/-- **The step for a rate is looked up in the range**, whatever the two qualities are. -/
theorem qualityForImageMbps (imageMbps : ℚ) (desiredQuality currentQuality : WebXQuality) :
    WebXQuality.qualityForImageMbps maxRuntimeQualityIndex imageMbps desiredQuality currentQuality =
      some (max.qualityForImageMbps imageMbps desiredQuality currentQuality) := by
  have hlt := currentQuality.index_lt
  have hlargest : max.index ≤ 12 := max.le
  have hbound : (currentQuality.index : ℤ) < maxRuntimeQualityIndex.toInt ↔
      currentQuality.index < max.index := by
    rw [h, Int.ofNat_lt]
  rw [WebXQuality.qualityForImageMbps, RuntimeMaxQuality.qualityForImageMbps, h.lowerBoundImageMbps,
    Option.bind_eq_bind, Option.bind_some]
  simp only [hbound]
  -- both functions have the same lower bound
  generalize (if desiredQuality.index > 1 then _ else _ : ℚ) = lowerBoundImageMbps
  by_cases hdown : imageMbps > desiredQuality.maxMbps.toRat ∧ currentQuality.index > 1
  · have hprevious : (currentQuality.index : ℤ) - 1 = (currentQuality.index - 1 : ℕ) := by omega
    rw [if_pos hdown, if_pos hdown]
    exact h.qualityForIndex_ofResult hprevious (by omega)
  · rw [if_neg hdown, if_neg hdown]
    by_cases hup : imageMbps < lowerBoundImageMbps ∧ currentQuality.index < max.index
    · rw [if_pos hup, if_pos hup]
      exact h.qualityForIndex_ofResult (Int.natCast_succ _).symm (by omega)
    · rw [if_neg hup, if_neg hup]

/-! ## What the lookups give -/

/-- Whatever the index, the quality is an allowed one. -/
theorem inTable_qualityForIndex (index : ℕ) :
    InTable maxRuntimeQualityIndex (max.qualityForIndex index) := by
  obtain ⟨hlow, hhigh⟩ := max.index_qualityForIndex_mem index
  exact ⟨max.qualityForIndex_mem index, hlow, h.ge.trans' (Int.ofNat_le.mpr hhigh)⟩

/-- Whatever the rate, the quality stays an allowed one. -/
theorem inTable_qualityForImageMbps (imageMbps : ℚ) (desiredQuality : WebXQuality)
    {currentQuality : WebXQuality} (hcurrent : InTable maxRuntimeQualityIndex currentQuality) :
    InTable maxRuntimeQualityIndex
      (max.qualityForImageMbps imageMbps desiredQuality currentQuality) := by
  obtain ⟨-, -, hstep⟩ | ⟨-, -, -, hstep⟩ | hstep :=
    max.qualityForImageMbps_cases imageMbps desiredQuality currentQuality
  · rw [hstep]
    exact h.inTable_qualityForIndex _
  · rw [hstep]
    exact h.inTable_qualityForIndex _
  · rw [hstep]
    exact hcurrent

end HeldIn

/-- The lower bound of a quality of the range is the limit of the entry before it. -/
theorem isBelowLowerBound {imageMbps : ℚ} {quality : WebXQuality} (hpos : 0 < quality.index)
    (hle : quality.index ≤ max.index)
    (hlow : imageMbps < if quality.index > 1 then
        (max.qualityForIndex (quality.index - 1)).maxMbps.toRat
      else
        4 / 5 * quality.maxMbps.toRat) :
    IsBelowLowerBound imageMbps quality := by
  by_cases hfirst : quality.index > 1
  · rw [if_pos hfirst] at hlow
    have hindex := max.index_qualityForIndex_of_mem (show 0 < quality.index - 1 by omega) (by omega)
    exact .inl ⟨_, max.qualityForIndex_mem _, by omega, hlow⟩
  · rw [if_neg hfirst] at hlow
    exact .inr ⟨by omega, hlow⟩

/-- **The step for a rate**, from a quality of the range: down for a high rate, up for a low one. -/
theorem rateStep_qualityForImageMbps (imageMbps : ℚ) {desiredQuality currentQuality : WebXQuality}
    (hpos : 0 < desiredQuality.index) (hle : desiredQuality.index ≤ max.index)
    (hcurrent : currentQuality.index ≤ max.index) :
    RateStep imageMbps desiredQuality currentQuality
      (max.qualityForImageMbps imageMbps desiredQuality currentQuality) := by
  obtain ⟨hhigh, hfirst, hstep⟩ | ⟨-, hlow, hlast, hstep⟩ | hstep :=
    max.qualityForImageMbps_cases imageMbps desiredQuality currentQuality
  -- one index down, which is still in the range
  · have hindex := max.index_qualityForIndex_of_mem
      (show 0 < currentQuality.index - 1 by omega) (by omega)
    rw [hstep]
    exact ⟨by omega, by omega, fun _ => hhigh, fun hraised => by omega⟩
  · have hindex := max.index_qualityForIndex_of_mem
      (show 0 < currentQuality.index + 1 by omega) (by omega)
    rw [hstep]
    exact ⟨by omega, by omega, fun hlowered => by omega, fun _ => isBelowLowerBound hpos hle hlow⟩
  · rw [hstep]
    exact ⟨by omega, by omega, fun hlowered => by omega, fun hraised => by omega⟩

/-- **The accesses are in range whenever the variable holds the index of a range.** -/
theorem HeldIn.accessesInRange {maxRuntimeQualityIndex : Int32}
    (h : max.HeldIn maxRuntimeQualityIndex) : AccessesInRange maxRuntimeQualityIndex := by
  -- the qualities that are given are those of the range
  have hle {quality : WebXQuality} (hquality : InTable maxRuntimeQualityIndex quality) :
      quality.index ≤ max.index := Int.ofNat_le.mp (h ▸ hquality.le)
  refine
    { bound := ?bound, max := ?max, index := ?index, linear := ?linear, quadratic := ?quadratic,
      mbps := ?mbps, linear_antitone := ?linear_antitone,
      quadratic_antitone := ?quadratic_antitone, linear_le_quadratic := ?linear_le_quadratic }
  case bound =>
    rw [h]
    exact ⟨Int.ofNat_le.mpr max.pos, Int.ofNat_le.mpr max.le⟩
  case max =>
    refine ⟨_, h.maxQuality, ?_⟩
    rw [RuntimeMaxQuality.maxQuality, ← max.qualityForIndex_eq_qualityAt max.pos le_rfl]
    exact h.inTable_qualityForIndex max.index
  case index =>
    intro qualityIndex
    exact ⟨_, h.qualityForIndex qualityIndex, h.inTable_qualityForIndex _⟩
  case linear =>
    intro coverage
    refine ⟨_, h.qualityForImageCoverageLinear coverage, ?_⟩
    rw [qualityForImageCoverageLinear_eq]
    exact h.inTable_qualityForIndex _
  case quadratic =>
    intro coverage
    refine ⟨_, h.qualityForImageCoverageQuadratic coverage, ?_⟩
    rw [qualityForImageCoverageQuadratic_eq]
    exact h.inTable_qualityForIndex _
  case mbps =>
    intro imageMbps desiredQuality currentQuality hdesired hcurrent
    exact ⟨_, h.qualityForImageMbps imageMbps desiredQuality currentQuality,
      h.inTable_qualityForImageMbps imageMbps desiredQuality hcurrent,
      rateStep_qualityForImageMbps imageMbps hdesired.pos (hle hdesired) (hle hcurrent)⟩
  case linear_antitone =>
    intro coverage coverage' quality quality' hcoverage hquality hquality'
    -- the qualities are those of the range, where the order is known
    rw [h.qualityForImageCoverageLinear] at hquality hquality'
    cases hquality
    cases hquality'
    exact max.qualityForImageCoverageLinear_antitone hcoverage
  case quadratic_antitone =>
    intro coverage coverage' quality quality' hcoverage hquality hquality'
    rw [h.qualityForImageCoverageQuadratic] at hquality hquality'
    cases hquality
    cases hquality'
    exact max.qualityForImageCoverageQuadratic_antitone hcoverage
  case linear_le_quadratic =>
    intro coverage quality quality' hquality hquality'
    rw [h.qualityForImageCoverageLinear] at hquality
    rw [h.qualityForImageCoverageQuadratic] at hquality'
    cases hquality
    cases hquality'
    exact max.qualityForImageCoverageLinear_le_quadratic coverage

end RuntimeMaxQuality

/-- **Without the bounds, the best quality is outside the table**: the one before the first entry for
0, as well as every one after the last entry. -/
theorem exists_maxQuality_iff (maxRuntimeQualityIndex : Int32) :
    (∃ quality, WebXQuality.maxQuality maxRuntimeQualityIndex = some quality) ↔
      1 ≤ maxRuntimeQualityIndex.toInt ∧
        maxRuntimeQualityIndex.toInt ≤ WebXQuality.maxQualityIndex := by
  constructor
  · rintro ⟨quality, hquality⟩
    obtain ⟨position, hposition, hentry⟩ := Option.bind_eq_some_iff.mp hquality
    obtain ⟨hlt, -⟩ := Vector.getElem?_eq_some_iff.mp hentry
    have hvalue := ofResult_eq_some_iff.mp hposition
    -- a negative place would be far behind the table
    have hnonneg : 0 ≤ position.toInt := by
      by_contra hneg
      have hlarge := le_toNat_toUInt64 (not_le.mp hneg)
      rw [WebXQuality.maxQualityIndex] at hlt
      omega
    have hsame := toNat_toUInt64 hnonneg
    omega
  · rintro ⟨hlow, hhigh⟩
    have hmax : (⟨maxRuntimeQualityIndex.toInt.toNat, by omega, by omega⟩ :
        RuntimeMaxQuality).HeldIn maxRuntimeQualityIndex :=
      (Int.toNat_of_nonneg (by omega)).symm
    exact ⟨_, hmax.maxQuality⟩

/-! ## Every value of the static variable -/

/-- The static variable holds the index of a range, however often the settings are read. -/
theorem exists_heldIn_foldl (values : List Int32) : ∃ max : RuntimeMaxQuality, max.HeldIn
    (values.foldl (fun _ value => WebXQuality.setRuntimeMaxQualityIndex value)
      WebXQuality.initialMaxRuntimeQualityIndex) := by
  obtain rfl | ⟨values, value, rfl⟩ := values.eq_nil_or_concat'
  · exact ⟨⟨WebXQuality.maxQualityIndex, by decide, le_rfl⟩, rfl⟩
  · rw [List.foldl_concat]
    exact ⟨_, RuntimeMaxQuality.heldIn_setRuntimeMaxQualityIndex value⟩

/-- The accesses are in range at every time. -/
theorem accessesInRange_foldl (values : List Int32) : AccessesInRange
    (values.foldl (fun _ value => WebXQuality.setRuntimeMaxQualityIndex value)
      WebXQuality.initialMaxRuntimeQualityIndex) :=
  let ⟨_, h⟩ := exists_heldIn_foldl values
  h.accessesInRange

/-- **Whatever is set, all accesses of the table are in range.** -/
theorem accessesInRange_setRuntimeMaxQualityIndex (maxRuntimeQualityIndex : Int32) :
    AccessesInRange (WebXQuality.setRuntimeMaxQualityIndex maxRuntimeQualityIndex) :=
  (RuntimeMaxQuality.heldIn_setRuntimeMaxQualityIndex maxRuntimeQualityIndex).accessesInRange

end WebXEngine
