import Mathlib.Data.Rat.Floor
import Mathlib.Data.Fintype.Basic
import Mathlib.Tactic.Linarith

/-! # Qualities

The twelve quality settings of the image transfer. Their parameters are single precision numbers,
kept as bit patterns because that is how they are sent to the clients.

* **`Binary32`** — a bit pattern, and the number it stands for.
* **`WebXQuality`** — a quality; two qualities are compared by their index.
* **`RuntimeMaxQuality`** — the largest index that the settings of the engine allow.
* **`qualityForIndex`** — the quality a client asks for, brought into the allowed range. -/

namespace WebXEngine

/-! ## Single precision numbers -/

/-- A single precision number as its bit pattern. -/
structure Binary32 where
  bits : UInt32
  deriving DecidableEq, Repr

/-- The number a normal bit pattern stands for: sign, exponent biased by 127 and 23 bits of
mantissa. -/
def Binary32.toRat (x : Binary32) : ℚ :=
  let sign : ℚ := if x.bits.toNat / 2 ^ 31 = 0 then 1 else -1
  let exponent : ℤ := (x.bits.toNat / 2 ^ 23 % 2 ^ 8 : ℕ)
  let mantissa : ℕ := x.bits.toNat % 2 ^ 23
  sign * (2 ^ 23 + mantissa : ℕ) * 2 ^ (exponent - 150)

/-! ## The quality settings -/

/-- A quality: its index, which is never negative, the frames per second, the image qualities and the
bandwidth in Mbps. -/
structure WebXQuality where
  index : ℕ
  imageFPS : Binary32
  rgbQuality : Binary32
  alphaQuality : Binary32
  maxMbps : Binary32
  index_lt : index < 2 ^ 31 := by decide
  deriving DecidableEq, Repr

namespace WebXQuality

/-- The time between two updates of a window, in microseconds. -/
def imageUpdateTimeUs (quality : WebXQuality) : ℤ := ⌊1000000 / quality.imageFPS.toRat⌋

/-- The largest index of the table. -/
def maxQualityIndex : ℕ := 12

/-- The table of the qualities. -/
def qualitySettings : Vector WebXQuality maxQualityIndex :=
  #v[.mk 1 ⟨0x3F000000⟩ ⟨0x3ECCCCCD⟩ ⟨0x3F000000⟩ ⟨0x3F000000⟩, -- 0.5, 0.4, 0.5, 0.5
    .mk 2 ⟨0x3F000000⟩ ⟨0x3ECCCCCD⟩ ⟨0x3F000000⟩ ⟨0x3F400000⟩, -- 0.5, 0.4, 0.5, 0.75
    .mk 3 ⟨0x3F800000⟩ ⟨0x3F000000⟩ ⟨0x3F19999A⟩ ⟨0x3F800000⟩, -- 1, 0.5, 0.6, 1
    .mk 4 ⟨0x40400000⟩ ⟨0x3F19999A⟩ ⟨0x3F19999A⟩ ⟨0x40000000⟩, -- 3, 0.6, 0.6, 2
    .mk 5 ⟨0x40A00000⟩ ⟨0x3F19999A⟩ ⟨0x3F333333⟩ ⟨0x40400000⟩, -- 5, 0.6, 0.7, 3
    .mk 6 ⟨0x40C00000⟩ ⟨0x3F333333⟩ ⟨0x3F333333⟩ ⟨0x40800000⟩, -- 6, 0.7, 0.7, 4
    .mk 7 ⟨0x41000000⟩ ⟨0x3F333333⟩ ⟨0x3F4CCCCD⟩ ⟨0x40A00000⟩, -- 8, 0.7, 0.8, 5
    .mk 8 ⟨0x41200000⟩ ⟨0x3F4CCCCD⟩ ⟨0x3F4CCCCD⟩ ⟨0x40C00000⟩, -- 10, 0.8, 0.8, 6
    .mk 9 ⟨0x41400000⟩ ⟨0x3F666666⟩ ⟨0x3F666666⟩ ⟨0x41000000⟩, -- 12, 0.9, 0.9, 8
    .mk 10 ⟨0x41700000⟩ ⟨0x3F666666⟩ ⟨0x3F666666⟩ ⟨0x41400000⟩, -- 15, 0.9, 0.9, 12
    .mk 11 ⟨0x41C00000⟩ ⟨0x3F666666⟩ ⟨0x3F666666⟩ ⟨0x41800000⟩, -- 24, 0.9, 0.9, 16
    .mk 12 ⟨0x41F00000⟩ ⟨0x3F666666⟩ ⟨0x3F666666⟩ ⟨0x41C00000⟩] -- 30, 0.9, 0.9, 24

/-- The quality at a place of the table holds the index of that place. -/
theorem index_qualitySettings (k : Fin maxQualityIndex) : (qualitySettings.get k).index = k + 1 := by
  revert k
  decide

end WebXQuality

/-- The largest quality index allowed by the settings: `SetRuntimeMaxQualityIndex` keeps it between
1 and the largest index of the table. -/
structure RuntimeMaxQuality where
  index : ℕ
  pos : 0 < index
  le : index ≤ WebXQuality.maxQualityIndex
  deriving DecidableEq, Repr

namespace RuntimeMaxQuality

/-- The bounds put on the index of the settings. -/
def setRuntimeMaxQualityIndex (maxRuntimeQualityIndex : ℤ) : RuntimeMaxQuality :=
  if h : maxRuntimeQualityIndex < 1 then
    ⟨1, by decide, by decide⟩
  else if h' : maxRuntimeQualityIndex > WebXQuality.maxQualityIndex then
    ⟨WebXQuality.maxQualityIndex, by decide, le_refl _⟩
  else
    ⟨maxRuntimeQualityIndex.toNat, by omega, by omega⟩

variable (max : RuntimeMaxQuality)

/-- The quality of an index of the allowed range. -/
def qualityAt (index : ℕ) (hpos : 0 < index) (hle : index ≤ max.index) : WebXQuality :=
  WebXQuality.qualitySettings.get ⟨index - 1, by have := max.le; omega⟩

/-- The best quality of the allowed range. -/
def maxQuality : WebXQuality := max.qualityAt max.index max.pos (le_refl _)

/-- The quality of an index, the indices outside the allowed range being brought to its ends. -/
def qualityForIndex (qualityIndex : ℕ) : WebXQuality :=
  if hlow : qualityIndex < 1 then
    max.qualityAt 1 Nat.one_pos max.pos
  else if hhigh : qualityIndex > max.index then
    max.maxQuality
  else
    max.qualityAt qualityIndex (by omega) (by omega)

/-- The quality of an index of the allowed range has that index. -/
@[simp] theorem index_qualityAt (index : ℕ) (hpos : 0 < index) (hle : index ≤ max.index) :
    (max.qualityAt index hpos hle).index = index := by
  rw [qualityAt, WebXQuality.index_qualitySettings]
  exact Nat.sub_add_cancel hpos

/-- An index of the allowed range is looked up as it is. -/
theorem qualityForIndex_eq_qualityAt {index : ℕ} (hpos : 0 < index) (hle : index ≤ max.index) :
    max.qualityForIndex index = max.qualityAt index hpos hle := by
  rw [qualityForIndex, dif_neg (by omega), dif_neg (by omega)]

/-- The index of a quality a client gets is in the allowed range. -/
theorem index_qualityForIndex (qualityIndex : ℕ) :
    (max.qualityForIndex qualityIndex).index = Nat.max 1 (Nat.min qualityIndex max.index) := by
  have hpos := max.pos
  rw [qualityForIndex]
  split_ifs with hlow hhigh
  · have hmin : Nat.min qualityIndex max.index = qualityIndex := Nat.min_eq_left (by omega)
    rw [index_qualityAt, hmin]
    exact (Nat.max_eq_left hlow.le).symm
  · have hmin : Nat.min qualityIndex max.index = max.index := Nat.min_eq_right hhigh.le
    rw [maxQuality, index_qualityAt, hmin]
    exact (Nat.max_eq_right hpos).symm
  · have hmin : Nat.min qualityIndex max.index = qualityIndex := Nat.min_eq_left (by omega)
    rw [index_qualityAt, hmin]
    exact (Nat.max_eq_right (by omega)).symm

/-- The quality of any index is in the allowed range. -/
theorem index_qualityForIndex_mem (qualityIndex : ℕ) :
    1 ≤ (max.qualityForIndex qualityIndex).index ∧
      (max.qualityForIndex qualityIndex).index ≤ max.index := by
  rw [index_qualityForIndex]
  exact ⟨Nat.le_max_left _ _, Nat.max_le.mpr ⟨max.pos, Nat.min_le_right _ _⟩⟩

/-- The quality of an index is not better than the index says. -/
theorem index_qualityForIndex_le {index : ℕ} (hpos : 0 < index) :
    (max.qualityForIndex index).index ≤ index := by
  rw [index_qualityForIndex]
  exact Nat.max_le.mpr ⟨hpos, Nat.min_le_left _ _⟩

/-- An index of the allowed range is that of its quality. -/
theorem index_qualityForIndex_of_mem {index : ℕ} (hpos : 0 < index) (hle : index ≤ max.index) :
    (max.qualityForIndex index).index = index := by
  rw [max.qualityForIndex_eq_qualityAt hpos hle, index_qualityAt]

/-- Every quality of the allowed range is in the table. -/
theorem qualityAt_mem (index : ℕ) (hpos : 0 < index) (hle : index ≤ max.index) :
    max.qualityAt index hpos hle ∈ WebXQuality.qualitySettings :=
  Vector.getElem_mem _

/-- The quality of any index is in the table. -/
theorem qualityForIndex_mem (qualityIndex : ℕ) :
    max.qualityForIndex qualityIndex ∈ WebXQuality.qualitySettings := by
  rw [qualityForIndex]
  split_ifs
  · exact max.qualityAt_mem _ _ _
  · exact max.qualityAt_mem _ _ _
  · exact max.qualityAt_mem _ _ _

/-! ## Qualities for a coverage or a data rate -/

/-- A coverage brought between 0 and 1. -/
def clampCoverage (coverage : ℚ) : ℚ :=
  if coverage < 0 then 0 else if coverage > 1 then 1 else coverage

/-- A clamped coverage is not negative. -/
theorem clampCoverage_nonneg (coverage : ℚ) : 0 ≤ clampCoverage coverage := by
  rw [clampCoverage]
  split_ifs <;> linarith

/-- A clamped coverage is not above one. -/
theorem clampCoverage_le_one (coverage : ℚ) : clampCoverage coverage ≤ 1 := by
  rw [clampCoverage]
  split_ifs <;> linarith

/-- The clamp keeps the order. -/
theorem clampCoverage_mono : Monotone clampCoverage := by
  intro coverage coverage' h
  rw [clampCoverage, clampCoverage]
  split_ifs <;> linarith

/-- The index for a covered fraction: from the largest index for 0 down to 1 for 1. -/
def indexForFraction (fraction : ℚ) : ℤ := ⌈(max.index : ℚ) - ((max.index : ℚ) - 1 / 100) * fraction⌉

/-- The index for a fraction between 0 and 1 is in the allowed range. -/
theorem indexForFraction_mem {fraction : ℚ} (h0 : 0 ≤ fraction) (h1 : fraction ≤ 1) :
    0 < (max.indexForFraction fraction).toNat ∧
      (max.indexForFraction fraction).toNat ≤ max.index := by
  have hmax : (1 : ℚ) ≤ max.index := by exact_mod_cast max.pos
  have hlow : 0 < max.indexForFraction fraction := by
    rw [indexForFraction, Int.ceil_pos]
    nlinarith
  have hhigh : max.indexForFraction fraction ≤ max.index := by
    rw [indexForFraction, Int.ceil_le]
    push_cast
    nlinarith
  omega

/-- The larger the fraction, the lower the index. -/
theorem indexForFraction_le_of_le {fraction fraction' : ℚ} (h : fraction ≤ fraction') :
    max.indexForFraction fraction' ≤ max.indexForFraction fraction := by
  have hmax : (1 : ℚ) ≤ max.index := by exact_mod_cast max.pos
  have hscaled : ((max.index : ℚ) - 1 / 100) * fraction ≤ ((max.index : ℚ) - 1 / 100) * fraction' :=
    mul_le_mul_of_nonneg_left h (by linarith)
  rw [indexForFraction, indexForFraction]
  exact Int.ceil_le_ceil (by linarith)

/-- The quality for the covered fraction of a window. -/
def qualityForImageCoverageLinear (coverage : ℚ) : WebXQuality :=
  let h := max.indexForFraction_mem (clampCoverage_nonneg coverage) (clampCoverage_le_one coverage)
  max.qualityAt (max.indexForFraction (clampCoverage coverage)).toNat h.1 h.2

/-- The quality for the covered fraction of a window, higher for small fractions. -/
def qualityForImageCoverageQuadratic (coverage : ℚ) : WebXQuality :=
  let h := max.indexForFraction_mem
    (mul_nonneg (clampCoverage_nonneg coverage) (clampCoverage_nonneg coverage))
    (mul_le_one₀ (clampCoverage_le_one coverage) (clampCoverage_nonneg coverage)
      (clampCoverage_le_one coverage))
  max.qualityAt (max.indexForFraction (clampCoverage coverage * clampCoverage coverage)).toNat
    h.1 h.2

/-- The next quality for a data rate: one step down when the rate is too high for the desired
quality, one step up when it is low for it. -/
def qualityForImageMbps (imageMbps : ℚ) (desiredQuality currentQuality : WebXQuality) :
    WebXQuality :=
  let lowerBoundImageMbps : ℚ :=
    if desiredQuality.index > 1 then
      (max.qualityForIndex (desiredQuality.index - 1)).maxMbps.toRat
    else
      4 / 5 * desiredQuality.maxMbps.toRat
  if imageMbps > desiredQuality.maxMbps.toRat ∧ currentQuality.index > 1 then
    max.qualityForIndex (currentQuality.index - 1)
  else if imageMbps < lowerBoundImageMbps ∧ currentQuality.index < max.index then
    max.qualityForIndex (currentQuality.index + 1)
  else
    currentQuality

/-- What the step for a data rate can do. -/
theorem qualityForImageMbps_cases (imageMbps : ℚ) (desiredQuality currentQuality : WebXQuality) :
    (imageMbps > desiredQuality.maxMbps.toRat ∧ currentQuality.index > 1 ∧
      max.qualityForImageMbps imageMbps desiredQuality currentQuality =
        max.qualityForIndex (currentQuality.index - 1)) ∨
    (¬ (imageMbps > desiredQuality.maxMbps.toRat ∧ currentQuality.index > 1) ∧
      (imageMbps < if desiredQuality.index > 1 then
          (max.qualityForIndex (desiredQuality.index - 1)).maxMbps.toRat
        else 4 / 5 * desiredQuality.maxMbps.toRat) ∧ currentQuality.index < max.index ∧
      max.qualityForImageMbps imageMbps desiredQuality currentQuality =
        max.qualityForIndex (currentQuality.index + 1)) ∨
    max.qualityForImageMbps imageMbps desiredQuality currentQuality = currentQuality := by
  rw [qualityForImageMbps]
  generalize (if desiredQuality.index > 1 then _ else _ : ℚ) = lowerBoundImageMbps
  by_cases hdown : imageMbps > desiredQuality.maxMbps.toRat ∧ currentQuality.index > 1
  · exact .inl ⟨hdown.1, hdown.2, if_pos hdown⟩
  · rw [if_neg hdown]
    by_cases hup : imageMbps < lowerBoundImageMbps ∧ currentQuality.index < max.index
    · exact .inr (.inl ⟨hdown, hup.1, hup.2, if_pos hup⟩)
    · exact .inr (.inr (if_neg hup))

/-! ## The index of a covered fraction -/

/-- The index for a covered fraction is in the allowed range. -/
theorem indexForFraction_clampCoverage_mem (coverage : ℚ) :
    0 < (max.indexForFraction (clampCoverage coverage)).toNat ∧
      (max.indexForFraction (clampCoverage coverage)).toNat ≤ max.index :=
  max.indexForFraction_mem (clampCoverage_nonneg coverage) (clampCoverage_le_one coverage)

/-- So is the one for its square. -/
theorem indexForFraction_clampCoverage_sq_mem (coverage : ℚ) :
    0 < (max.indexForFraction (clampCoverage coverage * clampCoverage coverage)).toNat ∧
      (max.indexForFraction (clampCoverage coverage * clampCoverage coverage)).toNat ≤ max.index :=
  max.indexForFraction_mem (mul_nonneg (clampCoverage_nonneg coverage) (clampCoverage_nonneg coverage))
    (mul_le_one₀ (clampCoverage_le_one coverage) (clampCoverage_nonneg coverage)
      (clampCoverage_le_one coverage))

/-- The linear function looks up the index of the coverage. -/
theorem qualityForImageCoverageLinear_eq (coverage : ℚ) : max.qualityForImageCoverageLinear coverage =
    max.qualityForIndex (max.indexForFraction (clampCoverage coverage)).toNat := by
  obtain ⟨hpos, hle⟩ := max.indexForFraction_clampCoverage_mem coverage
  exact (max.qualityForIndex_eq_qualityAt hpos hle).symm

/-- The quadratic function looks up the index of the square of the coverage. -/
theorem qualityForImageCoverageQuadratic_eq (coverage : ℚ) :
    max.qualityForImageCoverageQuadratic coverage =
      max.qualityForIndex
        (max.indexForFraction (clampCoverage coverage * clampCoverage coverage)).toNat := by
  obtain ⟨hpos, hle⟩ := max.indexForFraction_clampCoverage_sq_mem coverage
  exact (max.qualityForIndex_eq_qualityAt hpos hle).symm

/-- The index of the linear function is in the table as it is. -/
theorem index_qualityForImageCoverageLinear (coverage : ℚ) :
    (max.qualityForImageCoverageLinear coverage).index =
      (max.indexForFraction (clampCoverage coverage)).toNat := by
  obtain ⟨hpos, hle⟩ := max.indexForFraction_clampCoverage_mem coverage
  rw [qualityForImageCoverageLinear_eq, max.index_qualityForIndex_of_mem hpos hle]

/-- The index of the quadratic function is in the table as it is. -/
theorem index_qualityForImageCoverageQuadratic (coverage : ℚ) :
    (max.qualityForImageCoverageQuadratic coverage).index =
      (max.indexForFraction (clampCoverage coverage * clampCoverage coverage)).toNat := by
  obtain ⟨hpos, hle⟩ := max.indexForFraction_clampCoverage_sq_mem coverage
  rw [qualityForImageCoverageQuadratic_eq, max.index_qualityForIndex_of_mem hpos hle]

/-- **The more is covered, the lower the quality.** -/
theorem qualityForImageCoverageLinear_antitone :
    Antitone fun coverage => (max.qualityForImageCoverageLinear coverage).index := by
  intro coverage coverage' h
  dsimp only
  rw [index_qualityForImageCoverageLinear, index_qualityForImageCoverageLinear]
  exact Int.toNat_le_toNat (max.indexForFraction_le_of_le (clampCoverage_mono h))

/-- **The more a window is covered, the lower its quality**, by the quadratic function. -/
theorem qualityForImageCoverageQuadratic_antitone :
    Antitone fun coverage => (max.qualityForImageCoverageQuadratic coverage).index := by
  intro coverage coverage' h
  dsimp only
  rw [index_qualityForImageCoverageQuadratic, index_qualityForImageCoverageQuadratic]
  have hsquare := mul_self_le_mul_self (clampCoverage_nonneg coverage) (clampCoverage_mono h)
  exact Int.toNat_le_toNat (max.indexForFraction_le_of_le hsquare)

/-- **The quadratic function is never below the linear one**: a fraction is at least its square. -/
theorem qualityForImageCoverageLinear_le_quadratic (coverage : ℚ) :
    (max.qualityForImageCoverageLinear coverage).index ≤
      (max.qualityForImageCoverageQuadratic coverage).index := by
  rw [index_qualityForImageCoverageLinear, index_qualityForImageCoverageQuadratic]
  have hsquare : clampCoverage coverage * clampCoverage coverage ≤ clampCoverage coverage :=
    mul_le_of_le_one_left (clampCoverage_nonneg coverage) (clampCoverage_le_one coverage)
  exact Int.toNat_le_toNat (max.indexForFraction_le_of_le hsquare)

end RuntimeMaxQuality

end WebXEngine
