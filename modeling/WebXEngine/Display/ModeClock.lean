import WebXEngine.Display.ScreenResize
import WebXEngine.Foundations.CheckedInts

/-! # The size and the clock of a mode

A request for a size is brought into the range that the server allows. The clock of a mode that is
created is a product of three 32-bit integers, which has no defined value when it overflows.

* **`SizeRange`** — the sizes that the server allows in one direction.
* **`WebXRandR.modeInfo`** — the description of the mode that is created.
* **`resizesInRange_iff`** — the size is in the range; the clock is right unless it overflows. -/

namespace WebXEngine

open CheckedInt

/-! ## 32-bit integers -/

/-- A product, which has no value when it overflows. -/
def mulInt (a b : Int32) : Option Int32 :=
  if -2 ^ 31 ≤ a.toInt * b.toInt ∧ a.toInt * b.toInt < 2 ^ 31 then some (a * b) else none

/-- A product is a calculation whose result may not fit. -/
theorem mulInt_eq_ofResult (a b : Int32) : mulInt a b = ofResult (a.toInt * b.toInt) := by
  rw [mulInt, ofResult, Int32.ofInt_mul, Int32.ofInt_toInt, Int32.ofInt_toInt]

/-- A product that has a value has the exact one. -/
theorem mulInt_eq_some_iff {a b c : Int32} :
    mulInt a b = some c ↔ c.toInt = a.toInt * b.toInt := by
  rw [mulInt_eq_ofResult, ofResult_eq_some_iff]

/-- A product has a value when it does not overflow. -/
theorem exists_mulInt_iff {a b : Int32} : (∃ c, mulInt a b = some c) ↔
    -2 ^ 31 ≤ a.toInt * b.toInt ∧ a.toInt * b.toInt < 2 ^ 31 := by
  rw [mulInt_eq_ofResult, exists_ofResult_iff]

/-! ## The size -/

/-- The sizes that the server allows in one direction. -/
structure SizeRange where
  minimum : Int32
  maximum : Int32
  pos : 1 ≤ minimum.toInt
  le : minimum.toInt ≤ maximum.toInt
  small : maximum.toInt ≤ 32767

namespace SizeRange

variable (range : SizeRange) (requested : UInt32)

/-- A size is allowed. -/
def Allows (size : ℤ) : Prop := range.minimum.toInt ≤ size ∧ size ≤ range.maximum.toInt

/-- The allowed size that is closest to the one that is requested. -/
def closest : ℤ := max range.minimum.toInt (min requested.toNat range.maximum.toInt)

/-- **The size that is chosen is the closest one that is allowed.** -/
theorem toInt_clampSize :
    (WebXRandR.clampSize requested range.minimum range.maximum).toInt = range.closest requested := by
  obtain ⟨minimum, maximum, hpos, hle, hsmall⟩ := range
  have hminimum := toNat_toUInt32 (x := minimum) (by omega)
  have hmaximum := toNat_toUInt32 (x := maximum) (by omega)
  simp only [WebXRandR.clampSize, closest, gt_iff_lt, UInt32.lt_iff_toNat_lt]
  split_ifs with hhigh hlow
  · rw [toInt_toInt32 (by omega), hmaximum]
    omega
  · rw [toInt_toInt32 (by omega), hminimum]
    omega
  · rw [toInt_toInt32 (by omega)]
    omega

/-- The closest size is an allowed one. -/
theorem allows_closest : range.Allows (range.closest requested) :=
  ⟨le_max_left _ _, max_le range.le (min_le_right _ _)⟩

/-- A size that is allowed is the closest one to itself. -/
theorem closest_of_allows (h : range.Allows requested.toNat) :
    range.closest requested = requested.toNat := by
  rw [closest, min_eq_left h.2, max_eq_right h.1]

end SizeRange

/-! ## The mode -/

/-- The description of a mode that is created. The other members are 0. -/
structure XRRNewModeInfo extends XRRModeInfo where
  hTotal : UInt32
  vTotal : UInt32
  dotClock : UInt64
  modeFlags : UInt64
  nameLength : ℕ
  deriving DecidableEq, Repr

/-- The positive polarity of the horizontal synchronisation. -/
def hSyncPositive : UInt64 := 1

/-- The positive polarity of the vertical synchronisation. -/
def vSyncPositive : UInt64 := 4

/-- The description of the mode of a size; no value when its clock overflows. -/
def WebXRandR.modeInfo (width height : Int32) : Option XRRNewModeInfo := do
  let dotClock ← mulInt (← mulInt width height) 60
  let name := ScreenResize.modeName width height
  return {
    id := 0
    width := width.toUInt32
    height := height.toUInt32
    name := name
    hTotal := width.toUInt32
    vTotal := height.toUInt32
    dotClock := dotClock.toInt64.toUInt64
    modeFlags := hSyncPositive ||| vSyncPositive
    nameLength := name.length }

namespace WebXRandR

/-- **The clock of a mode is right exactly when it fits in 31 bits.** -/
theorem exists_modeInfo_iff {width height : Int32} (hwidth : 0 < width.toInt)
    (hheight : 0 < height.toInt) :
    (∃ info, modeInfo width height = some info ∧
        (info.dotClock.toNat : ℤ) = 60 * (width.toInt * height.toInt)) ↔
      60 * (width.toInt * height.toInt) < 2 ^ 31 := by
  have hpos : 0 < width.toInt * height.toInt := mul_pos hwidth hheight
  have hsixty : (60 : Int32).toInt = 60 := rfl
  constructor
  · rintro ⟨info, hinfo, -⟩
    obtain ⟨area, harea, hinfo⟩ := Option.bind_eq_some_iff.mp hinfo
    obtain ⟨clock, hclock, -⟩ := Option.bind_eq_some_iff.mp hinfo
    rw [mulInt_eq_some_iff] at harea hclock
    rw [hsixty, harea] at hclock
    have hlt := clock.toInt_lt
    omega
  · intro hlt
    -- the area is less than the clock, so neither product overflows
    obtain ⟨area, harea⟩ := (exists_mulInt_iff (a := width) (b := height)).mpr (by omega)
    have hareaValue := mulInt_eq_some_iff.mp harea
    obtain ⟨clock, hclock⟩ := (exists_mulInt_iff (a := area) (b := 60)).mpr
      (by rw [hsixty, hareaValue]; omega)
    have hclockValue := mulInt_eq_some_iff.mp hclock
    rw [hsixty, hareaValue] at hclockValue
    refine ⟨_, by rw [modeInfo, harea]; exact congrArg (· >>= _) hclock, ?_⟩
    -- the clock is not negative, so it is the same as an unsigned number of 64 bits
    have hnonneg : 0 ≤ clock.toInt := hclockValue ▸ Int.mul_nonneg hpos.le (by decide)
    refine (toNat_toUInt64 hnonneg).trans ?_
    omega

end WebXRandR

/-! ## Requests -/

/-- What the engine does for a request stays in range: the size is one that is allowed, and the one
that was requested if this is allowed; the clock of its mode is 60 times its area, and is calculated
without an overflow. -/
structure ResizesInRange (widths heights : SizeRange) (requestedWidth requestedHeight : UInt32) :
    Prop where
  width : widths.Allows
    (WebXRandR.clampSize requestedWidth widths.minimum widths.maximum).toInt
  height : heights.Allows
    (WebXRandR.clampSize requestedHeight heights.minimum heights.maximum).toInt
  sameWidth : widths.Allows requestedWidth.toNat →
    (WebXRandR.clampSize requestedWidth widths.minimum widths.maximum).toInt = requestedWidth.toNat
  sameHeight : heights.Allows requestedHeight.toNat →
    (WebXRandR.clampSize requestedHeight heights.minimum heights.maximum).toInt =
      requestedHeight.toNat
  clock : ∃ info, WebXRandR.modeInfo
      (WebXRandR.clampSize requestedWidth widths.minimum widths.maximum)
      (WebXRandR.clampSize requestedHeight heights.minimum heights.maximum) = some info ∧
    (info.dotClock.toNat : ℤ) =
      60 * ((WebXRandR.clampSize requestedWidth widths.minimum widths.maximum).toInt *
        (WebXRandR.clampSize requestedHeight heights.minimum heights.maximum).toInt)

/-- **A request stays in range exactly when 60 times the area of the closest size that is allowed
fits in 31 bits.** -/
theorem resizesInRange_iff (widths heights : SizeRange) (requestedWidth requestedHeight : UInt32) :
    ResizesInRange widths heights requestedWidth requestedHeight ↔
      60 * (widths.closest requestedWidth * heights.closest requestedHeight) < 2 ^ 31 := by
  have hwidth := widths.toInt_clampSize requestedWidth
  have hheight := heights.toInt_clampSize requestedHeight
  have hwidthAllowed := widths.allows_closest requestedWidth
  have hheightAllowed := heights.allows_closest requestedHeight
  -- the clock overflows or not at the sizes that are brought into the range
  have hclock := @WebXRandR.exists_modeInfo_iff
    (WebXRandR.clampSize requestedWidth widths.minimum widths.maximum)
    (WebXRandR.clampSize requestedHeight heights.minimum heights.maximum)
    (by rw [hwidth]; exact widths.pos.trans hwidthAllowed.1)
    (by rw [hheight]; exact heights.pos.trans hheightAllowed.1)
  rw [← hwidth, ← hheight]
  constructor
  · exact fun h => hclock.mp h.clock
  · intro h
    constructor
    case width => rwa [hwidth]
    case height => rwa [hheight]
    case sameWidth =>
      exact fun hallows => hwidth.trans (widths.closest_of_allows requestedWidth hallows)
    case sameHeight =>
      exact fun hallows => hheight.trans (heights.closest_of_allows requestedHeight hallows)
    case clock => exact hclock.mpr h

/-- A server that allows all sizes, and a request for a screen of 8192 x 8192. -/
theorem not_resizesInRange :
    ¬ ∀ (widths heights : SizeRange) (requestedWidth requestedHeight : UInt32),
      ResizesInRange widths heights requestedWidth requestedHeight := by
  intro h
  have hclock := (h ⟨1, 32767, by decide, by decide, by decide⟩
    ⟨1, 32767, by decide, by decide, by decide⟩ 8192 8192).clock
  have hnone : WebXRandR.modeInfo (WebXRandR.clampSize 8192 1 32767)
      (WebXRandR.clampSize 8192 1 32767) = none := by decide +kernel
  obtain ⟨info, hinfo, -⟩ := hclock
  exact Option.some_ne_none info (hinfo.symm.trans hnone)

end WebXEngine
