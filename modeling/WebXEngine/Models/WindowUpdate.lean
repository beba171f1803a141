import WebXEngine.Foundations.FloatRounding
import WebXEngine.Models.Geometry

/-! # What the display and the controller tell the client windows

* **`Time`** — the clock of the engine, in nanoseconds.
* **`Time.toFloatMs`** — a duration as a `float`, `le_toFloatMs_iff` gives the shortest one that is not
  below a limit.
* **`WebXWindowVisibility`** — the place, coverage and shape of a visible window.
* **`WebXWindowImageTransferData`** — what an update handler sent for a window.
* **`WebXTransferData.imageMbps`** — the data rate of some transfers. -/

namespace WebXEngine

open FloatFormat (binary32 binary64)

/-- A time, in nanoseconds. -/
abbrev Time := ℤ

/-- A number of milliseconds. -/
def Time.ofMs (ms : ℤ) : Time := ms * 1000000

/-- A number of microseconds. -/
def Time.ofUs (us : ℤ) : Time := us * 1000

/-- A duration in milliseconds. -/
def Time.toMs (t : Time) : ℚ := t / 1000000

/-- A duration in milliseconds, as a number of 32 bits: the nanoseconds are rounded, and their quotient. -/
def Time.toFloatMs (t : Time) : ℚ := binary32.round (binary32.round t / 1000000)

@[simp] theorem Time.toFloatMs_zero : Time.toFloatMs 0 = 0 := by
  rw [toFloatMs, Int.cast_zero, FloatFormat.round_zero, zero_div, FloatFormat.round_zero]

/-- A longer duration has no fewer milliseconds. -/
theorem Time.toFloatMs_mono {t u : Time} (h : t ≤ u) : t.toFloatMs ≤ u.toFloatMs := by
  have hcast : (t : ℚ) ≤ (u : ℚ) := by exact_mod_cast h
  exact FloatFormat.round_mono
    (div_le_div_of_nonneg_right (FloatFormat.round_mono hcast) (by norm_num))

/-- **The shortest duration that reaches a limit** is found between two that follow each other. -/
theorem Time.le_toFloatMs_iff {limit : ℚ} {shortest : Time} (hbefore : (shortest - 1).toFloatMs < limit)
    (hshortest : limit ≤ shortest.toFloatMs) (t : Time) : limit ≤ t.toFloatMs ↔ shortest ≤ t := by
  constructor
  · intro h
    by_contra hlt
    have hmono := toFloatMs_mono (show t ≤ shortest - 1 from Int.le_sub_one_of_lt (not_le.mp hlt))
    exact absurd (h.trans hmono) (not_le.mpr hbefore)
  · exact fun h => hshortest.trans (toFloatMs_mono h)

/-- How much of a window is covered by others, and whether the mouse is over a visible part. -/
structure WebXWindowCoverage where
  coverage : ℚ
  mouseOver : Bool
  deriving DecidableEq, Repr

/-- The visibility of a window. -/
structure WebXWindowVisibility where
  x11Window : UInt32
  rectangle : WebXRectangle
  coverage : WebXWindowCoverage
  isViewable : Bool
  shapeMaskChecksum : UInt32
  deriving DecidableEq, Repr

/-- Some part of the window can be seen in the viewport. -/
def WebXWindowVisibility.isVisible (visibility : WebXWindowVisibility) (viewport : WebXSize) : Bool :=
  visibility.isViewable && visibility.rectangle.isVisible viewport

/-- What was transferred for a window. -/
inductive WebXWindowImageTransferStatus
  | fullWindow
  | subWindow
  | ignored
  deriving DecidableEq, Repr

/-- The result of the update of a window. -/
structure WebXWindowImageTransferData where
  x11Window : UInt32
  timestamp : Time
  imageSizeKB : ℚ
  rgbChecksum : UInt32
  alphaChecksum : UInt32
  status : WebXWindowImageTransferStatus
  deriving DecidableEq, Repr

/-- A size transferred at a time. -/
structure WebXTransferData where
  timestamp : Time
  sizeKB : ℚ
  deriving DecidableEq, Repr

namespace WebXTransferData

/-- Adds sizes in the order in which they come, as numbers of 32 bits. -/
def totalKB (sizes : List ℚ) : ℚ := sizes.foldl (fun total sizeKB => binary32.round (total + sizeKB)) 0

/-- The rate of some transfers during a time, in Mbit/s: it is calculated with 64 bits, from numbers of
32 bits, and rounded to 32 bits. -/
def imageMbps (dataPoints : List WebXTransferData) (duration : Time) : ℚ :=
  binary32.round (binary64.round
    (binary64.round (125 / 16 * totalKB (dataPoints.map sizeKB)) / duration.toFloatMs))

/-- A rate that is below 0.75 because it is rounded. -/
example : imageMbps [⟨0, 98309 / 1024⟩, ⟨2000101725, 98309 / 1024⟩] 2000101725 = 12582911 / 16777216 := by
  decide +kernel

end WebXTransferData

end WebXEngine
