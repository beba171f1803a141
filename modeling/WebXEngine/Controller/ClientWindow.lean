import WebXEngine.Controller.WindowQualityHandler
import WebXEngine.Models.WindowDamage

/-! # Client windows

A window as a group of clients sees it: its damage since it was last sent, its quality and the
checksums of the last full image. -/

namespace WebXEngine

open FloatFormat (binary32 binary64)

/-- A window of a group of clients. -/
structure WebXClientWindow where
  id : UInt32
  damage : WebXWindowDamage
  qualityHandler : WebXWindowQualityHandler
  windowSize : WebXSize
  imageRefreshTime : Time
  rgbChecksum : UInt32
  alphaChecksum : UInt32
  shapeMaskChecksum : UInt32
  lastSentShapeMaskChecksum : UInt32
  deriving DecidableEq, Repr

namespace WebXClientWindow

/-- How long the quality of a window stays without being calculated again. -/
def qualityRefreshTime : Time := Time.ofMs 500

/-- A window that is found to be visible. -/
def ofVisibility (settings : WebXQualitySettings) (desiredQuality : WebXQuality)
    (visibility : WebXWindowVisibility) (now : Time) : WebXClientWindow where
  id := visibility.x11Window
  damage := .empty visibility.x11Window
  qualityHandler := .ofCoverage settings desiredQuality visibility.coverage now
  windowSize := visibility.rectangle.size
  imageRefreshTime := now
  rgbChecksum := 0
  alphaChecksum := 0
  shapeMaskChecksum := visibility.shapeMaskChecksum
  lastSentShapeMaskChecksum := visibility.shapeMaskChecksum

/-- A window that is damaged before it is known to be visible: it has no size yet. -/
def ofDamage (settings : WebXQualitySettings) (desiredQuality : WebXQuality)
    (damage : WebXWindowDamage) (now : Time) : WebXClientWindow where
  id := damage.x11Window
  damage := damage
  qualityHandler := .ofQuality settings desiredQuality now
  windowSize := ⟨0, 0⟩
  imageRefreshTime := now
  rgbChecksum := 0
  alphaChecksum := 0
  shapeMaskChecksum := 0
  lastSentShapeMaskChecksum := 0

variable (window : WebXClientWindow)

/-- Adds damage. -/
def addDamage (damage : WebXWindowDamage) : WebXClientWindow :=
  { window with damage := window.damage.add damage }

/-- Forgets the damage. -/
def resetDamage : WebXClientWindow := { window with damage := window.damage.reset }

/-- There is some damage. -/
def hasDamage : Bool := window.damage.hasDamage

/-- The damage is the full window. -/
def isFullWindowDamage : Bool := window.damage.isFullWindowOf window.windowSize

/-- The damaged area is more than a part of the area of the window. The source divides the areas with 64
bits, and compares the quotient, rounded to 32 bits, with a number of 64 bits. Over a window without area
the quotient is infinite, or not a number when there is no damaged area either. -/
def damageAreaRatioExceeds (ratio : ℚ) : Bool :=
  let damagedArea := window.damage.getDamagedArea.toInt
  let windowArea := window.windowSize.area.toInt
  if windowArea = 0 then
    0 < damagedArea
  else
    binary64.round ratio < binary32.round (binary64.round (damagedArea / windowArea))

/-- The quality at which the window is sent. -/
def getCurrentQuality : WebXQuality := window.qualityHandler.currentQuality

/-- Calculates the quality again when this was not done for a while. -/
def updateQuality (settings : WebXQualitySettings) (now : Time) : WebXClientWindow :=
  if now - window.qualityHandler.lastRefreshTime > qualityRefreshTime then
    { window with qualityHandler := window.qualityHandler.calculateQuality settings now }
  else
    window

/-- A new size. -/
def setSize (size : WebXSize) : WebXClientWindow :=
  if window.windowSize ≠ size then { window with windowSize := size } else window

/-- A new coverage. -/
def setCoverage (settings : WebXQualitySettings) (coverage : WebXWindowCoverage) (now : Time) :
    WebXClientWindow :=
  { window with qualityHandler := window.qualityHandler.setWindowCoverage settings coverage now }

/-- A new shape. -/
def setShapeMaskChecksum (shapeMaskChecksum : UInt32) : WebXClientWindow :=
  { window with shapeMaskChecksum := shapeMaskChecksum }

/-- The last image is older than a time. -/
def requiresRefresh (reference : Time) : Bool := window.imageRefreshTime < reference

/-- Takes note of what was transferred. -/
def onImageTransfer (settings : WebXQualitySettings) (transferData : WebXWindowImageTransferData)
    (now : Time) : WebXClientWindow :=
  let window : WebXClientWindow :=
    match transferData.status with
    | .fullWindow =>
        { window with
          rgbChecksum := transferData.rgbChecksum
          alphaChecksum := transferData.alphaChecksum
          imageRefreshTime := transferData.timestamp }
    | .subWindow => { window with imageRefreshTime := transferData.timestamp }
    | .ignored => window
  { window with qualityHandler := window.qualityHandler.onImageTransfer settings transferData now }

/-- The checksums of the last full image. -/
def imageChecksums : UInt32 × UInt32 := (window.rgbChecksum, window.alphaChecksum)

/-- The shape has changed since it was last sent. -/
def shapeRequiresUpdate : Bool := window.lastSentShapeMaskChecksum ≠ window.shapeMaskChecksum

/-- The shape was sent. -/
def resetShapeMaskChecksum : WebXClientWindow :=
  { window with lastSentShapeMaskChecksum := window.shapeMaskChecksum }

/-! ## What the operations leave unchanged -/

section Frame

variable (settings : WebXQualitySettings) (now : Time)

@[simp] theorem id_addDamage (damage : WebXWindowDamage) : (window.addDamage damage).id = window.id :=
  rfl

@[simp] theorem id_resetDamage : window.resetDamage.id = window.id := rfl

@[simp] theorem id_resetShapeMaskChecksum : window.resetShapeMaskChecksum.id = window.id := rfl

@[simp] theorem id_updateQuality : (window.updateQuality settings now).id = window.id := by
  unfold updateQuality
  split <;> rfl

@[simp] theorem id_setSize (size : WebXSize) : (window.setSize size).id = window.id := by
  unfold setSize
  split <;> rfl

@[simp] theorem id_onImageTransfer (transferData : WebXWindowImageTransferData) :
    (window.onImageTransfer settings transferData now).id = window.id := by
  unfold onImageTransfer
  cases transferData.status <;> rfl

@[simp] theorem damage_updateQuality : (window.updateQuality settings now).damage = window.damage := by
  unfold updateQuality
  split <;> rfl

@[simp] theorem damage_setSize (size : WebXSize) : (window.setSize size).damage = window.damage := by
  unfold setSize
  split <;> rfl

@[simp] theorem damage_onImageTransfer (transferData : WebXWindowImageTransferData) :
    (window.onImageTransfer settings transferData now).damage = window.damage := by
  unfold onImageTransfer
  cases transferData.status <;> rfl

@[simp] theorem imageChecksums_updateQuality :
    (window.updateQuality settings now).imageChecksums = window.imageChecksums := by
  unfold updateQuality
  split <;> rfl

@[simp] theorem imageChecksums_setSize (size : WebXSize) :
    (window.setSize size).imageChecksums = window.imageChecksums := by
  unfold setSize
  split <;> rfl

end Frame

end WebXClientWindow

end WebXEngine
