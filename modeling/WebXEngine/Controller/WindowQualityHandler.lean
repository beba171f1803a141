import WebXEngine.Models.Settings
import WebXEngine.Models.WindowUpdate

/-! # The quality of a window

The quality at which a window is sent to a group of clients, from the coverage of the window and from
the data rate of the images sent for it. The rate is measured in floating point numbers; coverages are
exact rational numbers. -/

namespace WebXEngine

/-- The quality handler of a window. -/
structure WebXWindowQualityHandler where
  desiredQuality : WebXQuality
  coverage : WebXWindowCoverage
  coverageQuality : WebXQuality
  imageMbpsQuality : WebXQuality
  currentQuality : WebXQuality
  dataPoints : List WebXTransferData
  imageMbps : Option ℚ
  imageMbpsInitTime : Time
  lastRefreshTime : Time
  deriving DecidableEq, Repr

namespace WebXWindowQualityHandler

/-- How long data points are kept. -/
def dataRetentionTime : Time := Time.ofMs 4000

/-- How long after the last change the rate of a window without images is 0, in milliseconds. -/
def noRecentWindowUpdateTimeMs : ℚ := 2000

/-- How long a rate has to be measured, in milliseconds. -/
def timeForValidImageKbpsMs : ℚ := 2000

/-- A handler for a window whose coverage is not known. -/
def ofQuality (settings : WebXQualitySettings) (desiredQuality : WebXQuality) (now : Time) :
    WebXWindowQualityHandler where
  desiredQuality := desiredQuality
  coverage := ⟨0, false⟩
  coverageQuality := settings.max.maxQuality
  imageMbpsQuality := settings.max.maxQuality
  currentQuality := desiredQuality
  dataPoints := []
  imageMbps := none
  imageMbpsInitTime := now
  lastRefreshTime := now

/-- A change of quality restarts the measure of the rate. -/
def setCurrentQuality (handler : WebXWindowQualityHandler) (quality : WebXQuality) (now : Time) :
    WebXWindowQualityHandler :=
  if handler.currentQuality.index ≠ quality.index then
    { handler with currentQuality := quality, dataPoints := [], imageMbpsInitTime := now }
  else
    handler

/-- The rate measured over the recent data points, when it is valid. -/
def calculateImageMbps (handler : WebXWindowQualityHandler) (now : Time) :
    WebXWindowQualityHandler × Option ℚ :=
  let dataPoints := handler.dataPoints.filter fun dataPoint =>
    ¬ now - dataPoint.timestamp > dataRetentionTime
  let imageMbps : Option ℚ :=
    match dataPoints with
    | first :: _ =>
        let duration := now - first.timestamp
        if duration.toFloatMs > timeForValidImageKbpsMs then
          some (WebXTransferData.imageMbps dataPoints duration)
        else
          none
    | [] =>
        if Time.toFloatMs (now - handler.imageMbpsInitTime) > noRecentWindowUpdateTimeMs then some 0
        else none
  ({ handler with dataPoints := dataPoints }, imageMbps)

/-- Calculates the rate, and the current quality from it. -/
def calculateQuality (settings : WebXQualitySettings) (handler : WebXWindowQualityHandler)
    (now : Time) : WebXWindowQualityHandler :=
  let measured := handler.calculateImageMbps now
  let handler := { measured.1 with imageMbps := measured.2 }
  let handler :=
    if settings.limitQualityByDataRate then
      match handler.imageMbps with
      | some imageMbps =>
          -- a window with a low rate keeps the desired quality
          let quality :=
            if handler.coverageQuality.maxMbps.toRat < imageMbps then
              handler.coverageQuality
            else
              handler.desiredQuality
          let imageMbpsQuality :=
            settings.max.qualityForImageMbps imageMbps quality handler.currentQuality
          setCurrentQuality { handler with imageMbpsQuality := imageMbpsQuality } imageMbpsQuality now
      | none => handler
    else
      handler.setCurrentQuality handler.desiredQuality now
  { handler with lastRefreshTime := now }

/-- The quality for a coverage; the source takes the linear function unless it is the one that is
asked for. -/
def qualityForCoverage (settings : WebXQualitySettings) (coverage : WebXWindowCoverage) :
    WebXQuality :=
  let qualityForImageCoverage :=
    if settings.coverageQualityFunc ≠ .linear then
      settings.max.qualityForImageCoverageLinear coverage.coverage
    else
      settings.max.qualityForImageCoverageQuadratic coverage.coverage
  if settings.increaseQualityOnMouseOver then
    if coverage.mouseOver then settings.max.maxQuality else qualityForImageCoverage
  else
    qualityForImageCoverage

/-- A new coverage: a window that becomes fully visible gets the desired quality at once. -/
def setWindowCoverage (settings : WebXQualitySettings) (handler : WebXWindowQualityHandler)
    (coverage : WebXWindowCoverage) (now : Time) : WebXWindowQualityHandler :=
  if handler.coverage ≠ coverage then
    let handler := { handler with coverage := coverage }
    let handler :=
      if settings.coverageQualityFunc ≠ .disabled then
        let coverageQuality := qualityForCoverage settings coverage
        let handler :=
          if coverageQuality.index = settings.max.maxQuality.index ∧
              (coverageQuality.index : ℤ) - handler.coverageQuality.index > 2 then
            handler.setCurrentQuality handler.desiredQuality now
          else
            handler
        { handler with coverageQuality := coverageQuality }
      else
        handler
    handler.calculateQuality settings now
  else
    handler

/-- A handler for a window whose coverage is known. -/
def ofCoverage (settings : WebXQualitySettings) (desiredQuality : WebXQuality)
    (coverage : WebXWindowCoverage) (now : Time) : WebXWindowQualityHandler :=
  (ofQuality settings desiredQuality now).setWindowCoverage settings coverage now

/-- A transfer is one more data point. -/
def onImageTransfer (settings : WebXQualitySettings) (handler : WebXWindowQualityHandler)
    (transferData : WebXWindowImageTransferData) (now : Time) : WebXWindowQualityHandler :=
  if transferData.status ≠ .ignored then
    calculateQuality settings
      { handler with dataPoints := handler.dataPoints ++ [⟨now, transferData.imageSizeKB⟩] } now
  else
    handler

end WebXWindowQualityHandler

end WebXEngine
