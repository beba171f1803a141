import WebXEngine.Models.Quality

/-! # Settings

The settings that the controller reads: those of the events, of the quality and of the controller
itself. -/

namespace WebXEngine

/-- The function that gives a quality for the coverage of a window. -/
inductive CoverageQualityFunc
  | disabled
  | linear
  | quadratic
  deriving DecidableEq, Repr

/-- The settings of the quality; setting the largest index bounds it to the table. -/
structure WebXQualitySettings where
  increaseQualityOnMouseOver : Bool
  coverageQualityFunc : CoverageQualityFunc
  limitQualityByDataRate : Bool
  runtimeMaxQualityIndex : ℤ
  deriving DecidableEq, Repr

/-- The bounded largest index. -/
def WebXQualitySettings.max (settings : WebXQualitySettings) : RuntimeMaxQuality :=
  RuntimeMaxQuality.setRuntimeMaxQualityIndex settings.runtimeMaxQualityIndex

/-- The settings of the controller. -/
structure WebXControllerSettings where
  imageChecksumEnabled : Bool
  clientPingResponseTimeoutMs : ℤ
  deriving DecidableEq, Repr

/-- The settings of the events. -/
structure WebXEventSettings where
  filterDamageAfterConfigureNotify : Bool
  deriving DecidableEq, Repr

/-- The settings of the engine. -/
structure WebXSettings where
  event : WebXEventSettings
  controller : WebXControllerSettings
  quality : WebXQualitySettings
  deriving DecidableEq, Repr

/-- The settings of an engine that is started without any configuration. -/
def WebXSettings.default : WebXSettings where
  event := { filterDamageAfterConfigureNotify := true }
  controller := { imageChecksumEnabled := false, clientPingResponseTimeoutMs := 15000 }
  quality :=
    { increaseQualityOnMouseOver := true
      coverageQualityFunc := .quadratic
      limitQualityByDataRate := true
      runtimeMaxQualityIndex := 12 }

end WebXEngine
