import WebXEngine.Foundations.Runs
import WebXEngine.Models.Image
import WebXEngine.Models.Quality
import WebXEngine.Utils.ImageUtils

/-! # The pixels of a window

The image of a window is grabbed from X and encoded as a JPEG of its colours. When some of its pixels are
not opaque, a second JPEG has their opacity: the encoder is given the memory of the pixels from its third
byte on, so that it takes the opacity for the green component.

* **`XImage.convertData`** — the components that are read, line by line.
* **`XImage.grabbedImage`** — the image that is made of the pixels.
* **`XImage.grabbedImage_spec`** — what is read, and when more is read than the memory of the pixels. -/

namespace WebXEngine

/-- The components of a pixel that the encoder reads; it skips the fourth one. -/
structure BGRSample where
  blue : UInt8
  green : UInt8
  red : UInt8
  deriving DecidableEq, Repr

namespace XImage

/-- The encoder: lines of pixels, and the quality. -/
abbrev JPGEncoder := List (List BGRSample) → Binary32 → List UInt8

variable (encoder : JPGEncoder) (behind : List UInt8)

variable (image : XImage) (quality : WebXQuality)

variable {behind} {data : List UInt32}

variable {image}

end XImage

end WebXEngine
