import Mathlib.Data.Nat.Notation

/-! # Images

The encoded images sent to the clients: the colour data, and the alpha data of the images that have
an alpha channel. -/

namespace WebXEngine

/-- The image formats. -/
inductive WebXImageType
  | png
  | jpg
  | webp
  deriving DecidableEq, Repr

/-- An encoded image. The checksums are kept once they have been calculated, 0 standing for a
checksum that has not been. -/
structure WebXImage where
  type : WebXImageType
  width : UInt32
  height : UInt32
  rawData : List UInt8
  alphaData : Option (List UInt8)
  rawChecksum : UInt32
  alphaChecksum : UInt32
  depth : UInt32
  deriving DecidableEq, Repr

namespace WebXImage

/-- The file extension of the format. -/
def getFileExtension (image : WebXImage) : List UInt8 :=
  match image.type with
  | .png => [112, 110, 103]
  | .jpg => [106, 112, 103]
  | .webp => [119, 101, 98, 112]

/-- The number of bytes of the colour data. -/
def getRawDataSize (image : WebXImage) : ℕ := image.rawData.length

/-- The alpha data, empty when there is none. -/
def getAlphaData (image : WebXImage) : List UInt8 := image.alphaData.getD []

/-- The number of bytes of the alpha data. -/
def getAlphaDataSize (image : WebXImage) : ℕ := image.getAlphaData.length

/-- The number of bytes of both. -/
def getFullDataSize (image : WebXImage) : ℕ := image.getRawDataSize + image.getAlphaDataSize

/-- Drops the alpha data, and says whether there was any. -/
def removeAlpha (image : WebXImage) : WebXImage × Bool :=
  match image.alphaData with
  | some _ => ({ image with alphaData := none }, true)
  | none => (image, false)

section Checksums

variable (checksum : List UInt8 → UInt32)

/-- The checksum of the colour data; it is calculated once. -/
def calculateImageChecksum (image : WebXImage) : WebXImage × UInt32 :=
  if image.rawChecksum = 0 then
    ({ image with rawChecksum := checksum image.rawData }, checksum image.rawData)
  else
    (image, image.rawChecksum)

/-- The checksum of the alpha data, 0 when there is none; it is calculated once. -/
def calculateAlphaChecksum (image : WebXImage) : WebXImage × UInt32 :=
  match image.alphaData with
  | some alphaData =>
      if image.alphaChecksum = 0 then
        ({ image with alphaChecksum := checksum alphaData }, checksum alphaData)
      else
        (image, image.alphaChecksum)
  | none => (image, image.alphaChecksum)

end Checksums

end WebXImage

end WebXEngine
