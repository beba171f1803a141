import WebXEngine.Controller.ClientGroup
import WebXEngine.Display.Display
import WebXEngine.Models.Settings

/-! # The images of the windows

What the controller does when the registry of the clients gives it a window that has something to
send: it sends the shape of the window when this has changed, and then the full window or the damaged
parts of it.

* **`WebXDisplay.getImage`** — an image of a window is grabbed; it may be null.
* **`verifyImageUpdate`** — an image with the same colours as the last full image is not sent.
* **`updateClientWindow`** — the handler of the controller. -/

namespace WebXEngine

open FloatFormat (binary32 binary64)

/-- What the server does while an image of a window is grabbed: it answers the query of the
attributes or fails to write them, and grabs the pixels or does not. The pixels are encoded with the
quality of the window. -/
structure GrabAnswer where
  status : Bool
  attributes : XWindowAttributes
  image : Option WebXImage
  deriving DecidableEq, Repr

namespace WebXDisplay

variable (display : WebXDisplay)

/-- Grabs a window, or the part of it that is in a rectangle. No image is the null pointer. -/
def grabWindow (x11Window : UInt32) (imageRectangle : Option WebXRectangle) (answer : GrabAnswer) :
    Except Fault (Option WebXImage × WebXDisplay) := do
  let display ← display.updateAttributes x11Window answer.attributes
  if answer.status then
    let window ← display.deref x11Window
    let rectangle := WebXRectangle.ofSize 0 0 window.rectangle.size.width window.rectangle.size.height
    if imageRectangle.all rectangle.contains then
      return (answer.image, display)
    else
      return (none, display)
  else
    return (none, display)

/-- Grabs a window when it is visible. -/
def getImage (x11Window : UInt32) (imageRectangle : Option WebXRectangle) (answer : GrabAnswer) :
    Except Fault (Option WebXImage × WebXDisplay) :=
  display.callIfWindowVisible x11Window (none, display)
    (display.grabWindow x11Window imageRectangle answer)

/-- The mask of a visible window that is not a rectangle. -/
def getWindowShapeMask (x11Window : UInt32) (shape : XWindowShape) :
    Except Fault (Option WebXImage × WebXDisplay) :=
  display.callIfWindowVisible x11Window (none, display) do
    let display ← display.modifyWindow x11Window (WebXWindow.updateShape shape)
    let window ← display.deref x11Window
    return (if window.hasShape then window.shape.shapeMask else none, display)

end WebXDisplay

namespace WebXController

/-- The outcome of the verification of an image. -/
structure WebXImageUpdateVerification where
  rgbChecksum : UInt32
  alphaChecksum : UInt32
  hasChanged : Bool
  deriving DecidableEq, Repr

/-- Compares an image with the last full image that was sent: it has changed when its colours have.
The alpha data are removed from it when they have not changed. -/
def verifyImageUpdate (settings : WebXSettings) (checksum : List UInt8 → UInt32) (image : WebXImage)
    (window : WebXClientWindow) : WebXImage × WebXImageUpdateVerification :=
  if settings.controller.imageChecksumEnabled then
    let (image, rgbChecksum) := image.calculateImageChecksum checksum
    let (image, alphaChecksum) := image.calculateAlphaChecksum checksum
    if rgbChecksum ≠ window.rgbChecksum then
      let image := if alphaChecksum = window.alphaChecksum then image.removeAlpha.1 else image
      (image, ⟨rgbChecksum, alphaChecksum, true⟩)
    else
      (image, ⟨rgbChecksum, alphaChecksum, false⟩)
  else
    (image, ⟨0, 0, true⟩)

/-- What the handler changes: the display, and the messages that were sent. -/
structure UpdateState where
  display : WebXDisplay
  sent : List WebXMessage

/-- What the server answers while a window is handled: the image grabbed at each time, and its
shape. -/
structure UpdateAnswers where
  grabs : ℕ → GrabAnswer
  shape : XWindowShape

section Handler

variable (settings : WebXSettings) (checksum : List UInt8 → UInt32) (answers : UpdateAnswers)
  (now : Time) (window : WebXClientWindow) (clientIndexMask : UInt64)

/-- Adds a size to a total in kilobytes: with 64 bits, and rounded to 32 bits. -/
def addSizeKB (totalKB : ℚ) (bytes : ℕ) : ℚ :=
  binary32.round (binary64.round (totalKB + binary64.round (binary64.round bytes / 1024)))

/-- A size in kilobytes. -/
def sizeKB (bytes : ℕ) : ℚ := binary32.round (binary64.round (binary64.round bytes / 1024))

/-- Sends the shape of a window that has changed. -/
def updateShape (state : UpdateState) : Except Fault UpdateState :=
  if window.shapeRequiresUpdate then do
    let (shape, display) ← state.display.getWindowShapeMask window.id answers.shape
    let sent :=
      if shape.isSome then
        state.sent ++ [⟨clientIndexMask, .shape WebXMessage.noCommandId window.id shape⟩]
      else
        state.sent
    return { display, sent }
  else
    return state

/-- Nothing was sent. -/
def ignoredData : WebXWindowImageTransferData := ⟨window.id, now, 0, 0, 0, .ignored⟩

/-- Sends the full window, when it could be grabbed and has changed. -/
def updateFullWindow (state : UpdateState) :
    Except Fault (WebXWindowImageTransferData × UpdateState) := do
  let (image, display) ← state.display.getImage window.id none (answers.grabs 0)
  match image with
  | none => return (ignoredData now window, { state with display })
  | some image =>
      let (image, verification) := verifyImageUpdate settings checksum image window
      if verification.hasChanged then
        let message : WebXMessage :=
          ⟨clientIndexMask, .image WebXMessage.noCommandId window.id (some image)⟩
        return (⟨window.id, now, sizeKB image.getFullDataSize, verification.rgbChecksum,
            verification.alphaChecksum, .fullWindow⟩,
          { display, sent := state.sent ++ [message] })
      else
        return (ignoredData now window, { state with display })

/-- A part of the image of a window. -/
def subImageOf (area : WebXRectangle) (image : WebXImage) : WebXSubImage where
  x := .ofInt area.x
  y := .ofInt area.y
  width := .ofInt area.size.width
  height := .ofInt area.size.height
  image := some image

/-- The loop over the damaged areas: those that could be grabbed, with their images. -/
def grabSubImages (x11Window : UInt32) (grabs : ℕ → GrabAnswer) :
    List WebXRectangle → WebXDisplay → Except Fault (List (WebXRectangle × WebXImage) × WebXDisplay)
  | [], display => return ([], display)
  | area :: areas, display => do
      let (image, display) ← display.getImage x11Window (some area) (grabs 0)
      let (subImages, display) ← grabSubImages x11Window (fun k => grabs (k + 1)) areas display
      return ((image.toList.map fun image => (area, image)) ++ subImages, display)

/-- Sends the damaged areas that could be grabbed. -/
def updateSubWindow (state : UpdateState) :
    Except Fault (WebXWindowImageTransferData × UpdateState) := do
  let (subImages, display) ←
    grabSubImages window.id answers.grabs window.damage.damageAreas state.display
  if subImages.length > 0 then
    let totalSubImagesSizeKB := subImages.foldl
      (fun totalKB subImage => addSizeKB totalKB subImage.2.getFullDataSize) 0
    let message : WebXMessage :=
      ⟨clientIndexMask, .subimages window.id
        (subImages.map fun subImage => subImageOf subImage.1 subImage.2)⟩
    return (⟨window.id, now, totalSubImagesSizeKB, 0, 0, .subWindow⟩,
      { display, sent := state.sent ++ [message] })
  else
    return (ignoredData now window, { state with display })

/-- The window is sent as a whole: most of it is damaged. -/
def updatesFullWindow : Bool :=
  window.isFullWindowDamage || window.damageAreaRatioExceeds (9 / 10)

/-- What the controller does with a window that has something to send. -/
def updateClientWindow (state : UpdateState) :
    Except Fault (WebXWindowImageTransferData × UpdateState) := do
  let state ← updateShape answers window clientIndexMask state
  if updatesFullWindow window then
    updateFullWindow settings checksum answers now window clientIndexMask state
  else
    updateSubWindow answers now window clientIndexMask state

end Handler

/-- The handler that the controller gives to the registry; a fault ends the engine. -/
def updateHandler (settings : WebXSettings) (checksum : List UInt8 → UInt32)
    (answers : UInt32 → UpdateAnswers) (now : Time) : UpdateHandler (Except Fault UpdateState) :=
  fun window clientIndexMask state =>
    match state >>= updateClientWindow settings checksum (answers window.id) now window
      clientIndexMask with
    | .ok (transferData, state) => (.ok transferData, .ok state)
    | .error fault => (.error "", .error fault)

section Handler

variable {settings : WebXSettings} {checksum : List UInt8 → UInt32} {now : Time}
  {window : WebXClientWindow} {clientIndexMask : UInt64} {state after : UpdateState}

/-- The registry gets the data of the transfer. -/
theorem updateHandler_of_ok (answers : UInt32 → UpdateAnswers)
    {transferData : WebXWindowImageTransferData}
    (h : updateClientWindow settings checksum (answers window.id) now window clientIndexMask state =
      .ok (transferData, after)) :
    updateHandler settings checksum answers now window clientIndexMask (.ok state) =
      (.ok transferData, .ok after) := by
  unfold updateHandler
  rw [show (Except.ok state >>= updateClientWindow settings checksum (answers window.id) now window
    clientIndexMask) = .ok (transferData, after) from h]

/-- The registry goes on after a fault, which is kept. -/
theorem updateHandler_of_error (answers : UInt32 → UpdateAnswers) {fault : Fault}
    (h : updateClientWindow settings checksum (answers window.id) now window clientIndexMask state =
      .error fault) :
    updateHandler settings checksum answers now window clientIndexMask (.ok state) =
      (.error "", .error fault) := by
  unfold updateHandler
  rw [show (Except.ok state >>= updateClientWindow settings checksum (answers window.id) now window
    clientIndexMask) = .error fault from h]

end Handler

end WebXController

end WebXEngine
