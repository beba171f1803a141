import WebXEngine.Models.Message
import WebXEngine.Utils.BinaryBuffer

/-! # The message encoder

The encoder of the messages sent to the clients: for each type the size of the message is calculated
first, then a buffer of this size is filled in order.

* **`create*Message`** — the size and the writes of each type.
* **`encode`** — the bytes of a message. -/

namespace WebXEngine

namespace WebXMessageEncoder

open AlignedFields WebXBinaryBuffer

/-- What the encoder takes from its surroundings: the session, the clock, the counter of the messages
encoded before, and the contents of newly allocated memory. -/
structure Context where
  sessionId : Vector UInt8 16
  timestampMs : UInt64
  messageCounter : UInt32
  freshMemory : (size : ℕ) → Vector UInt8 size

/-- The members of the header structure, in memory order. -/
def headerFields (ctx : Context) (clientIndexMask : UInt64) (messageTypeId : UInt32)
    (bufferLength : ℕ) : List Field :=
  [.raw ctx.sessionId.toList, .scalar 8 clientIndexMask.toNat, .scalar 8 ctx.timestampMs.toNat,
    .scalar 4 messageTypeId.toNat, .scalar 4 (ctx.messageCounter + 1).toNat, .scalar 4 bufferLength]

/-- The constructor used to write a message: the memory is allocated, the header is filled in and
both cursors are placed behind it. -/
def ofMessage (ctx : Context) (message : WebXMessage) (dataSize : ℕ) :
    Except Fault WebXBinaryBuffer :=
  if dataSize < messageHeaderSize then
    .error .outOfBounds
  else
    .ok {
      bufferContent := place (ctx.freshMemory dataSize).toList 0
        (headerFields ctx message.clientIndexMask message.type.code dataSize)
      bufferLength := dataSize % uint32Size
      writeOffset := messageHeaderSize
      readOffset := messageHeaderSize }

/-- Allocates a buffer, fills it and returns its bytes. -/
def produce (ctx : Context) (message : WebXMessage) (dataSize : ℕ) (content : BufferM Unit) :
    Except Fault (List UInt8) := do
  let buffer ← ofMessage ctx message dataSize
  match content buffer with
  | .ok _ buffer => .ok buffer.bufferContent
  | .error fault _ => .error fault

/-- A buffer that is filled without a fault gives its memory. -/
theorem produce_of_ok {ctx : Context} {message : WebXMessage} {dataSize : ℕ}
    {content : BufferM Unit} {buffer filled : WebXBinaryBuffer}
    (hbuffer : ofMessage ctx message dataSize = .ok buffer)
    (hcontent : content buffer = .ok () filled) :
    produce ctx message dataSize content = .ok filled.bufferContent := by
  rw [produce, hbuffer]
  show (match content buffer with
    | .ok _ buffer => Except.ok buffer.bufferContent
    | .error fault _ => .error fault) = _
  rw [hcontent]

/-- `strncpy` into four zeroed characters. -/
def imageTypeChars (extension : List UInt8) : List UInt8 :=
  extension.take 4 ++ List.replicate (4 - extension.length) 0

/-! ## Sizes

The sizes calculated before the writes, on 64 bits unless a comment says otherwise. -/

/-- The size of a sub-image: its eight words, its data, and the bytes that align what follows. -/
def subImageDataSize (image : WebXImage) : ℕ :=
  let alignmentOverflow := (image.getRawDataSize + image.getAlphaDataSize) % 4
  image.getRawDataSize + image.getAlphaDataSize
    + if alignmentOverflow ≠ 0 then 4 - alignmentOverflow else 0

def cursorImageDataSize (image : WebXImage) : ℕ := messageHeaderSize + 28 + image.getRawDataSize

def imageDataSize (image : Option WebXImage) : ℕ :=
  messageHeaderSize + 24 + image.elim 0 WebXImage.getRawDataSize
    + image.elim 0 WebXImage.getAlphaDataSize

def screenDataSize (keyboardLayoutName : List UInt8) : ℕ :=
  messageHeaderSize + 36 + keyboardLayoutName.length

/-- The number of images, and what is calculated from it, are numbers on 32 bits. -/
def subImagesDataSize (images : List WebXImage) : ℕ :=
  (messageHeaderSize + 12 + images.length % uint32Size * 32) % uint32Size
    + (images.map subImageDataSize).sum

def windowsDataSize (windows shapedWindows : List WebXWindowProperties) : ℕ :=
  messageHeaderSize + 4 + (4 + windows.length * 20) + (4 + shapedWindows.length * 4)

def shapeDataSize (shape : Option WebXImage) : ℕ :=
  messageHeaderSize + 16 + shape.elim 0 WebXImage.getRawDataSize

def stringDataSize (s : List UInt8) : ℕ := messageHeaderSize + 4 + s.length

/-! ## Contents -/

/-- Writes an unsigned number on 32 bits. -/
def writeUInt32 (value : UInt32) : BufferM Unit := write 4 value.toNat

/-- Writes a signed number on 32 bits. -/
def writeInt32 (value : Int32) : BufferM Unit := write 4 value.toUInt32.toNat

/-- Writes a single precision number. -/
def writeFloat (value : Binary32) : BufferM Unit := write 4 value.bits.toNat

/-- Writes a size, of which 32 bits are kept. -/
def writeSize (value : ℕ) : BufferM Unit := write 4 value

/-- Appends alpha data, when there is any. -/
def appendAlpha (image : WebXImage) : BufferM Unit :=
  if image.getAlphaDataSize ≠ 0 then append image.getAlphaData else return ()

def writeCursorImage (commandId : UInt32) (x y xhot yhot : Int32) (cursorId : UInt32)
    (mouseCursorImage : WebXImage) : BufferM Unit := do
  writeUInt32 commandId
  writeInt32 x
  writeInt32 y
  writeInt32 xhot
  writeInt32 yhot
  writeUInt32 cursorId
  writeSize mouseCursorImage.getRawDataSize
  append mouseCursorImage.rawData

/-- A null image is sent as an image of depth 0, of empty type and without data. -/
def writeImage (commandId windowId : UInt32) (image : Option WebXImage) : BufferM Unit := do
  writeUInt32 commandId
  writeUInt32 windowId
  writeUInt32 (image.elim 0 WebXImage.depth)
  append (imageTypeChars (image.elim [] WebXImage.getFileExtension))
  writeSize (image.elim 0 WebXImage.getRawDataSize)
  writeSize (image.elim 0 WebXImage.getAlphaDataSize)
  match image with
  | some image => do
      append image.rawData
      appendAlpha image
  | none => return ()

def writeMouse (commandId : UInt32) (x y : Int32) (cursorId : UInt32) : BufferM Unit := do
  writeUInt32 commandId
  writeInt32 x
  writeInt32 y
  writeUInt32 cursorId

def writeScreen (commandId : UInt32) (screenWidth screenHeight maxQualityIndex : Int32)
    (engineVersion : WebXVersion) (canResizeScreen : Bool) (keyboardLayoutName : List UInt8) :
    BufferM Unit := do
  writeUInt32 commandId
  writeInt32 screenWidth
  writeInt32 screenHeight
  writeInt32 maxQualityIndex
  writeUInt32 engineVersion.major
  writeUInt32 engineVersion.minor
  writeUInt32 engineVersion.patch
  writeSize canResizeScreen.toNat
  writeSize keyboardLayoutName.length
  append keyboardLayoutName

def writeSubImage (subImage : WebXSubImage) (image : WebXImage) : BufferM Unit := do
  writeInt32 subImage.x
  writeInt32 subImage.y
  writeInt32 subImage.width
  writeInt32 subImage.height
  writeUInt32 image.depth
  append (imageTypeChars image.getFileExtension)
  writeSize image.getRawDataSize
  writeSize image.getAlphaDataSize
  append image.rawData
  appendAlpha image

def writeSubImages (commandId windowId : UInt32) (images : List (WebXSubImage × WebXImage)) :
    BufferM Unit := do
  writeUInt32 commandId
  writeUInt32 windowId
  writeSize images.length
  images.forM fun subImage => writeSubImage subImage.1 subImage.2

def writeWindow (window : WebXWindowProperties) : BufferM Unit := do
  writeUInt32 window.id
  writeInt32 window.x
  writeInt32 window.y
  writeInt32 window.width
  writeInt32 window.height

def writeWindows (commandId : UInt32) (windows shapedWindows : List WebXWindowProperties) :
    BufferM Unit := do
  writeUInt32 commandId
  writeSize windows.length
  windows.forM writeWindow
  writeSize shapedWindows.length
  shapedWindows.forM fun window => writeUInt32 window.id

def writeQuality (quality : WebXQuality) : BufferM Unit := do
  writeSize quality.index
  writeFloat quality.imageFPS
  writeFloat quality.rgbQuality
  writeFloat quality.alphaQuality
  writeFloat quality.maxMbps

def writeString (s : List UInt8) : BufferM Unit := do
  writeSize s.length
  append s

def writeShape (commandId windowId : UInt32) (shape : Option WebXImage) : BufferM Unit := do
  writeUInt32 commandId
  writeUInt32 windowId
  append (imageTypeChars (shape.elim [] WebXImage.getFileExtension))
  writeSize (shape.elim 0 WebXImage.getRawDataSize)
  match shape with
  | some shape => append shape.rawData
  | none => return ()

def writeScreenSize (screenWidth screenHeight : Int32) : BufferM Unit := do
  writeInt32 screenWidth
  writeInt32 screenHeight

/-! ## Messages -/

section Messages

variable (ctx : Context) (message : WebXMessage)

def createCursorImageMessage (x y xhot yhot : Int32) (cursorId : UInt32)
    (mouseCursorImage : Option WebXImage) : Except Fault (List UInt8) :=
  match mouseCursorImage with
  | none => .error .nullDereference
  | some image =>
      produce ctx message (cursorImageDataSize image)
        (writeCursorImage message.commandId x y xhot yhot cursorId image)

def createImageMessage (windowId : UInt32) (image : Option WebXImage) :
    Except Fault (List UInt8) :=
  produce ctx message (imageDataSize image) (writeImage message.commandId windowId image)

def createMouseMessage (x y : Int32) (cursorId : UInt32) : Except Fault (List UInt8) :=
  produce ctx message (messageHeaderSize + 16) (writeMouse message.commandId x y cursorId)

def createScreenMessage (screenWidth screenHeight maxQualityIndex : Int32)
    (engineVersion : WebXVersion) (canResizeScreen : Bool) (keyboardLayoutName : List UInt8) :
    Except Fault (List UInt8) :=
  produce ctx message (screenDataSize keyboardLayoutName)
    (writeScreen message.commandId screenWidth screenHeight maxQualityIndex engineVersion
      canResizeScreen keyboardLayoutName)

/-- The sub-images with their image objects, when none of these is null. -/
def imagesOf : List WebXSubImage → Option (List (WebXSubImage × WebXImage))
  | [] => some []
  | subImage :: images => do return (subImage, ← subImage.image) :: (← imagesOf images)

def createSubImagesMessage (windowId : UInt32) (images : List WebXSubImage) :
    Except Fault (List UInt8) :=
  match imagesOf images with
  | none => .error .nullDereference
  | some images =>
      produce ctx message (subImagesDataSize (images.map Prod.snd))
        (writeSubImages message.commandId windowId images)

def createWindowsMessage (windows : List WebXWindowProperties) : Except Fault (List UInt8) :=
  let shapedWindows := windows.filter WebXWindowProperties.hasShape
  produce ctx message (windowsDataSize windows shapedWindows)
    (writeWindows message.commandId windows shapedWindows)

def createPingMessage : Except Fault (List UInt8) :=
  produce ctx message messageHeaderSize (return ())

def createDisconnectMessage : Except Fault (List UInt8) :=
  produce ctx message messageHeaderSize (return ())

def createQualityMessage (quality : WebXQuality) : Except Fault (List UInt8) :=
  produce ctx message (messageHeaderSize + 20) (writeQuality quality)

def createClipboardMessage (clipboardContent : List UInt8) : Except Fault (List UInt8) :=
  produce ctx message (stringDataSize clipboardContent) (writeString clipboardContent)

def createShapeMessage (windowId : UInt32) (shape : Option WebXImage) :
    Except Fault (List UInt8) :=
  produce ctx message (shapeDataSize shape) (writeShape message.commandId windowId shape)

def createScreenResizeMessage (screenWidth screenHeight : Int32) : Except Fault (List UInt8) :=
  produce ctx message (messageHeaderSize + 8) (writeScreenSize screenWidth screenHeight)

def createKeyboardLayoutMessage (keyboardLayoutName : List UInt8) : Except Fault (List UInt8) :=
  produce ctx message (stringDataSize keyboardLayoutName) (writeString keyboardLayoutName)

/-- Encodes a message. -/
def encode : Except Fault (List UInt8) :=
  match message.content with
  | .windows _ windows => createWindowsMessage ctx message windows
  | .image _ windowId image => createImageMessage ctx message windowId image
  | .screen _ screenWidth screenHeight maxQualityIndex engineVersion canResizeScreen
      keyboardLayoutName =>
      createScreenMessage ctx message screenWidth screenHeight maxQualityIndex engineVersion
        canResizeScreen keyboardLayoutName
  | .subimages windowId images => createSubImagesMessage ctx message windowId images
  | .mouse x y cursorId => createMouseMessage ctx message x y cursorId
  | .cursorImage _ x y xhot yhot cursorId mouseCursorImage =>
      createCursorImageMessage ctx message x y xhot yhot cursorId mouseCursorImage
  | .ping => createPingMessage ctx message
  | .disconnect => createDisconnectMessage ctx message
  | .quality quality => createQualityMessage ctx message quality
  | .clipboard clipboardContent => createClipboardMessage ctx message clipboardContent
  | .shape _ windowId shape => createShapeMessage ctx message windowId shape
  | .screenResize screenWidth screenHeight =>
      createScreenResizeMessage ctx message screenWidth screenHeight
  | .keyboardLayout keyboardLayoutName =>
      createKeyboardLayoutMessage ctx message keyboardLayoutName

end Messages

end WebXMessageEncoder

end WebXEngine
