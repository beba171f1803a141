import WebXEngine.Foundations.FieldReader
import WebXEngine.Transport.MessageEncoder
import Mathlib.Algebra.Order.BigOperators.Group.List

/-! # The format of the messages

The layout of the messages as it is documented, a reader of this layout, and what the encoder
produces.

* **`layout`** — the documented fields of a content.
* **`readMessage`** — the reader of the documented layout; it knows nothing of the encoder.
* **`writes_content`**, **`dataSize_eq`** — the encoder writes the documented fields, and calculates
  the size they take.
* **`reads_content`** — the reader finds the documented fields. -/

namespace WebXEngine

namespace MessageFormat

open AlignedFields WebXBinaryBuffer WebXMessageEncoder

/-! ## Documented contents -/

/-- A window as documented. -/
structure DocumentedWindow where
  id : UInt32
  x : Int32
  y : Int32
  width : Int32
  height : Int32
  deriving DecidableEq, Repr

/-- A sub-image as documented. -/
structure DocumentedSubImage where
  x : Int32
  y : Int32
  width : Int32
  height : Int32
  depth : UInt32
  imageType : List UInt8
  imageData : List UInt8
  alphaData : List UInt8
  deriving DecidableEq, Repr

/-- What the documentation lists for the content of each type. -/
inductive DocumentedContent
  | windows (commandId : UInt32) (windows : List DocumentedWindow) (shapedWindows : List UInt32)
  | image (commandId windowId depth : UInt32) (imageType imageData alphaData : List UInt8)
  | screen (commandId : UInt32) (screenWidth screenHeight maxQualityIndex : Int32)
      (engineVersion : WebXVersion) (canResizeScreen : Bool) (keyboardLayoutName : List UInt8)
  | subimages (commandId windowId : UInt32) (images : List DocumentedSubImage)
  | mouse (commandId : UInt32) (x y : Int32) (cursorId : UInt32)
  | cursorImage (commandId : UInt32) (x y xhot yhot : Int32) (cursorId : UInt32)
      (imageData : List UInt8)
  | ping
  | disconnect
  | quality (index : ℕ) (imageFPS rgbQuality alphaQuality maxMbps : Binary32)
  | clipboard (clipboardContent : List UInt8)
  | shape (commandId windowId : UInt32) (imageType stencilData : List UInt8)
  | screenResize (screenWidth screenHeight : Int32)
  | keyboardLayout (keyboardLayoutName : List UInt8)
  deriving DecidableEq, Repr

/-- A whole message as documented. -/
structure DocumentedMessage where
  sessionId : List UInt8
  clientIndexMask : UInt64
  timestampMs : UInt64
  type : WebXMessageType
  id : UInt32
  length : ℕ
  content : DocumentedContent
  deriving DecidableEq, Repr

/-- The documented part of a window. -/
def documentedWindow (window : WebXWindowProperties) : DocumentedWindow :=
  ⟨window.id, window.x, window.y, window.width, window.height⟩

/-- The documented part of a sub-image. -/
def documentedSubImage (subImage : WebXSubImage) (image : WebXImage) : DocumentedSubImage :=
  ⟨subImage.x, subImage.y, subImage.width, subImage.height, image.depth, image.getFileExtension,
    image.rawData, image.getAlphaData⟩

/-- The sub-images of a content, with their image objects. -/
def subImages (images : List WebXSubImage) : List (WebXSubImage × WebXImage) :=
  (imagesOf images).getD []

/-- The documented part of a content; a null image has depth 0, an empty type and no data. -/
def documentedContent (content : WebXMessage.Content) : DocumentedContent :=
  match content with
  | .windows commandId windows =>
      .windows commandId (windows.map documentedWindow)
        ((windows.filter WebXWindowProperties.hasShape).map WebXWindowProperties.id)
  | .image commandId windowId image =>
      .image commandId windowId (image.elim 0 WebXImage.depth)
        (image.elim [] WebXImage.getFileExtension) (image.elim [] WebXImage.rawData)
        (image.elim [] WebXImage.getAlphaData)
  | .screen commandId screenWidth screenHeight maxQualityIndex engineVersion canResizeScreen
      keyboardLayoutName =>
      .screen commandId screenWidth screenHeight maxQualityIndex engineVersion canResizeScreen
        keyboardLayoutName
  | .subimages windowId images =>
      .subimages content.commandId windowId
        ((subImages images).map fun subImage => documentedSubImage subImage.1 subImage.2)
  | .mouse x y cursorId => .mouse content.commandId x y cursorId
  | .cursorImage commandId x y xhot yhot cursorId mouseCursorImage =>
      .cursorImage commandId x y xhot yhot cursorId (mouseCursorImage.elim [] WebXImage.rawData)
  | .ping => .ping
  | .disconnect => .disconnect
  | .quality quality =>
      .quality quality.index quality.imageFPS quality.rgbQuality quality.alphaQuality
        quality.maxMbps
  | .clipboard clipboardContent => .clipboard clipboardContent
  | .shape commandId windowId shape =>
      .shape commandId windowId (shape.elim [] WebXImage.getFileExtension)
        (shape.elim [] WebXImage.rawData)
  | .screenResize screenWidth screenHeight => .screenResize screenWidth screenHeight
  | .keyboardLayout keyboardLayoutName => .keyboardLayout keyboardLayoutName

/-! ## Documented layout -/

def uint32Field (value : UInt32) : Field := .scalar 4 value.toNat

def int32Field (value : Int32) : Field := .scalar 4 value.toUInt32.toNat

def floatField (value : Binary32) : Field := .scalar 4 value.bits.toNat

/-- A string and its length. -/
def stringFields (s : List UInt8) : List Field := [.scalar 4 s.length, .raw s]

def windowFields (window : WebXWindowProperties) : List Field :=
  [uint32Field window.id, int32Field window.x, int32Field window.y, int32Field window.width,
    int32Field window.height]

def subImageFields (subImage : WebXSubImage) (image : WebXImage) : List Field :=
  [int32Field subImage.x, int32Field subImage.y, int32Field subImage.width,
    int32Field subImage.height, uint32Field image.depth,
    .raw (imageTypeChars image.getFileExtension), .scalar 4 image.rawData.length,
    .scalar 4 image.getAlphaData.length, .raw image.rawData, .raw image.getAlphaData]

/-- The fields of a content. -/
def layout (content : WebXMessage.Content) : List Field :=
  match content with
  | .windows commandId windows =>
      let shapedWindows := windows.filter WebXWindowProperties.hasShape
      uint32Field commandId :: .scalar 4 windows.length :: (windows.flatMap windowFields ++
        .scalar 4 shapedWindows.length :: shapedWindows.flatMap fun window =>
          [uint32Field window.id])
  | .image commandId windowId image =>
      [uint32Field commandId, uint32Field windowId, uint32Field (image.elim 0 WebXImage.depth),
        .raw (imageTypeChars (image.elim [] WebXImage.getFileExtension)),
        .scalar 4 (image.elim [] WebXImage.rawData).length,
        .scalar 4 (image.elim [] WebXImage.getAlphaData).length,
        .raw (image.elim [] WebXImage.rawData), .raw (image.elim [] WebXImage.getAlphaData)]
  | .screen commandId screenWidth screenHeight maxQualityIndex engineVersion canResizeScreen
      keyboardLayoutName =>
      uint32Field commandId :: int32Field screenWidth :: int32Field screenHeight ::
        int32Field maxQualityIndex :: uint32Field engineVersion.major ::
        uint32Field engineVersion.minor :: uint32Field engineVersion.patch ::
        .scalar 4 canResizeScreen.toNat :: stringFields keyboardLayoutName
  | .subimages windowId images =>
      uint32Field content.commandId :: uint32Field windowId :: .scalar 4 images.length ::
        (subImages images).flatMap fun subImage => subImageFields subImage.1 subImage.2
  | .mouse x y cursorId =>
      [uint32Field content.commandId, int32Field x, int32Field y, uint32Field cursorId]
  | .cursorImage commandId x y xhot yhot cursorId mouseCursorImage =>
      uint32Field commandId :: int32Field x :: int32Field y :: int32Field xhot ::
        int32Field yhot :: uint32Field cursorId ::
        stringFields (mouseCursorImage.elim [] WebXImage.rawData)
  | .ping => []
  | .disconnect => []
  | .quality quality =>
      [.scalar 4 quality.index, floatField quality.imageFPS, floatField quality.rgbQuality,
        floatField quality.alphaQuality, floatField quality.maxMbps]
  | .clipboard clipboardContent => stringFields clipboardContent
  | .shape commandId windowId shape =>
      uint32Field commandId :: uint32Field windowId ::
        .raw (imageTypeChars (shape.elim [] WebXImage.getFileExtension)) ::
        stringFields (shape.elim [] WebXImage.rawData)
  | .screenResize screenWidth screenHeight => [int32Field screenWidth, int32Field screenHeight]
  | .keyboardLayout keyboardLayoutName => stringFields keyboardLayoutName

/-- The size of a message. What follows the header ends with the last field; a list of sub-images
ends at the next multiple of 4, as each of them does. -/
def totalSize (content : WebXMessage.Content) : ℕ :=
  match content with
  | .subimages _ _ => alignUp (extent messageHeaderSize (layout content)) 4
  | _ => extent messageHeaderSize (layout content)

/-- The image objects that the encoder uses without a test are there. -/
def HasImages (content : WebXMessage.Content) : Prop :=
  match content with
  | .subimages _ images => ∀ subImage ∈ images, subImage.image.isSome
  | .cursorImage _ _ _ _ _ _ mouseCursorImage => mouseCursorImage.isSome
  | _ => True

/-! ## A reader of the documented layout -/

open FieldReader

def readUInt32 : FieldReader UInt32 := do return UInt32.ofNat (← scalar 4)

def readInt32 : FieldReader Int32 := do return (← readUInt32).toInt32

def readFloat : FieldReader Binary32 := do return ⟨← readUInt32⟩

def readUInt64 : FieldReader UInt64 := do return UInt64.ofNat (← scalar 8)

/-- Reads a length, then as many bytes. -/
def readString : FieldReader (List UInt8) := do raw (← scalar 4)

/-- Reads at most four characters. -/
def readImageType : FieldReader (List UInt8) := do
  return (← raw 4).takeWhile fun c => c ≠ 0

def readWindow : FieldReader DocumentedWindow := do
  return ⟨← readUInt32, ← readInt32, ← readInt32, ← readInt32, ← readInt32⟩

def readSubImage : FieldReader DocumentedSubImage := do
  let x ← readInt32
  let y ← readInt32
  let width ← readInt32
  let height ← readInt32
  let depth ← readUInt32
  let imageType ← readImageType
  let imageDataLength ← scalar 4
  let alphaDataLength ← scalar 4
  let imageData ← raw imageDataLength
  let alphaData ← raw alphaDataLength
  return ⟨x, y, width, height, depth, imageType, imageData, alphaData⟩

/-- Reads the content of a type. -/
def readContent : WebXMessageType → FieldReader DocumentedContent
  | .windows => do
      let commandId ← readUInt32
      let windows ← many readWindow (← scalar 4)
      let shapedWindows ← many readUInt32 (← scalar 4)
      return .windows commandId windows shapedWindows
  | .image => do
      let commandId ← readUInt32
      let windowId ← readUInt32
      let depth ← readUInt32
      let imageType ← readImageType
      let imageDataLength ← scalar 4
      let alphaDataLength ← scalar 4
      let imageData ← raw imageDataLength
      let alphaData ← raw alphaDataLength
      return .image commandId windowId depth imageType imageData alphaData
  | .screen => do
      let commandId ← readUInt32
      let screenWidth ← readInt32
      let screenHeight ← readInt32
      let maxQualityIndex ← readInt32
      let major ← readUInt32
      let minor ← readUInt32
      let patch ← readUInt32
      let canResizeScreen ← scalar 4
      let keyboardLayoutName ← readString
      return .screen commandId screenWidth screenHeight maxQualityIndex ⟨major, minor, patch⟩
        (canResizeScreen ≠ 0) keyboardLayoutName
  | .subimages => do
      let commandId ← readUInt32
      let windowId ← readUInt32
      let images ← many readSubImage (← scalar 4)
      return .subimages commandId windowId images
  | .mouse => do
      return .mouse (← readUInt32) (← readInt32) (← readInt32) (← readUInt32)
  | .cursorImage => do
      let commandId ← readUInt32
      let x ← readInt32
      let y ← readInt32
      let xhot ← readInt32
      let yhot ← readInt32
      let cursorId ← readUInt32
      let imageData ← readString
      return .cursorImage commandId x y xhot yhot cursorId imageData
  | .ping => return .ping
  | .disconnect => return .disconnect
  | .quality => do
      let index ← scalar 4
      let imageFPS ← readFloat
      let rgbQuality ← readFloat
      let alphaQuality ← readFloat
      let maxMbps ← readFloat
      return .quality index imageFPS rgbQuality alphaQuality maxMbps
  | .clipboard => do return .clipboard (← readString)
  | .shape => do
      let commandId ← readUInt32
      let windowId ← readUInt32
      let imageType ← readImageType
      let stencilData ← readString
      return .shape commandId windowId imageType stencilData
  | .screenResize => do return .screenResize (← readInt32) (← readInt32)
  | .keyboardLayout => do return .keyboardLayout (← readString)

/-- Reads a message: the header, four unused bytes, then the content of the announced type. -/
def readMessage : FieldReader (Option DocumentedMessage) := do
  let sessionId ← raw 16
  let clientIndexMask ← readUInt64
  let timestampMs ← readUInt64
  let typeId ← readUInt32
  let id ← readUInt32
  let length ← scalar 4
  let _padding ← raw 4
  match WebXMessageType.ofCode typeId with
  | some type => do
      let content ← readContent type
      return some ⟨sessionId, clientIndexMask, timestampMs, type, id, length, content⟩
  | none => return none

/-- The message found in some bytes. -/
def decodeMessage (bytes : List UInt8) : Option DocumentedMessage :=
  ((readMessage bytes 0).map Prod.fst).join

/-! ## The encoder writes the documented fields -/

section Writers

variable {x : BufferM Unit} {fs : List Field}

/-- A field, and those of the program that goes on. -/
theorem writes_cons {f : Field} {y : Unit → BufferM Unit} (hx : Writes x [f])
    (hy : Writes (y ()) fs) : Writes (x >>= y) (f :: fs) := hx.seq hy

/-- A word is written as one field. -/
theorem writes_uint32 (value : UInt32) : Writes (writeUInt32 value) [uint32Field value] :=
  writes_write 4 _

/-- A signed word is written as one field. -/
theorem writes_int32 (value : Int32) : Writes (writeInt32 value) [int32Field value] :=
  writes_write 4 _

/-- The bits of a float are written as one field. -/
theorem writes_float (value : Binary32) : Writes (writeFloat value) [floatField value] :=
  writes_write 4 _

/-- A number of bytes or of elements is written as one field. -/
theorem writes_size (value : ℕ) : Writes (writeSize value) [.scalar 4 value] := writes_write 4 _

/-- A program that writes nothing places an empty string. -/
theorem writes_empty : Writes (pure ()) [.raw []] where
  ok s _ _ := by
    have hsame : overwrite s.bufferContent s.writeOffset [] = s.bufferContent := by
      rw [overwrite, List.append_nil, List.length_nil, Nat.add_zero, List.take_append_drop]
    show EStateM.Result.ok () s = _
    rw [place_cons, place_nil, Field.bytes_raw, Field.start_raw, hsame]
    rfl
  fits s s' _ _ _ h := by
    cases h
    exact ⟨le_max_left _ _, rfl, rfl⟩

/-- The alpha data are appended, if there are any. -/
theorem writes_appendAlpha (image : WebXImage) :
    Writes (appendAlpha image) [.raw image.getAlphaData] := by
  rw [appendAlpha]
  split
  · exact writes_append _
  · rename_i h
    rw [List.length_eq_zero_iff.mp (not_not.mp h)]
    exact writes_empty

/-- A string is written with its length before it. -/
theorem writes_string (s : List UInt8) : Writes (writeString s) (stringFields s) :=
  writes_cons (writes_size _) (writes_append s)

/-- A window is written as five words. -/
theorem writes_window (window : WebXWindowProperties) :
    Writes (writeWindow window) (windowFields window) :=
  writes_cons (writes_uint32 _) <| writes_cons (writes_int32 _) <| writes_cons (writes_int32 _) <|
    writes_cons (writes_int32 _) <| writes_int32 _

/-- A sub-image is written with its place, its type, its sizes and its data. -/
theorem writes_subImage (subImage : WebXSubImage) (image : WebXImage) :
    Writes (writeSubImage subImage image) (subImageFields subImage image) :=
  writes_cons (writes_int32 _) <| writes_cons (writes_int32 _) <| writes_cons (writes_int32 _) <|
    writes_cons (writes_int32 _) <| writes_cons (writes_uint32 _) <|
    writes_cons (writes_append _) <| writes_cons (writes_size _) <|
    writes_cons (writes_size _) <| writes_cons (writes_append _) <| writes_appendAlpha image

/-- The windows are written, and after them the identifiers of those with a shape. -/
theorem writes_windows (commandId : UInt32) (windows : List WebXWindowProperties) :
    Writes (writeWindows commandId windows (windows.filter WebXWindowProperties.hasShape))
      (layout (.windows commandId windows)) :=
  writes_cons (writes_uint32 _) <| writes_cons (writes_size _) <|
    (Writes.forM windows fun window _ => writes_window window).seq <|
    writes_cons (writes_size _) <| Writes.forM _ fun window _ => writes_uint32 window.id

/-- A null image is sent with an empty type and without data. -/
theorem writes_image (commandId windowId : UInt32) (image : Option WebXImage) :
    Writes (writeImage commandId windowId image) (layout (.image commandId windowId image)) := by
  cases image with
  | none =>
      exact writes_cons (writes_uint32 _) <| writes_cons (writes_uint32 _) <|
        writes_cons (writes_uint32 _) <| writes_cons (writes_append _) <|
        writes_cons (writes_size _) <| writes_cons (writes_size _) <|
        (writes_empty.seq (y := fun _ => pure ()) writes_empty)
  | some image =>
      exact writes_cons (writes_uint32 _) <| writes_cons (writes_uint32 _) <|
        writes_cons (writes_uint32 _) <| writes_cons (writes_append _) <|
        writes_cons (writes_size _) <| writes_cons (writes_size _) <|
        writes_cons (writes_append _) <| writes_appendAlpha image

/-- A null shape is sent with an empty type and without data. -/
theorem writes_shape (commandId windowId : UInt32) (shape : Option WebXImage) :
    Writes (writeShape commandId windowId shape) (layout (.shape commandId windowId shape)) := by
  cases shape with
  | none =>
      exact writes_cons (writes_uint32 _) <| writes_cons (writes_uint32 _) <|
        writes_cons (writes_append _) <| writes_cons (writes_size _) writes_empty
  | some shape =>
      exact writes_cons (writes_uint32 _) <| writes_cons (writes_uint32 _) <|
        writes_cons (writes_append _) <| writes_string shape.rawData

/-- The screen is written with the version of the engine and the name of the layout. -/
theorem writes_screen (commandId : UInt32) (screenWidth screenHeight maxQualityIndex : Int32)
    (engineVersion : WebXVersion) (canResizeScreen : Bool) (keyboardLayoutName : List UInt8) :
    Writes (writeScreen commandId screenWidth screenHeight maxQualityIndex engineVersion
        canResizeScreen keyboardLayoutName)
      (layout (.screen commandId screenWidth screenHeight maxQualityIndex engineVersion
        canResizeScreen keyboardLayoutName)) :=
  writes_cons (writes_uint32 _) <| writes_cons (writes_int32 _) <| writes_cons (writes_int32 _) <|
    writes_cons (writes_int32 _) <| writes_cons (writes_uint32 _) <|
    writes_cons (writes_uint32 _) <| writes_cons (writes_uint32 _) <|
    writes_cons (writes_size _) <| writes_string keyboardLayoutName

/-- A cursor is written with its hot spot and the data of its image. -/
theorem writes_cursorImage (commandId : UInt32) (x y xhot yhot : Int32) (cursorId : UInt32)
    (image : WebXImage) :
    Writes (writeCursorImage commandId x y xhot yhot cursorId image)
      (layout (.cursorImage commandId x y xhot yhot cursorId (some image))) :=
  writes_cons (writes_uint32 _) <| writes_cons (writes_int32 _) <| writes_cons (writes_int32 _) <|
    writes_cons (writes_int32 _) <| writes_cons (writes_int32 _) <|
    writes_cons (writes_uint32 _) <| writes_string image.rawData

/-- The sub-images are written with their number before them. -/
theorem writes_subImages (windowId : UInt32) {images : List WebXSubImage}
    {pairs : List (WebXSubImage × WebXImage)} (h : imagesOf images = some pairs)
    (hlength : pairs.length = images.length) :
    Writes (writeSubImages WebXMessage.noCommandId windowId pairs)
      (layout (.subimages windowId images)) := by
  rw [layout, subImages, h, Option.getD_some, ← hlength]
  exact writes_cons (writes_uint32 _) <| writes_cons (writes_uint32 _) <|
    writes_cons (writes_size _) <| Writes.forM pairs fun pair _ => writes_subImage pair.1 pair.2

end Writers

/-! ## The encoder calculates the size of the documented fields -/

/-- Fields that begin with a number on 32 bits begin at the next multiple of 4. -/
theorem extent_scalar (off v : ℕ) (fs : List Field) :
    extent off (.scalar 4 v :: fs) = extent (alignUp off 4 + 4) fs := by
  rw [extent_cons, Field.stop_scalar]

/-- The type of an image has four characters. -/
theorem length_imageTypeChars (extension : List UInt8) :
    (imageTypeChars extension).length = 4 := by
  rw [imageTypeChars, List.length_append, List.length_take, List.length_replicate]
  omega

/-- An offset that is aligned stays so behind whole words. -/
theorem alignUp_add {off n : ℕ} (h : off % 4 = 0) (hn : n % 4 = 0) :
    alignUp (off + n) 4 = off + n :=
  alignUp_of_mod_eq_zero (by omega)

/-- Where a sub-image ends, and where what follows it begins. -/
theorem extent_subImageFields (off : ℕ) (subImage : WebXSubImage) (image : WebXImage) :
    alignUp (extent off (subImageFields subImage image)) 4
      = alignUp off 4 + (32 + subImageDataSize image) := by
  have haligned : alignUp off 4 % 4 = 0 := by
    rw [alignUp]
    split <;> omega
  have hextent : extent off (subImageFields subImage image)
      = alignUp off 4 + 32 + image.rawData.length + image.getAlphaData.length := by
    simp only [subImageFields, int32Field, uint32Field, extent_cons, extent_nil,
      Field.stop_scalar, Field.stop_raw, length_imageTypeChars, Nat.add_assoc, alignUp_add haligned,
      Nat.reduceAdd, Nat.reduceMod]
  rw [hextent, subImageDataSize, alignUp, WebXImage.getAlphaDataSize, WebXImage.getRawDataSize]
  split_ifs <;> omega

/-- Where a list of sub-images ends, up to the next multiple of 4. -/
theorem extent_subImages (off : ℕ) (pairs : List (WebXSubImage × WebXImage)) :
    alignUp (extent off (pairs.flatMap fun pair => subImageFields pair.1 pair.2)) 4
      = alignUp off 4 + pairs.length * 32 + ((pairs.map Prod.snd).map subImageDataSize).sum := by
  induction pairs generalizing off with
  | nil => simp
  | cons pair pairs ih =>
      rw [List.flatMap_cons, extent_append, ih, extent_subImageFields]
      simp only [List.map_cons, List.sum_cons, List.length_cons]
      ring

/-- Where a list of windows ends. -/
theorem extent_windows {off : ℕ} (h : off % 4 = 0) (windows : List WebXWindowProperties) :
    extent off (windows.flatMap windowFields) = off + windows.length * 20 := by
  induction windows generalizing off with
  | nil => simp
  | cons window windows ih =>
      have hwindow : extent off (windowFields window) = off + 20 := by
        simp only [windowFields, int32Field, uint32Field, extent_scalar, extent_nil, Nat.add_assoc,
          alignUp_of_mod_eq_zero h, alignUp_add h, Nat.reduceAdd, Nat.reduceMod]
      rw [List.flatMap_cons, extent_append, hwindow, ih (by omega), List.length_cons]
      ring

/-- Where a list of window identifiers ends. -/
theorem extent_shapedWindows {off : ℕ} (h : off % 4 = 0) (windows : List WebXWindowProperties) :
    extent off (windows.flatMap fun window => [uint32Field window.id])
      = off + windows.length * 4 := by
  induction windows generalizing off with
  | nil => simp
  | cons window windows ih =>
      have hwindow : extent off [uint32Field window.id] = off + 4 := by
        rw [uint32Field, extent_scalar, extent_nil, alignUp_of_mod_eq_zero h]
      rw [List.flatMap_cons, extent_append, hwindow, ih (by omega), List.length_cons]
      ring

/-- The size calculated for a list of windows is the size of its fields. -/
theorem totalSize_windows (commandId : UInt32) (windows : List WebXWindowProperties) :
    totalSize (.windows commandId windows)
      = windowsDataSize windows (windows.filter WebXWindowProperties.hasShape) := by
  have hfirst : alignUp (alignUp messageHeaderSize 4 + 4) 4 + 4 = 56 := rfl
  have hsecond : (56 + windows.length * 20) % 4 = 0 := by omega
  show extent messageHeaderSize (layout _) = _
  rw [layout, uint32Field, extent_scalar, extent_scalar, hfirst, extent_append,
    extent_windows (by rfl), extent_scalar, alignUp_of_mod_eq_zero hsecond,
    extent_shapedWindows (by omega), windowsDataSize, messageHeaderSize]
  omega

/-- The size calculated for a list of sub-images is the size of its fields, the last sub-image being
padded like the others. -/
theorem totalSize_subImages (windowId : UInt32) {images : List WebXSubImage}
    {pairs : List (WebXSubImage × WebXImage)} (h : imagesOf images = some pairs) :
    totalSize (.subimages windowId images)
      = 60 + pairs.length * 32 + ((pairs.map Prod.snd).map subImageDataSize).sum := by
  have hfirst : alignUp (alignUp (alignUp messageHeaderSize 4 + 4) 4 + 4) 4 + 4 = 60 := rfl
  show alignUp (extent messageHeaderSize (layout _)) 4 = _
  rw [layout, uint32Field, uint32Field, extent_scalar, extent_scalar, extent_scalar, hfirst,
    subImages, h, Option.getD_some, extent_subImages]
  rfl

/-- The fields of a message end within its size. -/
theorem extent_layout_le (content : WebXMessage.Content) :
    extent messageHeaderSize (layout content) ≤ totalSize content := by
  cases content with
  | subimages windowId images => exact le_alignUp _ _
  | _ => exact le_refl _

/-- The image objects are found when none of them is null. -/
theorem imagesOf_eq_some {images : List WebXSubImage}
    (h : ∀ subImage ∈ images, subImage.image.isSome) :
    ∃ pairs, imagesOf images = some pairs ∧ pairs.length = images.length := by
  induction images with
  | nil => exact ⟨[], rfl, rfl⟩
  | cons subImage images ih =>
      rw [List.forall_mem_cons] at h
      obtain ⟨image, himage⟩ := Option.isSome_iff_exists.mp h.1
      obtain ⟨pairs, hpairs, hlength⟩ := ih h.2
      refine ⟨(subImage, image) :: pairs, ?_, by rw [List.length_cons, hlength, List.length_cons]⟩
      rw [imagesOf, himage, hpairs]
      rfl

/-- The size for an image is that of its fields. -/
theorem totalSize_image (commandId windowId : UInt32) (image : Option WebXImage) :
    totalSize (.image commandId windowId image) = imageDataSize image := by
  cases image <;>
    simp [totalSize, layout, uint32Field, alignUp, messageHeaderSize, imageDataSize,
      length_imageTypeChars, WebXImage.getRawDataSize, WebXImage.getAlphaDataSize]

/-- The size for a shape is that of its fields. -/
theorem totalSize_shape (commandId windowId : UInt32) (shape : Option WebXImage) :
    totalSize (.shape commandId windowId shape) = shapeDataSize shape := by
  cases shape <;>
    simp [totalSize, layout, stringFields, uint32Field, alignUp, messageHeaderSize, shapeDataSize,
      length_imageTypeChars, WebXImage.getRawDataSize]

/-- The size for a cursor is that of its fields. -/
theorem totalSize_cursorImage (commandId : UInt32) (x y xhot yhot : Int32) (cursorId : UInt32)
    (image : WebXImage) :
    totalSize (.cursorImage commandId x y xhot yhot cursorId (some image))
      = cursorImageDataSize image := by
  simp [totalSize, layout, stringFields, uint32Field, int32Field, alignUp, messageHeaderSize,
    cursorImageDataSize, WebXImage.getRawDataSize]

/-- The size for the screen is that of its fields. -/
theorem totalSize_screen (commandId : UInt32) (screenWidth screenHeight maxQualityIndex : Int32)
    (engineVersion : WebXVersion) (canResizeScreen : Bool) (keyboardLayoutName : List UInt8) :
    totalSize (.screen commandId screenWidth screenHeight maxQualityIndex engineVersion
      canResizeScreen keyboardLayoutName) = screenDataSize keyboardLayoutName := by
  simp [totalSize, layout, stringFields, uint32Field, int32Field, alignUp, messageHeaderSize,
    screenDataSize]

/-- The size for a string is that of its fields. -/
theorem totalSize_string (content : WebXMessage.Content) {s : List UInt8}
    (h : totalSize content = extent messageHeaderSize (stringFields s)) :
    totalSize content = stringDataSize s := by
  rw [h]
  simp [stringFields, alignUp, messageHeaderSize, stringDataSize]

/-- **The encoder allocates the documented size and writes the documented fields.** -/
theorem encode_eq_produce (ctx : Context) {message : WebXMessage}
    (himages : HasImages message.content) (hsize : totalSize message.content < uint32Size) :
    ∃ writer, encode ctx message = produce ctx message (totalSize message.content) writer ∧
      Writes writer (layout message.content) := by
  obtain ⟨mask, content⟩ := message
  -- a type is settled by its writer, the size calculated for it and the writes
  have of_writer {n : ℕ} {writer : BufferM Unit}
      (h : encode ctx ⟨mask, content⟩ = produce ctx ⟨mask, content⟩ n writer)
      (hn : totalSize content = n) (hwrites : Writes writer (layout content)) :
      ∃ writer, encode ctx ⟨mask, content⟩
          = produce ctx ⟨mask, content⟩ (totalSize content) writer ∧
        Writes writer (layout content) := ⟨writer, by rw [hn]; exact h, hwrites⟩
  cases content with
  | windows commandId windows =>
      exact of_writer rfl (totalSize_windows commandId windows) (writes_windows commandId windows)
  | image commandId windowId image =>
      exact of_writer rfl (totalSize_image commandId windowId image)
        (writes_image commandId windowId image)
  | screen commandId screenWidth screenHeight maxQualityIndex engineVersion canResizeScreen
      keyboardLayoutName =>
      exact of_writer rfl (totalSize_screen ..) (writes_screen _ _ _ _ _ _ _)
  | subimages windowId images =>
      obtain ⟨pairs, hpairs, hlength⟩ := imagesOf_eq_some himages
      have htotal := totalSize_subImages windowId hpairs
      have hsize : totalSize (.subimages windowId images) < uint32Size := hsize
      rw [htotal] at hsize
      refine of_writer (n := subImagesDataSize (pairs.map Prod.snd)) ?_ ?_
        (writes_subImages windowId hpairs hlength)
      · show createSubImagesMessage ctx _ windowId images = _
        rw [createSubImagesMessage, hpairs]
        rfl
      · -- below the limit, the number of images and the product do not wrap around
        have hcount : pairs.length % uint32Size = pairs.length := Nat.mod_eq_of_lt (by omega)
        have hnowrap : (messageHeaderSize + 12 + pairs.length * 32) % uint32Size
            = 60 + pairs.length * 32 := Nat.mod_eq_of_lt (by rw [messageHeaderSize]; omega)
        rw [htotal, subImagesDataSize, List.length_map, hcount, hnowrap]
  | mouse x y cursorId =>
      refine of_writer (n := messageHeaderSize + 16) rfl ?_ ?_
      · simp [totalSize, layout, uint32Field, int32Field, alignUp, messageHeaderSize]
      · exact writes_cons (writes_uint32 _) <| writes_cons (writes_int32 _) <|
          writes_cons (writes_int32 _) <| writes_uint32 _
  | cursorImage commandId x y xhot yhot cursorId mouseCursorImage =>
      obtain ⟨image, rfl⟩ := Option.isSome_iff_exists.mp himages
      exact of_writer rfl (totalSize_cursorImage ..) (writes_cursorImage _ _ _ _ _ _ _)
  | ping => exact of_writer rfl rfl Writes.nil
  | disconnect => exact of_writer rfl rfl Writes.nil
  | quality quality =>
      refine of_writer (n := messageHeaderSize + 20) rfl ?_ ?_
      · simp [totalSize, layout, floatField, alignUp, messageHeaderSize]
      · exact writes_cons (writes_size _) <| writes_cons (writes_float _) <|
          writes_cons (writes_float _) <| writes_cons (writes_float _) <| writes_float _
  | clipboard clipboardContent =>
      exact of_writer rfl (totalSize_string _ rfl) (writes_string clipboardContent)
  | shape commandId windowId shape =>
      exact of_writer rfl (totalSize_shape commandId windowId shape)
        (writes_shape commandId windowId shape)
  | screenResize screenWidth screenHeight =>
      refine of_writer (n := messageHeaderSize + 8) rfl ?_ ?_
      · simp [totalSize, layout, int32Field, alignUp, messageHeaderSize]
      · exact writes_cons (writes_int32 _) <| writes_int32 _
  | keyboardLayout keyboardLayoutName =>
      exact of_writer rfl (totalSize_string _ rfl) (writes_string keyboardLayoutName)

/-! ## The reader finds the documented fields -/

section Readers

/-- A word is read back. -/
theorem reads_uint32 (value : UInt32) : Reads readUInt32 [uint32Field value] value := by
  have h := (reads_scalar 4 value.toNat).cons (f := fun n => pure (UInt32.ofNat n)) (.pure _)
  rwa [Nat.mod_eq_of_lt (show value.toNat < 256 ^ 4 from value.toNat_lt),
    UInt32.ofNat_toNat] at h

/-- A word of 64 bits is read back. -/
theorem reads_uint64 (value : UInt64) : Reads readUInt64 [.scalar 8 value.toNat] value := by
  have h := (reads_scalar 8 value.toNat).cons (f := fun n => pure (UInt64.ofNat n)) (.pure _)
  rwa [Nat.mod_eq_of_lt (show value.toNat < 256 ^ 8 from value.toNat_lt),
    UInt64.ofNat_toNat] at h

/-- A signed word is read back. -/
theorem reads_int32 (value : Int32) : Reads readInt32 [int32Field value] value :=
  (reads_uint32 value.toUInt32).cons (.pure _)

/-- The bits of a float are read back. -/
theorem reads_float (value : Binary32) : Reads readFloat [floatField value] value :=
  (reads_uint32 value.bits).cons (.pure _)

/-- A number that fits into a word is read back. -/
theorem reads_size {n : ℕ} (h : n < uint32Size) : Reads (scalar 4) [.scalar 4 n] n := by
  have hread := reads_scalar 4 n
  rwa [Nat.mod_eq_of_lt (show n < 256 ^ 4 from h)] at hread

/-- A string is read back when its length fits into a word. -/
theorem reads_string {s : List UInt8} (h : s.length < uint32Size) :
    Reads readString (stringFields s) s :=
  (reads_size h).cons (reads_raw s)

/-- The type of an image is found again from its four characters. -/
theorem reads_imageType (image : Option WebXImage) :
    Reads readImageType [.raw (imageTypeChars (image.elim [] WebXImage.getFileExtension))]
      (image.elim [] WebXImage.getFileExtension) := by
  have hchars : (imageTypeChars (image.elim [] WebXImage.getFileExtension)).takeWhile
      (fun c => decide (c ≠ 0)) = image.elim [] WebXImage.getFileExtension := by
    cases image with
    | none => rfl
    | some image =>
        show (imageTypeChars image.getFileExtension).takeWhile _ = image.getFileExtension
        rw [WebXImage.getFileExtension]
        cases image.type <;> rfl
  have h := (reads_raw (imageTypeChars (image.elim [] WebXImage.getFileExtension))).cons
    (f := fun chars => pure (chars.takeWhile fun c => decide (c ≠ 0))) (.pure _)
  rw [length_imageTypeChars, hchars] at h
  exact h

/-- A window is read back. -/
theorem reads_window (window : WebXWindowProperties) :
    Reads readWindow (windowFields window) (documentedWindow window) :=
  (reads_uint32 _).cons <| (reads_int32 _).cons <| (reads_int32 _).cons <|
    (reads_int32 _).cons <| (reads_int32 _).cons <| .pure _

/-- A sub-image is read back when the sizes of its data fit into a word. -/
theorem reads_subImage (subImage : WebXSubImage) {image : WebXImage}
    (hraw : image.rawData.length < uint32Size) (halpha : image.getAlphaData.length < uint32Size) :
    Reads readSubImage (subImageFields subImage image) (documentedSubImage subImage image) :=
  (reads_int32 _).cons <| (reads_int32 _).cons <| (reads_int32 _).cons <|
    (reads_int32 _).cons <| (reads_uint32 _).cons <| (reads_imageType (some image)).cons <|
    (reads_size hraw).cons <| (reads_size halpha).cons <| (reads_raw _).cons <|
    (reads_raw _).cons <| .pure _

/-- **The reader of a type finds the documented content.** -/
theorem reads_content {content : WebXMessage.Content} (himages : HasImages content)
    (hsize : totalSize content < uint32Size) :
    Reads (readContent content.type) (layout content) (documentedContent content) := by
  cases content with
  | windows commandId windows =>
      have htotal := totalSize_windows commandId windows
      rw [windowsDataSize] at htotal
      refine (reads_uint32 _).cons <| (reads_size (by omega)).cons <|
        (reads_many fun window _ => reads_window window).bind <|
        (reads_size (by omega)).cons ?_
      rw [← List.append_nil (List.flatMap _ _)]
      exact (reads_many fun window _ => reads_uint32 window.id).bind (.pure _)
  | image commandId windowId image =>
      have hsizes := totalSize_image commandId windowId image
      have hraw : (image.elim [] WebXImage.rawData).length < uint32Size := by
        cases image <;> simp [imageDataSize, WebXImage.getRawDataSize] at hsizes ⊢ <;> omega
      have halpha : (image.elim [] WebXImage.getAlphaData).length < uint32Size := by
        cases image <;> simp [imageDataSize, WebXImage.getAlphaDataSize] at hsizes ⊢ <;> omega
      exact (reads_uint32 _).cons <| (reads_uint32 _).cons <| (reads_uint32 _).cons <|
        (reads_imageType image).cons <| (reads_size hraw).cons <| (reads_size halpha).cons <|
        (reads_raw _).cons <| (reads_raw _).cons <| .pure _
  | screen commandId screenWidth screenHeight maxQualityIndex engineVersion canResizeScreen
      keyboardLayoutName =>
      rw [totalSize_screen, screenDataSize] at hsize
      -- the flag is sent as a number: read back as `≠ 0`, it is the flag again
      have hbool : canResizeScreen.toNat < uint32Size := by cases canResizeScreen <;> decide
      have hflag : decide (canResizeScreen.toNat ≠ 0) = canResizeScreen := by
        cases canResizeScreen <;> rfl
      have hcontent : Reads (readContent .screen)
          (layout (.screen commandId screenWidth screenHeight maxQualityIndex engineVersion
            canResizeScreen keyboardLayoutName))
          (.screen commandId screenWidth screenHeight maxQualityIndex engineVersion
            (decide (canResizeScreen.toNat ≠ 0)) keyboardLayoutName) :=
        (reads_uint32 _).cons <| (reads_int32 _).cons <| (reads_int32 _).cons <|
          (reads_int32 _).cons <| (reads_uint32 _).cons <| (reads_uint32 _).cons <|
          (reads_uint32 _).cons <| (reads_size hbool).cons <|
          (reads_string (by omega)).bind <| .pure _
      rwa [hflag] at hcontent
  | subimages windowId images =>
      -- one sub-image fits, since all of them do
      obtain ⟨pairs, hpairs, hlength⟩ := imagesOf_eq_some himages
      rw [totalSize_subImages windowId hpairs] at hsize
      rw [layout, documentedContent, subImages, hpairs, Option.getD_some, ← hlength,
        ← List.append_nil (List.flatMap _ _)]
      refine (reads_uint32 _).cons <| (reads_uint32 _).cons <| (reads_size (by omega)).cons <|
        (reads_many fun pair hpair => ?_).bind (.pure _)
      have hpairSize : subImageDataSize pair.2
          ≤ ((pairs.map Prod.snd).map subImageDataSize).sum :=
        List.single_le_sum (fun _ _ => Nat.zero_le _) _ (List.mem_map_of_mem (List.mem_map_of_mem hpair))
      rw [subImageDataSize, WebXImage.getRawDataSize, WebXImage.getAlphaDataSize] at hpairSize
      exact reads_subImage pair.1 (by omega) (by omega)
  | mouse x y cursorId =>
      exact (reads_uint32 _).cons <| (reads_int32 _).cons <| (reads_int32 _).cons <|
        (reads_uint32 _).cons <| .pure _
  | cursorImage commandId x y xhot yhot cursorId mouseCursorImage =>
      obtain ⟨image, rfl⟩ := Option.isSome_iff_exists.mp himages
      rw [totalSize_cursorImage, cursorImageDataSize, WebXImage.getRawDataSize] at hsize
      exact (reads_uint32 _).cons <| (reads_int32 _).cons <| (reads_int32 _).cons <|
        (reads_int32 _).cons <| (reads_int32 _).cons <| (reads_uint32 _).cons <|
        (reads_string (by show image.rawData.length < _; omega)).bind <| .pure _
  | ping => exact .pure _
  | disconnect => exact .pure _
  | quality quality =>
      have hindex : quality.index < uint32Size := quality.index_lt.trans (by decide)
      exact (reads_size hindex).cons <| (reads_float _).cons <| (reads_float _).cons <|
        (reads_float _).cons <| (reads_float _).cons <| .pure _
  | clipboard clipboardContent =>
      have htotal := totalSize_string (.clipboard clipboardContent) rfl
      rw [htotal, stringDataSize] at hsize
      exact (reads_string (by omega)).bind (.pure _)
  | shape commandId windowId shape =>
      have hsizes := totalSize_shape commandId windowId shape
      have hraw : (shape.elim [] WebXImage.rawData).length < uint32Size := by
        cases shape <;> simp [shapeDataSize, WebXImage.getRawDataSize] at hsizes ⊢ <;> omega
      exact (reads_uint32 _).cons <| (reads_uint32 _).cons <| (reads_imageType shape).cons <|
        (reads_string hraw).bind <| .pure _
  | screenResize screenWidth screenHeight =>
      exact (reads_int32 _).cons <| (reads_int32 _).cons <| .pure _
  | keyboardLayout keyboardLayoutName =>
      have htotal := totalSize_string (.keyboardLayout keyboardLayoutName) rfl
      rw [htotal, stringDataSize] at hsize
      exact (reads_string (by omega)).bind (.pure _)

end Readers

/-! ## Whole messages -/

/-- Where the members of the header end. -/
theorem extent_headerFields (ctx : Context) (mask : UInt64) (typeId : UInt32) (length : ℕ) :
    extent 0 (headerFields ctx mask typeId length) = 44 := by
  simp [headerFields, alignUp]

/-- **A buffer of sufficient size holds the header and the fields written behind it.** -/
theorem produce_eq (ctx : Context) (message : WebXMessage) {dataSize : ℕ} {writer : BufferM Unit}
    {fs : List Field} (hwrites : Writes writer fs) (hfit : extent messageHeaderSize fs ≤ dataSize)
    (hsize : dataSize < uint32Size) :
    ∃ bytes, produce ctx message dataSize writer = .ok bytes ∧ bytes.length = dataSize ∧
      Holds bytes 0 (headerFields ctx message.clientIndexMask message.type.code dataSize) ∧
      Holds bytes messageHeaderSize fs := by
  have hheaderSize : messageHeaderSize ≤ dataSize := (le_extent _ fs).trans hfit
  have hfresh : (ctx.freshMemory dataSize).toList.length = dataSize := Vector.length_toList
  set header := headerFields ctx message.clientIndexMask message.type.code dataSize
  have hheader : extent 0 header ≤ (ctx.freshMemory dataSize).toList.length := by
    rw [extent_headerFields, hfresh]
    exact (show 44 ≤ messageHeaderSize by decide).trans hheaderSize
  set buffer : WebXBinaryBuffer :=
    ⟨place (ctx.freshMemory dataSize).toList 0 header, dataSize % uint32Size, messageHeaderSize,
      messageHeaderSize⟩ with hbuffer
  have hlength : buffer.bufferContent.length = dataSize := by
    rw [hbuffer, length_place hheader, hfresh]
  have hrecorded : buffer.bufferLength = dataSize := Nat.mod_eq_of_lt hsize
  have hvalid : buffer.Valid := ⟨by rw [hrecorded]; exact hsize, by rw [hrecorded, hlength]⟩
  have hwriter := hwrites.ok buffer hvalid (by rw [hrecorded]; exact hfit)
  have hplace : extent messageHeaderSize fs ≤ buffer.bufferContent.length := by
    rw [hlength]
    exact hfit
  have hbytes : (place buffer.bufferContent messageHeaderSize fs).length = dataSize := by
    rw [length_place hplace, hlength]
  refine ⟨place buffer.bufferContent messageHeaderSize fs, ?_, hbytes, ?_, holds_place hplace⟩
  · have hofMessage : ofMessage ctx message dataSize = .ok buffer := by
      rw [ofMessage, if_neg (not_lt.mpr hheaderSize)]
    exact produce_of_ok hofMessage hwriter
  · -- the fields behind the header do not touch it
    refine (holds_place hheader).congr messageHeaderSize ?_ ?_ ?_
    · rw [extent_headerFields]
      decide
    · rw [hbytes]
      exact hheaderSize
    · exact fun o n hon => slice_place hon hplace

/-- A message whose images are there and whose size is below `2 ^ 32` is encoded. -/
theorem exists_encode (ctx : Context) {message : WebXMessage} (himages : HasImages message.content)
    (hsize : totalSize message.content < uint32Size) : ∃ bytes, encode ctx message = .ok bytes := by
  obtain ⟨writer, hencode, hwrites⟩ := encode_eq_produce ctx himages hsize
  obtain ⟨bytes, hproduce, -⟩ := produce_eq ctx message hwrites (extent_layout_le _) hsize
  exact ⟨bytes, hencode.trans hproduce⟩

/-- **A message that holds the documented fields is read.** -/
theorem decodeMessage_eq (ctx : Context) {message : WebXMessage} {bytes : List UInt8}
    (himages : HasImages message.content) (hsize : totalSize message.content < uint32Size)
    (hlength : bytes.length = totalSize message.content)
    (hheader : Holds bytes 0
      (headerFields ctx message.clientIndexMask message.type.code bytes.length))
    (hcontent : Holds bytes messageHeaderSize (layout message.content)) :
    decodeMessage bytes = some ⟨ctx.sessionId.toList, message.clientIndexMask, ctx.timestampMs,
      message.type, ctx.messageCounter + 1, bytes.length, documentedContent message.content⟩ := by
  -- the four bytes between the header and the content are whatever they are
  have hheaderSize : messageHeaderSize ≤ bytes.length := by
    rw [hlength]
    exact (le_extent _ _).trans (extent_layout_le _)
  have hunusedLength : (slice bytes 44 4).length = 4 := length_slice hheaderSize
  have hunused : Holds bytes 44 [.raw (slice bytes 44 4)] := by
    refine holds_cons.mpr ⟨?_, ?_, trivial⟩
    · rw [Field.stop_raw, hunusedLength]
      exact hheaderSize
    · rw [Field.start_raw, Field.bytes_raw, hunusedLength]
  have hall : Holds bytes 0 (headerFields ctx message.clientIndexMask message.type.code bytes.length
      ++ (.raw (slice bytes 44 4) :: layout message.content)) := by
    rw [holds_append, extent_headerFields, ← List.singleton_append, holds_append]
    refine ⟨hheader, hunused, ?_⟩
    rw [extent_cons, extent_nil, Field.stop_raw, hunusedLength]
    exact hcontent
  have hsession := reads_raw ctx.sessionId.toList
  have hgap := reads_raw (slice bytes 44 4)
  rw [Vector.length_toList] at hsession
  rw [hunusedLength] at hgap
  have hread : Reads readMessage
      (headerFields ctx message.clientIndexMask message.type.code bytes.length
        ++ (.raw (slice bytes 44 4) :: layout message.content))
      (some ⟨ctx.sessionId.toList, message.clientIndexMask, ctx.timestampMs, message.type,
        ctx.messageCounter + 1, bytes.length, documentedContent message.content⟩) := by
    refine hsession.cons <| (reads_uint64 _).cons <| (reads_uint64 _).cons <|
      (reads_uint32 _).cons <| (reads_uint32 _).cons <|
      (reads_size (by rw [hlength]; exact hsize)).cons <| hgap.cons ?_
    rw [WebXMessageType.ofCode_code, ← List.append_nil (layout message.content)]
    exact (reads_content himages hsize).bind (.pure _)
  rw [decodeMessage, hread bytes 0 hall]
  rfl

/-- The windows of a documented content, a window having a shape when its identifier is among those
of the shaped windows. -/
def DocumentedContent.windowProperties : DocumentedContent → List WebXWindowProperties
  | .windows _ listed shaped => listed.map fun window =>
      ⟨window.id, window.x, window.y, window.width, window.height, shaped.contains window.id⟩
  | _ => []

/-- When no two windows have the same identifier, the shaped ones are found again. -/
theorem windowProperties_documentedContent (commandId : UInt32)
    {windows : List WebXWindowProperties}
    (hdistinct : (windows.map WebXWindowProperties.id).Nodup) :
    (documentedContent (.windows commandId windows)).windowProperties = windows := by
  -- as the identifiers are different, the list of those with a shape tells which windows they are
  have hshape : ∀ window ∈ windows,
      ((windows.filter WebXWindowProperties.hasShape).map WebXWindowProperties.id).contains
        window.id = window.hasShape := by
    intro window hwindow
    rw [Bool.eq_iff_iff, List.contains_iff_mem, List.mem_map]
    constructor
    · rintro ⟨shaped, hshaped, hid⟩
      rw [List.mem_filter] at hshaped
      rw [← List.inj_on_of_nodup_map hdistinct hshaped.1 hwindow hid]
      exact hshaped.2
    · intro h
      exact ⟨window, List.mem_filter.mpr ⟨hwindow, h⟩, rfl⟩
  rw [documentedContent, DocumentedContent.windowProperties, List.map_map]
  conv_rhs => rw [← List.map_id windows]
  refine List.map_congr_left fun window hwindow => ?_
  show WebXWindowProperties.mk window.id window.x window.y window.width window.height _ = window
  rw [show (documentedWindow window).id = window.id from rfl, hshape window hwindow]

/-- **The message format**: a message whose images are there and whose size is below `2 ^ 32` is
encoded without any fault to as many bytes as its header says, and the reader of the documented
layout recovers the header and every documented field. -/
theorem decodeMessage_encode (ctx : Context) {message : WebXMessage}
    (himages : HasImages message.content) (hsize : totalSize message.content < uint32Size) :
    (∃ bytes, encode ctx message = .ok bytes ∧ bytes.length = totalSize message.content ∧
      decodeMessage bytes = some ⟨ctx.sessionId.toList, message.clientIndexMask, ctx.timestampMs,
        message.type, ctx.messageCounter + 1, bytes.length, documentedContent message.content⟩) ∧
    ∀ commandId windows, message.content = .windows commandId windows →
      (windows.map WebXWindowProperties.id).Nodup →
      (documentedContent message.content).windowProperties = windows := by
  constructor
  · obtain ⟨writer, hencode, hwrites⟩ := encode_eq_produce ctx himages hsize
    obtain ⟨bytes, hproduce, hlength, hheader, hcontent⟩ :=
      produce_eq ctx message hwrites (extent_layout_le _) hsize
    rw [← hlength] at hheader
    exact ⟨bytes, hencode.trans hproduce, hlength,
      decodeMessage_eq ctx himages hsize hlength hheader hcontent⟩
  · intro commandId windows hwindows hdistinct
    rw [hwindows]
    exact windowProperties_documentedContent commandId hdistinct

/-- The format on a message of two sub-images, the first of which needs padding. -/
theorem decodeMessage_encode_subImages :
    ∃ bytes, encode ⟨Vector.replicate 16 9, 8, 7, fun n => Vector.replicate n 170⟩
        ⟨3, .subimages 5 [⟨1, 2, 3, 4, some ⟨.webp, 3, 4, [1, 2, 3], some [4, 5], 0, 0, 32⟩⟩,
          ⟨-1, 2, 3, 4, some ⟨.jpg, 3, 4, [6], none, 0, 0, 24⟩⟩]⟩ = .ok bytes ∧
      bytes.length = 136 ∧ decodeMessage bytes = some ⟨List.replicate 16 9, 3, 8, .subimages, 8,
        bytes.length, .subimages 0xFFFFFFFF 5
          [⟨1, 2, 3, 4, 32, [119, 101, 98, 112], [1, 2, 3], [4, 5]⟩,
            ⟨-1, 2, 3, 4, 24, [106, 112, 103], [6], []⟩]⟩ :=
  (@decodeMessage_encode ⟨Vector.replicate 16 9, 8, 7, fun n => Vector.replicate n 170⟩
    ⟨3, .subimages 5 [⟨1, 2, 3, 4, some ⟨.webp, 3, 4, [1, 2, 3], some [4, 5], 0, 0, 32⟩⟩,
      ⟨-1, 2, 3, 4, some ⟨.jpg, 3, 4, [6], none, 0, 0, 24⟩⟩]⟩
    (by simp [HasImages]) (by decide)).1

end MessageFormat

end WebXEngine
