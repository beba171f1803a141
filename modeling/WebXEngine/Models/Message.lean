import WebXEngine.Models.Image
import WebXEngine.Models.Quality

/-! # Messages

The thirteen messages sent to the clients, as the controller builds them and the transport layer
encodes them. The identifiers of windows are X resource identifiers, which have at most 32 bits.

* **`WebXMessageType`** — the types and their codes on the wire.
* **`WebXMessage`** — the clients a message is for, and its content. -/

namespace WebXEngine

/-- The types of message, in the order of the enumeration of the source. -/
inductive WebXMessageType
  | windows
  | image
  | screen
  | subimages
  | mouse
  | cursorImage
  | ping
  | disconnect
  | quality
  | clipboard
  | shape
  | screenResize
  | keyboardLayout
  deriving DecidableEq, Repr

namespace WebXMessageType

/-- The code of a type: the enumeration starts at 2. -/
def code : WebXMessageType → UInt32
  | windows => 2
  | image => 3
  | screen => 4
  | subimages => 5
  | mouse => 6
  | cursorImage => 7
  | ping => 8
  | disconnect => 9
  | quality => 10
  | clipboard => 11
  | shape => 12
  | screenResize => 13
  | keyboardLayout => 14

/-- Every type. -/
def all : List WebXMessageType :=
  [windows, image, screen, subimages, mouse, cursorImage, ping, disconnect, quality, clipboard,
    shape, screenResize, keyboardLayout]

/-- The type a code stands for. -/
def ofCode (code : UInt32) : Option WebXMessageType := all.find? fun t => t.code = code

/-- A type is found again from its code. -/
@[simp] theorem ofCode_code (t : WebXMessageType) : ofCode t.code = some t := by
  cases t <;> rfl

end WebXMessageType

/-- The properties of a window that are sent to the clients. -/
structure WebXWindowProperties where
  id : UInt32
  x : Int32
  y : Int32
  width : Int32
  height : Int32
  hasShape : Bool
  deriving DecidableEq, Repr

/-- The version of the engine. -/
structure WebXVersion where
  major : UInt32
  minor : UInt32
  patch : UInt32
  deriving DecidableEq, Repr

/-- A part of the image of a window: where it is, and its image object (null when there is none). -/
structure WebXSubImage where
  x : Int32
  y : Int32
  width : Int32
  height : Int32
  image : Option WebXImage
  deriving DecidableEq, Repr

namespace WebXMessage

/-- What the messages of each type carry; the command identifier of those that may answer an
instruction is part of it. -/
inductive Content
  | windows (commandId : UInt32) (windows : List WebXWindowProperties)
  | image (commandId windowId : UInt32) (image : Option WebXImage)
  | screen (commandId : UInt32) (screenWidth screenHeight maxQualityIndex : Int32)
      (engineVersion : WebXVersion) (canResizeScreen : Bool) (keyboardLayoutName : List UInt8)
  | subimages (windowId : UInt32) (images : List WebXSubImage)
  | mouse (x y : Int32) (cursorId : UInt32)
  | cursorImage (commandId : UInt32) (x y xhot yhot : Int32) (cursorId : UInt32)
      (mouseCursorImage : Option WebXImage)
  | ping
  | disconnect
  | quality (quality : WebXQuality)
  | clipboard (clipboardContent : List UInt8)
  | shape (commandId windowId : UInt32) (shape : Option WebXImage)
  | screenResize (screenWidth screenHeight : Int32)
  | keyboardLayout (keyboardLayoutName : List UInt8)
  deriving DecidableEq, Repr

/-- The type of a content. -/
def Content.type : Content → WebXMessageType
  | windows _ _ => .windows
  | image _ _ _ => .image
  | screen _ _ _ _ _ _ _ => .screen
  | subimages _ _ => .subimages
  | mouse _ _ _ => .mouse
  | cursorImage _ _ _ _ _ _ _ => .cursorImage
  | ping => .ping
  | disconnect => .disconnect
  | quality _ => .quality
  | clipboard _ => .clipboard
  | shape _ _ _ => .shape
  | screenResize _ _ => .screenResize
  | keyboardLayout _ => .keyboardLayout

/-- The command identifier of the messages that answer no instruction: -1 as an unsigned number. -/
def noCommandId : UInt32 := 0xFFFFFFFF

/-- The command identifier of a content. -/
def Content.commandId : Content → UInt32
  | windows commandId _ => commandId
  | image commandId _ _ => commandId
  | screen commandId _ _ _ _ _ _ => commandId
  | cursorImage commandId _ _ _ _ _ _ => commandId
  | shape commandId _ _ => commandId
  | _ => noCommandId

end WebXMessage

/-- A message for the clients whose index is in the mask. -/
structure WebXMessage where
  clientIndexMask : UInt64
  content : WebXMessage.Content
  deriving DecidableEq, Repr

namespace WebXMessage

/-- The type of a message. -/
def type (message : WebXMessage) : WebXMessageType := message.content.type

/-- The instruction a message answers. -/
def commandId (message : WebXMessage) : UInt32 := message.content.commandId

end WebXMessage

/-- The mask of all clients. -/
def globalClientIndexMask : UInt64 := ~~~0

@[simp] theorem globalClientIndexMask_and (index : UInt64) :
    globalClientIndexMask &&& index = index := by simp [globalClientIndexMask]

end WebXEngine
