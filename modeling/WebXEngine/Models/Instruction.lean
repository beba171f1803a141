import Mathlib.Init

/-! # Client instructions

The thirteen instructions a client can send, as the transport layer decodes them and the controller
handles them.

* **`WebXInstructionType`** — the types and their codes on the wire.
* **`WebXInstruction`** — the client, the identifier and the content of an instruction. -/

namespace WebXEngine

/-- The types of instruction, in the order of the enumeration of the source. -/
inductive WebXInstructionType
  | windows
  | image
  | screen
  | mouse
  | keyboard
  | cursor
  | quality
  | pong
  | dataAck
  | clipboard
  | shape
  | screenResize
  | keyboardLayout
  deriving DecidableEq, Repr

namespace WebXInstructionType

/-- The code of a type: the enumeration starts at 2. -/
def code : WebXInstructionType → UInt32
  | windows => 2
  | image => 3
  | screen => 4
  | mouse => 5
  | keyboard => 6
  | cursor => 7
  | quality => 8
  | pong => 9
  | dataAck => 10
  | clipboard => 11
  | shape => 12
  | screenResize => 13
  | keyboardLayout => 14

/-- Every type. -/
def all : List WebXInstructionType :=
  [windows, image, screen, mouse, keyboard, cursor, quality, pong, dataAck, clipboard, shape,
    screenResize, keyboardLayout]

/-- The type a code stands for. -/
def ofCode (code : UInt32) : Option WebXInstructionType := all.find? fun t => t.code = code

/-- A type is found again from its code. -/
@[simp] theorem ofCode_code (t : WebXInstructionType) : ofCode t.code = some t := by
  cases t <;> rfl

end WebXInstructionType

namespace WebXInstruction

/-- What the instructions of each type carry besides the client and the identifier. -/
inductive Content
  | windows
  | image (windowId : UInt32)
  | screen
  | mouse (x y : Int32) (buttonMask : UInt32)
  | keyboard (key : Int32) (pressed : Bool)
  | cursor (cursorId : UInt32)
  | quality (qualityIndex : UInt32)
  | pong (sendTimestampMs recvTimestampMs : UInt64)
  | dataAck (sendTimestampMs recvTimestampMs : UInt64) (dataLength : UInt32)
  | clipboard (clipboardContent : List UInt8)
  | shape (windowId : UInt32)
  | screenResize (width height : UInt32)
  | keyboardLayout (keyboardLayout : List UInt8)
  deriving DecidableEq, Repr

/-- The type of a content. -/
def Content.type : Content → WebXInstructionType
  | windows => .windows
  | image _ => .image
  | screen => .screen
  | mouse _ _ _ => .mouse
  | keyboard _ _ => .keyboard
  | cursor _ => .cursor
  | quality _ => .quality
  | pong _ _ => .pong
  | dataAck _ _ _ => .dataAck
  | clipboard _ => .clipboard
  | shape _ => .shape
  | screenResize _ _ => .screenResize
  | keyboardLayout _ => .keyboardLayout

end WebXInstruction

/-- An instruction received from a client. -/
structure WebXInstruction where
  clientId : UInt32
  id : UInt32
  content : WebXInstruction.Content
  deriving DecidableEq, Repr

namespace WebXInstruction

/-- The type of an instruction. -/
def type (i : WebXInstruction) : WebXInstructionType := i.content.type

/-- The same content with the time of reception that the constructors of the acknowledgements take
from the clock. -/
def Content.receivedAt (now : UInt64) : Content → Content
  | pong sendTimestampMs _ => pong sendTimestampMs now
  | dataAck sendTimestampMs _ dataLength => dataAck sendTimestampMs now dataLength
  | content => content

/-- The same instruction received at a given time. -/
def receivedAt (now : UInt64) (i : WebXInstruction) : WebXInstruction :=
  { i with content := i.content.receivedAt now }

end WebXInstruction

end WebXEngine
