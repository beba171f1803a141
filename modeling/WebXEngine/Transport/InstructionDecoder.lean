import WebXEngine.Models.Instruction
import WebXEngine.Utils.BinaryBuffer

/-! # The instruction decoder

The decoder of the binary data received from the clients: a header of 32 bytes, then a content whose
layout depends on the type announced in the header.

* **`create*Instruction`** — the thirteen readers of contents.
* **`decode`** — the reader of a whole instruction. -/

namespace WebXEngine

namespace WebXBinaryBuffer

/-- Reads an unsigned number on 32 bits. -/
def readUInt32 : BufferM UInt32 := UInt32.ofNat <$> read 4

/-- Reads a signed number on 32 bits. -/
def readInt32 : BufferM Int32 := (fun n => (UInt32.ofNat n).toInt32) <$> read 4

/-- Reads an unsigned number on 64 bits. -/
def readUInt64 : BufferM UInt64 := UInt64.ofNat <$> read 8

end WebXBinaryBuffer

namespace WebXInstructionDecoder

open WebXBinaryBuffer

/-! ## Contents

Each reader is given the client and the identifier found in the header. -/

section Contents

variable (now : UInt64) (clientId instructionId : UInt32)

def createMouseInstruction : BufferM WebXInstruction := do
  let x ← readInt32
  let y ← readInt32
  let buttonMask ← readUInt32
  return ⟨clientId, instructionId, .mouse x y buttonMask⟩

def createCursorImageInstruction : BufferM WebXInstruction := do
  let cursorId ← readInt32
  return ⟨clientId, instructionId, .cursor cursorId.toUInt32⟩

def createImageInstruction : BufferM WebXInstruction := do
  let windowId ← readUInt32
  return ⟨clientId, instructionId, .image windowId⟩

/-- The key is read as an unsigned number and kept as a signed one. -/
def createKeyboardInstruction : BufferM WebXInstruction := do
  let key ← readUInt32
  let pressed ← readUInt32
  return ⟨clientId, instructionId, .keyboard key.toInt32 (pressed > 0)⟩

def createScreenInstruction : BufferM WebXInstruction :=
  return ⟨clientId, instructionId, .screen⟩

def createWindowsInstruction : BufferM WebXInstruction :=
  return ⟨clientId, instructionId, .windows⟩

def createQualityInstruction : BufferM WebXInstruction := do
  let qualityIndex ← readUInt32
  return ⟨clientId, instructionId, .quality qualityIndex⟩

def createPongInstruction : BufferM WebXInstruction := do
  let sendTimestampMs ← readUInt64
  return ⟨clientId, instructionId, .pong sendTimestampMs now⟩

def createDataAckInstruction : BufferM WebXInstruction := do
  let sendTimestampMs ← readUInt64
  let dataLength ← readUInt32
  return ⟨clientId, instructionId, .dataAck sendTimestampMs now dataLength⟩

def createClipboardInstruction : BufferM WebXInstruction := do
  let clipboardContentLength ← readUInt32
  let clipboardContent ← readSring clipboardContentLength.toNat
  return ⟨clientId, instructionId, .clipboard clipboardContent⟩

def createShapeInstruction : BufferM WebXInstruction := do
  let windowId ← readUInt32
  return ⟨clientId, instructionId, .shape windowId⟩

/-- Both dimensions are read as signed numbers and kept as unsigned ones. -/
def createScreenResizeInstruction : BufferM WebXInstruction := do
  let width ← readInt32
  let height ← readInt32
  return ⟨clientId, instructionId, .screenResize width.toUInt32 height.toUInt32⟩

def createKeyboardLayoutInstruction : BufferM WebXInstruction := do
  let keyboardLayoutLength ← readUInt32
  let keyboardLayout ← readSring keyboardLayoutLength.toNat
  return ⟨clientId, instructionId, .keyboardLayout keyboardLayout⟩

/-- The reader of the content of a type. -/
def createInstruction : WebXInstructionType → BufferM WebXInstruction
  | .mouse => createMouseInstruction clientId instructionId
  | .keyboard => createKeyboardInstruction clientId instructionId
  | .cursor => createCursorImageInstruction clientId instructionId
  | .image => createImageInstruction clientId instructionId
  | .screen => createScreenInstruction clientId instructionId
  | .windows => createWindowsInstruction clientId instructionId
  | .quality => createQualityInstruction clientId instructionId
  | .pong => createPongInstruction now clientId instructionId
  | .dataAck => createDataAckInstruction now clientId instructionId
  | .clipboard => createClipboardInstruction clientId instructionId
  | .shape => createShapeInstruction clientId instructionId
  | .screenResize => createScreenResizeInstruction clientId instructionId
  | .keyboardLayout => createKeyboardLayoutInstruction clientId instructionId

end Contents

/-! ## Instructions -/

/-- The type word of the header without its top bit. -/
def typeOfDetails (details : UInt32) : UInt32 := details &&& ~~~0x80000000

/-- Reads the content of a type; a type that is not known gives no instruction. -/
def createKnownInstruction (now : UInt64) (clientId instructionId : UInt32) :
    Option WebXInstructionType → BufferM (Option WebXInstruction)
  | some type => some <$> createInstruction now clientId instructionId type
  | none => return none

/-- Reads an instruction; the session is skipped. -/
def readInstruction (now : UInt64) : BufferM (Option WebXInstruction) := do
  advanceReadOffset 16
  let clientId ← readUInt32
  let details ← readUInt32
  let instructionId ← readUInt32
  let _dummy ← readUInt32
  createKnownInstruction now clientId instructionId
    (WebXInstructionType.ofCode (typeOfDetails details))

/-- Decodes the data of a message; `now` is what the clock answers during the call. -/
def decode (now : UInt64) (instructionData : List UInt8) : Except Fault (Option WebXInstruction) :=
  match readInstruction now (ofData instructionData) with
  | .ok instruction _ => .ok instruction
  | .error fault _ => .error fault

end WebXInstructionDecoder

end WebXEngine
