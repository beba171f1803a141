import WebXEngine.Controller.ClipboardOwnership
import WebXEngine.Controller.HandlerCalls
import WebXEngine.Display.Cursors
import WebXEngine.Display.HeldKeys
import WebXEngine.Display.Manager
import WebXEngine.Display.RandR
import WebXEngine.Models.Instruction
import WebXEngine.Transport.MessageFormat

/-! # The instructions of the clients

The controller handles the instructions that were received one after the other. Some are answered by a
message for the client, others change the mouse, the keyboard, the clipboard, the screen or the registry.

* **`ControllerState.handleClientInstruction`** — an instruction of any type.
* **`ControllerState.CanHandle`** — the objects that an instruction needs are there.
* **`exists_handleClientInstructions`** — a queue of such instructions is handled to its end, and answered.
* **`Reachable.ready`** — no visible window was freed when a queue is handled.
* **`instructionsProcessed`** — a queue is handled in all states of the engine. -/

namespace WebXEngine

open WebXClientRegistry

/-- The engine, and the messages that the controller sent; those about clients and about the clipboard
are with these. -/
structure ControllerState extends EngineState where
  cursors : MouseCursors
  keyboard : KeyboardState
  clipboard : ClipboardControllerState
  sent : List WebXMessage

/-- What X answers while an instruction is handled, and the time. -/
structure InstructionAnswers where
  screen : Screen
  /-- Where another program moves the pointer meanwhile. -/
  moved : Option ScreenPosition
  rootAttributes : XWindowAttributes
  outputs : RandRQuery
  randr : RandRAnswers
  grab : GrabAnswer
  shape : XWindowShape
  xkb : XkbAnswers
  now : Time

/-- The properties of a window that the clients are told. -/
def windowProperties (x11Window : UInt32) (window : WebXWindow) : WebXWindowProperties where
  id := x11Window
  x := .ofInt window.rectangle.x
  y := .ofInt window.rectangle.y
  width := .ofInt window.rectangle.size.width
  height := .ofInt window.rectangle.size.height
  hasShape := window.hasShape

namespace WebXDisplay

variable (display : WebXDisplay)

/-- The properties of the visible windows, which are read through their pointers. -/
def getVisibleWindowsProperties : Except Fault (List WebXWindowProperties) :=
  display.visibleWindows.mapM fun x11Window =>
    (display.derefVisible x11Window).map (windowProperties x11Window)

/-- The coverage of the visible windows is calculated from their rectangles, which are read through their
pointers. -/
def updateWindowCoverage : Except Fault Unit :=
  display.visibleWindows.forM fun x11Window => (display.derefVisible x11Window).map fun _ => ()

/-- The shape of a window has changed: it is asked for again when the window is visible. -/
def updateWindowShape (x11Window : UInt32) (shape : XWindowShape) : Except Fault WebXDisplay :=
  display.callIfWindowVisible x11Window display
    (display.modifyWindow x11Window fun window =>
      { window with shape := { window.shape with isBuilt := false } }.updateShape shape)

/-- A change of a shape leaves the windows as they are. -/
theorem sameWindows_updateWindowShape {display display' : WebXDisplay} {x11Window : UInt32}
    {shape : XWindowShape} (h : display.updateWindowShape x11Window shape = .ok display') :
    SameWindows display display' := by
  rcases eq_of_callIfWindowVisible h with rfl | hupdate
  · exact .refl display'
  · exact sameWindows_modifyWindow hupdate

end WebXDisplay

namespace ControllerState

variable (settings : WebXSettings) (engineVersion : WebXVersion) (keyMaps : KeyMaps) (depth : ℕ)
  (answers : InstructionAnswers) (client : WebXClient) (id : UInt32) (state : ControllerState)

/-- Sends a message. -/
def sendMessage (message : WebXMessage) : ControllerState :=
  { state with sent := state.sent ++ [message] }

/-- Moves the mouse. The others are told the position when it is not the one before. -/
def onClientMouseInstruction (x y : Int32) (buttonMask : UInt32) : Except Fault ControllerState := do
  let previousMousePosition := state.cursors.pointer.mouse.state.position
  let pointer := state.cursors.pointer.sendClientInstruction answers.screen answers.moved x y buttonMask
  state.display.updateWindowCoverage
  let state := { state with cursors := { state.cursors with pointer := pointer } }
  if previousMousePosition.x ≠ x ∨ previousMousePosition.y ≠ y then
    let cursorId ← pointer.getCursorId
    let state := state.sendMessage ⟨~~~client.index, .mouse x y cursorId⟩
    return state.sendMessage ⟨client.index, .mouse (-1) (-1) cursorId⟩
  else
    return state

/-- Presses or releases a key. -/
def onKeyboardInstruction (key : Int32) (pressed : Bool) : Except Fault ControllerState :=
  (state.keyboard.sendKeyboard (depth + 2) key pressed).map fun keyboard =>
    { state with keyboard := keyboard }

/-- Tells the client about the screen, whose size is that of the root window. -/
def onScreenInstruction : Except Fault ControllerState := do
  let _ ← state.display.deref state.display.rootWindow
  let canResizeScreen ← WebXRandR.canResizeScreen answers.outputs
  return state.sendMessage ⟨client.index, .screen id answers.rootAttributes.width
    answers.rootAttributes.height (.ofNat settings.quality.max.maxQuality.index) engineVersion
    canResizeScreen (WebXKeyboard.getKeyboardLayoutName state.keyboard.keyboard)⟩

/-- Tells the client about the visible windows. -/
def onWindowsInstruction : Except Fault ControllerState := do
  let windows ← state.display.getVisibleWindowsProperties
  return state.sendMessage ⟨client.index, .windows id windows⟩

/-- Sends the image of a window to the client, in the best quality. -/
def onImageInstruction (windowId : UInt32) : Except Fault ControllerState := do
  let (image, display) ← state.display.getImage windowId none answers.grab
  return { state with display := display }.sendMessage ⟨client.index, .image id windowId image⟩

/-- Sends the shape of a window to the client. -/
def onShapeInstruction (windowId : UInt32) : Except Fault ControllerState := do
  let (shape, display) ← state.display.getWindowShapeMask windowId answers.shape
  return { state with display := display }.sendMessage ⟨client.index, .shape id windowId shape⟩

/-- Sends a cursor to the client. The cursor is used without a test. -/
def onCursorInstruction (cursorId : UInt32) : Except Fault ControllerState :=
  match state.cursors.getCursor cursorId with
  | none => .error .nullDereference
  | some mouseCursor =>
      let mouseState := state.cursors.pointer.mouse.state
      .ok (state.sendMessage ⟨client.index, .cursorImage id mouseState.x mouseState.y mouseCursor.xhot
        mouseCursor.yhot mouseCursor.id (some mouseCursor.image)⟩)

/-- A client asks for a largest quality. -/
def onQualityInstruction (clientId qualityIndex : UInt32) : ControllerState :=
  { state with
    registry := state.registry.setClientMaxQuality clientId
      (settings.quality.max.qualityForIndex qualityIndex.toNat) }

/-- A client answers a ping. -/
def onPongInstruction (clientId : UInt32) : ControllerState :=
  { state with registry := state.registry.onPongReceived clientId answers.now }

/-- Loads a layout of the keyboard; the clients are told the text of the instruction. -/
def onKeyboardLayoutInstruction (keyboardLayout : List UInt8) : ControllerState :=
  let loaded := state.keyboard.loadKeyboardLayout keyMaps.maps answers.xkb keyboardLayout
  let state := { state with keyboard := loaded.2 }
  if loaded.1 then state.sendMessage ⟨globalClientIndexMask, .keyboardLayout keyboardLayout⟩
  else state

/-- Handles the instruction of a client. The rates of the clients are measured outside of the registry, so
that an acknowledgement of data changes nothing here. -/
def handleInstructionOf (instruction : WebXInstruction) : Except Fault ControllerState :=
  match instruction.content with
  | .mouse x y buttonMask => state.onClientMouseInstruction answers client x y buttonMask
  | .keyboard key pressed => state.onKeyboardInstruction depth key pressed
  | .screen => state.onScreenInstruction settings engineVersion answers client instruction.id
  | .windows => state.onWindowsInstruction client instruction.id
  | .image windowId => state.onImageInstruction answers client instruction.id windowId
  | .shape windowId => state.onShapeInstruction answers client instruction.id windowId
  | .cursor cursorId => state.onCursorInstruction client instruction.id cursorId
  | .quality qualityIndex => .ok (state.onQualityInstruction settings instruction.clientId qualityIndex)
  | .pong _ _ => .ok (state.onPongInstruction answers instruction.clientId)
  | .dataAck _ _ _ => .ok state
  | .clipboard clipboardContent =>
      .ok { state with clipboard := state.clipboard.setClipboardContent clipboardContent }
  | .screenResize width height =>
      (WebXRandR.resizeScreen answers.randr answers.rootAttributes width height).map fun _ => state
  | .keyboardLayout keyboardLayout =>
      .ok (state.onKeyboardLayoutInstruction keyMaps answers keyboardLayout)

/-- Handles an instruction, unless its client is unknown. -/
def handleClientInstruction (state : ControllerState)
    (received : WebXInstruction × InstructionAnswers) : Except Fault ControllerState :=
  match state.registry.getClientById received.1.clientId with
  | none => .ok state
  | some client =>
      state.handleInstructionOf settings engineVersion keyMaps depth received.2 client received.1

/-- Handles the instructions that were received. -/
def handleClientInstructions (instructions : List (WebXInstruction × InstructionAnswers)) :
    Except Fault ControllerState :=
  instructions.foldlM (handleClientInstruction settings engineVersion keyMaps depth) state

/-! ## Answers to the instructions -/

/-- The type of the message that answers an instruction. -/
def responseType : WebXInstruction.Content → Option WebXMessageType
  | .screen => some .screen
  | .windows => some .windows
  | .image _ => some .image
  | .shape _ => some .shape
  | .cursor _ => some .cursorImage
  | _ => none

/-- One message was sent: to the client only, for the instruction, and it can be encoded. -/
structure Responds (state : ControllerState) (client : WebXClient) (id : UInt32)
    (type : WebXMessageType) (message : WebXMessage) (state' : ControllerState) : Prop where
  sent : state'.sent = state.sent ++ [message]
  registry : state'.registry = state.registry
  type_eq : message.type = type
  clientIndexMask : message.clientIndexMask = client.index
  commandId : message.commandId = id
  encodes : ∀ ctx, ∃ bytes, WebXMessageEncoder.encode ctx message = .ok bytes

/-- Nothing is done for a client that is unknown; the instructions that ask for something are answered
once. -/
structure Handled (state : ControllerState) (instruction : WebXInstruction) (state' : ControllerState) :
    Prop where
  unknown : state.registry.getClientById instruction.clientId = none → state' = state
  response : ∀ client type, state.registry.getClientById instruction.clientId = some client →
    responseType instruction.content = some type →
    ∃ message, state.Responds client instruction.id type message state'

/-- The instructions of a queue are handled one after the other. -/
inductive Processed : ControllerState → List (WebXInstruction × InstructionAnswers) →
    ControllerState → Prop
  | nil (state : ControllerState) : Processed state [] state
  | cons {state state' state'' : ControllerState} {received : WebXInstruction × InstructionAnswers}
      {others : List (WebXInstruction × InstructionAnswers)}
      (hhandled : state.Handled received.1 state') (h : Processed state' others state'') :
      Processed state (received :: others) state''

/-! ## What the instructions need -/

/-- The objects that the instruction of a registered client needs are there, and the sizes of the data to
send are below `2 ^ 32`. -/
def CanHandleContent : WebXInstruction.Content → Prop
  | .mouse x y _ => state.cursors.pointer.mouse.state.position ≠ ⟨x, y⟩ →
      state.cursors.pointer.mouse.state.cursor ≠ none
  | .screen => (state.display.getWindow state.display.rootWindow).isSome ∧ answers.outputs.Answered ∧
      WebXMessageEncoder.screenDataSize
        (WebXKeyboard.getKeyboardLayoutName state.keyboard.keyboard) < uint32Size
  | .windows => 60 + 24 * state.display.visibleWindows.length < uint32Size
  | .image _ => WebXMessageEncoder.imageDataSize answers.grab.image < uint32Size
  | .shape windowId =>
      WebXMessageEncoder.shapeDataSize (state.display.shapeMaskOf windowId answers.shape) <
        uint32Size
  | .cursor cursorId => ∃ mouseCursor, state.cursors.getCursor cursorId = some mouseCursor ∧
      WebXMessageEncoder.cursorImageDataSize mouseCursor.image < uint32Size
  | .screenResize _ _ => answers.randr.Answered
  | _ => True

/-- An instruction can be handled: its client is unknown, or what it needs is there. -/
def CanHandle (received : WebXInstruction × InstructionAnswers) : Prop :=
  (state.registry.getClientById received.1.clientId).isSome →
    state.CanHandleContent received.2 received.1.content

/-- Each instruction of a queue can be handled in the state in which its turn comes. -/
def CanHandleAll (condition : ControllerState → WebXInstruction × InstructionAnswers → Prop) :
    List (WebXInstruction × InstructionAnswers) → ControllerState → Prop
  | [], _ => True
  | received :: others, state => condition state received ∧
      ∀ state', handleClientInstruction settings engineVersion keyMaps depth state received = .ok state' →
        CanHandleAll condition others state'

/-! ## The layout of the keyboard -/

variable {settings engineVersion keyMaps depth answers client id state} {state' : ControllerState}

/-- The layout of the keyboard, if it has one, is one in which the modifiers need nothing. -/
def HasNeutralLayout (state : ControllerState) : Prop :=
  ∀ mapping, state.keyboard.keyboard.keyboardMapping = some mapping → mapping.Neutral

/-- Only the keyboard has to do with the neutral layout. -/
theorem HasNeutralLayout.of_keyboard_eq (h : state.HasNeutralLayout)
    (hkeyboard : state'.keyboard = state.keyboard) : state'.HasNeutralLayout := by
  rw [HasNeutralLayout, hkeyboard]
  exact h

/-- The mouse does not change the keyboard. -/
theorem keyboard_onClientMouseInstruction {x y : Int32} {buttonMask : UInt32}
    (h : state.onClientMouseInstruction answers client x y buttonMask = .ok state') :
    state'.keyboard = state.keyboard := by
  obtain ⟨_, -, h⟩ := exists_of_bind_eq_ok h
  split_ifs at h
  · obtain ⟨cursorId, -, h⟩ := exists_of_bind_eq_ok h
    cases h
    rfl
  · cases h
    rfl

/-- A response does not change the keyboard, whatever is asked of X for it. -/
theorem keyboard_of_bind {α : Type} {x : Except Fault α} {f : α → ControllerState}
    (h : (x >>= fun a => .ok (f a)) = .ok state') (hf : ∀ a, (f a).keyboard = state.keyboard) :
    state'.keyboard = state.keyboard := by
  obtain ⟨a, -, h⟩ := exists_of_bind_eq_ok h
  cases h
  exact hf a

/-- A resize of the screen leaves the keyboard. -/
theorem keyboard_onScreenInstruction
    (h : state.onScreenInstruction settings engineVersion answers client id = .ok state') :
    state'.keyboard = state.keyboard := by
  obtain ⟨window, -, h⟩ := exists_of_bind_eq_ok h
  exact keyboard_of_bind h fun _ => rfl

/-- A request for a cursor leaves the keyboard. -/
theorem keyboard_onCursorInstruction {cursorId : UInt32}
    (h : state.onCursorInstruction client id cursorId = .ok state') :
    state'.keyboard = state.keyboard := by
  rw [onCursorInstruction] at h
  cases hcursor : state.cursors.getCursor cursorId with
  | none =>
      rw [hcursor] at h
      cases h
  | some mouseCursor =>
      rw [hcursor] at h
      cases h
      rfl

/-- A key is handled with the layouts of the engine, and leaves the layout as it is. -/
theorem exists_onKeyboardInstruction (hneutral : state.HasNeutralLayout) (key : Int32)
    (pressed : Bool) :
    ∃ state', state.onKeyboardInstruction depth key pressed = .ok state' ∧ state'.HasNeutralLayout := by
  rw [onKeyboardInstruction]
  cases pressed with
  | true =>
      obtain ⟨keyboard, hkeyboard, hpresses⟩ :=
        WebXKeyboard.sendKeyboard_press hneutral depth key
      rw [hkeyboard]
      exact ⟨_, rfl, fun mapping hmapping => hneutral mapping (hpresses.keyboardMapping ▸ hmapping)⟩
  | false =>
      obtain ⟨keyboard, hkeyboard, hmapping, -⟩ :=
        WebXKeyboard.sendKeyboard_release hneutral depth key
      rw [hkeyboard]
      exact ⟨_, rfl, fun mapping hsame => hneutral mapping (hmapping ▸ hsame)⟩

/-- A layout that is loaded is one of the engine. -/
theorem HasNeutralLayout.onKeyboardLayoutInstruction (h : state.HasNeutralLayout)
    (keyboardLayout : List UInt8) :
    (state.onKeyboardLayoutInstruction keyMaps answers keyboardLayout).HasNeutralLayout := by
  have hloaded : ∀ mapping, (state.keyboard.loadKeyboardLayout keyMaps.maps answers.xkb
      keyboardLayout).2.keyboard.keyboardMapping = some mapping → mapping.Neutral :=
    (KeyboardState.loadKeyboardLayout_spec answers.xkb keyboardLayout h).1
  rw [ControllerState.onKeyboardLayoutInstruction]
  split_ifs
  · exact hloaded
  · exact hloaded

/-- No instruction brings another layout than those of the engine. -/
theorem HasNeutralLayout.handleInstructionOf (hneutral : state.HasNeutralLayout)
    {instruction : WebXInstruction}
    (h : state.handleInstructionOf settings engineVersion keyMaps depth answers client instruction =
      .ok state') : state'.HasNeutralLayout := by
  obtain ⟨clientId, id, content⟩ := instruction
  cases content with
  | mouse x y buttonMask => exact hneutral.of_keyboard_eq (keyboard_onClientMouseInstruction h)
  | keyboard key pressed =>
      obtain ⟨after, hok, hafter⟩ := exists_onKeyboardInstruction hneutral key pressed
      cases h.symm.trans hok
      exact hafter
  | screen => exact hneutral.of_keyboard_eq (keyboard_onScreenInstruction h)
  | windows | image windowId | shape windowId =>
      exact hneutral.of_keyboard_eq (keyboard_of_bind h fun _ => rfl)
  | cursor cursorId => exact hneutral.of_keyboard_eq (keyboard_onCursorInstruction h)
  | screenResize width height =>
      obtain ⟨mode, -, rfl⟩ := exists_of_map_eq_ok h
      exact hneutral
  | keyboardLayout keyboardLayout =>
      cases h
      exact hneutral.onKeyboardLayoutInstruction keyboardLayout
  | quality qualityIndex | pong sendTimestampMs recvTimestampMs
  | dataAck sendTimestampMs recvTimestampMs dataLength | clipboard clipboardContent =>
      cases h
      exact hneutral

/-- Whatever the instruction, the layouts of the keyboard still include a neutral one. -/
theorem HasNeutralLayout.handleClientInstruction (hneutral : state.HasNeutralLayout)
    {received : WebXInstruction × InstructionAnswers}
    (h : handleClientInstruction settings engineVersion keyMaps depth state received = .ok state') :
    state'.HasNeutralLayout := by
  rw [ControllerState.handleClientInstruction] at h
  cases hclient : state.registry.getClientById received.1.clientId with
  | none =>
      rw [hclient] at h
      cases h
      exact hneutral
  | some client =>
      rw [hclient] at h
      exact hneutral.handleInstructionOf h

/-! ## The windows -/

/-- The windows are the same, apart from their attributes and shapes. -/
structure KeepsWindows (state state' : ControllerState) : Prop where
  windows : WebXDisplay.SameWindows state.display state'.display
  requires : state'.displayRequiresUpdate = state.displayRequiresUpdate

/-- A state with the same display. -/
theorem KeepsWindows.of_eq (hdisplay : state'.display = state.display)
    (hrequires : state'.displayRequiresUpdate = state.displayRequiresUpdate) :
    KeepsWindows state state' :=
  ⟨hdisplay ▸ .refl state.display, hrequires⟩

/-- The visible windows are not freed while the windows are kept. -/
theorem KeepsWindows.settled (h : KeepsWindows state state') (hsettled : state.toEngineState.Settled) :
    state'.toEngineState.Settled :=
  ⟨h.requires.trans hsettled.updated, hsettled.alive.of_sameWindows h.windows⟩

/-- The mouse leaves the windows as they are. -/
theorem keepsWindows_onClientMouseInstruction {x y : Int32} {buttonMask : UInt32}
    (h : state.onClientMouseInstruction answers client x y buttonMask = .ok state') :
    KeepsWindows state state' := by
  obtain ⟨_, -, h⟩ := exists_of_bind_eq_ok h
  split_ifs at h
  · obtain ⟨cursorId, -, h⟩ := exists_of_bind_eq_ok h
    cases h
    exact .of_eq rfl rfl
  · cases h
    exact .of_eq rfl rfl

/-- **No instruction frees a window.** -/
theorem keepsWindows_handleInstructionOf {instruction : WebXInstruction}
    (h : state.handleInstructionOf settings engineVersion keyMaps depth answers client instruction =
      .ok state') : KeepsWindows state state' := by
  obtain ⟨clientId, id, content⟩ := instruction
  cases content with
  | mouse x y buttonMask => exact keepsWindows_onClientMouseInstruction h
  | keyboard key pressed | screenResize width height =>
      obtain ⟨result, -, rfl⟩ := exists_of_map_eq_ok h
      exact .of_eq rfl rfl
  | screen =>
      obtain ⟨window, -, h⟩ := exists_of_bind_eq_ok h
      obtain ⟨canResizeScreen, -, h⟩ := exists_of_bind_eq_ok h
      cases h
      exact .of_eq rfl rfl
  | windows =>
      obtain ⟨windows, -, h⟩ := exists_of_bind_eq_ok h
      cases h
      exact .of_eq rfl rfl
  | image windowId =>
      obtain ⟨⟨image, display⟩, himage, h⟩ := exists_of_bind_eq_ok h
      cases h
      exact ⟨WebXDisplay.sameWindows_getImage himage, rfl⟩
  | shape windowId =>
      obtain ⟨⟨shape, display⟩, hshape, h⟩ := exists_of_bind_eq_ok h
      cases h
      exact ⟨WebXDisplay.sameWindows_getWindowShapeMask hshape, rfl⟩
  | cursor cursorId =>
      change state.onCursorInstruction client id cursorId = .ok state' at h
      rw [onCursorInstruction] at h
      cases hcursor : state.cursors.getCursor cursorId with
      | none =>
          rw [hcursor] at h
          cases h
      | some mouseCursor =>
          rw [hcursor] at h
          cases h
          exact .of_eq rfl rfl
  | keyboardLayout keyboardLayout =>
      cases h
      rw [onKeyboardLayoutInstruction]
      split_ifs <;> exact .of_eq rfl rfl
  | quality qualityIndex | pong sendTimestampMs recvTimestampMs
  | dataAck sendTimestampMs recvTimestampMs dataLength | clipboard clipboardContent =>
      cases h
      exact .of_eq rfl rfl

/-- What holds of the engine when a queue of instructions is handled: the layout of the keyboard is one of
the engine, and no visible window was freed. -/
structure Ready (state : ControllerState) : Prop where
  neutral : state.HasNeutralLayout
  settled : state.toEngineState.Settled

/-- An instruction leaves the engine ready for the next one. -/
theorem Ready.handleClientInstruction (hready : state.Ready)
    {received : WebXInstruction × InstructionAnswers}
    (h : handleClientInstruction settings engineVersion keyMaps depth state received = .ok state') :
    state'.Ready := by
  refine ⟨hready.neutral.handleClientInstruction h, ?_⟩
  rw [ControllerState.handleClientInstruction] at h
  cases hclient : state.registry.getClientById received.1.clientId with
  | none =>
      rw [hclient] at h
      cases h
      exact hready.settled
  | some client =>
      rw [hclient] at h
      exact (keepsWindows_handleInstructionOf h).settled hready.settled

/-! ## Responses -/

section Responses

open MessageFormat WebXMessageEncoder

/-- A message for the client is sent, and nothing else before. -/
theorem responds_sendMessage {content : WebXMessage.Content} {type : WebXMessageType}
    (hsent : state'.sent = state.sent) (hregistry : state'.registry = state.registry)
    (htype : content.type = type) (hid : content.commandId = id) (himages : HasImages content)
    (hsize : totalSize content < uint32Size) :
    state.Responds client id type ⟨client.index, content⟩
      (state'.sendMessage ⟨client.index, content⟩) where
  sent := by rw [sendMessage, hsent]
  registry := hregistry
  type_eq := htype
  clientIndexMask := rfl
  commandId := hid
  encodes := fun ctx => exists_encode ctx himages hsize

/-- A list of windows is read when they were not freed. -/
theorem exists_getVisibleWindowsProperties {display : WebXDisplay} {windows : List UInt32}
    (h : ∀ x11Window ∈ windows, display.IsAlive x11Window) :
    ∃ properties, (windows.mapM fun x11Window =>
        (display.derefVisible x11Window).map (windowProperties x11Window)) = .ok properties ∧
      properties.length = windows.length := by
  induction windows with
  | nil => exact ⟨[], rfl, rfl⟩
  | cons x11Window windows ih =>
      rw [List.forall_mem_cons] at h
      obtain ⟨window, -, hwindow⟩ := h.1.derefVisible
      obtain ⟨properties, hproperties, hlength⟩ := ih h.2
      refine ⟨windowProperties x11Window window :: properties, ?_, congrArg (· + 1) hlength⟩
      rw [List.mapM_cons, hwindow, hproperties]
      rfl

/-- The coverage is calculated when the windows were not freed. -/
theorem forM_derefVisible_eq {display : WebXDisplay} {windows : List UInt32}
    (h : ∀ x11Window ∈ windows, display.IsAlive x11Window) :
    (windows.forM fun x11Window => (display.derefVisible x11Window).map fun _ => ()) = .ok () := by
  induction windows with
  | nil => rfl
  | cons x11Window windows ih =>
      rw [List.forall_mem_cons] at h
      obtain ⟨window, -, hwindow⟩ := h.1.derefVisible
      rw [List.forM, hwindow]
      exact ih h.2

/-- The mouse moves, and the position is told with the cursor. -/
theorem exists_onClientMouseInstruction {x y : Int32} (buttonMask : UInt32)
    (halive : state.display.VisibleAlive)
    (hcursor : state.cursors.pointer.mouse.state.position ≠ ⟨x, y⟩ →
      state.cursors.pointer.mouse.state.cursor ≠ none) :
    ∃ state', state.onClientMouseInstruction answers client x y buttonMask = .ok state' := by
  obtain ⟨-, -, -, hsame⟩ := state.cursors.pointer.sendClientInstruction_spec answers.screen
    answers.moved x y buttonMask
  rw [onClientMouseInstruction]
  dsimp only
  rw [WebXDisplay.updateWindowCoverage, forM_derefVisible_eq halive]
  dsimp only [bind, Except.bind]
  split_ifs with hmoved
  · -- the cursor is the one before
    have hne : state.cursors.pointer.mouse.state.position ≠ ⟨x, y⟩ := by
      intro heq
      rw [heq] at hmoved
      simp at hmoved
    obtain ⟨cursorId, hcursorId⟩ := Option.ne_none_iff_exists'.mp (hcursor hne)
    rw [PointerState.getCursorId, hsame, hcursorId]
    exact ⟨_, rfl⟩
  · exact ⟨_, rfl⟩

/-- The client is told about the screen. -/
theorem exists_onScreenInstruction
    (hroot : (state.display.getWindow state.display.rootWindow).isSome)
    (houtputs : answers.outputs.Answered)
    (hsize : screenDataSize (WebXKeyboard.getKeyboardLayoutName state.keyboard.keyboard) < uint32Size) :
    ∃ state' message, state.onScreenInstruction settings engineVersion answers client id = .ok state' ∧
      state.Responds client id .screen message state' := by
  obtain ⟨window, hwindow⟩ := Option.isSome_iff_exists.mp hroot
  obtain ⟨canResizeScreen, hresize⟩ := WebXRandR.exists_canResizeScreen houtputs
  rw [onScreenInstruction, WebXDisplay.deref_of_getWindow hwindow, hresize]
  refine ⟨_, _, rfl, responds_sendMessage rfl rfl rfl rfl ?_ ?_⟩
  · exact trivial
  · rw [totalSize_screen]
    exact hsize

/-- The client is told about the windows. -/
theorem exists_onWindowsInstruction (halive : state.display.VisibleAlive)
    (hsize : 60 + 24 * state.display.visibleWindows.length < uint32Size) :
    ∃ state' message, state.onWindowsInstruction client id = .ok state' ∧
      state.Responds client id .windows message state' := by
  obtain ⟨windows, hwindows, hlength⟩ := exists_getVisibleWindowsProperties halive
  rw [onWindowsInstruction, WebXDisplay.getVisibleWindowsProperties, hwindows]
  refine ⟨_, _, rfl, responds_sendMessage rfl rfl rfl rfl ?_ ?_⟩
  · exact trivial
  · have hshaped := List.length_filter_le WebXWindowProperties.hasShape windows
    rw [totalSize_windows, windowsDataSize, messageHeaderSize]
    omega

/-- The client gets the image, which may be null. -/
theorem exists_onImageInstruction {windowId : UInt32} (hfindable : state.display.Findable windowId)
    (hsize : imageDataSize answers.grab.image < uint32Size) :
    ∃ state' message, state.onImageInstruction answers client id windowId = .ok state' ∧
      state.Responds client id .image message state' := by
  obtain ⟨image, display, hget, himage, -⟩ := WebXDisplay.exists_getImage hfindable none answers.grab
  rw [onImageInstruction, hget]
  refine ⟨_, _, rfl, responds_sendMessage rfl rfl rfl rfl ?_ ?_⟩
  · exact trivial
  · rw [totalSize_image]
    rcases himage with rfl | rfl
    · decide
    · exact hsize

/-- The client gets the shape, which may be null. -/
theorem exists_onShapeInstruction {windowId : UInt32} (hfindable : state.display.Findable windowId)
    (hsize : shapeDataSize (state.display.shapeMaskOf windowId answers.shape) < uint32Size) :
    ∃ state' message, state.onShapeInstruction answers client id windowId = .ok state' ∧
      state.Responds client id .shape message state' := by
  obtain ⟨display, hget, -⟩ := WebXDisplay.getWindowShapeMask_eq hfindable answers.shape
  rw [onShapeInstruction, hget]
  refine ⟨_, _, rfl, responds_sendMessage rfl rfl rfl rfl ?_ ?_⟩
  · exact trivial
  · rw [totalSize_shape]
    exact hsize

/-- The client gets a cursor that is there. -/
theorem exists_onCursorInstruction {cursorId : UInt32} {mouseCursor : WebXMouseCursor}
    (hcursor : state.cursors.getCursor cursorId = some mouseCursor)
    (hsize : cursorImageDataSize mouseCursor.image < uint32Size) :
    ∃ state' message, state.onCursorInstruction client id cursorId = .ok state' ∧
      state.Responds client id .cursorImage message state' := by
  rw [onCursorInstruction, hcursor]
  refine ⟨_, _, rfl, responds_sendMessage rfl rfl rfl rfl ?_ ?_⟩
  · exact rfl
  · rw [totalSize_cursorImage]
    exact hsize

/-- A cursor that is not there is used all the same. -/
theorem onCursorInstruction_eq_error {cursorId : UInt32}
    (h : state.cursors.getCursor cursorId = none) :
    state.onCursorInstruction client id cursorId = .error .nullDereference := by
  rw [onCursorInstruction, h]

/-- **An instruction of a client is handled**, and gets its response if there is to be one, when what it
needs is there. -/
theorem exists_handleInstructionOf (hready : state.Ready)
    {instruction : WebXInstruction} (h : state.CanHandleContent answers instruction.content) :
    ∃ state', state.handleInstructionOf settings engineVersion keyMaps depth answers client instruction =
        .ok state' ∧
      ∀ type, responseType instruction.content = some type →
        ∃ message, state.Responds client instruction.id type message state' := by
  obtain ⟨clientId, id, content⟩ := instruction
  -- an instruction that has no response
  have silent {content : WebXInstruction.Content} {result : Except Fault ControllerState}
      (hnone : responseType content = none) (hresult : ∃ state', result = .ok state') :
      ∃ state', result = .ok state' ∧ ∀ type, responseType content = some type →
        ∃ message, state.Responds client id type message state' := by
    obtain ⟨state', hok⟩ := hresult
    refine ⟨state', hok, fun type htype => ?_⟩
    rw [hnone] at htype
    cases htype
  -- an instruction that has one
  have answered {content : WebXInstruction.Content} {type : WebXMessageType}
      (hsome : responseType content = some type) {result : Except Fault ControllerState}
      (hresult : ∃ state' message, result = .ok state' ∧ state.Responds client id type message state') :
      ∃ state', result = .ok state' ∧ ∀ type, responseType content = some type →
        ∃ message, state.Responds client id type message state' := by
    obtain ⟨state', message, hok, hresponds⟩ := hresult
    refine ⟨state', hok, fun type' htype => ?_⟩
    cases hsome.symm.trans htype
    exact ⟨message, hresponds⟩
  cases content with
  | mouse x y buttonMask =>
      exact silent rfl (exists_onClientMouseInstruction buttonMask hready.settled.alive h)
  | keyboard key pressed =>
      obtain ⟨state', hok, -⟩ := exists_onKeyboardInstruction hready.neutral key pressed
      exact silent rfl ⟨state', hok⟩
  | screen => exact answered rfl (exists_onScreenInstruction h.1 h.2.1 h.2.2)
  | windows => exact answered rfl (exists_onWindowsInstruction hready.settled.alive h)
  | image windowId =>
      exact answered rfl (exists_onImageInstruction (hready.settled.alive.findable windowId) h)
  | shape windowId =>
      exact answered rfl (exists_onShapeInstruction (hready.settled.alive.findable windowId) h)
  | cursor cursorId =>
      obtain ⟨mouseCursor, hcursor, hsize⟩ := h
      exact answered rfl (exists_onCursorInstruction hcursor hsize)
  | screenResize width height =>
      obtain ⟨mode, hresize⟩ :=
        WebXRandR.exists_resizeScreen h answers.rootAttributes width height
      refine silent rfl ⟨state, ?_⟩
      rw [handleInstructionOf]
      dsimp only
      rw [hresize]
      rfl
  | quality qualityIndex | pong sendTimestampMs recvTimestampMs
  | dataAck sendTimestampMs recvTimestampMs dataLength | clipboard clipboardContent
  | keyboardLayout keyboardLayout => exact silent rfl ⟨_, rfl⟩

/-- The instruction of an unknown client is left alone. -/
theorem handleClientInstruction_of_unknown {received : WebXInstruction × InstructionAnswers}
    (h : state.registry.getClientById received.1.clientId = none) :
    handleClientInstruction settings engineVersion keyMaps depth state received = .ok state := by
  rw [handleClientInstruction, h]

/-- An instruction of the queue is handled. -/
theorem exists_handleClientInstruction (hready : state.Ready)
    {received : WebXInstruction × InstructionAnswers} (h : state.CanHandle received) :
    ∃ state', handleClientInstruction settings engineVersion keyMaps depth state received = .ok state' ∧
      state.Handled received.1 state' := by
  cases hclient : state.registry.getClientById received.1.clientId with
  | none =>
      -- an instruction of a client that is not registered changes nothing
      refine ⟨state, handleClientInstruction_of_unknown hclient, fun _ => rfl,
        fun client type hsome => ?_⟩
      cases hclient.symm.trans hsome
  | some client =>
      obtain ⟨state', hok, hresponse⟩ :
          ∃ state', state.handleInstructionOf settings engineVersion keyMaps depth received.2 client
              received.1 = .ok state' ∧ ∀ type, responseType received.1.content = some type →
            ∃ message, state.Responds client received.1.id type message state' :=
        exists_handleInstructionOf hready (h (Option.isSome_of_eq_some hclient))
      refine ⟨state', ?_, fun hnone => ?_, fun client' type hsome htype => ?_⟩
      · rw [handleClientInstruction, hclient]
        exact hok
      · cases hclient.symm.trans hnone
      · cases hclient.symm.trans hsome
        exact hresponse type htype

/-- **A queue of instructions is handled to its end**, when each of them can be handled in its turn. -/
theorem exists_handleClientInstructions
    (instructions : List (WebXInstruction × InstructionAnswers)) :
    ∀ {state : ControllerState}, state.Ready →
      CanHandleAll settings engineVersion keyMaps depth CanHandle instructions state →
      ∃ state', state.handleClientInstructions settings engineVersion keyMaps depth instructions =
          .ok state' ∧ Processed state instructions state' := by
  induction instructions with
  | nil => exact fun {state} _ _ => ⟨state, rfl, .nil state⟩
  | cons received others ih =>
      intro state hready hall
      obtain ⟨state', hok, hhandled⟩ := exists_handleClientInstruction hready hall.1
      obtain ⟨state'', hok', hprocessed⟩ :=
        ih (hready.handleClientInstruction hok) (hall.2 state' hok)
      refine ⟨state'', ?_, .cons hhandled hprocessed⟩
      rw [handleClientInstructions, List.foldlM_cons, hok]
      exact hok'

end Responses

end ControllerState

/-! ## The engine -/

/-- What happens to the engine. -/
inductive ControllerAction (root : UInt32)
  /-- The events of the server about windows, and the calls to the registry. -/
  | engine (action : EngineAction root)
  /-- A window is read for the updates of the clients. -/
  | getImage (x11Window : UInt32) (imageRectangle : Option WebXRectangle) (grab : GrabAnswer)
  | getWindowShapeMask (x11Window : UInt32) (shape : XWindowShape)
  /-- The shape of a window has changed. -/
  | updateWindowShape (x11Window : UInt32) (shape : XWindowShape)
  /-- The clients are told about the windows. -/
  | notifyDisplayChanged
  /-- X shows another cursor. -/
  | updateMouseCursor (answer : Option XFixesCursorImage)
  /-- The clients are told the cursor. -/
  | notifyCursorChanged
  /-- Another program moves the pointer. -/
  | move (position : ScreenPosition)
  /-- The position is refreshed by the loop of the controller. -/
  | updateMousePosition
  /-- The layout of the settings is loaded. -/
  | loadKeyboardLayout (layoutOrName : List UInt8) (xkb : XkbAnswers)
  /-- What happens to the clipboard. -/
  | clipboard (action : ClipboardAction)
  /-- The screen has another size. -/
  | onScreenResizeEvent (width height : Int32)
  /-- The instructions of the clients. -/
  | handleClientInstructions (instructions : List (WebXInstruction × InstructionAnswers))

namespace ControllerState

section Engine

variable {root : UInt32} (settings : WebXSettings) (engineVersion : WebXVersion) (keyMaps : KeyMaps)
  (depth stackDepth : ℕ) (state : ControllerState)

/-- Tells the clients about the windows. -/
def notifyDisplayChanged : Except Fault ControllerState := do
  let windows ← state.display.getVisibleWindowsProperties
  return state.sendMessage ⟨globalClientIndexMask, .windows WebXMessage.noCommandId windows⟩

/-- Tells the clients the cursor. -/
def notifyCursorChanged : Except Fault ControllerState := do
  let cursorId ← state.cursors.pointer.getCursorId
  return state.sendMessage ⟨globalClientIndexMask, .mouse (-1) (-1) cursorId⟩

/-- Tells the clients the position. -/
def notifyMousePositionChanged : Except Fault ControllerState := do
  let mouseState := state.cursors.pointer.mouse.state
  let cursorId ← state.cursors.pointer.getCursorId
  return state.sendMessage ⟨globalClientIndexMask, .mouse mouseState.x mouseState.y cursorId⟩

/-- The mouse is changed. -/
def setPointer (pointer : PointerState) : ControllerState :=
  { state with cursors := { state.cursors with pointer := pointer } }

/-- Refreshes the position. -/
def updateMousePosition : Except Fault ControllerState := do
  let state := state.setPointer state.cursors.pointer.updatePosition
  if state.cursors.pointer.mouse.isDirty then
    let state ← state.notifyMousePositionChanged
    return state.setPointer (state.cursors.pointer.setDirty false)
  else
    return state

/-- One action. -/
def step : ControllerAction root → Except Fault ControllerState
  | .engine action =>
      (state.toEngineState.step settings stackDepth action).map fun engine =>
        { state with toEngineState := engine }
  | .getImage x11Window imageRectangle grab =>
      (state.display.getImage x11Window imageRectangle grab).map fun result =>
        { state with display := result.2 }
  | .getWindowShapeMask x11Window shape =>
      (state.display.getWindowShapeMask x11Window shape).map fun result =>
        { state with display := result.2 }
  | .updateWindowShape x11Window shape =>
      (state.display.updateWindowShape x11Window shape).map fun display =>
        { state with display := display }
  | .notifyDisplayChanged => state.notifyDisplayChanged
  | .updateMouseCursor answer => .ok { state with cursors := state.cursors.updateCursor answer }
  | .notifyCursorChanged => state.notifyCursorChanged
  | .move position => .ok (state.setPointer (state.cursors.pointer.moved (some position)))
  | .updateMousePosition => state.updateMousePosition
  | .loadKeyboardLayout layoutOrName xkb =>
      .ok { state with
        keyboard := (state.keyboard.loadKeyboardLayout keyMaps.maps xkb layoutOrName).2 }
  | .clipboard action =>
      (state.clipboard.step action).map fun clipboard => { state with clipboard := clipboard }
  | .onScreenResizeEvent width height =>
      .ok (state.sendMessage ⟨globalClientIndexMask, .screenResize width height⟩)
  | .handleClientInstructions instructions =>
      state.handleClientInstructions settings engineVersion keyMaps depth instructions

/-- The engine when it starts. -/
def start (display : WebXDisplay) (cursors : MouseCursors) (keyboard : KeyboardState)
    (owner : Option SelectionOwner) : ControllerState :=
  { EngineState.start display with
    cursors := cursors
    keyboard := keyboard
    clipboard := .create owner
    sent := [] }

/-- The states of the engine after any actions. The layout of the keyboard is that of X at the start. -/
def Reachable (root : UInt32) : Prop :=
  ∃ (server : XServer root) (display : WebXDisplay) (pointer : ScreenPosition)
    (answer : Option XFixesCursorImage) (getAnswers setAnswers : XkbAnswers) (keyboard : KeyboardState)
    (owner : Option SelectionOwner) (actions : List (ControllerAction root)),
    WebXDisplay.init server = .ok display ∧
    WebXKeyboard.init keyMaps.maps getAnswers setAnswers .create = .ok keyboard ∧
    actions.foldlM (step settings engineVersion keyMaps depth stackDepth)
      (start display (.create pointer answer) keyboard owner) = .ok state

/-- In all states of the engine, the instructions of a queue are handled to the end and answered, if each
of them meets a condition in its turn. -/
def InstructionsProcessed (root : UInt32)
    (condition : ControllerState → WebXInstruction × InstructionAnswers → Prop) : Prop :=
  ∀ state, Reachable settings engineVersion keyMaps depth stackDepth state root → ∀ instructions,
    CanHandleAll settings engineVersion keyMaps depth condition instructions state →
    ∃ state', state.handleClientInstructions settings engineVersion keyMaps depth instructions =
        .ok state' ∧ Processed state instructions state'

/-! ## The instructions of a run -/

variable {settings engineVersion keyMaps depth stackDepth state} {state' : ControllerState}

/-- The layouts that are loaded when the engine starts are those of the engine. -/
theorem hasNeutralLayout_start {getAnswers setAnswers : XkbAnswers} {keyboard : KeyboardState}
    (hinit : WebXKeyboard.init keyMaps.maps getAnswers setAnswers .create = .ok keyboard)
    (display : WebXDisplay) (cursors : MouseCursors) (owner : Option SelectionOwner) :
    (start display cursors keyboard owner).HasNeutralLayout := by
  intro mapping hmapping
  rw [WebXKeyboard.init] at hinit
  cases hfound : WebXKeyboard.getKeyboardMapping keyMaps.maps (WebXKB.getKeyboardLayout getAnswers) with
  | none =>
      rw [hfound] at hinit
      cases hinit
  | some found =>
      rw [hfound, WebXKeyboard.loadKeyboardLayout, hfound] at hinit
      cases hinit
      cases hmapping
      exact keyMaps.neutral mapping (List.mem_of_find?_eq_some hfound)

/-- A queue of instructions that is handled leaves the engine ready. -/
theorem Ready.handleClientInstructions (hready : state.Ready)
    {instructions : List (WebXInstruction × InstructionAnswers)}
    (h : state.handleClientInstructions settings engineVersion keyMaps depth instructions =
      .ok state') : state'.Ready :=
  (Run.of_foldlM h).invariant (fun _ _ _ hs _ hstep => hs.handleClientInstruction hstep) hready

/-- **Every action leaves the engine ready**: none brings another layout than those of the engine, and the
visible windows are looked for in the action in which one may be freed. -/
theorem Ready.step (hready : state.Ready) {action : ControllerAction root}
    (h : state.step settings engineVersion keyMaps depth stackDepth action = .ok state') :
    state'.Ready := by
  obtain ⟨hneutral, hsettled⟩ := hready
  cases action with
  | engine action =>
      obtain ⟨engine, hengine, rfl⟩ := exists_of_map_eq_ok h
      exact ⟨hneutral, hsettled.step hengine⟩
  | getImage x11Window imageRectangle grab =>
      obtain ⟨result, himage, rfl⟩ := exists_of_map_eq_ok h
      have hsame := WebXDisplay.sameWindows_getImage himage
      exact ⟨hneutral, hsettled.updated, hsettled.alive.of_sameWindows hsame⟩
  | getWindowShapeMask x11Window shape =>
      obtain ⟨result, hshape, rfl⟩ := exists_of_map_eq_ok h
      have hsame := WebXDisplay.sameWindows_getWindowShapeMask hshape
      exact ⟨hneutral, hsettled.updated, hsettled.alive.of_sameWindows hsame⟩
  | updateWindowShape x11Window shape =>
      obtain ⟨display, hshape, rfl⟩ := exists_of_map_eq_ok h
      have hsame := WebXDisplay.sameWindows_updateWindowShape hshape
      exact ⟨hneutral, hsettled.updated, hsettled.alive.of_sameWindows hsame⟩
  | clipboard action =>
      obtain ⟨result, -, rfl⟩ := exists_of_map_eq_ok h
      exact ⟨hneutral, hsettled⟩
  | notifyDisplayChanged | notifyCursorChanged =>
      obtain ⟨told, -, h⟩ := exists_of_bind_eq_ok h
      cases h
      exact ⟨hneutral, hsettled⟩
  | updateMouseCursor answer | move position | onScreenResizeEvent width height =>
      cases h
      exact ⟨hneutral, hsettled⟩
  | updateMousePosition =>
      rw [ControllerState.step, ControllerState.updateMousePosition] at h
      split_ifs at h
      -- the position has changed, and the clients are told
      · obtain ⟨after, hnotify, h⟩ := exists_of_bind_eq_ok h
        obtain ⟨cursorId, -, hnotify⟩ := exists_of_bind_eq_ok hnotify
        cases hnotify
        cases h
        exact ⟨hneutral, hsettled⟩
      · cases h
        exact ⟨hneutral, hsettled⟩
  | loadKeyboardLayout layoutOrName xkb =>
      cases h
      -- only here and in the instructions is the layout set
      exact ⟨(KeyboardState.loadKeyboardLayout_spec xkb layoutOrName hneutral).1, hsettled⟩
  | handleClientInstructions instructions =>
      exact Ready.handleClientInstructions ⟨hneutral, hsettled⟩ h

/-- **When a queue of instructions is handled**, no visible window was freed, whatever happened before. -/
theorem Reachable.ready
    (h : Reachable settings engineVersion keyMaps depth stackDepth state root) : state.Ready := by
  obtain ⟨server, display, pointer, answer, getAnswers, setAnswers, keyboard, owner, actions, hdisplay,
    hinit, hrun⟩ := h
  exact (Run.of_foldlM hrun).invariant (P := Ready) (fun _ _ _ hs _ hstep => hs.step hstep)
    ⟨hasNeutralLayout_start hinit _ _ owner, EngineState.settled_start hdisplay⟩

end Engine

end ControllerState

/-- **The instructions of the clients are handled and answered**, as long as what they need is there: in
particular the cursors that the clients ask for. -/
theorem instructionsProcessed (settings : WebXSettings) (engineVersion : WebXVersion)
    (keyMaps : KeyMaps) (depth stackDepth : ℕ) (root : UInt32) :
    ControllerState.InstructionsProcessed settings engineVersion keyMaps depth stackDepth root
      ControllerState.CanHandle :=
  fun _ hreachable instructions hall =>
    ControllerState.exists_handleClientInstructions instructions hreachable.ready hall

namespace ControllerState

/-! ### A cursor that is not known -/

/-- A screen without other windows. -/
def emptyScreen : XServer 1 where
  tree := .node 1 ⟨0, 0, 640, 480, true, true⟩ []
  shapes := fun _ => ⟨true, none⟩
  unwritten := ⟨0, 0, 0, 0, false, false⟩
  root_eq := rfl
  root_shown := rfl
  nodup := by decide
  nonzero := by simp [XTree.windows, XTree.subtrees, XTree.subtreesAmong, XTree.window]
  shown := rfl

/-- The answers of X for this screen. -/
def emptyScreenAnswers : InstructionAnswers where
  screen := ⟨639, 479, by decide, by decide⟩
  moved := none
  rootAttributes := ⟨0, 0, 640, 480, true, true⟩
  outputs := ⟨some ⟨[], []⟩, fun _ => none⟩
  randr := ⟨1, 1, 1024, 768, fun _ => ⟨some ⟨[], []⟩, fun _ => none⟩, 0, true, true, true, fun _ mode => mode⟩
  grab := ⟨true, ⟨0, 0, 640, 480, true, true⟩, none⟩
  shape := ⟨true, none⟩
  xkb := KeyboardState.xkbSuccess
  now := 0

/-- The cursor that X shows. -/
def arrow : XFixesCursorImage where
  checksum := 9
  image := some ⟨.png, 16, 16, [], none, 0, 0, 32⟩
  xhot := 0
  yhot := 0

/-- One client is connected, and X shows one cursor. -/
theorem exists_oneClient : ∃ state,
    Reachable .default ⟨1, 0, 0⟩ KeyboardState.gbAndFr 0 8 state 1 ∧
      (∃ client, state.registry.getClientById 7 = some client) ∧
      state.registry.getClientById 8 = none ∧ state.display.visibleWindows = [] ∧
      (∃ cursor, state.cursors.getCursor 9 = some cursor ∧
        WebXMessageEncoder.cursorImageDataSize cursor.image < uint32Size) ∧
      state.cursors.getCursor 5 = none := by
  obtain ⟨keyboard, hinit⟩ : ∃ keyboard, WebXKeyboard.init KeyboardState.gbAndFr.maps
      KeyboardState.xkbSuccess KeyboardState.xkbSuccess .create = .ok keyboard := ⟨_, rfl⟩
  obtain ⟨display, hdisplay, hvisible⟩ : ∃ display, WebXDisplay.init emptyScreen = .ok display ∧
      display.visibleWindows = [] := ⟨_, rfl, rfl⟩
  let cursors : MouseCursors := .create ⟨⟨0, 0⟩, by decide, by decide⟩ (some arrow)
  let actions : List (ControllerAction 1) := [.engine (.registry (.addClient ⟨1, 0, 0⟩ [7] 0))]
  obtain ⟨state, hstate⟩ : ∃ state, actions.foldlM
      (step .default ⟨1, 0, 0⟩ KeyboardState.gbAndFr 0 8) (start display cursors keyboard none) =
        .ok state := ⟨_, rfl⟩
  refine ⟨state, ⟨emptyScreen, display, _, _, _, _, keyboard, none, actions, hdisplay, hinit, hstate⟩, ?_⟩
  cases hstate
  refine ⟨?_, ?_, hvisible, ⟨_, rfl, by decide⟩, rfl⟩
  · have hregistered : (((WebXClientRegistry.create.addClient .default ⟨1, 0, 0⟩ [7] 0).map
        Prod.snd).getD .create).getClientById 7 ≠ none := by decide +kernel
    exact Option.ne_none_iff_exists'.mp hregistered
  · have hunknown : (((WebXClientRegistry.create.addClient .default ⟨1, 0, 0⟩ [7] 0).map
        Prod.snd).getD .create).getClientById 8 = none := by decide +kernel
    exact hunknown

/-- The client asks for the cursor and for the windows; an instruction of an unknown client is between. -/
def cursorAndWindows : List (WebXInstruction × InstructionAnswers) :=
  [(⟨7, 1, .cursor 9⟩, emptyScreenAnswers), (⟨8, 2, .cursor 5⟩, emptyScreenAnswers),
    (⟨7, 3, .windows⟩, emptyScreenAnswers)]

/-- The instructions are handled and answered. -/
theorem instructionsProcessed_cursorAndWindows : ∃ state state',
    Reachable .default ⟨1, 0, 0⟩ KeyboardState.gbAndFr 0 8 state 1 ∧
      (∃ client, state.registry.getClientById 7 = some client) ∧
      state.handleClientInstructions .default ⟨1, 0, 0⟩ KeyboardState.gbAndFr 0 cursorAndWindows =
        .ok state' ∧ Processed state cursorAndWindows state' := by
  obtain ⟨state, hreachable, ⟨client, hclient⟩, hunknown, hvisible, ⟨cursor, hcursor, hsize⟩, -⟩ :=
    exists_oneClient
  have hall : CanHandleAll .default ⟨1, 0, 0⟩ KeyboardState.gbAndFr 0 CanHandle cursorAndWindows state := by
    refine ⟨fun _ => ⟨cursor, hcursor, hsize⟩, fun answered hanswered => ?_⟩
    -- the response to the first instruction changes neither the clients nor the windows
    rw [handleClientInstruction, hclient] at hanswered
    change state.onCursorInstruction client 1 9 = .ok answered at hanswered
    rw [onCursorInstruction, hcursor] at hanswered
    cases hanswered
    refine ⟨fun hsome => ?_, fun unchanged hunchanged => ?_⟩
    · change (state.registry.getClientById 8).isSome = true at hsome
      rw [hunknown] at hsome
      cases hsome
    · cases (handleClientInstruction_of_unknown hunknown).symm.trans hunchanged
      refine ⟨fun _ => ?_, fun _ _ => trivial⟩
      change 60 + 24 * state.display.visibleWindows.length < uint32Size
      rw [hvisible]
      decide
  obtain ⟨state', hok, hprocessed⟩ := instructionsProcessed .default ⟨1, 0, 0⟩ KeyboardState.gbAndFr 0 8
    1 state hreachable cursorAndWindows hall
  exact ⟨state, state', hreachable, ⟨client, hclient⟩, hok, hprocessed⟩

/-- A client that is connected asks for another cursor than the one that X shows. -/
theorem not_instructionsProcessed :
    ¬ InstructionsProcessed .default ⟨1, 0, 0⟩ KeyboardState.gbAndFr 0 8 1 fun _ _ => True := by
  intro h
  obtain ⟨state, hreachable, ⟨client, hclient⟩, -, -, -, hcursor⟩ := exists_oneClient
  obtain ⟨state', hhandled, -⟩ := h state hreachable [(⟨7, 1, .cursor 5⟩, emptyScreenAnswers)]
    ⟨trivial, fun _ _ => trivial⟩
  -- its instruction asks for a cursor that was never told
  have herror : handleClientInstruction .default ⟨1, 0, 0⟩ KeyboardState.gbAndFr 0 state
      (⟨7, 1, .cursor 5⟩, emptyScreenAnswers) = .error .nullDereference := by
    rw [handleClientInstruction, hclient]
    exact onCursorInstruction_eq_error hcursor
  rw [handleClientInstructions, List.foldlM_cons, herror] at hhandled
  cases hhandled

end ControllerState

end WebXEngine
