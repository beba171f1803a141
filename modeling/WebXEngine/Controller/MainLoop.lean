import WebXEngine.Controller.ShapeUpdates

/-! # The main loop of the controller

The loop handles the instructions that were received, then the events of X, and tells the clients what has
changed. It is stopped from outside. The subscriber adds instructions, the connector adds and removes
clients, and other programs use the pointer and the clipboard, between any two of its steps.

* **`MainLoop`** — the controller, its place in the loop, and what it has still to tell the clients.
* **`MainLoop.step`** — the steps of the loop, and what happens around it.
* **`MainLoopStage.Allows`** — where in the loop each step is made. -/

namespace WebXEngine

/-- The place of the controller in its loop. -/
inductive MainLoopStage
  /-- The loop was not started. -/
  | created
  /-- The state is tested. -/
  | beforeSleep
  /-- The state is tested again. -/
  | afterSleep
  /-- The instructions that are left are handled, while no others are received. -/
  | instructions (remaining : List WebXInstruction)
  /-- The clipboard is polled. -/
  | clipboard
  /-- The events of the queue are handled. -/
  | events
  /-- The clients are told about the windows. -/
  | display
  /-- The clients are told the cursor. -/
  | cursor
  | pings
  | windows
  | qualities
  /-- The position of the pointer is refreshed. -/
  | mouse
  /-- The loop has ended. -/
  | ended
  deriving DecidableEq, Repr

/-- An event of the queue of X. -/
inductive HandledEvent (root : UInt32)
  /-- An event about a window, its size or its damage. -/
  | window (event : XEvent root)
  /-- X shows another cursor. -/
  | cursor (answer : Option XFixesCursorImage)
  /-- The shape of a window has changed. -/
  | shape (x11Window : UInt32) (shape : XWindowShape)
  /-- An application answers a conversion of the clipboard. -/
  | selection
  /-- An application requests the clipboard. -/
  | selectionRequest (request : XSelectionRequestEvent)
  /-- The screen has another size; the attributes of the root window at that time. -/
  | screenChange (width height : Int32) (rootAttributes : XWindowAttributes)

/-- The steps of the loop with the answers of X and the time, and what happens around it. -/
inductive MainLoopAction (root : UInt32)
  /-- The loop is started; a test adds a client. -/
  | run (testing : Bool) (draws : List UInt32) (now : Time)
  | testState (now : Time)
  | handleClientInstruction (answers : InstructionAnswers)
  | clearInstructions
  | updateClipboard (now : Time)
  | handleEvent (event : HandledEvent root) (now : Time)
  /-- The queue is empty. -/
  | updateDisplay (server : XServer root) (now : Time)
  | notifyDisplayChanged
  | notifyCursorChanged
  /-- The clients get pings, unless it is a test. -/
  | handleClientPings (testing : Bool) (now : Time)
  | updateClientWindows (update : ClientUpdate)
  | performQualityVerification (measure : UInt32 → WebXClientMeasure) (now : Time)
  | refreshMouse (now : Time)
  /-- The loop is stopped by a signal. -/
  | stop
  /-- The subscriber has an instruction. -/
  | receive (instruction : WebXInstruction)
  /-- The connector adds a client. -/
  | addClient (clientVersion : WebXVersion) (draws : List UInt32) (now : Time)
  /-- The connector removes a client. -/
  | removeClient (clientId : UInt32)
  /-- Another program moves the pointer. -/
  | move (position : ScreenPosition)
  /-- An application answers a conversion of the clipboard. -/
  | reply (conversion : Conversion) (event : XSelectionEvent) (property : WindowProperty)
  /-- An application takes the clipboard, or nobody has it. -/
  | ownerChanged (window : Option UInt32)

/-- The places in the loop where an action is taken. The instructions are locked while they are handled;
everything else that happens around the loop happens anywhere. -/
def MainLoopStage.Allows {root : UInt32} (stage : MainLoopStage) : MainLoopAction root → Prop
  | .run _ _ _ => stage = .created
  | .testState _ => stage = .beforeSleep ∨ stage = .afterSleep
  | .handleClientInstruction _ =>
      ∃ instruction remaining, stage = .instructions (instruction :: remaining)
  | .clearInstructions => stage = .instructions []
  | .updateClipboard _ => stage = .clipboard
  | .handleEvent _ _ => stage = .events
  | .updateDisplay _ _ => stage = .events
  | .notifyDisplayChanged => stage = .display
  | .notifyCursorChanged => stage = .cursor
  | .handleClientPings _ _ => stage = .pings
  | .updateClientWindows _ => stage = .windows
  | .performQualityVerification _ _ => stage = .qualities
  | .refreshMouse _ => stage = .mouse
  | .receive _ => ∀ remaining, stage ≠ .instructions remaining
  | .stop | .addClient _ _ _ | .removeClient _ | .move _ | .reply _ _ _ | .ownerChanged _ => True

/-- The controller in its loop, whether its handlers are set, what it has to tell the clients, the
instructions that were received, and those that were handled. -/
structure MainLoop extends ControllerState where
  stage : MainLoopStage
  isRunning : Bool
  hasHandlers : Bool
  displayDirty : Bool
  cursorDirty : Bool
  instructions : List WebXInstruction
  startTime : Time
  lastMouseRefreshTime : Time
  received : List WebXInstruction
  handled : List WebXInstruction

namespace MainLoop

/-- How often a pointer that was moved by other programs is looked for. -/
def mouseRefreshDelay : Time := Time.ofMs 100

/-- The controller before its loop is started. -/
def create (controller : ControllerState) : MainLoop where
  toControllerState := controller
  stage := .created
  isRunning := false
  hasHandlers := true
  displayDirty := true
  cursorDirty := true
  instructions := []
  startTime := 0
  lastMouseRefreshTime := 0
  received := []
  handled := []

section Steps

variable {root : UInt32} (settings : WebXSettings) (checksum : List UInt8 → UInt32)
  (engineVersion : WebXVersion) (keyMaps : KeyMaps) (depth stackDepth : ℕ) (state : MainLoop)

/-- A call to the registry. -/
def callRegistry (op : RegistryOp) : Except Fault MainLoop := do
  let called ← RegistryState.step settings ⟨state.registry, []⟩ op
  return { state with registry := called.registry }

/-- The handler of the events of the display: the clients have to be told. -/
def onCursorEvent : MainLoop :=
  if state.hasHandlers then { state with cursorDirty := true } else state

/-- The handler of the events of the display: the clients have to be told. -/
def onWindowLayoutEvent : MainLoop :=
  if state.hasHandlers then { state with displayDirty := true } else state

/-- A client is added for a test. -/
def addTestClient (testing : Bool) (draws : List UInt32) (now : Time) : Except Fault MainLoop :=
  if testing then state.callRegistry settings (.addClient ⟨0, 0, 0⟩ draws now) else .ok state

/-- Starts the loop. -/
def run (testing : Bool) (draws : List UInt32) (now : Time) : Except Fault MainLoop := do
  let state ← state.addTestClient settings testing draws now
  return { state with
    stage := .beforeSleep, isRunning := true, startTime := now, lastMouseRefreshTime := now }

/-- The tests of the state before and after the sleep. -/
def testState (now : Time) : MainLoop :=
  match state.stage with
  | .beforeSleep => { state with stage := if state.isRunning then .afterSleep else .ended }
  | .afterSleep =>
      if state.isRunning then
        { state with stage := .instructions state.instructions, startTime := now }
      else { state with stage := .beforeSleep }
  | _ => state

/-- Handles the next instruction. -/
def handleNextInstruction (answers : InstructionAnswers) : Except Fault MainLoop :=
  match state.stage with
  | .instructions (instruction :: remaining) => do
      let controller ← state.toControllerState.handleClientInstruction settings engineVersion keyMaps
        depth (instruction, answers)
      return { state with
        toControllerState := controller
        stage := .instructions remaining
        handled := state.handled ++ [instruction] }
  | _ => .ok state

/-- An event about a window. Damage is not reported when there is no handler for it. -/
def handleWindowEvent (event : XEvent root) (now : Time) : Except Fault MainLoop := do
  let engine ← EngineState.handleQueuedEvent settings stackDepth now state.toEngineState event
  let registry := if state.hasHandlers then engine.registry else state.registry
  return { state with toEngineState := { engine with registry := registry } }

/-- An application answers a conversion. The clients are not told when there is no handler. -/
def handleSelectionEvent : MainLoop :=
  let clipboard := state.clipboard.handleSelectionEvents
  let sent := if state.hasHandlers then clipboard.sent else state.clipboard.sent
  { state with clipboard := { clipboard with sent := sent } }

/-- Handles an event of the queue. -/
def handleEvent (now : Time) : HandledEvent root → Except Fault MainLoop
  | .window event => state.handleWindowEvent settings stackDepth event now
  | .cursor answer =>
      .ok { state with cursors := state.cursors.updateCursor answer }.onCursorEvent
  | .shape x11Window shape => do
      let display ← state.display.updateWindowShape x11Window shape
      return { state with display := display }
  | .selection => .ok state.handleSelectionEvent
  | .selectionRequest request => do
      let clipboard ← state.clipboard.step (.selectionRequest request)
      return { state with clipboard := clipboard }
  | .screenChange width height rootAttributes =>
      -- an event with another size than that of the root window is ignored
      if width ≠ rootAttributes.width ∨ height ≠ rootAttributes.height then .ok state
      else .ok { state with
        sent := state.sent ++ [⟨globalClientIndexMask, .screenResize width height⟩] }

/-- The end of the events: the visible windows are looked for again when some event requires it. -/
def updateDisplay (server : XServer root) (now : Time) : Except Fault MainLoop := do
  let engine : EngineState := { state.toEngineState with
    damageFilters := WebXEventListener.removeOldFilters now state.damageFilters }
  let updated ← engine.updateDisplay server
  let state' : MainLoop := { state with toEngineState := updated, stage := .display }
  return if state.displayRequiresUpdate then state'.onWindowLayoutEvent else state'

/-- Tells the clients about the windows. -/
def notifyDisplay : Except Fault MainLoop := do
  if state.displayDirty then
    let controller ← state.toControllerState.notifyDisplayChanged
    return { state with toControllerState := controller, stage := .cursor, displayDirty := false }
  else
    return { state with stage := .cursor }

/-- Tells the clients the cursor. -/
def notifyCursor : Except Fault MainLoop := do
  if state.cursorDirty then
    let controller ← state.toControllerState.notifyCursorChanged
    return { state with toControllerState := controller, stage := .pings, cursorDirty := false }
  else
    return { state with stage := .pings }

/-- The clients get pings, unless it is a test. -/
def sendPings (testing : Bool) (now : Time) : Except Fault MainLoop :=
  if testing then .ok state else state.callRegistry settings (.handleClientPings now)

/-- Refreshes the position of the pointer, some time after it was found to be moved. -/
def refreshMouse (now : Time) : Except Fault MainLoop := do
  if state.startTime - state.lastMouseRefreshTime > mouseRefreshDelay then
    let controller ← state.toControllerState.updateMousePosition
    let isDirty := state.cursors.pointer.updatePosition.mouse.isDirty
    return { state with
      toControllerState := controller
      stage := .beforeSleep
      lastMouseRefreshTime := if isDirty then now else state.lastMouseRefreshTime }
  else
    return { state with stage := .beforeSleep }

/-- The loop is stopped: the clients are disconnected, and the handlers are removed. -/
def stop : Except Fault MainLoop := do
  let state ← state.callRegistry settings .disconnectAll
  return { state with isRunning := false, hasHandlers := false }

/-- The subscriber has an instruction. -/
def receive (instruction : WebXInstruction) : MainLoop :=
  if state.hasHandlers then
    { state with
      instructions := state.instructions ++ [instruction]
      received := state.received ++ [instruction] }
  else state

/-- One action. -/
def step (state : MainLoop) : MainLoopAction root → Except Fault MainLoop
  | .run testing draws now => state.run settings testing draws now
  | .testState now => .ok (state.testState now)
  | .handleClientInstruction answers =>
      state.handleNextInstruction settings engineVersion keyMaps depth answers
  | .clearInstructions => .ok { state with stage := .clipboard, instructions := [] }
  | .updateClipboard now => do
      let clipboard ← state.clipboard.step (.updateClipboard now)
      return { state with clipboard := clipboard, stage := .events }
  | .handleEvent event now => state.handleEvent settings stackDepth now event
  | .updateDisplay server now => state.updateDisplay server now
  | .notifyDisplayChanged => state.notifyDisplay
  | .notifyCursorChanged => state.notifyCursor
  | .handleClientPings testing now => do
      let state ← state.sendPings settings testing now
      return { state with stage := .windows }
  | .updateClientWindows update => do
      let controller ← state.toControllerState.updateClientWindows settings checksum update
      return { state with toControllerState := controller, stage := .qualities }
  | .performQualityVerification measure now => do
      let state ← state.callRegistry settings (.performQualityVerification measure now)
      return { state with stage := .mouse }
  | .refreshMouse now => state.refreshMouse now
  | .stop => state.stop settings
  | .receive instruction => .ok (state.receive instruction)
  | .addClient clientVersion draws now =>
      if state.hasHandlers then
        state.callRegistry settings (.addClient clientVersion draws now)
      else .ok state
  | .removeClient clientId =>
      if state.hasHandlers then state.callRegistry settings (.removeClient clientId) else .ok state
  | .move position =>
      .ok { state with
        toControllerState :=
          state.toControllerState.setPointer (state.cursors.pointer.moved (some position)) }
  | .reply conversion event property => do
      let clipboard ← state.clipboard.step (.reply conversion event property)
      return { state with clipboard := clipboard }
  | .ownerChanged window => do
      let clipboard ← state.clipboard.step (.ownerChanged window)
      return { state with clipboard := clipboard }

/-- The runs of the loop: every step is made in its place. -/
abbrev Runs (start : MainLoop) (actions : List (MainLoopAction root)) (state : MainLoop) : Prop :=
  Run (step settings checksum engineVersion keyMaps depth stackDepth)
    (fun state action => state.stage.Allows action) start actions state

end Steps

end MainLoop

end WebXEngine
