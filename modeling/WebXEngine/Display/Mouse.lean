import Mathlib.Data.Nat.Notation
import Mathlib.Logic.Basic
import Mathlib.Tactic.SplitIfs
import WebXEngine.Utils.Fault

/-! # The mouse

The engine moves the pointer of X and keeps a copy of its position, which is compared with the pointer
now and then since other programs move the pointer too. X keeps the pointer on the screen.

* **`PointerState.sendClientInstruction`** — moves the pointer and presses the buttons of a client.
* **`PointerState.updatePosition`** — takes the position of the pointer; the mouse becomes dirty when it
  changes. -/

namespace WebXEngine

/-- A position relative to the root window. -/
structure WebXPosition where
  x : Int32
  y : Int32
  deriving DecidableEq, Repr

/-- The position of the pointer of X, which is on the screen. -/
structure ScreenPosition extends WebXPosition where
  x_nonneg : 0 ≤ x
  y_nonneg : 0 ≤ y
  deriving DecidableEq, Repr

/-- The screen of X, by its last column and its last line. -/
structure Screen where
  right : Int32
  bottom : Int32
  right_nonneg : 0 ≤ right
  bottom_nonneg : 0 ≤ bottom
  deriving DecidableEq, Repr

namespace Screen

/-- A coordinate that is too small or too large becomes the first or the last one. -/
def clampCoordinate (last coordinate : Int32) : Int32 :=
  if coordinate < 0 then 0 else if last < coordinate then last else coordinate

/-- No coordinate is negative. -/
theorem clampCoordinate_nonneg {last : Int32} (hlast : 0 ≤ last) (coordinate : Int32) :
    0 ≤ clampCoordinate last coordinate := by
  rw [clampCoordinate]
  split_ifs with hsmall hlarge
  · decide
  · exact hlast
  · exact Int32.not_lt.mp hsmall

/-- Where the pointer goes when it is sent to a position. -/
def clamp (screen : Screen) (position : WebXPosition) : ScreenPosition where
  x := clampCoordinate screen.right position.x
  y := clampCoordinate screen.bottom position.y
  x_nonneg := clampCoordinate_nonneg screen.right_nonneg _
  y_nonneg := clampCoordinate_nonneg screen.bottom_nonneg _

end Screen

/-- The position, the buttons, and the identifier of the cursor unless it is null. -/
structure WebXMouseState where
  x : Int32
  y : Int32
  buttonMask : UInt32
  cursor : Option UInt32
  deriving DecidableEq, Repr

/-- The position of the state. -/
def WebXMouseState.position (state : WebXMouseState) : WebXPosition := ⟨state.x, state.y⟩

/-- The mouse of the engine. -/
structure WebXMouse where
  state : WebXMouseState
  isDirty : Bool
  deriving DecidableEq, Repr

/-- The mouse, the pointer of X, and the buttons that were pressed or released in X. -/
structure PointerState where
  mouse : WebXMouse
  pointer : ScreenPosition
  buttons : List (ℕ × Bool)
  deriving DecidableEq, Repr

namespace PointerState

/-- The mouse at the start of the engine. -/
def create (pointer : ScreenPosition) (cursor : Option UInt32) : PointerState where
  mouse := ⟨⟨0, 0, 0, cursor⟩, false⟩
  pointer := pointer
  buttons := []

variable (state : PointerState)

/-- Moves the pointer, unless the engine thinks that it is there. -/
def sendMouseMovement (screen : Screen) (newX newY : Int32) : PointerState :=
  if newX ≠ state.mouse.state.x ∨ newY ≠ state.mouse.state.y then
    { state with pointer := screen.clamp ⟨newX, newY⟩ }
  else state

/-- The masks of the buttons, the lowest being that of the first button. -/
def buttonMasks : List (UInt32 × ℕ) :=
  [(0x100, 1), (0x200, 2), (0x400, 3), (0x800, 4), (0x1000, 5)]

/-- Presses and releases the buttons that change. -/
def sendMouseButtons (newButtonMask : UInt32) : PointerState :=
  let buttonMaskDelta := state.mouse.state.buttonMask ^^^ newButtonMask
  let changed := buttonMasks.filter fun button => buttonMaskDelta &&& button.1 ≠ 0
  { state with
    buttons := state.buttons ++
      changed.map fun button => (button.2, decide (newButtonMask &&& button.1 ≠ 0))
    mouse := { state.mouse with state := { state.mouse.state with buttonMask := 0 } } }

/-- The state of the mouse after an instruction. -/
def setState (x y : Int32) (buttonMask : UInt32) : PointerState :=
  { state with mouse := { state.mouse with
      state := { state.mouse.state with x := x, y := y, buttonMask := buttonMask } } }

/-- Takes the position of the pointer. -/
def updatePosition : PointerState :=
  if state.mouse.state.x ≠ state.pointer.x ∨ state.mouse.state.y ≠ state.pointer.y then
    { state with mouse :=
        { state := { state.mouse.state with x := state.pointer.x, y := state.pointer.y }
          isDirty := true } }
  else state

/-- Changes the dirty state. -/
def setDirty (dirty : Bool) : PointerState :=
  { state with mouse := { state.mouse with isDirty := dirty } }

/-- Another program moves the pointer. -/
def moved (position : Option ScreenPosition) : PointerState :=
  { state with pointer := position.getD state.pointer }

/-- The instruction of a client. Another program may move the pointer before its position is taken. -/
def sendClientInstruction (screen : Screen) (position : Option ScreenPosition) (x y : Int32)
    (buttonMask : UInt32) : PointerState :=
  (((((state.sendMouseMovement screen x y).sendMouseButtons buttonMask).setState x y buttonMask).moved
    position).updatePosition).setDirty false

/-- The cursor changes, unless the new one is null. -/
def updateCursor (cursor : Option UInt32) : PointerState :=
  { state with mouse := { state.mouse with
      state := { state.mouse.state with cursor := cursor.or state.mouse.state.cursor } } }

/-- The identifier of the cursor, which must not be null. -/
def getCursorId : Except Fault UInt32 :=
  match state.mouse.state.cursor with
  | some cursorId => .ok cursorId
  | none => .error .nullDereference

/-! ## The positions -/

/-- The position of the pointer when it is taken for an instruction. -/
def positionTaken (screen : Screen) (position : Option ScreenPosition) (x y : Int32) :
    WebXPosition :=
  (position.getD (state.sendMouseMovement screen x y).pointer).toWebXPosition

variable {state}

/-- Taking the position leaves the pointer where it is. -/
theorem pointer_updatePosition (state : PointerState) :
    state.updatePosition.pointer = state.pointer := by
  rw [updatePosition]
  split_ifs <;> rfl

/-- The engine has the position of the pointer when it was taken. -/
theorem position_updatePosition (state : PointerState) :
    state.updatePosition.mouse.state.position = state.pointer.toWebXPosition := by
  rw [updatePosition]
  split_ifs with hmoved
  · rfl
  · rw [not_or, not_not, not_not] at hmoved
    rw [WebXMouseState.position, hmoved.1, hmoved.2]

/-- A mouse that stays clean has not moved. -/
theorem updatePosition_of_clean (h : state.updatePosition.mouse.isDirty = false) :
    state.updatePosition = state := by
  rw [updatePosition] at h ⊢
  split_ifs at h ⊢
  rfl

/-- Taking the position leaves the cursor as it is. -/
theorem cursor_updatePosition (state : PointerState) :
    state.updatePosition.mouse.state.cursor = state.mouse.state.cursor := by
  rw [updatePosition]
  split_ifs <;> rfl

/-- The engine does not see a movement until it takes the position. -/
theorem mouse_sendMouseMovement (screen : Screen) (newX newY : Int32) :
    (state.sendMouseMovement screen newX newY).mouse = state.mouse := by
  rw [sendMouseMovement]
  split_ifs <;> rfl

/-- **What an instruction leaves**: the position that was taken, and a clean mouse. -/
theorem sendClientInstruction_spec (state : PointerState) (screen : Screen)
    (position : Option ScreenPosition) (x y : Int32) (buttonMask : UInt32) :
    let after := state.sendClientInstruction screen position x y buttonMask
    after.mouse.state.position = state.positionTaken screen position x y ∧
      after.pointer.toWebXPosition = state.positionTaken screen position x y ∧
      after.mouse.isDirty = false ∧ after.mouse.state.cursor = state.mouse.state.cursor := by
  let moved := (((state.sendMouseMovement screen x y).sendMouseButtons buttonMask).setState x y
    buttonMask).moved position
  refine ⟨position_updatePosition moved, ?_, rfl, ?_⟩
  · exact congrArg ScreenPosition.toWebXPosition (pointer_updatePosition moved)
  · have hcursor := cursor_updatePosition moved
    have hmoved : moved.mouse.state.cursor =
        (state.sendMouseMovement screen x y).mouse.state.cursor := rfl
    exact hcursor.trans (hmoved.trans (by rw [mouse_sendMouseMovement]))

end PointerState

end WebXEngine
