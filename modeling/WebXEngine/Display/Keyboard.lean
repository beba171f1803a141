import Mathlib.Logic.Function.Basic
import WebXEngine.Display.XKB
import WebXEngine.Utils.Fault

/-! # The keyboard

The keys of the clients are keysyms, which the mapping of the active layout translates to the keycodes
of X and to the modifiers and locks that they need. The keys for these are handled like the others,
by a recursion that ends because their own definitions need nothing. X remembers which keycodes are
held down; each is kept here with the client's key that pressed it, and so is the lock that was set.

* **`WebXKeyboard.handleKeySym`** — a key is pressed or released.
* **`WebXKeyboard.loadKeyboardLayout`** — another layout becomes the active one.
* **`WebXKeyboardMapping.Neutral`** — the keys of the modifiers and locks need nothing. -/

namespace WebXEngine

/-- How a keysym is typed. -/
structure WebXKeySymDefinition where
  keycode : Int32
  modifiersToSet : Int32
  modifiersToClear : Int32
  locksToSet : Int32
  deriving DecidableEq, Repr

/-- A layout, with its long name, its name for X and its keysyms. -/
structure WebXKeyboardMapping where
  name : List UInt8
  layout : List UInt8
  mapping : List (Int32 × WebXKeySymDefinition)
  deriving DecidableEq, Repr

/-- The active layout, and the locks that were set for the clients. -/
structure WebXKeyboard where
  keyboardMapping : Option WebXKeyboardMapping
  locksSet : Int32
  deriving DecidableEq, Repr

/-- The keyboard and X: the settings, and the keycodes that are held down. -/
structure KeyboardState where
  keyboard : WebXKeyboard
  xkb : XkbServer
  /-- The keycodes that are held down, each with the client's keysym that pressed it. -/
  held : Int32 → Option Int32
  /-- The client's keysym that set the lock. -/
  lockHolder : Option Int32

namespace WebXKeyboard

/-! ## Keysyms -/

def keysymNumLock : Int32 := 0xFF7F
def keysymCapsLock : Int32 := 0xFFE5
def keysymLShift : Int32 := 0xFFE1
def keysymRShift : Int32 := 0xFFE2
def keysymLAlt : Int32 := 0xFFE9
def keysymRAlt : Int32 := 0xFFEA
def keysymAltGr : Int32 := 0xFE03

def shiftModifierKey : Int32 := 1
def altGrModifierKey : Int32 := 2
def numLockKey : Int32 := 1

/-- A bit of a mask is set. -/
def hasKey (mask key : Int32) : Bool := mask &&& key ≠ 0

/-- The definition of a keysym in a layout. -/
def getKeySymDefinition (mapping : WebXKeyboardMapping) (keysym : Int32) :
    Option WebXKeySymDefinition := mapping.mapping.lookup keysym

/-- The keysyms that are not handled. -/
def ignoreKeysym (keysym : Int32) : Bool := keysym = keysymCapsLock

/-- The definition by which a keysym is handled. -/
def activeDefinition (keyboard : WebXKeyboard) (keysym : Int32) : Option WebXKeySymDefinition :=
  keyboard.keyboardMapping.bind fun mapping =>
    (getKeySymDefinition mapping keysym).filter fun _ => !ignoreKeysym keysym

/-- Presses a keycode for a client's key; a keycode that is held down already stays so. -/
def fakeKeyPress (client : Int32) (state : KeyboardState) (keycode : Int32) : KeyboardState :=
  if (state.held keycode).isSome then state
  else { state with held := Function.update state.held keycode (some client) }

/-- Releases a keycode. -/
def fakeKeyRelease (state : KeyboardState) (keycode : Int32) : KeyboardState :=
  { state with held := Function.update state.held keycode none }

/-! ## Modifiers and locks -/

section

variable (handleKeySym : KeyboardState → Int32 → Bool → Except Fault KeyboardState)

/-- The part of the modifiers that is about shift. -/
def updateShift (state : KeyboardState) (modifiersToSet modifiersToClear : Int32) :
    Except Fault KeyboardState :=
  if hasKey modifiersToSet shiftModifierKey then handleKeySym state keysymLShift true
  else if hasKey modifiersToClear shiftModifierKey then do
    let state ← handleKeySym state keysymLShift false
    handleKeySym state keysymRShift false
  else .ok state

/-- The part of the modifiers that is about AltGr. -/
def updateAltGr (state : KeyboardState) (modifiersToSet modifiersToClear : Int32) :
    Except Fault KeyboardState :=
  if hasKey modifiersToSet altGrModifierKey then handleKeySym state keysymAltGr true
  else if hasKey modifiersToClear altGrModifierKey then do
    let state ← handleKeySym state keysymAltGr false
    let state ← handleKeySym state keysymLAlt false
    handleKeySym state keysymRAlt false
  else .ok state

/-- Presses and releases modifiers. -/
def updateModifiers (state : KeyboardState) (modifiersToSet modifiersToClear : Int32) :
    Except Fault KeyboardState := do
  let state ← updateShift handleKeySym state modifiersToSet modifiersToClear
  updateAltGr handleKeySym state modifiersToSet modifiersToClear

/-- Releases modifiers. -/
def releaseModifiers (state : KeyboardState) (modifiers : Int32) : Except Fault KeyboardState := do
  let state ←
    if hasKey modifiers shiftModifierKey then handleKeySym state keysymLShift false else .ok state
  if hasKey modifiers altGrModifierKey then handleKeySym state keysymAltGr false else .ok state

/-- Sets the lock, which remembers the client's key, unless it is set. -/
def updateLocks (client : Int32) (state : KeyboardState) (locks : Int32) :
    Except Fault KeyboardState := do
  if hasKey locks numLockKey ∧ ¬ hasKey state.keyboard.locksSet numLockKey then
    let state ← handleKeySym state keysymNumLock true
    let state ← handleKeySym state keysymNumLock false
    .ok { state with
      keyboard := { state.keyboard with locksSet := state.keyboard.locksSet ||| numLockKey }
      lockHolder := some client }
  else .ok state

/-- Clears the lock when it is set. -/
def releaseLocks (state : KeyboardState) (locks : Int32) : Except Fault KeyboardState := do
  if hasKey locks numLockKey ∧ hasKey state.keyboard.locksSet numLockKey then
    let state ← handleKeySym state keysymNumLock true
    let state ← handleKeySym state keysymNumLock false
    .ok { state with
      keyboard := { state.keyboard with locksSet := state.keyboard.locksSet &&& ~~~numLockKey }
      lockHolder := none }
  else .ok state

end

/-- Handles a keysym for a client's key. The stack has room for `depth` calls. -/
def handleKeySym (client : Int32) : ℕ → KeyboardState → (keysym : Int32) →
    (pressed isFromClient : Bool) → Except Fault KeyboardState
  | 0, _, _, _, _ => .error .stackOverflow
  | depth + 1, state, keysym, pressed, isFromClient =>
      let handle (state : KeyboardState) (keysym : Int32) (pressed : Bool) :
          Except Fault KeyboardState := handleKeySym client depth state keysym pressed false
      match activeDefinition state.keyboard keysym with
      | none => .ok state
      | some keysymDef =>
          if pressed then do
            let state ← updateModifiers handle state keysymDef.modifiersToSet
              keysymDef.modifiersToClear
            let state ← updateLocks handle client state keysymDef.locksToSet
            .ok (fakeKeyPress client state keysymDef.keycode)
          else do
            let state ← releaseModifiers handle (fakeKeyRelease state keysymDef.keycode)
              keysymDef.modifiersToSet
            if isFromClient then releaseLocks handle state keysymDef.locksToSet else .ok state

/-! ## Layouts -/

/-- The layout of a name, the long one or that for X. -/
def getKeyboardMapping (keyMaps : List WebXKeyboardMapping) (layout : List UInt8) :
    Option WebXKeyboardMapping :=
  keyMaps.find? fun mapping => mapping.layout = layout || mapping.name = layout

/-- A layout becomes the active one, and is then set in X; the result says whether X took it. -/
def loadKeyboardLayout (keyMaps : List WebXKeyboardMapping) (answers : XkbAnswers)
    (state : KeyboardState) (layoutOrName : List UInt8) : Bool × KeyboardState :=
  match getKeyboardMapping keyMaps layoutOrName with
  | some mapping =>
      let result := WebXKB.setKeyboardLayout answers state.xkb mapping.layout
      (result.1, { state with
        keyboard := { state.keyboard with keyboardMapping := some mapping }
        xkb := result.2 })
  | none => (false, state)

/-- The long name of the active layout. -/
def getKeyboardLayoutName (keyboard : WebXKeyboard) : List UInt8 :=
  (keyboard.keyboardMapping.map WebXKeyboardMapping.name).getD []

/-- The layout that is loaded when there is none for that of X. -/
def defaultKeyboardLayout : List UInt8 := ascii "gb"

/-- Loads the layout of X. When there is none of that name, a null pointer is used in the texts for the
log, whether the default layout could be loaded or not. -/
def init (keyMaps : List WebXKeyboardMapping) (getAnswers setAnswers : XkbAnswers)
    (state : KeyboardState) : Except Fault KeyboardState :=
  let layout := WebXKB.getKeyboardLayout getAnswers
  match getKeyboardMapping keyMaps layout with
  | some _ => .ok (loadKeyboardLayout keyMaps setAnswers state layout).2
  | none => .error .nullDereference

end WebXKeyboard

/-- The keysyms of the modifiers and the lock. -/
def WebXKeyboard.modifierKeysyms : List Int32 :=
  [keysymLShift, keysymRShift, keysymLAlt, keysymRAlt, keysymAltGr, keysymNumLock]

/-- A definition that needs no modifiers and no locks. -/
def WebXKeySymDefinition.neutral (keysymDef : WebXKeySymDefinition) : Bool :=
  keysymDef.modifiersToSet = 0 && keysymDef.modifiersToClear = 0 && keysymDef.locksToSet = 0

/-- A layout has definitions for the modifiers and the lock, and they need nothing. -/
def WebXKeyboardMapping.Neutral (mapping : WebXKeyboardMapping) : Prop :=
  ∀ keysym ∈ WebXKeyboard.modifierKeysyms,
    (WebXKeyboard.getKeySymDefinition mapping keysym).any WebXKeySymDefinition.neutral

instance (mapping : WebXKeyboardMapping) : Decidable mapping.Neutral :=
  List.decidableBAll _ WebXKeyboard.modifierKeysyms

/-- The layouts of the engine. -/
structure KeyMaps where
  maps : List WebXKeyboardMapping
  neutral : ∀ mapping ∈ maps, mapping.Neutral

namespace KeyboardState

/-- A keyboard without a layout, on which nothing is held down. -/
def create : KeyboardState where
  keyboard := ⟨none, 0⟩
  xkb := ⟨none, none⟩
  held := fun _ => none
  lockHolder := none

/-- The function of the display, which does not look for an empty name. -/
def loadKeyboardLayout (keyMaps : List WebXKeyboardMapping) (answers : XkbAnswers)
    (state : KeyboardState) (layoutOrName : List UInt8) : Bool × KeyboardState :=
  if layoutOrName ≠ [] then WebXKeyboard.loadKeyboardLayout keyMaps answers state layoutOrName
  else (false, state)

/-- The function of the display for the keys of the clients. -/
def sendKeyboard (depth : ℕ) (state : KeyboardState) (keysym : Int32) (pressed : Bool) :
    Except Fault KeyboardState :=
  WebXKeyboard.handleKeySym keysym depth state keysym pressed true

end KeyboardState

end WebXEngine
