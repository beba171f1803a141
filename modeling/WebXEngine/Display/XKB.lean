import WebXEngine.Foundations.Numerals

/-! # Setting the layout of the keyboard in X

The steps of the extension for keyboards. The answers of its library are given from outside, and any
of them can be a failure.

* **`WebXKB.setKeyboardLayout`** — reads the settings, applies the rules to a layout and sends it.
* **`WebXKB.setKeyboardLayout_spec`** — it succeeds when all the steps do. -/

namespace WebXEngine

/-- The settings of a keyboard; an empty string is a null pointer for the library. -/
structure WebXKBSettings where
  rules : List UInt8
  model : List UInt8
  layout : List UInt8
  variant : List UInt8
  keycodes : List UInt8
  symbols : List UInt8
  types : List UInt8
  compat : List UInt8
  geometry : List UInt8
  keymap : List UInt8
  deriving DecidableEq, Repr

/-- The names in the property of the root window. -/
structure XkbNames where
  rules : Option (List UInt8)
  model : Option (List UInt8)
  layout : Option (List UInt8)
  variant : Option (List UInt8)
  deriving DecidableEq, Repr

/-- The names of the components of a keyboard. -/
structure XkbComponentNames where
  keymap : Option (List UInt8)
  keycodes : Option (List UInt8)
  types : Option (List UInt8)
  compat : Option (List UInt8)
  symbols : Option (List UInt8)
  geometry : Option (List UInt8)
  deriving DecidableEq, Repr

/-- What the library answers: the names that are read, the components that the rules give, whether
the keyboard is loaded by the server, and whether the names are written. -/
structure XkbAnswers where
  namesProp : Option XkbNames
  components : Option XkbComponentNames
  keyboardByName : Bool
  setNamesProp : Bool
  deriving DecidableEq, Repr

/-- What the engine did in the server: the components that were loaded last, and the names that were
written last. -/
structure XkbServer where
  keyboard : Option XkbComponentNames
  names : Option XkbNames
  deriving DecidableEq, Repr

namespace WebXKB

/-- The settings of the server; there have to be rules. -/
def initialiseKeyboardSettings (answers : XkbAnswers) : Option WebXKBSettings :=
  answers.namesProp.bind fun names =>
    names.rules.map fun rules =>
      { rules := rules
        model := names.model.getD []
        layout := names.layout.getD []
        variant := names.variant.getD []
        keycodes := [], symbols := [], types := [], compat := [], geometry := [], keymap := [] }

/-- The components that the rules give for the settings. -/
def applyRules (answers : XkbAnswers) (settings : WebXKBSettings) : Option WebXKBSettings :=
  answers.components.map fun rnames =>
    { settings with
      keycodes := rnames.keycodes.getD settings.keycodes
      symbols := rnames.symbols.getD settings.symbols
      types := rnames.types.getD settings.types
      compat := rnames.compat.getD settings.compat
      geometry := rnames.geometry.getD settings.geometry
      keymap := rnames.keymap.getD settings.keymap }

/-- A string as a pointer. -/
def nullIfEmpty (text : List UInt8) : Option (List UInt8) := if text = [] then none else some text

/-- Loads the keyboard, and then writes the names. -/
def sendKeyboardSettings (answers : XkbAnswers) (server : XkbServer) (settings : WebXKBSettings) :
    Bool × XkbServer :=
  if answers.keyboardByName then
    let server := { server with
      keyboard := some
        { keymap := nullIfEmpty settings.keymap
          keycodes := nullIfEmpty settings.keycodes
          types := nullIfEmpty settings.types
          compat := nullIfEmpty settings.compat
          symbols := nullIfEmpty settings.symbols
          geometry := nullIfEmpty settings.geometry } }
    if settings.rules ≠ [] ∧ (settings.model ≠ [] ∨ settings.layout ≠ []) ∧ answers.setNamesProp then
      (true, { server with
        names := some
          { rules := some settings.rules
            model := nullIfEmpty settings.model
            layout := nullIfEmpty settings.layout
            variant := nullIfEmpty settings.variant } })
    else (false, server)
  else (false, server)

/-- The layout of the settings of the server. -/
def getKeyboardLayout (answers : XkbAnswers) : List UInt8 :=
  ((initialiseKeyboardSettings answers).map WebXKBSettings.layout).getD []

/-- Sets a layout. -/
def setKeyboardLayout (answers : XkbAnswers) (server : XkbServer) (layout : List UInt8) :
    Bool × XkbServer :=
  match initialiseKeyboardSettings answers with
  | none => (false, server)
  | some settings =>
      let settings := { settings with
        layout := layout, rules := ascii "evdev", model := ascii "pc105" }
      match applyRules answers settings with
      | none => (false, server)
      | some settings => sendKeyboardSettings answers server settings

end WebXKB

/-- All the steps of setting a layout succeed. -/
def XkbAnswers.succeed (answers : XkbAnswers) : Bool :=
  answers.namesProp.any (fun names => names.rules.isSome) && answers.components.isSome &&
    (answers.keyboardByName && answers.setNamesProp)

namespace WebXKB

/-- Sending settings that have rules and a model. -/
theorem sendKeyboardSettings_spec (answers : XkbAnswers) (server : XkbServer)
    {settings : WebXKBSettings} (hrules : settings.rules ≠ []) (hmodel : settings.model ≠ []) :
    (sendKeyboardSettings answers server settings).1 =
        (answers.keyboardByName && answers.setNamesProp) ∧
      (sendKeyboardSettings answers server settings).2.names.bind XkbNames.layout =
        if answers.keyboardByName && answers.setNamesProp then nullIfEmpty settings.layout
        else server.names.bind XkbNames.layout := by
  rw [sendKeyboardSettings]
  split_ifs with hload hset hboth hboth <;> simp_all

/-- **Setting a layout**: it succeeds when all the steps do, and the names in the server are then those
of the layout. -/
theorem setKeyboardLayout_spec (answers : XkbAnswers) (server : XkbServer) (layout : List UInt8) :
    (setKeyboardLayout answers server layout).1 = answers.succeed ∧
      (setKeyboardLayout answers server layout).2.names.bind XkbNames.layout =
        if answers.succeed then nullIfEmpty layout else server.names.bind XkbNames.layout := by
  obtain ⟨namesProp, components, keyboardByName, setNamesProp⟩ := answers
  cases namesProp with
  | none => exact ⟨rfl, rfl⟩
  | some names =>
      obtain ⟨rules, model, layoutBefore, variant⟩ := names
      cases rules with
      | none => exact ⟨rfl, rfl⟩
      | some rules =>
          cases components with
          | none => exact ⟨rfl, rfl⟩
          | some components =>
              exact sendKeyboardSettings_spec _ server (List.cons_ne_nil _ _) (List.cons_ne_nil _ _)

end WebXKB

end WebXEngine
