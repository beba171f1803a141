import WebXEngine.Display.XServer
import WebXEngine.Foundations.LinkedForest
import WebXEngine.Utils.Fault

/-! # The windows of the display

The table of the windows that the engine knows, the tree that they form, and the list of those that
are visible. Pointers to windows are identifiers; the use of a window that is not in the table any
more is a fault, and so is the use of a visible window that was freed and created again since.

* **`WebXDisplay`** — the table and the list of the visible windows.
* **`createWindowInTree`**, **`removeWindowFromTree`**, **`reparentWindow`** — what the events of the
  server do.
* **`updateVisibleWindows`** — the visible windows are looked for again. -/

namespace WebXEngine

/-- The shape of a window, as it was for a size. -/
structure WebXWindowShape where
  width : ℤ
  height : ℤ
  isBuilt : Bool
  shapeMask : Option WebXImage
  deriving DecidableEq, Repr

/-- Asks for the shape again, unless it is known for the size. -/
def WebXWindowShape.update (windowShape : WebXWindowShape) (width height : ℤ) (shape : XWindowShape) :
    WebXWindowShape :=
  if windowShape.isBuilt && windowShape.width = width && windowShape.height = height then
    windowShape
  else
    ⟨width, height, shape.isBuilt, shape.shapeMask⟩

/-- A window that the engine knows. -/
structure WebXWindow extends Links UInt32 where
  rectangle : WebXRectangle
  isViewable : Bool
  shape : WebXWindowShape
  deriving DecidableEq, Repr

namespace WebXWindow

/-- The window is not a rectangle. -/
def hasShape (window : WebXWindow) : Bool := window.shape.shapeMask.isSome

/-- Asks for the shape of the window. -/
def updateShape (shape : XWindowShape) (window : WebXWindow) : WebXWindow :=
  { window with
    shape := window.shape.update window.rectangle.size.width window.rectangle.size.height shape }

end WebXWindow

/-- The display. A window that is visible may be freed and created again; the list of the visible windows
then points to the old one, and the window is stale. -/
structure WebXDisplay where
  rootWindow : UInt32
  allWindows : UInt32 → Option WebXWindow
  visibleWindows : List UInt32
  staleWindows : List UInt32

namespace WebXDisplay

variable (display : WebXDisplay)

/-- The window of an identifier. -/
def getWindow (x11Window : UInt32) : Option WebXWindow := display.allWindows x11Window

/-- The use of a window through a pointer. -/
def deref (x11Window : UInt32) : Except Fault WebXWindow :=
  match display.getWindow x11Window with
  | some window => .ok window
  | none => .error .freedObject

/-- The use of a window through a pointer of the list of the visible windows. -/
def derefVisible (x11Window : UInt32) : Except Fault WebXWindow :=
  if x11Window ∈ display.staleWindows then .error .freedObject else display.deref x11Window

/-- A new entry of the table, or a changed one. -/
def setWindow (x11Window : UInt32) (window : Option WebXWindow) : WebXDisplay :=
  { display with allWindows := fun w => if w = x11Window then window else display.allWindows w }

/-- A change of a window through a pointer. -/
def modifyWindow (x11Window : UInt32) (change : WebXWindow → WebXWindow) :
    Except Fault WebXDisplay := do
  let window ← display.deref x11Window
  return display.setWindow x11Window (some (change window))

/-! ## Windows -/

/-- `addChild` of a window: nothing happens when the child is already listed. -/
def addChild (parent child : UInt32) : Except Fault WebXDisplay := do
  let window ← display.deref parent
  if child ∈ window.children then
    return display
  else
    let display ← display.modifyWindow parent fun window =>
      { window with children := window.children ++ [child] }
    display.modifyWindow child fun window => { window with parent := some parent }

/-- `removeChild` of a window. -/
def removeChild (parent child : UInt32) : Except Fault WebXDisplay := do
  let window ← display.deref parent
  if child ∈ window.children then
    let display ← display.modifyWindow parent fun window =>
      { window with children := window.children.erase child }
    display.modifyWindow child fun window => { window with parent := none }
  else
    return display

/-- The window of an identifier, created when it is shown. No result is the null pointer, and then
nothing has changed. The status of the query of the attributes is compared with a value that it
never has, so that the attributes count even when they were not written. -/
def createWindow (x11Window : UInt32) (attributes : XWindowAttributes) : Option WebXDisplay :=
  match display.getWindow x11Window with
  | some _ => some display
  | none =>
      if attributes.isShown then
        let display := display.setWindow x11Window (some
          { parent := none
            children := []
            rectangle := attributes.rectangle
            isViewable := attributes.isViewable
            shape := ⟨attributes.width.toInt, attributes.height.toInt, false, none⟩ })
        -- a pointer to a window that was freed does not point to the new one
        if x11Window ∈ display.visibleWindows then
          some { display with staleWindows := x11Window :: display.staleWindows }
        else
          some display
      else
        none

/-- Deletes a window. -/
def deleteWindow (x11Window : UInt32) : WebXDisplay := display.setWindow x11Window none

/-! ## Trees of windows -/

mutual

/-- Creates what is below a window. -/
def createTree : XTree → WebXDisplay → Except Fault WebXDisplay
  | .node window _ children, display => createChildren window children display

/-- The loop over the children of a window. -/
def createChildren (parent : UInt32) : List XTree → WebXDisplay → Except Fault WebXDisplay
  | [], display => .ok display
  | child :: children, display =>
      match display.createWindow child.window child.attributes with
      | some display => do
          let display ← display.addChild parent child.window
          let display ← createTree child display
          createChildren parent children display
      | none => createChildren parent children display

end

/-- Creates a window that the server does not know any more: the queries of its tree fail, and it is
not attached to a parent. -/
def createUnknownInTree (unwritten : XWindowAttributes) (x11Window : UInt32) :
    Bool × WebXDisplay :=
  match display.createWindow x11Window unwritten with
  | some display => (true, display)
  | none => (false, display)

/-- Creates a window with what is below it, attaches it to its parent, and does the same with the
parent before when it is not known. The result tells whether the pointer to the window is not
null. -/
def createInTree (unwritten : XWindowAttributes) :
    List XTree → WebXDisplay → Except Fault (Bool × WebXDisplay)
  | [], display => .ok (false, display)
  | tree :: path, display =>
      match display.createWindow tree.window tree.attributes with
      | none => .ok (false, display)
      | some display => do
          let display ← createTree tree display
          -- the null identifier is the parent of the root window
          let parentWindow := (path.head?.map XTree.window).getD 0
          let (found, display) ←
            if (display.getWindow parentWindow).isSome then
              .ok (true, display)
            else if path.isEmpty then
              .ok (display.createUnknownInTree unwritten parentWindow)
            else
              createInTree unwritten path display
          if found then
            return (true, ← display.addChild parentWindow tree.window)
          else
            return (true, display)

/-- A window was mapped. -/
def createWindowInTree {root : UInt32} (server : XServer root) (x11Window : UInt32) :
    Except Fault WebXDisplay :=
  match server.pathTo x11Window with
  | some path => (createInTree server.unwritten path display).map Prod.snd
  | none => .ok (display.createUnknownInTree server.unwritten x11Window).2

/-- What `deleteTree` does with one child of a window, once it can delete what is below the child. -/
def deleteChild (deleteTree : UInt32 → WebXDisplay → Except Fault WebXDisplay) (x11Window : UInt32)
    (display : WebXDisplay) (child : UInt32) : Except Fault WebXDisplay := do
  let display ← deleteTree child display
  let display ← display.removeChild x11Window child
  return display.deleteWindow child

/-- Deletes what is below a window, within the depth of the stack. -/
def deleteTree : ℕ → UInt32 → WebXDisplay → Except Fault WebXDisplay
  | 0, _, _ => .error .stackOverflow
  | depth + 1, x11Window, display => do
      let window ← display.deref x11Window
      window.children.foldlM (deleteChild (deleteTree depth) x11Window) display

/-- The visible windows without one. The pointer to a window is not found when the list points to an old
one. -/
def visibleWithout (x11Window : UInt32) : List UInt32 :=
  if x11Window ∈ display.staleWindows then display.visibleWindows
  else display.visibleWindows.erase x11Window

/-- A window was unmapped. -/
def removeWindowFromTree (stackDepth : ℕ) (x11Window : UInt32) : Except Fault WebXDisplay :=
  match display.getWindow x11Window with
  | none => .ok display
  | some _ => do
      let display ← deleteTree stackDepth x11Window display
      let display ← display.modifyWindow x11Window fun window => { window with isViewable := false }
      let display : WebXDisplay :=
        { display with visibleWindows := display.visibleWithout x11Window }
      let window ← display.deref x11Window
      match window.parent with
      | none => .error .nullDereference
      | some parent => do
          let display ← display.removeChild parent x11Window
          return display.deleteWindow x11Window

/-- A window has a new parent. -/
def reparentWindow (x11Window parentX11Window : UInt32) : Except Fault WebXDisplay :=
  match display.getWindow x11Window with
  | none => .ok display
  | some window => do
      let display ←
        match window.parent with
        | some parent => display.removeChild parent x11Window
        | none => .ok display
      match display.getWindow parentX11Window with
      | some _ => display.addChild parentX11Window x11Window
      | none => return display

/-! ## The visible windows -/

/-- Takes the attributes of a window from the server. -/
def updateAttributes (x11Window : UInt32) (attributes : XWindowAttributes) :
    Except Fault WebXDisplay :=
  display.modifyWindow x11Window fun window =>
    { window with
      rectangle := attributes.rectangle
      isViewable := attributes.isShown }

/-- Takes the attributes of the windows that are directly below the root window, and adds those that
can be seen to the visible windows, apart from the ghost window that some drivers put just before the
root window. -/
def findVisibleWindows (viewport : WebXSize) (shapes : UInt32 → XWindowShape) :
    List XTree → WebXDisplay → Except Fault WebXDisplay
  | [], display => .ok display
  | child :: children, display =>
      match display.getWindow child.window with
      | none => findVisibleWindows viewport shapes children display
      | some _ => do
          let display ← display.updateAttributes child.window child.attributes
          if child.isShown && child.attributes.rectangle.isVisible viewport &&
              child.window ≠ display.rootWindow - 1 then
            let display ← display.modifyWindow child.window
              (WebXWindow.updateShape (shapes child.window))
            findVisibleWindows viewport shapes children
              { display with visibleWindows := display.visibleWindows ++ [child.window] }
          else
            findVisibleWindows viewport shapes children display

/-- The windows that are not visible any more and do not exist any more are not viewable. A window that was
freed is used when its pointer is not found in the new list. -/
def hideOldWindows (allX11Windows : List UInt32) :
    List UInt32 → WebXDisplay → Except Fault WebXDisplay
  | [], display => .ok display
  | oldVisibleWindow :: others, display => do
      let display ←
        if oldVisibleWindow ∈ display.staleWindows then
          .error .freedObject
        else if oldVisibleWindow ∈ display.visibleWindows then
          .ok display
        else if oldVisibleWindow ∈ allX11Windows then
          -- its damage events are disabled
          (display.deref oldVisibleWindow).map fun _ => display
        else
          display.modifyWindow oldVisibleWindow fun window => { window with isViewable := false }
      hideOldWindows allX11Windows others display

/-- The loop that looks for a visible window: the identifiers are read through the pointers. -/
def findIfVisible (x11Window : UInt32) : List UInt32 → Except Fault Bool
  | [] => .ok false
  | window :: windows => do
      let _ ← display.derefVisible window
      if window = x11Window then return true else findIfVisible x11Window windows

/-- Calls a function with a window when the window is visible. -/
def callIfWindowVisible {α : Type} (x11Window : UInt32) (otherwise : α)
    (visibleWindowCallable : Except Fault α) : Except Fault α := do
  if ← display.findIfVisible x11Window display.visibleWindows then
    visibleWindowCallable
  else
    return otherwise

/-- Looks for the visible windows again. -/
def updateVisibleWindows {root : UInt32} (server : XServer root) : Except Fault WebXDisplay := do
  let display ← display.updateAttributes display.rootWindow server.tree.attributes
  let oldVisibleWindows := display.visibleWindows
  let viewport := server.tree.attributes.rectangle.size
  let display ← findVisibleWindows viewport server.shapes server.tree.children
    { display with visibleWindows := [] }
  let display ← hideOldWindows (server.tree.children.map XTree.window) oldVisibleWindows display
  -- the list points to the windows of the table
  return { display with staleWindows := [] }

/-- The display at the start of the engine. -/
def init {root : UInt32} (server : XServer root) : Except Fault WebXDisplay := do
  let display : WebXDisplay :=
    { rootWindow := root, allWindows := fun _ => none, visibleWindows := [], staleWindows := [] }
  match display.createWindow root server.tree.attributes with
  | none => return display
  | some display => do
      let display ← createTree server.tree display
      display.updateVisibleWindows server

end WebXDisplay

/-! ## Events -/

/-- An event of the server as it is handled: the server may have changed since it was sent. -/
inductive WindowEvent (root : UInt32)
  | map (x11Window : UInt32) (server : XServer root)
  | unmap (x11Window : UInt32)
  | reparent (x11Window parentX11Window : UInt32)
  | updateVisibleWindows (server : XServer root)

/-- The handling of an event. -/
def WebXDisplay.step {root : UInt32} (stackDepth : ℕ) (display : WebXDisplay) :
    WindowEvent root → Except Fault WebXDisplay
  | .map x11Window server => display.createWindowInTree server x11Window
  | .unmap x11Window => display.removeWindowFromTree stackDepth x11Window
  | .reparent x11Window parentX11Window => display.reparentWindow x11Window parentX11Window
  | .updateVisibleWindows server => display.updateVisibleWindows server

end WebXEngine
