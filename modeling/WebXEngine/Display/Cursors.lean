import WebXEngine.Display.Mouse
import WebXEngine.Models.Image

/-! # The cursors

The cursors that X has shown are kept in a catalogue, under the checksum of their pixels. The clients ask
for them by these identifiers.

* **`MouseCursors.updateCursor`** — the cursor that X shows becomes that of the mouse.
* **`MouseCursors.getCursor`** — the cursor of an identifier, which may be null. -/

namespace WebXEngine

/-- A cursor. -/
structure WebXMouseCursor where
  id : UInt32
  image : WebXImage
  xhot : Int32
  yhot : Int32
  deriving DecidableEq, Repr

/-- The cursor that X shows: the checksum of its pixels, their conversion to an image, which may fail, and
the place of its tip. -/
structure XFixesCursorImage where
  checksum : UInt32
  image : Option WebXImage
  xhot : Int32
  yhot : Int32
  deriving DecidableEq, Repr

/-- The mouse, and the catalogue of the cursors. -/
structure MouseCursors where
  pointer : PointerState
  catalogue : UInt32 → Option WebXMouseCursor

/-- The cursor that X shows, and the catalogue with it; the cursor is null when X does not tell it, or
when it is a new one that cannot be converted. -/
def createCursor (catalogue : UInt32 → Option WebXMouseCursor) (answer : Option XFixesCursorImage) :
    Option WebXMouseCursor × (UInt32 → Option WebXMouseCursor) :=
  match answer with
  | none => (none, catalogue)
  | some cursorImage =>
      match catalogue cursorImage.checksum with
      | some cursor => (some cursor, catalogue)
      | none =>
          match cursorImage.image with
          | none => (none, catalogue)
          | some image =>
              let cursor : WebXMouseCursor :=
                ⟨cursorImage.checksum, image, cursorImage.xhot, cursorImage.yhot⟩
              (some cursor, fun cursorId =>
                if cursorId = cursorImage.checksum then some cursor else catalogue cursorId)

namespace MouseCursors

/-- The mouse at the start of the engine. -/
def create (pointer : ScreenPosition) (answer : Option XFixesCursorImage) : MouseCursors :=
  let created := createCursor (fun _ => none) answer
  ⟨.create pointer (created.1.map WebXMouseCursor.id), created.2⟩

variable (cursors : MouseCursors)

/-- X shows another cursor. -/
def updateCursor (answer : Option XFixesCursorImage) : MouseCursors :=
  let created := createCursor cursors.catalogue answer
  ⟨cursors.pointer.updateCursor (created.1.map WebXMouseCursor.id), created.2⟩

/-- The cursor of an identifier; 0 stands for that of the mouse. -/
def getCursor (cursorId : UInt32) : Option WebXMouseCursor :=
  if cursorId = 0 then cursors.pointer.mouse.state.cursor.bind cursors.catalogue
  else cursors.catalogue cursorId

end MouseCursors

end WebXEngine
