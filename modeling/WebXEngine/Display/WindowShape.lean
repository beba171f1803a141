import WebXEngine.Display.Display
import WebXEngine.Foundations.LittleEndian

/-! # The shapes of the windows

The mask of a window that is not a rectangle is built from the rectangles that X gives. Its checksum is
kept next to it, and copied to the visibility of the window, where the controller reads it.

* **`ChecksummedShape`** — a shape with its checksums.
* **`ChecksummedShape.update`** — the shape is asked for when it is not known for the size.
* **`ChecksummedShape.Coherent`** — the checksum is that of the mask, or 0 when there is none.
* **`ShapedWindow.shapeMaskChecksum_of_run`** — so is the one of the visibility, once the shape of the
  window was asked for. -/

namespace WebXEngine

/-- A rectangle of a shape. -/
structure XRectangle where
  x : Int16
  y : Int16
  width : UInt16
  height : UInt16
  deriving DecidableEq, Repr

/-- The rectangle in memory. -/
def XRectangle.bytes (rectangle : XRectangle) : List UInt8 :=
  LittleEndian.bytes 2 rectangle.x.toUInt16.toNat ++ LittleEndian.bytes 2 rectangle.y.toUInt16.toNat ++
    LittleEndian.bytes 2 rectangle.width.toNat ++ LittleEndian.bytes 2 rectangle.height.toNat

/-- What X gives for the shape of a window: the rectangles, which may be the null pointer, and the mask
that is drawn with them, unless its pixels cannot be read. -/
structure ShapeAnswer where
  rectangles : Option (List XRectangle)
  shapeMask : Option WebXImage
  deriving DecidableEq, Repr

/-- The rectangles are those of a window that has no shape. -/
def IsUnshaped (width height : ℤ) : List XRectangle → Bool
  | [] => true
  | [rectangle] => rectangle.x = 0 && rectangle.y = 0 && (rectangle.width.toNat : ℤ) = width &&
      (rectangle.height.toNat : ℤ) = height
  | _ => false

/-- The checksum of a mask, 0 when there is none. -/
def WebXWindowShape.getShapeMaskChecksum (checksum : List UInt8 → UInt32)
    (windowShape : WebXWindowShape) : UInt32 :=
  windowShape.shapeMask.elim 0 fun shapeMask => (shapeMask.calculateImageChecksum checksum).2

/-- A shape with the checksums of the mask and of the rectangles. -/
structure ChecksummedShape extends WebXWindowShape where
  shapeMaskChecksum : UInt32
  rectanglesChecksum : UInt32
  eventListenerEnabled : Bool
  deriving DecidableEq, Repr

namespace ChecksummedShape

/-- The constructor, which leaves the checksum of the mask as it finds it in memory. -/
def ofSize (width height : ℤ) (shapeMaskChecksum : UInt32) : ChecksummedShape where
  width := width
  height := height
  isBuilt := false
  shapeMask := none
  shapeMaskChecksum := shapeMaskChecksum
  rectanglesChecksum := 0
  eventListenerEnabled := false

variable (checksum : List UInt8 → UInt32) (answer : ShapeAnswer)

/-- Builds the mask. Rectangles with the checksum kept are taken for the same rectangles. -/
def create (windowShape : ChecksummedShape) : ChecksummedShape :=
  if windowShape.isBuilt then
    windowShape
  else
    match answer.rectangles with
    | none => { windowShape with isBuilt := true }
    | some rectangles =>
        let rectanglesChecksum := checksum (rectangles.flatMap XRectangle.bytes)
        if IsUnshaped windowShape.width windowShape.height rectangles then
          { windowShape with isBuilt := true }
        else if rectanglesChecksum = windowShape.rectanglesChecksum then
          { windowShape with isBuilt := true }
        else
          match answer.shapeMask with
          | some shapeMask =>
              let (shapeMask, shapeMaskChecksum) := shapeMask.calculateImageChecksum checksum
              { windowShape with
                isBuilt := true, shapeMask := some shapeMask, shapeMaskChecksum, rectanglesChecksum }
          | none =>
              { windowShape with
                shapeMask := none, shapeMaskChecksum := 0, rectanglesChecksum := 0 }

/-- A shape that has to be built. -/
def cleared (width height : ℤ) (windowShape : ChecksummedShape) : ChecksummedShape :=
  { windowShape with
    width, height
    isBuilt := false
    shapeMask := none
    shapeMaskChecksum := 0
    rectanglesChecksum := 0 }

/-- Builds the mask, unless this was done for the size. -/
def update (width height : ℤ) (force : Bool) (windowShape : ChecksummedShape) : ChecksummedShape :=
  let windowShape := if force then { windowShape with isBuilt := false } else windowShape
  if windowShape.isBuilt && windowShape.width = width && windowShape.height = height then
    windowShape
  else
    { create checksum answer (windowShape.cleared width height) with eventListenerEnabled := true }

end ChecksummedShape

/-- What the queries about a shape give: the mask is built unless its pixels cannot be read; there is none
when the window has no shape, nor when the rectangles have the checksum 0 of those that are not known. -/
def ShapeAnswer.windowShape (checksum : List UInt8 → UInt32) (width height : ℤ) (answer : ShapeAnswer) :
    XWindowShape :=
  match answer.rectangles with
  | none => ⟨true, none⟩
  | some rectangles =>
      if IsUnshaped width height rectangles ∨ checksum (rectangles.flatMap XRectangle.bytes) = 0 then
        ⟨true, none⟩
      else
        ⟨answer.shapeMask.isSome,
          answer.shapeMask.map fun shapeMask => (shapeMask.calculateImageChecksum checksum).1⟩

/-- The checksum of an image that was calculated is not calculated again. -/
theorem WebXImage.calculateImageChecksum_calculateImageChecksum (checksum : List UInt8 → UInt32)
    (image : WebXImage) :
    ((image.calculateImageChecksum checksum).1.calculateImageChecksum checksum).2 =
      (image.calculateImageChecksum checksum).2 := by
  by_cases hzero : image.rawChecksum = 0
  · by_cases hagain : checksum image.rawData = 0 <;>
      simp [calculateImageChecksum, hzero, hagain]
  · simp [calculateImageChecksum, hzero]

namespace ChecksummedShape

variable {checksum : List UInt8 → UInt32} {answer : ShapeAnswer} {windowShape : ChecksummedShape}
  {width height : ℤ} {force : Bool}

/-- What is built has the mask and the checksum of the answer. -/
theorem create_cleared (checksum : List UInt8 → UInt32) (answer : ShapeAnswer) (width height : ℤ)
    (windowShape : ChecksummedShape) :
    let created := create checksum answer (windowShape.cleared width height)
    created.toWebXWindowShape = ⟨width, height, (answer.windowShape checksum width height).isBuilt,
        (answer.windowShape checksum width height).shapeMask⟩ ∧
      created.shapeMaskChecksum = created.toWebXWindowShape.getShapeMaskChecksum checksum := by
  rw [create, if_neg (by exact Bool.false_ne_true), ShapeAnswer.windowShape]
  cases answer.rectangles with
  | none => exact ⟨rfl, rfl⟩
  | some rectangles =>
      by_cases hunshaped : IsUnshaped width height rectangles = true
      · simp [cleared, hunshaped, WebXWindowShape.getShapeMaskChecksum]
      by_cases hzero : checksum (rectangles.flatMap XRectangle.bytes) = 0
      · simp [cleared, hunshaped, hzero, WebXWindowShape.getShapeMaskChecksum]
      -- the rectangles are new
      cases answer.shapeMask with
      | none => simp [cleared, hunshaped, hzero, WebXWindowShape.getShapeMaskChecksum]
      | some shapeMask =>
          simp [cleared, hunshaped, hzero, WebXWindowShape.getShapeMaskChecksum,
            WebXImage.calculateImageChecksum_calculateImageChecksum]

/-- **The update of a shape**, seen without the checksums. -/
theorem toWebXWindowShape_update :
    (windowShape.update checksum answer width height force).toWebXWindowShape =
      (if force then { windowShape.toWebXWindowShape with isBuilt := false }
        else windowShape.toWebXWindowShape).update width height
        (answer.windowShape checksum width height) := by
  cases force with
  | true => exact (create_cleared checksum answer width height _).1
  | false =>
      rw [update, WebXWindowShape.update, if_neg Bool.false_ne_true, if_neg Bool.false_ne_true]
      split_ifs
      · rfl
      · exact (create_cleared checksum answer width height windowShape).1

/-- The checksum is that of the mask, or 0 when there is none, once the shape was asked for. -/
structure Coherent (checksum : List UInt8 → UInt32) (windowShape : ChecksummedShape) : Prop where
  isBuilt : windowShape.isBuilt = true → windowShape.eventListenerEnabled = true
  shapeMaskChecksum : windowShape.eventListenerEnabled = true →
    windowShape.shapeMaskChecksum = windowShape.toWebXWindowShape.getShapeMaskChecksum checksum

/-- A new shape was not asked for. -/
theorem coherent_ofSize (checksum : List UInt8 → UInt32) (width height : ℤ)
    (shapeMaskChecksum : UInt32) : (ofSize width height shapeMaskChecksum).Coherent checksum :=
  ⟨nofun, nofun⟩

/-- **An update keeps the checksum of the mask.** -/
theorem Coherent.update (h : windowShape.Coherent checksum) (answer : ShapeAnswer)
    (width height : ℤ) (force : Bool) :
    (windowShape.update checksum answer width height force).Coherent checksum ∧
      (windowShape.update checksum answer width height force).eventListenerEnabled = true := by
  rw [ChecksummedShape.update]
  split_ifs with hforce hbuilt hbuilt
  · exact nomatch hbuilt
  · exact ⟨⟨fun _ => rfl, fun _ => (create_cleared checksum answer width height _).2⟩, rfl⟩
  · -- the shape is known
    simp only [Bool.and_eq_true] at hbuilt
    exact ⟨h, h.isBuilt hbuilt.1.1⟩
  · exact ⟨⟨fun _ => rfl, fun _ => (create_cleared checksum answer width height _).2⟩, rfl⟩

end ChecksummedShape

/-! ## The checksum of the visibility -/

/-- A window with its shape, and the checksum in its visibility. -/
structure ShapedWindow where
  rectangle : WebXRectangle
  shape : ChecksummedShape
  visibilityChecksum : UInt32
  deriving DecidableEq, Repr

/-- What happens to the shape of a window: the window gets another rectangle, and its shape is asked
for. -/
inductive ShapeAction
  | setRectangle (rectangle : WebXRectangle)
  | updateShape (answer : ShapeAnswer) (force : Bool)

namespace ShapedWindow

/-- A window that is created. -/
def ofRectangle (rectangle : WebXRectangle) (shapeMaskChecksum : UInt32) : ShapedWindow where
  rectangle := rectangle
  shape := .ofSize rectangle.size.width rectangle.size.height shapeMaskChecksum
  visibilityChecksum := 0

/-- Asks for the shape. -/
def updateShape (checksum : List UInt8 → UInt32) (answer : ShapeAnswer) (force : Bool)
    (window : ShapedWindow) : ShapedWindow :=
  let shape := window.shape.update checksum answer window.rectangle.size.width
    window.rectangle.size.height force
  { window with shape, visibilityChecksum := shape.shapeMaskChecksum }

/-- One action. -/
def step (checksum : List UInt8 → UInt32) (window : ShapedWindow) : ShapeAction → ShapedWindow
  | .setRectangle rectangle => { window with rectangle }
  | .updateShape answer force => window.updateShape checksum answer force

/-- The visibility has the checksum of the mask, once the shape was asked for. -/
structure Coherent (checksum : List UInt8 → UInt32) (window : ShapedWindow) : Prop where
  shape : window.shape.Coherent checksum
  visibility : window.shape.eventListenerEnabled = true →
    window.visibilityChecksum = window.shape.shapeMaskChecksum

variable {checksum : List UInt8 → UInt32} {window : ShapedWindow}

/-- **The shape of a window of the display is asked for**, seen without the checksums. -/
theorem shape_updateShape {known : WebXWindow} (hrectangle : window.rectangle = known.rectangle)
    (hshape : window.shape.toWebXWindowShape = known.shape) (answer : ShapeAnswer) (force : Bool) :
    (window.updateShape checksum answer force).shape.toWebXWindowShape =
      (WebXWindow.updateShape
        (answer.windowShape checksum known.rectangle.size.width known.rectangle.size.height)
        (if force then { known with shape := { known.shape with isBuilt := false } } else known)).shape := by
  rw [updateShape, hrectangle]
  refine ChecksummedShape.toWebXWindowShape_update.trans ?_
  rw [hshape]
  cases force <;> rfl

/-- **Every action leaves the checksum that of the shape mask.** -/
theorem Coherent.step (h : window.Coherent checksum) (action : ShapeAction) :
    (window.step checksum action).Coherent checksum := by
  cases action with
  | setRectangle rectangle => exact ⟨h.shape, h.visibility⟩
  | updateShape answer force => exact ⟨(h.shape.update answer _ _ force).1, fun _ => rfl⟩

/-- A shape that was asked for once was asked for. -/
theorem Coherent.eventListenerEnabled_step (h : window.Coherent checksum)
    (henabled : window.shape.eventListenerEnabled = true) (action : ShapeAction) :
    (window.step checksum action).shape.eventListenerEnabled = true := by
  cases action with
  | setRectangle rectangle => exact henabled
  | updateShape answer force => exact (h.shape.update answer _ _ force).2

/-- **The visibility of a window has the checksum of its mask**, or 0 when it has none, whatever happened
before and after its shape was asked for. -/
theorem shapeMaskChecksum_of_run (rectangle : WebXRectangle) (shapeMaskChecksum : UInt32)
    (before after : List ShapeAction) (answer : ShapeAnswer) (force : Bool) :
    let window := (before ++ .updateShape answer force :: after).foldl (step checksum)
      (ofRectangle rectangle shapeMaskChecksum)
    window.visibilityChecksum = window.shape.toWebXWindowShape.getShapeMaskChecksum checksum := by
  -- the runs keep the coherence, and the events of a shape stay enabled
  have hkeep (actions : List ShapeAction) : ∀ {window : ShapedWindow}, window.Coherent checksum →
      (actions.foldl (step checksum) window).Coherent checksum ∧
        (window.shape.eventListenerEnabled = true →
          (actions.foldl (step checksum) window).shape.eventListenerEnabled = true) := by
    induction actions with
    | nil => exact fun h => ⟨h, id⟩
    | cons action actions ih =>
        intro window h
        obtain ⟨hcoherent, henabled⟩ := ih (h.step action)
        exact ⟨hcoherent, fun hbefore => henabled (h.eventListenerEnabled_step hbefore action)⟩
  have hstart : (ofRectangle rectangle shapeMaskChecksum).Coherent checksum :=
    ⟨ChecksummedShape.coherent_ofSize checksum _ _ _, nofun⟩
  have hbefore := (hkeep before hstart).1
  obtain ⟨hcoherent, henabled⟩ := hkeep after (hbefore.step (.updateShape answer force))
  rw [List.foldl_append, List.foldl_cons]
  have h := henabled (hbefore.shape.update answer _ _ force).2
  exact (hcoherent.visibility h).trans (hcoherent.shape.shapeMaskChecksum h)

end ShapedWindow

end WebXEngine
