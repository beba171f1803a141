import WebXEngine.Controller.WindowImages
import WebXEngine.Display.VisibleWindows

/-! # What the handler sends

The calls of the handler of the controller, for a server that answers the queries of the attributes
of the window in the same way during a call.

* **`GrabOutcome`** — an image of a window is grabbed, or the grab fails in one of two ways.
* **`ImageUpdate`** — what is sent of a window, and what the window is told of it.
* **`updateClientWindow_eq`** — a call for a window that can be found. -/

namespace WebXEngine

/-- How the grab of an image ends: the window does not exist any more and its attributes are not
written, the pixels cannot be read, or there is an image. -/
inductive GrabOutcome
  | removed (unwritten : XWindowAttributes)
  | failed
  | grabbed (image : WebXImage)
  deriving DecidableEq, Repr

namespace GrabOutcome

/-- The image. -/
def image : GrabOutcome → Option WebXImage
  | grabbed image => some image
  | _ => none

/-- The answers of the server. -/
def answer (attributes : XWindowAttributes) : GrabOutcome → GrabAnswer
  | removed unwritten => ⟨false, unwritten, none⟩
  | failed => ⟨true, attributes, none⟩
  | grabbed image => ⟨true, attributes, some image⟩

end GrabOutcome

/-- The place of the pixels of a window, relative to the window. -/
def XWindowAttributes.bounds (attributes : XWindowAttributes) : WebXRectangle :=
  .ofSize 0 0 attributes.width.toInt attributes.height.toInt

/-! ## Images of windows -/

/-- A window has a shape when it has a mask. -/
theorem WebXWindow.shapeMask_of_hasShape (window : WebXWindow) :
    (if window.hasShape then window.shape.shapeMask else none) = window.shape.shapeMask := by
  rw [WebXWindow.hasShape]
  cases hmask : window.shape.shapeMask with
  | none => rfl
  | some mask => rfl

namespace WebXDisplay

variable {display : WebXDisplay} {x11Window : UInt32}

/-- **An image is grabbed from a visible window** when its attributes are known and the rectangle is
within its bounds; the shapes of the windows stay the same. -/
theorem getImage_spec (h : display.Findable x11Window) (imageRectangle : Option WebXRectangle)
    (answer : GrabAnswer) :
    ∃ display', display.getImage x11Window imageRectangle answer =
        .ok (if x11Window ∈ display.visibleWindows ∧ answer.status = true ∧
            imageRectangle.all answer.attributes.bounds.contains = true
          then answer.image else none, display') ∧
      SameShapes display display' := by
  rw [getImage, callIfWindowVisible_of_findable h]
  by_cases hvisible : x11Window ∈ display.visibleWindows
  · obtain ⟨window, hwindow⟩ := Option.isSome_iff_exists.mp (h.isSome hvisible)
    obtain ⟨display', hmodify, hwindow', hsame⟩ := sameShapes_modifyWindow hwindow
      (fun window => { window with
        rectangle := answer.attributes.rectangle
        isViewable := answer.attributes.isShown }) rfl
    have hbounds : WebXRectangle.ofSize 0 0 answer.attributes.rectangle.size.width
        answer.attributes.rectangle.size.height = answer.attributes.bounds := rfl
    refine ⟨display', ?_, hsame⟩
    rw [if_pos hvisible, grabWindow, updateAttributes, hmodify]
    simp only [hvisible, true_and]
    -- a window that X does not know has no image
    cases answer.status with
    | false => simp [bind, Except.bind, pure, Except.pure]
    | true =>
        simp only [deref_of_getWindow hwindow', bind, Except.bind, pure, Except.pure, hbounds,
          true_and, if_true]
        split_ifs <;> rfl
  · refine ⟨display, ?_, .refl display⟩
    rw [if_neg hvisible, if_neg fun h => hvisible h.1]

/-- An image, when the server answers the queries of the attributes in the same way. -/
theorem getImage_eq (h : display.Findable x11Window) (imageRectangle : Option WebXRectangle)
    (attributes : XWindowAttributes) (outcome : GrabOutcome) :
    ∃ display', display.getImage x11Window imageRectangle (outcome.answer attributes) =
        .ok (if x11Window ∈ display.visibleWindows ∧ imageRectangle.all attributes.bounds.contains = true
          then outcome.image else none, display') ∧
      SameWindows display display' := by
  obtain ⟨display', hget, hsame⟩ := getImage_spec h imageRectangle (outcome.answer attributes)
  refine ⟨display', hget.trans ?_, hsame.toSameWindows⟩
  cases outcome <;> simp [GrabOutcome.answer, GrabOutcome.image]

/-- Whatever the server answers, there is no image or the one that was grabbed. -/
theorem exists_getImage (h : display.Findable x11Window) (imageRectangle : Option WebXRectangle)
    (answer : GrabAnswer) :
    ∃ image display', display.getImage x11Window imageRectangle answer = .ok (image, display') ∧
      (image = none ∨ image = answer.image) ∧ SameShapes display display' := by
  obtain ⟨display', hget, hsame⟩ := getImage_spec h imageRectangle answer
  refine ⟨_, display', hget, ?_, hsame⟩
  split_ifs
  · exact .inr rfl
  · exact .inl rfl

/-- The search meets a window that was freed. -/
theorem getImage_of_not_findable (h : ¬ display.Findable x11Window)
    (imageRectangle : Option WebXRectangle) (answer : GrabAnswer) :
    display.getImage x11Window imageRectangle answer = .error .freedObject :=
  callIfWindowVisible_of_not_findable h

/-- Grabbing an image leaves the windows as they are. -/
theorem sameWindows_getImage {display' : WebXDisplay} {imageRectangle : Option WebXRectangle}
    {answer : GrabAnswer} {image : Option WebXImage}
    (h : display.getImage x11Window imageRectangle answer = .ok (image, display')) :
    SameWindows display display' := by
  by_cases hfindable : display.Findable x11Window
  · obtain ⟨after, hget, hsame⟩ := getImage_spec hfindable imageRectangle answer
    cases h.symm.trans hget
    exact hsame.toSameWindows
  · cases h.symm.trans (getImage_of_not_findable hfindable imageRectangle answer)

/-- The mask of a visible window after its shape was asked for. -/
def shapeMaskOf (display : WebXDisplay) (x11Window : UInt32) (shape : XWindowShape) :
    Option WebXImage :=
  if x11Window ∈ display.visibleWindows then
    (display.getWindow x11Window).bind fun window => (window.updateShape shape).shape.shapeMask
  else
    none

/-- The mask that the display has of a visible window. -/
def shapeMask (display : WebXDisplay) (x11Window : UInt32) : Option WebXImage :=
  if x11Window ∈ display.visibleWindows then
    (display.getWindow x11Window).bind fun window => window.shape.shapeMask
  else
    none

/-- **The shape mask of a visible window** is the one that the display has afterwards. -/
theorem getWindowShapeMask_eq (h : display.Findable x11Window) (shape : XWindowShape) :
    ∃ display', display.getWindowShapeMask x11Window shape =
        .ok (display.shapeMaskOf x11Window shape, display') ∧
      SameWindows display display' ∧
      display'.shapeMask x11Window = display.shapeMaskOf x11Window shape := by
  rw [getWindowShapeMask, callIfWindowVisible_of_findable h, shapeMaskOf]
  by_cases hvisible : x11Window ∈ display.visibleWindows
  · obtain ⟨window, hwindow⟩ := Option.isSome_iff_exists.mp (h.isSome hvisible)
    obtain ⟨display', hmodify, hwindow', hsame⟩ :=
      modifyWindow_of_some hwindow (WebXWindow.updateShape shape)
    refine ⟨display', ?_, hsame, ?_⟩
    · rw [if_pos hvisible, if_pos hvisible, hmodify, hwindow]
      simp only [deref_of_getWindow hwindow', bind, Except.bind, pure, Except.pure,
        WebXWindow.shapeMask_of_hasShape, Option.bind]
    · rw [shapeMask, hsame.visibleWindows, if_pos hvisible, if_pos hvisible, hwindow', hwindow]
      rfl
  · refine ⟨display, ?_, .refl display, ?_⟩
    · rw [if_neg hvisible, if_neg hvisible]
    · rw [shapeMask, if_neg hvisible, if_neg hvisible]

/-- A window that is not found has no shape mask to read: the null pointer is used. -/
theorem getWindowShapeMask_of_not_findable (h : ¬ display.Findable x11Window)
    (shape : XWindowShape) : display.getWindowShapeMask x11Window shape = .error .freedObject :=
  callIfWindowVisible_of_not_findable h

/-- Asking for the mask of a window leaves the windows as they are. -/
theorem sameWindows_getWindowShapeMask {display' : WebXDisplay} {shape : XWindowShape}
    {shapeMask : Option WebXImage}
    (h : display.getWindowShapeMask x11Window shape = .ok (shapeMask, display')) :
    SameWindows display display' := by
  by_cases hfindable : display.Findable x11Window
  · obtain ⟨after, hget, hsame, -⟩ := getWindowShapeMask_eq hfindable shape
    cases h.symm.trans hget
    exact hsame
  · cases h.symm.trans (getWindowShapeMask_of_not_findable hfindable shape)

end WebXDisplay

/-! ## The calls of the handler -/

namespace WebXController

open WebXDisplay (SameWindows)

/-- The answers of the server for a window with some attributes. -/
def answersOf (attributes : XWindowAttributes) (shape : XWindowShape) (outcomes : ℕ → GrabOutcome) :
    UpdateAnswers := ⟨fun k => (outcomes k).answer attributes, shape⟩

/-- The image of a damaged area can be grabbed: the area is within the bounds of the window. -/
def GrabsArea (attributes : XWindowAttributes) (outcomes : ℕ → GrabOutcome)
    (areas : List WebXRectangle) (area : WebXRectangle) (image : WebXImage) : Prop :=
  ∃ k, areas[k]? = some area ∧ attributes.bounds.contains area = true ∧
    outcomes k = .grabbed image

section Calls

variable (settings : WebXSettings) (checksum : List UInt8 → UInt32) (attributes : XWindowAttributes)
  (shape : XWindowShape) (outcomes : ℕ → GrabOutcome) (now : Time) (window : WebXClientWindow)
  (clientIndexMask : UInt64) (visible : Prop)

/-- What is sent of a window that is visible or not: the full window, its damaged areas that can be
grabbed, or nothing; and what the window is told of it. -/
inductive ImageUpdate : WebXWindowImageTransferData → List WebXMessage → Prop
  | notGrabbed (hfull : updatesFullWindow window = true)
      (hnot : ¬ (visible ∧ ∃ image, outcomes 0 = .grabbed image)) :
      ImageUpdate (ignoredData now window) []
  | unchanged (hfull : updatesFullWindow window = true) (hvisible : visible) (image : WebXImage)
      (hgrabbed : outcomes 0 = .grabbed image)
      (hunchanged : (verifyImageUpdate settings checksum image window).2.hasChanged = false) :
      ImageUpdate (ignoredData now window) []
  | fullWindow (hfull : updatesFullWindow window = true) (hvisible : visible) (image : WebXImage)
      (hgrabbed : outcomes 0 = .grabbed image)
      (hchanged : (verifyImageUpdate settings checksum image window).2.hasChanged = true) :
      ImageUpdate
        ⟨window.id, now, sizeKB (verifyImageUpdate settings checksum image window).1.getFullDataSize,
          (verifyImageUpdate settings checksum image window).2.rgbChecksum,
          (verifyImageUpdate settings checksum image window).2.alphaChecksum, .fullWindow⟩
        [⟨clientIndexMask, .image WebXMessage.noCommandId window.id
          (some (verifyImageUpdate settings checksum image window).1)⟩]
  | noArea (hfull : updatesFullWindow window = false)
      (hnot : ∀ area image, ¬ (visible ∧
        GrabsArea attributes outcomes window.damage.damageAreas area image)) :
      ImageUpdate (ignoredData now window) []
  | subWindow (hfull : updatesFullWindow window = false)
      (subImages : List (WebXRectangle × WebXImage)) (size : ℚ)
      (hmem : ∀ area image, (area, image) ∈ subImages ↔ visible ∧
        GrabsArea attributes outcomes window.damage.damageAreas area image) :
      ImageUpdate ⟨window.id, now, size, 0, 0, .subWindow⟩
        [⟨clientIndexMask, .subimages window.id
          (subImages.map fun subImage => subImageOf subImage.1 subImage.2)⟩]

variable {settings checksum attributes shape outcomes now window clientIndexMask visible}
  {state : UpdateState}

/-- A message that is sent with a shape. -/
def IsShape (message : WebXMessage) : Prop :=
  ∃ commandId x11Window mask, message.content = .shape commandId x11Window mask

/-- The shape is sent when it has changed. -/
theorem updateShape_eq (h : state.display.Findable window.id) :
    ∃ display' shapes, updateShape (answersOf attributes shape outcomes) window clientIndexMask state =
        .ok ⟨display', state.sent ++ shapes⟩ ∧
      SameWindows state.display display' ∧ ∀ message ∈ shapes, IsShape message := by
  cases hrequires : window.shapeRequiresUpdate with
  | false =>
      refine ⟨state.display, [], ?_, .refl _, by simp⟩
      rw [updateShape, hrequires, List.append_nil]
      rfl
  | true =>
      obtain ⟨display', hmask, hsame, -⟩ := WebXDisplay.getWindowShapeMask_eq h shape
      rw [updateShape, hrequires, if_pos rfl,
        show (answersOf attributes shape outcomes).shape = shape from rfl, hmask]
      cases state.display.shapeMaskOf window.id shape with
      | none => exact ⟨display', [], by rw [List.append_nil]; rfl, hsame, by simp⟩
      | some mask =>
          refine ⟨display', [_], rfl, hsame, ?_⟩
          intro message hmessage
          rw [List.mem_singleton.mp hmessage]
          exact ⟨_, _, _, rfl⟩

variable (attributes) in
/-- The areas that are grabbed are those within the bounds of the window whose grab does not fail. -/
theorem grabSubImages_eq {x11Window : UInt32} : ∀ (areas : List WebXRectangle)
    (outcomes : ℕ → GrabOutcome) (display : WebXDisplay), display.Findable x11Window →
      ∃ subImages display', grabSubImages x11Window (fun k => (outcomes k).answer attributes) areas
          display = .ok (subImages, display') ∧
        SameWindows display display' ∧
        ∀ area image, (area, image) ∈ subImages ↔ x11Window ∈ display.visibleWindows ∧
          GrabsArea attributes outcomes areas area image := by
  intro areas
  induction areas with
  | nil => exact fun _ display _ => ⟨[], display, rfl, .refl display, by simp [GrabsArea]⟩
  | cons first areas ih =>
      -- the first grab leaves the windows the same; the IH is at the outcomes after it
      intro outcomes display h
      obtain ⟨d₁, hget, hsame₁⟩ :=
        WebXDisplay.getImage_eq h (some first) attributes (outcomes 0)
      obtain ⟨subImages, d₂, hgrab, hsame₂, hmem⟩ :=
        ih (fun k => outcomes (k + 1)) d₁ (hsame₁.findable.mpr h)
      rw [hsame₁.visibleWindows] at hmem
      generalize hresult : (if x11Window ∈ display.visibleWindows ∧
        Option.all attributes.bounds.contains (some first) = true then (outcomes 0).image
        else none) = result at hget
      refine ⟨(result.toList.map fun image => (first, image)) ++ subImages, d₂, ?_,
        hsame₁.trans hsame₂, ?_⟩
      · rw [grabSubImages, hget]
        change (grabSubImages x11Window (fun k => (outcomes (k + 1)).answer attributes) areas d₁ >>=
          fun result => _) = _
        rw [hgrab]
        rfl
      intro area image
      rw [List.mem_append, hmem, List.mem_map]
      constructor
      · rintro (⟨image', himage, hpair⟩ | ⟨hvisible, k, hk, hcontains, houtcome⟩)
        · cases hpair
          rw [Option.mem_toList, ← hresult] at himage
          split_ifs at himage with hcond
          cases houtcome : outcomes 0 with
          | removed _ | failed =>
              rw [houtcome] at himage
              exact nomatch himage
          | grabbed _ =>
              rw [houtcome] at himage
              cases himage
              exact ⟨hcond.1, 0, rfl, by simpa using hcond.2, houtcome⟩
        · exact ⟨hvisible, k + 1, hk, hcontains, houtcome⟩
      · rintro ⟨hvisible, k, hk, hcontains, houtcome⟩
        -- the area is the first, or one of the others (IH)
        cases k with
        | zero =>
            cases hk
            refine .inl ⟨image, ?_, rfl⟩
            rw [← hresult, if_pos ⟨hvisible, by simpa using hcontains⟩, houtcome]
            exact List.mem_singleton_self image
        | succ k => exact .inr ⟨hvisible, k, hk, hcontains, houtcome⟩

/-- A full window is sent when it can be grabbed and has changed. -/
theorem updateFullWindow_eq (h : state.display.Findable window.id)
    (hfull : updatesFullWindow window = true) :
    ∃ transferData display' images, updateFullWindow settings checksum
        (answersOf attributes shape outcomes) now window clientIndexMask state =
        .ok (transferData, ⟨display', state.sent ++ images⟩) ∧
      SameWindows state.display display' ∧
      ImageUpdate settings checksum attributes outcomes now window clientIndexMask
        (window.id ∈ state.display.visibleWindows) transferData images := by
  obtain ⟨display', hget, hsame⟩ := WebXDisplay.getImage_eq h none attributes (outcomes 0)
  rw [updateFullWindow, show (answersOf attributes shape outcomes).grabs 0 =
    (outcomes 0).answer attributes from rfl, hget]
  by_cases hgrabbed : window.id ∈ state.display.visibleWindows ∧ ∃ image, outcomes 0 = .grabbed image
  · obtain ⟨hvisible, image, houtcome⟩ := hgrabbed
    rw [if_pos ⟨hvisible, rfl⟩, houtcome]
    cases hchanged : (verifyImageUpdate settings checksum image window).2.hasChanged with
    | true =>
        refine ⟨_, display', _, ?_, hsame, .fullWindow hfull hvisible image houtcome hchanged⟩
        simp only [GrabOutcome.image, bind, Except.bind, pure, Except.pure, hchanged, if_true]
    | false =>
        refine ⟨_, display', [], ?_, hsame, .unchanged hfull hvisible image houtcome hchanged⟩
        simp only [GrabOutcome.image, bind, Except.bind, pure, Except.pure, hchanged,
          Bool.false_eq_true, if_false, List.append_nil]
  · -- there is no image
    refine ⟨_, display', [], ?_, hsame, .notGrabbed hfull hgrabbed⟩
    have hnone : (if window.id ∈ state.display.visibleWindows ∧
        Option.all attributes.bounds.contains none = true then (outcomes 0).image else none) =
        none := by
      split_ifs with hcond
      · cases houtcome : outcomes 0 with
        | removed _ | failed => rfl
        | grabbed image => exact absurd ⟨hcond.1, image, houtcome⟩ hgrabbed
      · rfl
    rw [hnone, List.append_nil]
    rfl

/-- The damaged areas that can be grabbed are sent together. -/
theorem updateSubWindow_eq (h : state.display.Findable window.id)
    (hfull : updatesFullWindow window = false) :
    ∃ transferData display' images, updateSubWindow (answersOf attributes shape outcomes) now window
        clientIndexMask state = .ok (transferData, ⟨display', state.sent ++ images⟩) ∧
      SameWindows state.display display' ∧
      ImageUpdate settings checksum attributes outcomes now window clientIndexMask
        (window.id ∈ state.display.visibleWindows) transferData images := by
  obtain ⟨subImages, display', hgrab, hsame, hmem⟩ :=
    grabSubImages_eq attributes window.damage.damageAreas outcomes state.display h
  rw [updateSubWindow, show (answersOf attributes shape outcomes).grabs =
    fun k => (outcomes k).answer attributes from rfl, hgrab]
  cases subImages with
  | nil =>
      refine ⟨_, display', [], ?_, hsame, .noArea hfull fun area image hgrabs => ?_⟩
      · rw [List.append_nil]
        rfl
      · exact nomatch (hmem area image).mpr hgrabs
  | cons first others => exact ⟨_, display', _, rfl, hsame, .subWindow hfull _ _ hmem⟩

variable (settings checksum attributes shape outcomes now clientIndexMask) in
/-- **What a call for a window that can be found sends.** -/
theorem updateClientWindow_eq (h : state.display.Findable window.id) :
    ∃ transferData display' shapes images, updateClientWindow settings checksum
        (answersOf attributes shape outcomes) now window clientIndexMask state =
        .ok (transferData, ⟨display', state.sent ++ (shapes ++ images)⟩) ∧
      SameWindows state.display display' ∧ (∀ message ∈ shapes, IsShape message) ∧
      ImageUpdate settings checksum attributes outcomes now window clientIndexMask
        (window.id ∈ state.display.visibleWindows) transferData images := by
  obtain ⟨display₁, shapes, hshape, hsame₁, hshapes⟩ := updateShape_eq h
  have h₁ : display₁.Findable window.id := hsame₁.findable.mpr h
  -- after the shape, the images of the whole window or of its damaged parts
  have himages : ∃ transferData display' images, (if updatesFullWindow window then
        updateFullWindow settings checksum (answersOf attributes shape outcomes) now window
          clientIndexMask ⟨display₁, state.sent ++ shapes⟩
      else updateSubWindow (answersOf attributes shape outcomes) now window clientIndexMask
        ⟨display₁, state.sent ++ shapes⟩) =
        .ok (transferData, ⟨display', (state.sent ++ shapes) ++ images⟩) ∧
      SameWindows display₁ display' ∧
      ImageUpdate settings checksum attributes outcomes now window clientIndexMask
        (window.id ∈ display₁.visibleWindows) transferData images := by
    cases hfull : updatesFullWindow window with
    | true => exact updateFullWindow_eq h₁ hfull
    | false => exact updateSubWindow_eq h₁ hfull
  obtain ⟨transferData, display', images, hupdate, hsame', himage⟩ := himages
  rw [hsame₁.visibleWindows] at himage
  refine ⟨transferData, display', shapes, images, ?_, hsame₁.trans hsame', hshapes, himage⟩
  rw [updateClientWindow, hshape, ← List.append_assoc]
  exact hupdate

/-- The search for the window meets a window that was freed. -/
theorem updateClientWindow_of_not_findable (h : ¬ state.display.Findable window.id)
    (hrequires : (window.hasDamage || window.shapeRequiresUpdate) = true) :
    updateClientWindow settings checksum (answersOf attributes shape outcomes) now window
      clientIndexMask state = .error .freedObject := by
  rw [updateClientWindow, updateShape]
  cases hshape : window.shapeRequiresUpdate with
  | true =>
      rw [if_pos rfl, WebXDisplay.getWindowShapeMask_of_not_findable h]
      rfl
  | false =>
      rw [if_neg Bool.false_ne_true]
      rw [hshape, Bool.or_false] at hrequires
      change (if updatesFullWindow window then updateFullWindow settings checksum
        (answersOf attributes shape outcomes) now window clientIndexMask state
        else updateSubWindow (answersOf attributes shape outcomes) now window clientIndexMask state) = _
      cases hfull : updatesFullWindow window with
      | true =>
          rw [if_pos rfl, updateFullWindow, WebXDisplay.getImage_of_not_findable h]
          rfl
      | false =>
          -- the damage is not the full window, so that there is an area
          rw [if_neg Bool.false_ne_true, updateSubWindow]
          cases hareas : window.damage.damageAreas with
          | nil =>
              have hnotFull : window.damage.isFullWindow = false := by
                rw [Bool.eq_false_iff]
                intro hdamage
                refine Bool.eq_false_iff.mp hfull ?_
                rw [updatesFullWindow, WebXClientWindow.isFullWindowDamage,
                  WebXWindowDamage.isFullWindowOf, if_pos hdamage, Bool.true_or]
              rw [WebXClientWindow.hasDamage, WebXWindowDamage.hasDamage, hareas, hnotFull] at hrequires
              exact nomatch hrequires
          | cons area areas =>
              rw [grabSubImages, WebXDisplay.getImage_of_not_findable h]
              rfl

end Calls

end WebXController

end WebXEngine
