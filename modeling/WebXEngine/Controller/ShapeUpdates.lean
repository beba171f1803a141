import WebXEngine.Controller.ClientInstructions
import WebXEngine.Display.WindowShape
import WebXEngine.Utils.Crc32

/-! # The shapes that the clients are told

In each round of its loop the controller tells the groups of clients which windows are visible, and
handles the windows that have something to send. A shape whose checksum has changed is marked as sent;
it is sent when there is a mask, and nothing is sent when the window has lost its shape.

* **`ControllerState.updateClientWindows`** — the round.
* **`Turn`** — a window of a group, with the state in which its turn comes.
* **`ControllerState.TellsShapes`** — the clients of the group are told each shape that is marked.
* **`shapesTold_iff`** — they are, in every run, exactly when the windows have masks. -/

namespace WebXEngine

/-! ## Visibilities -/

/-- The visibility of a window. -/
def WebXWindow.visibility (checksum : List UInt8 → UInt32) (x11Window : UInt32)
    (coverage : WebXWindowCoverage) (window : WebXWindow) : WebXWindowVisibility where
  x11Window := x11Window
  rectangle := window.rectangle
  coverage := coverage
  isViewable := window.isViewable
  shapeMaskChecksum := window.shape.getShapeMaskChecksum checksum

namespace WebXDisplay

/-- The visibilities of the visible windows, which are read through their pointers. -/
def getWindowVisiblities (checksum : List UInt8 → UInt32) (coverage : UInt32 → WebXWindowCoverage)
    (display : WebXDisplay) : Except Fault (List WebXWindowVisibility) :=
  display.visibleWindows.mapM fun x11Window =>
    (display.derefVisible x11Window).map
      (WebXWindow.visibility checksum x11Window (coverage x11Window))

/-- A window is visible and has a mask: the one that was built for its size, or else the one that X gives
for its shape. -/
def HasMask (display : WebXDisplay) (x11Window : UInt32) (shape : XWindowShape) : Prop :=
  x11Window ∈ display.visibleWindows ∧ ∃ window, display.getWindow x11Window = some window ∧
    if window.shape.isBuilt && window.shape.width = window.rectangle.size.width &&
        window.shape.height = window.rectangle.size.height then
      window.shape.shapeMask ≠ none
    else
      shape.shapeMask ≠ none

instance (display : WebXDisplay) (x11Window : UInt32) (shape : XWindowShape) :
    Decidable (display.HasMask x11Window shape) :=
  match hwindow : display.getWindow x11Window with
  | none => .isFalse fun h => by
      obtain ⟨-, window, hsome, -⟩ := h
      exact nomatch hwindow.symm.trans hsome
  | some window =>
      decidable_of_iff (x11Window ∈ display.visibleWindows ∧
        if window.shape.isBuilt && window.shape.width = window.rectangle.size.width &&
            window.shape.height = window.rectangle.size.height then
          window.shape.shapeMask.isSome
        else
          shape.shapeMask.isSome) (by simp [HasMask, hwindow, Option.isSome_iff_ne_none])

end WebXDisplay

/-! ## Turns -/

/-- The turn of a window of a group in the loops over the groups and their windows, with the state of
the handler when it comes. -/
structure Turn (σ : Type*) where
  group : WebXClientGroup
  window : WebXClientWindow
  state : σ

/-- The shape of the window is marked as sent after it has changed. -/
def Turn.MarksShape {σ : Type*} (now : Time) (turn : Turn σ) : Prop :=
  WebXClientGroup.requiresUpdate turn.window now = true ∧ turn.window.shapeRequiresUpdate = true

/-- The turns of the windows of a group. -/
def WebXClientGroup.turns {σ : Type*} (settings : WebXQualitySettings) (updateHandler : UpdateHandler σ)
    (now : Time) (group : WebXClientGroup) : List WebXClientWindow → σ → List (Turn σ)
  | [], _ => []
  | window :: windows, state =>
      ⟨group, window, state⟩ :: group.turns settings updateHandler now windows
        (handleWindowGraphicalUpdate settings updateHandler group.clientIndexMask now window state).2.2

/-- The turns of the windows of all groups. -/
def WebXClientRegistry.turns {σ : Type*} (settings : WebXSettings) (updateHandler : UpdateHandler σ)
    (now : Time) : List WebXClientGroup → σ → List (Turn σ)
  | [], _ => []
  | group :: groups, state =>
      group.turns settings.quality updateHandler now group.windows state ++
        turns settings updateHandler now groups
          (group.handleWindowGraphicalUpdates settings.quality updateHandler now state).2

/-! ## The round of the controller -/

/-- What a round gets from outside: the coverage of the windows, what X answers while a window is handled
for a group of clients, and the time. -/
structure ClientUpdate where
  coverage : UInt32 → WebXWindowCoverage
  answers : UInt64 → UInt32 → WebXController.UpdateAnswers
  now : Time

/-- The handler of the controller in a round. -/
def ClientUpdate.handler (settings : WebXSettings) (checksum : List UInt8 → UInt32)
    (update : ClientUpdate) : UpdateHandler (Except Fault WebXController.UpdateState) :=
  fun window clientIndexMask =>
    WebXController.updateHandler settings checksum (update.answers clientIndexMask) update.now window
      clientIndexMask

namespace ControllerState

variable (settings : WebXSettings) (checksum : List UInt8 → UInt32) (update : ClientUpdate)
  (state : ControllerState)

/-- Tells the groups which windows are visible, and handles those that have something to send. -/
def updateClientWindows : Except Fault ControllerState := do
  let windowVisibilities ← state.display.getWindowVisiblities checksum update.coverage
  let registry := state.registry.updateVisibleWindows settings windowVisibilities update.now
  let handled := registry.handleWindowGraphicalUpdates settings (update.handler settings checksum)
    update.now (.ok ⟨state.display, state.sent⟩)
  let after ← handled.2
  return { state with display := after.display, registry := handled.1, sent := after.sent }

/-- The turns of a round. -/
def turns : List (Turn (Except Fault WebXController.UpdateState)) :=
  match state.display.getWindowVisiblities checksum update.coverage with
  | .ok windowVisibilities =>
      WebXClientRegistry.turns settings (update.handler settings checksum) update.now
        (state.registry.updateVisibleWindows settings windowVisibilities update.now).groups
        (.ok ⟨state.display, state.sent⟩)
  | .error _ => []

end ControllerState

/-- A message tells all clients of a group the mask of a window, or that it has none. -/
def TellsShape (group : WebXClientGroup) (x11Window : UInt32) (shapeMask : Option WebXImage)
    (message : WebXMessage) : Prop :=
  (∃ commandId, message.content = .shape commandId x11Window shapeMask) ∧
    ∀ client ∈ group.clients, message.clientIndexMask &&& client.index ≠ 0

/-- The window is visible and has a mask when its turn comes. -/
def Turn.HasMask (update : ClientUpdate) (turn : Turn (Except Fault WebXController.UpdateState)) :
    Prop :=
  ∃ before, turn.state = .ok before ∧ before.display.HasMask turn.window.id
    (update.answers turn.group.clientIndexMask turn.window.id).shape

instance {σ : Type*} (now : Time) (turn : Turn σ) : Decidable (turn.MarksShape now) :=
  inferInstanceAs (Decidable (_ ∧ _))

instance (update : ClientUpdate) (turn : Turn (Except Fault WebXController.UpdateState)) :
    Decidable (turn.HasMask update) :=
  match hstate : turn.state with
  | .error _ => .isFalse fun h => by
      obtain ⟨before, hbefore, -⟩ := h
      exact nomatch hstate.symm.trans hbefore
  | .ok before =>
      decidable_of_iff (before.display.HasMask turn.window.id
        (update.answers turn.group.clientIndexMask turn.window.id).shape)
        (by simp [Turn.HasMask, hstate])

namespace ControllerState

/-- In a round, the clients of a group are told each shape that is marked as sent: the mask that the
display has when it is marked, or that there is none. -/
def TellsShapes (settings : WebXSettings) (checksum : List UInt8 → UInt32) (state : ControllerState)
    (update : ClientUpdate) : Prop :=
  ∀ turn ∈ state.turns settings checksum update, turn.MarksShape update.now →
    ∃ state' after, state.updateClientWindows settings checksum update = .ok state' ∧
      (update.handler settings checksum turn.window turn.group.clientIndexMask turn.state).2 = .ok after ∧
      ∃ message ∈ state'.sent.drop state.sent.length,
        TellsShape turn.group turn.window.id (after.display.shapeMask turn.window.id) message

/-- In a round, the windows whose shapes are marked as sent have masks. -/
def HaveMasks (settings : WebXSettings) (checksum : List UInt8 → UInt32) (state : ControllerState)
    (update : ClientUpdate) : Prop :=
  ∀ turn ∈ state.turns settings checksum update, turn.MarksShape update.now → turn.HasMask update

instance (settings : WebXSettings) (checksum : List UInt8 → UInt32) (state : ControllerState)
    (update : ClientUpdate) : Decidable (state.HaveMasks settings checksum update) :=
  inferInstanceAs (Decidable (∀ turn ∈ _, _ → _))

end ControllerState

/-! ## Runs -/

/-- The action is a part of the round, which only the round takes. -/
def ControllerAction.isUpdate {root : UInt32} : ControllerAction root → Bool
  | .engine (.registry (.updateVisibleWindows _ _)) => true
  | .engine (.registry (.handleWindowGraphicalUpdates _ _)) => true
  | _ => false

/-- What happens to the engine: the rounds of the updates, and everything else. -/
inductive LoopAction (root : UInt32)
  | controller (action : ControllerAction root) (hnot : action.isUpdate = false)
  | updateClientWindows (update : ClientUpdate)

namespace ControllerState

variable {root : UInt32} (settings : WebXSettings) (checksum : List UInt8 → UInt32)
  (engineVersion : WebXVersion) (keyMaps : KeyMaps) (depth stackDepth : ℕ)

/-- One action. -/
def loopStep (state : ControllerState) : LoopAction root → Except Fault ControllerState
  | .controller action _ => state.step settings engineVersion keyMaps depth stackDepth action
  | .updateClientWindows update => state.updateClientWindows settings checksum update

/-- All rounds of a run have a property. -/
def EveryUpdate (P : ControllerState → ClientUpdate → Prop) :
    List (LoopAction root) → ControllerState → Prop
  | [], _ => True
  | action :: actions, state =>
      (∀ update, action = .updateClientWindows update → P state update) ∧
        ∀ state', state.loopStep settings checksum engineVersion keyMaps depth stackDepth action =
            .ok state' →
          EveryUpdate P actions state'

end ControllerState

/-! ## What a turn does to the shapes -/

namespace WebXDisplay

variable {display display' : WebXDisplay} {x11Window : UInt32}

/-- The masks depend on the shapes only. -/
theorem shapeMask_eq (display : WebXDisplay) (x11Window : UInt32) :
    display.shapeMask x11Window =
      if x11Window ∈ display.visibleWindows then
        ((display.getWindow x11Window).map WebXWindow.shape).bind WebXWindowShape.shapeMask
      else
        none := by
  rw [shapeMask, Option.bind_map]
  rfl

/-- The same shapes have the same masks. -/
theorem SameShapes.shapeMask (h : SameShapes display display') (x11Window : UInt32) :
    display'.shapeMask x11Window = display.shapeMask x11Window := by
  rw [shapeMask_eq, shapeMask_eq, h.shape, h.visibleWindows]

/-- There is a mask after the shape was asked for when the window has one. -/
theorem shapeMaskOf_ne_none_iff (shape : XWindowShape) :
    display.shapeMaskOf x11Window shape ≠ none ↔ display.HasMask x11Window shape := by
  rw [shapeMaskOf, HasMask]
  by_cases hvisible : x11Window ∈ display.visibleWindows
  · rw [if_pos hvisible, and_iff_right hvisible]
    cases hwindow : display.getWindow x11Window with
    | none => simp
    | some window =>
        simp only [Option.bind_some, Option.some.injEq, exists_eq_left', WebXWindow.updateShape,
          WebXWindowShape.update]
        split_ifs <;> rfl
  · rw [if_neg hvisible]
    exact iff_of_false (fun h => h rfl) fun h => hvisible h.1

end WebXDisplay

namespace WebXController

open WebXDisplay (SameShapes SameWindows)

/-- Messages were sent, and those with a shape have a mask; the windows are the same. -/
structure Sends (messages : List WebXMessage) (before after : UpdateState) : Prop where
  sent : after.sent = before.sent ++ messages
  windows : SameWindows before.display after.display
  shapes : ∀ message ∈ messages, ∀ commandId x11Window shapeMask,
    message.content = .shape commandId x11Window shapeMask → shapeMask ≠ none

/-- Nothing is sent. -/
theorem Sends.nothing {state : UpdateState} {display' : WebXDisplay}
    (h : SameWindows state.display display') : Sends [] state ⟨display', state.sent⟩ :=
  ⟨(List.append_nil _).symm, h, fun _ hmessage => absurd hmessage List.not_mem_nil⟩

/-- Nothing happens. -/
theorem Sends.refl (state : UpdateState) : Sends [] state state :=
  .nothing (.refl state.display)

/-- One message is sent; when it has a shape, the shape has a mask. -/
theorem Sends.singleton {state : UpdateState} {display' : WebXDisplay} {message : WebXMessage}
    (h : SameWindows state.display display')
    (hshape : ∀ commandId x11Window shapeMask,
      message.content = .shape commandId x11Window shapeMask → shapeMask ≠ none) :
    Sends [message] state ⟨display', state.sent ++ [message]⟩ :=
  ⟨rfl, h, fun _ hmessage => List.mem_singleton.mp hmessage ▸ hshape⟩

/-- Messages are sent one after the other. -/
theorem Sends.trans {messages messages' : List WebXMessage} {state state' state'' : UpdateState}
    (h : Sends messages state state') (h' : Sends messages' state' state'') :
    Sends (messages ++ messages') state state'' where
  sent := by rw [h'.sent, h.sent, List.append_assoc]
  windows := h.windows.trans h'.windows
  shapes := fun message hmessage =>
    (List.mem_append.mp hmessage).elim (h.shapes message) (h'.shapes message)

/-- The shape of a window was sent when there was a mask. -/
structure ShapeSent (answers : UpdateAnswers) (window : WebXClientWindow) (clientIndexMask : UInt64)
    (messages : List WebXMessage) (before after : UpdateState) : Prop where
  hasMask : after.display.shapeMask window.id ≠ none ↔
    before.display.HasMask window.id answers.shape
  sent : after.display.shapeMask window.id ≠ none →
    ⟨clientIndexMask, .shape WebXMessage.noCommandId window.id
      (after.display.shapeMask window.id)⟩ ∈ messages

section Turn

variable (settings : WebXSettings) (checksum : List UInt8 → UInt32) (answers : UpdateAnswers)
  (now : Time) {window : WebXClientWindow} (clientIndexMask : UInt64) {state : UpdateState}

/-- The loop over the damaged areas leaves the shapes as they are. -/
theorem sameShapes_grabSubImages {x11Window : UInt32} (areas : List WebXRectangle) :
    ∀ (grabs : ℕ → GrabAnswer) (display : WebXDisplay), display.Findable x11Window →
      ∃ subImages display', grabSubImages x11Window grabs areas display = .ok (subImages, display') ∧
        SameShapes display display' := by
  induction areas with
  | nil => exact fun _ display _ => ⟨[], display, rfl, .refl display⟩
  | cons area areas ih =>
      intro grabs display h
      obtain ⟨image, display₁, hget, -, hsame₁⟩ :=
        WebXDisplay.exists_getImage h (some area) (grabs 0)
      obtain ⟨subImages, display₂, hgrab, hsame₂⟩ :=
        ih (fun k => grabs (k + 1)) display₁ (hsame₁.findable.mpr h)
      refine ⟨(image.toList.map fun image => (area, image)) ++ subImages, display₂, ?_,
        hsame₁.trans hsame₂⟩
      rw [grabSubImages, hget]
      change (grabSubImages x11Window (fun k => grabs (k + 1)) areas display₁ >>= fun result => _) = _
      rw [hgrab]
      rfl

/-- The full window is sent without a shape. -/
theorem updateFullWindow_spec (h : state.display.Findable window.id) :
    ∃ transferData after messages,
      updateFullWindow settings checksum answers now window clientIndexMask state =
        .ok (transferData, after) ∧
      Sends messages state after ∧ SameShapes state.display after.display := by
  obtain ⟨image, display', hget, -, hsame⟩ :=
    WebXDisplay.exists_getImage h none (answers.grabs 0)
  rw [updateFullWindow, hget]
  dsimp only [bind, Except.bind]
  cases image with
  | none =>
      exact ⟨_, _, [], rfl, .nothing hsame.toSameWindows, hsame⟩
  | some image =>
      dsimp only
      split_ifs
      · refine ⟨_, _, [_], rfl, .singleton hsame.toSameWindows ?_, hsame⟩
        rintro commandId x11Window shapeMask ⟨⟩
      · exact ⟨_, _, [], rfl, .nothing hsame.toSameWindows, hsame⟩

/-- The damaged areas are sent without a shape. -/
theorem updateSubWindow_spec (h : state.display.Findable window.id) :
    ∃ transferData after messages,
      updateSubWindow answers now window clientIndexMask state = .ok (transferData, after) ∧
      Sends messages state after ∧ SameShapes state.display after.display := by
  obtain ⟨subImages, display', hgrab, hsame⟩ :=
    sameShapes_grabSubImages window.damage.damageAreas answers.grabs state.display h
  rw [updateSubWindow, hgrab]
  dsimp only [bind, Except.bind]
  split_ifs
  · refine ⟨_, _, [_], rfl, .singleton hsame.toSameWindows ?_, hsame⟩
    rintro commandId x11Window shapeMask ⟨⟩
  · exact ⟨_, _, [], rfl, .nothing hsame.toSameWindows, hsame⟩

/-- A shape that has changed is sent when there is a mask. -/
theorem updateShape_spec (h : state.display.Findable window.id) :
    ∃ after messages, updateShape answers window clientIndexMask state = .ok after ∧
      Sends messages state after ∧
      (window.shapeRequiresUpdate = true →
        ShapeSent answers window clientIndexMask messages state after) := by
  cases hrequires : window.shapeRequiresUpdate with
  | false =>
      -- the shape was not changed
      refine ⟨state, [], ?_, .refl state, fun hrequired => absurd hrequired Bool.false_ne_true⟩
      rw [updateShape, hrequires]
      rfl
  | true =>
      obtain ⟨display', hget, hsame, hafter⟩ :=
        WebXDisplay.getWindowShapeMask_eq h answers.shape
      have hmask := @WebXDisplay.shapeMaskOf_ne_none_iff state.display window.id answers.shape
      rw [← hafter] at hget hmask
      rw [updateShape, hrequires, if_pos rfl, hget]
      dsimp only [bind, Except.bind]
      cases hshape : display'.shapeMask window.id with
      | none =>
          -- no mask: the shape is marked as sent, but no message is sent
          refine ⟨⟨display', state.sent⟩, [], rfl, .nothing hsame, fun _ => ⟨hmask, ?_⟩⟩
          exact fun hne => absurd hshape hne
      | some shapeMask =>
          refine ⟨⟨display', _⟩, [_], rfl, .singleton hsame ?_, fun _ => ⟨hmask, fun _ => ?_⟩⟩
          · rintro commandId x11Window mask ⟨⟩
            exact Option.some_ne_none shapeMask
          · rw [hshape]
            exact List.mem_singleton_self _

/-- **The turn of a window**: the shape is sent, when there is a mask, and then the images. -/
theorem updateClientWindow_spec (h : state.display.Findable window.id) :
    ∃ transferData after messages,
      updateClientWindow settings checksum answers now window clientIndexMask state =
        .ok (transferData, after) ∧
      Sends messages state after ∧
      (window.shapeRequiresUpdate = true →
        ShapeSent answers window clientIndexMask messages state after) := by
  obtain ⟨state₁, shapes, hshape, hsends₁, hmask⟩ :=
    updateShape_spec answers clientIndexMask h
  have h₁ : state₁.display.Findable window.id := hsends₁.windows.findable.mpr h
  have himages : ∃ transferData after messages,
      (if updatesFullWindow window then
        updateFullWindow settings checksum answers now window clientIndexMask state₁
      else
        updateSubWindow answers now window clientIndexMask state₁) = .ok (transferData, after) ∧
      Sends messages state₁ after ∧ SameShapes state₁.display after.display := by
    split_ifs
    · exact updateFullWindow_spec settings checksum answers now clientIndexMask h₁
    · exact updateSubWindow_spec answers now clientIndexMask h₁
  obtain ⟨transferData, after, images, hupdate, hsends₂, hsame⟩ := himages
  refine ⟨transferData, after, shapes ++ images, ?_, hsends₁.trans hsends₂, fun hrequires => ?_⟩
  · rw [updateClientWindow, hshape]
    exact hupdate
  · -- the images leave the mask as it is
    obtain ⟨hhas, hsent⟩ := hmask hrequires
    refine ⟨by rw [hsame.shapeMask]; exact hhas, ?_⟩
    rw [hsame.shapeMask]
    exact fun hne => List.mem_append_left _ (hsent hne)

end Turn

end WebXController

/-! ## The turns of a round -/

open WebXController (Sends ShapeSent UpdateState)

/-- More messages were sent. -/
theorem WebXController.ShapeSent.mono {answers : WebXController.UpdateAnswers}
    {window : WebXClientWindow} {clientIndexMask : UInt64} {messages messages' : List WebXMessage}
    {before after : UpdateState}
    (h : ShapeSent answers window clientIndexMask messages before after)
    (hsubset : messages ⊆ messages') :
    ShapeSent answers window clientIndexMask messages' before after :=
  ⟨h.hasMask, fun hne => hsubset (h.sent hne)⟩

/-- What becomes of a turn: if the shape is marked as sent, it was sent when there was a mask. -/
def Turn.Handled (settings : WebXSettings) (checksum : List UInt8 → UInt32) (update : ClientUpdate)
    (messages : List WebXMessage) (turn : Turn (Except Fault UpdateState)) : Prop :=
  ∃ before, turn.state = .ok before ∧ (turn.MarksShape update.now →
    ∃ after, (update.handler settings checksum turn.window turn.group.clientIndexMask turn.state).2 =
        .ok after ∧
      ShapeSent (update.answers turn.group.clientIndexMask turn.window.id) turn.window
        turn.group.clientIndexMask messages before after)

section Turns

variable (settings : WebXSettings) (checksum : List UInt8 → UInt32) (update : ClientUpdate)
  {state : UpdateState}

/-- More messages were sent. -/
theorem Turn.Handled.mono {messages messages' : List WebXMessage}
    {turn : Turn (Except Fault UpdateState)}
    (h : turn.Handled settings checksum update messages) (hsubset : messages ⊆ messages') :
    turn.Handled settings checksum update messages' := by
  obtain ⟨before, hstate, hmarks⟩ := h
  refine ⟨before, hstate, fun hmarked => ?_⟩
  obtain ⟨after, hafter, hsent⟩ := hmarks hmarked
  exact ⟨after, hafter, hsent.mono hsubset⟩

/-- **One turn.** -/
theorem turn_spec (group : WebXClientGroup) {window : WebXClientWindow}
    (hfindable : state.display.Findable window.id) :
    ∃ after messages, (WebXClientGroup.handleWindowGraphicalUpdate settings.quality
        (update.handler settings checksum) group.clientIndexMask update.now window
        (.ok state)).2.2 = .ok after ∧
      Sends messages state after ∧
      Turn.Handled settings checksum update messages ⟨group, window, .ok state⟩ := by
  cases hrequires : WebXClientGroup.requiresUpdate window update.now with
  | false =>
      -- the window is skipped: nothing is sent, and nothing is marked
      refine ⟨state, [], ?_, .refl state, state, rfl, fun hmarked => ?_⟩
      · rw [WebXClientGroup.handleWindowGraphicalUpdate_of_not hrequires]
      · exact nomatch hrequires.symm.trans hmarked.1
  | true =>
      obtain ⟨transferData, after, messages, hupdate, hsends, hsent⟩ :=
        WebXController.updateClientWindow_spec settings checksum
          (update.answers group.clientIndexMask window.id) update.now group.clientIndexMask hfindable
      have hhandler : (update.handler settings checksum window group.clientIndexMask (.ok state)).2 =
          .ok after :=
        congrArg Prod.snd (WebXController.updateHandler_of_ok
          (update.answers group.clientIndexMask) hupdate)
      refine ⟨after, messages, ?_, hsends, state, rfl, fun hmarked => ⟨after, hhandler, ?_⟩⟩
      · rw [(WebXClientGroup.handleWindowGraphicalUpdate_of_requiresUpdate settings.quality
          (update.handler settings checksum) group.clientIndexMask (.ok state) hrequires).2]
        exact hhandler
      · exact hsent hmarked.2

/-- The turns of the windows of a group. -/
theorem group_turns_spec (group : WebXClientGroup) (windows : List WebXClientWindow) :
    ∀ {state : UpdateState}, (∀ w, state.display.Findable w) →
      ∃ after messages, (WebXClientGroup.handleWindows settings.quality
          (update.handler settings checksum) group.clientIndexMask update.now windows
          (.ok state)).2.2 = .ok after ∧
        Sends messages state after ∧
        ∀ turn ∈ group.turns settings.quality (update.handler settings checksum) update.now windows
            (.ok state),
          turn.group = group ∧ turn.Handled settings checksum update messages := by
  induction windows with
  | nil =>
      exact fun {state} _ =>
        ⟨state, [], rfl, .refl state, fun _ hturn => absurd hturn List.not_mem_nil⟩
  | cons window windows ih =>
      intro state hfindable
      obtain ⟨state₁, messages₁, hfirst, hsends₁, hhandled⟩ :=
        turn_spec settings checksum update group (hfindable window.id)
      obtain ⟨after, messages₂, hothers, hsends₂, hturns⟩ :=
        ih fun w => hsends₁.windows.findable.mpr (hfindable w)
      -- the messages of this turn, and those of the turns after it
      refine ⟨after, messages₁ ++ messages₂, ?_, hsends₁.trans hsends₂, ?_⟩
      · rw [WebXClientGroup.handleWindows]
        dsimp only
        rw [hfirst]
        exact hothers
      · rw [WebXClientGroup.turns, hfirst, List.forall_mem_cons]
        refine ⟨⟨rfl, hhandled.mono _ _ _ (List.subset_append_left _ _)⟩, fun turn hturn => ?_⟩
        exact (hturns turn hturn).imp_right fun h => h.mono _ _ _ (List.subset_append_right _ _)

/-- The turns of the windows of all groups. -/
theorem registry_turns_spec (groups : List WebXClientGroup) :
    ∀ {state : UpdateState}, (∀ w, state.display.Findable w) →
      ∃ after messages, (WebXClientRegistry.handleGroups settings (update.handler settings checksum)
          update.now groups (.ok state)).2 = .ok after ∧
        Sends messages state after ∧
        ∀ turn ∈ WebXClientRegistry.turns settings (update.handler settings checksum) update.now
            groups (.ok state),
          turn.group ∈ groups ∧ turn.Handled settings checksum update messages := by
  induction groups with
  | nil =>
      exact fun {state} _ =>
        ⟨state, [], rfl, .refl state, fun _ hturn => absurd hturn List.not_mem_nil⟩
  | cons group groups ih =>
      intro state hfindable
      obtain ⟨state₁, messages₁, hfirst, hsends₁, hturns₁⟩ :=
        group_turns_spec settings checksum update group group.windows hfindable
      obtain ⟨after, messages₂, hothers, hsends₂, hturns₂⟩ :=
        ih fun w => hsends₁.windows.findable.mpr (hfindable w)
      have hgroup : (group.handleWindowGraphicalUpdates settings.quality
          (update.handler settings checksum) update.now (.ok state)).2 = .ok state₁ := hfirst
      refine ⟨after, messages₁ ++ messages₂, ?_, hsends₁.trans hsends₂, ?_⟩
      · rw [WebXClientRegistry.handleGroups]
        dsimp only
        rw [hgroup]
        exact hothers
      · intro turn hturn
        rw [WebXClientRegistry.turns, hgroup, List.mem_append] at hturn
        -- the messages of all turns are those of the first group, and then those of the other ones
        rcases hturn with hturn | hturn
        · obtain ⟨hsame, hhandled⟩ := hturns₁ turn hturn
          exact ⟨hsame ▸ List.mem_cons_self, hhandled.mono _ _ _ (List.subset_append_left _ _)⟩
        · obtain ⟨hmem, hhandled⟩ := hturns₂ turn hturn
          exact ⟨List.mem_cons_of_mem _ hmem, hhandled.mono _ _ _ (List.subset_append_right _ _)⟩

end Turns

/-- The visible windows whose visibilities were read were not freed. -/
theorem WebXDisplay.findable_of_getWindowVisiblities {checksum : List UInt8 → UInt32}
    {coverage : UInt32 → WebXWindowCoverage} {display : WebXDisplay}
    {windowVisibilities : List WebXWindowVisibility}
    (h : display.getWindowVisiblities checksum coverage = .ok windowVisibilities) (x11Window : UInt32) :
    display.Findable x11Window := by
  rw [getWindowVisiblities] at h
  rw [Findable]
  generalize display.visibleWindows = windows at h
  induction windows generalizing windowVisibilities with
  | nil => trivial
  | cons window windows ih =>
      rw [List.mapM_cons] at h
      obtain ⟨visibility, hvisibility, hothers⟩ := exists_of_bind_eq_ok h
      obtain ⟨others, hothers, -⟩ := exists_of_bind_eq_ok hothers
      obtain ⟨known, hknown, -⟩ := exists_of_map_eq_ok hvisibility
      refine ⟨?_, fun _ => ih hothers⟩
      by_contra hfreed
      rw [derefVisible_of_not_isAlive hfreed] at hknown
      cases hknown

/-- The bits of the members of a group are in its mask. -/
theorem WebXClientRegistry.Inv.mask_and_index_ne_zero {registry : WebXClientRegistry}
    (h : registry.Inv) {group : WebXClientGroup} (hgroup : group ∈ registry.groups) :
    ∀ client ∈ group.clients, group.clientIndexMask &&& client.index ≠ 0 := by
  intro client hclient
  have hindex : client.index &&& group.clientIndexMask = client.index := by
    rw [h.groups.mask group hgroup]
    refine BitMask.and_eq_left.mpr fun i hi => BitMask.bit_orAll.mpr ⟨client.index, ?_, hi⟩
    exact List.mem_map_of_mem hclient
  rw [UInt64.and_comm, hindex]
  exact (h.members.singleBit client (h.groups.mem_members hgroup hclient)).ne_zero

namespace ControllerState

variable {settings : WebXSettings} {checksum : List UInt8 → UInt32} {update : ClientUpdate}
  {state state' : ControllerState}

variable (settings) in
/-- **A round**: the shapes that are marked are sent when there are masks, and no others. -/
theorem updateClientWindows_spec {windowVisibilities : List WebXWindowVisibility}
    (hvisible : state.display.getWindowVisiblities checksum update.coverage =
      .ok windowVisibilities) :
    ∃ state' messages, state.updateClientWindows settings checksum update = .ok state' ∧
      state'.sent = state.sent ++ messages ∧
      (∀ message ∈ messages, ∀ commandId x11Window shapeMask,
        message.content = .shape commandId x11Window shapeMask → shapeMask ≠ none) ∧
      ∀ turn ∈ state.turns settings checksum update,
        turn.group ∈ (state.registry.updateVisibleWindows settings windowVisibilities
          update.now).groups ∧ turn.Handled settings checksum update messages := by
  have hfindable : ∀ w, (⟨state.display, state.sent⟩ : UpdateState).display.Findable w :=
    WebXDisplay.findable_of_getWindowVisiblities hvisible
  -- the windows are found, so that the loop over the groups does not fail
  obtain ⟨after, messages, hgroups, hsends, hturns⟩ :=
    registry_turns_spec settings checksum update
      (state.registry.updateVisibleWindows settings windowVisibilities update.now).groups hfindable
  refine ⟨{ state with
    display := after.display
    registry := ((state.registry.updateVisibleWindows settings windowVisibilities
      update.now).handleWindowGraphicalUpdates settings (update.handler settings checksum) update.now
        (.ok ⟨state.display, state.sent⟩)).1
    sent := after.sent }, messages, ?_, hsends.sent, hsends.shapes, ?_⟩
  · rw [updateClientWindows, hvisible]
    change ((WebXClientRegistry.handleGroups settings (update.handler settings checksum) update.now
      _ _).2 >>= fun after => _) = _
    rw [hgroups]
    rfl
  · rw [turns, hvisible]
    exact hturns

/-- A round leaves the clients and their groups as they are. -/
theorem inv_updateClientWindows (hinv : state.registry.Inv)
    (h : state.updateClientWindows settings checksum update = .ok state') :
    state'.registry.Inv := by
  obtain ⟨windowVisibilities, -, h⟩ := exists_of_bind_eq_ok h
  obtain ⟨after, -, h⟩ := exists_of_bind_eq_ok h
  cases h
  exact (hinv.updateVisibleWindows windowVisibilities update.now).handleWindowGraphicalUpdates _ _ _

/-- **In a round, the clients are told the shapes exactly when the windows have masks.** -/
theorem tellsShapes_iff (hinv : state.registry.Inv) :
    state.TellsShapes settings checksum update ↔ state.HaveMasks settings checksum update := by
  cases hvisible : state.display.getWindowVisiblities checksum update.coverage with
  | error fault =>
      -- there are no turns
      have hturns : state.turns settings checksum update = [] := by rw [turns, hvisible]
      rw [TellsShapes, HaveMasks, hturns]
      exact iff_of_true (fun _ hturn => absurd hturn List.not_mem_nil)
        fun _ hturn => absurd hturn List.not_mem_nil
  | ok windowVisibilities =>
      obtain ⟨state', messages, hupdate, hsent, hshapes, hturns⟩ :=
        updateClientWindows_spec settings hvisible
      have hdrop : state'.sent.drop state.sent.length = messages := by
        rw [hsent, List.drop_left]
      refine forall₃_congr fun turn hturn hmarked => ?_
      obtain ⟨hgroup, before, hstate, hhandled⟩ := hturns turn hturn
      obtain ⟨after, hafter, hshape⟩ := hhandled hmarked
      constructor
      · rintro ⟨state'', after', hupdate', hafter', message, hmessage, ⟨commandId, hcontent⟩, -⟩
        cases hupdate.symm.trans hupdate'
        cases hafter.symm.trans hafter'
        rw [hdrop] at hmessage
        exact ⟨before, hstate, hshape.hasMask.mp (hshapes message hmessage _ _ _ hcontent)⟩
      · rintro ⟨before', hstate', hmask⟩
        cases hstate.symm.trans hstate'
        have hne := hshape.hasMask.mpr hmask
        refine ⟨state', after, hupdate, hafter, _, hdrop.symm ▸ hshape.sent hne, ⟨_, rfl⟩, ?_⟩
        -- the bits of the members are in the mask of the group
        exact (hinv.updateVisibleWindows windowVisibilities update.now).mask_and_index_ne_zero hgroup

end ControllerState

/-! ## The registry in a run -/

namespace EngineState

variable {root : UInt32} {settings : WebXSettings} {stackDepth : ℕ} {now : Time}
  {state state' : EngineState}

/-- The events of the server only report damage to the registry. -/
theorem inv_handleXEvent (hinv : state.registry.Inv) {event : XEvent root}
    (h : state.handleXEvent settings stackDepth now event = .ok state') : state'.registry.Inv := by
  cases event with
  | map x11Window server | unmap x11Window | reparent x11Window parentX11Window =>
      obtain ⟨display, -, h⟩ := exists_of_bind_eq_ok h
      cases h
      exact hinv
  | configure event =>
      rcases WebXDisplay.eq_of_callIfWindowVisible h with rfl | h
      · exact hinv
      · obtain ⟨display, -, h⟩ := exists_of_bind_eq_ok h
        obtain ⟨window, -, h⟩ := exists_of_bind_eq_ok h
        cases h
        dsimp only
        split_ifs
        · exact hinv.addWindowDamage _ now
        · exact hinv
  | damage event =>
      cases h
      exact hinv.addWindowDamage _ now

/-- An event that is filtered changes nothing. -/
theorem inv_handleQueuedEvent (hinv : state.registry.Inv) {event : XEvent root}
    (h : handleQueuedEvent settings stackDepth now state event = .ok state') :
    state'.registry.Inv := by
  rw [handleQueuedEvent] at h
  generalize (if settings.event.filterDamageAfterConfigureNotify = true then
    WebXEventListener.filter now state.damageFilters event
    else (true, state.damageFilters)) = filtered at h
  split_ifs at h
  · refine inv_handleXEvent ?_ h
    exact hinv
  · cases h
    exact hinv

/-- The pending events reach the registry as damage only. -/
theorem inv_handlePendingEvents (hinv : state.registry.Inv) {events : List (XEvent root)}
    {server : XServer root}
    (h : state.handlePendingEvents settings stackDepth now events server = .ok state') :
    state'.registry.Inv := by
  obtain ⟨flushed, hflush, h⟩ := exists_of_bind_eq_ok h
  obtain ⟨handled, hevents, hflush⟩ := exists_of_bind_eq_ok hflush
  have hhandled : handled.registry.Inv :=
    (Run.of_foldlM hevents).invariant (P := fun state => state.registry.Inv)
      (fun _ _ _ hbefore _ hevent => inv_handleQueuedEvent hbefore hevent) hinv
  cases hflush
  rw [updateDisplay] at h
  split_ifs at h
  · obtain ⟨display, -, h⟩ := exists_of_bind_eq_ok h
    cases h
    exact hhandled
  · cases h
    exact hhandled

/-- **No action of the engine breaks the registry.** -/
theorem inv_step (hinv : state.registry.Inv) {action : EngineAction root}
    (h : state.step settings stackDepth action = .ok state') : state'.registry.Inv := by
  cases action with
  | handlePendingEvents events server now => exact inv_handlePendingEvents hinv h
  | registry op =>
      obtain ⟨after, hop, h⟩ := exists_of_bind_eq_ok h
      obtain ⟨after', hop', hafter⟩ := RegistryState.inv_step settings ⟨state.registry, []⟩ op hinv
      cases hop.symm.trans hop'
      cases h
      exact hafter

end EngineState

namespace ControllerState

variable {root : UInt32} {settings : WebXSettings} {checksum : List UInt8 → UInt32}
  {engineVersion : WebXVersion} {keyMaps : KeyMaps} {depth stackDepth : ℕ}
  {state state' : ControllerState}

/-- A program that only changes other things leaves the registry as it is. -/
theorem inv_of_bind {α : Type} {x : Except Fault α} {f : α → ControllerState}
    (hinv : state.registry.Inv) (h : (x >>= fun a => .ok (f a)) = .ok state')
    (hf : ∀ a, (f a).registry = state.registry) : state'.registry.Inv := by
  obtain ⟨a, -, h⟩ := exists_of_bind_eq_ok h
  cases h
  exact (hf a).symm ▸ hinv

/-- A mouse instruction does not reach the registry. -/
theorem inv_onClientMouseInstruction (hinv : state.registry.Inv) {answers : InstructionAnswers}
    {client : WebXClient} {x y : Int32} {buttonMask : UInt32}
    (h : state.onClientMouseInstruction answers client x y buttonMask = .ok state') :
    state'.registry.Inv := by
  obtain ⟨_, -, h⟩ := exists_of_bind_eq_ok h
  split_ifs at h
  · obtain ⟨cursorId, -, h⟩ := exists_of_bind_eq_ok h
    cases h
    exact hinv
  · cases h
    exact hinv

/-- An instruction of a client changes its largest quality and its pings at most. -/
theorem inv_handleInstructionOf (hinv : state.registry.Inv) {answers : InstructionAnswers}
    {client : WebXClient} {instruction : WebXInstruction}
    (h : state.handleInstructionOf settings engineVersion keyMaps depth answers client instruction =
      .ok state') : state'.registry.Inv := by
  obtain ⟨clientId, id, content⟩ := instruction
  cases content with
  | mouse x y buttonMask => exact inv_onClientMouseInstruction hinv h
  | keyboard key pressed =>
      obtain ⟨keyboard, -, rfl⟩ := exists_of_map_eq_ok h
      exact hinv
  | screen =>
      obtain ⟨window, -, h⟩ := exists_of_bind_eq_ok h
      exact inv_of_bind hinv h fun _ => rfl
  | windows | image windowId | shape windowId => exact inv_of_bind hinv h fun _ => rfl
  | cursor cursorId =>
      -- for an unknown cursor the call fails
      change state.onCursorInstruction client id cursorId = .ok state' at h
      rw [onCursorInstruction] at h
      cases hcursor : state.cursors.getCursor cursorId with
      | none =>
          rw [hcursor] at h
          cases h
      | some mouseCursor =>
          rw [hcursor] at h
          cases h
          exact hinv
  | quality qualityIndex =>
      -- only this instruction moves clients between the groups
      cases h
      exact hinv.setClientMaxQuality _ _
  | pong sendTimestampMs recvTimestampMs =>
      cases h
      exact hinv.updateClient _ fun c => c.ref_onPongReceived _
  | screenResize width height =>
      obtain ⟨mode, -, rfl⟩ := exists_of_map_eq_ok h
      exact hinv
  | keyboardLayout keyboardLayout =>
      cases h
      rw [onKeyboardLayoutInstruction]
      split_ifs <;> exact hinv
  | dataAck sendTimestampMs recvTimestampMs dataLength | clipboard clipboardContent =>
      cases h
      exact hinv

/-- The instructions keep the invariant one after the other. -/
theorem inv_handleClientInstructions (hinv : state.registry.Inv)
    {instructions : List (WebXInstruction × InstructionAnswers)}
    (h : state.handleClientInstructions settings engineVersion keyMaps depth instructions =
      .ok state') : state'.registry.Inv := by
  refine (Run.of_foldlM h).invariant (P := fun state => state.registry.Inv) ?_ hinv
  intro before received after hbefore _ hreceived
  rw [handleClientInstruction] at hreceived
  cases hclient : before.registry.getClientById received.1.clientId with
  | none =>
      rw [hclient] at hreceived
      cases hreceived
      exact hbefore
  | some client =>
      rw [hclient] at hreceived
      exact inv_handleInstructionOf hbefore hreceived

/-- **No action of the controller breaks the registry.** -/
theorem inv_step (hinv : state.registry.Inv) {action : ControllerAction root}
    (h : state.step settings engineVersion keyMaps depth stackDepth action = .ok state') :
    state'.registry.Inv := by
  cases action with
  | engine action =>
      obtain ⟨engine, hengine, rfl⟩ := exists_of_map_eq_ok h
      exact EngineState.inv_step hinv hengine
  | getImage x11Window imageRectangle grab | getWindowShapeMask x11Window shape
  | updateWindowShape x11Window shape | clipboard action =>
      obtain ⟨result, -, rfl⟩ := exists_of_map_eq_ok h
      exact hinv
  | notifyDisplayChanged | notifyCursorChanged => exact inv_of_bind hinv h fun _ => rfl
  | updateMouseCursor answer | move position | onScreenResizeEvent width height =>
      cases h
      exact hinv
  | loadKeyboardLayout layoutOrName xkb =>
      cases h
      exact hinv
  | updateMousePosition =>
      rw [ControllerState.step, ControllerState.updateMousePosition] at h
      split_ifs at h
      · obtain ⟨after, hnotify, h⟩ := exists_of_bind_eq_ok h
        have hafter : after.registry.Inv := inv_of_bind hinv hnotify fun _ => rfl
        cases h
        exact hafter
      · cases h
        exact hinv
  | handleClientInstructions instructions => exact inv_handleClientInstructions hinv h

/-- **Every step of the loop keeps the invariant of the registry.** -/
theorem inv_loopStep (hinv : state.registry.Inv) {action : LoopAction root}
    (h : state.loopStep settings checksum engineVersion keyMaps depth stackDepth action =
      .ok state') : state'.registry.Inv := by
  cases action with
  | controller action hnot => exact inv_step hinv h
  | updateClientWindows update => exact inv_updateClientWindows hinv h

/-- Two properties of the rounds that agree in each of them agree in every run. -/
theorem everyUpdate_congr {P Q : ControllerState → ClientUpdate → Prop}
    (hPQ : ∀ state update, state.registry.Inv → (P state update ↔ Q state update))
    (actions : List (LoopAction root)) : ∀ {state : ControllerState}, state.registry.Inv →
      (EveryUpdate settings checksum engineVersion keyMaps depth stackDepth P actions state ↔
        EveryUpdate settings checksum engineVersion keyMaps depth stackDepth Q actions state) := by
  induction actions with
  | nil => exact fun _ => Iff.rfl
  | cons action actions ih =>
      intro state hinv
      refine and_congr ?_ ?_
      · exact forall₂_congr fun update _ => hPQ state update hinv
      · exact forall₂_congr fun state' hstep => ih (inv_loopStep hinv hstep)

end ControllerState

/-- **In every run of the engine, the clients of a group are told each shape that is marked as sent exactly
when the windows have masks then.** -/
theorem shapesTold_iff {root : UInt32} (settings : WebXSettings) (checksum : List UInt8 → UInt32)
    (engineVersion : WebXVersion) (keyMaps : KeyMaps) (depth stackDepth : ℕ) (display : WebXDisplay)
    (cursors : MouseCursors) (keyboard : KeyboardState) (owner : Option SelectionOwner)
    (actions : List (LoopAction root)) :
    ControllerState.EveryUpdate settings checksum engineVersion keyMaps depth stackDepth
        (ControllerState.TellsShapes settings checksum) actions
        (.start display cursors keyboard owner) ↔
      ControllerState.EveryUpdate settings checksum engineVersion keyMaps depth stackDepth
        (ControllerState.HaveMasks settings checksum) actions
        (.start display cursors keyboard owner) :=
  ControllerState.everyUpdate_congr (fun _ _ hinv => ControllerState.tellsShapes_iff hinv) actions
    WebXClientRegistry.inv_create

namespace ControllerState

/-- What holds of all rounds of a run holds of one of them. -/
theorem EveryUpdate.update {root : UInt32} {settings : WebXSettings} {checksum : List UInt8 → UInt32}
    {engineVersion : WebXVersion} {keyMaps : KeyMaps} {depth stackDepth : ℕ}
    {P : ControllerState → ClientUpdate → Prop} {update : ClientUpdate}
    {after : List (LoopAction root)} {state' : ControllerState} (before : List (LoopAction root)) :
    ∀ {state : ControllerState}, EveryUpdate settings checksum engineVersion keyMaps depth stackDepth P
        (before ++ .updateClientWindows update :: after) state →
      before.foldlM (loopStep settings checksum engineVersion keyMaps depth stackDepth) state =
        .ok state' → P state' update := by
  induction before with
  | nil =>
      intro state h hrun
      cases hrun
      exact h.1 update rfl
  | cons action before ih =>
      intro state h hrun
      rw [List.foldlM_cons] at hrun
      obtain ⟨next, hstep, hrun⟩ := exists_of_bind_eq_ok hrun
      exact ih (h.2 next hstep) hrun

/-! ### A window that loses its shape -/

/-- A screen with a window that has a shape. -/
def shapedScreen : XServer 1 where
  tree := .node 1 ⟨0, 0, 640, 480, true, true⟩ [.node 2 ⟨0, 0, 100, 100, true, true⟩ []]
  shapes := fun _ => ⟨true, some ⟨.webp, 100, 100, [1], none, 0, 0, 8⟩⟩
  unwritten := ⟨0, 0, 0, 0, false, false⟩
  root_eq := rfl
  root_shown := rfl
  nodup := by decide
  nonzero := by simp [XTree.windows, XTree.subtrees, XTree.subtreesAmong, XTree.window]
  shown := rfl

/-- A round in which X answers that the windows have no shapes. -/
def unshapedUpdate (now : Time) : ClientUpdate where
  coverage := fun _ => ⟨0, false⟩
  answers := fun _ _ => ⟨fun _ => ⟨true, ⟨0, 0, 100, 100, true, true⟩, none⟩, ⟨true, none⟩⟩
  now := now

/-- A client is connected and sees the window, which then loses its shape. -/
def losesShape : List (LoopAction 1) :=
  [.controller (.engine (.registry (.addClient ⟨1, 0, 0⟩ [7] 0))) rfl,
    .updateClientWindows (unshapedUpdate 0), .controller (.updateWindowShape 2 ⟨true, none⟩) rfl]

/-- The engine when it starts on this screen. -/
def startShaped : Except Fault ControllerState := do
  let display ← WebXDisplay.init shapedScreen
  let keyboard ← WebXKeyboard.init KeyboardState.gbAndFr.maps KeyboardState.xkbSuccess
    KeyboardState.xkbSuccess .create
  return start display (.create ⟨⟨0, 0⟩, by decide, by decide⟩ (some arrow)) keyboard none

/-- The next round marks the shape as sent, and the window has no mask. -/
theorem exists_losesShape : ∃ state state', startShaped = .ok state ∧
    losesShape.foldlM
      (loopStep .default crc32Bitwise ⟨1, 0, 0⟩ KeyboardState.gbAndFr 0 8) state = .ok state' ∧
    ¬ state'.HaveMasks .default crc32Bitwise (unshapedUpdate 10000000000) := by
  have hlost : ((startShaped >>= losesShape.foldlM
      (loopStep .default crc32Bitwise ⟨1, 0, 0⟩ KeyboardState.gbAndFr 0 8)).toOption.any fun state' =>
        ¬ state'.HaveMasks .default crc32Bitwise (unshapedUpdate 10000000000)) = true := by
    decide +kernel
  cases hrun : startShaped >>= losesShape.foldlM
      (loopStep .default crc32Bitwise ⟨1, 0, 0⟩ KeyboardState.gbAndFr 0 8) with
  | error fault =>
      rw [hrun] at hlost
      exact nomatch hlost
  | ok state' =>
      rw [hrun] at hlost
      obtain ⟨state, hstart, hloses⟩ := exists_of_bind_eq_ok hrun
      exact ⟨state, state', hstart, hloses, of_decide_eq_true hlost⟩

/-- The clients are not told that the window has no shape any more. -/
theorem not_shapesTold : ∃ state, startShaped = .ok state ∧
    ¬ EveryUpdate .default crc32Bitwise ⟨1, 0, 0⟩ KeyboardState.gbAndFr 0 8
      (TellsShapes .default crc32Bitwise)
      (losesShape ++ [.updateClientWindows (unshapedUpdate 10000000000)]) state := by
  obtain ⟨state, state', hstart, hloses, hmasks⟩ := exists_losesShape
  refine ⟨state, hstart, fun htold => hmasks ?_⟩
  have hinv : state.registry.Inv := by
    obtain ⟨display, -, hstart⟩ := exists_of_bind_eq_ok hstart
    obtain ⟨keyboard, -, hstart⟩ := exists_of_bind_eq_ok hstart
    cases hstart
    exact WebXClientRegistry.inv_create
  exact ((everyUpdate_congr (fun _ _ hinv => tellsShapes_iff hinv) _ hinv).mp htold).update _ hloses

end ControllerState

end WebXEngine
