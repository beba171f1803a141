import WebXEngine.Controller.MainLoop
import WebXEngine.Foundations.Announcements

/-! # What the loop tells about the windows and the cursor

Each step of the loop may send messages. Those about the windows list the visible windows, and those about
the mouse have the cursor of the mouse, as they are when the message is sent.

* **`ControllerState.Tells`** — messages were sent; the visible windows and the cursor are the same.
* **`tells_handleClientInstruction`** — the instructions of the clients do no more than this.
* **`tells_updateClientWindows`** — nor do the updates of the windows. -/

namespace WebXEngine

/-! ## Displays -/

namespace WebXDisplay

variable {display display' : WebXDisplay} {x11Window : UInt32}

/-- The clients are told the visible windows, in their order. -/
theorem map_id_getVisibleWindowsProperties {properties : List WebXWindowProperties}
    (h : display.getVisibleWindowsProperties = .ok properties) :
    properties.map WebXWindowProperties.id = display.visibleWindows := by
  rw [getVisibleWindowsProperties] at h
  generalize display.visibleWindows = windows at h
  induction windows generalizing properties with
  | nil =>
      cases h
      rfl
  | cons window windows ih =>
      rw [List.mapM_cons] at h
      obtain ⟨first, hfirst, h⟩ := exists_of_bind_eq_ok h
      obtain ⟨others, hothers, h⟩ := exists_of_bind_eq_ok h
      obtain ⟨known, -, rfl⟩ := exists_of_map_eq_ok hfirst
      cases h
      rw [List.map_cons, ih hothers]
      rfl

end WebXDisplay

/-! ## Messages -/

/-- A message lists windows. -/
def WebXMessage.layout (message : WebXMessage) : Option (List UInt32) :=
  match message.content with
  | .windows _ windows => some (windows.map WebXWindowProperties.id)
  | _ => none

/-- A message has a cursor. -/
def WebXMessage.mouseCursor (message : WebXMessage) : Option UInt32 :=
  match message.content with
  | .mouse _ _ cursorId => some cursorId
  | _ => none

namespace ControllerState

/-- The messages list the visible windows, and have the cursor of the mouse. -/
structure AreRight (state : ControllerState) (messages : List WebXMessage) : Prop where
  layout : ∀ message ∈ messages, ∀ windows, message.layout = some windows →
    windows = state.display.visibleWindows
  mouseCursor : ∀ message ∈ messages, ∀ cursorId, message.mouseCursor = some cursorId →
    state.cursors.pointer.mouse.state.cursor = some cursorId

/-- Messages were sent; the visible windows and the cursors are the same. -/
structure Tells (state state' : ControllerState) : Prop where
  visibleWindows : state'.display.visibleWindows = state.display.visibleWindows
  displayRequiresUpdate : state'.displayRequiresUpdate = state.displayRequiresUpdate
  cursor : state'.cursors.pointer.mouse.state.cursor = state.cursors.pointer.mouse.state.cursor
  catalogue : state'.cursors.catalogue = state.cursors.catalogue
  sent : ∃ messages, state'.sent = state.sent ++ messages ∧ state.AreRight messages

variable {state state' state'' : ControllerState}

/-- Two lists of right messages are a list of right messages. -/
theorem AreRight.append {messages messages' : List WebXMessage} (h : state.AreRight messages)
    (h' : state.AreRight messages') : state.AreRight (messages ++ messages') where
  layout := fun message hmessage =>
    (List.mem_append.mp hmessage).elim (h.layout message) (h'.layout message)
  mouseCursor := fun message hmessage =>
    (List.mem_append.mp hmessage).elim (h.mouseCursor message) (h'.mouseCursor message)

/-- Messages that are about something else. -/
theorem areRight_of_others {messages : List WebXMessage}
    (h : ∀ message ∈ messages, message.layout = none ∧ message.mouseCursor = none) :
    state.AreRight messages where
  layout := fun message hmessage windows hwindows => by
    rw [(h message hmessage).1] at hwindows
    cases hwindows
  mouseCursor := fun message hmessage cursorId hcursor => by
    rw [(h message hmessage).2] at hcursor
    cases hcursor

/-- Nothing that is said is wrong. -/
theorem areRight_nil (state : ControllerState) : state.AreRight [] :=
  areRight_of_others fun _ hmessage => absurd hmessage List.not_mem_nil

/-- A message that is about something else. -/
theorem areRight_other {message : WebXMessage} (hlayout : message.layout = none)
    (hmouse : message.mouseCursor = none) : state.AreRight [message] :=
  areRight_of_others fun _ hother => List.mem_singleton.mp hother ▸ ⟨hlayout, hmouse⟩

/-- The answer to a request for the windows has the windows that are visible. -/
theorem areRight_windows (clientIndexMask : UInt64) (commandId : UInt32)
    {properties : List WebXWindowProperties}
    (h : state.display.getVisibleWindowsProperties = .ok properties) :
    state.AreRight [⟨clientIndexMask, .windows commandId properties⟩] where
  layout := fun message hmessage windows hwindows => by
    cases List.mem_singleton.mp hmessage
    cases hwindows
    exact WebXDisplay.map_id_getVisibleWindowsProperties h
  mouseCursor := fun message hmessage cursorId hcursor => by
    cases List.mem_singleton.mp hmessage
    cases hcursor

/-- A message with the cursor that is shown is right. -/
theorem areRight_mouse (clientIndexMask : UInt64) (x y : Int32) {cursorId : UInt32}
    (h : state.cursors.pointer.mouse.state.cursor = some cursorId) :
    state.AreRight [⟨clientIndexMask, .mouse x y cursorId⟩] where
  layout := fun message hmessage windows hwindows => by
    cases List.mem_singleton.mp hmessage
    cases hwindows
  mouseCursor := fun message hmessage other hcursor => by
    cases List.mem_singleton.mp hmessage
    cases hcursor
    exact h

/-- No message was sent. -/
theorem tells_of_sent_eq (hvisible : state'.display.visibleWindows = state.display.visibleWindows)
    (hrequires : state'.displayRequiresUpdate = state.displayRequiresUpdate)
    (hcursor : state'.cursors.pointer.mouse.state.cursor = state.cursors.pointer.mouse.state.cursor)
    (hcatalogue : state'.cursors.catalogue = state.cursors.catalogue)
    (hsent : state'.sent = state.sent) : Tells state state' :=
  ⟨hvisible, hrequires, hcursor, hcatalogue, [], by rw [hsent, List.append_nil], areRight_nil state⟩

/-- Nothing is told without a step. -/
theorem Tells.refl (state : ControllerState) : Tells state state :=
  tells_of_sent_eq rfl rfl rfl rfl rfl

/-- The messages are right for a state that has the same windows and the same cursor. -/
theorem AreRight.congr {messages : List WebXMessage} (h : state.AreRight messages)
    (hvisible : state.display.visibleWindows = state'.display.visibleWindows)
    (hcursor : state.cursors.pointer.mouse.state.cursor =
      state'.cursors.pointer.mouse.state.cursor) : state'.AreRight messages := by
  refine ⟨?_, ?_⟩
  · rw [← hvisible]
    exact h.layout
  · rw [← hcursor]
    exact h.mouseCursor

/-- What two steps tell is told by both. -/
theorem Tells.trans (h : Tells state state') (h' : Tells state' state'') : Tells state state'' := by
  obtain ⟨messages, hsent, hright⟩ := h.sent
  obtain ⟨messages', hsent', hright'⟩ := h'.sent
  exact
    { visibleWindows := h'.visibleWindows.trans h.visibleWindows
      displayRequiresUpdate := h'.displayRequiresUpdate.trans h.displayRequiresUpdate
      cursor := h'.cursor.trans h.cursor
      catalogue := h'.catalogue.trans h.catalogue
      sent := ⟨messages ++ messages', by rw [hsent', hsent, List.append_assoc],
        hright.append (hright'.congr h.visibleWindows h.cursor)⟩ }

/-- A message. -/
theorem tells_sendMessage {message : WebXMessage} (h : state.AreRight [message]) :
    Tells state (state.sendMessage message) :=
  ⟨rfl, rfl, rfl, rfl, [message], rfl, h⟩

/-- A display with the same visible windows. -/
theorem tells_display {display : WebXDisplay}
    (h : display.visibleWindows = state.display.visibleWindows) :
    Tells state { state with display := display } :=
  tells_of_sent_eq h rfl rfl rfl rfl

/-- A mouse with the same cursor. -/
theorem tells_setPointer {pointer : PointerState}
    (h : pointer.mouse.state.cursor = state.cursors.pointer.mouse.state.cursor) :
    Tells state (state.setPointer pointer) :=
  tells_of_sent_eq rfl rfl h rfl rfl

/-- The cursor that is told is that of the mouse. -/
theorem cursor_of_getCursorId {pointer : PointerState} {cursorId : UInt32}
    (h : pointer.getCursorId = .ok cursorId) : pointer.mouse.state.cursor = some cursorId := by
  rw [PointerState.getCursorId] at h
  cases hcursor : pointer.mouse.state.cursor with
  | none =>
      rw [hcursor] at h
      cases h
  | some cursor =>
      rw [hcursor] at h
      cases h
      rfl

/-! ## Instructions -/

section Instructions

variable {settings : WebXSettings} {engineVersion : WebXVersion} {keyMaps : KeyMaps} {depth : ℕ}
  {answers : InstructionAnswers} {client : WebXClient} {id : UInt32}

/-- The mouse is moved. -/
theorem tells_onClientMouseInstruction {x y : Int32} {buttonMask : UInt32}
    (h : state.onClientMouseInstruction answers client x y buttonMask = .ok state') :
    Tells state state' := by
  obtain ⟨-, -, -, hcursor⟩ := PointerState.sendClientInstruction_spec state.cursors.pointer
    answers.screen answers.moved x y buttonMask
  obtain ⟨_, -, h⟩ := exists_of_bind_eq_ok h
  have hpointer := tells_setPointer hcursor
  split_ifs at h
  · -- the position has changed
    obtain ⟨cursorId, hid, h⟩ := exists_of_bind_eq_ok h
    cases h
    have hsame := cursor_of_getCursorId hid
    exact (hpointer.trans (tells_sendMessage (areRight_mouse _ _ _ hsame))).trans
      (tells_sendMessage (areRight_mouse _ _ _ hsame))
  · cases h
    exact hpointer

/-- **An instruction of a client** tells the client what is there. -/
theorem tells_handleInstructionOf {instruction : WebXInstruction}
    (h : state.handleInstructionOf settings engineVersion keyMaps depth answers client instruction =
      .ok state') : Tells state state' := by
  rw [ControllerState.handleInstructionOf] at h
  cases hcontent : instruction.content with
  | mouse x y buttonMask =>
      rw [hcontent] at h
      exact tells_onClientMouseInstruction h
  | keyboard key pressed =>
      rw [hcontent] at h
      obtain ⟨keyboard, -, rfl⟩ := exists_of_map_eq_ok h
      exact tells_of_sent_eq rfl rfl rfl rfl rfl
  | screen =>
      rw [hcontent] at h
      obtain ⟨window, -, h⟩ := exists_of_bind_eq_ok h
      obtain ⟨canResizeScreen, -, h⟩ := exists_of_bind_eq_ok h
      cases h
      exact tells_sendMessage (areRight_other rfl rfl)
  | windows =>
      rw [hcontent] at h
      obtain ⟨properties, hproperties, h⟩ := exists_of_bind_eq_ok h
      cases h
      exact tells_sendMessage (areRight_windows _ _ hproperties)
  | image windowId =>
      rw [hcontent] at h
      obtain ⟨⟨image, display⟩, himage, h⟩ := exists_of_bind_eq_ok h
      cases h
      exact (tells_display (WebXDisplay.sameWindows_getImage himage).visibleWindows).trans
        (tells_sendMessage (areRight_other rfl rfl))
  | shape windowId =>
      rw [hcontent] at h
      obtain ⟨⟨shape, display⟩, hshape, h⟩ := exists_of_bind_eq_ok h
      cases h
      exact (tells_display (WebXDisplay.sameWindows_getWindowShapeMask hshape).visibleWindows).trans
        (tells_sendMessage (areRight_other rfl rfl))
  | cursor cursorId =>
      rw [hcontent] at h
      dsimp only at h
      rw [onCursorInstruction] at h
      cases hcursor : state.cursors.getCursor cursorId with
      | none =>
          rw [hcursor] at h
          cases h
      | some mouseCursor =>
          rw [hcursor] at h
          cases h
          exact tells_sendMessage (areRight_other rfl rfl)
  | quality qualityIndex | pong sendTimestampMs recvTimestampMs
  | dataAck sendTimestampMs recvTimestampMs dataLength | clipboard clipboardContent =>
      rw [hcontent] at h
      cases h
      exact tells_of_sent_eq rfl rfl rfl rfl rfl
  | screenResize width height =>
      rw [hcontent] at h
      obtain ⟨resized, -, rfl⟩ := exists_of_map_eq_ok h
      exact .refl state
  | keyboardLayout keyboardLayout =>
      rw [hcontent] at h
      cases h
      rw [onKeyboardLayoutInstruction]
      split_ifs
      · exact ⟨rfl, rfl, rfl, rfl, [_], rfl, areRight_other rfl rfl⟩
      · exact tells_of_sent_eq rfl rfl rfl rfl rfl

/-- **An instruction is answered with right messages.** -/
theorem tells_handleClientInstruction {received : WebXInstruction × InstructionAnswers}
    (h : state.handleClientInstruction settings engineVersion keyMaps depth received = .ok state') :
    Tells state state' := by
  rw [ControllerState.handleClientInstruction] at h
  cases hclient : state.registry.getClientById received.1.clientId with
  | none =>
      rw [hclient] at h
      cases h
      exact .refl state
  | some client =>
      rw [hclient] at h
      exact tells_handleInstructionOf h

end Instructions

end ControllerState

/-! ## Updates of the windows -/

section Handlers

variable {σ : Type*} {P : σ → Prop} {updateHandler : UpdateHandler σ} (now : Time)

/-- What a handler keeps is kept by the loop over the windows of a group. -/
theorem WebXClientGroup.handleWindows_keeps (settings : WebXQualitySettings)
    (clientIndexMask : UInt64)
    (hkeeps : ∀ window clientIndexMask state, P state →
      P (updateHandler window clientIndexMask state).2)
    (windows : List WebXClientWindow) :
    ∀ {state : σ}, P state →
      P (handleWindows settings updateHandler clientIndexMask now windows state).2.2 := by
  induction windows with
  | nil => exact fun h => h
  | cons window windows ih =>
      intro state h
      rw [handleWindows]
      refine ih ?_
      cases hrequires : requiresUpdate window now with
      | true =>
          rw [(handleWindowGraphicalUpdate_of_requiresUpdate settings updateHandler clientIndexMask
            state hrequires).2]
          exact hkeeps window clientIndexMask state h
      | false =>
          rw [handleWindowGraphicalUpdate_of_not hrequires]
          exact h

/-- What a handler keeps is kept by the loop over the groups. -/
theorem WebXClientRegistry.handleGroups_keeps (settings : WebXSettings)
    (hkeeps : ∀ window clientIndexMask state, P state →
      P (updateHandler window clientIndexMask state).2)
    (groups : List WebXClientGroup) :
    ∀ {state : σ}, P state → P (handleGroups settings updateHandler now groups state).2 := by
  induction groups with
  | nil => exact fun h => h
  | cons group groups ih =>
      intro state h
      rw [handleGroups]
      exact ih (WebXClientGroup.handleWindows_keeps now settings.quality group.clientIndexMask hkeeps
        group.windows h)

end Handlers

namespace WebXController

/-- Images and shapes were sent; the visible windows are the same. -/
structure SendsImages (before after : UpdateState) : Prop where
  visibleWindows : after.display.visibleWindows = before.display.visibleWindows
  sent : ∃ messages, after.sent = before.sent ++ messages ∧
    ∀ message ∈ messages, message.layout = none ∧ message.mouseCursor = none

variable {settings : WebXSettings} {checksum : List UInt8 → UInt32} {answers : UpdateAnswers}
  {now : Time} {window : WebXClientWindow} {clientIndexMask : UInt64}
  {state after after' : UpdateState} {transferData : WebXWindowImageTransferData}

/-- Two steps that send only images and shapes send only those. -/
theorem SendsImages.trans (h : SendsImages state after) (h' : SendsImages after after') :
    SendsImages state after' := by
  obtain ⟨messages, hsent, hall⟩ := h.sent
  obtain ⟨messages', hsent', hall'⟩ := h'.sent
  refine ⟨h'.visibleWindows.trans h.visibleWindows, messages ++ messages', ?_, ?_⟩
  · rw [hsent', hsent, List.append_assoc]
  · exact fun message hmessage => (List.mem_append.mp hmessage).elim (hall message) (hall' message)

/-- Nothing is sent. -/
theorem SendsImages.nothing {display : WebXDisplay}
    (h : display.visibleWindows = state.display.visibleWindows) :
    SendsImages state ⟨display, state.sent⟩ :=
  ⟨h, [], (List.append_nil _).symm, fun _ hmessage => absurd hmessage List.not_mem_nil⟩

/-- An image or a shape is sent. -/
theorem SendsImages.message {display : WebXDisplay} {message : WebXMessage}
    (h : display.visibleWindows = state.display.visibleWindows) (hlayout : message.layout = none)
    (hmouse : message.mouseCursor = none) :
    SendsImages state ⟨display, state.sent ++ [message]⟩ :=
  ⟨h, [message], rfl, fun _ hmessage => List.mem_singleton.mp hmessage ▸ ⟨hlayout, hmouse⟩⟩

/-- An update of the shape sends a mask, or nothing when the window has none. -/
theorem sendsImages_updateShape
    (h : updateShape answers window clientIndexMask state = .ok after) :
    SendsImages state after := by
  rw [updateShape] at h
  split_ifs at h
  · obtain ⟨⟨shape, display⟩, hshape, h⟩ := exists_of_bind_eq_ok h
    have hvisible := (WebXDisplay.sameWindows_getWindowShapeMask hshape).visibleWindows
    cases h
    split_ifs
    · exact .message hvisible rfl rfl
    · exact .nothing hvisible
  · cases h
    exact .nothing rfl

/-- A full update sends one image, or nothing when it is the one sent before. -/
theorem sendsImages_updateFullWindow
    (h : updateFullWindow settings checksum answers now window clientIndexMask state =
      .ok (transferData, after)) : SendsImages state after := by
  obtain ⟨⟨image, display⟩, himage, h⟩ := exists_of_bind_eq_ok h
  have hvisible := (WebXDisplay.sameWindows_getImage himage).visibleWindows
  cases image with
  | none =>
      cases h
      exact .nothing hvisible
  | some image =>
      dsimp only at h
      split_ifs at h
      · cases h
        exact .message hvisible rfl rfl
      · cases h
        exact .nothing hvisible

/-- The loop over the damaged areas leaves the visible windows as they are. -/
theorem visibleWindows_grabSubImages {x11Window : UInt32} (areas : List WebXRectangle) :
    ∀ {grabs : ℕ → GrabAnswer} {display display' : WebXDisplay}
      {subImages : List (WebXRectangle × WebXImage)},
      grabSubImages x11Window grabs areas display = .ok (subImages, display') →
      display'.visibleWindows = display.visibleWindows := by
  induction areas with
  | nil =>
      intro grabs display display' subImages h
      cases h
      rfl
  | cons area areas ih =>
      intro grabs display display' subImages h
      obtain ⟨⟨image, display₁⟩, himage, h⟩ := exists_of_bind_eq_ok h
      obtain ⟨⟨others, display₂⟩, hothers, h⟩ := exists_of_bind_eq_ok h
      cases h
      exact (ih hothers).trans (WebXDisplay.sameWindows_getImage himage).visibleWindows

/-- A partial update sends the sub-images that were grabbed, if there are any. -/
theorem sendsImages_updateSubWindow
    (h : updateSubWindow answers now window clientIndexMask state = .ok (transferData, after)) :
    SendsImages state after := by
  obtain ⟨⟨subImages, display⟩, hgrab, h⟩ := exists_of_bind_eq_ok h
  have hvisible := visibleWindows_grabSubImages _ hgrab
  dsimp only at h
  split_ifs at h
  · cases h
    exact .message hvisible rfl rfl
  · cases h
    exact .nothing hvisible

/-- The handler of the controller sends images and shapes. -/
theorem sendsImages_updateClientWindow
    (h : updateClientWindow settings checksum answers now window clientIndexMask state =
      .ok (transferData, after)) : SendsImages state after := by
  obtain ⟨shaped, hshape, h⟩ := exists_of_bind_eq_ok h
  refine (sendsImages_updateShape hshape).trans ?_
  split_ifs at h
  · exact sendsImages_updateFullWindow h
  · exact sendsImages_updateSubWindow h

end WebXController

namespace ControllerState

open WebXController (SendsImages)

variable {settings : WebXSettings} {checksum : List UInt8 → UInt32} {update : ClientUpdate}
  {state state' : ControllerState}

/-- **The updates of the windows** tell the clients nothing else. -/
theorem tells_updateClientWindows
    (h : state.updateClientWindows settings checksum update = .ok state') : Tells state state' := by
  obtain ⟨windowVisibilities, -, h⟩ := exists_of_bind_eq_ok h
  obtain ⟨after, hafter, h⟩ := exists_of_bind_eq_ok h
  cases h
  let Sends (result : Except Fault WebXController.UpdateState) : Prop :=
    ∀ after, result = .ok after → SendsImages ⟨state.display, state.sent⟩ after
  -- the handler sends images and shapes, or it fails
  have hkeeps : ∀ window clientIndexMask result, Sends result →
      Sends (update.handler settings checksum window clientIndexMask result).2 := by
    intro window clientIndexMask result hbefore after hresult
    rw [ClientUpdate.handler, WebXController.updateHandler] at hresult
    cases hcall : result >>= WebXController.updateClientWindow settings checksum
        (update.answers clientIndexMask window.id) update.now window clientIndexMask with
    | error fault =>
        rw [hcall] at hresult
        cases hresult
    | ok handled =>
        rw [hcall] at hresult
        cases hresult
        obtain ⟨before, hok, hupdate⟩ := exists_of_bind_eq_ok hcall
        exact (hbefore before hok).trans (WebXController.sendsImages_updateClientWindow hupdate)
  have hstart : Sends (.ok ⟨state.display, state.sent⟩) := fun after hok => by
    cases hok
    exact .nothing rfl
  have hsends : SendsImages ⟨state.display, state.sent⟩ after :=
    WebXClientRegistry.handleGroups_keeps update.now settings hkeeps
      (state.registry.updateVisibleWindows settings windowVisibilities update.now).groups hstart after
      hafter
  obtain ⟨messages, hsent, hall⟩ := hsends.sent
  exact ⟨hsends.visibleWindows, rfl, rfl, rfl, messages, hsent, areRight_of_others hall⟩

end ControllerState

end WebXEngine
